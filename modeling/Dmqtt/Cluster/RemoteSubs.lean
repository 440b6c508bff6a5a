/-
The subscriptions of other nodes (`internal/cluster/remote_subs.go`) and the gossip messages
that change them (`internal/cluster/gossip_broadcast.go`).

What a node records of another one is determined by the messages of that node, in their order:
`record_handleAll`.
-/
import Dmqtt.Broker.TopicMatcher
import Dmqtt.Lib.Largest
import Dmqtt.Lib.NestedMap

namespace Dmqtt.Cluster

open Lib Broker

/-- Put a QoS into a map of the largest QoS of each node. -/
def keepBest (best : GoMap Str UInt8) (nodeID : Str) (qos : UInt8) : GoMap Str UInt8 :=
  match best.lookup nodeID with
  | none => best.insert nodeID qos
  | some existing => if qos > existing then best.insert nodeID qos else best

/-- The larger of a QoS and the one that is there. -/
def better (o : Option UInt8) (qos : UInt8) : UInt8 :=
  match o with
  | none => qos
  | some existing => if qos > existing then qos else existing

lemma keepBest_eq_keepLargest (best : GoMap Str UInt8) (nodeID : Str) (qos : UInt8) :
    keepBest best nodeID qos = keepLargest best (nodeID, qos) := by
  rw [keepBest, keepLargest]
  cases best.lookup nodeID <;> rfl

variable (o : Option UInt8) (qos : UInt8) (idx : RemoteSubIndex) (topic : Str)
  (ms : List SubBroadcast) (filter nodeID : Str)

lemma better_eq_larger : better o qos = larger o qos := by
  cases o <;> rfl

lemma le_better : qos ≤ better o qos := by
  rw [better_eq_larger]
  exact le_larger o qos

lemma le_better_of_mem {o : Option UInt8} {existing : UInt8} (h : existing ∈ o) (qos : UInt8) :
    existing ≤ better o qos := by
  rw [better_eq_larger]
  exact le_larger_of_eq_some h qos

/-- A remote node with matching subscribers. -/
structure RemoteMatch where
  nodeID : Str
  maxQoS : UInt8
deriving DecidableEq

/-- For each filter the nodes with subscribers, each with its largest QoS, and for each node its
filters. -/
structure RemoteSubIndex where
  subs : GoMap Str (GoMap Str UInt8)
  nodes : GoMap Str (GoMap Str Unit)

/-- A gossip message on a subscription. -/
inductive SubChange
  | sub (qos : UInt8)
  | unsub
deriving DecidableEq

/-- The gossip message for a subscription change. -/
structure SubBroadcast where
  change : SubChange
  nodeID : Str
  topicFilter : Str
deriving DecidableEq

namespace RemoteSubIndex

variable (idx : RemoteSubIndex)

/-- An empty index. -/
def new : RemoteSubIndex := ⟨∅, ∅⟩

/-- Register a remote subscription, or raise its QoS. -/
def add (nodeID topicFilter : Str) (qos : UInt8) : RemoteSubIndex where
  subs := idx.subs.insert topicFilter
    (keepBest ((idx.subs.lookup topicFilter).getD ∅) nodeID qos)
  nodes := idx.nodes.insert nodeID (((idx.nodes.lookup nodeID).getD ∅).insert topicFilter ())

/-- Delete a key from the map that is stored under a key; a map that gets empty is deleted. -/
def deleteIn {V : Type} (m : GoMap Str (GoMap Str V)) (outer inner : Str) :
    GoMap Str (GoMap Str V) :=
  match m.lookup outer with
  | none => m
  | some sub =>
    let sub := sub.erase inner
    if sub.entries = [] then m.erase outer else m.insert outer sub

/-- Remove the subscription of a node. -/
def remove (nodeID topicFilter : Str) : RemoteSubIndex where
  subs := deleteIn idx.subs topicFilter nodeID
  nodes := deleteIn idx.nodes nodeID topicFilter

/-- The body of the loop of `Match` over the filters. -/
def bestOf (topic : Str) (best : GoMap Str UInt8) (f : Sigma fun _ : Str => GoMap Str UInt8) :
    GoMap Str UInt8 :=
  if topicMatch f.1 topic then f.2.entries.foldl (fun best e => keepBest best e.1 e.2) best
  else best

/-- The nodes with subscribers for a topic, each once with the largest QoS of its matching
filters.  The package has its own copy of the matcher. -/
def matchTopic (topic : Str) : List RemoteMatch :=
  (idx.subs.entries.foldl (bestOf topic) ∅).entries.map fun e => ⟨e.1, e.2⟩

/-- Where `routeMessage` forwards a message that was published here, and at which QoS. -/
def forwards (topic : Str) (qos : UInt8) : List (Str × UInt8) :=
  (idx.matchTopic topic).map fun rm => (rm.nodeID, if rm.maxQoS < qos then rm.maxQoS else qos)

/-- Process an incoming subscription broadcast. -/
def handleSubBroadcast (msg : SubBroadcast) : RemoteSubIndex :=
  match msg.change with
  | .sub qos => idx.add msg.nodeID msg.topicFilter qos
  | .unsub => idx.remove msg.nodeID msg.topicFilter

/-- The QoS recorded for a node under a filter. -/
def record (filter nodeID : Str) : Option UInt8 :=
  (idx.subs.lookup filter).bind fun nodeMap => nodeMap.lookup nodeID

/-! ### Records -/

lemma record_eq_lookup_getD (filter nodeID : Str) :
    idx.record filter nodeID = ((idx.subs.lookup filter).getD ∅).lookup nodeID :=
  NestedMap.get_eq_getD idx.subs filter nodeID

lemma record_add (nodeID filter : Str) (qos : UInt8) (filter' nodeID' : Str) :
    (idx.add nodeID filter qos).record filter' nodeID' =
      if filter' = filter ∧ nodeID' = nodeID then some (better (idx.record filter nodeID) qos)
      else idx.record filter' nodeID' := by
  simp only [record_eq_lookup_getD, add]
  by_cases hf : filter' = filter
  · subst hf
    rw [AList.lookup_insert, Option.getD_some, keepBest_eq_keepLargest, lookup_keepLargest,
      better_eq_larger]
    simp
  · rw [AList.lookup_insert_ne hf, if_neg fun h => hf h.1]

lemma deleteIn_eq_delete {V : Type} (m : GoMap Str (GoMap Str V)) (outer inner : Str) :
    deleteIn m outer inner = NestedMap.delete m outer inner := by
  rw [deleteIn, NestedMap.delete]
  cases m.lookup outer <;> rfl

lemma record_remove (nodeID filter filter' nodeID' : Str) :
    (idx.remove nodeID filter).record filter' nodeID' =
      if filter' = filter ∧ nodeID' = nodeID then none else idx.record filter' nodeID' := by
  change NestedMap.get (deleteIn idx.subs filter nodeID) filter' nodeID' = _
  rw [deleteIn_eq_delete]
  exact NestedMap.get_delete idx.subs filter nodeID filter' nodeID'

end RemoteSubIndex

/-! ### What a node has told the others -/

/-- The QoS a node advertises for a filter, after one more message of it. -/
def advertise (filter : Str) (o : Option UInt8) (msg : SubBroadcast) : Option UInt8 :=
  if msg.topicFilter = filter then
    match msg.change with
    | .sub qos => some (better o qos)
    | .unsub => none
  else o

/-- The QoS a node advertises for a filter by its messages. -/
def advertised (ms : List SubBroadcast) (filter : Str) : Option UInt8 :=
  ms.foldl (advertise filter) none

lemma advertised_append_sub (filter : Str) (qos : UInt8) (filter' : Str) :
    advertised (ms ++ [⟨.sub qos, nodeID, filter⟩]) filter' =
      if filter = filter' then some (better (advertised ms filter') qos)
      else advertised ms filter' := by
  rw [advertised, List.foldl_append]
  rfl

lemma advertised_append_unsub (filter filter' : Str) :
    advertised (ms ++ [⟨.unsub, nodeID, filter⟩]) filter' =
      if filter = filter' then none else advertised ms filter' := by
  rw [advertised, List.foldl_append]
  rfl

/-- What is recorded for a node is what it advertises, whatever other nodes send in between. -/
lemma record_foldl_handleSubBroadcast :
    (ms.foldl RemoteSubIndex.handleSubBroadcast idx).record filter nodeID =
      (ms.filter fun m => m.nodeID = nodeID).foldl (advertise filter)
        (idx.record filter nodeID) := by
  induction ms generalizing idx with
  | nil => rfl
  | cons m ms ih =>
    have hstep : (idx.handleSubBroadcast m).record filter nodeID =
        if m.nodeID = nodeID then advertise filter (idx.record filter nodeID) m
        else idx.record filter nodeID := by
      rw [RemoteSubIndex.handleSubBroadcast, advertise]
      obtain ⟨change, node, f⟩ := m
      cases change with
      | sub qos =>
        rw [RemoteSubIndex.record_add]
        by_cases hn : node = nodeID
        · subst hn
          by_cases hf : f = filter
          · subst hf
            simp
          · simp [hf, Ne.symm hf]
        · simp [hn, Ne.symm hn]
      | unsub =>
        rw [RemoteSubIndex.record_remove]
        by_cases hn : node = nodeID
        · subst hn
          by_cases hf : f = filter
          · subst hf
            simp
          · simp [hf, Ne.symm hf]
        · simp [hn, Ne.symm hn]
    rw [List.foldl_cons, ih, hstep, List.filter_cons]
    split_ifs <;> simp_all

lemma record_handleAll :
    (ms.foldl RemoteSubIndex.handleSubBroadcast .new).record filter nodeID =
      advertised (ms.filter fun m => m.nodeID = nodeID) filter :=
  record_foldl_handleSubBroadcast .new ms filter nodeID

/-! ### Forwarding -/

open RemoteSubIndex

/-- The pairs of node and QoS that `Match` takes from a filter. -/
def pairsOf (topic : Str) (f : Sigma fun _ : Str => GoMap Str UInt8) : Set (Str × UInt8) :=
  {x | topicMatch f.1 topic = true ∧ f.2.lookup x.1 = some x.2}

lemma largestOf_bestOf {S : Set (Str × UInt8)} {best : GoMap Str UInt8} (h : LargestOf S best)
    (f : Sigma fun _ : Str => GoMap Str UInt8) :
    LargestOf (S ∪ pairsOf topic f) (bestOf topic best f) := by
  rw [bestOf]
  split_ifs with hm
  · have hset : pairsOf topic f =
        {x | ∃ e ∈ f.2.entries, x ∈ ({(e.1, e.2)} : Set (Str × UInt8))} := by
      ext x
      constructor
      · rintro ⟨-, hx⟩
        exact ⟨⟨x.1, x.2⟩, AList.mem_lookup_iff.1 hx, rfl⟩
      · rintro ⟨e, he, rfl⟩
        exact ⟨hm, AList.mem_lookup_iff.2 he⟩
    rw [hset]
    refine LargestOf.foldl (fun {S best} e h => ?_) h _
    rw [Set.union_singleton, keepBest_eq_keepLargest]
    exact h.keepLargest (e.1, e.2)
  · have hset : pairsOf topic f = ∅ := by
      ext x
      exact iff_of_false (fun hx => hm hx.1) (Set.notMem_empty x)
    rwa [hset, Set.union_empty]

/-- `Match` keeps the largest QoS of each node under the filters that match. -/
lemma largestOf_matchTopic :
    LargestOf {x | ∃ filter, topicMatch filter topic = true ∧ idx.record filter x.1 = some x.2}
      (idx.subs.entries.foldl (bestOf topic) ∅) := by
  have hbest := LargestOf.foldl (fun f h => largestOf_bestOf topic h f) LargestOf.empty
    idx.subs.entries
  have hset : ∅ ∪ {x | ∃ f ∈ idx.subs.entries, x ∈ pairsOf topic f} =
      {x | ∃ filter, topicMatch filter topic = true ∧ idx.record filter x.1 = some x.2} := by
    ext x
    rw [Set.empty_union]
    constructor
    · rintro ⟨⟨filter, nodeMap⟩, hf, hm, hx⟩
      exact ⟨filter, hm, (NestedMap.get_of_lookup (AList.mem_lookup_iff.2 hf) x.1).trans hx⟩
    · rintro ⟨filter, hm, hx⟩
      obtain ⟨nodeMap, hl, hq⟩ := Option.bind_eq_some_iff.1 hx
      exact ⟨⟨filter, nodeMap⟩, AList.mem_lookup_iff.1 hl, hm, hq⟩
  rwa [hset] at hbest

lemma mem_matchTopic_iff {idx : RemoteSubIndex} {topic nodeID : Str} {qos : UInt8} :
    ⟨nodeID, qos⟩ ∈ idx.matchTopic topic ↔
      (idx.subs.entries.foldl (bestOf topic) ∅).lookup nodeID = some qos := by
  rw [RemoteSubIndex.matchTopic, List.mem_map, ← Option.mem_def, AList.mem_lookup_iff]
  constructor
  · rintro ⟨e, he, heq⟩
    cases heq
    exact he
  · exact fun h => ⟨⟨nodeID, qos⟩, h, rfl⟩

/-- A node that is recorded under a filter is among the matches of the topics that the filter
matches, with at least the recorded QoS. -/
lemma exists_mem_matchTopic {idx : RemoteSubIndex} {filter nodeID topic : Str} {qos : UInt8}
    (h : idx.record filter nodeID = some qos) (hm : topicMatch filter topic = true) :
    ∃ m ∈ idx.matchTopic topic, m.nodeID = nodeID ∧ qos ≤ m.maxQoS := by
  have hbest := largestOf_matchTopic idx topic
  have hpair : (nodeID, qos) ∈
      {x | ∃ filter, topicMatch filter topic = true ∧ idx.record filter x.1 = some x.2} :=
    ⟨filter, hm, h⟩
  obtain ⟨q, hlookup⟩ := hbest.total hpair
  exact ⟨⟨nodeID, q⟩, mem_matchTopic_iff.2 hlookup, rfl, (hbest.isGreatest hlookup).2 hpair⟩

/-- A message on such a topic is forwarded to the node, at the QoS of the message or at least
the recorded one. -/
lemma exists_mem_forwards {idx : RemoteSubIndex} {filter nodeID topic : Str} {qos : UInt8}
    (h : idx.record filter nodeID = some qos) (hm : topicMatch filter topic = true)
    (qos' : UInt8) :
    ∃ q, (nodeID, q) ∈ idx.forwards topic qos' ∧ (q = qos' ∨ qos ≤ q) := by
  obtain ⟨m, hmem, rfl, hle⟩ := exists_mem_matchTopic h hm
  refine ⟨_, List.mem_map.2 ⟨m, hmem, rfl⟩, ?_⟩
  split_ifs
  · exact Or.inr hle
  · exact Or.inl rfl

end Dmqtt.Cluster
