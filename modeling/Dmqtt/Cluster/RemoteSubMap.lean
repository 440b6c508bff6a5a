/-
The subscriptions of other nodes as a map (`internal/cluster/remote_subs.go`).

The index has the nodes of each filter with their QoS, and the filters of each node.  What happens
to the pair of a filter and a node depends on the events for this pair only (`effect`), and the
index shows the outcome (`record_run`): so what is said about a single pair holds for the index,
whatever the other events are.  `remoteSubIndex_refines` collects it.
-/
import Dmqtt.Cluster.RemoteSubs
import Dmqtt.Lib.Trace
import Dmqtt.Matching

namespace Dmqtt.Cluster

open Lib

/-! ### Events -/

/-- What changes the index: a broadcast that is handled, and a node that leaves. -/
inductive SubEvent
  | broadcast (msg : SubBroadcast)
  | removeNode (nodeID : Str)
deriving DecidableEq

namespace SubEvent

/-- The event is about the pair. -/
def Concerns (filter nodeID : Str) : SubEvent → Prop
  | broadcast msg => filter = msg.topicFilter ∧ nodeID = msg.nodeID
  | removeNode n => nodeID = n

/-- The event is a `sub` broadcast for the pair. -/
def Subscribes (filter nodeID : Str) (e : SubEvent) : Prop :=
  ∃ qos, e = broadcast ⟨.sub qos, nodeID, filter⟩

/-- The event is an `unsub` broadcast for the pair, or removes its node. -/
def Clears (filter nodeID : Str) (e : SubEvent) : Prop :=
  e = broadcast ⟨.unsub, nodeID, filter⟩ ∨ e = removeNode nodeID

/-- The event is of the opposite kind, for the pair of the broadcast. -/
def Opposes (msg : SubBroadcast) (e : SubEvent) : Prop :=
  match msg.change with
  | .sub _ => Clears msg.topicFilter msg.nodeID e
  | .unsub => Subscribes msg.topicFilter msg.nodeID e

/-- The QoS of the subscriptions to the pair since it was cleared for the last time. -/
def subsSince (filter nodeID : Str) (events : List SubEvent) : Set UInt8 :=
  {qos | Since (fun e => e = broadcast ⟨.sub qos, nodeID, filter⟩)
    (fun e => ¬ Clears filter nodeID e) events}

/-- What an event does to the QoS of a pair. -/
def effect (filter nodeID : Str) (o : Option UInt8) : SubEvent → Option UInt8
  | broadcast msg =>
    if filter = msg.topicFilter ∧ nodeID = msg.nodeID then
      match msg.change with
      | .sub qos => some (better o qos)
      | .unsub => none
    else o
  | removeNode n => if nodeID = n then none else o

variable {filter nodeID : Str} {o : Option UInt8} {e : SubEvent}

lemma effect_sub (filter nodeID : Str) (o : Option UInt8) (qos : UInt8) :
    effect filter nodeID o (broadcast ⟨.sub qos, nodeID, filter⟩) = some (better o qos) :=
  if_pos ⟨rfl, rfl⟩

lemma effect_of_clears (h : e.Clears filter nodeID) : effect filter nodeID o e = none := by
  rcases h with rfl | rfl
  · exact if_pos ⟨rfl, rfl⟩
  · exact if_pos rfl

lemma effect_of_not_concerns (h : ¬ e.Concerns filter nodeID) : effect filter nodeID o e = o := by
  cases e with
  | broadcast msg | removeNode n => exact if_neg h

lemma cases_pair (filter nodeID : Str) (e : SubEvent) :
    ¬ e.Concerns filter nodeID ∨ e.Subscribes filter nodeID ∨ e.Clears filter nodeID := by
  cases e with
  | broadcast msg =>
    obtain ⟨change, n, f⟩ := msg
    by_cases hpair : filter = f ∧ nodeID = n
    · obtain ⟨rfl, rfl⟩ := hpair
      cases change with
      | sub qos => exact Or.inr (Or.inl ⟨qos, rfl⟩)
      | unsub => exact Or.inr (Or.inr (Or.inl rfl))
    · exact Or.inl hpair
  | removeNode n =>
    by_cases hn : nodeID = n
    · exact Or.inr (Or.inr (Or.inr (by rw [hn])))
    · exact Or.inl hn

lemma Subscribes.concerns (h : e.Subscribes filter nodeID) : e.Concerns filter nodeID := by
  obtain ⟨qos, rfl⟩ := h
  exact ⟨rfl, rfl⟩

lemma Clears.concerns (h : e.Clears filter nodeID) : e.Concerns filter nodeID := by
  rcases h with rfl | rfl
  · exact ⟨rfl, rfl⟩
  · rfl

lemma Subscribes.not_clears (h : e.Subscribes filter nodeID) : ¬ e.Clears filter nodeID := by
  obtain ⟨qos, rfl⟩ := h
  rintro (heq | heq) <;> cases heq

/-! ### One pair -/

lemma isSome_foldl_effect (filter nodeID : Str) (events : List SubEvent) :
    (events.foldl (effect filter nodeID) none).isSome ↔
      Since (Subscribes filter nodeID) (fun e => ¬ e.Concerns filter nodeID) events := by
  induction events using List.reverseRecOn with
  | nil => exact iff_of_false (by simp) (not_since_nil _ _)
  | append_singleton events e ih =>
    rw [List.foldl_append, List.foldl_cons, List.foldl_nil, since_concat]
    rcases cases_pair filter nodeID e with he | he | he
    · rw [effect_of_not_concerns he, ih, or_iff_right fun hs => he hs.concerns, and_iff_right he]
    · obtain ⟨qos, rfl⟩ := he
      rw [effect_sub]
      exact iff_of_true rfl (Or.inl ⟨qos, rfl⟩)
    · rw [effect_of_clears he]
      exact iff_of_false (by simp) fun h =>
        h.elim (fun hs => hs.not_clears he) fun hs => hs.1 he.concerns

lemma isLargest_foldl_effect (filter nodeID : Str) (events : List SubEvent) :
    IsLargest (subsSince filter nodeID events) (events.foldl (effect filter nodeID) none) := by
  induction events using List.reverseRecOn with
  | nil => exact Set.eq_empty_iff_forall_notMem.2 fun qos => not_since_nil _ _
  | append_singleton events e ih =>
    have hmem : ∀ qos, qos ∈ subsSince filter nodeID (events ++ [e]) ↔
        e = broadcast ⟨.sub qos, nodeID, filter⟩ ∨
          ¬ e.Clears filter nodeID ∧ qos ∈ subsSince filter nodeID events :=
      fun qos => since_concat _ _ events e
    rw [List.foldl_append, List.foldl_cons, List.foldl_nil]
    rcases cases_pair filter nodeID e with he | he | he
    · have hset : subsSince filter nodeID (events ++ [e]) = subsSince filter nodeID events := by
        ext qos
        rw [hmem, or_iff_right fun hs => he (Subscribes.concerns ⟨qos, hs⟩),
          and_iff_right fun hc => he hc.concerns]
      rw [effect_of_not_concerns he, hset]
      exact ih
    · have hclear := he.not_clears
      obtain ⟨qos, rfl⟩ := he
      have hset : subsSince filter nodeID (events ++ [broadcast ⟨.sub qos, nodeID, filter⟩]) =
          Set.insert qos (subsSince filter nodeID events) := by
        ext qos'
        rw [hmem, and_iff_right hclear]
        refine or_congr_left ⟨fun heq => ?_, ?_⟩
        · cases heq
          rfl
        · rintro rfl
          rfl
      rw [effect_sub, hset, better_eq_larger]
      exact ih.insert qos
    · rw [effect_of_clears he]
      refine Set.eq_empty_iff_forall_notMem.2 fun qos hq => ?_
      rcases (hmem qos).1 hq with hs | hs
      · exact Subscribes.not_clears ⟨qos, hs⟩ he
      · exact hs.1 he

/-- The QoS of a pair does not go down until the pair is cleared. -/
lemma exists_foldl_effect_of_not_clears {qos v : UInt8} (hle : qos ≤ v) {events : List SubEvent}
    (h : ∀ e ∈ events, ¬ e.Clears filter nodeID) :
    ∃ q, events.foldl (effect filter nodeID) (some v) = some q ∧ qos ≤ q := by
  induction events generalizing v with
  | nil => exact ⟨v, rfl, hle⟩
  | cons e events ih =>
    obtain ⟨he, hevents⟩ := List.forall_mem_cons.1 h
    rw [List.foldl_cons]
    rcases cases_pair filter nodeID e with hc | hc | hc
    · rw [effect_of_not_concerns hc]
      exact ih hle hevents
    · obtain ⟨qos', rfl⟩ := hc
      rw [effect_sub]
      exact ih (UInt8.le_trans hle (le_better_of_mem rfl qos')) hevents
    · exact absurd hc he

/-- A pair that is absent stays so until somebody subscribes to it. -/
lemma foldl_effect_of_not_subscribes {events : List SubEvent}
    (h : ∀ e ∈ events, ¬ e.Subscribes filter nodeID) :
    events.foldl (effect filter nodeID) none = none := by
  induction events with
  | nil => rfl
  | cons e events ih =>
    obtain ⟨he, hevents⟩ := List.forall_mem_cons.1 h
    rw [List.foldl_cons]
    rcases cases_pair filter nodeID e with hc | hc | hc
    · rw [effect_of_not_concerns hc]
      exact ih hevents
    · exact absurd hc he
    · rw [effect_of_clears hc]
      exact ih hevents

/-- A broadcast that is repeated changes nothing, unless an event of the opposite kind came in
between. -/
lemma effect_repeat {msg : SubBroadcast} {between : List SubEvent}
    (h : ∀ e ∈ between, ¬ e.Opposes msg) (filter nodeID : Str) (o : Option UInt8) :
    effect filter nodeID (between.foldl (effect filter nodeID)
        (effect filter nodeID o (broadcast msg))) (broadcast msg) =
      between.foldl (effect filter nodeID) (effect filter nodeID o (broadcast msg)) := by
  by_cases hpair : (broadcast msg).Concerns filter nodeID
  · obtain ⟨change, n, f⟩ := msg
    obtain ⟨rfl, rfl⟩ := hpair
    cases change with
    | sub qos =>
      have hclear : ∀ e ∈ between, ¬ e.Clears filter nodeID := h
      obtain ⟨q, hq, hle⟩ := exists_foldl_effect_of_not_clears (le_better o qos) hclear
      rw [effect_sub filter nodeID o, hq, effect_sub, better, if_neg (UInt8.not_lt.2 hle)]
    | unsub =>
      have hsub : ∀ e ∈ between, ¬ e.Subscribes filter nodeID := h
      rw [effect_of_clears (Or.inl rfl), effect_of_clears (Or.inl rfl),
        foldl_effect_of_not_subscribes hsub]
  · exact effect_of_not_concerns hpair

/-- Events that are not both about the pair commute. -/
lemma effect_comm {e e' : SubEvent} (h : ¬ (e.Concerns filter nodeID ∧ e'.Concerns filter nodeID))
    (o : Option UInt8) :
    effect filter nodeID (effect filter nodeID o e) e' =
      effect filter nodeID (effect filter nodeID o e') e := by
  rcases not_and_or.1 h with he | he <;>
    rw [effect_of_not_concerns he, effect_of_not_concerns he]

end SubEvent

/-! ### The index -/

namespace RemoteSubIndex

open SubEvent

/-- Remove all subscriptions of a node. -/
def removeNode (idx : RemoteSubIndex) (nodeID : Str) : RemoteSubIndex :=
  match idx.nodes.lookup nodeID with
  | none => idx
  | some filters =>
    { subs := filters.keys.foldl (fun subs filter => deleteIn subs filter nodeID) idx.subs
      nodes := idx.nodes.erase nodeID }

/-- Handle an event. -/
def apply (idx : RemoteSubIndex) : SubEvent → RemoteSubIndex
  | .broadcast msg => idx.handleSubBroadcast msg
  | .removeNode nodeID => idx.removeNode nodeID

/-- The index after a sequence of events. -/
def run (events : List SubEvent) : RemoteSubIndex := events.foldl apply new

/-- The indexes have the same maps. -/
structure Same (idx idx' : RemoteSubIndex) : Prop where
  subs : NestedMap.Same idx.subs idx'.subs
  nodes : NestedMap.Same idx.nodes idx'.nodes

/-- The two maps of the index have the same pairs, and no empty entries. -/
structure Mirrored (idx : RemoteSubIndex) : Prop where
  nodes_iff : ∀ {filter nodeID},
    (NestedMap.get idx.nodes nodeID filter).isSome ↔ (idx.record filter nodeID).isSome
  subs_noEmpty : NestedMap.NoEmpty idx.subs
  nodes_noEmpty : NestedMap.NoEmpty idx.nodes

variable {idx idx' : RemoteSubIndex}

lemma mirrored_new : Mirrored new where
  nodes_iff := by simp [new, record, NestedMap.get_empty]
  subs_noEmpty := NestedMap.noEmpty_empty
  nodes_noEmpty := NestedMap.noEmpty_empty

/-- What is recorded determines the index. -/
lemma Mirrored.same (h : idx.Mirrored) (h' : idx'.Mirrored)
    (hrecord : ∀ filter nodeID, idx.record filter nodeID = idx'.record filter nodeID) :
    Same idx idx' where
  subs := h.subs_noEmpty.same h'.subs_noEmpty hrecord
  nodes := by
    refine h.nodes_noEmpty.same h'.nodes_noEmpty fun nodeID filter => ?_
    have hiff : (NestedMap.get idx.nodes nodeID filter).isSome ↔
        (NestedMap.get idx'.nodes nodeID filter).isSome := by
      rw [h.nodes_iff, h'.nodes_iff, hrecord]
    have hunit : ∀ a b : Option Unit, (a.isSome ↔ b.isSome) → a = b := by decide
    exact hunit _ _ hiff

lemma Mirrored.add (h : idx.Mirrored) (nodeID filter : Str) (qos : UInt8) :
    (idx.add nodeID filter qos).Mirrored where
  nodes_iff {f n} := by
    have hput : (idx.add nodeID filter qos).nodes = NestedMap.put idx.nodes nodeID filter () := rfl
    rw [hput, NestedMap.get_put, record_add]
    by_cases hpair : f = filter ∧ n = nodeID
    · simp [hpair]
    · rw [if_neg hpair, if_neg fun heq => hpair ⟨heq.2, heq.1⟩]
      exact h.nodes_iff
  subs_noEmpty := by
    refine h.subs_noEmpty.insert filter ?_
    rw [keepBest_eq_keepLargest]
    have hl := lookup_keepLargest ((idx.subs.lookup filter).getD ∅) (nodeID, qos) nodeID
    rw [if_pos rfl] at hl
    exact List.ne_nil_of_mem (AList.mem_lookup_iff.1 hl)
  nodes_noEmpty := h.nodes_noEmpty.put nodeID filter ()

lemma remove_eq (idx : RemoteSubIndex) (nodeID filter : Str) :
    idx.remove nodeID filter =
      ⟨NestedMap.delete idx.subs filter nodeID, NestedMap.delete idx.nodes nodeID filter⟩ := by
  rw [remove, deleteIn_eq_delete, deleteIn_eq_delete]

lemma Mirrored.remove (h : idx.Mirrored) (nodeID filter : Str) :
    (idx.remove nodeID filter).Mirrored where
  nodes_iff {f n} := by
    rw [record_remove, remove_eq, NestedMap.get_delete]
    by_cases hpair : f = filter ∧ n = nodeID
    · simp [hpair]
    · rw [if_neg hpair, if_neg fun heq => hpair ⟨heq.2, heq.1⟩]
      exact h.nodes_iff
  subs_noEmpty := by
    rw [remove_eq]
    exact h.subs_noEmpty.delete filter nodeID
  nodes_noEmpty := by
    rw [remove_eq]
    exact h.nodes_noEmpty.delete nodeID filter

lemma removeNode_eq (idx : RemoteSubIndex) (nodeID : Str) :
    idx.removeNode nodeID =
      ⟨((idx.nodes.lookup nodeID).getD ∅).keys.foldl
        (fun subs filter => NestedMap.delete subs filter nodeID) idx.subs,
        idx.nodes.erase nodeID⟩ := by
  rw [removeNode]
  cases hl : idx.nodes.lookup nodeID with
  | none => exact congrArg (RemoteSubIndex.mk idx.subs) (GoMap.erase_of_lookup_eq_none hl).symm
  | some filters =>
    simp only [deleteIn_eq_delete]
    rfl

/-- The loop of `RemoveNode` over the filters of the node. -/
lemma get_foldl_delete (subs : GoMap Str (GoMap Str UInt8)) (filters : List Str)
    (nodeID f n : Str) :
    NestedMap.get (filters.foldl (fun subs filter => NestedMap.delete subs filter nodeID) subs)
        f n = if f ∈ filters ∧ n = nodeID then none else NestedMap.get subs f n := by
  induction filters generalizing subs with
  | nil => simp
  | cons filter filters ih =>
    rw [List.foldl_cons, ih, NestedMap.get_delete]
    by_cases hn : n = nodeID
    · by_cases hf : f = filter
      · simp [hn, hf]
      · simp [hn, hf]
    · simp [hn]

lemma Mirrored.record_removeNode (h : idx.Mirrored) (nodeID f n : Str) :
    (idx.removeNode nodeID).record f n = if n = nodeID then none else idx.record f n := by
  rw [removeNode_eq]
  refine (get_foldl_delete idx.subs _ nodeID f n).trans ?_
  by_cases hn : n = nodeID
  · subst hn
    rw [if_pos rfl]
    split_ifs with hf
    · rfl
    · -- the node has no subscription under other filters
      change idx.record f n = none
      rw [← Option.not_isSome_iff_eq_none, ← h.nodes_iff, NestedMap.get_eq_getD,
        AList.lookup_isSome]
      exact fun hmem => hf ⟨hmem, rfl⟩
  · rw [if_neg fun heq => hn heq.2, if_neg hn]
    rfl

lemma noEmpty_foldl_delete {subs : GoMap Str (GoMap Str UInt8)} (h : NestedMap.NoEmpty subs)
    (filters : List Str) (nodeID : Str) :
    NestedMap.NoEmpty
      (filters.foldl (fun subs filter => NestedMap.delete subs filter nodeID) subs) := by
  induction filters generalizing subs with
  | nil => exact h
  | cons filter filters ih => exact ih (h.delete filter nodeID)

lemma Mirrored.removeNode (h : idx.Mirrored) (nodeID : Str) : (idx.removeNode nodeID).Mirrored where
  nodes_iff {f n} := by
    rw [h.record_removeNode, removeNode_eq, NestedMap.get_erase]
    split_ifs
    · simp
    · exact h.nodes_iff
  subs_noEmpty := by
    rw [removeNode_eq]
    exact noEmpty_foldl_delete h.subs_noEmpty _ _
  nodes_noEmpty := by
    rw [removeNode_eq]
    exact h.nodes_noEmpty.erase nodeID

/-- One event: the maps stay mirror images, and each pair changes as it would alone. -/
lemma Mirrored.apply (h : idx.Mirrored) (e : SubEvent) :
    (idx.apply e).Mirrored ∧
      ∀ f n, (idx.apply e).record f n = effect f n (idx.record f n) e := by
  cases e with
  | broadcast msg =>
    obtain ⟨change, nodeID, filter⟩ := msg
    cases change with
    | sub qos =>
      refine ⟨h.add nodeID filter qos, fun f n => (idx.record_add ..).trans ?_⟩
      rw [effect]
      split_ifs with hpair
      · rw [hpair.1, hpair.2]
      · rfl
    | unsub =>
      exact ⟨h.remove nodeID filter, fun f n => idx.record_remove ..⟩
  | removeNode nodeID =>
    exact ⟨h.removeNode nodeID, fun f n => h.record_removeNode ..⟩

lemma run_spec (events : List SubEvent) :
    (run events).Mirrored ∧
      ∀ f n, (run events).record f n = events.foldl (effect f n) none := by
  induction events using List.reverseRecOn with
  | nil => exact ⟨mirrored_new, fun f n => rfl⟩
  | append_singleton events e ih =>
    obtain ⟨hnext, hrecord⟩ := ih.1.apply e
    rw [run, List.foldl_append]
    refine ⟨hnext, fun f n => ?_⟩
    rw [List.foldl_append, List.foldl_cons, List.foldl_nil, ← ih.2]
    exact hrecord f n

/-- Runs that do the same to each pair lead to the same index. -/
lemma run_same {events events' : List SubEvent}
    (h : ∀ f n, events.foldl (effect f n) none = events'.foldl (effect f n) none) :
    Same (run events) (run events') :=
  (run_spec events).1.same (run_spec events').1 fun f n => by
    rw [(run_spec events).2, (run_spec events').2, h]

/-! ### Refinement -/

/-- The index shows the outcome of the events. -/
structure Shows (idx : RemoteSubIndex) (events : List SubEvent) : Prop where
  /-- a pair is present if the last event about it is a `sub` -/
  present_iff : ∀ filter nodeID, (idx.record filter nodeID).isSome ↔
    Since (Subscribes filter nodeID) (fun e => ¬ e.Concerns filter nodeID) events
  /-- its QoS is the largest one since it was cleared -/
  isGreatest_record : ∀ filter nodeID qos, idx.record filter nodeID = some qos →
    IsGreatest (subsSince filter nodeID events) qos
  /-- the two maps have the same pairs -/
  mirror : ∀ filter nodeID,
    (∃ nodeMap, idx.subs.lookup filter = some nodeMap ∧ nodeID ∈ nodeMap) ↔
      ∃ filters, idx.nodes.lookup nodeID = some filters ∧ filter ∈ filters
  subs_nonempty : ∀ filter nodeMap, idx.subs.lookup filter = some nodeMap → nodeMap.entries ≠ []
  nodes_nonempty : ∀ nodeID filters, idx.nodes.lookup nodeID = some filters → filters.entries ≠ []
  nodup_matchTopic : ∀ topic, ((idx.matchTopic topic).map RemoteMatch.nodeID).Nodup
  /-- the matched nodes are those with a matching filter -/
  exists_mem_matchTopic : ∀ topic nodeID, (∃ qos, ⟨nodeID, qos⟩ ∈ idx.matchTopic topic) ↔
    ∃ filter, RemoteSubs.topicMatch filter topic = true ∧ (idx.record filter nodeID).isSome
  /-- the QoS of a matched node is the largest one of its matching filters -/
  isGreatest_matchTopic : ∀ topic nodeID qos, ⟨nodeID, qos⟩ ∈ idx.matchTopic topic →
    IsGreatest {q | ∃ filter, RemoteSubs.topicMatch filter topic = true ∧
      idx.record filter nodeID = some q} qos

lemma shows_run (events : List SubEvent) : Shows (run events) events := by
  obtain ⟨hmirrored, hrecord⟩ := run_spec events
  have hmatch : ∀ filter topic,
      RemoteSubs.topicMatch filter topic = Broker.topicMatch filter topic :=
    fun filter topic => matchIndexed_eq filter topic
  refine
    { present_iff := fun filter nodeID => ?_
      isGreatest_record := fun filter nodeID qos hq => ?_
      mirror := fun filter nodeID => ?_
      subs_nonempty := hmirrored.subs_noEmpty
      nodes_nonempty := hmirrored.nodes_noEmpty
      nodup_matchTopic := fun topic => ?_
      exists_mem_matchTopic := fun topic nodeID => ?_
      isGreatest_matchTopic := fun topic nodeID qos hq => ?_ }
  · rw [hrecord]
    exact isSome_foldl_effect filter nodeID events
  · have hlargest := isLargest_foldl_effect filter nodeID events
    rwa [← hrecord, hq] at hlargest
  · rw [← NestedMap.isSome_get_iff, ← NestedMap.isSome_get_iff]
    exact hmirrored.nodes_iff.symm
  · rw [matchTopic, List.map_map]
    exact (List.foldl (bestOf topic) ∅ (run events).subs.entries).nodupKeys
  · simp only [mem_matchTopic_iff, hmatch]
    constructor
    · rintro ⟨qos, hq⟩
      obtain ⟨filter, hm, hf⟩ := ((largestOf_matchTopic (run events) topic).isGreatest hq).1
      exact ⟨filter, hm, Option.isSome_iff_exists.2 ⟨qos, hf⟩⟩
    · rintro ⟨filter, hm, hf⟩
      obtain ⟨qos, hq⟩ := Option.isSome_iff_exists.1 hf
      exact (largestOf_matchTopic (run events) topic).total ⟨filter, hm, hq⟩
  · simp only [hmatch]
    exact (largestOf_matchTopic (run events) topic).isGreatest (mem_matchTopic_iff.1 hq)

/-- **The index refines a map from filters and nodes to QoS.**  After any events it shows their
outcome.  A broadcast that is repeated changes nothing, unless an event of the opposite kind for its
pair came in between, and events that are about different pairs commute. -/
theorem remoteSubIndex_refines :
    (∀ events, Shows (run events) events) ∧
    (∀ before msg between after, (∀ e ∈ between, ¬ SubEvent.Opposes msg e) →
      Same (run (before ++ .broadcast msg :: (between ++ .broadcast msg :: after)))
        (run (before ++ .broadcast msg :: (between ++ after)))) ∧
    ∀ before e e' after, (∀ filter nodeID, ¬ (e.Concerns filter nodeID ∧
        e'.Concerns filter nodeID)) →
      Same (run (before ++ e :: e' :: after)) (run (before ++ e' :: e :: after)) := by
  refine ⟨shows_run, fun before msg between after h => run_same fun f n => ?_,
    fun before e e' after h => run_same fun f n => ?_⟩
  · simp only [List.foldl_append, List.foldl_cons]
    rw [effect_repeat h]
  · simp only [List.foldl_append, List.foldl_cons]
    rw [effect_comm (h f n)]

end RemoteSubIndex

end Dmqtt.Cluster
