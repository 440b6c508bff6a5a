/-
The subscription index (`internal/broker/subscription.go`).

The index keeps two maps: the subscribers of each filter, and the filters of each client.
`Subscribed` reads the first map, which is the one that `Match` uses.
-/
import Dmqtt.Broker.TopicMatcher
import Dmqtt.Lib.Largest

namespace Dmqtt.Broker

open Lib

/-- A subscriber of a filter. -/
structure SubscriptionEntry where
  clientID : Str
  qos : UInt8
deriving DecidableEq

/-- A matched subscriber for a topic. -/
structure SubscriptionMatch where
  clientID : Str
  qos : UInt8
deriving DecidableEq

/-- The subscribers of each filter and the filters of each client. -/
structure SubscriptionIndex where
  filters : GoMap Str (List SubscriptionEntry)
  clients : GoMap Str (GoMap Str Unit)

/-- Change the QoS of the first entry of a client. -/
def setQoS (clientID : Str) (qos : UInt8) : List SubscriptionEntry → List SubscriptionEntry
  | [] => []
  | e :: es =>
    if e.clientID = clientID then { e with qos := qos } :: es else e :: setQoS clientID qos es

namespace SubscriptionIndex

/-- An index without subscriptions. -/
def new : SubscriptionIndex := ⟨∅, ∅⟩

/-- The entries of a filter. -/
def entries (idx : SubscriptionIndex) (filter : Str) : List SubscriptionEntry :=
  (idx.filters.lookup filter).getD []

/-- Add a subscription, or change the QoS of the one that is there. -/
def add (idx : SubscriptionIndex) (clientID filter : Str) (qos : UInt8) : SubscriptionIndex :=
  let entries := idx.entries filter
  if entries.any fun e => e.clientID = clientID then
    { idx with filters := idx.filters.insert filter (setQoS clientID qos entries) }
  else
    { filters := idx.filters.insert filter (entries ++ [⟨clientID, qos⟩])
      clients := idx.clients.insert clientID
        (((idx.clients.lookup clientID).getD ∅).insert filter ()) }

/-- The entries of a filter without the first one of a client; a filter without entries is
deleted. -/
def removeEntry (filters : GoMap Str (List SubscriptionEntry)) (clientID filter : Str) :
    GoMap Str (List SubscriptionEntry) :=
  let entries := ((filters.lookup filter).getD []).eraseP fun e => e.clientID = clientID
  if entries = [] then filters.erase filter else filters.insert filter entries

/-- Remove a subscription. -/
def remove (idx : SubscriptionIndex) (clientID filter : Str) : SubscriptionIndex where
  filters := removeEntry idx.filters clientID filter
  clients :=
    match idx.clients.lookup clientID with
    | none => idx.clients
    | some clientFilters =>
      let clientFilters := clientFilters.erase filter
      if clientFilters.entries = [] then idx.clients.erase clientID
      else idx.clients.insert clientID clientFilters

/-- Remove the subscriptions of a client. -/
def removeAll (idx : SubscriptionIndex) (clientID : Str) : SubscriptionIndex :=
  match idx.clients.lookup clientID with
  | none => idx
  | some clientFilters =>
    { filters := clientFilters.keys.foldl (fun filters f => removeEntry filters clientID f)
        idx.filters
      clients := idx.clients.erase clientID }

/-- The filters that have subscribers. -/
def allFilters (idx : SubscriptionIndex) : List Str := idx.filters.keys

/-- The filters of a client. -/
def clientFilters (idx : SubscriptionIndex) (clientID : Str) : List Str :=
  match idx.clients.lookup clientID with
  | none => []
  | some clientFilters => clientFilters.keys

/-- Put an entry into the map of the best QoS of each client. -/
def addBest (best : GoMap Str UInt8) (e : SubscriptionEntry) : GoMap Str UInt8 :=
  match best.lookup e.clientID with
  | none => best.insert e.clientID e.qos
  | some existing => if e.qos > existing then best.insert e.clientID e.qos else best

/-- The subscribers of a topic, each once with the largest QoS of its matching filters. -/
def matchTopic (idx : SubscriptionIndex) (topic : Str) : List SubscriptionMatch :=
  let best := idx.filters.entries.foldl
    (fun best f => if topicMatch f.1 topic then f.2.foldl addBest best else best) ∅
  best.entries.map fun e => ⟨e.1, e.2⟩

/-- The number of subscriptions. -/
def count (idx : SubscriptionIndex) : ℕ :=
  idx.filters.entries.foldl (fun count f => count + f.2.length) 0

/-- The client has an entry under the filter. -/
def Subscribed (idx : SubscriptionIndex) (clientID filter : Str) : Prop :=
  ∃ e ∈ idx.entries filter, e.clientID = clientID

instance (idx : SubscriptionIndex) (clientID filter : Str) :
    Decidable (idx.Subscribed clientID filter) :=
  inferInstanceAs (Decidable (∃ e ∈ _, _))

/-! ### Adding and removing -/

variable {e : SubscriptionEntry} (filters : GoMap Str (List SubscriptionEntry))
  (clients : GoMap Str (GoMap Str Unit)) (idx : SubscriptionIndex) (topic clientID filter : Str)
  (qos : UInt8) (es : List SubscriptionEntry) (clientID' filter' : Str)

lemma entries_insert (clients : GoMap Str (GoMap Str Unit)) (filter' : Str) :
    entries ⟨idx.filters.insert filter es, clients⟩ filter' =
      if filter' = filter then es else idx.entries filter' := by
  rw [entries]
  rw [GoMap.lookup_insert_eq]
  split_ifs <;> rfl

lemma exists_mem_setQoS {clientID clientID' : Str} {qos : UInt8} {es : List SubscriptionEntry} :
    (∃ e ∈ setQoS clientID qos es, e.clientID = clientID') ↔
      ∃ e ∈ es, e.clientID = clientID' := by
  induction es with
  | nil => simp [setQoS]
  | cons e es ih =>
    rw [setQoS]
    split_ifs with h
    · simp
    · simp [ih]

/-- `Add` subscribes the client to the filter and changes no other subscription. -/
lemma subscribed_add :
    (idx.add clientID filter qos).Subscribed clientID' filter' ↔
      (clientID' = clientID ∧ filter' = filter) ∨ idx.Subscribed clientID' filter' := by
  rw [add]
  split_ifs with hany
  · obtain ⟨e, he, hid⟩ : ∃ e ∈ idx.entries filter, e.clientID = clientID := by simpa using hany
    rw [Subscribed, entries_insert]
    split_ifs with hf
    · subst hf
      rw [exists_mem_setQoS]
      constructor
      · exact Or.inr
      · rintro (⟨rfl, -⟩ | h)
        · exact ⟨e, he, hid⟩
        · exact h
    · simp [hf, Subscribed]
  · rw [Subscribed, entries_insert]
    split_ifs with hf
    · subst hf
      simp [Subscribed, or_and_right, exists_or, or_comm, eq_comm]
    · simp [hf, Subscribed]

/-- What the index holds for a client: its entry under each filter, and its filters. -/
def heldFor (idx : SubscriptionIndex) (clientID : Str) :
    (Str → List SubscriptionEntry) × List Str :=
  (fun filter => (idx.entries filter).filter fun e => e.clientID = clientID,
    idx.clientFilters clientID)

lemma filter_eraseP_of_ne {clientID clientID' : Str} (h : clientID ≠ clientID')
    (es : List SubscriptionEntry) :
    (es.eraseP fun e => e.clientID = clientID').filter (fun e => e.clientID = clientID) =
      es.filter fun e => e.clientID = clientID := by
  induction es with
  | nil => rfl
  | cons e es ih =>
    rw [List.eraseP_cons]
    by_cases he : e.clientID = clientID'
    · simp [he, Ne.symm h]
    · simp [he, List.filter_cons, ih]

lemma getD_lookup_removeEntry :
    ((removeEntry filters clientID filter).lookup filter').getD [] =
      if filter' = filter then
        ((filters.lookup filter).getD []).eraseP fun e => e.clientID = clientID
      else (filters.lookup filter').getD [] := by
  rw [removeEntry]
  split_ifs with hnil heq heq
  · subst heq
    simp [hnil]
  · rw [AList.lookup_erase_ne heq]
  · subst heq
    simp
  · rw [AList.lookup_insert_ne heq]

lemma heldFor_remove {clientID clientID' : Str} (h : clientID ≠ clientID') (filter : Str) :
    (idx.remove clientID' filter).heldFor clientID = idx.heldFor clientID := by
  rw [heldFor, heldFor]
  congr 1
  · funext filter'
    rw [entries, remove, getD_lookup_removeEntry, entries]
    split_ifs with heq
    · subst heq
      exact filter_eraseP_of_ne h _
    · rfl
  · rw [clientFilters, clientFilters, remove]
    have hlookup : ∀ m : GoMap Str (GoMap Str Unit),
        m.lookup clientID = idx.clients.lookup clientID →
        (match m.lookup clientID with | none => [] | some fs => fs.keys) =
          match idx.clients.lookup clientID with | none => [] | some fs => fs.keys := by
      intro m hm
      rw [hm]
    refine hlookup _ ?_
    cases idx.clients.lookup clientID' with
    | none => rfl
    | some fs =>
      dsimp only
      split_ifs
      · exact AList.lookup_erase_ne h
      · exact AList.lookup_insert_ne h

lemma filter_setQoS_of_ne {clientID clientID' : Str} (h : clientID ≠ clientID') (qos : UInt8)
    (es : List SubscriptionEntry) :
    (setQoS clientID' qos es).filter (fun e => e.clientID = clientID) =
      es.filter fun e => e.clientID = clientID := by
  induction es with
  | nil => rfl
  | cons e es ih =>
    rw [setQoS]
    by_cases he : e.clientID = clientID'
    · simp [he, Ne.symm h]
    · simp [he, List.filter_cons, ih]

lemma heldFor_add {clientID clientID' : Str} (h : clientID ≠ clientID') (filter : Str)
    (qos : UInt8) :
    (idx.add clientID' filter qos).heldFor clientID = idx.heldFor clientID := by
  rw [heldFor, heldFor, add]
  refine Prod.ext (funext fun filter' => ?_) ?_
  · by_cases hf : filter' = filter
    · subst hf
      split_ifs <;> dsimp only <;> rw [entries_insert, if_pos rfl]
      · exact filter_setQoS_of_ne h qos _
      · simp [Ne.symm h]
    · split_ifs <;> dsimp only <;> rw [entries_insert, if_neg hf]
  · split_ifs
    · rfl
    · rw [clientFilters, clientFilters]
      rw [AList.lookup_insert_ne h]

/-! ### Entries -/

/-- No client has two entries under one filter. -/
def Distinct (idx : SubscriptionIndex) : Prop :=
  ∀ filter, ((idx.entries filter).map SubscriptionEntry.clientID).Nodup

lemma distinct_new : new.Distinct := fun filter => by simp [entries, new]

lemma mem_setQoS {clientID : Str} {qos : UInt8} {es : List SubscriptionEntry}
    (h : e ∈ setQoS clientID qos es) : e = ⟨clientID, qos⟩ ∨ e ∈ es := by
  induction es with
  | nil => cases h
  | cons e' es ih =>
    rw [setQoS] at h
    split_ifs at h with hid
    · rcases List.mem_cons.1 h with rfl | h
      · exact Or.inl (by rw [hid])
      · exact Or.inr (List.mem_cons_of_mem _ h)
    · rcases List.mem_cons.1 h with rfl | h
      · exact Or.inr List.mem_cons_self
      · exact (ih h).imp_right (List.mem_cons_of_mem _)

lemma mem_setQoS_self {clientID : Str} {es : List SubscriptionEntry}
    (h : ∃ e ∈ es, e.clientID = clientID) :
    ⟨clientID, qos⟩ ∈ setQoS clientID qos es := by
  induction es with
  | nil => simp at h
  | cons e es ih =>
    rw [setQoS]
    split_ifs with hid
    · rw [← hid]
      exact List.mem_cons_self
    · exact List.mem_cons_of_mem _ (ih (by simpa [hid] using h))

lemma map_clientID_setQoS :
    (setQoS clientID qos es).map SubscriptionEntry.clientID =
      es.map SubscriptionEntry.clientID := by
  induction es with
  | nil => rfl
  | cons e es ih =>
    rw [setQoS]
    split_ifs
    · rfl
    · rw [List.map_cons, ih, List.map_cons]

lemma entries_add_of_ne {filter filter' : Str} (h : filter' ≠ filter) :
    (idx.add clientID filter qos).entries filter' = idx.entries filter' := by
  rw [add]
  split_ifs <;> rw [entries_insert, if_neg h]

lemma mem_entries_add {idx : SubscriptionIndex} {clientID filter filter' : Str} {qos : UInt8}
    (h : e ∈ (idx.add clientID filter qos).entries filter') :
    (filter' = filter ∧ e = ⟨clientID, qos⟩) ∨ e ∈ idx.entries filter' := by
  by_cases hf : filter' = filter
  · subst hf
    rw [add] at h
    split_ifs at h with hany <;> rw [entries_insert, if_pos rfl] at h
    · exact (mem_setQoS h).imp_left fun h => ⟨rfl, h⟩
    · rcases List.mem_append.1 h with h | h
      · exact Or.inr h
      · exact Or.inl ⟨rfl, List.mem_singleton.1 h⟩
  · rw [entries_add_of_ne idx clientID qos hf] at h
    exact Or.inr h

lemma mem_entries_add_self : ⟨clientID, qos⟩ ∈ (idx.add clientID filter qos).entries filter := by
  rw [add]
  split_ifs with hany <;> rw [entries_insert, if_pos rfl]
  · exact mem_setQoS_self qos (by simpa using hany)
  · exact List.mem_append_right _ (List.mem_singleton_self _)

lemma Distinct.add {idx : SubscriptionIndex} (h : idx.Distinct) (clientID filter : Str)
    (qos : UInt8) : (idx.add clientID filter qos).Distinct := by
  intro filter'
  by_cases hf : filter' = filter
  · subst hf
    rw [SubscriptionIndex.add]
    split_ifs with hany <;> rw [entries_insert, if_pos rfl]
    · rw [map_clientID_setQoS]
      exact h filter'
    · rw [List.map_append, List.nodup_append]
      refine ⟨h filter', List.nodup_singleton _, ?_⟩
      rintro a ha b hb rfl
      obtain ⟨e, he, rfl⟩ := List.mem_map.1 ha
      rw [List.map_singleton, List.mem_singleton] at hb
      exact hany (List.any_eq_true.2 ⟨e, he, by simpa using hb⟩)
  · rw [entries_add_of_ne idx clientID qos hf]
    exact h filter'

lemma entries_remove :
    (idx.remove clientID filter).entries filter' =
      if filter' = filter then (idx.entries filter).eraseP fun e => e.clientID = clientID
      else idx.entries filter' := getD_lookup_removeEntry idx.filters clientID filter filter'

lemma mem_eraseP_clientID {clientID : Str} {es : List SubscriptionEntry}
    (h : (es.map SubscriptionEntry.clientID).Nodup) :
    e ∈ es.eraseP (fun e => e.clientID = clientID) ↔ e ∈ es ∧ e.clientID ≠ clientID := by
  induction es with
  | nil => simp
  | cons e' es ih =>
    obtain ⟨hnot, hnodup⟩ := List.nodup_cons.1 h
    by_cases hid : e'.clientID = clientID
    · -- the other entries are of other clients
      have hother : e ∈ es → e.clientID ≠ clientID := fun he heq =>
        hnot (List.mem_map.2 ⟨e, he, heq.trans hid.symm⟩)
      rw [List.eraseP_cons_of_pos (by simpa using hid), List.mem_cons]
      constructor
      · exact fun he => ⟨Or.inr he, hother he⟩
      · rintro ⟨rfl | he, hne⟩
        · exact absurd hid hne
        · exact he
    · rw [List.eraseP_cons_of_neg (by simpa using hid), List.mem_cons, ih hnodup, List.mem_cons,
        or_and_right]
      refine or_congr_left ⟨?_, And.left⟩
      rintro rfl
      exact ⟨rfl, hid⟩

lemma mem_entries_remove {idx : SubscriptionIndex} (h : idx.Distinct)
    {clientID filter filter' : Str} :
    e ∈ (idx.remove clientID filter).entries filter' ↔
      e ∈ idx.entries filter' ∧ ¬ (filter' = filter ∧ e.clientID = clientID) := by
  rw [entries_remove]
  split_ifs with hf
  · subst hf
    rw [mem_eraseP_clientID (h filter')]
    simp
  · simp [hf]

lemma Distinct.remove {idx : SubscriptionIndex} (h : idx.Distinct) (clientID filter : Str) :
    (idx.remove clientID filter).Distinct := by
  intro filter'
  rw [entries_remove]
  split_ifs
  · exact (h filter).sublist ((List.eraseP_sublist).map _)
  · exact h filter'

lemma Distinct.foldl_remove {idx : SubscriptionIndex} (h : idx.Distinct) (clientID : Str)
    (filters : List Str) : (filters.foldl (fun idx f => idx.remove clientID f) idx).Distinct := by
  induction filters generalizing idx with
  | nil => exact h
  | cons f filters ih => exact ih (h.remove clientID f)

lemma mem_entries_foldl_remove {idx : SubscriptionIndex} (h : idx.Distinct) {clientID : Str}
    {filters : List Str} {filter : Str} :
    e ∈ (filters.foldl (fun idx f => idx.remove clientID f) idx).entries filter ↔
      e ∈ idx.entries filter ∧ ¬ (filter ∈ filters ∧ e.clientID = clientID) := by
  induction filters generalizing idx with
  | nil => simp
  | cons f filters ih =>
    rw [List.foldl_cons, ih (h.remove clientID f), mem_entries_remove h, List.mem_cons,
      and_assoc, ← not_or, or_and_right]

/-- `RemoveAll` leaves the entries that removing the filters of the client one by one leaves. -/
lemma entries_removeAll :
    (idx.removeAll clientID).entries filter =
      ((idx.clientFilters clientID).foldl (fun idx f => idx.remove clientID f) idx).entries
        filter := by
  have hfilters : ∀ (l : List Str) (idx : SubscriptionIndex),
      (l.foldl (fun idx f => idx.remove clientID f) idx).filters =
        l.foldl (fun filters f => removeEntry filters clientID f) idx.filters :=
    fun l idx => (List.foldl_hom SubscriptionIndex.filters fun _ _ => rfl).symm
  rw [removeAll, clientFilters]
  cases idx.clients.lookup clientID with
  | none => rfl
  | some clientFilters =>
    rw [entries, entries, hfilters]

/-! ### The filters of the clients -/

lemma clientFilters_insert (fs : GoMap Str Unit) (clientID' : Str) :
    clientFilters ⟨filters, clients.insert clientID fs⟩ clientID' =
      if clientID' = clientID then fs.keys else clientFilters ⟨filters, clients⟩ clientID' := by
  rw [clientFilters, clientFilters]
  split_ifs with h
  · subst h
    simp
  · simp [AList.lookup_insert_ne h]

lemma clientFilters_erase :
    clientFilters ⟨filters, clients.erase clientID⟩ clientID' =
      if clientID' = clientID then [] else clientFilters ⟨filters, clients⟩ clientID' := by
  rw [clientFilters, clientFilters]
  split_ifs with h
  · subst h
    simp
  · simp [AList.lookup_erase_ne h]

lemma clientFilters_removeAll :
    (idx.removeAll clientID).clientFilters clientID' =
      if clientID' = clientID then [] else idx.clientFilters clientID' := by
  rw [removeAll]
  cases hl : idx.clients.lookup clientID with
  | none =>
    split_ifs with hc
    · rw [clientFilters, hc, hl]
    · rfl
  | some fs =>
    rw [clientFilters_erase]
    rfl

/-! ### Matching -/

/-- The QoS of a client under the filters that match a topic. -/
def matchingQoS (idx : SubscriptionIndex) (topic clientID : Str) : Set UInt8 :=
  {qos | ∃ filter, topicMatch filter topic = true ∧ ⟨clientID, qos⟩ ∈ idx.entries filter}

/-- The pairs of client and QoS that `Match` takes from a filter. -/
def pairsOf (topic : Str) (f : Sigma fun _ : Str => List SubscriptionEntry) : Set (Str × UInt8) :=
  {x | topicMatch f.1 topic = true ∧ ⟨x.1, x.2⟩ ∈ f.2}

lemma addBest_eq_keepLargest (best : GoMap Str UInt8) (e : SubscriptionEntry) :
    addBest best e = keepLargest best (e.clientID, e.qos) := by
  rw [addBest, keepLargest]
  cases best.lookup e.clientID <;> rfl

/-- The map `best` of `Match` at the end of its loop. -/
def best (idx : SubscriptionIndex) (topic : Str) : GoMap Str UInt8 :=
  idx.filters.entries.foldl
    (fun best f => if topicMatch f.1 topic then f.2.foldl addBest best else best) ∅

/-- The loop of `Match` over the entries of a filter. -/
lemma largestOf_foldl_addBest {S : Set (Str × UInt8)} {best : GoMap Str UInt8}
    (h : LargestOf S best) (es : List SubscriptionEntry) :
    LargestOf (S ∪ {x | ⟨x.1, x.2⟩ ∈ es}) (es.foldl addBest best) := by
  have hloop : LargestOf (S ∪ {x | ∃ e ∈ es, x ∈ ({(e.clientID, e.qos)} : Set (Str × UInt8))})
      (es.foldl addBest best) := by
    refine LargestOf.foldl (fun {S best} e h => ?_) h es
    rw [Set.union_singleton, addBest_eq_keepLargest]
    exact h.keepLargest (e.clientID, e.qos)
  have hset : {x : Str × UInt8 | (⟨x.1, x.2⟩ : SubscriptionEntry) ∈ es} =
      {x | ∃ e ∈ es, x ∈ ({(e.clientID, e.qos)} : Set (Str × UInt8))} := by
    ext x
    constructor
    · exact fun hx => ⟨⟨x.1, x.2⟩, hx, rfl⟩
    · rintro ⟨e, he, rfl⟩
      exact he
  rwa [hset]

/-- `best` has the clients with a matching filter, each with its largest QoS. -/
lemma largestOf_best : LargestOf {x | x.2 ∈ idx.matchingQoS topic x.1} (idx.best topic) := by
  have hset : {x : Str × UInt8 | x.2 ∈ idx.matchingQoS topic x.1} =
      ∅ ∪ {x | ∃ f ∈ idx.filters.entries, x ∈ pairsOf topic f} := by
    ext x
    rw [Set.empty_union]
    constructor
    · rintro ⟨filter, hm, hx⟩
      rw [entries] at hx
      cases hl : idx.filters.lookup filter with
      | none => simp [hl] at hx
      | some es =>
        rw [hl] at hx
        exact ⟨⟨filter, es⟩, AList.mem_lookup_iff.1 hl, hm, hx⟩
    · rintro ⟨⟨filter, es⟩, hf, hm, hx⟩
      refine ⟨filter, hm, ?_⟩
      rw [entries, AList.mem_lookup_iff.2 hf]
      exact hx
  rw [hset]
  refine LargestOf.foldl (fun {S best} f h => ?_) LargestOf.empty _
  by_cases hm : topicMatch f.1 topic = true
  · simpa [pairsOf, hm] using largestOf_foldl_addBest h f.2
  · simpa [pairsOf, hm] using h

lemma mem_matchTopic_iff :
    ⟨clientID, qos⟩ ∈ idx.matchTopic topic ↔
      IsGreatest (idx.matchingQoS topic clientID) qos := by
  have hbest := idx.largestOf_best topic
  have hmem : ⟨clientID, qos⟩ ∈ idx.matchTopic topic ↔
      (idx.best topic).lookup clientID = some qos := by
    rw [matchTopic, List.mem_map, ← Option.mem_def, AList.mem_lookup_iff]
    constructor
    · rintro ⟨e, he, heq⟩
      cases heq
      exact he
    · exact fun h => ⟨⟨clientID, qos⟩, h, rfl⟩
  rw [hmem]
  constructor
  · exact hbest.isGreatest
  · rintro ⟨hqos, hmax⟩
    obtain ⟨qos', hl⟩ := hbest.total hqos
    obtain ⟨hqos', hmax'⟩ := hbest.isGreatest hl
    rwa [UInt8.le_antisymm (hmax' hqos) (hmax hqos')]

lemma exists_mem_matchTopic {idx : SubscriptionIndex} {topic clientID : Str} {qos : UInt8}
    (h : qos ∈ idx.matchingQoS topic clientID) :
    ∃ qos', ⟨clientID, qos'⟩ ∈ idx.matchTopic topic := by
  obtain ⟨qos', hl⟩ := (idx.largestOf_best topic).total h
  exact ⟨qos', (idx.mem_matchTopic_iff topic clientID qos').2
    ((idx.largestOf_best topic).isGreatest hl)⟩

lemma nodup_matchTopic : ((idx.matchTopic topic).map SubscriptionMatch.clientID).Nodup := by
  rw [matchTopic, List.map_map]
  exact AList.keys_nodup _

end SubscriptionIndex

end Dmqtt.Broker
