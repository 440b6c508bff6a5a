/-
The subscription index as a finite map.

What the index is for is a map from pairs of a client and a filter to a QoS.  `Agrees` is the
relation between the two that every operation preserves: both maps of the index hold the pairs,
and nothing else.  `subscriptionIndex_refines` says what follows for the queries.
-/
import Dmqtt.Broker.Subscription
import Mathlib.Data.Set.Card

namespace Dmqtt.Broker

open Lib

/-! ### The abstract map -/

/-- The QoS of each client under each of its filters. -/
abbrev SubscriptionMap := (clientID filter : Str) → Option UInt8

/-- The operations that change an index. -/
inductive IndexOp
  | add (clientID filter : Str) (qos : UInt8)
  | remove (clientID filter : Str)
  | removeAll (clientID : Str)
deriving DecidableEq

namespace SubscriptionMap

/-- The map without subscriptions. -/
def empty : SubscriptionMap := fun _ _ => none

/-- Overwrite or erase one pair, or erase all pairs of a client. -/
def apply (m : SubscriptionMap) : IndexOp → SubscriptionMap
  | .add clientID filter qos => fun clientID' filter' =>
    if clientID' = clientID ∧ filter' = filter then some qos else m clientID' filter'
  | .remove clientID filter => fun clientID' filter' =>
    if clientID' = clientID ∧ filter' = filter then none else m clientID' filter'
  | .removeAll clientID => fun clientID' filter' =>
    if clientID' = clientID then none else m clientID' filter'

variable (m : SubscriptionMap) (clientID filter clientID' filter' : Str)

lemma apply_add (qos : UInt8) (clientID' filter' : Str) :
    m.apply (.add clientID filter qos) clientID' filter' =
      if clientID' = clientID ∧ filter' = filter then some qos else m clientID' filter' := rfl

lemma apply_remove :
    m.apply (.remove clientID filter) clientID' filter' =
      if clientID' = clientID ∧ filter' = filter then none else m clientID' filter' := rfl

lemma apply_removeAll :
    m.apply (.removeAll clientID) clientID' filter' =
      if clientID' = clientID then none else m clientID' filter' := rfl

/-- The pairs of the map. -/
def support (m : SubscriptionMap) : Set (Str × Str) := {k | (m k.1 k.2).isSome}

/-- The QoS of a client under the filters that match a topic. -/
def matching (m : SubscriptionMap) (topic clientID : Str) : Set UInt8 :=
  {qos | ∃ filter, topicMatch filter topic = true ∧ m clientID filter = some qos}

end SubscriptionMap

namespace SubscriptionIndex

variable {idx : SubscriptionIndex} {m : SubscriptionMap}

/-- Execute an operation. -/
def apply (idx : SubscriptionIndex) : IndexOp → SubscriptionIndex
  | .add clientID filter qos => idx.add clientID filter qos
  | .remove clientID filter => idx.remove clientID filter
  | .removeAll clientID => idx.removeAll clientID

/-- Both maps of the index hold the pairs of the abstract map and nothing else. -/
structure Agrees (idx : SubscriptionIndex) (m : SubscriptionMap) : Prop where
  distinct : idx.Distinct
  mem_entries : ∀ {clientID filter qos},
    ⟨clientID, qos⟩ ∈ idx.entries filter ↔ m clientID filter = some qos
  mem_clientFilters : ∀ {clientID filter},
    filter ∈ idx.clientFilters clientID ↔ (m clientID filter).isSome
  filters_ne_nil : ∀ {filter es}, idx.filters.lookup filter = some es → es ≠ []
  clients_ne_nil : ∀ {clientID fs}, idx.clients.lookup clientID = some fs → fs.keys ≠ []

lemma agrees_new : Agrees new .empty where
  distinct := distinct_new
  mem_entries := by simp [entries, new, SubscriptionMap.empty]
  mem_clientFilters := by simp [clientFilters, new, SubscriptionMap.empty]
  filters_ne_nil := by simp [new]
  clients_ne_nil := by simp [new]

/-! ### Adding -/

variable {filter clientID : Str} {qos : UInt8} {clientID' filter' : Str}
  {es : List SubscriptionEntry}

lemma mem_setQoS_of_ne {e : SubscriptionEntry} (h : e ∈ es) (hne : e.clientID ≠ clientID) :
    e ∈ setQoS clientID qos es := by
  induction es with
  | nil => cases h
  | cons e' es ih =>
    rw [setQoS]
    split_ifs with hid
    · rcases List.mem_cons.1 h with rfl | h
      · exact absurd hid hne
      · exact List.mem_cons_of_mem _ h
    · rcases List.mem_cons.1 h with rfl | h
      · exact List.mem_cons_self
      · exact List.mem_cons_of_mem _ (ih h)

lemma mem_entries_add_of_ne {e : SubscriptionEntry} (h : e ∈ idx.entries filter)
    (hne : e.clientID ≠ clientID) :
    e ∈ (idx.add clientID filter qos).entries filter := by
  rw [add]
  split_ifs <;> rw [entries_insert, if_pos rfl]
  · exact mem_setQoS_of_ne h hne
  · exact List.mem_append_left _ h

/-- The entries after `Add`: the new one, and those of other clients or other filters. -/
lemma mem_entries_add_iff (h : idx.Distinct) {qos' : UInt8} :
    ⟨clientID', qos'⟩ ∈ (idx.add clientID filter qos).entries filter' ↔
      if clientID' = clientID ∧ filter' = filter then qos = qos'
      else ⟨clientID', qos'⟩ ∈ idx.entries filter' := by
  have hself := idx.mem_entries_add_self clientID filter qos
  split_ifs with hkey
  · obtain ⟨rfl, rfl⟩ := hkey
    constructor
    · intro hmem
      have heq := List.inj_on_of_nodup_map (h.add clientID' filter' qos filter') hself hmem rfl
      exact congrArg SubscriptionEntry.qos heq
    · rintro rfl
      exact hself
  · constructor
    · intro hmem
      rcases mem_entries_add hmem with ⟨hf, he⟩ | hmem
      · exact absurd ⟨congrArg SubscriptionEntry.clientID he, hf⟩ hkey
      · exact hmem
    · intro hmem
      by_cases hf : filter' = filter
      · subst hf
        exact mem_entries_add_of_ne hmem fun hc => hkey ⟨hc, rfl⟩
      · rwa [entries_add_of_ne idx clientID qos hf]

lemma Agrees.mem_clientFilters_add (h : Agrees idx m) :
    filter' ∈ (idx.add clientID filter qos).clientFilters clientID' ↔
      (clientID' = clientID ∧ filter' = filter) ∨ filter' ∈ idx.clientFilters clientID' := by
  rw [add]
  split_ifs with hany
  · -- the client has the filter already
    obtain ⟨⟨_, qos'⟩, he, rfl⟩ : ∃ e ∈ idx.entries filter, e.clientID = clientID := by
      simpa using hany
    refine ⟨Or.inr, ?_⟩
    rintro (⟨rfl, rfl⟩ | hmem)
    · exact h.mem_clientFilters.2 (by rw [h.mem_entries.1 he]; rfl)
    · exact hmem
  · rw [clientFilters_insert]
    split_ifs with hc
    · subst hc
      rw [← AList.mem_keys, AList.mem_insert, clientFilters]
      cases idx.clients.lookup clientID' with
      | none => simp
      | some fs => simp [AList.mem_keys]
    · simp [hc, clientFilters]

lemma Agrees.add (h : Agrees idx m) (clientID filter : Str) (qos : UInt8) :
    Agrees (idx.add clientID filter qos) (m.apply (.add clientID filter qos)) where
  distinct := h.distinct.add clientID filter qos
  mem_entries := by
    intro clientID' filter' qos'
    rw [mem_entries_add_iff h.distinct, SubscriptionMap.apply_add]
    split_ifs
    · rw [Option.some_inj]
    · exact h.mem_entries
  mem_clientFilters := by
    intro clientID' filter'
    rw [h.mem_clientFilters_add, SubscriptionMap.apply_add, h.mem_clientFilters]
    split_ifs with hkey
    · simp [hkey]
    · simp [hkey]
  filters_ne_nil := by
    intro filter' es hl
    have hes : (idx.add clientID filter qos).entries filter' = es := by
      rw [entries, hl]
      rfl
    by_cases hf : filter' = filter
    · subst hf
      have hself := idx.mem_entries_add_self clientID filter' qos
      rw [hes] at hself
      exact List.ne_nil_of_mem hself
    · have hold : idx.filters.lookup filter' = some es := by
        rw [← hl, SubscriptionIndex.add]
        split_ifs
        · exact (AList.lookup_insert_ne hf).symm
        · exact (AList.lookup_insert_ne hf).symm
      exact h.filters_ne_nil hold
  clients_ne_nil := by
    intro clientID' fs hl
    rw [SubscriptionIndex.add] at hl
    split_ifs at hl
    · exact h.clients_ne_nil hl
    · by_cases hc : clientID' = clientID
      · subst hc
        rw [AList.lookup_insert] at hl
        obtain rfl := Option.some_injective _ hl
        exact List.ne_nil_of_mem (AList.mem_keys.1 ((AList.mem_insert _).2 (Or.inl rfl)))
      · rw [AList.lookup_insert_ne hc] at hl
        exact h.clients_ne_nil hl

/-! ### Removing -/

lemma filters_ne_nil_removeEntry {filters : GoMap Str (List SubscriptionEntry)}
    (h : ∀ {filter es}, filters.lookup filter = some es → es ≠ []) (clientID filter : Str)
    (hl : (removeEntry filters clientID filter).lookup filter' = some es) : es ≠ [] := by
  rw [removeEntry] at hl
  by_cases hf : filter' = filter
  · subst hf
    split_ifs at hl with hnil
    · simp at hl
    · rw [AList.lookup_insert] at hl
      rwa [← Option.some_injective _ hl]
  · split_ifs at hl
    · rw [AList.lookup_erase_ne hf] at hl
      exact h hl
    · rw [AList.lookup_insert_ne hf] at hl
      exact h hl

lemma mem_clientFilters_remove :
    filter' ∈ (idx.remove clientID filter).clientFilters clientID' ↔
      filter' ∈ idx.clientFilters clientID' ∧ ¬ (clientID' = clientID ∧ filter' = filter) := by
  rw [remove]
  cases hl : idx.clients.lookup clientID with
  | none =>
    refine ⟨fun hmem => ⟨hmem, ?_⟩, And.left⟩
    rintro ⟨rfl, -⟩
    rw [clientFilters, hl] at hmem
    cases hmem
  | some fs =>
    have hfs : idx.clientFilters clientID = fs.keys := by rw [clientFilters, hl]
    dsimp only
    split_ifs with hnil
    · have hkeys : (fs.erase filter).keys = [] := by rw [AList.keys, hnil]; rfl
      rw [clientFilters_erase]
      split_ifs with hc
      · subst hc
        have herase : filter' ∉ fs.erase filter := by
          rw [AList.mem_keys, hkeys]
          exact List.not_mem_nil
        rw [AList.mem_erase] at herase
        rw [hfs, ← AList.mem_keys]
        simp only [List.not_mem_nil, true_and, false_iff]
        tauto
      · simp [hc, clientFilters]
    · rw [clientFilters_insert]
      split_ifs with hc
      · subst hc
        rw [hfs, ← AList.mem_keys, ← AList.mem_keys, AList.mem_erase]
        tauto
      · simp [hc, clientFilters]

lemma clients_ne_nil_remove
    (h : ∀ {clientID fs}, idx.clients.lookup clientID = some fs → fs.keys ≠ [])
    {fs : GoMap Str Unit} (hl : (idx.remove clientID filter).clients.lookup clientID' = some fs) :
    fs.keys ≠ [] := by
  rw [remove] at hl
  cases hc : idx.clients.lookup clientID with
  | none =>
    rw [hc] at hl
    exact h hl
  | some fs' =>
    rw [hc] at hl
    dsimp only at hl
    by_cases heq : clientID' = clientID
    · subst heq
      split_ifs at hl with hnil
      · simp at hl
      · rw [AList.lookup_insert] at hl
        obtain rfl := Option.some_injective _ hl
        exact fun hkeys => hnil (List.map_eq_nil_iff.1 hkeys)
    · split_ifs at hl
      · rw [AList.lookup_erase_ne heq] at hl
        exact h hl
      · rw [AList.lookup_insert_ne heq] at hl
        exact h hl

lemma Agrees.remove (h : Agrees idx m) (clientID filter : Str) :
    Agrees (idx.remove clientID filter) (m.apply (.remove clientID filter)) where
  distinct := h.distinct.remove clientID filter
  mem_entries := by
    intro clientID' filter' qos
    rw [mem_entries_remove h.distinct, SubscriptionMap.apply_remove, h.mem_entries]
    split_ifs with hkey
    · simp [hkey]
    · simp only [and_iff_left_iff_imp]
      exact fun _ h' => hkey h'.symm
  mem_clientFilters := by
    intro clientID' filter'
    rw [mem_clientFilters_remove, SubscriptionMap.apply_remove, h.mem_clientFilters]
    split_ifs with hkey
    · simp [hkey]
    · simp [hkey]
  filters_ne_nil := filters_ne_nil_removeEntry h.filters_ne_nil clientID filter
  clients_ne_nil := clients_ne_nil_remove h.clients_ne_nil

lemma filters_ne_nil_foldl_removeEntry {filters : GoMap Str (List SubscriptionEntry)}
    (h : ∀ {filter es}, filters.lookup filter = some es → es ≠ []) (clientID : Str) (fs : List Str)
    (hl : (fs.foldl (fun filters f => removeEntry filters clientID f) filters).lookup filter = some
    es) : es ≠ [] := by
  induction fs generalizing filters with
  | nil => exact h hl
  | cons f fs ih => exact ih (filters_ne_nil_removeEntry h clientID f) hl

lemma Agrees.removeAll (h : Agrees idx m) (clientID : Str) :
    Agrees (idx.removeAll clientID) (m.apply (.removeAll clientID)) where
  distinct := by
    intro filter
    rw [entries_removeAll]
    exact h.distinct.foldl_remove clientID _ filter
  mem_entries := by
    intro clientID' filter qos
    rw [entries_removeAll, mem_entries_foldl_remove h.distinct, SubscriptionMap.apply_removeAll,
      h.mem_entries, h.mem_clientFilters]
    split_ifs with hc
    · -- a pair of the client is in the map only if the loop removes it
      subst hc
      simp +contextual
    · simp [hc]
  mem_clientFilters := by
    intro clientID' filter
    rw [clientFilters_removeAll, SubscriptionMap.apply_removeAll]
    split_ifs
    · simp
    · exact h.mem_clientFilters
  filters_ne_nil := by
    intro filter es hl
    rw [SubscriptionIndex.removeAll] at hl
    cases hc : idx.clients.lookup clientID with
    | none =>
      rw [hc] at hl
      exact h.filters_ne_nil hl
    | some fs =>
      rw [hc] at hl
      exact filters_ne_nil_foldl_removeEntry h.filters_ne_nil clientID fs.keys hl
  clients_ne_nil := by
    intro clientID' fs hl
    rw [SubscriptionIndex.removeAll] at hl
    cases hc : idx.clients.lookup clientID with
    | none =>
      rw [hc] at hl
      exact h.clients_ne_nil hl
    | some fs' =>
      rw [hc] at hl
      rw [GoMap.lookup_erase_eq] at hl
      split_ifs at hl
      exact h.clients_ne_nil hl

lemma Agrees.apply (h : Agrees idx m) (o : IndexOp) : Agrees (idx.apply o) (m.apply o) := by
  cases o with
  | add clientID filter qos => exact h.add clientID filter qos
  | remove clientID filter => exact h.remove clientID filter
  | removeAll clientID => exact h.removeAll clientID

lemma Agrees.foldl (h : Agrees idx m) (os : List IndexOp) :
    Agrees (os.foldl SubscriptionIndex.apply idx) (os.foldl SubscriptionMap.apply m) := by
  induction os generalizing idx m with
  | nil => exact h
  | cons o os ih => exact ih (h.apply o)

/-! ### The queries -/

/-- The client and the filter of each entry. -/
def pairs (idx : SubscriptionIndex) : List (Str × Str) :=
  idx.filters.entries.flatMap fun f => f.2.map fun e => (e.clientID, f.1)

lemma length_pairs (idx : SubscriptionIndex) : idx.pairs.length = idx.count := by
  rw [pairs, count, List.length_flatMap, ← List.foldl_map, List.sum_eq_foldl]
  simp

lemma mem_pairs :
    (clientID, filter) ∈ idx.pairs ↔ ∃ e ∈ idx.entries filter, e.clientID = clientID := by
  simp only [pairs, List.mem_flatMap, List.mem_map, Prod.mk.injEq, entries]
  constructor
  · rintro ⟨⟨filter, es⟩, hf, e, he, rfl, rfl⟩
    rw [AList.mem_lookup_iff.2 hf]
    exact ⟨e, he, rfl⟩
  · rintro ⟨e, he, rfl⟩
    cases hl : idx.filters.lookup filter with
    | none => simp [hl] at he
    | some es =>
      rw [hl] at he
      exact ⟨⟨filter, es⟩, AList.mem_lookup_iff.1 hl, e, he, rfl, rfl⟩

lemma nodup_pairs (h : idx.Distinct) : idx.pairs.Nodup := by
  rw [pairs, List.nodup_flatMap]
  constructor
  · rintro ⟨filter, es⟩ hf
    have hes : idx.entries filter = es := by rw [entries, AList.mem_lookup_iff.2 hf]; rfl
    have hnodup := h filter
    rw [hes] at hnodup
    exact List.Nodup.of_map Prod.fst (by simpa [Function.comp_def] using hnodup)
  · -- the pairs of two filters differ in the filter
    refine (List.nodupKeys_iff_pairwise.1 idx.filters.nodupKeys).imp ?_
    rintro ⟨filter, es⟩ ⟨filter', es'⟩ hne p hp hp'
    obtain ⟨e, -, rfl⟩ := List.mem_map.1 hp
    obtain ⟨e', -, heq⟩ := List.mem_map.1 hp'
    exact hne (Prod.mk.inj heq).2.symm

lemma mem_allFilters (h : Agrees idx m) :
    filter ∈ idx.allFilters ↔ ∃ clientID, (m clientID filter).isSome := by
  rw [allFilters, ← AList.mem_keys, ← AList.lookup_isSome]
  constructor
  · intro hf
    obtain ⟨es, hl⟩ := Option.isSome_iff_exists.1 hf
    obtain ⟨e, he⟩ := List.exists_mem_of_ne_nil es (h.filters_ne_nil hl)
    have hmem : ⟨e.clientID, e.qos⟩ ∈ idx.entries filter := by
      rw [entries, hl]
      exact he
    exact ⟨e.clientID, Option.isSome_iff_exists.2 ⟨e.qos, h.mem_entries.1 hmem⟩⟩
  · rintro ⟨clientID, hs⟩
    obtain ⟨qos, hq⟩ := Option.isSome_iff_exists.1 hs
    have hmem := h.mem_entries.2 hq
    rw [entries] at hmem
    cases hl : idx.filters.lookup filter with
    | none => simp [hl] at hmem
    | some es => rfl

lemma nodup_clientFilters (idx : SubscriptionIndex) (clientID : Str) :
    (idx.clientFilters clientID).Nodup := by
  rw [clientFilters]
  cases idx.clients.lookup clientID with
  | none => exact List.nodup_nil
  | some fs => exact AList.keys_nodup fs

/-- A client has one entry under a filter of its own and none under the others. -/
lemma Agrees.count_entries (h : Agrees idx m) (clientID filter : Str) :
    ((idx.entries filter).map SubscriptionEntry.clientID).count clientID =
      if filter ∈ idx.clientFilters clientID then 1 else 0 := by
  rw [(h.distinct filter).count]
  refine if_congr ?_ rfl rfl
  rw [h.mem_clientFilters, Option.isSome_iff_exists, List.mem_map]
  constructor
  · rintro ⟨e, he, rfl⟩
    exact ⟨e.qos, h.mem_entries.1 he⟩
  · rintro ⟨qos, hq⟩
    exact ⟨_, h.mem_entries.2 hq, rfl⟩

lemma Agrees.encard_support (h : Agrees idx m) : m.support.encard = idx.count := by
  have hset : m.support = {p | p ∈ idx.pairs} := by
    ext ⟨clientID, filter⟩
    rw [Set.mem_ofPred_eq, mem_pairs, SubscriptionMap.support, Set.mem_ofPred_eq,
      Option.isSome_iff_exists]
    constructor
    · rintro ⟨qos, hq⟩
      exact ⟨_, h.mem_entries.2 hq, rfl⟩
    · rintro ⟨e, he, rfl⟩
      exact ⟨e.qos, h.mem_entries.1 he⟩
  have hcoe : {p | p ∈ idx.pairs} = (idx.pairs.toFinset : Set (Str × Str)) := by
    ext p
    simp
  rw [hset, hcoe, Set.encard_coe_eq_coe_finsetCard,
    List.toFinset_card_of_nodup (nodup_pairs h.distinct), length_pairs]

lemma Agrees.matchingQoS_eq (h : Agrees idx m) (topic clientID : Str) :
    idx.matchingQoS topic clientID = m.matching topic clientID := by
  ext qos
  simp only [matchingQoS, SubscriptionMap.matching, Set.mem_ofPred_eq, h.mem_entries]

/-! ### Refinement -/

/-- The index shows the abstract map: its two maps agree and hold no empty entry, and the
queries answer what the map says. -/
structure Refines (idx : SubscriptionIndex) (m : SubscriptionMap) : Prop where
  /-- the entries are the pairs of the map, with their QoS -/
  mem_entries : ∀ clientID filter qos,
    ⟨clientID, qos⟩ ∈ idx.entries filter ↔ m clientID filter = some qos
  /-- a client is under a filter once if the filter is one of its filters -/
  count_entries : ∀ clientID filter,
    ((idx.entries filter).map SubscriptionEntry.clientID).count clientID =
      if filter ∈ idx.clientFilters clientID then 1 else 0
  filters_ne_nil : ∀ filter es, idx.filters.lookup filter = some es → es ≠ []
  clients_ne_nil : ∀ clientID fs, idx.clients.lookup clientID = some fs → fs.keys ≠ []
  nodup_allFilters : idx.allFilters.Nodup
  mem_allFilters : ∀ filter, filter ∈ idx.allFilters ↔ ∃ clientID, (m clientID filter).isSome
  nodup_clientFilters : ∀ clientID, (idx.clientFilters clientID).Nodup
  mem_clientFilters : ∀ clientID filter,
    filter ∈ idx.clientFilters clientID ↔ (m clientID filter).isSome
  encard_support : m.support.encard = idx.count
  nodup_matchTopic : ∀ topic, ((idx.matchTopic topic).map SubscriptionMatch.clientID).Nodup
  /-- the matched clients are those with a matching filter -/
  exists_mem_matchTopic : ∀ topic clientID,
    (∃ qos, ⟨clientID, qos⟩ ∈ idx.matchTopic topic) ↔ (m.matching topic clientID).Nonempty
  /-- the QoS of a matched client is the largest one of its matching filters -/
  isGreatest_matchTopic : ∀ topic clientID qos,
    ⟨clientID, qos⟩ ∈ idx.matchTopic topic → IsGreatest (m.matching topic clientID) qos

lemma Agrees.refines (h : Agrees idx m) : Refines idx m where
  mem_entries _ _ _ := h.mem_entries
  count_entries := h.count_entries
  filters_ne_nil _ _ := h.filters_ne_nil
  clients_ne_nil _ _ := h.clients_ne_nil
  nodup_allFilters := AList.keys_nodup _
  mem_allFilters _ := mem_allFilters h
  nodup_clientFilters := idx.nodup_clientFilters
  mem_clientFilters _ _ := h.mem_clientFilters
  encard_support := h.encard_support
  nodup_matchTopic := idx.nodup_matchTopic
  exists_mem_matchTopic topic clientID := by
    rw [← h.matchingQoS_eq]
    constructor
    · rintro ⟨qos, hq⟩
      exact ⟨qos, ((idx.mem_matchTopic_iff topic clientID qos).1 hq).1⟩
    · rintro ⟨qos, hq⟩
      exact exists_mem_matchTopic hq
  isGreatest_matchTopic topic clientID qos hq := by
    rw [← h.matchingQoS_eq]
    exact (idx.mem_matchTopic_iff topic clientID qos).1 hq

/-- After any sequence of `Add`, `Remove` and `RemoveAll` the index shows the map that results
from overwriting and erasing pairs. -/
theorem subscriptionIndex_refines (ops : List IndexOp) :
    Refines (ops.foldl SubscriptionIndex.apply new)
      (ops.foldl SubscriptionMap.apply SubscriptionMap.empty) :=
  (agrees_new.foldl ops).refines

end SubscriptionIndex

end Dmqtt.Broker
