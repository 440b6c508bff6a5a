/-
Maps of maps.

A map of maps is a map from pairs of keys, with an index on the first one: `get` reads a pair,
`put` sets it and `delete` erases it, along with an inner map that gets empty.  Both change what is
read for their pair only (`get_put`, `get_delete`), and neither leaves an empty map behind
(`NoEmpty`).  Two maps of maps without empty ones that read the same are the same, but for the order
of their entries (`NoEmpty.same`).
-/
import Dmqtt.Lib.GoTypes

namespace Dmqtt.Lib

variable {K L V : Type*}

/-- A map whose values are maps. -/
abbrev NestedMap (K L V : Type*) := GoMap K (GoMap L V)

namespace NestedMap

variable [DecidableEq K]

/-- No inner map is empty. -/
def NoEmpty (m : NestedMap K L V) : Prop :=
  ∀ k inner, m.lookup k = some inner → inner.entries ≠ []

lemma noEmpty_empty : NoEmpty (∅ : NestedMap K L V) := fun k inner h => by simp at h

lemma NoEmpty.erase {m : NestedMap K L V} (h : m.NoEmpty) (k : K) : NoEmpty (m.erase k) := by
  intro k' inner hl
  rw [GoMap.lookup_erase_eq] at hl
  split_ifs at hl
  exact h k' inner hl

lemma NoEmpty.insert {m : NestedMap K L V} (h : m.NoEmpty) (k : K) {inner : GoMap L V}
    (hinner : inner.entries ≠ []) : NoEmpty (m.insert k inner) := by
  intro k' inner' hl
  rw [GoMap.lookup_insert_eq] at hl
  split_ifs at hl
  · rwa [← Option.some.inj hl]
  · exact h k' inner' hl

variable [DecidableEq L] (m : NestedMap K L V) (k : K) (l : L)

/-- The value of a pair of keys. -/
def get : Option V := (m.lookup k).bind fun inner => inner.lookup l

/-- Set the value of a pair. -/
def put (v : V) : NestedMap K L V := m.insert k (((m.lookup k).getD ∅).insert l v)

/-- Delete a pair, and the inner map if that was all. -/
def delete : NestedMap K L V :=
  match m.lookup k with
  | none => m
  | some inner => if (inner.erase l).entries = [] then m.erase k else m.insert k (inner.erase l)

/-- The maps have the same keys and, under each of them, the same entries in some order. -/
def Same (m m' : NestedMap K L V) : Prop :=
  ∀ k, Option.Rel (fun inner inner' : GoMap L V => ∀ l, inner.lookup l = inner'.lookup l)
    (m.lookup k) (m'.lookup k)

/-! ### Reading -/

lemma get_of_lookup {m : NestedMap K L V} {k : K} {inner : GoMap L V}
    (h : m.lookup k = some inner) (l : L) : m.get k l = inner.lookup l := by
  rw [get, h, Option.bind_some]

lemma get_eq_getD : m.get k l = ((m.lookup k).getD ∅).lookup l := by
  rw [get]
  cases m.lookup k <;> rfl

lemma isSome_get_iff : (m.get k l).isSome ↔ ∃ inner, m.lookup k = some inner ∧ l ∈ inner := by
  rw [get]
  cases m.lookup k with
  | none => simp
  | some inner => simp [AList.lookup_isSome]

lemma get_empty : get (∅ : NestedMap K L V) k l = none := rfl

lemma get_insert (inner : GoMap L V) (k' : K) (l' : L) :
    get (m.insert k inner) k' l' = if k' = k then inner.lookup l' else m.get k' l' := by
  rw [get, GoMap.lookup_insert_eq]
  split_ifs <;> rfl

lemma get_erase (k' : K) (l' : L) :
    get (m.erase k) k' l' = if k' = k then none else m.get k' l' := by
  rw [get, GoMap.lookup_erase_eq]
  split_ifs <;> rfl

lemma get_put (v : V) (k' : K) (l' : L) :
    (m.put k l v).get k' l' = if k' = k ∧ l' = l then some v else m.get k' l' := by
  rw [put, get_insert]
  by_cases hk : k' = k
  · subst hk
    by_cases hl : l' = l
    · subst hl
      simp
    · rw [if_pos rfl, if_neg fun h => hl h.2, AList.lookup_insert_ne hl, ← get_eq_getD]
  · rw [if_neg hk, if_neg fun h => hk h.1]

lemma get_delete (k' : K) (l' : L) :
    (m.delete k l).get k' l' = if k' = k ∧ l' = l then none else m.get k' l' := by
  rw [delete]
  cases hk : m.lookup k with
  | none =>
    split_ifs with h
    · rw [h.1, get, hk, Option.bind_none]
    · rfl
  | some inner =>
    -- what is read where the inner map is put back, or was taken away because it is empty
    have hread : get (if (inner.erase l).entries = [] then m.erase k
        else m.insert k (inner.erase l)) k' l' =
        if k' = k then (inner.erase l).lookup l' else m.get k' l' := by
      by_cases hnil : (inner.erase l).entries = []
      · have hempty : inner.erase l = ∅ := AList.ext hnil
        rw [if_pos hnil, get_erase, hempty, AList.lookup_empty]
      · rw [if_neg hnil, get_insert]
    rw [hread, GoMap.lookup_erase_eq]
    by_cases hkey : k' = k
    · subst hkey
      rw [if_pos rfl, get_of_lookup hk]
      simp
    · rw [if_neg hkey, if_neg fun h => hkey h.1]

/-! ### No empty maps -/

variable {m k l}

lemma NoEmpty.put (h : m.NoEmpty) (k : K) (l : L) (v : V) : (m.put k l v).NoEmpty :=
  h.insert k (List.cons_ne_nil _ _)

lemma NoEmpty.delete (h : m.NoEmpty) (k : K) (l : L) : (m.delete k l).NoEmpty := by
  rw [NestedMap.delete]
  cases m.lookup k with
  | none => exact h
  | some inner =>
    dsimp only
    split_ifs with hnil
    · exact h.erase k
    · exact h.insert k hnil

lemma NoEmpty.exists_get (h : m.NoEmpty) {inner : GoMap L V} (hk : m.lookup k = some inner) :
    ∃ l v, m.get k l = some v := by
  obtain ⟨⟨l, v⟩, hmem⟩ := List.exists_mem_of_ne_nil _ (h k inner hk)
  exact ⟨l, v, (get_of_lookup hk l).trans (AList.mem_lookup_iff.2 hmem)⟩

lemma NoEmpty.same {m' : NestedMap K L V} (h : m.NoEmpty) (h' : m'.NoEmpty)
    (hget : ∀ k l, m.get k l = m'.get k l) : Same m m' := by
  intro k
  cases hk : m.lookup k with
  | none =>
    cases hk' : m'.lookup k with
    | none => exact .none
    | some inner' =>
      obtain ⟨l, v, hv⟩ := h'.exists_get hk'
      rw [← hget, get, hk] at hv
      cases hv
  | some inner =>
    cases hk' : m'.lookup k with
    | none =>
      obtain ⟨l, v, hv⟩ := h.exists_get hk
      rw [hget, get, hk'] at hv
      cases hv
    | some inner' =>
      refine .some fun l => ?_
      rw [← get_of_lookup hk, hget, get_of_lookup hk']

end NestedMap

end Dmqtt.Lib
