/-
Go maps and instants.

A map with keys in `K` and values in `V` is an association list without repeated keys:
`lookup`, `insert` and `erase` are the map index, the assignment to a key and `delete`, and
`entries` is one order in which `range` may visit the map.  Instants and durations are counted
in nanoseconds.
-/
import Mathlib.Data.List.AList

namespace Dmqtt.Lib

/-- A Go map. -/
abbrev GoMap (K V : Type*) := AList fun _ : K => V

variable {K V X : Type*}

lemma GoMap.erase_of_lookup_eq_none [DecidableEq K] {m : GoMap K V} {k : K} (h : m.lookup k = none)
    : m.erase k = m :=
  AList.ext (List.kerase_of_notMem_keys (AList.lookup_eq_none.1 h))

lemma GoMap.length_keys_erase_le [DecidableEq K] (m : GoMap K V) (k : K) :
    (m.erase k).keys.length ≤ m.keys.length := by
  rw [AList.keys_erase]
  exact List.length_erase_le ..

lemma GoMap.length_keys_insert_le [DecidableEq K] (m : GoMap K V) (k : K) (v : V) :
    (m.insert k v).keys.length ≤ m.keys.length + 1 := by
  rw [AList.keys_insert, List.length_cons]
  exact Nat.succ_le_succ (List.length_erase_le ..)

lemma GoMap.lookup_insert_eq [DecidableEq K] (m : GoMap K V) (k : K) (v : V) (k' : K) :
    (m.insert k v).lookup k' = if k' = k then some v else m.lookup k' := by
  split_ifs with h
  · rw [h, AList.lookup_insert]
  · exact AList.lookup_insert_ne h

lemma GoMap.lookup_erase_eq [DecidableEq K] (m : GoMap K V) (k k' : K) :
    (m.erase k).lookup k' = if k' = k then none else m.lookup k' := by
  split_ifs with h
  · rw [h, AList.lookup_erase]
  · exact AList.lookup_erase_ne h

/-- An entry of a map that is filled from a list comes from the list, or was there. -/
lemma GoMap.mem_of_lookup_foldl_insert [DecidableEq K] {key : X → K} {val : X → V} {l : List X}
    {m : GoMap K V} {k : K} {v : V}
    (h : (l.foldl (fun m x => m.insert (key x) (val x)) m).lookup k = some v) :
    m.lookup k = some v ∨ ∃ x ∈ l, key x = k ∧ val x = v := by
  induction l generalizing m with
  | nil => exact Or.inl h
  | cons x l ih =>
    rcases ih h with hm | ⟨y, hy, hkey⟩
    · rcases eq_or_ne k (key x) with rfl | hne
      · rw [AList.lookup_insert] at hm
        exact Or.inr ⟨x, List.mem_cons_self, rfl, Option.some.inj hm⟩
      · rw [AList.lookup_insert_ne hne] at hm
        exact Or.inl hm
    · exact Or.inr ⟨y, List.mem_cons_of_mem _ hy, hkey⟩

lemma GoMap.lookup_foldl_erase [DecidableEq K] (m : GoMap K V) (ks : List K) (k : K) :
    (ks.foldl (fun m k => m.erase k) m).lookup k = if k ∈ ks then none else m.lookup k := by
  induction ks generalizing m with
  | nil => simp
  | cons k' ks ih =>
    rw [List.foldl_cons, ih, lookup_erase_eq]
    by_cases hk : k = k' <;> simp [hk]

lemma GoMap.lookup_foldl_insert_of_notMem [DecidableEq K] {key : X → K} (val : X → V) {l : List X}
    {k : K} (h : k ∉ l.map key) (m : GoMap K V) :
    (l.foldl (fun m x => m.insert (key x) (val x)) m).lookup k = m.lookup k := by
  induction l generalizing m with
  | nil => rfl
  | cons x l ih =>
    rw [List.map_cons, List.mem_cons, not_or] at h
    exact (ih h.2 _).trans (AList.lookup_insert_ne h.1)

lemma GoMap.lookup_foldl_insert_of_mem [DecidableEq K] {key : X → K} (val : X → V) {l : List X}
    (hnodup : (l.map key).Nodup) {x : X} (hx : x ∈ l) (m : GoMap K V) :
    (l.foldl (fun m x => m.insert (key x) (val x)) m).lookup (key x) = some (val x) := by
  induction l generalizing m with
  | nil => cases hx
  | cons y l ih =>
    obtain ⟨hnot, hnodup⟩ := List.nodup_cons.1 hnodup
    rcases List.mem_cons.1 hx with rfl | hx
    · rw [List.foldl_cons, lookup_foldl_insert_of_notMem val hnot]
      exact AList.lookup_insert _
    · exact ih hnodup hx _

/-- A map that is filled with the images of values is the image of the map that is filled with the
values. -/
lemma GoMap.lookup_foldl_insert_map {W : Type*} [DecidableEq K] {key : X → K} {val : X → V}
    {m : GoMap K V} {m' : GoMap K W} {f : V → W} (h : ∀ k, m'.lookup k = (m.lookup k).map f)
    (l : List X) (k : K) :
    (l.foldl (fun m x => m.insert (key x) (f (val x))) m').lookup k =
      ((l.foldl (fun m x => m.insert (key x) (val x)) m).lookup k).map f := by
  induction l generalizing m m' with
  | nil => exact h k
  | cons x l ih =>
    refine ih fun k => ?_
    rw [lookup_insert_eq, lookup_insert_eq, h]
    split_ifs <;> rfl

/-- `time.Second`. -/
def second : ℤ := 1000000000

end Dmqtt.Lib
