/-
Maps that keep the largest value of each key.

`LargestOf S best` says that `best` has the keys of the set `S` of pairs, each with its largest
value.  A loop that puts pairs into such a map keeps this up for the pairs that it has seen.
`IsLargest S o` is the same for a single key.
-/
import Dmqtt.Lib.GoTypes
import Mathlib.Order.Bounds.Basic

namespace Dmqtt.Lib

variable {K V : Type*} [DecidableEq K]

section Keep

variable [LT V] [DecidableLT V]

/-- Put a pair into the map, unless the value there is as large. -/
def keepLargest (best : GoMap K V) (x : K × V) : GoMap K V :=
  match best.lookup x.1 with
  | none => best.insert x.1 x.2
  | some existing => if x.2 > existing then best.insert x.1 x.2 else best

/-- The larger of a value and the one that is there. -/
def larger (o : Option V) (v : V) : V :=
  match o with
  | none => v
  | some existing => if v > existing then v else existing

lemma lookup_keepLargest (best : GoMap K V) (x : K × V) (k : K) :
    (keepLargest best x).lookup k =
      if k = x.1 then some (larger (best.lookup x.1) x.2) else best.lookup k := by
  rw [keepLargest]
  cases hl : best.lookup x.1 with
  | none => exact GoMap.lookup_insert_eq ..
  | some existing =>
    dsimp only [larger]
    split_ifs with hlt h h
    · rw [GoMap.lookup_insert_eq, if_pos h]
    · rw [GoMap.lookup_insert_eq, if_neg h]
    · subst h
      exact hl
    · rfl

lemma larger_mem (o : Option V) (v : V) : larger o v = v ∨ o = some (larger o v) := by
  cases o with
  | none => exact Or.inl rfl
  | some existing =>
    rw [larger]
    split_ifs
    · exact Or.inl rfl
    · exact Or.inr rfl

end Keep

section Order

variable [LE V]

/-- The map has each key of the set with its largest value, and no other key. -/
structure LargestOf (S : Set (K × V)) (best : GoMap K V) : Prop where
  isGreatest : ∀ {k v}, best.lookup k = some v → IsGreatest {v | (k, v) ∈ S} v
  total : ∀ {k v}, (k, v) ∈ S → ∃ v', best.lookup k = some v'

/-- The value is the largest one of the set, which is empty if there is none. -/
def IsLargest (S : Set V) : Option V → Prop
  | none => S = ∅
  | some v => IsGreatest S v

lemma largestOf_iff {S : Set (K × V)} {best : GoMap K V} :
    LargestOf S best ↔ ∀ k, IsLargest {v | (k, v) ∈ S} (best.lookup k) := by
  constructor
  · intro h k
    cases hk : best.lookup k with
    | none =>
      refine Set.eq_empty_iff_forall_notMem.2 fun v hv => ?_
      obtain ⟨v', hv'⟩ := h.total hv
      rw [hk] at hv'
      cases hv'
    | some v => exact h.isGreatest hk
  · intro h
    refine ⟨fun {k v} hk => ?_, fun {k v} hv => ?_⟩
    · have hlargest := h k
      rwa [hk] at hlargest
    · cases hk : best.lookup k with
      | none =>
        have hnone := h k
        rw [hk] at hnone
        exact absurd hv (Set.eq_empty_iff_forall_notMem.1 hnone v)
      | some v' => exact ⟨v', rfl⟩

namespace LargestOf

lemma empty : LargestOf (∅ : Set (K × V)) ∅ where
  isGreatest h := by simp at h
  total h := absurd h (Set.notMem_empty _)

/-- The rule for a loop: if one round adds the pairs `T a`, then the loop over a list adds those
of all its elements. -/
lemma foldl {α : Type*} {f : GoMap K V → α → GoMap K V} {T : α → Set (K × V)}
    {S : Set (K × V)} {best : GoMap K V}
    (hf : ∀ {S best} a, LargestOf S best → LargestOf (S ∪ T a) (f best a)) (h : LargestOf S best)
    (l : List α) : LargestOf (S ∪ {x | ∃ a ∈ l, x ∈ T a}) (l.foldl f best) := by
  induction l generalizing S best with
  | nil => simpa using h
  | cons a l ih =>
    have hnext := ih (hf a h)
    rw [Set.union_assoc] at hnext
    have hset : {x | ∃ a' ∈ a :: l, x ∈ T a'} = T a ∪ {x | ∃ a' ∈ l, x ∈ T a'} := by
      ext x
      simp
    rwa [hset]

end LargestOf

variable [LT V] [DecidableLT V] [Std.IsLinearOrder V] [Std.LawfulOrderLT V]

lemma le_larger (o : Option V) (v : V) : v ≤ larger o v := by
  cases o with
  | none => exact Std.le_refl _
  | some existing =>
    rw [larger]
    split_ifs with h
    · exact Std.le_refl _
    · exact Std.not_lt.1 h

lemma le_larger_of_eq_some {o : Option V} {existing : V} (h : o = some existing) (v : V) :
    existing ≤ larger o v := by
  subst h
  rw [larger]
  split_ifs with hlt
  · exact Std.le_of_lt hlt
  · exact Std.le_refl _

lemma IsLargest.insert {S : Set V} {o : Option V} (h : IsLargest S o) (v : V) :
    IsLargest (Set.insert v S) (some (larger o v)) := by
  constructor
  · rcases larger_mem o v with heq | hmem
    · exact Or.inl heq
    · rw [hmem] at h
      exact Or.inr h.1
  · rintro w (rfl | hw)
    · exact le_larger _ _
    · cases o with
      | none =>
        rw [show S = ∅ from h] at hw
        exact absurd hw (Set.notMem_empty w)
      | some existing => exact Std.le_trans (h.2 hw) (le_larger_of_eq_some rfl v)

namespace LargestOf

variable {S : Set (K × V)} {best : GoMap K V}

lemma keepLargest (h : LargestOf S best) (x : K × V) :
    LargestOf (insert x S) (keepLargest best x) := by
  obtain ⟨k₀, v₀⟩ := x
  rw [largestOf_iff] at h ⊢
  intro k
  rw [lookup_keepLargest]
  split_ifs with hk
  · subst hk
    have hset : {v | (k, v) ∈ insert (k, v₀) S} = Set.insert v₀ {v | (k, v) ∈ S} := by
      ext v
      exact or_congr_left (by simp)
    rw [hset]
    exact (h k).insert v₀
  · have hset : {v | (k, v) ∈ insert (k₀, v₀) S} = {v | (k, v) ∈ S} := by
      ext v
      simp [hk]
    rw [hset]
    exact h k

end LargestOf

end Order

end Dmqtt.Lib
