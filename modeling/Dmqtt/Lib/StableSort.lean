/-
Stable sorting, by arrival numbers.

A list of numbered elements is sorted by a relation `r` on the elements alone.  If the elements
that `r` does not tell apart stand in the order of their numbers, the result is the list sorted
by `r` and then by number (`insertionSort_byValue_eq`), whatever the order of the other elements
was.
-/
import Mathlib.Data.List.Sort
import Mathlib.Data.List.Nodup

namespace Dmqtt.Lib

variable {α : Type*} (r : α → α → Prop)

/-- The relation on the elements, without their numbers. -/
def byValue (x y : ℕ × α) : Prop := r x.2 y.2

/-- The relation on the elements, and among those that it does not tell apart the order of the
numbers. -/
def byArrival (x y : ℕ × α) : Prop := r x.2 y.2 ∧ (r y.2 x.2 → x.1 ≤ y.1)

/-- Elements that `r` does not tell apart stand in the order of their numbers. -/
def TiesInOrder (l : List (ℕ × α)) : Prop :=
  l.Pairwise fun x y => r x.2 y.2 → r y.2 x.2 → x.1 ≤ y.1

instance [DecidableRel r] : DecidableRel (byValue r) := fun x y =>
  inferInstanceAs (Decidable (r x.2 y.2))

instance [DecidableRel r] : DecidableRel (byArrival r) := fun x y =>
  inferInstanceAs (Decidable (r x.2 y.2 ∧ (r y.2 x.2 → x.1 ≤ y.1)))

instance [Std.Total r] : Std.Total (byArrival r) where
  total x y := by
    by_cases hxy : r x.2 y.2
    · by_cases hyx : r y.2 x.2
      · exact (Nat.le_total x.1 y.1).imp (fun h => ⟨hxy, fun _ => h⟩) fun h => ⟨hyx, fun _ => h⟩
      · exact Or.inl ⟨hxy, fun h => absurd h hyx⟩
    · exact Or.inr ⟨(Std.Total.total x.2 y.2).resolve_left hxy, fun h => absurd h hxy⟩

instance [IsTrans α r] : IsTrans (ℕ × α) (byArrival r) where
  trans x y z hxy hyz := by
    refine ⟨IsTrans.trans _ _ _ hxy.1 hyz.1, fun hzx => ?_⟩
    calc x.1 ≤ y.1 := hxy.2 (IsTrans.trans _ _ _ hyz.1 hzx)
      _ ≤ z.1 := hyz.2 (IsTrans.trans _ _ _ hzx hxy.1)

variable {r}

lemma TiesInOrder.sublist {l l' : List (ℕ × α)} (h : TiesInOrder r l) (hs : l'.Sublist l) :
    TiesInOrder r l' := List.Pairwise.sublist hs h

lemma tiesInOrder_of_byArrival {l : List (ℕ × α)} (h : l.Pairwise (byArrival r)) :
    TiesInOrder r l := h.imp fun hxy _ hyx => hxy.2 hyx

lemma TiesInOrder.concat {l : List (ℕ × α)} (h : TiesInOrder r l) {x : ℕ × α}
    (hx : ∀ y ∈ l, y.1 ≤ x.1) : TiesInOrder r (l ++ [x]) := by
  rw [TiesInOrder, List.pairwise_append]
  refine ⟨h, List.pairwise_singleton _ _, ?_⟩
  intro y hy z hz _ _
  rw [List.mem_singleton.1 hz]
  exact hx y hy

section Sorting

variable [DecidableRel r]

lemma map_insertionSort_byValue (l : List (ℕ × α)) :
    (l.insertionSort (byValue r)).map Prod.snd = (l.map Prod.snd).insertionSort r :=
  List.map_insertionSort _ _ _ _ fun _ _ _ _ => Iff.rfl

variable [Std.Total r] [IsTrans α r]

lemma pairwise_orderedInsert_byValue {x : ℕ × α} {l : List (ℕ × α)}
    (hl : l.Pairwise (byArrival r)) (hx : ∀ y ∈ l, r x.2 y.2 → r y.2 x.2 → x.1 ≤ y.1) :
    (l.orderedInsert (byValue r) x).Pairwise (byArrival r) := by
  induction l with
  | nil => exact List.pairwise_singleton _ _
  | cons y l ih =>
    obtain ⟨hy, hl'⟩ := List.pairwise_cons.1 hl
    rw [List.orderedInsert_cons]
    split_ifs with hxy
    · -- what `x` is not after, is not before `x` either
      refine List.pairwise_cons.2 ⟨?_, hl⟩
      intro z hz
      have hxz : r x.2 z.2 := by
        rcases List.mem_cons.1 hz with rfl | hz'
        · exact hxy
        · exact IsTrans.trans _ _ _ hxy (hy z hz').1
      exact ⟨hxz, hx z hz hxz⟩
    · refine List.pairwise_cons.2 ⟨?_, ih hl' fun z hz => hx z (List.mem_cons_of_mem _ hz)⟩
      intro z hz
      rcases (List.mem_orderedInsert _).1 hz with rfl | hz
      · exact ⟨(Std.Total.total z.2 y.2).resolve_left hxy, fun h => absurd h hxy⟩
      · exact hy z hz

/-- Sorting by the elements alone keeps the order of arrival among ties. -/
lemma pairwise_insertionSort_byValue {l : List (ℕ × α)} (h : TiesInOrder r l) :
    (l.insertionSort (byValue r)).Pairwise (byArrival r) := by
  induction l with
  | nil => exact List.Pairwise.nil
  | cons x l ih =>
    obtain ⟨hx, hl⟩ := List.pairwise_cons.1 h
    refine pairwise_orderedInsert_byValue (ih hl) fun y hy => hx y ?_
    exact (List.perm_insertionSort _ l).subset hy

/-- The stable sort is the sort by element and number, which does not depend on the order in
which the elements stand. -/
lemma insertionSort_byValue_eq {l l' : List (ℕ × α)} (h : TiesInOrder r l) (hp : l.Perm l')
    (hnodup : (l'.map Prod.fst).Nodup) :
    l.insertionSort (byValue r) = l'.insertionSort (byArrival r) := by
  have hl : (l.insertionSort (byValue r)).Perm l' := (List.perm_insertionSort _ l).trans hp
  have hl' : (l'.insertionSort (byArrival r)).Perm l' := List.perm_insertionSort _ l'
  refine List.Perm.eq_of_pairwise ?_ (pairwise_insertionSort_byValue h)
    (List.pairwise_insertionSort (byArrival r) l') (hl.trans hl'.symm)
  intro x y hx hy hxy hyx
  have hnum : x.1 = y.1 := le_antisymm (hxy.2 hyx.1) (hyx.2 hxy.1)
  exact List.inj_on_of_nodup_map hnodup (hl.subset hx) (hl'.subset hy) hnum

end Sorting

end Dmqtt.Lib
