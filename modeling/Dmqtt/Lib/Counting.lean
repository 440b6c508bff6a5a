/-
Counting and adding up in a list, one entry of which is changed.
-/
import Mathlib.Algebra.GroupWithZero.Nat
import Mathlib.Data.List.Count

namespace Dmqtt.Lib

variable {α : Type*}

lemma sum_map_set_add (f : α → ℕ) {l : List α} {i : ℕ} {x : α} (h : l[i]? = some x) (y : α) :
    ((l.set i y).map f).sum + f x = (l.map f).sum + f y := by
  induction l generalizing i with
  | nil => cases h
  | cons z l ih =>
    cases i with
    | zero =>
      obtain rfl : z = x := by simpa using h
      rw [List.set_cons_zero, List.map_cons, List.map_cons, List.sum_cons, List.sum_cons]
      omega
    | succ i =>
      have hset := ih (i := i) (by simpa using h)
      rw [List.set_cons_succ, List.map_cons, List.map_cons, List.sum_cons, List.sum_cons]
      omega

lemma sum_map_ite (p : α → Bool) (l : List α) :
    (l.map fun x => if p x then 1 else 0).sum = l.countP p := by
  induction l with
  | nil => rfl
  | cons x l ih =>
    rw [List.map_cons, List.sum_cons, ih, List.countP_cons]
    omega

lemma countP_set_add (p : α → Bool) {l : List α} {i : ℕ} {x : α} (h : l[i]? = some x) (y : α) :
    (l.set i y).countP p + (if p x then 1 else 0) = l.countP p + if p y then 1 else 0 := by
  rw [← sum_map_ite, ← sum_map_ite]
  exact sum_map_set_add (fun x => if p x then 1 else 0) h y

lemma countP_modify_le {p : α → Bool} {f : α → α} (h : ∀ x, p (f x) → p x)
    (l : List α) (k : ℕ) : (l.modify k f).countP p ≤ l.countP p := by
  induction l generalizing k with
  | nil => simp
  | cons x l ih =>
    cases k with
    | zero =>
      rw [List.modify_zero_cons, List.countP_cons, List.countP_cons]
      have hx := h x
      split_ifs with hfx hpx
      · exact Nat.le_refl _
      · exact absurd (hx hfx) hpx
      · omega
      · exact Nat.le_refl _
    | succ k =>
      rw [List.modify_succ_cons, List.countP_cons, List.countP_cons]
      exact Nat.add_le_add_right (ih k) _

lemma countP_and_add_countP_and_not (p q : α → Bool) (l : List α) :
    l.countP (fun x => p x && q x) + l.countP (fun x => p x && !q x) = l.countP p := by
  rw [List.countP_eq_countP_filter_add l p q, List.countP_filter, List.countP_filter]

end Dmqtt.Lib
