/-
Bounds-checked reads from a list that stands for a slice of memory.

An index or a slice expression whose bounds are wrong stops the program; here it
has the value `none`.  The lemmas are about a list cut in pieces, `pre ++ m ++ post`:
a read at the length of `pre` sees the beginning of `m`, and a slice of the length
of `m` taken there is `m`.  A reader that walks along an encoding is followed with
these lemmas only, and never by unfolding `slice`.
-/
import Mathlib.Data.List.Basic
import Mathlib.Tactic

namespace Dmqtt.Lib

variable {α : Type*}

/-- The slice expression `data[lo:hi]`. -/
def slice (data : List α) (lo hi : ℕ) : Option (List α) :=
  if lo ≤ hi ∧ hi ≤ data.length then some ((data.drop lo).take (hi - lo)) else none

/-- The slice expression `data[lo:]`. -/
def sliceFrom (data : List α) (lo : ℕ) : Option (List α) :=
  slice data lo data.length

lemma slice_eq_some {data : List α} {lo hi : ℕ} (h₁ : lo ≤ hi) (h₂ : hi ≤ data.length) :
    slice data lo hi = some ((data.drop lo).take (hi - lo)) := by
  rw [slice, if_pos ⟨h₁, h₂⟩]

lemma slice_middle (pre m post : List α) :
    slice (pre ++ (m ++ post)) pre.length (pre.length + m.length) = some m := by
  rw [slice_eq_some (by omega) (by simp only [List.length_append]; omega)]
  simp

lemma slice_middle' {pre m post : List α} {lo hi : ℕ} (hlo : lo = pre.length)
    (hhi : hi = pre.length + m.length) : slice (pre ++ (m ++ post)) lo hi = some m := by
  subst hlo hhi
  exact slice_middle pre m post

lemma sliceFrom_append (pre post : List α) :
    sliceFrom (pre ++ post) pre.length = some post := by
  rw [sliceFrom, slice_eq_some (by simp) le_rfl]
  simp

end Dmqtt.Lib
