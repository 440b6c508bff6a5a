/-
Decimal numerals of a fixed width, as ASCII digits.

Numerals of one width are ordered, byte by byte, as the numbers are (`decimal_lt_decimal`).
-/
import Mathlib.Tactic

namespace Dmqtt.Lib

/-- The last `w` decimal digits of a number. -/
def decimal : ℕ → ℕ → List UInt8
  | 0, _ => []
  | w + 1, n => decimal w (n / 10) ++ [UInt8.ofNat (48 + n % 10)]

@[simp] lemma length_decimal (w n : ℕ) : (decimal w n).length = w := by
  induction w generalizing n with
  | zero => rfl
  | succ w ih => rw [decimal, List.length_append, ih, List.length_singleton]

lemma toNat_digit (n : ℕ) : (UInt8.ofNat (48 + n % 10)).toNat = 48 + n % 10 :=
  UInt8.toNat_ofNat_of_lt' (by simp [UInt8.size]; omega)

lemma digit_of_mem_decimal {w n : ℕ} {x : UInt8} (h : x ∈ decimal w n) :
    48 ≤ x.toNat ∧ x.toNat < 58 := by
  induction w generalizing n with
  | zero => cases h
  | succ w ih =>
    rcases List.mem_append.1 h with h | h
    · exact ih h
    · rw [List.mem_singleton.1 h, toNat_digit]
      omega

lemma append_lt_append {l l' : List UInt8} (hlen : l.length = l'.length) (h : l < l')
    (r r' : List UInt8) : l ++ r < l' ++ r' := by
  induction l generalizing l' with
  | nil =>
    rw [List.eq_nil_of_length_eq_zero hlen.symm] at h
    exact absurd h (List.lt_irrefl _)
  | cons x l ih =>
    cases l' with
    | nil => cases hlen
    | cons y l' =>
      rw [List.cons_append, List.cons_append, List.cons_lt_cons_iff]
      rcases List.cons_lt_cons_iff.1 h with hxy | ⟨hxy, h⟩
      · exact Or.inl hxy
      · exact Or.inr ⟨hxy, ih (Nat.succ.inj hlen) h⟩

lemma decimal_lt_decimal {w m n : ℕ} (h : m < n) (hn : n < 10 ^ w) :
    decimal w m < decimal w n := by
  induction w generalizing m n with
  | zero => omega
  | succ w ih =>
    rw [decimal, decimal]
    rcases Nat.lt_or_ge (m / 10) (n / 10) with hdiv | hdiv
    · refine append_lt_append (by simp) (ih hdiv ?_) _ _
      rw [pow_succ] at hn
      omega
    · -- the numbers differ in the last digit
      have heq : m / 10 = n / 10 := by omega
      rw [heq]
      refine List.append_left_lt (List.cons_lt_cons_iff.2 (Or.inl ?_))
      rw [UInt8.lt_iff_toNat_lt, toNat_digit, toNat_digit]
      omega

end Dmqtt.Lib
