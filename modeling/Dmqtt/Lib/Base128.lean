/-
Little-endian base-128 numerals with a continuation bit.

A number is written as its base-128 digits, least significant first, one digit to a
byte; every byte but the last has its top bit set.  `Base128.encode` writes a number
and `Base128.Decodes k ds v` says that a reader allowed `k` bytes reads exactly the bytes `ds`
and obtains `v`.  The main result is `Base128.decodes_encode`: what was written is
read back within `k` bytes as soon as the number is below `128 ^ k`.  A larger number does not end
within `k` bytes (`exists_not_last_of_le`), and no numeral of a number is shorter than the one that
is written (`Decodes.length_encode_le`).
-/
import Mathlib.Data.Nat.Bitwise
import Mathlib.Tactic

namespace Dmqtt.Lib.Base128

/-- The bytes of `n`, least significant digit first. -/
def encode (n : ℕ) : List UInt8 :=
  let b := (n % 128).toUInt8
  let n' := n / 128
  if 0 < n' then (b ||| 0x80) :: encode n' else [b]
termination_by n
decreasing_by omega

lemma encode_of_lt {n : ℕ} (h : n < 128) : encode n = [(n % 128).toUInt8] := by
  rw [encode]
  simp only [Nat.div_eq_of_lt h, lt_irrefl, if_false]

lemma encode_of_le {n : ℕ} (h : 128 ≤ n) :
    encode n = ((n % 128).toUInt8 ||| 0x80) :: encode (n / 128) := by
  rw [encode]
  simp only [Nat.div_pos h (by norm_num), if_true]

lemma encode_ne_nil (n : ℕ) : encode n ≠ [] := by
  rw [encode]
  split_ifs <;> simp

lemma length_encode_pos (n : ℕ) : 0 < (encode n).length :=
  List.length_pos_iff.2 (encode_ne_nil n)

/-! ### Single bytes -/

/-- The digit that a byte carries. -/
def digit (b : UInt8) : ℕ := (b &&& 0x7F).toNat

/-- A byte ends the numeral when its top bit is clear. -/
def Last (b : UInt8) : Prop := b &&& 0x80 = 0

instance (b : UInt8) : Decidable (Last b) := inferInstanceAs (Decidable (_ = _))

lemma digit_toUInt8 {d : ℕ} (h : d < 128) : digit d.toUInt8 = d := by
  revert d
  decide

lemma digit_toUInt8_or {d : ℕ} (h : d < 128) : digit (d.toUInt8 ||| 0x80) = d := by
  revert d
  decide

lemma last_toUInt8 {d : ℕ} (h : d < 128) : Last d.toUInt8 := by
  revert d
  decide

lemma not_last_toUInt8_or {d : ℕ} (h : d < 128) : ¬ Last (d.toUInt8 ||| 0x80) := by
  revert d
  decide

/-! ### Reading -/

/-- A reader that is allowed `k` bytes reads exactly the bytes `ds`, whose value is
`v`. -/
inductive Decodes : ℕ → List UInt8 → ℕ → Prop
  | last {k : ℕ} {b : UInt8} (hb : Last b) : Decodes (k + 1) [b] (digit b)
  | more {k : ℕ} {b : UInt8} {ds : List UInt8} {v : ℕ} (hb : ¬ Last b)
      (h : Decodes k ds v) : Decodes (k + 1) (b :: ds) (digit b + 128 * v)

/-- **What was written is read back**, within `k` bytes, for every number below
`128 ^ k`. -/
theorem decodes_encode : ∀ (k n : ℕ), n < 128 ^ (k + 1) → Decodes (k + 1) (encode n) n := by
  intro k
  induction k with
  | zero =>
    intro n hn
    have hn' : n < 128 := by simpa using hn
    have hd : digit (n % 128).toUInt8 = n := by
      rw [digit_toUInt8 (Nat.mod_lt _ (by norm_num)), Nat.mod_eq_of_lt hn']
    rw [encode_of_lt hn']
    have h := Decodes.last (k := 0) (last_toUInt8 (Nat.mod_lt n (by norm_num : 0 < 128)))
    rwa [hd] at h
  | succ k ih =>
    intro n hn
    have hmod : n % 128 < 128 := Nat.mod_lt _ (by norm_num)
    by_cases hlt : n < 128
    · have h := Decodes.last (k := k + 1) (last_toUInt8 hmod)
      rw [digit_toUInt8 hmod, Nat.mod_eq_of_lt hlt] at h
      rw [encode_of_lt hlt, Nat.mod_eq_of_lt hlt]
      exact h
    · have hdiv : n / 128 < 128 ^ (k + 1) := by
        rw [Nat.div_lt_iff_lt_mul (by norm_num)]
        rwa [pow_succ] at hn
      have h := Decodes.more (not_last_toUInt8_or hmod) (ih (n / 128) hdiv)
      rw [digit_toUInt8_or hmod, Nat.mod_add_div] at h
      rw [encode_of_le (by omega)]
      exact h

/-! ### Lengths -/

lemma digit_lt (b : UInt8) : digit b < 128 := by
  have hle : (b &&& 0x7F).toNat ≤ 127 := by
    rw [UInt8.toNat_and]
    exact Nat.and_le_right
  exact Nat.lt_succ_of_le hle

lemma Decodes.lt_pow {k v : ℕ} {ds : List UInt8} (h : Decodes k ds v) : v < 128 ^ ds.length := by
  induction h with
  | @last k b hb => simpa using digit_lt b
  | @more k b ds v hb h ih =>
    have hd := digit_lt b
    rw [List.length_cons, pow_succ]
    omega

lemma length_encode_le_iff (j n : ℕ) : (encode n).length ≤ j + 1 ↔ n < 128 ^ (j + 1) := by
  induction j generalizing n with
  | zero =>
    by_cases hn : n < 128
    · simp [encode_of_lt hn, hn]
    · have hpos := length_encode_pos (n / 128)
      rw [encode_of_le (by omega), List.length_cons]
      refine iff_of_false (by omega) ?_
      simpa using hn
  | succ j ih =>
    by_cases hn : n < 128
    · have hle : 128 ≤ 128 ^ (j + 1 + 1) := Nat.le_self_pow (by omega) 128
      rw [encode_of_lt hn]
      exact iff_of_true (by simp) (by omega)
    · rw [encode_of_le (by omega), List.length_cons, Nat.succ_le_succ_iff, ih,
        Nat.div_lt_iff_lt_mul (by norm_num), ← pow_succ]

lemma Decodes.length_encode_le {k n : ℕ} {ds : List UInt8} (h : Decodes k ds n) :
    (encode n).length ≤ ds.length := by
  have hlt := h.lt_pow
  cases h with
  | last hb => exact (length_encode_le_iff 0 _).2 hlt
  | more hb h => exact (length_encode_le_iff _ _).2 hlt

lemma exists_not_last_of_le {k n : ℕ} (h : 128 ^ k ≤ n) :
    ∃ ds rest, encode n = ds ++ rest ∧ ds.length = k ∧ ∀ b ∈ ds, ¬ Last b := by
  induction k generalizing n with
  | zero => exact ⟨[], encode n, rfl, rfl, nofun⟩
  | succ k ih =>
    have hdiv : 128 ^ k ≤ n / 128 := by
      rwa [Nat.le_div_iff_mul_le (by norm_num), ← pow_succ]
    have hle : 128 ≤ 128 ^ (k + 1) := Nat.le_self_pow (by omega) 128
    obtain ⟨ds, rest, hrest, hlen, hds⟩ := ih hdiv
    refine ⟨((n % 128).toUInt8 ||| 0x80) :: ds, rest, ?_, by rw [List.length_cons, hlen], ?_⟩
    · rw [encode_of_le (by omega), hrest, List.cons_append]
    · exact List.forall_mem_cons.2 ⟨not_last_toUInt8_or (Nat.mod_lt n (by norm_num)), hds⟩

end Dmqtt.Lib.Base128
