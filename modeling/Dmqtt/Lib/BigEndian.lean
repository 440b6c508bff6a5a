/-
Big-endian machine words.

A word is written as its bytes, most significant first, by shifting and truncating, and
read back by shifting the bytes into place and joining them with a bitwise or.  The
joined pieces never overlap, so the number read is the sum of the shifted bytes
(`toNat_get16`, `toNat_get32`); everything else is arithmetic.
-/
import Mathlib.Data.Nat.Bitwise
import Mathlib.Tactic

namespace Dmqtt.Lib.BigEndian

/-- The two bytes of a 16-bit word. -/
def put16 (v : UInt16) : List UInt8 := [(v >>> 8).toUInt8, v.toUInt8]

/-- The four bytes of a 32-bit word. -/
def put32 (v : UInt32) : List UInt8 :=
  [(v >>> 24).toUInt8, (v >>> 16).toUInt8, (v >>> 8).toUInt8, v.toUInt8]

/-- The eight bytes of a 64-bit word. -/
def put64 (v : UInt64) : List UInt8 :=
  [(v >>> 56).toUInt8, (v >>> 48).toUInt8, (v >>> 40).toUInt8, (v >>> 32).toUInt8,
    (v >>> 24).toUInt8, (v >>> 16).toUInt8, (v >>> 8).toUInt8, v.toUInt8]

/-- The word with the bytes `b₀`, `b₁`. -/
def get16 (b₀ b₁ : UInt8) : UInt16 := b₁.toUInt16 ||| b₀.toUInt16 <<< 8

/-- The word with the bytes `b₀`, `b₁`, `b₂`, `b₃`. -/
def get32 (b₀ b₁ b₂ b₃ : UInt8) : UInt32 :=
  b₃.toUInt32 ||| b₂.toUInt32 <<< 8 ||| b₁.toUInt32 <<< 16 ||| b₀.toUInt32 <<< 24

/-- The 64-bit word with the given bytes. -/
def get64 (bs : List UInt8) : UInt64 := bs.foldl (fun v b => v <<< 8 ||| b.toUInt64) 0

@[simp] lemma length_put16 (v : UInt16) : (put16 v).length = 2 := rfl

@[simp] lemma length_put32 (v : UInt32) : (put32 v).length = 4 := rfl

lemma or_shiftLeft_eq_add {a b i : ℕ} (h : b < 2 ^ i) : b ||| a <<< i = a * 2 ^ i + b := by
  rw [Nat.shiftLeft_eq, Nat.mul_comm, Nat.or_comm, ← Nat.two_pow_add_eq_or_of_lt h]

lemma toNat_get16 (b₀ b₁ : UInt8) : (get16 b₀ b₁).toNat = b₀.toNat * 256 + b₁.toNat := by
  have h₀ := b₀.toNat_lt
  have h₁ := b₁.toNat_lt
  have hs : b₀.toNat <<< 8 % 2 ^ 16 = b₀.toNat <<< 8 := by
    rw [Nat.shiftLeft_eq]
    exact Nat.mod_eq_of_lt (by omega)
  simp only [get16, UInt16.toNat_or, UInt16.toNat_shiftLeft, UInt8.toNat_toUInt16,
    UInt16.reduceToNat, Nat.reduceMod, hs]
  exact or_shiftLeft_eq_add (by omega)

lemma toNat_get32 (b₀ b₁ b₂ b₃ : UInt8) : (get32 b₀ b₁ b₂ b₃).toNat =
    b₀.toNat * 2 ^ 24 + (b₁.toNat * 2 ^ 16 + (b₂.toNat * 2 ^ 8 + b₃.toNat)) := by
  have h₀ := b₀.toNat_lt
  have h₁ := b₁.toNat_lt
  have h₂ := b₂.toNat_lt
  have h₃ := b₃.toNat_lt
  have hs₀ : b₀.toNat <<< 24 % 2 ^ 32 = b₀.toNat <<< 24 := by
    rw [Nat.shiftLeft_eq]
    exact Nat.mod_eq_of_lt (by omega)
  have hs₁ : b₁.toNat <<< 16 % 2 ^ 32 = b₁.toNat <<< 16 := by
    rw [Nat.shiftLeft_eq]
    exact Nat.mod_eq_of_lt (by omega)
  have hs₂ : b₂.toNat <<< 8 % 2 ^ 32 = b₂.toNat <<< 8 := by
    rw [Nat.shiftLeft_eq]
    exact Nat.mod_eq_of_lt (by omega)
  simp only [get32, UInt32.toNat_or, UInt32.toNat_shiftLeft, UInt8.toNat_toUInt32,
    UInt32.reduceToNat, Nat.reduceMod, hs₀, hs₁, hs₂]
  rw [or_shiftLeft_eq_add (i := 8) (by omega), or_shiftLeft_eq_add (i := 16) (by omega),
    or_shiftLeft_eq_add (i := 24) (by omega)]

lemma get16_put16 (v : UInt16) : get16 (v >>> 8).toUInt8 v.toUInt8 = v := by
  have hv := v.toNat_lt
  apply UInt16.toNat_inj.1
  rw [toNat_get16]
  simp only [UInt16.toNat_toUInt8, UInt16.toNat_shiftRight, UInt16.reduceToNat, Nat.reduceMod,
    Nat.shiftRight_eq_div_pow]
  omega

lemma put16_get16 (b₀ b₁ : UInt8) : put16 (get16 b₀ b₁) = [b₀, b₁] := by
  have hword := toNat_get16 b₀ b₁
  have h₀ := b₀.toNat_lt
  have h₁ := b₁.toNat_lt
  have hfst : (get16 b₀ b₁ >>> 8).toUInt8 = b₀ := by
    apply UInt8.toNat_inj.1
    simp only [UInt16.toNat_toUInt8, UInt16.toNat_shiftRight, UInt16.reduceToNat, Nat.reduceMod,
      Nat.shiftRight_eq_div_pow]
    omega
  have hsnd : (get16 b₀ b₁).toUInt8 = b₁ := by
    apply UInt8.toNat_inj.1
    rw [UInt16.toNat_toUInt8]
    omega
  rw [put16, hfst, hsnd]

lemma get32_put32 (v : UInt32) :
    get32 (v >>> 24).toUInt8 (v >>> 16).toUInt8 (v >>> 8).toUInt8 v.toUInt8 = v := by
  have hv := v.toNat_lt
  apply UInt32.toNat_inj.1
  rw [toNat_get32]
  simp only [UInt32.toNat_toUInt8, UInt32.toNat_shiftRight, UInt32.reduceToNat, Nat.reduceMod,
    Nat.shiftRight_eq_div_pow]
  omega

lemma toNat_get16_toUInt8 {n : ℕ} (h : n < 65536) :
    (get16 (n >>> 8).toUInt8 n.toUInt8).toNat = n := by
  rw [toNat_get16]
  simp only [Nat.toUInt8_eq, UInt8.toNat_ofNat', Nat.shiftRight_eq_div_pow]
  omega

end Dmqtt.Lib.BigEndian
