/-
Variable byte integers: the two encoders and the two decoders.

The remaining length of a packet is read byte by byte from a stream
(`internal/codec/fixed_header.go`), the lengths in a property section from a slice at an offset
(`internal/codec/properties.go`).  `decoders_agree` follows the two loops side by side, whatever the
bytes are; `varInt_roundTrip` adds what the encoders write.
-/
import Dmqtt.Codec.FilterPackets

namespace Dmqtt.Codec

open Lib Lib.Base128

/-- The error of the decoder of a stream, and that of the decoder of a slice on the same bytes. -/
inductive SameFailure : Err → Err → Prop
  /-- the bytes end inside the integer -/
  | ended : SameFailure .eof (.malformed "truncated variable byte integer")
  /-- the fourth byte announces another one -/
  | tooLong : SameFailure (.malformed "remaining length exceeds 4 bytes")
      (.malformed "variable byte integer exceeds 4 bytes")

/-- The two loops, from the same byte on. -/
lemma loops_agree (k : ℕ) {pre : Bytes} {offset i : ℕ} (hi : offset + i = pre.length)
    (multiplier value : ℕ) (bs : Bytes) :
    (∃ v ds rest, bs = ds ++ rest ∧
      decodeRemainingLengthLoop k multiplier value bs = .ok (v, rest) ∧
      decodeVarIntLoop (pre ++ bs) offset k i multiplier value = .ok (v, i + ds.length)) ∨
    ∃ e e', SameFailure e e' ∧ decodeRemainingLengthLoop k multiplier value bs = .error e ∧
      decodeVarIntLoop (pre ++ bs) offset k i multiplier value = .error e' := by
  induction k generalizing pre i bs multiplier value with
  | zero => exact Or.inr ⟨_, _, .tooLong, rfl, rfl⟩
  | succ k ih =>
    cases bs with
    | nil =>
      refine Or.inr ⟨_, _, .ended, rfl, ?_⟩
      rw [decodeVarIntLoop, if_pos (by simp [hi])]
    | cons b bs =>
      rw [decodeRemainingLengthLoop_cons, decodeVarIntLoop_cons hi]
      by_cases hb : Last b
      · rw [if_pos hb, if_pos hb]
        exact Or.inl ⟨_, [b], bs, rfl, rfl, rfl⟩
      · rw [if_neg hb, if_neg hb, List.append_cons]
        have hi' : offset + (i + 1) = (pre ++ [b]).length := by
          rw [List.length_append, List.length_singleton]
          omega
        rcases ih hi' (multiplier * 128) (value + digit b * multiplier) bs with
          ⟨v, ds, rest, rfl, hstream, hslice⟩ | hfail
        · refine Or.inl ⟨v, b :: ds, rest, rfl, hstream, ?_⟩
          rw [hslice, List.length_cons, Nat.add_assoc, Nat.add_comm 1]
        · exact Or.inr hfail

/-- The decoders agree on all bytes: they return the same value and take the same bytes, or fail
for the same reason. -/
lemma decoders_agree (pre bs : Bytes) :
    (∃ v ds rest, bs = ds ++ rest ∧ decodeRemainingLength bs = .ok (v, rest) ∧
      decodeVarInt (pre ++ bs) pre.length = .ok (v, ds.length)) ∨
    ∃ e e', SameFailure e e' ∧ decodeRemainingLength bs = .error e ∧
      decodeVarInt (pre ++ bs) pre.length = .error e' := by
  have h := loops_agree 4 (Nat.add_zero pre.length) 1 0 bs
  simp only [Nat.zero_add] at h
  exact h

lemma decodes_of_decodeRemainingLength {ds post : Bytes} {n : ℕ}
    (h : decodeRemainingLength (ds ++ post) = .ok (n, post)) : Decodes 4 ds n := by
  rcases decoders_agree [] (ds ++ post) with ⟨v, ds', rest, hsplit, hstream, hslice⟩ |
    ⟨e, e', -, hstream, -⟩
  · rw [h] at hstream
    obtain ⟨rfl, rfl⟩ := Prod.mk.inj (Except.ok.inj hstream)
    obtain rfl := List.append_cancel_right hsplit
    obtain ⟨item, post', heq, hlen, hdec⟩ := (recognizes_decodeVarInt [] (ds ++ post) n _).1 hslice
    obtain ⟨rfl, -⟩ := List.append_inj heq hlen.symm
    exact hdec
  · rw [h] at hstream
    cases hstream

lemma decodeRemainingLengthLoop_not_last {ds : Bytes} (h : ∀ b ∈ ds, ¬ Last b)
    (multiplier value : ℕ) (r : Bytes) :
    decodeRemainingLengthLoop ds.length multiplier value (ds ++ r) =
      .error (.malformed "remaining length exceeds 4 bytes") := by
  induction ds generalizing multiplier value with
  | nil => rfl
  | cons b ds ih =>
    obtain ⟨hb, hds⟩ := List.forall_mem_cons.1 h
    rw [List.length_cons, List.cons_append, decodeRemainingLengthLoop_cons, if_neg hb]
    exact ih hds _ _

/-- A number that is too large is written, but not read back. -/
lemma decodeRemainingLength_of_lt {n : ℕ} (h : maxRemainingLength < n) (r : Bytes) :
    decodeRemainingLength (encodeRemainingLength n ++ r) =
      .error (.malformed "remaining length exceeds 4 bytes") := by
  have hle : 128 ^ 4 ≤ n := h
  obtain ⟨ds, rest, hencode, hlen, hds⟩ := exists_not_last_of_le hle
  have hloop := decodeRemainingLengthLoop_not_last hds 1 0 (rest ++ r)
  rw [hlen] at hloop
  rw [encodeRemainingLength, hencode, List.append_assoc]
  exact hloop

/-- **Variable byte integers.**  Up to `maxRemainingLength` what either encoder writes is the
shortest numeral of the number, and both decoders read it back and stop at its end.  What is written
for a larger number both refuse.  On all other bytes the decoders agree, too. -/
theorem varInt_roundTrip :
    (∀ n, encodeRemainingLength n = encodeVarInt n) ∧
    (∀ n ≤ maxRemainingLength, ∀ pre post : Bytes,
      decodeRemainingLength (encodeRemainingLength n ++ post) = .ok (n, post) ∧
      decodeVarInt (pre ++ (encodeVarInt n ++ post)) pre.length =
        .ok (n, (encodeVarInt n).length) ∧
      1 ≤ (encodeVarInt n).length ∧ (encodeVarInt n).length ≤ 4 ∧
      ∀ ds : Bytes, decodeRemainingLength (ds ++ post) = .ok (n, post) ∨
        decodeVarInt (pre ++ (ds ++ post)) pre.length = .ok (n, ds.length) →
          (encodeVarInt n).length ≤ ds.length) ∧
    (∀ n > maxRemainingLength, ∀ pre post : Bytes,
      (∃ e, decodeRemainingLength (encodeRemainingLength n ++ post) = .error e) ∧
      ∃ e, decodeVarInt (pre ++ (encodeVarInt n ++ post)) pre.length = .error e) ∧
    ∀ pre bs : Bytes,
      (∃ v ds rest, bs = ds ++ rest ∧ decodeRemainingLength bs = .ok (v, rest) ∧
        decodeVarInt (pre ++ bs) pre.length = .ok (v, ds.length)) ∨
      ∃ e e', SameFailure e e' ∧ decodeRemainingLength bs = .error e ∧
        decodeVarInt (pre ++ bs) pre.length = .error e' := by
  refine ⟨fun n => rfl, fun n hn pre post => ?_, fun n hn pre post => ?_, decoders_agree⟩
  · refine ⟨decodeRemainingLength_append hn post, decodeVarInt_append hn pre post,
      length_encode_pos n, (length_encode_le_iff 3 n).2 ?_, fun ds hds => ?_⟩
    · rw [maxRemainingLength] at hn
      norm_num
      omega
    · rcases hds with hds | hds
      · exact (decodes_of_decodeRemainingLength hds).length_encode_le
      · obtain ⟨item, post', heq, hlen, hdec⟩ :=
          (recognizes_decodeVarInt pre (ds ++ post) n _).1 hds
        obtain ⟨rfl, -⟩ := List.append_inj heq hlen.symm
        exact hdec.length_encode_le
  · have hstream := decodeRemainingLength_of_lt hn post
    refine ⟨⟨_, hstream⟩, ?_⟩
    rcases decoders_agree pre (encodeVarInt n ++ post) with ⟨v, ds, rest, -, hok, -⟩ |
      ⟨e, e', -, -, hslice⟩
    · rw [show encodeVarInt n = encodeRemainingLength n from rfl, hstream] at hok
      cases hok
    · exact ⟨e', hslice⟩

end Dmqtt.Codec
