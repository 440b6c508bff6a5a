/-
The fixed header and the packet reader (`internal/codec/fixed_header.go`,
`internal/codec/reader.go`).

An `io.Reader` is the list of the bytes that are still to come; a read returns the bytes
read and the rest of the stream.
-/
import Dmqtt.Lib.Base128
import Dmqtt.Codec.Packets

namespace Dmqtt.Codec

open Lib Lib.Base128

/-- The MQTT fixed header present in every packet. -/
structure FixedHeader where
  packetType : UInt8
  dup : Bool := false
  qos : UInt8 := 0
  retain : Bool := false
  remainingLength : ℕ
deriving DecidableEq, Repr

/-- Encodes an integer into the variable-length format.  The source repeats the loop of
`encodeVarInt`. -/
def encodeRemainingLength (length : ℕ) : Bytes := Base128.encode length

/-- The bit `mask` when the flag is set. -/
def flagBit (flag : Bool) (mask : UInt8) : UInt8 := if flag then mask else 0

/-- The first byte of a packet. -/
def FixedHeader.firstByte (fh : FixedHeader) : UInt8 :=
  fh.packetType <<< 4 ||| flagBit fh.dup 0x08 ||| (fh.qos &&& 0x03) <<< 1
    ||| flagBit fh.retain 0x01

def FixedHeader.encode (fh : FixedHeader) : Bytes :=
  fh.firstByte :: encodeRemainingLength fh.remainingLength

/-! ### Reading from a stream -/

/-- `io.ReadFull` into a buffer of `n` bytes. -/
def readFull (r : Bytes) (n : ℕ) : Except Err (Bytes × Bytes) :=
  if n ≤ r.length then .ok (r.take n, r.drop n)
  else if r = [] then .error .eof
  else .error .unexpectedEOF

/-- The loop of `DecodeRemainingLength`, with the number of iterations that are left. -/
def decodeRemainingLengthLoop : ℕ → ℕ → ℕ → Bytes → Except Err (ℕ × Bytes)
  | 0, _, _, _ => .error (.malformed "remaining length exceeds 4 bytes")
  | k + 1, multiplier, value, r => do
    let (buf, r) ← readFull r 1
    let b ← index buf 0
    let value := value + (b &&& 0x7F).toNat * multiplier
    if b &&& 0x80 = 0 then
      return (value, r)
    else
      decodeRemainingLengthLoop k (multiplier * 128) value r

def decodeRemainingLength (r : Bytes) : Except Err (ℕ × Bytes) :=
  decodeRemainingLengthLoop 4 1 0 r

def decodeFixedHeader (r : Bytes) : Except Err (FixedHeader × Bytes) := do
  let (buf, r) ← readFull r 1
  let b ← index buf 0
  let (remaining, r) ← decodeRemainingLength r
  return ({ packetType := b >>> 4 &&& 0x0F
            dup := b &&& 0x08 != 0
            qos := b >>> 1 &&& 0x03
            retain := b &&& 0x01 != 0
            remainingLength := remaining }, r)

/-- Reads one complete packet: its fixed header and the remaining bytes. -/
def readPacket (r : Bytes) : Except Err ((FixedHeader × Bytes) × Bytes) := do
  let (fh, r) ← decodeFixedHeader r
  if 0 < fh.remainingLength then do
    let (data, r) ← readFull r fh.remainingLength
    return ((fh, data), r)
  else
    return ((fh, []), r)

/-! ### What was written is read back -/

@[simp] lemma readFull_append {a r : Bytes} {n : ℕ} (h : n = a.length) :
    readFull (a ++ r) n = .ok (a, r) := by
  subst h
  simp [readFull]

/-- One turn of the loop, on a stream that starts with the byte `b`. -/
lemma decodeRemainingLengthLoop_cons (k multiplier value : ℕ) (b : UInt8) (r : Bytes) :
    decodeRemainingLengthLoop (k + 1) multiplier value (b :: r) =
      if Last b then .ok (value + digit b * multiplier, r)
      else decodeRemainingLengthLoop k (multiplier * 128) (value + digit b * multiplier) r := by
  have hread : readFull (b :: r) 1 = .ok ([b], r) := readFull_append (a := [b]) rfl
  have hb : index [b] 0 = .ok b := index_append [] b []
  rw [decodeRemainingLengthLoop]
  simp only [bind, Except.bind, hread, hb]
  rfl

lemma decodeRemainingLengthLoop_append {k v : ℕ} {ds : Bytes} (h : Decodes k ds v) :
    ∀ (multiplier value : ℕ) (r : Bytes),
      decodeRemainingLengthLoop k multiplier value (ds ++ r) = .ok (value + v * multiplier, r) := by
  induction h with
  | last hb =>
    intro multiplier value r
    rw [List.singleton_append, decodeRemainingLengthLoop_cons, if_pos hb]
  | @more k b ds v hb _ ih =>
    intro multiplier value r
    rw [List.cons_append, decodeRemainingLengthLoop_cons, if_neg hb, ih]
    have : value + digit b * multiplier + v * (multiplier * 128)
        = value + (digit b + 128 * v) * multiplier := by ring
    rw [this]

lemma decodeRemainingLength_append {n : ℕ} (h : n ≤ maxRemainingLength) (r : Bytes) :
    decodeRemainingLength (encodeRemainingLength n ++ r) = .ok (n, r) := by
  have hdec : Decodes 4 (Base128.encode n) n :=
    decodes_encode 3 n (by rw [maxRemainingLength] at h; norm_num; omega)
  rw [decodeRemainingLength, encodeRemainingLength, decodeRemainingLengthLoop_append hdec]
  simp

/-- The bits of the first byte of a packet, one field at a time. -/
lemma firstByte_fields : ∀ (t : Fin 16) (q : Fin 4) (d r : Bool),
    let b : UInt8 := UInt8.ofNat t <<< 4 ||| flagBit d 0x08 ||| (UInt8.ofNat q &&& 0x03) <<< 1
      ||| flagBit r 0x01
    b >>> 4 &&& 0x0F = UInt8.ofNat t ∧ (b &&& 0x08 != 0) = d ∧
      b >>> 1 &&& 0x03 = UInt8.ofNat q ∧ (b &&& 0x01 != 0) = r := by
  decide

lemma decodeFixedHeader_append {fh : FixedHeader} (ht : fh.packetType.toNat < 16)
    (hq : fh.qos.toNat < 4) (hlen : fh.remainingLength ≤ maxRemainingLength) (r : Bytes) :
    decodeFixedHeader (fh.encode ++ r) = .ok (fh, r) := by
  obtain ⟨packetType, dup, qos, retain, remainingLength⟩ := fh
  have hread : readFull (FixedHeader.firstByte ⟨packetType, dup, qos, retain, remainingLength⟩ ::
      (encodeRemainingLength remainingLength ++ r)) 1
      = .ok ([FixedHeader.firstByte ⟨packetType, dup, qos, retain, remainingLength⟩],
          encodeRemainingLength remainingLength ++ r) :=
    readFull_append (a := [_]) rfl
  have hb : ∀ b : UInt8, index [b] 0 = .ok b := fun b => index_append [] b []
  obtain ⟨h₁, h₂, h₃, h₄⟩ := firstByte_fields ⟨packetType.toNat, ht⟩ ⟨qos.toNat, hq⟩ dup retain
  simp only [UInt8.ofNat_toNat] at h₁ h₂ h₃ h₄
  rw [decodeFixedHeader, FixedHeader.encode, List.cons_append]
  simp only [bind, Except.bind, hread, hb, decodeRemainingLength_append hlen]
  simp only [FixedHeader.firstByte, h₁, h₂, h₃, h₄]
  rfl

/-- **One packet is read off the stream**: a header that announces the length of its body,
followed by that body and by any further bytes. -/
lemma readPacket_append {fh : FixedHeader} {body : Bytes} (ht : fh.packetType.toNat < 16)
    (hq : fh.qos.toNat < 4) (hbody : fh.remainingLength = body.length)
    (hlen : body.length ≤ maxRemainingLength) (r : Bytes) :
    readPacket (fh.encode ++ body ++ r) = .ok ((fh, body), r) := by
  have hfh := decodeFixedHeader_append ht hq (by omega) (body ++ r)
  rw [readPacket, List.append_assoc, hfh]
  simp only [bind, Except.bind]
  by_cases hpos : 0 < fh.remainingLength
  · rw [if_pos hpos, readFull_append hbody]
    rfl
  · have hnil : body = [] := List.eq_nil_of_length_eq_zero (by omega)
    rw [if_neg hpos, hnil]
    rfl

end Dmqtt.Codec
