/-
The MQTT packet types, the errors of the codec and its reads from a byte slice
(`internal/codec/packets.go`, and the length-prefixed readers of `connect.go` and
`properties.go`).

A Go string is a sequence of bytes, so strings and byte slices are both lists of bytes
here.  A decoder returns a value or an error; an index or a slice out of range, which in Go
is a run-time panic and not an error value, is the separate error `Err.outOfRange`.
-/
import Dmqtt.Lib.Slice
import Dmqtt.Lib.BigEndian

namespace Dmqtt

/-- A byte slice. -/
abbrev Bytes : Type := List UInt8

/-- A Go string: a sequence of bytes, not necessarily valid UTF-8. -/
abbrev Str : Type := List UInt8

/-- The bytes of a string literal of the source. -/
def str (s : String) : Str := s.toUTF8.data.toList

namespace Codec

open Lib Lib.BigEndian

/-! ### Packet types -/

def CONNECT : UInt8 := 1
def CONNACK : UInt8 := 2
def PUBLISH : UInt8 := 3
def PUBACK : UInt8 := 4
def PUBREC : UInt8 := 5
def PUBREL : UInt8 := 6
def PUBCOMP : UInt8 := 7
def SUBSCRIBE : UInt8 := 8
def SUBACK : UInt8 := 9
def UNSUBSCRIBE : UInt8 := 10
def UNSUBACK : UInt8 := 11
def PINGREQ : UInt8 := 12
def PINGRESP : UInt8 := 13
def DISCONNECT : UInt8 := 14

/-- The largest value of the remaining length field. -/
def maxRemainingLength : ℕ := 268435455

/-! ### Errors -/

/-- What a decoder can return instead of a packet. -/
inductive Err where
  /-- `ErrMalformedPacket` with its reason. -/
  | malformed (reason : String)
  /-- `io.EOF`: the stream ended before the first byte of a read. -/
  | eof
  /-- `io.ErrUnexpectedEOF`: the stream ended inside a read. -/
  | unexpectedEOF
  /-- An error wrapped by `fmt.Errorf("context: %w", err)`. -/
  | wrapped (context : String) (cause : Err)
  /-- Not an error value: the index or slice expression panics. -/
  | outOfRange
deriving DecidableEq, Repr

/-- The index expression `data[i]`. -/
def index (data : Bytes) (i : ℕ) : Except Err UInt8 :=
  match data[i]? with
  | some b => .ok b
  | none => .error .outOfRange

/-- The slice expression `data[lo:hi]`. -/
def slice (data : Bytes) (lo hi : ℕ) : Except Err Bytes :=
  match Lib.slice data lo hi with
  | some s => .ok s
  | none => .error .outOfRange

/-- The slice expression `data[lo:]`. -/
def sliceFrom (data : Bytes) (lo : ℕ) : Except Err Bytes :=
  slice data lo data.length

/-- `binary.BigEndian.Uint16`. -/
def uint16 : Bytes → Except Err UInt16
  | b₀ :: b₁ :: _ => .ok (get16 b₀ b₁)
  | _ => .error .outOfRange

/-- `binary.BigEndian.Uint32`. -/
def uint32 : Bytes → Except Err UInt32
  | b₀ :: b₁ :: b₂ :: b₃ :: _ => .ok (get32 b₀ b₁ b₂ b₃)
  | _ => .error .outOfRange

@[simp] lemma index_append (pre : Bytes) (b : UInt8) (post : Bytes) :
    index (pre ++ b :: post) pre.length = .ok b := by
  simp [index]

lemma slice_middle {pre m post : Bytes} {lo hi : ℕ} (hlo : lo = pre.length)
    (hhi : hi = pre.length + m.length) : slice (pre ++ (m ++ post)) lo hi = .ok m := by
  rw [slice, slice_middle' hlo hhi]

@[simp] lemma sliceFrom_append (pre post : Bytes) :
    sliceFrom (pre ++ post) pre.length = .ok post := by
  have h := Lib.sliceFrom_append pre post
  rw [Lib.sliceFrom] at h
  rw [sliceFrom, slice, h]

lemma slice_put16 (v : UInt16) (post : Bytes) : slice (put16 v ++ post) 0 2 = .ok (put16 v) :=
  @slice_middle [] (put16 v) post 0 2 rfl rfl

@[simp] lemma uint16_put16 (v : UInt16) (post : Bytes) : uint16 (put16 v ++ post) = .ok v := by
  simp only [put16, List.cons_append, uint16, get16_put16]

@[simp] lemma uint32_put32 (v : UInt32) (post : Bytes) : uint32 (put32 v ++ post) = .ok v := by
  simp only [put32, List.cons_append, uint32, get32_put32]

/-! ### Length-prefixed strings and binary data -/

/-- `appendUTF8`, and the same two lines of `appendBinaryProp` and
`PublishPacket.Encode`: the two low bytes of the length, then the content. -/
def lengthPrefixed (s : Bytes) : Bytes :=
  [(s.length >>> 8).toUInt8, s.length.toUInt8] ++ s

/-- The common body of the four readers of length-prefixed data.  They differ in the
texts of their errors and in whether the read is confined to `data[:stop]`. -/
def readLengthPrefixed (noLength noContent : String) (data : Bytes) (offset stop : ℕ) :
    Except Err (Bytes × ℕ) :=
  if stop < offset + 2 ∨ data.length < offset + 2 then .error (.malformed noLength)
  else do
    let prefixBytes ← slice data offset (offset + 2)
    let length := (← uint16 prefixBytes).toNat
    if stop < offset + 2 + length ∨ data.length < offset + 2 + length then
      .error (.malformed noContent)
    else do
      let s ← slice data (offset + 2) (offset + 2 + length)
      return (s, 2 + length)

def readPropString (data : Bytes) (offset stop : ℕ) : Except Err (Str × ℕ) :=
  readLengthPrefixed "truncated string property length" "truncated string property"
    data offset stop

def readPropBinaryData (data : Bytes) (offset stop : ℕ) : Except Err (Bytes × ℕ) :=
  readLengthPrefixed "truncated binary data length" "truncated binary data" data offset stop

def readUTF8String (data : Bytes) (offset : ℕ) : Except Err (Str × ℕ) :=
  readLengthPrefixed "insufficient data for UTF-8 string length"
    "insufficient data for UTF-8 string" data offset data.length

def readBinaryData (data : Bytes) (offset : ℕ) : Except Err (Bytes × ℕ) :=
  readLengthPrefixed "insufficient data for binary data length"
    "insufficient data for binary data" data offset data.length

@[simp] lemma length_lengthPrefixed (s : Bytes) : (lengthPrefixed s).length = 2 + s.length := by
  simp only [lengthPrefixed, List.length_append, List.length_cons, List.length_nil]

/-- Data behind the two bytes of its length is read, with any bound that lies behind it. -/
lemma readLengthPrefixed_cons {noLength noContent : String} {pre s post : Bytes} {b₀ b₁ : UInt8}
    {stop : ℕ} (hs : (get16 b₀ b₁).toNat = s.length) (hstop : pre.length + (2 + s.length) ≤ stop) :
    readLengthPrefixed noLength noContent (pre ++ (([b₀, b₁] ++ s) ++ post)) pre.length stop
      = .ok (s, 2 + s.length) := by
  have hlen : (pre ++ (([b₀, b₁] ++ s) ++ post)).length
      = pre.length + (2 + s.length) + post.length := by
    simp only [List.length_append, List.length_cons, List.length_nil]
    omega
  have hlength : slice (pre ++ (([b₀, b₁] ++ s) ++ post)) pre.length (pre.length + 2)
      = .ok [b₀, b₁] := by
    rw [List.append_assoc]
    exact slice_middle rfl rfl
  have hcontent : slice (pre ++ (([b₀, b₁] ++ s) ++ post)) (pre.length + 2)
      (pre.length + 2 + s.length) = .ok s := by
    rw [List.append_assoc, ← List.append_assoc pre]
    exact slice_middle (by simp) (by simp)
  rw [readLengthPrefixed, if_neg (by omega), hlength]
  simp only [bind, Except.bind, uint16, hs]
  rw [if_neg (by omega), hcontent]
  rfl

/-- Length-prefixed data of at most 65535 bytes is read back where it was written, with
any bound that lies behind it. -/
lemma readLengthPrefixed_append {noLength noContent : String} {pre s post : Bytes} {stop : ℕ}
    (hs : s.length ≤ 65535) (hstop : pre.length + (2 + s.length) ≤ stop) :
    readLengthPrefixed noLength noContent (pre ++ (lengthPrefixed s ++ post)) pre.length stop
      = .ok (s, 2 + s.length) :=
  readLengthPrefixed_cons (toNat_get16_toUInt8 (by omega)) hstop

lemma readUTF8String_append {s : Bytes} (hs : s.length ≤ 65535) (pre post : Bytes) :
    readUTF8String (pre ++ (lengthPrefixed s ++ post)) pre.length = .ok (s, 2 + s.length) :=
  readLengthPrefixed_append hs (by simp only [List.length_append, length_lengthPrefixed]; omega)

end Codec

end Dmqtt
