/-
CONNECT packets as the standard lays them out.

`ConnectFields` has the fields of a CONNECT of level 4 or 5, with flags that tell which of them are
there.  The decoder reads the fixed part at the front and then one field after the other; each of
the readers takes exactly its field, so the decoder returns the fields, and refuses a packet that is
cut off anywhere.
-/
import Dmqtt.Codec.FilterPackets

namespace Dmqtt.Codec

open Lib Lib.Base128 Lib.BigEndian

/-- The fields of a CONNECT with the protocol name `MQTT`. -/
structure ConnectFields where
  level : UInt8
  flags : UInt8
  keepAlive : UInt16
  properties : Properties
  clientID : Str
  willProperties : Properties
  willTopic : Str
  willPayload : Bytes
  username : Str
  password : Bytes
  level_eq : level = 4 ∨ level = 5
  encodable : properties.Encodable
  clientID_le : clientID.length ≤ 65535
  willEncodable : willProperties.Encodable
  willTopic_le : willTopic.length ≤ 65535
  willPayload_le : willPayload.length ≤ 65535
  username_le : username.length ≤ 65535
  password_le : password.length ≤ 65535

namespace ConnectFields

variable (f : ConnectFields)

def willFlag : Bool := f.flags &&& 0x04 ≠ 0

def usernameFlag : Bool := f.flags &&& 0x80 ≠ 0

def passwordFlag : Bool := f.flags &&& 0x40 ≠ 0

/-- The protocol name, the level, the flags and the keep-alive interval. -/
def header : Bytes := lengthPrefixed (str "MQTT") ++ ([f.level, f.flags] ++ put16 f.keepAlive)

/-- The bytes of the packet behind its fixed header. -/
def layout : Bytes :=
  f.header ++
    ((if f.level = 5 then Properties.encode (some f.properties) else []) ++
    (lengthPrefixed f.clientID ++
    ((if f.willFlag && f.level = 5 then Properties.encode (some f.willProperties) else []) ++
    ((if f.willFlag then lengthPrefixed f.willTopic else []) ++
    ((if f.willFlag then lengthPrefixed f.willPayload else []) ++
    ((if f.usernameFlag then lengthPrefixed f.username else []) ++
    (if f.passwordFlag then lengthPrefixed f.password else [])))))))

/-- The packet; fields that are not there are empty. -/
def packet : ConnectPacket where
  protocolName := str "MQTT"
  protocolLevel := f.level
  cleanSession := f.flags &&& 0x02 ≠ 0
  keepAlive := f.keepAlive
  clientID := f.clientID
  willFlag := f.willFlag
  willQoS := (f.flags >>> 3) &&& 0x03
  willRetain := f.flags &&& 0x20 ≠ 0
  willTopic := if f.willFlag then f.willTopic else []
  willPayload := if f.willFlag then f.willPayload else []
  usernameFlag := f.usernameFlag
  passwordFlag := f.passwordFlag
  username := if f.usernameFlag then f.username else []
  password := if f.passwordFlag then f.password else []
  properties := if f.level = 5 then some f.properties else none
  willProperties := if f.willFlag && f.level = 5 then some f.willProperties else none

/-- The packet when only the header has been read. -/
def start : ConnectPacket where
  protocolName := str "MQTT"
  protocolLevel := f.level
  cleanSession := f.flags &&& 0x02 ≠ 0
  keepAlive := f.keepAlive
  clientID := []
  willFlag := f.willFlag
  willQoS := (f.flags >>> 3) &&& 0x03
  willRetain := f.flags &&& 0x20 ≠ 0
  usernameFlag := f.usernameFlag
  passwordFlag := f.passwordFlag

end ConnectFields

/-! ### The readers -/

section Readers

variable {α : Type} {read : Reader Err UInt8 α} {item : Bytes} {a : α}

lemma exact_wrap (h : read.Exact item a) (context : String) :
    Reader.Exact (fun data offset => wrap context (read data offset)) item a where
  append pre post := by
    rw [h.append]
    rfl
  cut pre part hp hne := by
    obtain ⟨err, herr⟩ := h.cut pre part hp hne
    exact ⟨.wrapped context err, by rw [herr]; rfl⟩

lemma exact_readIf (h : read.Exact item a) (flag : Bool) (absent : α) :
    Reader.Exact (fun data offset => readIf flag absent (read data offset))
      (if flag then item else []) (if flag then a else absent) := by
  cases flag with
  | true => exact h
  | false => exact Reader.exact_nil absent

lemma exact_readUTF8String {s : Str} (hs : s.length ≤ 65535) :
    Reader.Exact readUTF8String (lengthPrefixed s) s :=
  recognizes_readUTF8String.exact ⟨rfl, hs⟩

lemma exact_readBinaryData {s : Bytes} (hs : s.length ≤ 65535) :
    Reader.Exact readBinaryData (lengthPrefixed s) s :=
  (recognizes_readLengthPrefixed _ _).exact ⟨rfl, hs⟩

lemma exact_readConnectProperties (lengthContext propsContext : String) {p : Properties}
    (hp : p.Encodable) :
    Reader.Exact (readConnectProperties lengthContext propsContext)
      (Properties.encode (some p)) (some p) := by
  have hrest : ∀ pre rest : Bytes, sliceFrom (pre ++ (encodeVarInt p.body.length ++ rest))
      (pre.length + (encodeVarInt p.body.length).length) = .ok rest := by
    intro pre rest
    rw [← List.append_assoc, ← List.length_append]
    exact sliceFrom_append (pre ++ encodeVarInt p.body.length) rest
  constructor
  · intro pre post
    rw [Properties.encode, List.append_assoc, readConnectProperties,
      decodeVarInt_append hp.body_le]
    simp only [wrap, bind, Except.bind, hrest, decodeProperties_body hp, List.length_append]
    rfl
  · intro pre part hpart hne
    rw [readConnectProperties]
    rcases Reader.cut_append hpart hne with ⟨hpart, hne⟩ | ⟨part, rfl, hpart, hne⟩
    · -- the length is cut off
      have hlen : Decodes 4 (encodeVarInt p.body.length) p.body.length := by
        refine decodes_encode 3 _ ?_
        have hle := hp.body_le
        rw [maxRemainingLength] at hle
        omega
      obtain ⟨err, herr⟩ := (recognizes_decodeVarInt.exact hlen).cut pre part hpart hne
      exact ⟨.wrapped lengthContext err, by rw [herr]; rfl⟩
    · -- the length is there, and announces more than there is
      have hshort : part.length < p.body.length :=
        lt_of_le_of_ne hpart.length_le fun hlen => hne (hpart.eq_of_length hlen)
      have hprops : decodeProperties part p.body.length =
          .error (.malformed "property length exceeds available data") := by
        rw [decodeProperties, if_neg (by omega), if_pos hshort]
      refine ⟨.wrapped propsContext (.malformed "property length exceeds available data"), ?_⟩
      rw [decodeVarInt_append hp.body_le]
      simp only [wrap, bind, Except.bind, hrest, hprops]

end Readers

namespace ConnectFields

variable (f : ConnectFields)

/-- The fields behind the header. -/
def fields : List (Reader.Field Err UInt8 ConnectPacket) :=
  [(exact_readIf (exact_readConnectProperties "reading connect properties length"
      "decoding connect properties" f.encodable) (f.level = 5) none).field
      fun v p => { p with properties := v },
    (exact_wrap (exact_readUTF8String f.clientID_le) "reading client ID").field
      fun v p => { p with clientID := v },
    (exact_readIf (exact_readConnectProperties "reading will properties length"
      "decoding will properties" f.willEncodable) (f.willFlag && f.level = 5) none).field
      fun v p => { p with willProperties := v },
    (exact_readIf (exact_wrap (exact_readUTF8String f.willTopic_le) "reading will topic")
      f.willFlag []).field fun v p => { p with willTopic := v },
    (exact_readIf (exact_wrap (exact_readBinaryData f.willPayload_le) "reading will payload")
      f.willFlag []).field fun v p => { p with willPayload := v },
    (exact_readIf (exact_wrap (exact_readUTF8String f.username_le) "reading username")
      f.usernameFlag []).field fun v p => { p with username := v },
    (exact_readIf (exact_wrap (exact_readBinaryData f.password_le) "reading password")
      f.passwordFlag []).field fun v p => { p with password := v }]

lemma length_header : f.header.length = 10 := rfl

lemma layout_eq : f.layout = f.header ++ f.fields.flatMap Reader.Field.item := by
  simp [layout, fields, Reader.Exact.field]

lemma packet_eq : f.packet = f.fields.foldl (fun p field => field.set p) f.start := by
  simp [packet, fields, Reader.Exact.field, start]

/-- Behind the header the decoder reads one field after the other. -/
lemma decodeConnectPacket_header (rest : Bytes) :
    decodeConnectPacket (f.header ++ rest) =
      Reader.readAll f.fields f.start (f.header ++ rest) f.header.length := by
  have hlen : (f.header ++ rest).length = 10 + rest.length := by
    rw [List.length_append, length_header]
  have hprotocol : readProtocol (f.header ++ rest) = .ok (str "MQTT", f.level, 7) := by
    have hname : readUTF8String (f.header ++ rest) 0 = .ok (str "MQTT", 6) := by
      rw [header, List.append_assoc]
      exact readUTF8String_append (s := str "MQTT") (by decide) [] _
    have hlevel : index (f.header ++ rest) 6 = .ok f.level :=
      index_append (lengthPrefixed (str "MQTT")) f.level _
    have hvalid : ¬ (f.level ≠ 4 ∧ f.level ≠ 5) := by
      have hor := f.level_eq
      tauto
    rw [readProtocol, hname]
    simp only [wrap, bind, Except.bind]
    rw [if_neg (by omega), hlevel]
    simp only [if_neg hvalid]
    rfl
  have hflags : readFlags (f.header ++ rest) 7 = .ok (f.flags, f.keepAlive) := by
    have hbyte : index (f.header ++ rest) 7 = .ok f.flags :=
      index_append (lengthPrefixed (str "MQTT") ++ [f.level]) f.flags _
    have hword : slice (f.header ++ rest) 8 10 = .ok (put16 f.keepAlive) :=
      @slice_middle (lengthPrefixed (str "MQTT") ++ [f.level, f.flags]) (put16 f.keepAlive) rest
        8 10 rfl rfl
    have hint : uint16 (put16 f.keepAlive) = .ok f.keepAlive := uint16_put16 f.keepAlive []
    rw [readFlags, if_neg (by omega), hbyte]
    simp only [bind, Except.bind]
    rw [if_neg (by omega), hword]
    simp only [hint]
    rfl
  rw [decodeConnectPacket, if_neg (by omega), hprotocol]
  simp only [fields, Reader.readAll_field, Reader.readAll_nil, length_header, start]
  simp only [bind, Except.bind, hflags]
  rfl

/-- For every CONNECT of level 4 or 5, with any flags and any fields that can be written: the
decoder returns the fields, and for each proper beginning of the packet an error value. -/
theorem decodeConnectPacket_layout :
    decodeConnectPacket f.layout = .ok f.packet ∧
    ∀ part, part <+: f.layout → part ≠ f.layout →
      ∃ err, decodeConnectPacket part = .error err ∧ err.panics = false := by
  obtain ⟨hwhole, hcut⟩ := Reader.final_readAll f.fields f.start
  constructor
  · rw [layout_eq, decodeConnectPacket_header, packet_eq]
    exact hwhole f.header
  · intro part hpart hne
    rw [layout_eq] at hpart hne
    have herror : ∃ err, decodeConnectPacket part = .error err := by
      rcases Reader.cut_append hpart hne with ⟨hpart, hne⟩ | ⟨rest, rfl, hrest, hne⟩
      · have hshort : part.length < 10 :=
          lt_of_le_of_ne hpart.length_le fun hlen => hne (hpart.eq_of_length hlen)
        exact ⟨_, if_pos hshort⟩
      · rw [decodeConnectPacket_header]
        exact hcut f.header rest hrest hne
    obtain ⟨err, herr⟩ := herror
    have hreads : Reads (fun _ => True) (decodeConnectPacket part) := reads_decodeConnectPacket
    rw [herr] at hreads
    exact ⟨err, herr, hreads⟩

/-- A CONNECT of level 5 with a will. -/
def withWill : ConnectFields where
  level := 5
  flags := 0x04
  keepAlive := 60
  properties := { receiveMaximum := some 20 }
  clientID := str "c"
  willProperties := {}
  willTopic := str "t"
  willPayload := [0x2A]
  username := []
  password := []
  level_eq := Or.inr rfl
  encodable := ⟨by decide, by decide⟩
  clientID_le := by decide
  willEncodable := ⟨by decide, by decide⟩
  willTopic_le := by decide
  willPayload_le := by decide
  username_le := by decide
  password_le := by decide

theorem decodeConnectPacket_layout_withWill :
    decodeConnectPacket [0, 4, 0x4D, 0x51, 0x54, 0x54, 5, 0x04, 0, 60, 3, 0x21, 0, 20, 0, 1, 0x63,
      0, 0, 1, 0x74, 0, 1, 0x2A] =
      .ok {
        protocolName := str "MQTT", protocolLevel := 5, cleanSession := false, keepAlive := 60,
        clientID := str "c", willFlag := true, willTopic := str "t", willPayload := [0x2A],
        properties := some { receiveMaximum := some 20 }, willProperties := some {} } ∧
    ∃ err, decodeConnectPacket [0, 4, 0x4D, 0x51, 0x54, 0x54, 5, 0x04, 0, 60, 3, 0x21, 0] =
      .error err ∧ err.panics = false := by
  have hlayout : withWill.layout = [0, 4, 0x4D, 0x51, 0x54, 0x54, 5, 0x04, 0, 60, 3, 0x21, 0, 20,
      0, 1, 0x63, 0, 0, 1, 0x74, 0, 1, 0x2A] := by
    have hprops : Properties.encode (some withWill.properties) = [3, 0x21, 0, 20] := by
      rw [Properties.encode, encodeVarInt, encode_of_lt (by decide)]
      rfl
    have hwill : Properties.encode (some withWill.willProperties) = [0] := by
      rw [Properties.encode, encodeVarInt, encode_of_lt (by decide)]
      rfl
    rw [layout, hprops, hwill]
    rfl
  obtain ⟨hwhole, hcut⟩ := decodeConnectPacket_layout withWill
  rw [hlayout] at hwhole hcut
  exact ⟨hwhole, hcut _ (by decide) (by decide)⟩

end ConnectFields

end Dmqtt.Codec
