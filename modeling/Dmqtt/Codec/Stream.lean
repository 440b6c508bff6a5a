/-
Round trip of packets over a stream.

A connection carries packets one after the other.  `Packet` collects the packets that
both ends of this codec know; `readPackets` is repeated `ReadPacket`.  The main result,
`readPackets_encode`, says that the encodings of any list of well-formed packets, followed
by any bytes, are read back packet by packet, that nothing of the trailing bytes is
consumed, and that the decoder of each packet recovers its fields.
-/
import Dmqtt.Codec.Publish

namespace Dmqtt.Codec

open Lib Lib.BigEndian

/-! ### The property section -/

/-- A nil pointer and a record without any property are written alike. -/
lemma Properties.encode_none : Properties.encode none = Properties.encode (some {}) := by
  have hbody : ({} : Properties).body = [] := rfl
  rw [Properties.encode, Properties.encode, hbody, encodeVarInt, List.length_nil,
    Base128.encode_of_lt (by norm_num)]
  rfl

variable (p : PublishPacket) (pre post : Bytes) (o : Option Properties)

lemma Properties.encode_getD : Properties.encode o = Properties.encode (some (o.getD {})) := by
  cases o with
  | none => exact Properties.encode_none
  | some p => rfl

/-- Every property of an optional record fits the wire format. -/
def PropertiesFit (o : Option Properties) : Prop := ∀ x ∈ (o.getD {}).items, x.Fits

instance : DecidablePred PropertiesFit := fun o =>
  inferInstanceAs (Decidable (∀ x ∈ (o.getD {}).items, x.Fits))

lemma length_encode_properties : (o.getD {}).body.length < (Properties.encode o).length := by
  rw [Properties.encode_getD, Properties.encode, List.length_append]
  have := Base128.length_encode_pos (o.getD {}).body.length
  rw [encodeVarInt]
  omega

lemma PropertiesFit.encodable {o : Option Properties} (h : PropertiesFit o)
    (hlen : (Properties.encode o).length ≤ maxRemainingLength) : (o.getD {}).Encodable :=
  ⟨h, by have := length_encode_properties o; omega⟩

/-- A property section is read back where it was written. -/
lemma readProperties_append {o : Option Properties} (h : PropertiesFit o)
    (hlen : (Properties.encode o).length ≤ maxRemainingLength) (pre post : Bytes) :
    readProperties (pre ++ (Properties.encode o ++ post)) pre.length
      = .ok (o.getD {}, (Properties.encode o).length) := by
  have henc := h.encodable hlen
  rw [Properties.encode_getD]
  generalize o.getD {} = p at henc
  have hvar := decodeVarInt_append henc.body_le pre (p.body ++ post)
  have hfrom := sliceFrom_append (pre ++ encodeVarInt p.body.length) (p.body ++ post)
  rw [List.append_assoc, List.length_append] at hfrom
  rw [readProperties, Properties.encode, List.append_assoc, hvar]
  simp only [bind, Except.bind, hfrom, decodeProperties_body henc, List.length_append]
  rfl

/-! ### PUBLISH -/

lemma PublishPacket.remainingLength_eq : p.fixedHeader.remainingLength = p.body.length := by
  simp only [PublishPacket.fixedHeader, PublishPacket.body, PublishPacket.idBytes,
    PublishPacket.propsData, List.length_append, length_lengthPrefixed]
  split_ifs <;> simp only [length_put16, List.length_nil] <;> omega

/-- What the decoder of PUBLISH returns for the body of `p`. -/
def PublishPacket.decoded (p : PublishPacket) : PublishPacket where
  topic := p.topic
  packetID := if 0 < p.qos then p.packetID else 0
  qos := p.qos
  payload := p.payload
  properties := if p.protocolVersion = 5 then some (p.properties.getD {}) else none
  protocolVersion := p.protocolVersion

lemma readPacketID_append :
    readPacketID (pre ++ (p.idBytes ++ post)) pre.length p.qos
      = .ok (p.decoded.packetID, p.idBytes.length) := by
  by_cases hq : 0 < p.qos
  · have hbytes : p.idBytes = put16 p.packetID := if_pos hq
    have hid : p.decoded.packetID = p.packetID := if_pos hq
    have hlen : ¬ (pre ++ (put16 p.packetID ++ post)).length < pre.length + 2 := by
      simp only [List.length_append, length_put16]
      omega
    have hword := uint16_put16 p.packetID []
    rw [List.append_nil] at hword
    rw [hbytes, hid, readPacketID, if_pos hq, if_neg hlen,
      slice_middle rfl (by rw [length_put16])]
    simp only [bind, Except.bind, hword]
    rfl
  · have hbytes : p.idBytes = [] := if_neg hq
    have hid : p.decoded.packetID = 0 := if_neg hq
    rw [hbytes, hid, readPacketID, if_neg hq]
    rfl

lemma readPropertiesV5_append {p : PublishPacket} (hprops : PropertiesFit p.properties)
    (hlen : p.propsData.length ≤ maxRemainingLength) (pre post : Bytes) :
    readPropertiesV5 (pre ++ (p.propsData ++ post)) pre.length p.protocolVersion
      = .ok (p.decoded.properties, p.propsData.length) := by
  by_cases hv : p.protocolVersion = 5
  · have hdata : p.propsData = Properties.encode p.properties := if_pos hv
    have hdec : p.decoded.properties = some (p.properties.getD {}) := if_pos hv
    rw [hdata] at hlen
    rw [hdata, hdec, readPropertiesV5, if_pos hv, readProperties_append hprops hlen]
    rfl
  · have hdata : p.propsData = [] := if_neg hv
    have hdec : p.decoded.properties = none := if_neg hv
    rw [hdata, hdec, readPropertiesV5, if_neg hv]
    rfl

lemma readPayload_append : readPayload (pre ++ post) pre.length = .ok post := by
  rw [readPayload]
  by_cases hpost : post = []
  · simp [pure, Except.pure]
  · have hlt : pre.length < (pre ++ post).length := by
      rw [List.length_append]
      have := List.length_pos_iff.2 hpost
      omega
    rw [if_pos hlt, sliceFrom_append]

lemma decodePublishPacket_body {p : PublishPacket} (htopic : p.topic.length ≤ 65535)
    (hprops : PropertiesFit p.properties) (hlen : p.body.length ≤ maxRemainingLength) :
    decodePublishPacket p.body p.qos p.protocolVersion = .ok p.decoded := by
  have hlen' : p.propsData.length ≤ maxRemainingLength := by
    simp only [PublishPacket.body, List.length_append] at hlen
    omega
  -- the four parts of the body, each read where the one before it ends
  have h₁ : readUTF8String p.body 0 = .ok (p.topic, (lengthPrefixed p.topic).length) := by
    have h := readUTF8String_append htopic [] (p.idBytes ++ (p.propsData ++ p.payload))
    simpa [PublishPacket.body] using h
  have h₂ := readPacketID_append p (lengthPrefixed p.topic) (p.propsData ++ p.payload)
  have h₃ := readPropertiesV5_append hprops hlen' (lengthPrefixed p.topic ++ p.idBytes) p.payload
  have h₄ := readPayload_append (lengthPrefixed p.topic ++ p.idBytes ++ p.propsData) p.payload
  simp only [← List.append_assoc, List.length_append] at h₂ h₃ h₄
  rw [decodePublishPacket, h₁]
  simp only [bind, Except.bind, PublishPacket.body, h₂, h₃, h₄]
  rfl

/-! ### The acknowledgements and DISCONNECT -/

lemma AckPacket.remainingLength_eq (packetType qos : UInt8) (p : AckPacket) :
    (p.fixedHeader packetType qos).remainingLength = p.body.length := by
  simp only [AckPacket.fixedHeader, AckPacket.body]
  split_ifs
  · simp only [List.length_append, length_put16, List.length_singleton]
  · rfl

/-- What the decoder of an acknowledgement returns for the body of `p`. -/
def AckPacket.decoded (p : AckPacket) : AckPacket :=
  if p.long then { p with properties := some (p.properties.getD {}) }
  else { packetID := p.packetID, protocolVersion := p.protocolVersion }

lemma decodeAck_body {p : AckPacket} (tooShort : String) (hprops : PropertiesFit p.properties)
    (hlen : p.body.length ≤ maxRemainingLength) :
    decodeAck tooShort p.body p.protocolVersion = .ok p.decoded := by
  have hword := uint16_put16 p.packetID []
  rw [List.append_nil] at hword
  by_cases hlong : p.long = true
  · -- the long form: reason code and properties follow the packet ID
    have hv : p.protocolVersion = 5 := by
      rw [AckPacket.long, Bool.and_eq_true, beq_iff_eq] at hlong
      exact hlong.1
    have hbody : p.body = put16 p.packetID ++ (p.reasonCode :: Properties.encode p.properties) := by
      rw [AckPacket.body, if_pos hlong]
      simp
    have hpos : 0 < (Properties.encode p.properties).length :=
      lt_of_le_of_lt (Nat.zero_le _) (length_encode_properties p.properties)
    rw [hbody] at hlen
    simp only [List.length_append, length_put16, List.length_cons] at hlen
    have hreason := index_append (put16 p.packetID) p.reasonCode (Properties.encode p.properties)
    have hread := readProperties_append hprops (by omega) (put16 p.packetID ++ [p.reasonCode]) []
    rw [length_put16] at hreason
    simp only [List.append_nil, List.append_assoc, List.singleton_append, List.length_append,
      length_put16, List.length_singleton] at hread
    have hlength : (put16 p.packetID ++ (p.reasonCode :: Properties.encode p.properties)).length
        = 3 + (Properties.encode p.properties).length := by
      simp only [List.length_append, length_put16, List.length_cons]
      omega
    rw [AckPacket.decoded, if_pos hlong, decodeAck, hbody, hlength, if_neg (by omega), slice_put16]
    simp only [bind, Except.bind, hword]
    rw [if_pos ⟨hv, by omega⟩, hreason]
    simp only [hread]
    rw [if_pos (by omega)]
    rfl
  · have hbody : p.body = put16 p.packetID := by rw [AckPacket.body, if_neg hlong]
    have hslice := slice_put16 p.packetID []
    rw [List.append_nil] at hslice
    rw [AckPacket.decoded, if_neg hlong, decodeAck, hbody, if_neg (by simp), hslice]
    simp only [bind, Except.bind, hword]
    rw [if_neg (by simp)]
    rfl

lemma DisconnectPacket.remainingLength_eq (p : DisconnectPacket) :
    p.fixedHeader.remainingLength = p.body.length := by
  simp only [DisconnectPacket.fixedHeader, DisconnectPacket.body]
  split_ifs
  · rw [List.length_cons, Nat.add_comm]
  · rfl

lemma decodeDisconnectPacket_body {p : DisconnectPacket} (hv : p.protocolVersion = 5)
    (hprops : PropertiesFit p.properties) (hlen : p.body.length ≤ maxRemainingLength) :
    decodeDisconnectPacket p.body
      = .ok { reasonCode := p.reasonCode, properties := some (p.properties.getD {}) } := by
  have hbody : p.body = p.reasonCode :: Properties.encode p.properties := if_pos hv
  have hpos : 0 < (Properties.encode p.properties).length :=
    lt_of_le_of_lt (Nat.zero_le _) (length_encode_properties p.properties)
  rw [hbody, List.length_cons] at hlen
  have hreason := index_append [] p.reasonCode (Properties.encode p.properties)
  have hread := readProperties_append hprops (by omega) [p.reasonCode] []
  simp only [List.nil_append, List.append_nil, List.singleton_append, List.length_singleton,
    List.length_nil] at hreason hread
  rw [decodeDisconnectPacket, hbody, if_neg (by simp), hreason]
  simp only [bind, Except.bind, hread]
  rw [if_pos (by simpa using hpos)]
  rfl

/-! ### Streams of packets -/

/-- The packets that are both written and read by this codec. -/
inductive Packet where
  | publish (p : PublishPacket)
  | puback (p : AckPacket)
  | pubrec (p : AckPacket)
  | pubrel (p : AckPacket)
  | pubcomp (p : AckPacket)
  | disconnect (p : DisconnectPacket)

namespace Packet

def encode : Packet → Bytes
  | publish p => p.encode
  | puback p => encodePuback p
  | pubrec p => encodePubrec p
  | pubrel p => encodePubrel p
  | pubcomp p => encodePubcomp p
  | disconnect p => p.encode

/-- The fixed header that starts the encoding of a packet. -/
def fixedHeader : Packet → FixedHeader
  | publish p => p.fixedHeader
  | puback p => p.fixedHeader PUBACK 0
  | pubrec p => p.fixedHeader PUBREC 0
  | pubrel p => p.fixedHeader PUBREL 1
  | pubcomp p => p.fixedHeader PUBCOMP 0
  | disconnect p => p.fixedHeader

/-- The bytes behind the fixed header. -/
def body : Packet → Bytes
  | publish p => p.body
  | puback p | pubrec p | pubrel p | pubcomp p => p.body
  | disconnect p => p.body

def protocolVersion : Packet → UInt8
  | publish p => p.protocolVersion
  | puback p | pubrec p | pubrel p | pubcomp p => p.protocolVersion
  | disconnect p => p.protocolVersion

def properties : Packet → Option Properties
  | publish p => p.properties
  | puback p | pubrec p | pubrel p | pubcomp p => p.properties
  | disconnect p => p.properties

/-- What is asked of one kind of packet only: the QoS and the topic of a PUBLISH, and that
a DISCONNECT is of version 5. -/
def KindOK : Packet → Prop
  | publish p => p.qos ≤ 2 ∧ p.topic.length ≤ 65535
  | disconnect p => p.protocolVersion = 5
  | _ => True

/-- The packets that the wire format can carry. -/
structure WellFormed (p : Packet) : Prop where
  version : p.protocolVersion = 4 ∨ p.protocolVersion = 5
  kind : p.KindOK
  props : PropertiesFit p.properties
  length_le : p.fixedHeader.remainingLength ≤ maxRemainingLength

/-- The decoder of an acknowledgement recovers `p` from the body: packet ID and version, and
in version 5 the reason code and the properties, a nil pointer counting as no properties. -/
def AckRecovered (decode : Bytes → UInt8 → Except Err AckPacket) (p : AckPacket)
    (body : Bytes) : Prop :=
  ∃ q, decode body p.protocolVersion = .ok q ∧ q.packetID = p.packetID ∧
    q.protocolVersion = p.protocolVersion ∧
    q.reasonCode = (if p.protocolVersion = 5 then p.reasonCode else 0) ∧
    q.properties.getD {} = if p.protocolVersion = 5 then p.properties.getD {} else {}

/-- The frame that was read for a packet, and what the matching decoder makes of it.  The
flags DUP and RETAIN of a PUBLISH are in the fixed header only. -/
def Recovered : Packet → FixedHeader × Bytes → Prop
  | publish p, (fh, body) =>
    fh.packetType = PUBLISH ∧ fh.dup = p.dup ∧ fh.retain = p.retain ∧ fh.qos = p.qos ∧
    ∃ q, decodePublishPacket body fh.qos p.protocolVersion = .ok q ∧ q.topic = p.topic ∧
      q.qos = p.qos ∧ q.packetID = (if p.qos = 0 then 0 else p.packetID) ∧
      q.payload = p.payload ∧ q.protocolVersion = p.protocolVersion ∧
      q.properties.getD {} = if p.protocolVersion = 5 then p.properties.getD {} else {}
  | puback p, (fh, body) => fh.packetType = PUBACK ∧ AckRecovered decodePubackPacket p body
  | pubrec p, (fh, body) => fh.packetType = PUBREC ∧ AckRecovered decodePubrecPacket p body
  | pubrel p, (fh, body) => fh.packetType = PUBREL ∧ AckRecovered decodePubrelPacket p body
  | pubcomp p, (fh, body) => fh.packetType = PUBCOMP ∧ AckRecovered decodePubcompPacket p body
  | disconnect p, (fh, body) =>
    fh.packetType = DISCONNECT ∧
    ∃ q, decodeDisconnectPacket body = .ok q ∧ q.reasonCode = p.reasonCode ∧
      q.properties.getD {} = p.properties.getD {}

lemma encode_eq (p : Packet) : p.encode = p.fixedHeader.encode ++ p.body := by
  cases p <;> rfl

lemma remainingLength_eq (p : Packet) : p.fixedHeader.remainingLength = p.body.length := by
  cases p with
  | publish p | disconnect p => exact p.remainingLength_eq
  | _ p => exact p.remainingLength_eq _ _

lemma packetType_lt (p : Packet) : p.fixedHeader.packetType.toNat < 16 := by
  cases p <;> exact of_decide_eq_true rfl

lemma qos_lt {p : Packet} (h : p.KindOK) : p.fixedHeader.qos.toNat < 4 := by
  cases p with
  | publish p =>
    have hq : p.qos.toNat ≤ 2 := h.1
    exact lt_of_le_of_lt hq (by norm_num)
  | _ p => exact of_decide_eq_true rfl

lemma ackRecovered_body {p : AckPacket} (tooShort : String)
    (hprops : PropertiesFit p.properties) (hlen : p.body.length ≤ maxRemainingLength) :
    AckRecovered (decodeAck tooShort) p p.body := by
  refine ⟨p.decoded, decodeAck_body tooShort hprops hlen, ?_⟩
  rw [AckPacket.decoded]
  by_cases hlong : p.long = true
  · have hv : p.protocolVersion = 5 := by
      rw [AckPacket.long, Bool.and_eq_true, beq_iff_eq] at hlong
      exact hlong.1
    simp [hlong, hv]
  · simp only [hlong, Bool.false_eq_true, if_false, Option.getD_none, true_and]
    -- in version 5 the short form is chosen because there is nothing to say
    by_cases hv : p.protocolVersion = 5
    · simp only [AckPacket.long, hv, beq_self_eq_true, Bool.true_and, Bool.or_eq_true, bne_iff_ne,
        ne_eq, Option.isSome_iff_ne_none, not_or, not_not] at hlong
      simp [hv, hlong.1, hlong.2]
    · simp [hv]

lemma recovered_body {p : Packet} (h : p.WellFormed) : p.Recovered (p.fixedHeader, p.body) := by
  have hlen := h.length_le
  rw [p.remainingLength_eq] at hlen
  have hprops := h.props
  cases p with
  | publish p =>
    refine ⟨rfl, rfl, rfl, rfl, p.decoded,
      decodePublishPacket_body h.kind.2 hprops hlen, rfl, rfl, ?_, rfl, rfl, ?_⟩
    · by_cases hq : p.qos = 0
      · simp [PublishPacket.decoded, hq]
      · simp [PublishPacket.decoded, hq, UInt8.pos_iff_ne_zero]
    · simp only [PublishPacket.decoded]
      split_ifs <;> rfl
  | puback p | pubrec p | pubrel p | pubcomp p => exact ⟨rfl, ackRecovered_body _ hprops hlen⟩
  | disconnect p =>
    exact ⟨rfl, _, decodeDisconnectPacket_body h.kind hprops hlen, rfl, rfl⟩

end Packet

/-- `ReadPacket`, repeated `n` times. -/
def readPackets : ℕ → Bytes → Except Err (List (FixedHeader × Bytes) × Bytes)
  | 0, r => .ok ([], r)
  | n + 1, r => do
    let (frame, r) ← readPacket r
    let (frames, r) ← readPackets n r
    return (frame :: frames, r)

/-- **Round trip over a stream.**  Reading the encodings of well-formed packets, followed by
any bytes, gives one frame for each packet, in order, and leaves exactly the trailing bytes;
from each frame the matching decoder recovers the packet. -/
theorem readPackets_encode (ps : List Packet) (hps : ∀ p ∈ ps, p.WellFormed) (rest : Bytes) :
    ∃ frames, readPackets ps.length (ps.flatMap Packet.encode ++ rest) = .ok (frames, rest) ∧
      List.Forall₂ Packet.Recovered ps frames := by
  induction ps with
  | nil => exact ⟨[], rfl, List.Forall₂.nil⟩
  | cons p ps ih =>
    have hp : p.WellFormed := hps p (by simp)
    obtain ⟨frames, hread, hrec⟩ := ih fun q hq => hps q (by simp [hq])
    refine ⟨(p.fixedHeader, p.body) :: frames, ?_,
      List.Forall₂.cons (Packet.recovered_body hp) hrec⟩
    have hfirst : readPacket ((p :: ps).flatMap Packet.encode ++ rest)
        = .ok ((p.fixedHeader, p.body), ps.flatMap Packet.encode ++ rest) := by
      have hlen := hp.length_le
      rw [p.remainingLength_eq] at hlen
      rw [List.flatMap_cons, p.encode_eq, List.append_assoc]
      exact readPacket_append p.packetType_lt (Packet.qos_lt hp.kind) p.remainingLength_eq hlen _
    rw [List.length_cons, readPackets, hfirst]
    simp only [bind, Except.bind, hread]
    rfl

/-- A stream with packets of both versions, with and without the optional parts. -/
def samplePackets : List Packet :=
  [.publish { topic := str "a/b", packetID := 7, qos := 1, dup := true, payload := [1, 2],
              protocolVersion := 5 },
    .puback { packetID := 7, reasonCode := 0x10, protocolVersion := 5 },
    .pubrel { packetID := 9, protocolVersion := 4 },
    .disconnect { reasonCode := 0x04, protocolVersion := 5 }]

theorem readPackets_encode_sample : (∀ p ∈ samplePackets, p.WellFormed) ∧
    ∃ frames, readPackets 4 (samplePackets.flatMap Packet.encode ++ [0xFF]) = .ok (frames, [0xFF]) ∧
      List.Forall₂ Packet.Recovered samplePackets frames := by
  have h : ∀ p ∈ samplePackets, p.WellFormed := by
    intro p hp
    simp only [samplePackets, List.mem_cons, List.not_mem_nil, or_false] at hp
    rcases hp with rfl | rfl | rfl | rfl
    · exact ⟨Or.inr rfl, ⟨by decide, by decide⟩, by decide, by decide⟩
    · exact ⟨Or.inr rfl, trivial, by decide, by decide⟩
    · exact ⟨Or.inl rfl, trivial, by decide, by decide⟩
    · exact ⟨Or.inr rfl, rfl, by decide, by decide⟩
  exact ⟨h, readPackets_encode samplePackets h [0xFF]⟩

end Dmqtt.Codec
