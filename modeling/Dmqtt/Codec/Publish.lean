/-
PUBLISH, its four acknowledgements and DISCONNECT (`internal/codec/publish.go`,
`internal/codec/disconnect.go`).

PUBACK, PUBREC, PUBREL and PUBCOMP have the same fields and the same code up to the packet
type, the flags of the fixed header and the text of one error; they are instances of
`encodeAck` and `decodeAck`.
-/
import Dmqtt.Codec.FixedHeader
import Dmqtt.Codec.PropertyItems

namespace Dmqtt.Codec

open Lib Lib.BigEndian

/-- The property section of a packet: a variable byte integer, then that many bytes of
properties.  Returns the properties and the number of bytes consumed. -/
def readProperties (data : Bytes) (offset : ℕ) : Except Err (Properties × ℕ) := do
  let (propLen, pn) ← decodeVarInt data offset
  let props ← decodeProperties (← sliceFrom data (offset + pn)) propLen
  return (props, pn + propLen)

/-! ### PUBLISH -/

structure PublishPacket where
  topic : Str
  packetID : UInt16 := 0
  qos : UInt8 := 0
  dup : Bool := false
  retain : Bool := false
  payload : Bytes := []
  properties : Option Properties := none
  protocolVersion : UInt8 := 0
deriving DecidableEq, Repr

/-- The packet ID, present at QoS 1 and 2, and the number of bytes it takes. -/
def readPacketID (data : Bytes) (offset : ℕ) (qos : UInt8) : Except Err (UInt16 × ℕ) :=
  if 0 < qos then
    if data.length < offset + 2 then .error (.malformed "missing packet ID in PUBLISH")
    else do
      let id ← uint16 (← slice data offset (offset + 2))
      return (id, 2)
  else
    return (0, 0)

/-- The property section, present in version 5, and the number of bytes it takes. -/
def readPropertiesV5 (data : Bytes) (offset : ℕ) (protocolVersion : UInt8) :
    Except Err (Option Properties × ℕ) :=
  if protocolVersion = 5 then do
    let (props, n) ← readProperties data offset
    return (some props, n)
  else
    return (none, 0)

/-- Everything behind the variable header. -/
def readPayload (data : Bytes) (offset : ℕ) : Except Err Bytes :=
  if offset < data.length then sliceFrom data offset else return []

/-- Decodes the variable header and payload; the QoS is taken from the fixed header. -/
def decodePublishPacket (data : Bytes) (qos protocolVersion : UInt8) :
    Except Err PublishPacket := do
  let (topic, n) ← readUTF8String data 0
  let offset := n
  let (packetID, n) ← readPacketID data offset qos
  let offset := offset + n
  let (properties, n) ← readPropertiesV5 data offset protocolVersion
  let offset := offset + n
  let payload ← readPayload data offset
  return { topic, packetID, qos, payload, properties, protocolVersion }

/-- The packet ID of a PUBLISH on the wire. -/
def PublishPacket.idBytes (p : PublishPacket) : Bytes :=
  if 0 < p.qos then put16 p.packetID else []

/-- The property section of a PUBLISH on the wire. -/
def PublishPacket.propsData (p : PublishPacket) : Bytes :=
  if p.protocolVersion = 5 then Properties.encode p.properties else []

/-- The bytes of a PUBLISH behind its fixed header. -/
def PublishPacket.body (p : PublishPacket) : Bytes :=
  lengthPrefixed p.topic ++ p.idBytes ++ p.propsData ++ p.payload

/-- The fixed header of a PUBLISH; the remaining length is added up from the parts. -/
def PublishPacket.fixedHeader (p : PublishPacket) : FixedHeader where
  packetType := PUBLISH
  dup := p.dup
  qos := p.qos
  retain := p.retain
  remainingLength :=
    let topicLen := 2 + p.topic.length
    let remaining := topicLen + p.payload.length
    let remaining := if 0 < p.qos then remaining + 2 else remaining
    if p.protocolVersion = 5 then remaining + p.propsData.length else remaining

/-- Serializes the PUBLISH packet, including its fixed header. -/
def PublishPacket.encode (p : PublishPacket) : Bytes := p.fixedHeader.encode ++ p.body

/-! ### The acknowledgements -/

/-- The fields of PUBACK, PUBREC, PUBREL and PUBCOMP. -/
structure AckPacket where
  packetID : UInt16
  reasonCode : UInt8 := 0
  properties : Option Properties := none
  protocolVersion : UInt8 := 0
deriving DecidableEq, Repr

/-- The long form, with a reason code and properties, is used in version 5 when one of
them says something. -/
def AckPacket.long (p : AckPacket) : Bool :=
  p.protocolVersion == 5 && (p.reasonCode != 0x00 || p.properties.isSome)

/-- The bytes of an acknowledgement behind its fixed header. -/
def AckPacket.body (p : AckPacket) : Bytes :=
  if p.long then put16 p.packetID ++ [p.reasonCode] ++ Properties.encode p.properties
  else put16 p.packetID

/-- The fixed header of an acknowledgement with the given packet type and flags. -/
def AckPacket.fixedHeader (packetType qos : UInt8) (p : AckPacket) : FixedHeader where
  packetType := packetType
  qos := qos
  remainingLength := if p.long then 2 + 1 + (Properties.encode p.properties).length else 2

def encodeAck (packetType qos : UInt8) (p : AckPacket) : Bytes :=
  (p.fixedHeader packetType qos).encode ++ p.body

def decodeAck (tooShort : String) (data : Bytes) (protocolVersion : UInt8) :
    Except Err AckPacket :=
  if data.length < 2 then .error (.malformed tooShort)
  else do
    let packetID ← uint16 (← slice data 0 2)
    let offset := 2
    if protocolVersion = 5 ∧ offset < data.length then do
      let reasonCode ← index data offset
      let offset := offset + 1
      if offset < data.length then do
        let (props, _) ← readProperties data offset
        return { packetID, reasonCode, properties := some props, protocolVersion }
      else
        return { packetID, reasonCode, protocolVersion }
    else
      return { packetID, protocolVersion }

def encodePuback (p : AckPacket) : Bytes := encodeAck PUBACK 0 p
def encodePubrec (p : AckPacket) : Bytes := encodeAck PUBREC 0 p
/-- PUBREL requires the fixed header flags `0x02`. -/
def encodePubrel (p : AckPacket) : Bytes := encodeAck PUBREL 1 p
def encodePubcomp (p : AckPacket) : Bytes := encodeAck PUBCOMP 0 p

def decodePubackPacket : Bytes → UInt8 → Except Err AckPacket :=
  decodeAck "PUBACK packet too short"
def decodePubrecPacket : Bytes → UInt8 → Except Err AckPacket :=
  decodeAck "PUBREC packet too short"
def decodePubrelPacket : Bytes → UInt8 → Except Err AckPacket :=
  decodeAck "PUBREL packet too short"
def decodePubcompPacket : Bytes → UInt8 → Except Err AckPacket :=
  decodeAck "PUBCOMP packet too short"

/-! ### DISCONNECT -/

structure DisconnectPacket where
  reasonCode : UInt8 := 0
  properties : Option Properties := none
  protocolVersion : UInt8 := 0
deriving DecidableEq, Repr

def DisconnectPacket.body (p : DisconnectPacket) : Bytes :=
  if p.protocolVersion = 5 then p.reasonCode :: Properties.encode p.properties else []

def DisconnectPacket.fixedHeader (p : DisconnectPacket) : FixedHeader where
  packetType := DISCONNECT
  remainingLength :=
    if p.protocolVersion = 5 then 1 + (Properties.encode p.properties).length else 0

def DisconnectPacket.encode (p : DisconnectPacket) : Bytes := p.fixedHeader.encode ++ p.body

/-- Decodes the variable header of a version 5 DISCONNECT; the version itself is not
restored. -/
def decodeDisconnectPacket (data : Bytes) : Except Err DisconnectPacket :=
  if data.length = 0 then .ok {}
  else do
    let reasonCode ← index data 0
    if 1 < data.length then do
      let (props, _) ← readProperties data 1
      return { reasonCode, properties := some props }
    else
      return { reasonCode }

end Dmqtt.Codec
