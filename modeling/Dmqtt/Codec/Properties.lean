/-
MQTT 5 properties (`internal/codec/properties.go`).

`Properties.encode` writes the fields that are set in a fixed order, each behind its
one-byte identifier; `decodeProperties` reads identifiers in any order and dispatches on
them.  The two are related in `Dmqtt/Codec/PropertyItems.lean`.
-/
import Dmqtt.Lib.Base128
import Dmqtt.Codec.Packets

namespace Dmqtt.Codec

open Lib.BigEndian

/-! ### Property identifiers -/

@[match_pattern] def propPayloadFormatIndicator : UInt8 := 0x01
@[match_pattern] def propMessageExpiryInterval : UInt8 := 0x02
@[match_pattern] def propContentType : UInt8 := 0x03
@[match_pattern] def propResponseTopic : UInt8 := 0x08
@[match_pattern] def propCorrelationData : UInt8 := 0x09
@[match_pattern] def propSubscriptionIdentifier : UInt8 := 0x0B
@[match_pattern] def propSessionExpiryInterval : UInt8 := 0x11
@[match_pattern] def propAssignedClientIdentifier : UInt8 := 0x12
@[match_pattern] def propServerKeepAlive : UInt8 := 0x13
@[match_pattern] def propAuthenticationMethod : UInt8 := 0x15
@[match_pattern] def propAuthenticationData : UInt8 := 0x16
@[match_pattern] def propRequestProblemInfo : UInt8 := 0x17
@[match_pattern] def propWillDelayInterval : UInt8 := 0x18
@[match_pattern] def propRequestResponseInfo : UInt8 := 0x19
@[match_pattern] def propResponseInformation : UInt8 := 0x1A
@[match_pattern] def propServerReference : UInt8 := 0x1C
@[match_pattern] def propReasonString : UInt8 := 0x1F
@[match_pattern] def propReceiveMaximum : UInt8 := 0x21
@[match_pattern] def propTopicAliasMaximum : UInt8 := 0x22
@[match_pattern] def propTopicAlias : UInt8 := 0x23
@[match_pattern] def propMaximumQoS : UInt8 := 0x24
@[match_pattern] def propRetainAvailable : UInt8 := 0x25
@[match_pattern] def propUserProperty : UInt8 := 0x26
@[match_pattern] def propMaximumPacketSize : UInt8 := 0x27
@[match_pattern] def propWildcardSubAvailable : UInt8 := 0x28
@[match_pattern] def propSubIdentifierAvailable : UInt8 := 0x29
@[match_pattern] def propSharedSubAvailable : UInt8 := 0x2A

/-- A key-value string pair. -/
structure UserProperty where
  key : Str
  value : Str
deriving DecidableEq, Repr

/-- All MQTT 5 properties; a field that is not set is `none`. -/
structure Properties where
  sessionExpiryInterval : Option UInt32 := none
  receiveMaximum : Option UInt16 := none
  maximumQoS : Option UInt8 := none
  retainAvailable : Option UInt8 := none
  maximumPacketSize : Option UInt32 := none
  assignedClientIdentifier : Option Str := none
  topicAliasMaximum : Option UInt16 := none
  reasonString : Option Str := none
  wildcardSubAvailable : Option UInt8 := none
  subIdentifierAvailable : Option UInt8 := none
  sharedSubAvailable : Option UInt8 := none
  serverKeepAlive : Option UInt16 := none
  serverReference : Option Str := none
  responseInformation : Option Str := none
  payloadFormatIndicator : Option UInt8 := none
  messageExpiryInterval : Option UInt32 := none
  topicAlias : Option UInt16 := none
  responseTopic : Option Str := none
  correlationData : Option Bytes := none
  contentType : Option Str := none
  subscriptionIdentifier : Option UInt32 := none
  willDelayInterval : Option UInt32 := none
  authenticationMethod : Option Str := none
  authenticationData : Option Bytes := none
  requestProblemInfo : Option UInt8 := none
  requestResponseInfo : Option UInt8 := none
  userProperties : List UserProperty := []
deriving DecidableEq, Repr

/-! ### Variable byte integers -/

/-- Encodes a variable-length integer. -/
def encodeVarInt (n : ℕ) : Bytes := Lib.Base128.encode n

/-- The loop of `decodeVarInt`, with the number of iterations that are left. -/
def decodeVarIntLoop (data : Bytes) (offset : ℕ) : ℕ → ℕ → ℕ → ℕ → Except Err (ℕ × ℕ)
  | 0, _, _, _ => .error (.malformed "variable byte integer exceeds 4 bytes")
  | k + 1, i, multiplier, value =>
    if data.length ≤ offset + i then .error (.malformed "truncated variable byte integer")
    else do
      let b ← index data (offset + i)
      let value := value + (b &&& 0x7F).toNat * multiplier
      if b &&& 0x80 = 0 then
        return (value, i + 1)
      else
        decodeVarIntLoop data offset k (i + 1) (multiplier * 128) value

/-- Decodes a variable-length integer from `data` at `offset`: the value and the number of
bytes consumed. -/
def decodeVarInt (data : Bytes) (offset : ℕ) : Except Err (ℕ × ℕ) :=
  decodeVarIntLoop data offset 4 0 1 0

/-! ### Encoding -/

def appendByteProp (buf : Bytes) (id : UInt8) : Option UInt8 → Bytes
  | none => buf
  | some v => buf ++ [id, v]

def appendUint16Prop (buf : Bytes) (id : UInt8) : Option UInt16 → Bytes
  | none => buf
  | some v => buf ++ [id] ++ put16 v

def appendUint32Prop (buf : Bytes) (id : UInt8) : Option UInt32 → Bytes
  | none => buf
  | some v => buf ++ [id] ++ put32 v

def appendUTF8 (buf : Bytes) (s : Str) : Bytes := buf ++ lengthPrefixed s

def appendStringProp (buf : Bytes) (id : UInt8) : Option Str → Bytes
  | none => buf
  | some s => appendUTF8 (buf ++ [id]) s

def appendBinaryProp (buf : Bytes) (id : UInt8) : Option Bytes → Bytes
  | none => buf
  | some v => buf ++ [id] ++ lengthPrefixed v

/-- The subscription identifier is the only property that is written as a variable byte
integer. -/
def appendSubscriptionIdentifier (buf : Bytes) : Option UInt32 → Bytes
  | none => buf
  | some v => buf ++ [propSubscriptionIdentifier] ++ encodeVarInt v.toNat

def appendUserProperty (buf : Bytes) (up : UserProperty) : Bytes :=
  appendUTF8 (appendUTF8 (buf ++ [propUserProperty]) up.key) up.value

/-- The encoded properties without their length. -/
def Properties.body (p : Properties) : Bytes :=
  let body : Bytes := []
  let body := appendUint32Prop body propSessionExpiryInterval p.sessionExpiryInterval
  let body := appendUint16Prop body propReceiveMaximum p.receiveMaximum
  let body := appendByteProp body propMaximumQoS p.maximumQoS
  let body := appendByteProp body propRetainAvailable p.retainAvailable
  let body := appendUint32Prop body propMaximumPacketSize p.maximumPacketSize
  let body := appendStringProp body propAssignedClientIdentifier p.assignedClientIdentifier
  let body := appendUint16Prop body propTopicAliasMaximum p.topicAliasMaximum
  let body := appendStringProp body propReasonString p.reasonString
  let body := appendByteProp body propWildcardSubAvailable p.wildcardSubAvailable
  let body := appendByteProp body propSubIdentifierAvailable p.subIdentifierAvailable
  let body := appendByteProp body propSharedSubAvailable p.sharedSubAvailable
  let body := appendUint16Prop body propServerKeepAlive p.serverKeepAlive
  let body := appendStringProp body propServerReference p.serverReference
  let body := appendStringProp body propResponseInformation p.responseInformation
  let body := appendByteProp body propPayloadFormatIndicator p.payloadFormatIndicator
  let body := appendUint32Prop body propMessageExpiryInterval p.messageExpiryInterval
  let body := appendUint16Prop body propTopicAlias p.topicAlias
  let body := appendStringProp body propResponseTopic p.responseTopic
  let body := appendBinaryProp body propCorrelationData p.correlationData
  let body := appendStringProp body propContentType p.contentType
  let body := appendSubscriptionIdentifier body p.subscriptionIdentifier
  let body := appendUint32Prop body propWillDelayInterval p.willDelayInterval
  let body := appendStringProp body propAuthenticationMethod p.authenticationMethod
  let body := appendBinaryProp body propAuthenticationData p.authenticationData
  let body := appendByteProp body propRequestProblemInfo p.requestProblemInfo
  let body := appendByteProp body propRequestResponseInfo p.requestResponseInfo
  p.userProperties.foldl appendUserProperty body

/-- Serializes properties with a variable-length prefix; `none` is the nil pointer. -/
def Properties.encode : Option Properties → Bytes
  | none => [0x00]
  | some p => encodeVarInt p.body.length ++ p.body

/-! ### Decoding -/

def readByte (data : Bytes) (offset stop : ℕ) : Except Err (UInt8 × ℕ) :=
  if stop ≤ offset ∨ data.length ≤ offset then .error (.malformed "truncated byte property")
  else do
    let b ← index data offset
    return (b, 1)

def readUint16 (data : Bytes) (offset stop : ℕ) : Except Err (UInt16 × ℕ) :=
  if stop < offset + 2 ∨ data.length < offset + 2 then
    .error (.malformed "truncated uint16 property")
  else do
    let v ← uint16 (← slice data offset (offset + 2))
    return (v, 2)

def readUint32 (data : Bytes) (offset stop : ℕ) : Except Err (UInt32 × ℕ) :=
  if stop < offset + 4 ∨ data.length < offset + 4 then
    .error (.malformed "truncated uint32 property")
  else do
    let v ← uint32 (← slice data offset (offset + 4))
    return (v, 4)

/-- Two strings in a row, the second read where the first ended. -/
def readUserProperty (data : Bytes) (offset stop : ℕ) : Except Err (UserProperty × ℕ) := do
  let (key, n₁) ← readPropString data offset stop
  let (value, n₂) ← readPropString data (offset + n₁) stop
  return (⟨key, value⟩, n₁ + n₂)

/-- One arm of the switch of `DecodeProperties`: the identifier has been read, `offset` is
behind it.  Returns the updated record and the number of bytes consumed. -/
def decodeProperty (propID : UInt8) (data : Bytes) (offset stop : ℕ) (p : Properties) :
    Except Err (Properties × ℕ) :=
  match propID with
  | propSessionExpiryInterval => (readUint32 data offset stop).map fun (v, n) =>
    ({ p with sessionExpiryInterval := some v }, n)
  | propReceiveMaximum => (readUint16 data offset stop).map fun (v, n) =>
    ({ p with receiveMaximum := some v }, n)
  | propMaximumQoS => (readByte data offset stop).map fun (v, n) =>
    ({ p with maximumQoS := some v }, n)
  | propRetainAvailable => (readByte data offset stop).map fun (v, n) =>
    ({ p with retainAvailable := some v }, n)
  | propMaximumPacketSize => (readUint32 data offset stop).map fun (v, n) =>
    ({ p with maximumPacketSize := some v }, n)
  | propAssignedClientIdentifier => (readPropString data offset stop).map fun (v, n) =>
    ({ p with assignedClientIdentifier := some v }, n)
  | propTopicAliasMaximum => (readUint16 data offset stop).map fun (v, n) =>
    ({ p with topicAliasMaximum := some v }, n)
  | propReasonString => (readPropString data offset stop).map fun (v, n) =>
    ({ p with reasonString := some v }, n)
  | propWildcardSubAvailable => (readByte data offset stop).map fun (v, n) =>
    ({ p with wildcardSubAvailable := some v }, n)
  | propSubIdentifierAvailable => (readByte data offset stop).map fun (v, n) =>
    ({ p with subIdentifierAvailable := some v }, n)
  | propSharedSubAvailable => (readByte data offset stop).map fun (v, n) =>
    ({ p with sharedSubAvailable := some v }, n)
  | propServerKeepAlive => (readUint16 data offset stop).map fun (v, n) =>
    ({ p with serverKeepAlive := some v }, n)
  | propServerReference => (readPropString data offset stop).map fun (v, n) =>
    ({ p with serverReference := some v }, n)
  | propResponseInformation => (readPropString data offset stop).map fun (v, n) =>
    ({ p with responseInformation := some v }, n)
  | propPayloadFormatIndicator => (readByte data offset stop).map fun (v, n) =>
    ({ p with payloadFormatIndicator := some v }, n)
  | propMessageExpiryInterval => (readUint32 data offset stop).map fun (v, n) =>
    ({ p with messageExpiryInterval := some v }, n)
  | propTopicAlias => (readUint16 data offset stop).map fun (v, n) =>
    ({ p with topicAlias := some v }, n)
  | propResponseTopic => (readPropString data offset stop).map fun (v, n) =>
    ({ p with responseTopic := some v }, n)
  | propCorrelationData => (readPropBinaryData data offset stop).map fun (v, n) =>
    ({ p with correlationData := some v }, n)
  | propContentType => (readPropString data offset stop).map fun (v, n) =>
    ({ p with contentType := some v }, n)
  | propSubscriptionIdentifier =>
    -- the end of the property section is not passed on here
    (decodeVarInt data offset).map fun (v, n) =>
      ({ p with subscriptionIdentifier := some v.toUInt32 }, n)
  | propWillDelayInterval => (readUint32 data offset stop).map fun (v, n) =>
    ({ p with willDelayInterval := some v }, n)
  | propAuthenticationMethod => (readPropString data offset stop).map fun (v, n) =>
    ({ p with authenticationMethod := some v }, n)
  | propAuthenticationData => (readPropBinaryData data offset stop).map fun (v, n) =>
    ({ p with authenticationData := some v }, n)
  | propRequestProblemInfo => (readByte data offset stop).map fun (v, n) =>
    ({ p with requestProblemInfo := some v }, n)
  | propRequestResponseInfo => (readByte data offset stop).map fun (v, n) =>
    ({ p with requestResponseInfo := some v }, n)
  | propUserProperty => (readUserProperty data offset stop).map fun (v, n) =>
    ({ p with userProperties := p.userProperties ++ [v] }, n)
  | _ => .error (.malformed "unknown property identifier")

/-- The loop of `DecodeProperties`. -/
def decodePropertiesLoop (data : Bytes) (stop offset : ℕ) (p : Properties) :
    Except Err Properties :=
  if offset < stop then
    if data.length ≤ offset then .error (.malformed "truncated property")
    else do
      let propID ← index data offset
      let (p, n) ← decodeProperty propID data (offset + 1) stop p
      decodePropertiesLoop data stop (offset + 1 + n) p
  else
    .ok p
termination_by stop - offset
decreasing_by omega

/-- Decodes properties from `data` of the given length. -/
def decodeProperties (data : Bytes) (propertyLength : ℕ) : Except Err Properties :=
  if propertyLength = 0 then .ok {}
  else if data.length < propertyLength then
    .error (.malformed "property length exceeds available data")
  else
    decodePropertiesLoop data propertyLength 0 {}

end Dmqtt.Codec
