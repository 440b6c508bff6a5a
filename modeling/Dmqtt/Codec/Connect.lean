/-
CONNECT, SUBSCRIBE and their answers, and UNSUBSCRIBE (`internal/codec/connect.go`,
`internal/codec/subscribe.go`, `internal/codec/unsubscribe.go`).
-/
import Dmqtt.Codec.Publish

namespace Dmqtt.Codec

open Lib

/-! ### CONNECT -/

def connackAccepted : UInt8 := 0x00
def connackUnacceptableProtocol : UInt8 := 0x01
def connackIdentifierRejected : UInt8 := 0x02
def connackBadUsernameOrPassword : UInt8 := 0x04
def connackNotAuthorized : UInt8 := 0x05

structure ConnectPacket where
  protocolName : Str
  protocolLevel : UInt8
  cleanSession : Bool
  keepAlive : UInt16 := 0
  clientID : Str
  willFlag : Bool := false
  willQoS : UInt8 := 0
  willRetain : Bool := false
  willTopic : Str := []
  willPayload : Bytes := []
  usernameFlag : Bool := false
  passwordFlag : Bool := false
  username : Str := []
  password : Bytes := []
  properties : Option Properties := none
  willProperties : Option Properties := none
deriving DecidableEq, Repr

/-- `fmt.Errorf("context: %w", err)` around an error. -/
def wrap {α : Type} (context : String) : Except Err α → Except Err α
  | .ok a => .ok a
  | .error err => .error (.wrapped context err)

/-- A field that is present only if its flag is set, and the number of bytes it takes. -/
def readIf {α : Type} (flag : Bool) (none : α) (read : Except Err (α × ℕ)) :
    Except Err (α × ℕ) :=
  if flag then read else .ok (none, 0)

/-- The property section of a CONNECT of level 5, and the number of bytes it takes. -/
def readConnectProperties (lengthContext propsContext : String) (data : Bytes) (offset : ℕ) :
    Except Err (Option Properties × ℕ) := do
  let (propLen, n) ← wrap lengthContext (decodeVarInt data offset)
  let rest ← sliceFrom data (offset + n)
  let props ← wrap propsContext (decodeProperties rest propLen)
  return (some props, n + propLen)

/-- The protocol name and level, and the number of bytes they take. -/
def readProtocol (data : Bytes) : Except Err (Str × UInt8 × ℕ) := do
  let (name, n) ← wrap "reading protocol name" (readUTF8String data 0)
  if data.length ≤ n then .error (.malformed "missing protocol level")
  else do
    let level ← index data n
    if level ≠ 4 ∧ level ≠ 5 then
      .error (.malformed ("unsupported protocol level " ++ toString level.toNat))
    else return (name, level, n + 1)

/-- The flags and the keep-alive interval, behind the protocol level. -/
def readFlags (data : Bytes) (offset : ℕ) : Except Err (UInt8 × UInt16) :=
  if data.length ≤ offset then .error (.malformed "missing connect flags")
  else do
    let flags ← index data offset
    if data.length < offset + 3 then .error (.malformed "missing keep alive")
    else do
      let keepAlive ← uint16 (← slice data (offset + 1) (offset + 3))
      return (flags, keepAlive)

/-- Decodes the variable header and payload of a CONNECT packet. -/
def decodeConnectPacket (data : Bytes) : Except Err ConnectPacket :=
  if data.length < 10 then .error (.malformed "CONNECT packet too short")
  else do
    let (protocolName, protocolLevel, offset) ← readProtocol data
    let (flags, keepAlive) ← readFlags data offset
    let offset := offset + 3
    let willFlag : Bool := flags &&& 0x04 ≠ 0
    let passwordFlag : Bool := flags &&& 0x40 ≠ 0
    let usernameFlag : Bool := flags &&& 0x80 ≠ 0
    let (properties, n) ← readIf (protocolLevel = 5) none
      (readConnectProperties "reading connect properties length" "decoding connect properties"
        data offset)
    let offset := offset + n
    let (clientID, n) ← wrap "reading client ID" (readUTF8String data offset)
    let offset := offset + n
    let (willProperties, n) ← readIf (willFlag && protocolLevel = 5) none
      (readConnectProperties "reading will properties length" "decoding will properties"
        data offset)
    let offset := offset + n
    let (willTopic, n) ← readIf willFlag []
      (wrap "reading will topic" (readUTF8String data offset))
    let offset := offset + n
    let (willPayload, n) ← readIf willFlag []
      (wrap "reading will payload" (readBinaryData data offset))
    let offset := offset + n
    let (username, n) ← readIf usernameFlag []
      (wrap "reading username" (readUTF8String data offset))
    let offset := offset + n
    let (password, _) ← readIf passwordFlag []
      (wrap "reading password" (readBinaryData data offset))
    return {
      protocolName, protocolLevel, keepAlive, clientID, willFlag, willTopic, willPayload,
      usernameFlag, passwordFlag, username, password, properties, willProperties
      cleanSession := flags &&& 0x02 ≠ 0
      willQoS := (flags >>> 3) &&& 0x03
      willRetain := flags &&& 0x20 ≠ 0 }

structure ConnackPacket where
  sessionPresent : Bool := false
  returnCode : UInt8
  reasonCode : UInt8 := 0
  protocolVersion : UInt8 := 0
deriving DecidableEq, Repr

/-! ### SUBSCRIBE -/

/-- A topic filter with the requested QoS. -/
structure Subscription where
  topicFilter : Str
  qos : UInt8
deriving DecidableEq, Repr

structure SubscribePacket where
  packetID : UInt16
  subscriptions : List Subscription
  properties : Option Properties := none
deriving DecidableEq, Repr

/-- The loop of `DecodeSubscribePacket`: the subscriptions from `offset` on. -/
def readSubscriptions (data : Bytes) (offset : ℕ) : Except Err (List Subscription) :=
  if offset < data.length then do
    let (topicFilter, n) ← readUTF8String data offset
    if data.length ≤ offset + n then .error (.malformed "missing QoS byte in SUBSCRIBE")
    else do
      let qos ← index data (offset + n)
      let subs ← readSubscriptions data (offset + n + 1)
      return ⟨topicFilter, qos⟩ :: subs
  else
    .ok []
termination_by data.length - offset
decreasing_by omega

/-- Decodes the variable header and payload of a SUBSCRIBE packet. -/
def decodeSubscribePacket (data : Bytes) (protocolVersion : UInt8) : Except Err SubscribePacket :=
  if data.length < 5 then .error (.malformed "SUBSCRIBE packet too short")
  else do
    let packetID ← uint16 (← slice data 0 2)
    let (properties, n) ← readPropertiesV5 data 2 protocolVersion
    let subscriptions ← readSubscriptions data (2 + n)
    if subscriptions = [] then
      .error (.malformed "SUBSCRIBE must contain at least one topic filter")
    else return { packetID, subscriptions, properties }

structure SubackPacket where
  packetID : UInt16
  returnCodes : List UInt8
deriving DecidableEq, Repr

/-! ### UNSUBSCRIBE -/

structure UnsubscribePacket where
  packetID : UInt16
  topicFilters : List Str
  properties : Option Properties := none
deriving DecidableEq, Repr

lemma two_le_of_readUTF8String {data : Bytes} {offset n : ℕ} {s : Str}
    (h : readUTF8String data offset = .ok (s, n)) : 2 ≤ n := by
  rw [readUTF8String, readLengthPrefixed] at h
  split_ifs at h
  simp only [bind, Except.bind, pure, Except.pure] at h
  split at h
  · cases h
  split at h
  · cases h
  split_ifs at h
  split at h
  · cases h
  · cases h
    omega

/-- The loop of `DecodeUnsubscribePacket`: the topic filters from `offset` on. -/
def readTopicFilters (data : Bytes) (offset : ℕ) : Except Err (List Str) :=
  if offset < data.length then
    match h : readUTF8String data offset with
    | .error err => .error err
    | .ok (topicFilter, n) => do
      let topicFilters ← readTopicFilters data (offset + n)
      return topicFilter :: topicFilters
  else
    .ok []
termination_by data.length - offset
decreasing_by
  -- a filter takes at least the two bytes of its length
  have hn := two_le_of_readUTF8String h
  omega

/-- Decodes the variable header and payload of an UNSUBSCRIBE packet. -/
def decodeUnsubscribePacket (data : Bytes) (protocolVersion : UInt8) :
    Except Err UnsubscribePacket :=
  if data.length < 4 then .error (.malformed "UNSUBSCRIBE packet too short")
  else do
    let packetID ← uint16 (← slice data 0 2)
    let (properties, n) ← readPropertiesV5 data 2 protocolVersion
    let topicFilters ← readTopicFilters data (2 + n)
    if topicFilters = [] then
      .error (.malformed "UNSUBSCRIBE must contain at least one topic filter")
    else return { packetID, topicFilters, properties }

end Dmqtt.Codec
