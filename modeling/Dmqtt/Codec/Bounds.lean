/-
The decoders stay within their input.

`InBounds r` says that a decoder ended with a packet or with an error value: no index and no
slice expression on the way was out of range.  Every reader gets a lemma with what it ensures
when it succeeds, above all where it ended; the next reader starts there.
-/
import Dmqtt.Lib.Ensures
import Dmqtt.Codec.Connect

namespace Dmqtt.Codec

open Lib

/-- The error stands for a panic, possibly inside the texts that callers put around it. -/
def Err.panics : Err → Bool
  | .outOfRange => true
  | .wrapped _ cause => cause.panics
  | _ => false

/-- The computation returned a value or an error value. -/
def InBounds {α : Type} (r : Except Err α) : Prop :=
  (∃ a, r = .ok a) ∨ ∃ err, r = .error err ∧ err.panics = false

/-- The computation returned a value with the property `P`, or an error value. -/
def Reads {α : Type} (P : α → Prop) (r : Except Err α) : Prop :=
  Ensures (fun err => err.panics = false) P r

lemma Reads.inBounds {α : Type} {P : α → Prop} {r : Except Err α} (h : Reads P r) :
    InBounds r := by
  cases r with
  | ok a => exact Or.inl ⟨a, rfl⟩
  | error err => exact Or.inr ⟨err, rfl, h⟩

variable {data : Bytes} {offset stop : ℕ}

/-! ### Single expressions -/

lemma reads_index (h : offset < data.length) : Reads (fun _ => True) (index data offset) := by
  rw [index, List.getElem?_eq_getElem h]
  trivial

lemma reads_slice {lo hi : ℕ} (h₁ : lo ≤ hi) (h₂ : hi ≤ data.length) :
    Reads (fun s => s.length = hi - lo) (slice data lo hi) := by
  rw [slice, slice_eq_some h₁ h₂]
  change ((data.drop lo).take (hi - lo)).length = hi - lo
  rw [List.length_take, List.length_drop]
  omega

lemma reads_sliceFrom (h : offset ≤ data.length) :
    Reads (fun s => s.length = data.length - offset) (sliceFrom data offset) :=
  reads_slice h le_rfl

lemma reads_uint16 (h : data.length = 2) : Reads (fun _ => True) (uint16 data) := by
  obtain ⟨b₀, b₁, rfl⟩ := List.length_eq_two.1 h
  trivial

lemma reads_uint32 (h : data.length = 4) : Reads (fun _ => True) (uint32 data) := by
  match data, h with
  | [_, _, _, _], _ => trivial

lemma reads_wrap {α : Type} {P : α → Prop} {r : Except Err α} (context : String)
    (h : Reads P r) : Reads P (wrap context r) := by
  cases r <;> exact h

/-! ### Readers of one value -/

lemma reads_readByte :
    Reads (fun r => r.2 = 1 ∧ offset + r.2 ≤ stop ∧ offset + r.2 ≤ data.length)
      (readByte data offset stop) := by
  rw [readByte]
  split_ifs with h
  · rfl
  · push Not at h
    exact (reads_index h.2).bind fun b _ => ⟨rfl, h.1, h.2⟩

lemma reads_readUint16 :
    Reads (fun r => r.2 = 2 ∧ offset + r.2 ≤ stop ∧ offset + r.2 ≤ data.length)
      (readUint16 data offset stop) := by
  rw [readUint16]
  split_ifs with h
  · rfl
  · push Not at h
    refine (reads_slice (by omega) h.2).bind fun s hs => ?_
    exact (reads_uint16 (by omega)).bind fun v _ => ⟨rfl, h⟩

lemma reads_readUint32 :
    Reads (fun r => r.2 = 4 ∧ offset + r.2 ≤ stop ∧ offset + r.2 ≤ data.length)
      (readUint32 data offset stop) := by
  rw [readUint32]
  split_ifs with h
  · rfl
  · push Not at h
    refine (reads_slice (by omega) h.2).bind fun s hs => ?_
    exact (reads_uint32 (by omega)).bind fun v _ => ⟨rfl, h⟩

/-- A length-prefixed value ends inside the part of the input it was confined to. -/
lemma reads_readLengthPrefixed (noLength noContent : String) :
    Reads (fun r => r.2 = 2 + r.1.length ∧ offset + r.2 ≤ stop ∧ offset + r.2 ≤ data.length)
      (readLengthPrefixed noLength noContent data offset stop) := by
  rw [readLengthPrefixed]
  split_ifs with h
  · rfl
  push Not at h
  refine (reads_slice (by omega) h.2).bind fun s hs => ?_
  refine (reads_uint16 (by omega)).bind fun v _ => ?_
  dsimp only
  split_ifs with h'
  · rfl
  push Not at h'
  refine (reads_slice (by omega) h'.2).bind fun s hs => ?_
  refine ⟨?_, ?_, ?_⟩ <;> dsimp only <;> omega

lemma reads_readUTF8String :
    Reads (fun r => r.2 = 2 + r.1.length ∧ offset + r.2 ≤ data.length)
      (readUTF8String data offset) :=
  (reads_readLengthPrefixed _ _).mono fun _ h => ⟨h.1, h.2.1⟩

lemma reads_readBinaryData :
    Reads (fun r => r.2 = 2 + r.1.length ∧ offset + r.2 ≤ data.length)
      (readBinaryData data offset) :=
  (reads_readLengthPrefixed _ _).mono fun _ h => ⟨h.1, h.2.1⟩

lemma reads_decodeVarIntLoop (k i multiplier value : ℕ) :
    Reads (fun r => i + 1 ≤ r.2 ∧ offset + r.2 ≤ data.length)
      (decodeVarIntLoop data offset k i multiplier value) := by
  induction k generalizing i multiplier value with
  | zero => rfl
  | succ k ih =>
    rw [decodeVarIntLoop]
    split_ifs with h
    · rfl
    push Not at h
    refine (reads_index h).bind fun b _ => ?_
    split_ifs
    · exact ⟨le_rfl, h⟩
    · exact (ih (i + 1) _ _).mono fun r hr => ⟨by omega, hr.2⟩

lemma reads_decodeVarInt : Reads (fun r => 1 ≤ r.2 ∧ offset + r.2 ≤ data.length)
    (decodeVarInt data offset) :=
  reads_decodeVarIntLoop 4 0 1 0

/-! ### Properties -/

lemma reads_readUserProperty :
    Reads (fun r => offset + r.2 ≤ stop ∧ offset + r.2 ≤ data.length)
      (readUserProperty data offset stop) := by
  rw [readUserProperty]
  refine (reads_readLengthPrefixed _ _).bind fun r₁ h₁ => ?_
  refine (reads_readLengthPrefixed _ _).bind fun r₂ h₂ => ?_
  exact ⟨by dsimp only; omega, by dsimp only; omega⟩

/-- The forms of property values on the wire. -/
inductive Form
  | byte
  | uint16
  | uint32
  | varInt
  | string
  | binary
  | pair
deriving DecidableEq

/-- The form of the value of each property. -/
def form : UInt8 → Option Form
  | propPayloadFormatIndicator => some .byte
  | propMessageExpiryInterval => some .uint32
  | propContentType => some .string
  | propResponseTopic => some .string
  | propCorrelationData => some .binary
  | propSubscriptionIdentifier => some .varInt
  | propSessionExpiryInterval => some .uint32
  | propAssignedClientIdentifier => some .string
  | propServerKeepAlive => some .uint16
  | propAuthenticationMethod => some .string
  | propAuthenticationData => some .binary
  | propRequestProblemInfo => some .byte
  | propWillDelayInterval => some .uint32
  | propRequestResponseInfo => some .byte
  | propResponseInformation => some .string
  | propServerReference => some .string
  | propReasonString => some .string
  | propReceiveMaximum => some .uint16
  | propTopicAliasMaximum => some .uint16
  | propTopicAlias => some .uint16
  | propMaximumQoS => some .byte
  | propRetainAvailable => some .byte
  | propUserProperty => some .pair
  | propMaximumPacketSize => some .uint32
  | propWildcardSubAvailable => some .byte
  | propSubIdentifierAvailable => some .byte
  | propSharedSubAvailable => some .byte
  | _ => none

/-- The number of bytes that the reader for a form takes. -/
def Form.skip (data : Bytes) (offset stop : ℕ) : Form → Except Err ℕ
  | .byte => (readByte data offset stop).map Prod.snd
  | .uint16 => (readUint16 data offset stop).map Prod.snd
  | .uint32 => (readUint32 data offset stop).map Prod.snd
  | .varInt => (decodeVarInt data offset).map Prod.snd
  | .string => (readPropString data offset stop).map Prod.snd
  | .binary => (readPropBinaryData data offset stop).map Prod.snd
  | .pair => (readUserProperty data offset stop).map Prod.snd

variable (propID : UInt8) (p : Properties) (qos protocolVersion : UInt8)

/-- Every arm of the switch reads a value of the form of its property. -/
lemma map_snd_decodeProperty (data : Bytes) (offset stop : ℕ) (p : Properties) :
    (decodeProperty propID data offset stop p).map Prod.snd =
      match form propID with
      | none => .error (.malformed "unknown property identifier")
      | some f => f.skip data offset stop := by
  have hmap : ∀ {α : Type} (r : Except Err (α × ℕ)) (g : α × ℕ → Properties × ℕ),
      (∀ x, (g x).2 = x.2) → (r.map g).map Prod.snd = r.map Prod.snd := by
    intro α r g hg
    cases r with
    | error err => rfl
    | ok x => exact congrArg Except.ok (hg x)
  unfold decodeProperty
  split
  case h_28 =>
    have hnone : form propID = none := by rw [form.eq_28] <;> assumption
    rw [hnone]
    rfl
  all_goals exact hmap _ _ fun _ => rfl

lemma reads_skip (f : Form) :
    Reads (fun n => offset + n ≤ data.length) (f.skip data offset stop) := by
  cases f with
  | byte => exact reads_readByte.map fun _ h => h.2.2
  | uint16 => exact reads_readUint16.map fun _ h => h.2.2
  | uint32 => exact reads_readUint32.map fun _ h => h.2.2
  | varInt => exact reads_decodeVarInt.map fun _ h => h.2
  | string | binary => exact (reads_readLengthPrefixed _ _).map fun _ h => h.2.2
  | pair => exact reads_readUserProperty.map fun _ h => h.2

/-- One property ends inside the input.  The subscription identifier need not end inside the
property section. -/
lemma reads_decodeProperty :
    Reads (fun r => offset + r.2 ≤ data.length) (decodeProperty propID data offset stop p) := by
  have hskip : Reads (fun n => offset + n ≤ data.length)
      ((decodeProperty propID data offset stop p).map Prod.snd) := by
    rw [map_snd_decodeProperty]
    cases form propID with
    | none => rfl
    | some f => exact reads_skip f
  exact hskip.of_map

lemma reads_decodePropertiesLoop :
    Reads (fun _ => True) (decodePropertiesLoop data stop offset p) := by
  fun_induction decodePropertiesLoop data stop offset p with
  | case1 offset p _ _ => rfl
  | case2 offset p _ h ih =>
    refine (reads_index (by omega)).bind fun propID _ => ?_
    exact (reads_decodeProperty propID p).bind fun r _ => ih r.1 r.2
  | case3 => trivial

/-- The caller may skip the property section once it is decoded. -/
lemma reads_decodeProperties (propertyLength : ℕ) :
    Reads (fun _ => propertyLength ≤ data.length) (decodeProperties data propertyLength) := by
  rw [decodeProperties]
  split_ifs with h₀ h
  · exact (by omega : propertyLength ≤ data.length)
  · rfl
  · exact (reads_decodePropertiesLoop _).mono fun _ _ => by omega

lemma reads_readProperties :
    Reads (fun r => 1 ≤ r.2 ∧ offset + r.2 ≤ data.length) (readProperties data offset) := by
  rw [readProperties]
  refine reads_decodeVarInt.bind fun r hr => ?_
  refine (reads_sliceFrom hr.2).bind fun rest hrest => ?_
  refine (reads_decodeProperties _).bind fun props hprops => ?_
  exact ⟨by dsimp only; omega, by dsimp only; omega⟩

lemma reads_readPropertiesV5 (h : offset ≤ data.length) :
    Reads (fun r => (protocolVersion = 5 → 1 ≤ r.2) ∧ (protocolVersion ≠ 5 → r.2 = 0) ∧
        offset + r.2 ≤ data.length)
      (readPropertiesV5 data offset protocolVersion) := by
  rw [readPropertiesV5]
  split_ifs with hv
  · exact reads_readProperties.bind fun r hr => ⟨fun _ => hr.1, fun h => absurd hv h, hr.2⟩
  · exact ⟨fun h => absurd h hv, fun _ => rfl, h⟩

/-! ### PUBLISH, the acknowledgements and DISCONNECT -/

lemma reads_readPacketID (h : offset ≤ data.length) :
    Reads (fun r => r.2 = (if 0 < qos then 2 else 0) ∧ offset + r.2 ≤ data.length)
      (readPacketID data offset qos) := by
  rw [readPacketID]
  split_ifs with hq hlen
  · rfl
  · refine (reads_slice (by omega) (by omega)).bind fun s hs => ?_
    exact (reads_uint16 (by omega)).bind fun id _ => ⟨rfl, by dsimp only; omega⟩
  · exact ⟨rfl, h⟩

lemma reads_readPayload (h : offset ≤ data.length) :
    Reads (fun payload => offset + payload.length = data.length) (readPayload data offset) := by
  rw [readPayload]
  split_ifs with hlt
  · exact (reads_sliceFrom h).mono fun s hs => by omega
  · exact (by simpa using le_antisymm h (by omega) : offset + ([] : Bytes).length = data.length)

/-- The parts of a decoded PUBLISH make up the whole input; its property section is not empty
in version 5, and absent otherwise. -/
lemma reads_decodePublishPacket :
    Reads (fun pkt => ∃ n, (protocolVersion = 5 → 1 ≤ n) ∧ (protocolVersion ≠ 5 → n = 0) ∧
        2 + pkt.topic.length + (if 0 < qos then 2 else 0) + n + pkt.payload.length = data.length)
      (decodePublishPacket data qos protocolVersion) := by
  rw [decodePublishPacket]
  refine reads_readUTF8String.bind fun topic htopic => ?_
  refine (reads_readPacketID qos (by omega)).bind fun id hid => ?_
  refine (reads_readPropertiesV5 protocolVersion (by omega)).bind fun props hprops => ?_
  refine (reads_readPayload (by omega)).bind fun payload hpayload => ?_
  refine ⟨props.2, hprops.1, hprops.2.1, ?_⟩
  have hsplit := hid.1
  dsimp only at hpayload hsplit ⊢
  omega

lemma reads_decodeAck (tooShort : String) (protocolVersion : UInt8) :
    Reads (fun _ => True) (decodeAck tooShort data protocolVersion) := by
  rw [decodeAck]
  split_ifs with hshort
  · rfl
  refine (reads_slice (by omega) (by omega)).bind fun s hs => ?_
  refine (reads_uint16 (by omega)).bind fun id _ => ?_
  dsimp only
  split_ifs with hlong
  · refine (reads_index hlong.2).bind fun reasonCode _ => ?_
    exact reads_readProperties.bind fun _ _ => trivial
  · exact (reads_index hlong.2).bind fun _ _ => trivial
  · trivial

lemma reads_decodeDisconnectPacket : Reads (fun _ => True) (decodeDisconnectPacket data) := by
  rw [decodeDisconnectPacket]
  split_ifs with hnil
  · trivial
  · refine (reads_index (by omega)).bind fun reasonCode _ => ?_
    exact reads_readProperties.bind fun _ _ => trivial
  · exact (reads_index (by omega)).bind fun _ _ => trivial

/-! ### SUBSCRIBE and UNSUBSCRIBE -/

lemma reads_readSubscriptions : Reads (fun _ => True) (readSubscriptions data offset) := by
  fun_induction readSubscriptions data offset with
  | case1 offset h ih =>
    refine reads_readUTF8String.bind fun r _ => ?_
    dsimp only
    split_ifs with hqos
    · rfl
    refine (reads_index (by omega)).bind fun qos _ => ?_
    exact (ih r.2 hqos).bind fun _ _ => trivial
  | case2 => trivial

lemma reads_decodeSubscribePacket :
    Reads (fun _ => True) (decodeSubscribePacket data protocolVersion) := by
  rw [decodeSubscribePacket]
  split_ifs with hshort
  · rfl
  refine (reads_slice (by omega) (by omega)).bind fun s hs => ?_
  refine (reads_uint16 (by omega)).bind fun id _ => ?_
  refine (reads_readPropertiesV5 protocolVersion (by omega)).bind fun props _ => ?_
  refine reads_readSubscriptions.bind fun subs _ => ?_
  split_ifs
  · rfl
  · trivial

lemma reads_readTopicFilters : Reads (fun _ => True) (readTopicFilters data offset) := by
  fun_induction readTopicFilters data offset with
  | case1 offset _ err herr =>
    have h : Reads _ (readUTF8String data offset) := reads_readUTF8String
    rwa [herr] at h
  | case2 offset _ topicFilter n _ ih => exact ih.bind fun _ _ => trivial
  | case3 => trivial

lemma reads_decodeUnsubscribePacket :
    Reads (fun _ => True) (decodeUnsubscribePacket data protocolVersion) := by
  rw [decodeUnsubscribePacket]
  split_ifs with hshort
  · rfl
  refine (reads_slice (by omega) (by omega)).bind fun s hs => ?_
  refine (reads_uint16 (by omega)).bind fun id _ => ?_
  refine (reads_readPropertiesV5 protocolVersion (by omega)).bind fun props _ => ?_
  refine reads_readTopicFilters.bind fun filters _ => ?_
  split_ifs
  · rfl
  · trivial

/-! ### CONNECT -/

lemma reads_readConnectProperties (lengthContext propsContext : String) :
    Reads (fun r => offset + r.2 ≤ data.length)
      (readConnectProperties lengthContext propsContext data offset) := by
  rw [readConnectProperties]
  refine (reads_wrap _ reads_decodeVarInt).bind fun r hr => ?_
  refine (reads_sliceFrom hr.2).bind fun rest hrest => ?_
  refine (reads_wrap _ (reads_decodeProperties _)).bind fun props hprops => ?_
  change offset + (r.2 + r.1) ≤ data.length
  omega

/-- A field that is absent takes no bytes. -/
lemma reads_readIf {α : Type} {none : α} {read : Except Err (α × ℕ)} (flag : Bool)
    (h : offset ≤ data.length) (hread : Reads (fun r => offset + r.2 ≤ data.length) read) :
    Reads (fun r => offset + r.2 ≤ data.length) (readIf flag none read) := by
  rw [readIf]
  split_ifs
  · exact hread
  · exact h

lemma reads_readProtocol : Reads (fun r => r.2.2 ≤ data.length) (readProtocol data) := by
  rw [readProtocol]
  refine (reads_wrap _ reads_readUTF8String).bind fun name _ => ?_
  dsimp only
  split_ifs with hlen
  · rfl
  refine (reads_index (by omega)).bind fun level _ => ?_
  split_ifs
  · rfl
  · change name.2 + 1 ≤ data.length
    omega

lemma reads_readFlags : Reads (fun _ => offset + 3 ≤ data.length) (readFlags data offset) := by
  rw [readFlags]
  split_ifs with h₁ h₂
  · rfl
  · exact (reads_index (by omega)).bind fun _ _ => rfl
  · refine (reads_index (by omega)).bind fun flags _ => ?_
    refine (reads_slice (by omega) (by omega)).bind fun s hs => ?_
    refine (reads_uint16 (by omega)).bind fun keepAlive _ => ?_
    exact (by omega : offset + 3 ≤ data.length)

lemma reads_decodeConnectPacket : Reads (fun _ => True) (decodeConnectPacket data) := by
  -- the texts of CONNECT are read as strings, its binary fields alike
  have hstr : ∀ context offset, Reads (fun r => offset + r.2 ≤ data.length)
      (wrap context (readUTF8String data offset)) :=
    fun context offset => (reads_wrap context reads_readUTF8String).mono fun _ h => h.2
  have hbin : ∀ context offset, Reads (fun r => offset + r.2 ≤ data.length)
      (wrap context (readBinaryData data offset)) :=
    fun context offset => (reads_wrap context reads_readBinaryData).mono fun _ h => h.2
  rw [decodeConnectPacket]
  split_ifs with hshort
  · rfl
  refine reads_readProtocol.bind fun protocol hprotocol => ?_
  refine reads_readFlags.bind fun flags hflags => ?_
  refine (reads_readIf _ hflags (reads_readConnectProperties _ _)).bind fun props hprops => ?_
  refine (hstr _ _).bind fun clientID hclientID => ?_
  refine (reads_readIf _ hclientID (reads_readConnectProperties _ _)).bind fun wprops hwprops => ?_
  refine (reads_readIf _ hwprops (hstr _ _)).bind fun topic htopic => ?_
  refine (reads_readIf _ htopic (hbin _ _)).bind fun payload hpayload => ?_
  refine (reads_readIf _ hpayload (hstr _ _)).bind fun username husername => ?_
  exact (reads_readIf _ husername (hbin _ _)).bind fun password _ => trivial

/-- **No input makes a decoder panic**: for every byte string, QoS and protocol version each
decoder of a packet that a client can send ends with a packet or an error value. -/
theorem decoders_inBounds (data : Bytes) (qos protocolVersion : UInt8) :
    InBounds (decodeConnectPacket data) ∧
    InBounds (decodePublishPacket data qos protocolVersion) ∧
    InBounds (decodePubackPacket data protocolVersion) ∧
    InBounds (decodePubrecPacket data protocolVersion) ∧
    InBounds (decodePubrelPacket data protocolVersion) ∧
    InBounds (decodePubcompPacket data protocolVersion) ∧
    InBounds (decodeSubscribePacket data protocolVersion) ∧
    InBounds (decodeUnsubscribePacket data protocolVersion) ∧
    InBounds (decodeDisconnectPacket data) :=
  ⟨reads_decodeConnectPacket.inBounds,
    (reads_decodePublishPacket qos protocolVersion).inBounds,
    (reads_decodeAck _ protocolVersion).inBounds,
    (reads_decodeAck _ protocolVersion).inBounds,
    (reads_decodeAck _ protocolVersion).inBounds,
    (reads_decodeAck _ protocolVersion).inBounds,
    (reads_decodeSubscribePacket protocolVersion).inBounds,
    (reads_decodeUnsubscribePacket protocolVersion).inBounds,
    reads_decodeDisconnectPacket.inBounds⟩

end Dmqtt.Codec
