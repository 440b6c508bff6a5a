/-
Properties as a list of items.

A `Properties` record is, on the wire, a list of single properties.  `Property` is the
type of a single property; `Property.encode` is its encoding and `Property.set` is its
effect on a record.  With these,

* the body that `Properties.encode` writes is the concatenation of the encodings of
  `p.items` (`Properties.body_eq_flatMap`);
* one turn of the loop of `decodeProperties` on the encoding of an item is `Property.set`
  (`decodePropertiesLoop_item`), so the loop over a list of items folds `Property.set`
  (`decodePropertiesLoop_items`);
* setting the items of a record one after the other gives the record back
  (`Properties.foldl_set_items`).

The round trip `decodeProperties_encode` is these three put together.
-/
import Dmqtt.Codec.Properties

namespace Dmqtt.Codec

open Lib Lib.BigEndian Lib.Base128

/-- A single property with its value. -/
inductive Property where
  | sessionExpiryInterval (v : UInt32)
  | receiveMaximum (v : UInt16)
  | maximumQoS (v : UInt8)
  | retainAvailable (v : UInt8)
  | maximumPacketSize (v : UInt32)
  | assignedClientIdentifier (v : Str)
  | topicAliasMaximum (v : UInt16)
  | reasonString (v : Str)
  | wildcardSubAvailable (v : UInt8)
  | subIdentifierAvailable (v : UInt8)
  | sharedSubAvailable (v : UInt8)
  | serverKeepAlive (v : UInt16)
  | serverReference (v : Str)
  | responseInformation (v : Str)
  | payloadFormatIndicator (v : UInt8)
  | messageExpiryInterval (v : UInt32)
  | topicAlias (v : UInt16)
  | responseTopic (v : Str)
  | correlationData (v : Bytes)
  | contentType (v : Str)
  | subscriptionIdentifier (v : UInt32)
  | willDelayInterval (v : UInt32)
  | authenticationMethod (v : Str)
  | authenticationData (v : Bytes)
  | requestProblemInfo (v : UInt8)
  | requestResponseInfo (v : UInt8)
  | userProperty (v : UserProperty)

/-- The identifier of a property. -/
def Property.id : Property → UInt8
  | .sessionExpiryInterval _ => propSessionExpiryInterval
  | .receiveMaximum _ => propReceiveMaximum
  | .maximumQoS _ => propMaximumQoS
  | .retainAvailable _ => propRetainAvailable
  | .maximumPacketSize _ => propMaximumPacketSize
  | .assignedClientIdentifier _ => propAssignedClientIdentifier
  | .topicAliasMaximum _ => propTopicAliasMaximum
  | .reasonString _ => propReasonString
  | .wildcardSubAvailable _ => propWildcardSubAvailable
  | .subIdentifierAvailable _ => propSubIdentifierAvailable
  | .sharedSubAvailable _ => propSharedSubAvailable
  | .serverKeepAlive _ => propServerKeepAlive
  | .serverReference _ => propServerReference
  | .responseInformation _ => propResponseInformation
  | .payloadFormatIndicator _ => propPayloadFormatIndicator
  | .messageExpiryInterval _ => propMessageExpiryInterval
  | .topicAlias _ => propTopicAlias
  | .responseTopic _ => propResponseTopic
  | .correlationData _ => propCorrelationData
  | .contentType _ => propContentType
  | .subscriptionIdentifier _ => propSubscriptionIdentifier
  | .willDelayInterval _ => propWillDelayInterval
  | .authenticationMethod _ => propAuthenticationMethod
  | .authenticationData _ => propAuthenticationData
  | .requestProblemInfo _ => propRequestProblemInfo
  | .requestResponseInfo _ => propRequestResponseInfo
  | .userProperty _ => propUserProperty

/-- The value of a property, as it stands on the wire. -/
def Property.value : Property → Bytes
  | .sessionExpiryInterval v => put32 v
  | .receiveMaximum v => put16 v
  | .maximumQoS v => [v]
  | .retainAvailable v => [v]
  | .maximumPacketSize v => put32 v
  | .assignedClientIdentifier v => lengthPrefixed v
  | .topicAliasMaximum v => put16 v
  | .reasonString v => lengthPrefixed v
  | .wildcardSubAvailable v => [v]
  | .subIdentifierAvailable v => [v]
  | .sharedSubAvailable v => [v]
  | .serverKeepAlive v => put16 v
  | .serverReference v => lengthPrefixed v
  | .responseInformation v => lengthPrefixed v
  | .payloadFormatIndicator v => [v]
  | .messageExpiryInterval v => put32 v
  | .topicAlias v => put16 v
  | .responseTopic v => lengthPrefixed v
  | .correlationData v => lengthPrefixed v
  | .contentType v => lengthPrefixed v
  | .subscriptionIdentifier v => encodeVarInt v.toNat
  | .willDelayInterval v => put32 v
  | .authenticationMethod v => lengthPrefixed v
  | .authenticationData v => lengthPrefixed v
  | .requestProblemInfo v => [v]
  | .requestResponseInfo v => [v]
  | .userProperty v => lengthPrefixed v.key ++ lengthPrefixed v.value

/-- A property on the wire: its identifier and its value. -/
def Property.encode (x : Property) : Bytes := x.id :: x.value

/-- The effect of reading a property on the record built so far. -/
def Property.set (x : Property) (p : Properties) : Properties :=
  match x with
  | .sessionExpiryInterval v => { p with sessionExpiryInterval := some v }
  | .receiveMaximum v => { p with receiveMaximum := some v }
  | .maximumQoS v => { p with maximumQoS := some v }
  | .retainAvailable v => { p with retainAvailable := some v }
  | .maximumPacketSize v => { p with maximumPacketSize := some v }
  | .assignedClientIdentifier v => { p with assignedClientIdentifier := some v }
  | .topicAliasMaximum v => { p with topicAliasMaximum := some v }
  | .reasonString v => { p with reasonString := some v }
  | .wildcardSubAvailable v => { p with wildcardSubAvailable := some v }
  | .subIdentifierAvailable v => { p with subIdentifierAvailable := some v }
  | .sharedSubAvailable v => { p with sharedSubAvailable := some v }
  | .serverKeepAlive v => { p with serverKeepAlive := some v }
  | .serverReference v => { p with serverReference := some v }
  | .responseInformation v => { p with responseInformation := some v }
  | .payloadFormatIndicator v => { p with payloadFormatIndicator := some v }
  | .messageExpiryInterval v => { p with messageExpiryInterval := some v }
  | .topicAlias v => { p with topicAlias := some v }
  | .responseTopic v => { p with responseTopic := some v }
  | .correlationData v => { p with correlationData := some v }
  | .contentType v => { p with contentType := some v }
  | .subscriptionIdentifier v => { p with subscriptionIdentifier := some v }
  | .willDelayInterval v => { p with willDelayInterval := some v }
  | .authenticationMethod v => { p with authenticationMethod := some v }
  | .authenticationData v => { p with authenticationData := some v }
  | .requestProblemInfo v => { p with requestProblemInfo := some v }
  | .requestResponseInfo v => { p with requestResponseInfo := some v }
  | .userProperty v => { p with userProperties := p.userProperties ++ [v] }

/-- The values that the wire format can carry: strings and binary data of at most 65535
bytes, and a subscription identifier that fits four base-128 digits. -/
def Property.Fits : Property → Prop
  | .assignedClientIdentifier v => v.length ≤ 65535
  | .reasonString v => v.length ≤ 65535
  | .serverReference v => v.length ≤ 65535
  | .responseInformation v => v.length ≤ 65535
  | .responseTopic v => v.length ≤ 65535
  | .correlationData v => v.length ≤ 65535
  | .contentType v => v.length ≤ 65535
  | .subscriptionIdentifier v => v.toNat ≤ maxRemainingLength
  | .authenticationMethod v => v.length ≤ 65535
  | .authenticationData v => v.length ≤ 65535
  | .userProperty v => v.key.length ≤ 65535 ∧ v.value.length ≤ 65535
  | _ => True

instance : DecidablePred Property.Fits := fun x => by
  cases x
  case userProperty v => exact inferInstanceAs (Decidable (_ ∧ _))
  all_goals first
    | exact inferInstanceAs (Decidable (_ ≤ _))
    | exact inferInstanceAs (Decidable True)

/-- The item of a field, if the field is set. -/
def optItem {α : Type} (c : α → Property) (v : Option α) : List Property := v.toList.map c

/-- The properties that are set, in the order in which they are written. -/
def Properties.items (p : Properties) : List Property :=
  optItem .sessionExpiryInterval p.sessionExpiryInterval ++
  optItem .receiveMaximum p.receiveMaximum ++
  optItem .maximumQoS p.maximumQoS ++
  optItem .retainAvailable p.retainAvailable ++
  optItem .maximumPacketSize p.maximumPacketSize ++
  optItem .assignedClientIdentifier p.assignedClientIdentifier ++
  optItem .topicAliasMaximum p.topicAliasMaximum ++
  optItem .reasonString p.reasonString ++
  optItem .wildcardSubAvailable p.wildcardSubAvailable ++
  optItem .subIdentifierAvailable p.subIdentifierAvailable ++
  optItem .sharedSubAvailable p.sharedSubAvailable ++
  optItem .serverKeepAlive p.serverKeepAlive ++
  optItem .serverReference p.serverReference ++
  optItem .responseInformation p.responseInformation ++
  optItem .payloadFormatIndicator p.payloadFormatIndicator ++
  optItem .messageExpiryInterval p.messageExpiryInterval ++
  optItem .topicAlias p.topicAlias ++
  optItem .responseTopic p.responseTopic ++
  optItem .correlationData p.correlationData ++
  optItem .contentType p.contentType ++
  optItem .subscriptionIdentifier p.subscriptionIdentifier ++
  optItem .willDelayInterval p.willDelayInterval ++
  optItem .authenticationMethod p.authenticationMethod ++
  optItem .authenticationData p.authenticationData ++
  optItem .requestProblemInfo p.requestProblemInfo ++
  optItem .requestResponseInfo p.requestResponseInfo ++
  p.userProperties.map .userProperty

/-! ### Writing -/

variable (p : Properties) (ups : List UserProperty) (buf : Bytes) (id : UInt8) (v : Option UInt32)

lemma appendByteProp_eq (v : Option UInt8) :
    appendByteProp buf id v = buf ++ v.toList.flatMap fun a => id :: [a] := by
  cases v <;> simp [appendByteProp]

lemma appendUint16Prop_eq (v : Option UInt16) :
    appendUint16Prop buf id v = buf ++ v.toList.flatMap fun a => id :: put16 a := by
  cases v <;> simp [appendUint16Prop]

lemma appendUint32Prop_eq :
    appendUint32Prop buf id v = buf ++ v.toList.flatMap fun a => id :: put32 a := by
  cases v <;> simp [appendUint32Prop]

lemma appendStringProp_eq (v : Option Str) :
    appendStringProp buf id v = buf ++ v.toList.flatMap fun a => id :: lengthPrefixed a := by
  cases v <;> simp [appendStringProp, appendUTF8]

lemma appendBinaryProp_eq (v : Option Bytes) :
    appendBinaryProp buf id v = buf ++ v.toList.flatMap fun a => id :: lengthPrefixed a := by
  cases v <;> simp [appendBinaryProp]

lemma appendSubscriptionIdentifier_eq :
    appendSubscriptionIdentifier buf v =
      buf ++ v.toList.flatMap fun a => propSubscriptionIdentifier :: encodeVarInt a.toNat := by
  cases v <;> simp [appendSubscriptionIdentifier]

lemma foldl_appendUserProperty :
    ∀ buf : Bytes, ups.foldl appendUserProperty buf
      = buf ++ (ups.map .userProperty).flatMap Property.encode := by
  induction ups with
  | nil => simp
  | cons up ups ih =>
    intro buf
    rw [List.foldl_cons, ih]
    simp [appendUserProperty, appendUTF8, Property.encode, Property.id, Property.value]

lemma Properties.body_eq_flatMap : p.body = p.items.flatMap Property.encode := by
  simp only [Properties.body, foldl_appendUserProperty, appendByteProp_eq, appendUint16Prop_eq,
    appendUint32Prop_eq, appendStringProp_eq, appendBinaryProp_eq, appendSubscriptionIdentifier_eq]
  unfold Properties.items
  simp only [optItem, List.flatMap_append, List.flatMap_map, Property.encode, Property.id,
    Property.value, List.append_assoc, List.nil_append]

/-! ### Setting the items of a record -/

/-- Folding over an optional item updates one field, provided the field is not yet set. -/
lemma foldl_optItem {α : Type} (c : α → Property) (upd : Option α → Properties → Properties)
    {q : Properties} {v : Option α} (hnone : upd none q = q)
    (hsome : ∀ a, (c a).set q = upd (some a) q) :
    (optItem c v).foldl (fun r x => x.set r) q = upd v q := by
  cases v with
  | none => exact hnone.symm
  | some a => exact hsome a

lemma foldl_userProperty : ∀ q : Properties,
    (ups.map Property.userProperty).foldl (fun r x => x.set r) q
      = { q with userProperties := q.userProperties ++ ups } := by
  induction ups with
  | nil => simp
  | cons up ups ih =>
    intro q
    rw [List.map_cons, List.foldl_cons, ih]
    simp [Property.set]

/-- **A record is the result of setting its items** on the record in which no field is
set. -/
lemma Properties.foldl_set_items : p.items.foldl (fun r x => x.set r) {} = p := by
  unfold Properties.items
  simp only [List.foldl_append]
  rw [foldl_optItem .sessionExpiryInterval (fun v q => { q with sessionExpiryInterval := v }),
    foldl_optItem .receiveMaximum (fun v q => { q with receiveMaximum := v }),
    foldl_optItem .maximumQoS (fun v q => { q with maximumQoS := v }),
    foldl_optItem .retainAvailable (fun v q => { q with retainAvailable := v }),
    foldl_optItem .maximumPacketSize (fun v q => { q with maximumPacketSize := v }),
    foldl_optItem .assignedClientIdentifier (fun v q => { q with assignedClientIdentifier := v }),
    foldl_optItem .topicAliasMaximum (fun v q => { q with topicAliasMaximum := v }),
    foldl_optItem .reasonString (fun v q => { q with reasonString := v }),
    foldl_optItem .wildcardSubAvailable (fun v q => { q with wildcardSubAvailable := v }),
    foldl_optItem .subIdentifierAvailable (fun v q => { q with subIdentifierAvailable := v }),
    foldl_optItem .sharedSubAvailable (fun v q => { q with sharedSubAvailable := v }),
    foldl_optItem .serverKeepAlive (fun v q => { q with serverKeepAlive := v }),
    foldl_optItem .serverReference (fun v q => { q with serverReference := v }),
    foldl_optItem .responseInformation (fun v q => { q with responseInformation := v }),
    foldl_optItem .payloadFormatIndicator (fun v q => { q with payloadFormatIndicator := v }),
    foldl_optItem .messageExpiryInterval (fun v q => { q with messageExpiryInterval := v }),
    foldl_optItem .topicAlias (fun v q => { q with topicAlias := v }),
    foldl_optItem .responseTopic (fun v q => { q with responseTopic := v }),
    foldl_optItem .correlationData (fun v q => { q with correlationData := v }),
    foldl_optItem .contentType (fun v q => { q with contentType := v }),
    foldl_optItem .subscriptionIdentifier (fun v q => { q with subscriptionIdentifier := v }),
    foldl_optItem .willDelayInterval (fun v q => { q with willDelayInterval := v }),
    foldl_optItem .authenticationMethod (fun v q => { q with authenticationMethod := v }),
    foldl_optItem .authenticationData (fun v q => { q with authenticationData := v }),
    foldl_optItem .requestProblemInfo (fun v q => { q with requestProblemInfo := v }),
    foldl_optItem .requestResponseInfo (fun v q => { q with requestResponseInfo := v }),
    foldl_userProperty]
  all_goals first | rfl | exact fun _ => rfl

/-! ### Reading the value of a property -/

/-- One turn of the loop of `decodeVarInt`, at the byte `b`. -/
lemma decodeVarIntLoop_cons {pre post : Bytes} {b : UInt8} {offset i : ℕ}
    (hi : offset + i = pre.length) (k multiplier value : ℕ) :
    decodeVarIntLoop (pre ++ b :: post) offset (k + 1) i multiplier value =
      if Last b then .ok (value + digit b * multiplier, i + 1)
      else decodeVarIntLoop (pre ++ b :: post) offset k (i + 1) (multiplier * 128)
        (value + digit b * multiplier) := by
  have hlt : ¬ (pre ++ b :: post).length ≤ offset + i := by
    rw [hi]
    simp
  rw [decodeVarIntLoop, if_neg hlt, hi, index_append]
  rfl

lemma decodeVarIntLoop_append {k v : ℕ} {ds : Bytes} (h : Decodes k ds v) :
    ∀ (pre post : Bytes) (offset i multiplier value : ℕ), offset + i = pre.length →
      decodeVarIntLoop (pre ++ (ds ++ post)) offset k i multiplier value
        = .ok (value + v * multiplier, i + ds.length) := by
  induction h with
  | last hb =>
    intro pre post offset i multiplier value hi
    rw [List.singleton_append, decodeVarIntLoop_cons hi, if_pos hb, List.length_singleton]
  | @more k b ds v hb _ ih =>
    intro pre post offset i multiplier value hi
    have hi' : offset + (i + 1) = (pre ++ [b]).length := by
      rw [List.length_append, List.length_singleton]
      omega
    have happ : pre ++ b :: (ds ++ post) = (pre ++ [b]) ++ (ds ++ post) := by simp
    have hval : value + digit b * multiplier + v * (multiplier * 128)
        = value + (digit b + 128 * v) * multiplier := by ring
    rw [List.cons_append, decodeVarIntLoop_cons hi, if_neg hb, happ,
      ih (pre ++ [b]) post offset (i + 1) _ _ hi', hval, List.length_cons]
    congr 2
    omega

lemma decodeVarInt_append {n : ℕ} (h : n ≤ maxRemainingLength) (pre post : Bytes) :
    decodeVarInt (pre ++ (encodeVarInt n ++ post)) pre.length
      = .ok (n, (encodeVarInt n).length) := by
  have hdec : Decodes 4 (Base128.encode n) n :=
    decodes_encode 3 n (by rw [maxRemainingLength] at h; norm_num; omega)
  rw [decodeVarInt, encodeVarInt, decodeVarIntLoop_append hdec pre post pre.length 0 1 0 rfl]
  simp

section Reading

variable {pre post : Bytes} {stop : ℕ}

lemma readByte_append (v : UInt8) (h : pre.length + 1 ≤ stop) :
    readByte (pre ++ ([v] ++ post)) pre.length stop = .ok (v, 1) := by
  have hlen : ¬ (stop ≤ pre.length ∨ (pre ++ ([v] ++ post)).length ≤ pre.length) := by
    simp only [List.length_append, List.length_singleton]
    omega
  rw [readByte, if_neg hlen, List.singleton_append, index_append]
  rfl

lemma not_short {value : Bytes} {n : ℕ} (hn : value.length = n) (h : pre.length + n ≤ stop) :
    ¬ (stop < pre.length + n ∨ (pre ++ (value ++ post)).length < pre.length + n) := by
  simp only [List.length_append]
  omega

lemma readUint16_append (v : UInt16) (h : pre.length + 2 ≤ stop) :
    readUint16 (pre ++ (put16 v ++ post)) pre.length stop = .ok (v, 2) := by
  have hv := uint16_put16 v []
  rw [List.append_nil] at hv
  rw [readUint16, if_neg (not_short (length_put16 v) h), slice_middle rfl (by rw [length_put16])]
  simp only [bind, Except.bind, hv]
  rfl

lemma readUint32_append (v : UInt32) (h : pre.length + 4 ≤ stop) :
    readUint32 (pre ++ (put32 v ++ post)) pre.length stop = .ok (v, 4) := by
  have hv := uint32_put32 v []
  rw [List.append_nil] at hv
  rw [readUint32, if_neg (not_short (length_put32 v) h), slice_middle rfl (by rw [length_put32])]
  simp only [bind, Except.bind, hv]
  rfl

lemma readPropString_append {s : Str} (hs : s.length ≤ 65535)
    (h : pre.length + (lengthPrefixed s).length ≤ stop) :
    readPropString (pre ++ (lengthPrefixed s ++ post)) pre.length stop
      = .ok (s, (lengthPrefixed s).length) := by
  rw [length_lengthPrefixed] at h ⊢
  exact readLengthPrefixed_append hs h

lemma readPropBinaryData_append {s : Bytes} (hs : s.length ≤ 65535)
    (h : pre.length + (lengthPrefixed s).length ≤ stop) :
    readPropBinaryData (pre ++ (lengthPrefixed s ++ post)) pre.length stop
      = .ok (s, (lengthPrefixed s).length) := by
  rw [length_lengthPrefixed] at h ⊢
  exact readLengthPrefixed_append hs h

lemma readUserProperty_append {v : UserProperty} (hk : v.key.length ≤ 65535)
    (hv : v.value.length ≤ 65535)
    (h : pre.length + (lengthPrefixed v.key ++ lengthPrefixed v.value).length ≤ stop) :
    readUserProperty (pre ++ (lengthPrefixed v.key ++ lengthPrefixed v.value ++ post))
      pre.length stop = .ok (v, (lengthPrefixed v.key ++ lengthPrefixed v.value).length) := by
  rw [List.length_append] at h
  have hkey : readPropString (pre ++ (lengthPrefixed v.key ++ (lengthPrefixed v.value ++ post)))
      pre.length stop = .ok (v.key, (lengthPrefixed v.key).length) :=
    readPropString_append hk (by omega)
  have hvalue : readPropString
      (pre ++ (lengthPrefixed v.key ++ (lengthPrefixed v.value ++ post)))
      (pre.length + (lengthPrefixed v.key).length) stop
        = .ok (v.value, (lengthPrefixed v.value).length) := by
    rw [← List.append_assoc pre, ← List.length_append]
    exact readPropString_append hv (by rw [List.length_append]; omega)
  rw [readUserProperty, List.append_assoc, hkey, List.length_append]
  simp only [bind, Except.bind, hvalue]
  rfl

/-- The switch of `DecodeProperties` on the value of a property sets the property. -/
lemma decodeProperty_value {x : Property} (hx : x.Fits) (h : pre.length + x.value.length ≤ stop)
    (p : Properties) :
    decodeProperty x.id (pre ++ (x.value ++ post)) pre.length stop p
      = .ok (x.set p, x.value.length) := by
  have hmap : ∀ {α : Type} {r : Except Err (α × ℕ)} {v : α} {n : ℕ} (f : α × ℕ → Properties × ℕ),
      r = .ok (v, n) → r.map f = .ok (f (v, n)) := by
    rintro α r v n f rfl
    rfl
  cases x with
  | subscriptionIdentifier v =>
    refine (hmap _ (decodeVarInt_append hx pre post)).trans ?_
    simp only [Property.set, Property.value, Nat.toUInt32_eq, UInt32.ofNat_toNat]
  | userProperty v =>
    exact hmap _ (readUserProperty_append hx.1 hx.2 h)
  | _ v =>
    -- one alternative for each of the remaining wire shapes
    first
      | exact hmap _ (readByte_append v h)
      | exact hmap _ (readUint16_append v h)
      | exact hmap _ (readUint32_append v h)
      | exact hmap _ (readPropString_append hx h)
      | exact hmap _ (readPropBinaryData_append hx h)

end Reading

/-! ### Reading a list of items -/

/-- One turn of the loop, on the encoding of an item. -/
lemma decodePropertiesLoop_item {x : Property} (hx : x.Fits) {pre post : Bytes} {stop : ℕ}
    (h : pre.length + x.encode.length ≤ stop) (p : Properties) :
    decodePropertiesLoop (pre ++ (x.encode ++ post)) stop pre.length p
      = decodePropertiesLoop (pre ++ (x.encode ++ post)) stop (pre ++ x.encode).length
          (x.set p) := by
  have hlen : x.encode.length = x.value.length + 1 := rfl
  have hvalue : decodeProperty x.id (pre ++ (x.encode ++ post)) (pre.length + 1) stop p
      = .ok (x.set p, x.value.length) := by
    have happ : pre ++ (x.encode ++ post) = (pre ++ [x.id]) ++ (x.value ++ post) := by
      simp [Property.encode]
    have hpos : pre.length + 1 = (pre ++ [x.id]).length := by simp
    rw [happ, hpos]
    exact decodeProperty_value hx (by rw [← hpos]; omega) p
  have hid : index (pre ++ (x.encode ++ post)) pre.length = .ok x.id :=
    index_append pre x.id (x.value ++ post)
  have hdata : ¬ (pre ++ (x.encode ++ post)).length ≤ pre.length := by
    simp only [List.length_append]
    omega
  rw [decodePropertiesLoop, if_pos (by omega), if_neg hdata, hid]
  simp only [bind, Except.bind, hvalue]
  rw [List.length_append, hlen, show pre.length + 1 + x.value.length
    = pre.length + (x.value.length + 1) by omega]

/-- The loop over a list of items sets them one after the other. -/
lemma decodePropertiesLoop_items {xs : List Property} (hxs : ∀ x ∈ xs, x.Fits) :
    ∀ (pre post : Bytes) (p : Properties),
      decodePropertiesLoop (pre ++ (xs.flatMap Property.encode ++ post))
        (pre ++ xs.flatMap Property.encode).length pre.length p
        = .ok (xs.foldl (fun r x => x.set r) p) := by
  induction xs with
  | nil =>
    intro pre post p
    rw [decodePropertiesLoop, if_neg (by simp)]
    rfl
  | cons x xs ih =>
    intro pre post p
    have hx : x.Fits := hxs x (by simp)
    have happ : pre ++ ((x :: xs).flatMap Property.encode ++ post)
        = pre ++ (x.encode ++ (xs.flatMap Property.encode ++ post)) := by simp
    have hstop : pre ++ (x :: xs).flatMap Property.encode
        = (pre ++ x.encode) ++ xs.flatMap Property.encode := by simp
    rw [happ, hstop, decodePropertiesLoop_item hx (by
      simp only [List.length_append]; omega), ← List.append_assoc pre]
    exact ih (fun y hy => hxs y (by simp [hy])) (pre ++ x.encode) post (x.set p)

/-- The records that can be encoded: every property that is set fits the wire format, and
so does the length of the body. -/
structure Properties.Encodable (p : Properties) : Prop where
  fits : ∀ x ∈ p.items, x.Fits
  body_le : p.body.length ≤ maxRemainingLength

lemma decodeProperties_body {p : Properties} (hp : p.Encodable) (rest : Bytes) :
    decodeProperties (p.body ++ rest) p.body.length = .ok p := by
  have hloop := decodePropertiesLoop_items hp.fits [] rest {}
  rw [p.foldl_set_items, ← p.body_eq_flatMap] at hloop
  simp only [List.nil_append, List.length_nil] at hloop
  rw [decodeProperties]
  by_cases hzero : p.body.length = 0
  · rw [hzero, decodePropertiesLoop, if_neg (by omega)] at hloop
    rw [if_pos hzero]
    exact hloop
  · rw [if_neg hzero, if_neg (by simp), hloop]

/-- **Round trip of MQTT 5 properties.**  On the encoding of a record, followed by any
further bytes, `decodeVarInt` reads the length of the body and the size of that length, and
`decodeProperties` on the bytes behind it returns the record. -/
theorem decodeProperties_encode (p : Properties) (hp : p.Encodable) (rest : Bytes) :
    ∃ n, decodeVarInt (Properties.encode (some p) ++ rest) 0 = .ok (p.body.length, n) ∧
      n + p.body.length = (Properties.encode (some p)).length ∧
      decodeProperties ((Properties.encode (some p) ++ rest).drop n) p.body.length = .ok p := by
  refine ⟨(encodeVarInt p.body.length).length, ?_, ?_, ?_⟩
  · have h := decodeVarInt_append hp.body_le [] (p.body ++ rest)
    simpa [Properties.encode] using h
  · simp [Properties.encode]
  · have hdrop : (Properties.encode (some p) ++ rest).drop (encodeVarInt p.body.length).length
        = p.body ++ rest := by
      simp [Properties.encode]
    rw [hdrop]
    exact decodeProperties_body hp rest

/-- A record with properties of several shapes; its binary data is set and empty. -/
def sampleProperties : Properties where
  sessionExpiryInterval := some 3600
  receiveMaximum := some 100
  reasonString := some (str "test")
  correlationData := some []
  userProperties := [⟨str "k", str "v"⟩]

theorem decodeProperties_encode_sample : sampleProperties.Encodable ∧
    ∃ n, decodeVarInt (Properties.encode (some sampleProperties) ++ [0xFF]) 0 = .ok (25, n) ∧
      n + 25 = (Properties.encode (some sampleProperties)).length ∧
      decodeProperties ((Properties.encode (some sampleProperties) ++ [0xFF]).drop n) 25
        = .ok sampleProperties :=
  have hp : sampleProperties.Encodable := ⟨by decide, by decide⟩
  ⟨hp, decodeProperties_encode sampleProperties hp [0xFF]⟩

end Dmqtt.Codec
