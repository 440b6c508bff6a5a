/-
Retained messages and sessions in persistent storage (`internal/broker/retain.go`,
`internal/broker/session.go`).

Each store writes what it changes under keys of its own, `r/<topic>` and `s/<client>`; the wills and
the offline queues are in the same storage.  The texts of JSON, of base64 and of instants are
parameters, the JSON objects are written out with the members that the source gives them: `Load`
tells sessions in an older format by the members that they have.

`WriteThrough` ties the maps to the rows, and every operation keeps it.  Sessions are heap objects,
and compared without their addresses.
-/
import Dmqtt.Broker.OfflineStorage
import Dmqtt.Broker.Session
import Dmqtt.Broker.Stores
import Dmqtt.Lib.Json

namespace Dmqtt.Broker

open Lib Storage

/-- JSON, base64 and the text of instants. -/
structure Encodings where
  json : JsonText
  base64 : Bytes → Str
  unbase64 : Str → Option Bytes
  formatTime : ℤ → Str
  parseTime : Str → Option ℤ

/-- What is encoded is read back, provided it is valid UTF-8. -/
structure Encodings.Lossless (e : Encodings) : Prop where
  json : e.json.Lossless
  base64 : ∀ data, e.unbase64 (e.base64 data) = some data
  validBase64 : ∀ data, ValidUTF8 (e.base64 data)
  time : ∀ t, e.parseTime (e.formatTime t) = some t
  validTime : ∀ t, ValidUTF8 (e.formatTime t)

variable (e : Encodings)

/-! ### Retained messages -/

/-- The key of the retained message of a topic. -/
def retainKey (topic : Str) : Bytes := str "r/" ++ topic

/-- `retainedJSON` -/
def retainedJSON (payload : Bytes) (qos : UInt8) : JsonObject :=
  [(str "payload", .string (e.base64 payload)), (str "qos", .number qos.toNat)]

/-- Read a stored message; what cannot be read is skipped. -/
def readRetained (topic : Str) (value : Bytes) : Option RetainedMessage := do
  let rj ← e.json.unmarshal value
  let payload ← (JsonObject.get rj (str "payload")).asString
  let qos ← (JsonObject.get rj (str "qos")).asNumber 256
  let payload ← e.unbase64 payload
  return ⟨topic, payload, UInt8.ofNat qos⟩

namespace RetainStore

/-- Put a message into the map. -/
def keep (rs : RetainStore) (msg : RetainedMessage) : RetainStore where
  messages := rs.messages.insert msg.topic msg
  store := rs.store
  topic_eq := by
    intro topic msg' h
    rcases eq_or_ne topic msg.topic with rfl | hne
    · rw [AList.lookup_insert] at h
      rw [← Option.some_injective _ h]
    · rw [AList.lookup_insert_ne hne] at h
      exact rs.topic_eq h

/-- Load one row. -/
def loadRow (rs : RetainStore) (row : Row) : RetainStore :=
  match readRetained e (trimStart (str "r/") row.1) row.2 with
  | none => rs
  | some msg => rs.keep msg

/-- `Load` into a new store. -/
def load (store : Store) : RetainStore :=
  (scan store (str "r/")).foldl (loadRow e) (.new false)

/-- The calls of `Set`. -/
def setCalls (topic : Str) (payload : Bytes) (qos : UInt8) : List Storage.Call :=
  if payload = [] then [.delete (retainKey topic)]
  else [.set (retainKey topic) (e.json.marshal (retainedJSON e payload qos))]

end RetainStore

/-! ### Sessions -/

/-- The key of the session of a client. -/
def sessionKey (clientID : Str) : Bytes := str "s/" ++ clientID

/-- The subscriptions of a session in the order of their filters. -/
def sortedSubscriptions (s : Session) : List (Str × ℕ) :=
  (s.subscriptions.entries.map fun f => (f.1, f.2.toNat)).insertionSort fun x y => x.1 ≤ y.1

/-- A session as a JSON object.  An instant that is not set is omitted, and so is the node; epoch
and connect timestamp are not used. -/
def sessionJSON (s : Session) : JsonObject :=
  [(str "clientID", .string s.clientID), (str "cleanStart", .bool s.cleanStart),
    (str "expiryInterval", .number s.expiryInterval.toNat),
    (str "subscriptions", .numbers ((sortedSubscriptions s).map fun f => (f.1, (f.2 : ℤ))))] ++
  (s.disconnectedAt.map fun t =>
    (str "disconnectedAt", JsonValue.string (e.formatTime t))).toList ++
  [(str "epoch", .number 0), (str "connectTimestamp", .number 0)]

/-- An instant, or none. -/
def readTime : JsonValue → Option (Option ℤ)
  | .null => some none
  | .string s => (e.parseTime s).map some
  | _ => none

/-- The older format has a member `cleanSession` in the place of `cleanStart`. -/
def isOldFormat (raw : JsonObject) : Bool :=
  JsonObject.has raw (str "cleanSession") && !JsonObject.has raw (str "cleanStart")

/-- The clean flag of the older format. -/
def oldCleanSession (raw : JsonObject) : Bool :=
  match JsonObject.get raw (str "cleanSession") with
  | .bool b => b
  | _ => false

/-- The members of a session; a member of another type makes the session unreadable. -/
def sessionOfJSON (raw : JsonObject) : Option Session := do
  let clientID ← (JsonObject.get raw (str "clientID")).asString
  let cleanStart ← (JsonObject.get raw (str "cleanStart")).asBool
  let expiryInterval ← (JsonObject.get raw (str "expiryInterval")).asNumber (2 ^ 32)
  let subscriptions ← (JsonObject.get raw (str "subscriptions")).asNumbers 256
  let disconnectedAt ← readTime e (JsonObject.get raw (str "disconnectedAt"))
  let _ ← (JsonObject.get raw (str "epoch")).asNumber (2 ^ 64)
  let _ ← (JsonObject.get raw (str "connectTimestamp")).asInteger (2 ^ 63)
  let _ ← (JsonObject.get raw (str "nodeID")).asString
  return {
    addr := 0
    clientID := clientID
    cleanStart := cleanStart
    expiryInterval := UInt32.ofNat expiryInterval
    subscriptions := subscriptions.foldl (fun m f => m.insert f.1 (UInt8.ofNat f.2)) ∅
    disconnectedAt := disconnectedAt }

/-- Read a stored session; what cannot be read is skipped.  The client ID is that of the key. -/
def readSession (clientID : Str) (value : Bytes) : Option Session := do
  let raw ← e.json.unmarshal value
  let s ← sessionOfJSON e raw
  if isOldFormat raw then
    return { s with
      clientID := clientID
      cleanStart := oldCleanSession raw
      expiryInterval := if oldCleanSession raw then 0 else neverExpires }
  else return { s with clientID := clientID }

namespace SessionStore

/-- Load one row; the session is a new heap object. -/
def loadRow (ss : SessionStore) (row : Row) : SessionStore :=
  match readSession e (trimStart (str "s/") row.1) row.2 with
  | none => ss
  | some s =>
    { ss with
      sessions := ss.sessions.insert s.clientID { s with addr := ss.next }
      next := ss.next + 1 }

/-- `Load` into a new store. -/
def load (store : Store) : SessionStore :=
  (scan store (str "s/")).foldl (loadRow e) (.new false)

/-- The call of `persist`. -/
def persistCall (clientID : Str) (s : Session) : Storage.Call :=
  .set (sessionKey clientID) (e.json.marshal (sessionJSON e s))

/-- The calls that write the session of a client, if there is one. -/
def saveCalls (ss : SessionStore) (clientID : Str) : List Storage.Call :=
  ((ss.get clientID).map (persistCall e clientID)).toList

end SessionStore

/-! ### Stores that share the storage -/

/-- A change of the subscriptions of a session. -/
inductive SubscriptionChange
  | set (topic : Str) (qos : UInt8)
  | remove (topic : Str)

/-- Change the session object at an address. -/
def SubscriptionChange.apply (clientID : Str) (addr : ℕ) (ss : SessionStore) :
    SubscriptionChange → SessionStore
  | .set topic qos => ss.setSubscription clientID addr topic qos
  | .remove topic => ss.removeSubscription clientID addr topic

/-- The retained messages, the sessions, the wills and the offline queues; the last ones come with
the storage, which all share. -/
structure Stores where
  retained : RetainStore
  sessions : SessionStore
  wills : WillStore
  offline : OfflineStorage

/-- An operation of one of the stores.  Changes of subscriptions are followed by `Save`; the session
object that they change may be one that is no longer in the map. -/
inductive StoreOp
  | retain (topic : Str) (payload : Bytes) (qos : UInt8)
  | create (clientID : Str) (cleanStart : Bool) (expiryInterval : UInt32)
  | subscriptions (clientID : Str) (addr : ℕ) (changes : List SubscriptionChange)
  | markDisconnected (clientID : Str) (now : ℤ)
  | remove (clientID : Str)
  | setWill (clientID : Str) (will : WillMessage)
  | deleteWill (clientID : Str)
  | markPublished (clientID : Str)
  | offline (x : ℤ × OfflineOp)

/-- The key of a will. -/
def willKey (clientID : Str) : Bytes := str "wm/" ++ clientID

/-- The key of the mark that a will was published. -/
def publishedKey (clientID : Str) : Bytes := str "wm-published/" ++ clientID

/-- A will as a JSON object. -/
def willJSON (clientID : Str) (will : WillMessage) : JsonObject :=
  [(str "topic", .string will.topic), (str "payload", .string (e.base64 will.payload)),
    (str "qos", .number will.qos.toNat), (str "retain", .bool will.retain)] ++
  (if clientID = [] then [] else [(str "clientID", .string clientID)])

namespace Stores

variable (j : MessageCodec) (st : Stores)

/-- The storage. -/
def store : Store := st.offline.store

/-- Execute calls on the storage. -/
def exec (calls : List Storage.Call) : Stores :=
  { st with offline := { st.offline with store := calls.foldl Storage.exec st.offline.store } }

/-- The stores after an operation. -/
def step : StoreOp → Stores
  | .retain topic payload qos =>
    { st with retained := st.retained.set topic payload qos }.exec
      (RetainStore.setCalls e topic payload qos)
  | .create clientID cleanStart expiryInterval =>
    let sessions := st.sessions.create clientID cleanStart expiryInterval
    { st with sessions := sessions }.exec (sessions.saveCalls e clientID)
  | .subscriptions clientID addr changes =>
    let sessions := changes.foldl (SubscriptionChange.apply clientID addr) st.sessions
    { st with sessions := sessions }.exec (sessions.saveCalls e clientID)
  | .markDisconnected clientID now =>
    let sessions := st.sessions.markDisconnected clientID now
    { st with sessions := sessions }.exec (sessions.saveCalls e clientID)
  | .remove clientID =>
    { st with sessions := st.sessions.remove clientID }.exec [.delete (sessionKey clientID)]
  | .setWill clientID will =>
    { st with wills := st.wills.set clientID will }.exec
      [.set (willKey clientID) (e.json.marshal (willJSON e clientID will)),
        .delete (publishedKey clientID)]
  | .deleteWill clientID =>
    { st with wills := st.wills.delete clientID }.exec
      [.delete (willKey clientID), .delete (publishedKey clientID)]
  | .markPublished clientID => st.exec [.set (publishedKey clientID) (str "1")]
  | .offline x => { st with offline := st.offline.apply j x }

end Stores

/-- The filters that an operation adds are valid UTF-8. -/
def StoreOp.Valid : StoreOp → Prop
  | .subscriptions _ _ changes => ∀ topic qos, .set topic qos ∈ changes → ValidUTF8 topic
  | _ => True

/-- What a session is, apart from its address; the subscriptions are a map. -/
def Session.record (s : Session) : Str × Bool × UInt32 × (Str → Option UInt8) × Option ℤ :=
  (s.clientID, s.cleanStart, s.expiryInterval, fun filter => s.subscriptions.lookup filter,
    s.disconnectedAt)

/-! ### Reading what was written -/

variable {e}

lemma Encodings.Lossless.coerce_str (he : e.Lossless) (s : String) :
    e.json.coerce (str s) = str s :=
  he.json.coerce_eq _ (validUTF8_toUTF8 s)

lemma readRetained_marshal (he : e.Lossless) (topic : Str) (payload : Bytes) (qos : UInt8) :
    readRetained e topic (e.json.marshal (retainedJSON e payload qos)) =
      some ⟨topic, payload, qos⟩ := by
  have hdoc : e.json.unmarshal (e.json.marshal (retainedJSON e payload qos)) =
      some (retainedJSON e payload qos) := by
    rw [he.json.unmarshal_marshal]
    simp [retainedJSON, JsonValue.mapStrings, he.coerce_str,
      he.json.coerce_eq _ (he.validBase64 payload)]
  have hnodup : ((retainedJSON e payload qos).map Prod.fst).Nodup := by
    simp only [retainedJSON, List.map_cons, List.map_nil]
    decide
  have hpayload : (JsonObject.get (retainedJSON e payload qos) (str "payload")).asString =
      some (e.base64 payload) := JsonObject.asString_of_mem hnodup (by simp [retainedJSON])
  have hqos : (JsonObject.get (retainedJSON e payload qos) (str "qos")).asNumber 256 =
      some qos.toNat := JsonObject.asNumber_of_mem hnodup (by simp [retainedJSON]) qos.toNat_lt
  simp [readRetained, hdoc, hpayload, hqos, he.base64]

section Session

variable {s : Session}

lemma mem_sortedSubscriptions {filter : Str} {n : ℕ} :
    (filter, n) ∈ sortedSubscriptions s ↔
      ∃ qos, s.subscriptions.lookup filter = some qos ∧ qos.toNat = n := by
  rw [sortedSubscriptions, List.mem_insertionSort, List.mem_map]
  constructor
  · rintro ⟨⟨filter', qos⟩, hmem, heq⟩
    cases heq
    exact ⟨qos, AList.mem_lookup_iff.2 hmem, rfl⟩
  · rintro ⟨qos, hl, rfl⟩
    exact ⟨⟨filter, qos⟩, AList.mem_lookup_iff.1 hl, rfl⟩

lemma nodup_sortedSubscriptions (s : Session) : ((sortedSubscriptions s).map Prod.fst).Nodup := by
  refine (((List.perm_insertionSort _ _).map Prod.fst).nodup_iff).2 ?_
  rw [List.map_map]
  exact s.subscriptions.nodupKeys

lemma lookup_foldl_sortedSubscriptions (filter : Str) :
    ((sortedSubscriptions s).foldl (fun m f => m.insert f.1 (UInt8.ofNat f.2))
      (∅ : GoMap Str UInt8)).lookup filter = s.subscriptions.lookup filter := by
  cases hl : s.subscriptions.lookup filter with
  | none =>
    rw [GoMap.lookup_foldl_insert_of_notMem (fun f : Str × ℕ => UInt8.ofNat f.2)]
    · rfl
    · intro hmem
      obtain ⟨⟨filter', n⟩, hf, rfl⟩ := List.mem_map.1 hmem
      obtain ⟨qos, hqos, -⟩ := mem_sortedSubscriptions.1 hf
      rw [hl] at hqos
      cases hqos
  | some qos =>
    have hmem : (filter, qos.toNat) ∈ sortedSubscriptions s :=
      mem_sortedSubscriptions.2 ⟨qos, hl, rfl⟩
    rw [GoMap.lookup_foldl_insert_of_mem (fun f : Str × ℕ => UInt8.ofNat f.2)
      (nodup_sortedSubscriptions s) hmem]
    simp

/-- A session with valid filters is read back, but for its client ID. -/
lemma unmarshal_sessionJSON (he : e.Lossless)
    (hvalid : ∀ filter qos, s.subscriptions.lookup filter = some qos → ValidUTF8 filter) :
    e.json.unmarshal (e.json.marshal (sessionJSON e s)) =
      some (sessionJSON e { s with clientID := e.json.coerce s.clientID }) := by
  have hfilter : ∀ filter n, (filter, n) ∈ sortedSubscriptions s →
      e.json.coerce filter = filter := by
    intro filter n hf
    obtain ⟨qos, hqos, -⟩ := mem_sortedSubscriptions.1 hf
    exact he.json.coerce_eq _ (hvalid filter qos hqos)
  have htime : ∀ t, e.json.coerce (e.formatTime t) = e.formatTime t :=
    fun t => he.json.coerce_eq _ (he.validTime t)
  have hsorted : sortedSubscriptions { s with clientID := e.json.coerce s.clientID } =
      sortedSubscriptions s := rfl
  rw [he.json.unmarshal_marshal, sessionJSON, sessionJSON, hsorted]
  cases s.disconnectedAt <;>
    simpa [JsonValue.mapStrings, he.coerce_str, htime] using hfilter

lemma nodup_sessionJSON (s : Session) :
    (str "nodeID" :: (sessionJSON e s).map Prod.fst).Nodup := by
  rw [sessionJSON]
  cases s.disconnectedAt <;>
  · simp only [List.map_append, List.map_cons, List.map_nil, Option.map_none, Option.map_some,
      Option.toList_none, Option.toList_some]
    decide

lemma readTime_sessionJSON (he : e.Lossless) (s : Session) :
    readTime e (JsonObject.get (sessionJSON e s) (str "disconnectedAt")) =
      some s.disconnectedAt := by
  cases hd : s.disconnectedAt with
  | none =>
    rw [JsonObject.get_of_notMem]
    · rfl
    · rw [sessionJSON, hd]
      simp only [List.map_append, List.map_cons, List.map_nil, Option.map_none,
        Option.toList_none]
      decide
  | some t =>
    have hget : JsonObject.get (sessionJSON e s) (str "disconnectedAt") =
        .string (e.formatTime t) :=
      JsonObject.get_of_mem (nodup_sessionJSON s).of_cons (by simp [sessionJSON, hd])
    rw [hget, readTime, he.time]
    rfl

lemma sessionOfJSON_sessionJSON (he : e.Lossless) (s : Session) :
    (sessionOfJSON e (sessionJSON e s)).map Session.record = some s.record := by
  obtain ⟨hnotMem, hnodup⟩ := List.nodup_cons.1 (nodup_sessionJSON (e := e) s)
  have hid : (JsonObject.get (sessionJSON e s) (str "clientID")).asString = some s.clientID :=
    JsonObject.asString_of_mem hnodup (by simp [sessionJSON])
  have hclean : (JsonObject.get (sessionJSON e s) (str "cleanStart")).asBool =
      some s.cleanStart := JsonObject.asBool_of_mem hnodup (by simp [sessionJSON])
  have hexp : (JsonObject.get (sessionJSON e s) (str "expiryInterval")).asNumber (2 ^ 32) =
      some s.expiryInterval.toNat :=
    JsonObject.asNumber_of_mem hnodup (by simp [sessionJSON]) s.expiryInterval.toNat_lt
  have hsubs : (JsonObject.get (sessionJSON e s) (str "subscriptions")).asNumbers 256 =
      some (sortedSubscriptions s) := by
    rw [JsonObject.get_of_mem hnodup
      (v := .numbers ((sortedSubscriptions s).map fun f => (f.1, (f.2 : ℤ))))
      (by simp [sessionJSON])]
    refine JsonValue.asNumbers_natCast ?_
    rintro ⟨filter, n⟩ hf
    obtain ⟨qos, -, rfl⟩ := mem_sortedSubscriptions.1 hf
    exact qos.toNat_lt
  have hepoch : (JsonObject.get (sessionJSON e s) (str "epoch")).asNumber (2 ^ 64) = some 0 :=
    JsonObject.asNumber_of_mem hnodup (by simp [sessionJSON]) (by decide)
  have hstamp :
      (JsonObject.get (sessionJSON e s) (str "connectTimestamp")).asInteger (2 ^ 63) = some 0 := by
    rw [JsonObject.get_of_mem hnodup (v := .number 0) (by simp [sessionJSON])]
    rfl
  have hnode : (JsonObject.get (sessionJSON e s) (str "nodeID")).asString = some [] :=
    JsonObject.asString_of_notMem hnotMem
  simp only [sessionOfJSON, hid, hclean, hexp, hsubs, readTime_sessionJSON he, hepoch, hstamp,
    hnode, Option.bind_eq_bind, Option.bind_some, Option.pure_def, Option.map_some, Session.record,
    UInt32.ofNat_toNat, lookup_foldl_sortedSubscriptions]

/-- The member `cleanStart` tells the format. -/
lemma isOldFormat_sessionJSON (s : Session) : isOldFormat (sessionJSON e s) = false := by
  have hhas : JsonObject.has (sessionJSON e s) (str "cleanStart") = true :=
    JsonObject.has_of_mem (nodup_sessionJSON s).of_cons (v := .bool s.cleanStart)
      (by simp [sessionJSON])
  rw [isOldFormat, hhas]
  simp

lemma record_readSession_marshal (he : e.Lossless) (clientID : Str)
    (hvalid : ∀ filter qos, s.subscriptions.lookup filter = some qos → ValidUTF8 filter) :
    (readSession e clientID (e.json.marshal (sessionJSON e s))).map Session.record =
      some { s with clientID := clientID }.record := by
  obtain ⟨s', hs', hrecord⟩ := Option.map_eq_some_iff.1
    (sessionOfJSON_sessionJSON he { s with clientID := e.json.coerce s.clientID })
  simp only [readSession, unmarshal_sessionJSON he hvalid, isOldFormat_sessionJSON, hs',
    Option.bind_eq_bind, Option.bind_some, Option.pure_def, Bool.false_eq_true, if_false,
    Option.map_some]
  simp only [Session.record, Prod.mk.injEq] at hrecord
  simp [Session.record, hrecord]

end Session

/-! ### Loading -/

lemma trimStart_append (p k : Str) : trimStart p (p ++ k) = k := by
  rw [trimStart, if_pos (List.isPrefixOf_iff_prefix.2 (List.prefix_append p k)),
    List.drop_left]

lemma topic_readRetained {topic : Str} {value : Bytes} {msg : RetainedMessage}
    (h : readRetained e topic value = some msg) : msg.topic = topic := by
  simp only [readRetained, Option.bind_eq_bind, Option.bind_eq_some_iff, Option.pure_def,
    Option.some.injEq] at h
  obtain ⟨-, -, -, -, -, -, -, -, rfl⟩ := h
  rfl

lemma clientID_readSession {clientID : Str} {value : Bytes} {s : Session}
    (h : readSession e clientID value = some s) : s.clientID = clientID := by
  simp only [readSession, Option.bind_eq_bind, Option.bind_eq_some_iff, Option.pure_def] at h
  obtain ⟨raw, -, s', -, h⟩ := h
  split_ifs at h <;>
  · rw [← Option.some_injective _ h]

variable (store : Store) (topic clientID : Str)

lemma lookup_load_retained :
    (RetainStore.load e store).messages.lookup topic =
      (store.lookup (retainKey topic)).bind (readRetained e topic) := by
  refine view_foldl_scan (fun rs : RetainStore => fun k => rs.messages.lookup k)
    (fun rs k value k' => ?_) store (fun _ => rfl) topic
  rw [RetainStore.loadRow, trimStart_append]
  cases hr : readRetained e k value with
  | none => simp
  | some msg =>
    obtain rfl := topic_readRetained hr
    exact GoMap.lookup_insert_eq ..

lemma record_get_load_session :
    ((SessionStore.load e store).get clientID).map Session.record =
      ((store.lookup (sessionKey clientID)).bind (readSession e clientID)).map Session.record := by
  have hload : ∀ (ss : SessionStore) k value k',
      ((ss.loadRow e (str "s/" ++ k, value)).get k').map Session.record =
        if k' = k then ((readSession e k value).map Session.record).or
          ((ss.get k').map Session.record)
        else (ss.get k').map Session.record := by
    intro ss k value k'
    rw [SessionStore.loadRow, trimStart_append]
    cases hr : readSession e k value with
    | none => simp
    | some s =>
      obtain rfl := clientID_readSession hr
      dsimp only [SessionStore.get]
      rw [GoMap.lookup_insert_eq]
      split_ifs <;> rfl
  rw [Option.map_bind]
  exact view_foldl_scan (fun (ss : SessionStore) k => (ss.get k).map Session.record) hload store
    (s := .new false) (fun _ => rfl) clientID

/-! ### Rows and maps agree -/

/-- The session belongs to the client and its filters are valid UTF-8. -/
structure Session.Storable (s : Session) (clientID : Str) : Prop where
  clientID_eq : s.clientID = clientID
  valid : ∀ filter qos, s.subscriptions.lookup filter = some qos → ValidUTF8 filter

variable (e) in
/-- What can be read from the rows is what the maps hold. -/
structure WriteThrough (st : Stores) : Prop where
  retained : ∀ topic, (st.store.lookup (retainKey topic)).bind (readRetained e topic) =
    st.retained.messages.lookup topic
  sessions : ∀ clientID,
    ((st.store.lookup (sessionKey clientID)).bind (readSession e clientID)).map Session.record =
      (st.sessions.get clientID).map Session.record
  storable : ∀ clientID s, st.sessions.get clientID = some s → s.Storable clientID

lemma ne_of_head {k k' : Bytes} {x y : UInt8} (hk : k.head? = some x) (hk' : k'.head? = some y)
    (hne : x ≠ y) : k ≠ k' := by
  rintro rfl
  exact hne (Option.some_injective _ (hk.symm.trans hk'))

lemma head_retainKey : (retainKey topic).head? = some 114 := rfl

lemma head_sessionKey : (sessionKey clientID).head? = some 115 := rfl

lemma retainKey_ne_sessionKey : retainKey topic ≠ sessionKey clientID :=
  ne_of_head (head_retainKey topic) (head_sessionKey clientID) (by decide)

lemma head_willKeys :
    (willKey clientID).head? = some 119 ∧ (publishedKey clientID).head? = some 119 := ⟨rfl, rfl⟩

lemma retainKey_injective : Function.Injective retainKey := fun _ _ => List.append_cancel_left

lemma sessionKey_injective : Function.Injective sessionKey := fun _ _ => List.append_cancel_left

lemma RetainStore.key_of_mem_setCalls {topic : Str} {payload : Bytes} {qos : UInt8}
    {call : Storage.Call} (h : call ∈ setCalls e topic payload qos) :
    call.key = retainKey topic := by
  rw [setCalls] at h
  split_ifs at h <;> rw [List.mem_singleton.1 h] <;> rfl

lemma SessionStore.key_of_mem_saveCalls {ss : SessionStore} {clientID : Str} {call : Storage.Call}
    (h : call ∈ ss.saveCalls e clientID) : call.key = sessionKey clientID := by
  obtain ⟨s, -, rfl⟩ := Option.map_eq_some_iff.1 (Option.mem_toList.1 h)
  rfl

/-- Every key that an operation of the offline queues touches starts with `o`. -/
lemma OfflineStorage.lookup_apply_of_head {j : MessageCodec} {s : OfflineStorage}
    {x : ℤ × OfflineOp} {key : Bytes} (hkey : key.head? ≠ some 111) :
    (s.apply j x).store.lookup key = s.store.lookup key := by
  have hrange : ¬ keyRange x.2.clientID <+: key := by
    rintro ⟨rest, rfl⟩
    exact hkey rfl
  have hseq : key ≠ seqKey x.2.clientID := fun heq => hkey (heq ▸ rfl)
  have hmsg : ∀ seq, key ≠ messageKey x.2.clientID seq := fun seq heq => hkey (heq ▸ rfl)
  obtain ⟨hrewrites, hkeeps⟩ := lookup_apply (j := j) (s := s) hseq hmsg
  by_cases hw : s.Rewrites x
  · rw [if_neg hrange] at hrewrites
    exact hrewrites hw
  · exact congrArg (fun m : Store => m.lookup key) (hkeeps hw)

namespace WriteThrough

variable {st : Stores} {j : MessageCodec}

/-- Keys that start with another byte are those of other stores. -/
lemma of_other_keys (h : WriteThrough e st) {st' : Stores} {x : UInt8} (hr : x ≠ 114)
    (hs : x ≠ 115) (hretained : st'.retained = st.retained) (hsessions : st'.sessions = st.sessions)
    (hrows : ∀ key : Bytes, key.head? ≠ some x → st'.store.lookup key = st.store.lookup key) :
    WriteThrough e st' where
  retained topic := by
    have hkey : (retainKey topic).head? ≠ some x := fun hx => hr (Option.some_injective _ hx).symm
    rw [hrows _ hkey, hretained, h.retained]
  sessions clientID := by
    have hkey : (sessionKey clientID).head? ≠ some x :=
      fun hx => hs (Option.some_injective _ hx).symm
    rw [hrows _ hkey, hsessions, h.sessions]
  storable := by
    rw [hsessions]
    exact h.storable

lemma retain (he : e.Lossless) (h : WriteThrough e st) (topic : Str) (payload : Bytes)
    (qos : UInt8) : WriteThrough e (st.step e j (.retain topic payload qos)) := by
  have hkeys : ∀ call ∈ RetainStore.setCalls e topic payload qos, call.key = retainKey topic :=
    fun _ hcall => RetainStore.key_of_mem_setCalls hcall
  refine ⟨fun topic' => ?_, fun clientID => ?_, h.storable⟩
  · rcases eq_or_ne topic' topic with rfl | hne
    · dsimp only [Stores.step, Stores.exec, Stores.store, RetainStore.setCalls, RetainStore.set]
      split_ifs with hnil
      · simp [exec]
      · simp [exec, readRetained_marshal he]
    · have hrow : (st.step e j (.retain topic payload qos)).store.lookup (retainKey topic') =
          st.store.lookup (retainKey topic') :=
        lookup_foldl_exec_of_ne (fun call hcall heq =>
          hne (retainKey_injective ((hkeys call hcall).symm.trans heq)).symm) _
      rw [hrow, h.retained]
      dsimp only [Stores.step, Stores.exec, RetainStore.set]
      split_ifs
      · exact (AList.lookup_erase_ne hne).symm
      · exact (AList.lookup_insert_ne hne).symm
  · have hrow : (st.step e j (.retain topic payload qos)).store.lookup (sessionKey clientID) =
        st.store.lookup (sessionKey clientID) :=
      lookup_foldl_exec_of_ne (fun call hcall heq =>
        retainKey_ne_sessionKey _ _ ((hkeys call hcall).symm.trans heq)) _
    rw [hrow]
    exact h.sessions clientID

/-- A change of the session of one client, which is then written or deleted. -/
lemma of_session (h : WriteThrough e st) {clientID : Str} {sessions : SessionStore}
    {calls : List Storage.Call}
    (hother : ∀ id, id ≠ clientID → sessions.get id = st.sessions.get id)
    (hkeys : ∀ call ∈ calls, call.key = sessionKey clientID)
    (hrow : ((((calls.foldl Storage.exec st.store).lookup (sessionKey clientID)).bind
      (readSession e clientID)).map Session.record) = (sessions.get clientID).map Session.record)
    (hstorable : ∀ s, sessions.get clientID = some s → s.Storable clientID) :
    WriteThrough e ({ st with sessions := sessions }.exec calls) := by
  refine ⟨fun topic => ?_, fun id => ?_, fun id s hs => ?_⟩
  · have hframe : ({ st with sessions := sessions }.exec calls).store.lookup (retainKey topic) =
        st.store.lookup (retainKey topic) :=
      lookup_foldl_exec_of_ne (fun call hcall heq =>
        retainKey_ne_sessionKey _ _ (heq.symm.trans (hkeys call hcall))) _
    rw [hframe]
    exact h.retained topic
  · rcases eq_or_ne id clientID with rfl | hne
    · exact hrow
    · have hframe : ({ st with sessions := sessions }.exec calls).store.lookup (sessionKey id) =
          st.store.lookup (sessionKey id) :=
        lookup_foldl_exec_of_ne (fun call hcall heq =>
          hne (sessionKey_injective (heq.symm.trans (hkeys call hcall)))) _
      rw [hframe, h.sessions, ← hother id hne]
      rfl
  · rcases eq_or_ne id clientID with rfl | hne
    · exact hstorable s hs
    · exact h.storable id s ((hother id hne).symm.trans hs)

/-- A change of the session of one client, which is then saved; no session is removed. -/
lemma save (he : e.Lossless) (h : WriteThrough e st) {clientID : Str} {sessions : SessionStore}
    (hother : ∀ id, id ≠ clientID → sessions.get id = st.sessions.get id)
    (hnone : sessions.get clientID = none → st.sessions.get clientID = none)
    (hstorable : ∀ s, sessions.get clientID = some s → s.Storable clientID) :
    WriteThrough e ({ st with sessions := sessions }.exec (sessions.saveCalls e clientID)) := by
  refine h.of_session hother (fun _ hcall => SessionStore.key_of_mem_saveCalls hcall) ?_ hstorable
  rw [SessionStore.saveCalls]
  cases hs : sessions.get clientID with
  | none =>
    have hrow := h.sessions clientID
    rw [hnone hs] at hrow
    exact hrow
  | some s =>
    have hst := hstorable s hs
    have hread := record_readSession_marshal he clientID hst.valid
    rw [← hst.clientID_eq] at hread ⊢
    simpa [SessionStore.persistCall, exec] using hread

lemma storable_apply {clientID : Str} {addr : ℕ} {change : SubscriptionChange}
    (hvalid : ∀ topic qos, change = .set topic qos → ValidUTF8 topic) {ss : SessionStore}
    (hss : ∀ s, ss.get clientID = some s → s.Storable clientID) {s : Session}
    (hs : (change.apply clientID addr ss).get clientID = some s) : s.Storable clientID := by
  cases change with
  | set topic qos =>
    rw [SubscriptionChange.apply, SessionStore.get_setSubscription] at hs
    obtain ⟨s', hs', rfl⟩ := Option.map_eq_some_iff.1 hs
    obtain ⟨hid, hfilters⟩ := hss s' hs'
    split_ifs
    · refine ⟨hid, fun filter qos' hf => ?_⟩
      rcases eq_or_ne filter topic with rfl | hne
      · exact hvalid filter qos rfl
      · exact hfilters filter qos' ((AList.lookup_insert_ne hne).symm.trans hf)
    · exact ⟨hid, hfilters⟩
  | remove topic =>
    rw [SubscriptionChange.apply, SessionStore.get_removeSubscription] at hs
    obtain ⟨s', hs', rfl⟩ := Option.map_eq_some_iff.1 hs
    obtain ⟨hid, hfilters⟩ := hss s' hs'
    split_ifs
    · refine ⟨hid, fun filter qos' hf => ?_⟩
      rcases eq_or_ne filter topic with rfl | hne
      · simp at hf
      · exact hfilters filter qos' ((AList.lookup_erase_ne hne).symm.trans hf)
    · exact ⟨hid, hfilters⟩

/-- Changes of subscriptions add and remove no session, and keep those of other clients. -/
lemma get_apply (clientID : Str) (addr : ℕ) (change : SubscriptionChange) (ss : SessionStore) :
    (∀ id, id ≠ clientID → (change.apply clientID addr ss).get id = ss.get id) ∧
    ((change.apply clientID addr ss).get clientID = none → ss.get clientID = none) := by
  cases change with
  | set topic qos =>
    refine ⟨fun id hne => ?_, fun h => ?_⟩
    · simp [SubscriptionChange.apply, SessionStore.get_setSubscription, hne]
    · rw [SubscriptionChange.apply, SessionStore.get_setSubscription] at h
      exact Option.map_eq_none_iff.1 h
  | remove topic =>
    refine ⟨fun id hne => ?_, fun h => ?_⟩
    · simp [SubscriptionChange.apply, SessionStore.get_removeSubscription, hne]
    · rw [SubscriptionChange.apply, SessionStore.get_removeSubscription] at h
      exact Option.map_eq_none_iff.1 h

lemma storable_foldl_changes {clientID : Str} {addr : ℕ} {changes : List SubscriptionChange}
    (hvalid : ∀ topic qos, .set topic qos ∈ changes → ValidUTF8 topic) {ss : SessionStore}
    (hss : ∀ s, ss.get clientID = some s → s.Storable clientID) :
    let ss' := changes.foldl (SubscriptionChange.apply clientID addr) ss
    (∀ id, id ≠ clientID → ss'.get id = ss.get id) ∧
    (ss'.get clientID = none → ss.get clientID = none) ∧
    ∀ s, ss'.get clientID = some s → s.Storable clientID := by
  induction changes generalizing ss with
  | nil => exact ⟨fun _ _ => rfl, id, hss⟩
  | cons change changes ih =>
    obtain ⟨hother, hnone⟩ := get_apply clientID addr change ss
    obtain ⟨hother', hnone', hstorable⟩ :=
      ih (fun topic qos hmem => hvalid topic qos (List.mem_cons_of_mem _ hmem))
        (fun s => storable_apply
          (fun topic qos heq => hvalid topic qos (heq ▸ List.mem_cons_self)) hss)
    exact ⟨fun id hne => (hother' id hne).trans (hother id hne), fun h => hnone (hnone' h),
      hstorable⟩

lemma wills_calls (h : WriteThrough e st) {wills : WillStore} {calls : List Storage.Call}
    (hcalls : ∀ call ∈ calls, call.key.head? = some 119) :
    WriteThrough e ({ st with wills := wills }.exec calls) :=
  h.of_other_keys (by decide) (by decide) rfl rfl fun _ hkey =>
    lookup_foldl_exec_of_ne (fun call hcall heq => hkey (heq ▸ hcalls call hcall)) _

lemma step (he : e.Lossless) (h : WriteThrough e st) {op : StoreOp} (hop : op.Valid) :
    WriteThrough e (st.step e j op) := by
  cases op with
  | retain topic payload qos => exact h.retain he topic payload qos
  | create clientID cleanStart expiryInterval =>
    refine h.save he (fun id hne => ?_) (fun hnone => ?_) (fun s hs => ?_)
    · rw [SessionStore.get_create, if_neg hne]
    · rw [SessionStore.get_create, if_pos rfl] at hnone
      cases hnone
    · rw [SessionStore.get_create, if_pos rfl] at hs
      cases hs
      exact ⟨rfl, fun filter qos hf => by simp [SessionStore.fresh] at hf⟩
  | subscriptions clientID addr changes =>
    obtain ⟨hother, hnone, hstorable⟩ := storable_foldl_changes hop (h.storable clientID)
    exact h.save he hother hnone hstorable
  | markDisconnected clientID now =>
    refine h.save he (fun id hne => ?_) (fun hnone => ?_) (fun s hs => ?_)
    · rw [SessionStore.get_markDisconnected, if_neg hne]
    · rw [SessionStore.get_markDisconnected, if_pos rfl] at hnone
      exact Option.map_eq_none_iff.1 hnone
    · rw [SessionStore.get_markDisconnected, if_pos rfl] at hs
      obtain ⟨s', hs', rfl⟩ := Option.map_eq_some_iff.1 hs
      have hst := h.storable clientID s' hs'
      exact ⟨hst.clientID_eq, hst.valid⟩
  | remove clientID =>
    have hother : ∀ id, id ≠ clientID →
        (st.sessions.remove clientID).get id = st.sessions.get id :=
      fun id hne => by rw [SessionStore.get_remove, if_neg hne]
    refine h.of_session hother (fun call hcall => ?_) ?_ (fun s hs => ?_)
    · rw [List.mem_singleton.1 hcall]
      rfl
    · rw [SessionStore.get_remove, if_pos rfl]
      simp [exec]
    · rw [SessionStore.get_remove, if_pos rfl] at hs
      cases hs
  | setWill clientID will | deleteWill clientID | markPublished clientID =>
    exact h.wills_calls (by simp [Storage.Call.key, head_willKeys])
  | offline x =>
    exact h.of_other_keys (x := 111) (by decide) (by decide) rfl rfl fun _ hkey =>
      OfflineStorage.lookup_apply_of_head hkey

lemma foldl (he : e.Lossless) (h : WriteThrough e st) {ops : List StoreOp}
    (hops : ∀ op ∈ ops, op.Valid) : WriteThrough e (ops.foldl (Stores.step e j) st) := by
  induction ops generalizing st with
  | nil => exact h
  | cons op ops ih =>
    exact ih (h.step he (hops op List.mem_cons_self))
      fun op' hop' => hops op' (List.mem_cons_of_mem _ hop')

end WriteThrough

/-- Operations of the stores in any order: loading the storage gives what the maps hold.  The rows
of the other stores, client IDs and topics are arbitrary. -/
theorem stores_write_through (e : Encodings) (he : e.Lossless) (j : MessageCodec)
    (wills : WillStore) (offline : OfflineStorage)
    (hstore : ∀ k, offline.store.lookup (retainKey k) = none ∧
      offline.store.lookup (sessionKey k) = none)
    (ops : List StoreOp) (hops : ∀ op ∈ ops, op.Valid) :
    let st := ops.foldl (Stores.step e j) ⟨.new false, .new false, wills, offline⟩
    (∀ topic, (RetainStore.load e st.store).messages.lookup topic =
      st.retained.messages.lookup topic) ∧
    ∀ clientID, ((SessionStore.load e st.store).get clientID).map Session.record =
      (st.sessions.get clientID).map Session.record := by
  intro st
  have hinit : WriteThrough e ⟨.new false, .new false, wills, offline⟩ := by
    refine ⟨fun topic => ?_, fun clientID => ?_, fun clientID s hs => by cases hs⟩
    · rw [Stores.store, (hstore topic).1]
      rfl
    · rw [Stores.store, (hstore clientID).2]
      rfl
  have h : WriteThrough e st := hinit.foldl he hops
  exact ⟨fun topic => (lookup_load_retained st.store topic).trans (h.retained topic),
    fun clientID => (record_get_load_session st.store clientID).trans (h.sessions clientID)⟩

lemma Encodings.exists_lossless : ∃ e : Encodings, e.Lossless ∧ e.json.Replacing := by
  obtain ⟨text, htext, hreplacing⟩ := JsonText.exists_lossless
  obtain ⟨base64, unbase64, hdata, hvalidData⟩ := exists_validText Bytes
  obtain ⟨formatTime, parseTime, htime, hvalidTime⟩ := exists_validText ℤ
  exact ⟨⟨text, base64, fun s => some (unbase64 s), formatTime, fun s => some (parseTime s)⟩,
    ⟨htext, fun data => congrArg some (hdata data), hvalidData, fun t => congrArg some (htime t),
      hvalidTime⟩, hreplacing⟩

/-- A retained message, and a session whose client ID looks like a key of another store. -/
def mixedOps : List StoreOp :=
  [.retain (str "t") [1] 1, .create (str "r/t") false 60,
    .subscriptions (str "r/t") 0 [.set (str "f") 1, .set (str "g") 2, .remove (str "g")],
    .setWill (str "r/t") ⟨str "t", [], 0, false⟩, .markDisconnected (str "r/t") 5,
    .offline (6, .enqueue (str "r/t") (sampleMessage [2])), .retain (str "u") [] 0]

theorem stores_write_through_mixedOps :
    ∃ e : Encodings, e.Lossless ∧
      let st := mixedOps.foldl (Stores.step e sampleCodec)
        ⟨.new false, .new false, ⟨∅, ∅, ∅⟩, ⟨.new 10 0, ∅, ∅⟩⟩
      (RetainStore.load e st.store).messages.lookup (str "t") = some ⟨str "t", [1], 1⟩ ∧
      ((SessionStore.load e st.store).get (str "r/t")).map Session.record =
        some (str "r/t", false, 60, fun filter => if filter = str "f" then some 1 else none,
          some 5) := by
  have hvalid : ∀ op ∈ mixedOps, op.Valid := by
    intro op hop
    cases op with
    | subscriptions clientID addr changes =>
      obtain ⟨-, -, rfl⟩ : clientID = str "r/t" ∧ addr = 0 ∧
          changes = [.set (str "f") 1, .set (str "g") 2, .remove (str "g")] := by
        simpa [mixedOps] using hop
      intro topic qos hset
      simp only [List.mem_cons, SubscriptionChange.set.injEq, reduceCtorEq, List.not_mem_nil,
        or_false] at hset
      rcases hset with ⟨rfl, -⟩ | ⟨rfl, -⟩ <;> exact validUTF8_toUTF8 _
    | _ => trivial
  obtain ⟨e, he, -⟩ := Encodings.exists_lossless
  obtain ⟨hretained, hsessions⟩ := stores_write_through e he sampleCodec ⟨∅, ∅, ∅⟩
    ⟨.new 10 0, ∅, ∅⟩ (fun _ => ⟨rfl, rfl⟩) mixedOps hvalid
  refine ⟨e, he, (hretained _).trans rfl, (hsessions _).trans ?_⟩
  refine congrArg some (Prod.ext rfl (Prod.ext rfl (Prod.ext rfl (Prod.ext ?_ rfl))))
  funext filter
  change List.dlookup filter [⟨str "f", 1⟩] = _
  by_cases hf : filter = str "f"
  · subst hf
    rfl
  · exact (List.dlookup_cons_ne [] _ hf).trans (if_neg hf).symm

end Dmqtt.Broker
