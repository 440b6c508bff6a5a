/-
The smaller stores of the broker: received QoS 2 packets (`dedup.go`), retained messages
(`retain.go`), wills (`will.go`, `will_persist.go`), unacknowledged deliveries (`inflight.go`)
and packet identifiers (`packet_id.go`).

The persistent stores of retained messages and wills hold copies of what the maps hold.
-/
import Dmqtt.Broker.TopicMatcher
import Dmqtt.Lib.GoTypes

namespace Dmqtt.Broker

open Lib

/-! ### Received QoS 2 packets -/

/-- The expiry of each received packet. -/
structure DedupStore where
  entries : GoMap Str ℤ
  ttl : ℤ

/-- `fmt.Sprintf("%s:%d", clientID, packetID)` -/
def dedupKey (clientID : Str) (packetID : UInt16) : Str :=
  clientID ++ str ":" ++ str (toString packetID.toNat)

namespace DedupStore

/-- Whether a packet was received before; an expired entry is deleted. -/
def isDuplicate (d : DedupStore) (clientID : Str) (packetID : UInt16) (now : ℤ) :
    Bool × DedupStore :=
  match d.entries.lookup (dedupKey clientID packetID) with
  | none => (false, d)
  | some expiresAt =>
    if now > expiresAt then
      (false, { d with entries := d.entries.erase (dedupKey clientID packetID) })
    else (true, d)

/-- Record that a packet was received. -/
def markReceived (d : DedupStore) (clientID : Str) (packetID : UInt16) (now : ℤ) : DedupStore :=
  { d with entries := d.entries.insert (dedupKey clientID packetID) (now + d.ttl) }

/-- Forget a packet. -/
def remove (d : DedupStore) (clientID : Str) (packetID : UInt16) : DedupStore :=
  { d with entries := d.entries.erase (dedupKey clientID packetID) }

/-- Delete the expired entries. -/
def cleanup (d : DedupStore) (now : ℤ) : DedupStore :=
  { d with
    entries := d.entries.entries.foldl (fun m e => if now > e.2 then m.erase e.1 else m)
      d.entries }

end DedupStore

/-! ### Retained messages -/

/-- A retained message. -/
structure RetainedMessage where
  topic : Str
  payload : Bytes
  qos : UInt8
deriving DecidableEq

/-- The retained message of each topic, and the persistent copies. -/
structure RetainStore where
  messages : GoMap Str RetainedMessage
  store : Option (GoMap Str RetainedMessage)
  /-- Each message is stored under its topic. -/
  topic_eq : ∀ {topic msg}, messages.lookup topic = some msg → msg.topic = topic

namespace RetainStore

/-- A store without messages; `persistent` tells whether there is a persistent store. -/
def new (persistent : Bool) : RetainStore where
  messages := ∅
  store := if persistent then some ∅ else none
  topic_eq h := by simp at h

/-- Set the retained message of a topic; an empty payload clears it. -/
def set (rs : RetainStore) (topic : Str) (payload : Bytes) (qos : UInt8) : RetainStore :=
  if payload = [] then
    { messages := rs.messages.erase topic
      store := rs.store.map fun store => store.erase topic
      topic_eq := by
        intro topic' msg h
        rw [GoMap.lookup_erase_eq] at h
        split_ifs at h
        exact rs.topic_eq h }
  else
    { messages := rs.messages.insert topic ⟨topic, payload, qos⟩
      store := rs.store.map fun store => store.insert topic ⟨topic, payload, qos⟩
      topic_eq := by
        intro topic' msg h
        rcases eq_or_ne topic' topic with rfl | hne
        · rw [AList.lookup_insert] at h
          rw [← Option.some_injective _ h]
        · rw [AList.lookup_insert_ne hne] at h
          exact rs.topic_eq h }

/-- The retained messages whose topics match a filter. -/
def matchFilter (rs : RetainStore) (filter : Str) : List RetainedMessage :=
  (rs.messages.entries.filter fun e => topicMatch filter e.1).map Sigma.snd

/-- The message is retained. -/
def Retains (rs : RetainStore) (msg : RetainedMessage) : Prop :=
  rs.messages.lookup msg.topic = some msg

lemma mem_matchFilter {rs : RetainStore} {filter : Str} {msg : RetainedMessage} :
    msg ∈ rs.matchFilter filter ↔ rs.Retains msg ∧ topicMatch filter msg.topic = true := by
  simp only [matchFilter, List.mem_map, List.mem_filter, Retains]
  constructor
  · rintro ⟨⟨topic, msg⟩, ⟨hmem, hm⟩, rfl⟩
    have hl := AList.mem_lookup_iff.2 hmem
    obtain rfl := rs.topic_eq hl
    exact ⟨hl, hm⟩
  · rintro ⟨hl, hm⟩
    exact ⟨⟨msg.topic, msg⟩, ⟨AList.mem_lookup_iff.1 hl, hm⟩, rfl⟩

end RetainStore

/-! ### Wills -/

/-- The last will of a client. -/
structure WillMessage where
  topic : Str
  payload : Bytes
  qos : UInt8
  retain : Bool
deriving DecidableEq

/-- The wills by client ID, the persistent copies, and the clients whose will is marked as
published. -/
structure WillStore where
  wills : GoMap Str WillMessage
  store : GoMap Str WillMessage
  published : GoMap Str Unit

namespace WillStore

/-- Set the will of a client. -/
def set (ws : WillStore) (clientID : Str) (will : WillMessage) : WillStore where
  wills := ws.wills.insert clientID will
  store := ws.store.insert clientID will
  published := ws.published.erase clientID

/-- Delete the will of a client. -/
def delete (ws : WillStore) (clientID : Str) : WillStore where
  wills := ws.wills.erase clientID
  store := ws.store.erase clientID
  published := ws.published.erase clientID

lemma lookup_wills_set (ws : WillStore) (clientID d : Str) (will : WillMessage) :
    (ws.set clientID will).wills.lookup d =
      if d = clientID then some will else ws.wills.lookup d := by
  rw [set]
  exact GoMap.lookup_insert_eq ..

lemma lookup_wills_delete (ws : WillStore) (clientID d : Str) :
    (ws.delete clientID).wills.lookup d = if d = clientID then none else ws.wills.lookup d := by
  rw [delete]
  exact GoMap.lookup_erase_eq ..

end WillStore

/-! ### Deliveries -/

/-- A delivery that is not acknowledged yet. -/
structure InflightMessage where
  packetID : UInt16
  topic : Str
  payload : Bytes
  qos : UInt8
  timestamp : ℤ
deriving DecidableEq

/-- The deliveries of a connection that are not acknowledged yet. -/
structure InflightStore where
  messages : GoMap UInt16 InflightMessage
  limit : ℤ

/-- Add a delivery, unless the limit is reached. -/
def InflightStore.add (s : InflightStore) (msg : InflightMessage) : Bool × InflightStore :=
  if (s.messages.entries.length : ℤ) ≥ s.limit then (false, s)
  else (true, { s with messages := s.messages.insert msg.packetID msg })

/-- Remove an acknowledged delivery. -/
def InflightStore.remove (s : InflightStore) (packetID : UInt16) : InflightStore :=
  { s with messages := s.messages.erase packetID }

/-- The next packet identifier after `counter`; zero is skipped. -/
def nextPacketID (counter : UInt16) : UInt16 :=
  if counter + 1 = 0 then 1 else counter + 1

end Dmqtt.Broker
