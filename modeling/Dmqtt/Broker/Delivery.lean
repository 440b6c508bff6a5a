/-
Deliveries and the limit on unacknowledged ones.

`deliverMessage` gives a message above QoS 0 a packet ID, records it as in flight and hands it to
the write loop of the connection.  If the limit on messages in flight is reached it returns at
once, and `send` drops a packet for which the buffer of the channel has no room.
`delivery_kept_iff` says when a message is kept all the same.
-/
import Dmqtt.Broker.Retained

namespace Dmqtt.Broker

open Lib Codec Plugin

/-- The payload of a packet, if it is a PUBLISH. -/
def Outgoing.payload : Outgoing → Option Bytes
  | .publish pkt => some pkt.payload
  | _ => none

/-! ### One connection -/

namespace Client

variable (client : Client)

/-- The connection after `send`. -/
def push (pkt : Outgoing) : Client :=
  if client.closed then client else { client with sent := client.sent ++ [pkt] }

/-- The number of messages in flight is below the limit. -/
def Accepts : Prop :=
  (client.inflight.messages.entries.length : ℤ) < client.inflight.limit

instance : Decidable client.Accepts := inferInstanceAs (Decidable (_ < _))

/-- The packet ID of the next delivery above QoS 0. -/
def nextID : UInt16 := nextPacketID client.packetIDs

/-- The connection after a delivery above QoS 0 is recorded, or refused. -/
def record (topic : Str) (payload : Bytes) (qos : UInt8) (now : ℤ) : Client :=
  { client with
    packetIDs := client.nextID
    inflight := (client.inflight.add ⟨client.nextID, topic, payload, qos, now⟩).2 }

variable {client}

lemma fst_add (msg : InflightMessage) :
    (client.inflight.add msg).1 = true ↔ client.Accepts := by
  rw [InflightStore.add, Accepts]
  split_ifs with h
  · simpa using h
  · simpa using h

lemma inflight_record_of_accepts (h : client.Accepts) (topic : Str) (payload : Bytes)
    (qos : UInt8) (now : ℤ) :
    (client.record topic payload qos now).inflight.messages =
      client.inflight.messages.insert client.nextID ⟨client.nextID, topic, payload, qos, now⟩ := by
  rw [Accepts] at h
  rw [record, InflightStore.add, if_neg (by omega)]

lemma inflight_record_of_not_accepts (h : ¬ client.Accepts) (topic : Str) (payload : Bytes)
    (qos : UInt8) (now : ℤ) :
    (client.record topic payload qos now).inflight = client.inflight := by
  rw [Accepts] at h
  rw [record, InflightStore.add, if_pos (by omega)]

lemma limit_record (topic : Str) (payload : Bytes) (qos : UInt8) (now : ℤ) :
    (client.record topic payload qos now).inflight.limit = client.inflight.limit := by
  by_cases h : client.Accepts
  · rw [Accepts] at h
    rw [record, InflightStore.add, if_neg (by omega)]
  · rw [inflight_record_of_not_accepts h]

variable (pkt : Outgoing)

lemma sent_push : (client.push pkt).sent = client.sent ++ if client.closed then [] else [pkt] := by
  rw [push]
  split_ifs <;> simp

@[simp] lemma inflight_push : (client.push pkt).inflight = client.inflight := by
  rw [push]
  split_ifs <;> rfl

@[simp] lemma packetIDs_push : (client.push pkt).packetIDs = client.packetIDs := by
  rw [push]
  split_ifs <;> rfl

end Client

namespace BrokerState

variable {σ ε ρ : Type} {b : BrokerState σ ρ} {c : ℕ} {client : Client}

lemma lookup_send_eq (hc : b.conns.lookup c = some client) (pkt : Outgoing) :
    (b.send c pkt).conns.lookup c = some (client.push pkt) := by
  simp only [send, hc, Client.push]
  split_ifs
  · exact hc
  · exact AList.lookup_insert _

lemma lookup_modifyClient (hc : b.conns.lookup c = some client) (f : Client → Client) :
    (b.modifyClient c f).conns.lookup c = some (f client) := by
  simp only [modifyClient, hc]
  exact AList.lookup_insert _

/-- `send` with the buffer of the channel, which is full if there is no `room`: the packet is
dropped then. -/
def sendBuffered (b : BrokerState σ ρ) (room : Bool) (c : ℕ) (pkt : Outgoing) :
    BrokerState σ ρ :=
  match b.conns.lookup c with
  | none => b
  | some client =>
    if client.closed then { b with panicked := true }
    else if room then
      { b with conns := b.conns.insert c { client with sent := client.sent ++ [pkt] } }
    else b

/-- `deliverMessage` with the buffer of the channel. -/
def deliverBuffered (b : BrokerState σ ρ) (room : Bool) (c : ℕ) (topic : Str) (payload : Bytes)
    (qos : UInt8) (now : ℤ) : BrokerState σ ρ :=
  match b.conns.lookup c with
  | none => b
  | some client =>
    if qos > 0 then
      let packetID := nextPacketID client.packetIDs
      let (added, inflight) := client.inflight.add ⟨packetID, topic, payload, qos, now⟩
      let b := b.modifyClient c fun client =>
        { client with packetIDs := packetID, inflight := inflight }
      if added then b.sendBuffered room c (.publish { topic, payload, qos, packetID }) else b
    else b.sendBuffered room c (.publish { topic, payload, qos })

variable (room : Bool) (topic : Str) (payload : Bytes) (qos : UInt8) (now : ℤ)

/-- As long as there is room, the buffer makes no difference. -/
lemma deliverBuffered_true :
    b.deliverBuffered true c topic payload qos now =
      b.deliverMessage c topic payload qos now := rfl

lemma lookup_sendBuffered (hc : b.conns.lookup c = some client) (room : Bool) (pkt : Outgoing) :
    (b.sendBuffered room c pkt).conns.lookup c =
      some (if room then client.push pkt else client) := by
  simp only [sendBuffered, hc, Client.push]
  cases room <;> split_ifs <;> simp_all

lemma stores_sendBuffered (pkt : Outgoing) : (b.sendBuffered room c pkt).stores = b.stores := by
  rw [sendBuffered]
  cases b.conns.lookup c with
  | none => rfl
  | some client =>
    dsimp only
    split_ifs <;> rfl

/-- What a delivery above QoS 0 does to its connection. -/
lemma lookup_deliverBuffered (hc : b.conns.lookup c = some client) (room : Bool) (topic : Str)
    (payload : Bytes) {qos : UInt8} (hq : 0 < qos) (now : ℤ) :
    (b.deliverBuffered room c topic payload qos now).conns.lookup c =
      some (if client.Accepts ∧ room = true then
          (client.record topic payload qos now).push
            (.publish { topic, payload, qos, packetID := client.nextID })
        else client.record topic payload qos now) := by
  have hmod := lookup_modifyClient hc fun client' : Client =>
    { client' with
      packetIDs := client.nextID
      inflight := (client.inflight.add ⟨client.nextID, topic, payload, qos, now⟩).2 }
  simp only [deliverBuffered, hc, if_pos hq]
  by_cases hacc : client.Accepts
  · rw [if_pos (Client.fst_add _ |>.2 hacc)]
    refine (lookup_sendBuffered hmod room _).trans ?_
    simp [hacc, Client.record, Client.nextID]
  · rw [if_neg fun h => hacc ((Client.fst_add _).1 h)]
    refine hmod.trans ?_
    simp [hacc, Client.record, Client.nextID]

lemma stores_deliverBuffered :
    (b.deliverBuffered room c topic payload qos now).stores = b.stores := by
  rw [deliverBuffered]
  cases b.conns.lookup c with
  | none => rfl
  | some client =>
    dsimp only
    split_ifs
    · rw [stores_sendBuffered, stores_modifyClient]
    · rw [stores_modifyClient]
    · rw [stores_sendBuffered]

/-! ### Messages that are kept -/

/-- The message was recorded as in flight and sent on the connection between `b` and `b'`. -/
def Delivered (b b' : BrokerState σ ρ) (c : ℕ) (topic : Str) (payload : Bytes) (qos : UInt8) :
    Prop :=
  ∃ client' packetID timestamp, b'.conns.lookup c = some client' ∧
    client'.inflight.messages.lookup packetID =
      some ⟨packetID, topic, payload, qos, timestamp⟩ ∧
    Outgoing.publish { topic, payload, qos, packetID } ∈ b.sentSince b' c

/-- The message is in the offline queue of the client. -/
def Queued (b : BrokerState σ ρ) (clientID topic : Str) (payload : Bytes) (qos : UInt8) : Prop :=
  ∃ msg ∈ b.offlineStore.queue clientID,
    msg.topic = topic ∧ msg.payload = payload ∧ msg.qos = qos

/-- What was sent on a connection, read off the connection. -/
lemma sentSince_eq {b' : BrokerState σ ρ} {client' : Client} {new : List Outgoing}
    (hc : b.conns.lookup c = some client) (hc' : b'.conns.lookup c = some client')
    (h : client'.sent = client.sent ++ new) : b.sentSince b' c = new := by
  rw [sentSince, sentOn, sentOn, hc, hc']
  simp only [Option.map_some, Option.getD_some, h, List.drop_left]

/-- The packets that a delivery above QoS 0 sends. -/
lemma sentSince_deliverBuffered (hc : b.conns.lookup c = some client) (room : Bool) (topic : Str)
    (payload : Bytes) {qos : UInt8} (hq : 0 < qos) (now : ℤ) :
    b.sentSince (b.deliverBuffered room c topic payload qos now) c =
      if client.Accepts ∧ room = true ∧ client.closed = false then
        [.publish { topic, payload, qos, packetID := client.nextID }]
      else [] := by
  refine sentSince_eq hc (lookup_deliverBuffered hc room topic payload hq now) ?_
  by_cases h : client.Accepts ∧ room = true
  · rw [if_pos h, Client.sent_push]
    cases hclosed : client.closed <;> simp [Client.record, h, hclosed]
  · have h' : ¬ (client.Accepts ∧ room = true ∧ client.closed = false) := fun h' =>
      h ⟨h'.1, h'.2.1⟩
    rw [if_neg h, if_neg h', List.append_nil]
    rfl

/-- A delivery is sent: the connection is open, and above QoS 0 the number of messages in flight
is below the limit. -/
def Sendable (client : Client) (qos : UInt8) : Prop :=
  client.closed = false ∧ (0 < qos → client.Accepts)

/-- The packet that `deliverMessage` sends, if it sends one. -/
lemma mem_sentSince_deliverMessage (hc : b.conns.lookup c = some client) (topic : Str)
    (payload : Bytes) (qos : UInt8) (now : ℤ) (pkt : Outgoing) :
    pkt ∈ b.sentSince (b.deliverMessage c topic payload qos now) c ↔
      Sendable client qos ∧
        pkt = .publish
          { topic, payload, qos, packetID := if 0 < qos then client.nextID else 0 } := by
  by_cases hq : 0 < qos
  · rw [← deliverBuffered_true, sentSince_deliverBuffered hc true topic payload hq now, Sendable]
    simp only [hq, if_true, true_imp_iff, true_and]
    split_ifs with h
    · simp [h]
    · rw [and_comm] at h
      simp [h]
  · have hsend : b.deliverMessage c topic payload qos now =
        b.send c (.publish { topic, payload, qos }) := by
      simp only [deliverMessage, hc, if_neg hq]
    have hnew : b.sentSince (b.send c (.publish { topic, payload, qos })) c =
        if client.closed then [] else [.publish { topic, payload, qos }] :=
      sentSince_eq hc (lookup_send_eq hc _) (Client.sent_push _)
    rw [hsend, hnew, Sendable]
    cases client.closed <;> simp [hq]

/-- A delivery is recorded and sent if the limit is not reached, the buffer has room and the
connection is open; and only then. -/
lemma delivered_iff (hc : b.conns.lookup c = some client) (room : Bool) (topic : Str)
    (payload : Bytes) {qos : UInt8} (hq : 0 < qos) (now : ℤ) :
    Delivered b (b.deliverBuffered room c topic payload qos now) c topic payload qos ↔
      client.Accepts ∧ room = true ∧ client.closed = false := by
  constructor
  · rintro ⟨client', packetID, timestamp, -, -, hsent⟩
    rw [sentSince_deliverBuffered hc room topic payload hq now] at hsent
    by_contra h
    rw [if_neg h] at hsent
    cases hsent
  · intro h
    have hlookup := lookup_deliverBuffered hc room topic payload hq now
    rw [if_pos ⟨h.1, h.2.1⟩] at hlookup
    refine ⟨_, client.nextID, now, hlookup, ?_, ?_⟩
    · rw [Client.inflight_push, Client.inflight_record_of_accepts h.1]
      exact AList.lookup_insert _
    · rw [sentSince_deliverBuffered hc room topic payload hq now, if_pos h]
      exact List.mem_singleton_self _

/-- **When a message above QoS 0 is kept.**  For every connection and every such message that
is passed to `deliverMessage`: afterwards it is recorded in flight and sent, or in the offline
queue of the client, if and only if the number of messages in flight was below the limit, the
buffer of the connection had room and the connection was open, or the message was in the
queue. -/
theorem delivery_kept_iff (b : BrokerState σ ρ) (c : ℕ) (client : Client)
    (hc : b.conns.lookup c = some client) (room : Bool) (topic : Str) (payload : Bytes)
    (qos : UInt8) (hq : 0 < qos) (now : ℤ) :
    (Delivered b (b.deliverBuffered room c topic payload qos now) c topic payload qos ∨
      Queued (b.deliverBuffered room c topic payload qos now) client.clientID topic payload qos) ↔
    ((client.inflight.messages.entries.length : ℤ) < client.inflight.limit ∧ room = true ∧
        client.closed = false) ∨
      Queued b client.clientID topic payload qos := by
  have hframe := stores_deliverBuffered (b := b) (c := c) room topic payload qos now
  have hstore : (b.deliverBuffered room c topic payload qos now).offlineStore = b.offlineStore :=
    congrArg (fun b => b.offlineStore) hframe
  rw [delivered_iff hc room topic payload hq now, Queued, Queued, hstore]
  rfl

/-! ### A client with a backlog -/

/-- A CONNECT of the client `p`, whose session outlives its connections. -/
def persistentConnect : ConnectPacket where
  protocolName := str "MQTT"
  protocolLevel := 4
  cleanSession := false
  clientID := str "p"

/-- The broker after the client `p` has left and `n` messages of QoS 1 were queued for it, and
with a new connection. -/
def backlogBroker (n : ℕ) : BrokerState TenantChain Unit :=
  let b : BrokerState TenantChain Unit := .new () none
  let b := ((b.accept sampleConfig 0).handleConnect sampleConfig 0 persistentConnect 1).2
  let b := b.handleSubscribe sampleConfig 0 { packetID := 1, subscriptions := [⟨str "t", 1⟩] }
  let b := b.close sampleConfig 0 2
  let b := (List.range n).foldl
    (fun b i => b.routeMessage sampleConfig (str "t") [UInt8.ofNat i] 1 false false 3) b
  b.accept sampleConfig 1

/-- The connection of the client `p`, which found its session. -/
def persistentClient : Client where
  clientID := str "p"
  username := []
  will := none
  packetIDs := 0
  inflight := ⟨∅, 20⟩
  protocolVersion := 4
  closed := false
  sent := [.connack
    { sessionPresent := true, returnCode := connackAccepted, protocolVersion := 4 }]

/-- The broker after the client has come back. -/
def resumedBroker (n : ℕ) : BrokerState TenantChain Unit :=
  ((backlogBroker n).handleConnect sampleConfig 1 persistentConnect 4).2

theorem delivery_kept_iff_sample :
    let b := resumedBroker 0
    b.Delivered (b.deliverBuffered true 1 (str "t") [0] 1 4) 1 (str "t") [0] 1 ∨
      Queued (b.deliverBuffered true 1 (str "t") [0] 1 4) (str "p") (str "t") [0] 1 :=
  (delivery_kept_iff (resumedBroker 0) 1 persistentClient rfl true (str "t") [0] 1 (by decide) 4).2
    (Or.inl (by decide))

/-- With 21 messages in its queue, a client that comes back gets the first 20.  The last one is
neither sent nor in flight nor in the queue. -/
theorem delivery_not_kept :
    (backlogBroker 21).Queued (str "p") (str "t") [20] 1 ∧
    ¬ ((backlogBroker 21).Delivered (resumedBroker 21) 1 (str "t") [20] 1 ∨
      (resumedBroker 21).Queued (str "p") (str "t") [20] 1) := by
  have hsent : ∀ pkt ∈ (backlogBroker 21).sentSince (resumedBroker 21) 1,
      pkt.payload ≠ some [20] := by
    decide +kernel
  have hqueue : (resumedBroker 21).offlineStore.queue (str "p") = [] := by decide +kernel
  refine ⟨?_, ?_⟩
  · rw [Queued]
    decide +kernel
  · rintro (⟨client', packetID, timestamp, -, -, hmem⟩ | ⟨msg, hmem, -⟩)
    · exact hsent _ hmem rfl
    · rw [hqueue] at hmem
      cases hmem

end BrokerState

end Dmqtt.Broker
