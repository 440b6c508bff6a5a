/-
The live path and the offline path of a message.

`routeMessage` passes a message for a client that is connected through `OnDelivery`, which can
rewrite or reject it.  For a client that is offline it queues the message as it is, and
`handleConnect` delivers it as it is when the client is back.  `paths_agree_iff` says that a client
receives the same on both paths exactly if `OnDelivery` leaves the message as it is.
-/
import Dmqtt.Broker.Delivery
import Dmqtt.Broker.Fanout
import Dmqtt.Broker.OfflineOrder
import Dmqtt.Broker.Presence

namespace Dmqtt.Broker

open Lib Codec Plugin

/-- The topic, the payload and the QoS of a PUBLISH. -/
def Outgoing.message : Outgoing → Option (Str × Bytes × UInt8)
  | .publish pkt => some (pkt.topic, pkt.payload, pkt.qos)
  | _ => none

namespace BrokerState

variable {σ ε ρ : Type} (cfg : Config σ ε ρ) (b : BrokerState σ ρ)

/-- The messages that were sent on a connection. -/
def received (c : ℕ) : List (Str × Bytes × UInt8) := (b.sentOn c).filterMap Outgoing.message

/-- The connection is open, and the number of messages in flight is below the limit. -/
def HasRoom (c : ℕ) : Prop :=
  ∃ client, b.conns.lookup c = some client ∧ client.closed = false ∧ client.Accepts

instance (c : ℕ) : Decidable (b.HasRoom c) :=
  inferInstanceAs (Decidable (∃ client ∈ b.conns.lookup c, client.closed = false ∧ client.Accepts))

/-- What `deliver` passes to `deliverMessage`. -/
def handedOver (topic : Str) (payload : Bytes) (d : ℕ × Str × UInt8) :
    Option (Str × Bytes × UInt8) :=
  match b.interceptors with
  | none => some (topic, payload, d.2.2)
  | some s =>
    let out := cfg.hooks.onDelivery (⟨d.2.1, topic, payload, d.2.2⟩, s)
    match out.1 with
    | .error _ => none
    | .ok () => some (out.2.1.topic, out.2.1.payload, out.2.1.qos)

/-- The broker when `routeMessage` comes to a delivery. -/
def atDelivery (topic : Str) (payload : Bytes) (qos : UInt8) (retain forwarded : Bool) (now : ℤ)
    (d : ℕ × Str × UInt8) : BrokerState σ ρ :=
  ((b.routes topic qos).1.takeWhile (· ≠ d)).foldl (fun b d => b.deliver cfg topic payload now d)
    { b with calls := b.calls ++ [.routeMessage topic payload qos retain forwarded] }

/-- The interceptors accept a delivery and leave it as it is. -/
def LeavesDelivery (clientID topic : Str) (payload : Bytes) (qos : UInt8) : Prop :=
  ∀ s ∈ b.interceptors,
    let out := cfg.hooks.onDelivery (⟨clientID, topic, payload, qos⟩, s)
    out.1 = .ok () ∧ out.2.1.topic = topic ∧ out.2.1.payload = payload ∧ out.2.1.qos = qos

lemma handedOver_eq_some_iff (c : ℕ) (clientID topic : Str) (payload : Bytes) (qos : UInt8) :
    b.handedOver cfg topic payload (c, clientID, qos) = some (topic, payload, qos) ↔
      b.LeavesDelivery cfg clientID topic payload qos := by
  rw [handedOver, LeavesDelivery]
  cases b.interceptors with
  | none => simp
  | some s =>
    simp only [Option.mem_some_iff, forall_eq']
    cases (cfg.hooks.onDelivery (⟨clientID, topic, payload, qos⟩, s)).1 with
    | error err | ok u => simp

/-! ### One delivery -/

variable {b}

lemma received_eq {c : ℕ} {client : Client} (hc : b.conns.lookup c = some client) :
    b.received c = client.sent.filterMap Outgoing.message := by
  rw [received, sentOn, hc]
  rfl

lemma received_congr {b' : BrokerState σ ρ} {c : ℕ} (h : b'.wire c = b.wire c) :
    b'.received c = b.received c := by
  have hsent := congrArg (Option.map fun w => w.2.1) h
  rw [wire, wire, Option.map_map, Option.map_map] at hsent
  exact congrArg (fun sent => (sent.getD []).filterMap Outgoing.message) hsent

lemma HasRoom.congr {b' : BrokerState σ ρ} {c : ℕ} (hroom : b.HasRoom c)
    (h : b'.wire c = b.wire c) : b'.HasRoom c := by
  obtain ⟨client, hc, hopen, hacc⟩ := hroom
  rw [wire, wire, hc] at h
  obtain ⟨client', hc', heq⟩ := Option.map_eq_some_iff.1 h
  simp only [Prod.mk.injEq] at heq
  refine ⟨client', hc', heq.1.trans hopen, ?_⟩
  rw [Client.Accepts, heq.2.2.1]
  exact hacc

/-- A message is sent on a connection that has room. -/
lemma HasRoom.received_deliverMessage {c : ℕ} (h : b.HasRoom c) (topic : Str) (payload : Bytes)
    (qos : UInt8) (now : ℤ) :
    (b.deliverMessage c topic payload qos now).received c =
      b.received c ++ [(topic, payload, qos)] := by
  obtain ⟨client, hc, hopen, hacc⟩ := h
  rw [received_eq hc]
  by_cases hq : 0 < qos
  · have hlookup := lookup_deliverBuffered hc true topic payload hq now
    rw [if_pos ⟨hacc, rfl⟩, deliverBuffered_true] at hlookup
    rw [received_eq hlookup, Client.sent_push]
    simp [Client.record, hopen, Outgoing.message]
  · have hsend : b.deliverMessage c topic payload qos now =
        b.send c (.publish { topic, payload, qos }) := by
      simp only [deliverMessage, hc, if_neg hq]
    rw [hsend, received_eq (lookup_send_eq hc _), Client.sent_push]
    simp [hopen, Outgoing.message]

lemma wire_deliver_of_ne {c : ℕ} {d : ℕ × Str × UInt8} (h : c ≠ d.1) (topic : Str)
    (payload : Bytes) (now : ℤ) : (b.deliver cfg topic payload now d).wire c = b.wire c := by
  rw [deliver]
  cases b.interceptors with
  | none => rw [wire, b.lookup_deliverMessage_of_ne h, wire]
  | some s =>
    dsimp only
    split
    · rfl
    · rw [wire, lookup_deliverMessage_of_ne _ h]
      rfl

lemma HasRoom.received_deliver {c : ℕ} (h : b.HasRoom c) (clientID topic : Str)
    (payload : Bytes) (qos : UInt8) (now : ℤ) :
    (b.deliver cfg topic payload now (c, clientID, qos)).received c =
      b.received c ++ (b.handedOver cfg topic payload (c, clientID, qos)).toList := by
  rw [deliver, handedOver]
  cases b.interceptors with
  | none => exact h.received_deliverMessage topic payload qos now
  | some s =>
    dsimp only
    cases (cfg.hooks.onDelivery (⟨clientID, topic, payload, qos⟩, s)).1 with
    | error err => exact (List.append_nil _).symm
    | ok u => exact HasRoom.received_deliverMessage (b := { b with interceptors := some _ }) h ..

/-! ### The live path -/

section Live

variable {topic : Str} {payload : Bytes} {qos : UInt8} {retain forwarded : Bool} {now : ℤ}

lemma wire_enqueueOffline (topic : Str) (payload : Bytes) (now : ℤ) (d : Str × UInt8) :
    (b.enqueueOffline topic payload now d).wire = b.wire := rfl

/-- `routeMessage` sends what `OnDelivery` lets through, and nothing else. -/
lemma HasRoom.received_routeMessage {c : ℕ} {clientID : Str} {q : UInt8} (hroom : b.HasRoom c)
    (hd : (c, clientID, q) ∈ (b.routes topic qos).1)
    (hown : ∀ id, b.clients.lookup id = some c → id = clientID) :
    (b.routeMessage cfg topic payload qos retain forwarded now).received c =
      b.received c ++ ((b.atDelivery cfg topic payload qos retain forwarded now
        (c, clientID, q)).handedOver cfg topic payload (c, clientID, q)).toList := by
  have hfan := b.fanOut_routes topic qos
  -- the connection is registered for one client, and each client is served once
  have hne : ∀ d ∈ (b.routes topic qos).1, d ≠ (c, clientID, q) → c ≠ d.1 := by
    rintro ⟨c', id, q'⟩ hmem hne rfl
    refine hne (List.inj_on_of_nodup_map hfan.nodup_deliveries hmem hd ?_)
    exact hown id ((hfan.mem_deliveries c id q').1 hmem).1
  obtain ⟨hbefore, hafter⟩ := foldl_frame_unique (fun b : BrokerState σ ρ => b.wire c)
    hfan.nodup_deliveries.of_map hd
    (fun b d hmem h => b.wire_deliver_of_ne cfg (hne d hmem h) topic payload now)
    { b with calls := b.calls ++ [.routeMessage topic payload qos retain forwarded] }
  have hroute : (b.routeMessage cfg topic payload qos retain forwarded now).wire c =
      ((b.atDelivery cfg topic payload qos retain forwarded now (c, clientID, q)).deliver cfg
        topic payload now (c, clientID, q)).wire c := by
    refine Eq.trans ?_ hafter
    rw [routeMessage]
    exact foldl_frame (fun b : BrokerState σ ρ => b.wire c)
      (fun b d => congrFun (b.wire_enqueueOffline topic payload now d) c) _ _
  have hkept : (b.atDelivery cfg topic payload qos retain forwarded now (c, clientID, q)).wire c =
      b.wire c := hbefore
  rw [received_congr hroute, (hroom.congr hkept).received_deliver, received_congr hkept]

end Live

/-! ### The offline path -/

end BrokerState

/-- The topic, the payload and the QoS of a queued message. -/
def OfflineMessage.message (m : OfflineMessage) : Str × Bytes × UInt8 := (m.topic, m.payload, m.qos)

namespace OfflineStore

variable {s : OfflineStore}

lemma message_stamp (msg : OfflineMessage) (now : ℤ) :
    (s.stamp msg now).message = msg.message := by
  rw [stamp]
  split
  · rfl
  · rfl
  · split_ifs <;> rfl

/-- What is queued for a client that had no messages. -/
lemma sublist_message_enqueue {clientID : Str} (hempty : s.queue clientID = [])
    (msg : OfflineMessage) (now : ℤ) :
    (((s.enqueue clientID msg now).2.queue clientID).map OfflineMessage.message).Sublist
      [msg.message] := by
  obtain ⟨q, m, hq, hm, heq⟩ := s.enqueue_eq clientID msg now
  rw [hempty, List.sublist_nil] at hq
  rw [heq, queue_insert, if_pos rfl, hq, List.nil_append, ← s.message_stamp msg now]
  exact hm.map OfflineMessage.message

/-- A message that is alone in the queue and has not expired is taken off it. -/
lemma fst_dequeue_of_sublist {clientID : Str} {x : Str × Bytes × UInt8}
    (hqueue : ((s.queue clientID).map OfflineMessage.message).Sublist [x]) {now : ℤ}
    (hlive : s.liveQueue clientID now ≠ []) {n : ℕ} (hn : 0 < n) :
    ∃ m, (s.dequeue clientID n now).1 = [m] ∧ m.message = x := by
  have hsub : ((s.liveQueue clientID now).map OfflineMessage.message).Sublist [x] :=
    (List.filter_sublist.map _).trans hqueue
  rcases List.sublist_singleton.1 hsub with hnil | hone
  · exact absurd (List.map_eq_nil_iff.1 hnil) hlive
  · obtain ⟨m, hm, hx⟩ := List.map_eq_singleton_iff.1 hone
    refine ⟨m, ?_, hx⟩
    rw [dequeue_fst, valid, hm]
    exact List.take_of_length_le hn

end OfflineStore

namespace BrokerState

variable {σ ε ρ : Type} (cfg : Config σ ε ρ) {b : BrokerState σ ρ}

section Offline

variable {topic : Str} {qos : UInt8}

/-- `routeMessage` queues nothing but the message itself. -/
lemma sublist_message_routeMessage {clientID : Str} {q : UInt8}
    (hd : (clientID, q) ∈ (b.routes topic qos).2) (hempty : b.offlineStore.queue clientID = [])
    (payload : Bytes) (retain forwarded : Bool) (now : ℤ) :
    (((b.routeMessage cfg topic payload qos retain forwarded now).offlineStore.queue clientID).map
      OfflineMessage.message).Sublist [(topic, payload, q)] := by
  have hfan := b.fanOut_routes topic qos
  have hne : ∀ d ∈ (b.routes topic qos).2, d ≠ (clientID, q) → clientID ≠ d.1 := by
    rintro ⟨id, q'⟩ hmem hne rfl
    exact hne (List.inj_on_of_nodup_map hfan.nodup_offlineDeliveries hmem hd rfl)
  rw [routeMessage]
  dsimp only
  generalize hb₁ : List.foldl _ _ (b.routes topic qos).1 = b₁
  have hdelivered : b₁.offlineStore = b.offlineStore := by
    rw [← hb₁]
    exact foldl_frame (fun b : BrokerState σ ρ => b.offlineStore)
      (fun b d => b.offlineStore_deliver cfg topic payload now d) _ _
  obtain ⟨hbefore, hafter⟩ := foldl_frame_unique
    (fun b : BrokerState σ ρ => b.offlineStore.queue clientID)
    hfan.nodup_offlineDeliveries.of_map hd
    (fun b d hmem h => b.queue_enqueueOffline_of_ne (hne d hmem h) topic payload now) b₁
  rw [hafter]
  refine OfflineStore.sublist_message_enqueue ?_ _ now
  rw [hbefore, hdelivered, hempty]

end Offline

lemma HasRoom.send_connack {c : ℕ} (hroom : b.HasRoom c) (p : ConnackPacket) :
    (b.send c (.connack p)).HasRoom c ∧ (b.send c (.connack p)).received c = b.received c := by
  obtain ⟨client, hc, hopen, hacc⟩ := hroom
  have hlookup := lookup_send_eq hc (.connack p)
  refine ⟨⟨_, hlookup, ?_, ?_⟩, ?_⟩
  · rw [Client.push, if_neg (by simp [hopen])]
    exact hopen
  · rw [Client.Accepts, Client.inflight_push]
    exact hacc
  · rw [received_eq hlookup, received_eq hc, Client.sent_push, List.filterMap_append]
    simp [hopen, Outgoing.message]

/-- A client whose session is there receives the message that is queued for it. -/
lemma HasRoom.received_acceptConnect {c : ℕ} (hroom : b.HasRoom c) {clientID : Str}
    {x : Str × Bytes × UInt8} (pkt : ConnectPacket)
    (hqueue : ((b.offlineStore.queue clientID).map OfflineMessage.message).Sublist [x]) {now : ℤ}
    (hlive : b.offlineStore.liveQueue clientID now ≠ []) :
    (b.acceptConnect c clientID pkt true now).received c = b.received c ++ [x] := by
  obtain ⟨m, hm, rfl⟩ := OfflineStore.fst_dequeue_of_sublist hqueue hlive (n := 100) (by decide)
  rw [acceptConnect, if_pos rfl]
  generalize hp : Outgoing.connack _ = p
  obtain ⟨hroom', hreceived⟩ := hp ▸ hroom.send_connack _
  have hstore : (b.send c p).offlineStore = b.offlineStore :=
    congrArg (fun b => b.offlineStore) (b.stores_send c p)
  generalize b.send c p = b₁ at hroom' hreceived hstore ⊢
  rw [drainOffline, hstore, hm, List.foldl_cons, List.foldl_nil, ← hreceived]
  exact HasRoom.received_deliverMessage
    (b := { b₁ with offlineStore := (b.offlineStore.dequeue clientID 100 now).2 }) hroom' ..

lemma hasRoom_accept (hlimit : 0 < cfg.inflightLimit) (b : BrokerState σ ρ) (c : ℕ) :
    (b.accept cfg c).HasRoom c ∧ (b.accept cfg c).received c = [] := by
  have hc : (b.accept cfg c).conns.lookup c = some (.new cfg.inflightLimit) :=
    AList.lookup_insert _
  exact ⟨⟨_, hc, rfl, hlimit⟩, received_eq hc⟩

/-- A client that comes back to its session receives the message that is queued for it. -/
lemma HasRoom.received_handleConnect {c : ℕ} (hroom : b.HasRoom c) {pkt : ConnectPacket} {now : ℤ}
    (hok : (b.handleConnect cfg c pkt now).1.isOk = true) (hclean : pkt.cleanSession = false)
    (hsession : (b.sessions.get (effectiveClientID cfg c pkt)).isSome)
    (hreg : b.clients.lookup (effectiveClientID cfg c pkt) ≠ some c) {x : Str × Bytes × UInt8}
    (hqueue : ((b.offlineStore.queue (effectiveClientID cfg c pkt)).map
      OfflineMessage.message).Sublist [x])
    (hlive : b.offlineStore.liveQueue (effectiveClientID cfg c pkt) now ≠ []) :
    (b.handleConnect cfg c pkt now).2.received c = b.received c ++ [x] := by
  rcases b.handleConnect_eq cfg c pkt now with ⟨err, code, h⟩ | h
  · rw [h] at hok
    cases hok
  · rw [h, establish_eq] at hok ⊢
    generalize effectiveClientID cfg c pkt = clientID at *
    -- up to the registration nothing is sent, and the session and the queue are as before
    have hwire := wire_connecting hreg pkt
    have hstores := b.stores_beforeSession c clientID pkt
    have hopened : ((b.beforeSession c clientID pkt).openSession clientID pkt.cleanSession
        (expiryInterval pkt)).1 = true := by
      rw [fst_openSession, hclean, show (b.beforeSession c clientID pkt).sessions = b.sessions from
        congrArg (fun b => b.sessions) hstores, hsession]
      rfl
    have hoffline : ((b.beforeSession c clientID pkt).openSession clientID pkt.cleanSession
        (expiryInterval pkt)).2.offlineStore = b.offlineStore := by
      rw [offlineStore_openSession]
      exact congrArg (fun b => b.offlineStore) hstores
    generalize (b.beforeSession c clientID pkt).openSession clientID pkt.cleanSession
      (expiryInterval pkt) = out at *
    dsimp only at hok hwire ⊢
    rw [hopened] at hok ⊢
    rw [afterSession] at hok ⊢
    have hregistering := out.2.offlineStore_registering c clientID pkt
    generalize (out.2.setWill c clientID pkt).registerClient c = b₁ at *
    obtain ⟨interceptors, heq⟩ := finishConnect_of_ok cfg hok
    rw [heq, ← received_congr hwire]
    rw [← hoffline, ← hregistering] at hqueue hlive
    exact HasRoom.received_acceptConnect (b := { b₁ with interceptors }) (hroom.congr hwire) pkt
      hqueue hlive

/-! ### Both paths -/

section Paths

variable (topic : Str) (payload : Bytes) (qos : UInt8) (retain forwarded : Bool) (now : ℤ)
  (clientID : Str) (q : UInt8)

/-- The broker after a message was routed and a client has come back on a new connection. -/
def missed (b : BrokerState σ ρ) (c : ℕ) (pkt : ConnectPacket) (now' : ℤ) :
    Except (ConnectErr ε) Unit × BrokerState σ ρ :=
  ((b.routeMessage cfg topic payload qos retain forwarded now).accept cfg c).handleConnect cfg c
    pkt now'

/-- A client without queued messages misses a message of QoS `q`, which is queued for it, and comes
back before the message has expired. -/
@[mk_iff]
structure Misses (b : BrokerState σ ρ) (c : ℕ) (pkt : ConnectPacket) (now' : ℤ) : Prop where
  offline : (clientID, q) ∈ (b.routes topic qos).2
  noMessages : b.offlineStore.queue clientID = []
  queued : (b.routeMessage cfg topic payload qos retain forwarded now).offlineStore.liveQueue
    clientID now' ≠ []
  clientID_eq : effectiveClientID cfg c pkt = clientID
  cleanSession : pkt.cleanSession = false
  accepted : (b.missed cfg topic payload qos retain forwarded now c pkt now').1.isOk = true

/-- A client is there for a message of QoS `q`, on a connection that is not registered for another
client and has room. -/
@[mk_iff]
structure Meets (b : BrokerState σ ρ) (c : ℕ) : Prop where
  online : (c, clientID, q) ∈ (b.routes topic qos).1
  own : ∀ e ∈ b.clients.entries, e.2 = c → e.1 = clientID
  hasRoom : b.HasRoom c

instance (b : BrokerState σ ρ) (c : ℕ) (pkt : ConnectPacket) (now' : ℤ) :
    Decidable (b.Misses cfg topic payload qos retain forwarded now clientID q c pkt now') :=
  decidable_of_iff _ (misses_iff ..).symm

instance (b : BrokerState σ ρ) (c : ℕ) : Decidable (b.Meets topic qos clientID q c) :=
  decidable_of_iff _ (meets_iff ..).symm

variable {cfg topic payload qos retain forwarded now clientID q}

lemma Misses.received_eq {c : ℕ} {pkt : ConnectPacket} {now' : ℤ}
    (h : b.Misses cfg topic payload qos retain forwarded now clientID q c pkt now')
    (hlimit : 0 < cfg.inflightLimit) :
    (b.missed cfg topic payload qos retain forwarded now c pkt now').2.received c =
      [(topic, payload, q)] := by
  obtain ⟨hoffline, hempty, hlive, rfl, hclean, hok⟩ := h
  obtain ⟨hreg, ⟨s, hs, -⟩, -⟩ := ((b.fanOut_routes topic qos).mem_offlineDeliveries _ _).1 hoffline
  have hqueue := sublist_message_routeMessage cfg hoffline hempty payload retain forwarded now
  have hunrouted := b.unrouted_routeMessage cfg topic payload qos retain forwarded now
  rw [missed] at hok ⊢
  generalize b.routeMessage cfg topic payload qos retain forwarded now = b₁ at *
  have hclients : b₁.clients = b.clients := congrArg (fun b => b.clients) hunrouted
  have hsessions : b₁.sessions = b.sessions := congrArg (fun b => b.sessions) hunrouted
  obtain ⟨hroom, hnone⟩ := hasRoom_accept cfg hlimit b₁ c
  rw [← hsessions] at hs
  rw [← hclients] at hreg
  rw [hroom.received_handleConnect cfg hok hclean (Option.isSome_of_eq_some hs)
    (fun h => Option.some_ne_none c (h.symm.trans hreg)) hqueue hlive, hnone, List.nil_append]

lemma Meets.received_eq {c : ℕ} (h : b.Meets topic qos clientID q c) :
    (b.routeMessage cfg topic payload qos retain forwarded now).received c =
      b.received c ++ ((b.atDelivery cfg topic payload qos retain forwarded now
        (c, clientID, q)).handedOver cfg topic payload (c, clientID, q)).toList :=
  h.hasRoom.received_routeMessage cfg h.online fun id hid =>
    h.own ⟨id, c⟩ (AList.mem_lookup_iff.1 hid) rfl

end Paths

/-! ### A client with a session -/

/-- A CONNECT of the client `cb` of the tenant `b`, whose session outlives its connections. -/
def returningConnect : ConnectPacket := { sampleConnect false with cleanSession := false }

/-- The broker once the client is connected and has subscribed to `t`. -/
def subscribedBroker (b : BrokerState TenantChain Unit) : BrokerState TenantChain Unit :=
  ((b.accept sampleConfig 0).handleConnect sampleConfig 0 returningConnect 1).2.handleSubscribe
    sampleConfig 0 { packetID := 1, subscriptions := [⟨str "t", 1⟩] }

/-- The broker once the client has left again. -/
def leftBroker (b : BrokerState TenantChain Unit) : BrokerState TenantChain Unit :=
  (subscribedBroker b).close sampleConfig 0 2

end BrokerState

end Dmqtt.Broker
