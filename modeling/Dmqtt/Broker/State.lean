/-
The broker's state and the operations the packet handlers are made of
(`internal/broker/broker.go`, `internal/broker/client.go`).

Connections are numbered; `clients` maps a client ID to the connection registered for it.
The interceptor chain, the rate limiter and the two authorities are interfaces of the source
and parameters here, `Config`.  The broker has no cluster here.

A packet handed to `send` is recorded in `Client.sent`, whether or not there is room for it in
the channel; a send on a closed channel sets `panicked`.  `calls` records the calls of
`OnPublish`, `retainStore.Set` and `routeMessage`.
-/
import Dmqtt.Auth
import Dmqtt.Plugin
import Dmqtt.Broker.Subscription
import Dmqtt.Broker.Session
import Dmqtt.Broker.Offline
import Dmqtt.Broker.Stores
import Dmqtt.Codec.Connect
import Dmqtt.Lib.Trace

namespace Dmqtt.Broker

open Lib Codec Plugin

/-- An interceptor chain as the broker uses it: a machine with states `σ` whose calls may
change their event and reject it with an error. -/
structure Hooks (σ ε : Type) where
  onConnect : ConnectEvent × σ → Except ε Unit × (ConnectEvent × σ)
  onPublish : PublishEvent × σ → Except ε Unit × (PublishEvent × σ)
  onSubscribe : SubscribeEvent × σ → Except ε Unit × (SubscribeEvent × σ)
  onDelivery : DeliveryEvent × σ → Except ε Unit × (DeliveryEvent × σ)
  onUnsubscribe : UnsubscribeEvent × σ → Except ε Unit × (UnsubscribeEvent × σ)
  onDisconnect : DisconnectEvent → σ → σ

/-- A dispatch method of a chain as a machine.  `envs n` is what the `n`-th call from now on
meets. -/
def chainHook {σ ε α : Type}
    (dispatch : InterceptorChain σ ε → (ℕ → RunEnv) → α × σ →
      Except (Plugin.Err ε) Unit × (α × σ) × InterceptorChain σ ε)
    (x : α × InterceptorChain σ ε × σ × (ℕ → ℕ → RunEnv)) :
    Except (Plugin.Err ε) Unit × (α × InterceptorChain σ ε × σ × (ℕ → ℕ → RunEnv)) :=
  let (evt, c, s, envs) := x
  let (r, (evt, s), c) := dispatch c (envs 0) (evt, s)
  (r, evt, c, s, fun n => envs (n + 1))

/-- The interceptor chain of the package `plugin`. -/
def chainHooks (σ ε : Type) :
    Hooks (InterceptorChain σ ε × σ × (ℕ → ℕ → RunEnv)) (Plugin.Err ε) where
  onConnect := chainHook InterceptorChain.onConnect
  onPublish := chainHook InterceptorChain.onPublish
  onSubscribe := chainHook InterceptorChain.onSubscribe
  onDelivery := chainHook InterceptorChain.onDelivery
  onUnsubscribe := chainHook InterceptorChain.onUnsubscribe
  onDisconnect evt x := (x.1, x.1.onDisconnect evt x.2.1, x.2.2)

/-- A rate limiter as the broker uses it, with states `ρ`. -/
structure RateLimiter (ρ : Type) where
  allowPublish : ρ → (clientID topic : Str) → (payloadSize : ℕ) → Except Str Unit × ρ
  allowSubscribe : ρ → (clientID topic : Str) → Except Str Unit × ρ

/-- What the broker is set up with.  `autoID` is the client ID made up for a connection, and
`remoteAddr` its peer. -/
structure Config (σ ε ρ : Type) where
  hooks : Hooks σ ε
  limiter : RateLimiter ρ
  authenticate : (username : Str) → (password : Bytes) → Bool
  authorize : (username topic : Str) → (action : Auth.Access) → Bool
  inflightLimit : ℤ
  autoID : ℕ → Str
  remoteAddr : ℕ → Str

/-- A packet handed to `send`. -/
inductive Outgoing
  | connack (pkt : ConnackPacket)
  | publish (pkt : PublishPacket)
  | puback (packetID : UInt16)
  | pubrec (packetID : UInt16)
  | pubrel (packetID : UInt16)
  | pubcomp (packetID : UInt16)
  | suback (pkt : SubackPacket)
  | unsuback (packetID : UInt16)
  | disconnect (pkt : DisconnectPacket)
deriving DecidableEq

/-- A connection. -/
structure Client where
  clientID : Str
  username : Str
  will : Option WillMessage
  packetIDs : UInt16
  inflight : InflightStore
  protocolVersion : UInt8
  closed : Bool
  sent : List Outgoing

/-- `newClient` -/
def Client.new (inflightLimit : ℤ) : Client where
  clientID := []
  username := []
  will := none
  packetIDs := 0
  inflight := ⟨∅, inflightLimit⟩
  protocolVersion := 0
  closed := false
  sent := []

/-- A call made while a packet is handled: of `OnPublish`, with what it leaves in the event if
it accepts, of `retainStore.Set`, or of `routeMessage`. -/
inductive Call
  | onPublish (evt : PublishEvent) (accepted : Option PublishEvent)
  | retainSet (topic : Str) (payload : Bytes) (qos : UInt8)
  | routeMessage (topic : Str) (payload : Bytes) (qos : UInt8) (retain forwarded : Bool)
deriving DecidableEq

/-- The state of the broker. -/
structure BrokerState (σ ρ : Type) where
  subscriptions : SubscriptionIndex
  sessions : SessionStore
  retainStore : RetainStore
  dedupStore : DedupStore
  offlineStore : OfflineStore
  willStore : Option WillStore
  rateLimiter : ρ
  interceptors : Option σ
  clients : GoMap Str ℕ
  conns : GoMap ℕ Client
  done : Bool
  panicked : Bool
  calls : List Call

namespace BrokerState

variable {σ ε ρ : Type} (cfg : Config σ ε ρ) (b : BrokerState σ ρ)

/-- `New` without persistent storage, then `SetRateLimiter` and `SetInterceptors`. -/
def new (rateLimiter : ρ) (interceptors : Option σ) : BrokerState σ ρ where
  subscriptions := .new
  sessions := .new false
  retainStore := .new false
  dedupStore := ⟨∅, 180 * second⟩
  offlineStore := .new 1000 (24 * 3600 * second)
  willStore := none
  rateLimiter := rateLimiter
  interceptors := interceptors
  clients := ∅
  conns := ∅
  done := false
  panicked := false
  calls := []

/-! ### Connections -/

/-- A new connection. -/
def accept (c : ℕ) : BrokerState σ ρ :=
  { b with conns := b.conns.insert c (.new cfg.inflightLimit) }

/-- Change a connection. -/
def modifyClient (c : ℕ) (f : Client → Client) : BrokerState σ ρ :=
  match b.conns.lookup c with
  | none => b
  | some client => { b with conns := b.conns.insert c (f client) }

/-- Hand a packet to the write loop of a connection. -/
def send (c : ℕ) (pkt : Outgoing) : BrokerState σ ρ :=
  match b.conns.lookup c with
  | none => b
  | some client =>
    -- in Go this panics, in a `select` with a default case too
    if client.closed then { b with panicked := true }
    else { b with conns := b.conns.insert c { client with sent := client.sent ++ [pkt] } }

/-- Register a connection under its client ID. -/
def registerClient (c : ℕ) : BrokerState σ ρ :=
  match b.conns.lookup c with
  | none => b
  | some client => { b with clients := b.clients.insert client.clientID c }

/-- Unregister a connection, unless another one is registered under its client ID. -/
def unregisterClient (c : ℕ) : BrokerState σ ρ :=
  match b.conns.lookup c with
  | none => b
  | some client =>
    if b.clients.lookup client.clientID = some c then
      { b with clients := b.clients.erase client.clientID }
    else b

/-- Send a DISCONNECT to a connection of version 5; its socket is closed after that. -/
def sendDisconnectAndClose (c : ℕ) (reasonCode : UInt8) : BrokerState σ ρ :=
  match b.conns.lookup c with
  | none => b
  | some client =>
    if client.protocolVersion = 5 then
      b.send c (.disconnect { reasonCode := reasonCode, protocolVersion := 5 })
    else b

/-- Unregister the connection of a client ID and tell it that its session was taken over. -/
def disconnectExisting (clientID : Str) : BrokerState σ ρ :=
  match b.clients.lookup clientID with
  | none => b
  | some existing =>
    { b with clients := b.clients.erase clientID }.sendDisconnectAndClose existing 0x8E

/-! ### Routing -/

/-- Send a message to a connection.  Above QoS 0 it gets a packet ID and is dropped when too
many deliveries are unacknowledged. -/
def deliverMessage (c : ℕ) (topic : Str) (payload : Bytes) (qos : UInt8) (now : ℤ) :
    BrokerState σ ρ :=
  match b.conns.lookup c with
  | none => b
  | some client =>
    if qos > 0 then
      -- a delivery beyond the limit is dropped, but its packet ID is used up
      let packetID := nextPacketID client.packetIDs
      let (added, inflight) := client.inflight.add ⟨packetID, topic, payload, qos, now⟩
      let b := b.modifyClient c fun client =>
        { client with packetIDs := packetID, inflight := inflight }
      if added then b.send c (.publish { topic, payload, qos, packetID }) else b
    else b.send c (.publish { topic, payload, qos })

/-- The snapshot of `routeMessage`: the registered connections and the offline clients that
get the message, each with its QoS. -/
def routes (topic : Str) (qos : UInt8) : List (ℕ × Str × UInt8) × List (Str × UInt8) :=
  let matched := (b.subscriptions.matchTopic topic).map fun m =>
    (m.clientID, if m.qos < qos then m.qos else qos)
  (matched.filterMap fun (clientID, qos) =>
      (b.clients.lookup clientID).map fun c => (c, clientID, qos),
    -- a client that is gone gets the message later if its session outlives the connection
    matched.filter fun (clientID, _) =>
      (b.clients.lookup clientID).isNone &&
        (b.sessions.get clientID).any fun s => s.expiryInterval ≠ 0)

/-- Deliver a message to one connection of the snapshot, through `OnDelivery`. -/
def deliver (topic : Str) (payload : Bytes) (now : ℤ) (d : ℕ × Str × UInt8) : BrokerState σ ρ :=
  let (c, clientID, qos) := d
  match b.interceptors with
  | none => b.deliverMessage c topic payload qos now
  | some s =>
    let out := cfg.hooks.onDelivery (⟨clientID, topic, payload, qos⟩, s)
    let b := { b with interceptors := some out.2.2 }
    match out.1 with
    | .error _ => b
    | .ok () => b.deliverMessage c out.2.1.topic out.2.1.payload out.2.1.qos now

/-- Queue a message for an offline client. -/
def enqueueOffline (topic : Str) (payload : Bytes) (now : ℤ) (d : Str × UInt8) :
    BrokerState σ ρ :=
  { b with offlineStore :=
      (b.offlineStore.enqueue d.1 { topic, payload, qos := d.2 } now).2 }

/-- Route a message to the subscribers of its topic. -/
def routeMessage (topic : Str) (payload : Bytes) (qos : UInt8) (retain forwarded : Bool)
    (now : ℤ) : BrokerState σ ρ :=
  let (deliveries, offlineDeliveries) := b.routes topic qos
  let b := { b with calls := b.calls ++ [.routeMessage topic payload qos retain forwarded] }
  let b := deliveries.foldl (fun b d => b.deliver cfg topic payload now d) b
  offlineDeliveries.foldl (fun b d => b.enqueueOffline topic payload now d) b

/-- Set a retained message. -/
def retainSet (topic : Str) (payload : Bytes) (qos : UInt8) : BrokerState σ ρ :=
  { b with
    retainStore := b.retainStore.set topic payload qos
    calls := b.calls ++ [.retainSet topic payload qos] }

/-! ### Frames -/

/-- Everything but the connections. -/
def stores : BrokerState σ ρ := { b with conns := ∅, panicked := false }

variable {c' : ℕ} (c : ℕ) (topic : Str) (payload : Bytes) (qos : UInt8) (retain forwarded : Bool)
  (now : ℤ)

@[simp] lemma stores_modifyClient (f : Client → Client) :
    (b.modifyClient c f).stores = b.stores := by
  rw [modifyClient]
  cases b.conns.lookup c <;> rfl

@[simp] lemma stores_send (pkt : Outgoing) : (b.send c pkt).stores = b.stores := by
  rw [send]
  cases b.conns.lookup c with
  | none => rfl
  | some client =>
    dsimp only
    split_ifs <;> rfl

@[simp] lemma stores_sendDisconnectAndClose (reasonCode : UInt8) :
    (b.sendDisconnectAndClose c reasonCode).stores = b.stores := by
  rw [sendDisconnectAndClose]
  cases b.conns.lookup c with
  | none => rfl
  | some client =>
    dsimp only
    split_ifs
    · exact b.stores_send _ _
    · rfl

@[simp] lemma stores_deliverMessage :
    (b.deliverMessage c topic payload qos now).stores = b.stores := by
  rw [deliverMessage]
  cases b.conns.lookup c with
  | none => rfl
  | some client =>
    dsimp only
    split_ifs <;> simp

@[simp] lemma stores_disconnectExisting (clientID : Str) :
    (b.disconnectExisting clientID).stores =
      { b.stores with clients := b.clients.erase clientID } := by
  rw [disconnectExisting]
  cases hl : b.clients.lookup clientID with
  | none => rw [GoMap.erase_of_lookup_eq_none hl]; rfl
  | some existing =>
    rw [stores_sendDisconnectAndClose]
    rfl

lemma registerClient_eq : ∃ clients, b.registerClient c = { b with clients := clients } := by
  rw [registerClient]
  cases b.conns.lookup c <;> exact ⟨_, rfl⟩

lemma unregisterClient_eq : ∃ clients, b.unregisterClient c = { b with clients := clients } := by
  rw [unregisterClient]
  cases b.conns.lookup c with
  | none => exact ⟨_, rfl⟩
  | some client =>
    dsimp only
    split_ifs <;> exact ⟨_, rfl⟩

lemma lookup_modifyClient_of_ne {c : ℕ} (h : c' ≠ c) (f : Client → Client) :
    (b.modifyClient c f).conns.lookup c' = b.conns.lookup c' := by
  rw [modifyClient]
  cases b.conns.lookup c with
  | none => rfl
  | some client => exact AList.lookup_insert_ne h

/-- A change of a connection, as far as a view of the connections shows it. -/
lemma map_lookup_modifyClient {α : Type} (view : Client → α) {g : α → α} (c c' : ℕ)
    {f : Client → Client} (hf : ∀ client, view (f client) = g (view client)) :
    ((b.modifyClient c f).conns.lookup c').map view =
      if c' = c then ((b.conns.lookup c).map view).map g else (b.conns.lookup c').map view := by
  split_ifs with h
  · rw [h, modifyClient]
    cases hc : b.conns.lookup c <;> simp [hc, hf]
  · rw [lookup_modifyClient_of_ne _ h]

lemma map_lookup_modifyClient_of_eq {α : Type} (view : Client → α) (c c' : ℕ)
    {f : Client → Client} (hf : ∀ client, view (f client) = view client) :
    ((b.modifyClient c f).conns.lookup c').map view = (b.conns.lookup c').map view := by
  rw [b.map_lookup_modifyClient view (g := fun x => x) c c' hf, Option.map_id']
  split_ifs with h
  · rw [h]
  · rfl

lemma lookup_send_of_ne {c : ℕ} (h : c' ≠ c) (pkt : Outgoing) :
    (b.send c pkt).conns.lookup c' = b.conns.lookup c' := by
  rw [send]
  cases b.conns.lookup c with
  | none => rfl
  | some client =>
    dsimp only
    split_ifs
    · rfl
    · exact AList.lookup_insert_ne h

lemma lookup_sendDisconnectAndClose_of_ne {c : ℕ} (h : c' ≠ c) (reasonCode : UInt8) :
    (b.sendDisconnectAndClose c reasonCode).conns.lookup c' = b.conns.lookup c' := by
  rw [sendDisconnectAndClose]
  cases b.conns.lookup c with
  | none => rfl
  | some client =>
    dsimp only
    split_ifs
    · exact b.lookup_send_of_ne h _
    · rfl

lemma lookup_disconnectExisting_of_ne {c : ℕ} {clientID : Str}
    (h : b.clients.lookup clientID ≠ some c) :
    (b.disconnectExisting clientID).conns.lookup c = b.conns.lookup c := by
  rw [disconnectExisting]
  cases hl : b.clients.lookup clientID with
  | none => rfl
  | some existing =>
    have hne : c ≠ existing := by
      rintro rfl
      exact h hl
    exact lookup_sendDisconnectAndClose_of_ne _ hne _

lemma lookup_deliverMessage_of_ne {c : ℕ} (h : c' ≠ c) (topic : Str) (payload : Bytes) (qos : UInt8)
    (now : ℤ) :
    (b.deliverMessage c topic payload qos now).conns.lookup c' = b.conns.lookup c' := by
  rw [deliverMessage]
  cases b.conns.lookup c with
  | none => rfl
  | some client =>
    dsimp only
    split_ifs
    · rw [lookup_send_of_ne _ h, lookup_modifyClient_of_ne _ h]
    · rw [lookup_modifyClient_of_ne _ h]
    · rw [lookup_send_of_ne _ h]

/-- Everything but the connections, the interceptors and the offline queues, which are what
routing a message changes. -/
def unrouted : BrokerState σ ρ :=
  { b.stores with interceptors := none, offlineStore := .new 0 0 }

lemma unrouted_eq {b b' : BrokerState σ ρ} (h : b'.stores = b.stores) :
    b'.unrouted = b.unrouted := by
  rw [unrouted, h, unrouted]

@[simp] lemma unrouted_deliver (d : ℕ × Str × UInt8) :
    (b.deliver cfg topic payload now d).unrouted = b.unrouted := by
  rw [deliver]
  cases b.interceptors with
  | none => exact unrouted_eq (b.stores_deliverMessage _ _ _ _ _)
  | some s =>
    dsimp only
    split
    · rfl
    · exact (unrouted_eq (stores_deliverMessage _ _ _ _ _ _)).trans rfl

@[simp] lemma unrouted_enqueueOffline (d : Str × UInt8) :
    (b.enqueueOffline topic payload now d).unrouted = b.unrouted := rfl

/-- Routing a message is recorded. -/
@[simp] lemma unrouted_routeMessage :
    (b.routeMessage cfg topic payload qos retain forwarded now).unrouted =
      { b.unrouted with
        calls := b.calls ++ [.routeMessage topic payload qos retain forwarded] } := by
  rw [routeMessage]
  rw [foldl_frame unrouted (fun b d => b.unrouted_enqueueOffline topic payload now d),
    foldl_frame unrouted (fun b d => b.unrouted_deliver cfg topic payload now d)]
  rfl

lemma calls_routeMessage :
    (b.routeMessage cfg topic payload qos retain forwarded now).calls =
      b.calls ++ [.routeMessage topic payload qos retain forwarded] := by
  have h := b.unrouted_routeMessage cfg topic payload qos retain forwarded now
  exact congrArg (fun b => b.calls) h

lemma retainStore_routeMessage :
    (b.routeMessage cfg topic payload qos retain forwarded now).retainStore = b.retainStore := by
  have h := b.unrouted_routeMessage cfg topic payload qos retain forwarded now
  exact congrArg (fun b => b.retainStore) h

end BrokerState

end Dmqtt.Broker
