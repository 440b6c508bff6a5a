/-
The handlers of the packets that a client sends, and the end of a connection
(`internal/broker/client.go`).

A handler takes the connection, the decoded packet (PUBLISH and its acknowledgements are decoded
by their handlers) and the instant at which it runs.
-/
import Dmqtt.Broker.State

namespace Dmqtt.Broker.BrokerState

open Lib Codec Plugin

variable {σ ε ρ : Type} (cfg : Config σ ε ρ) (b : BrokerState σ ρ)

/-! ### CONNECT -/

/-- The errors of `handleConnect` once the packet is decoded. -/
inductive ConnectErr (ε : Type)
  | unsupportedProtocol (name : Str) (level : UInt8)
  | emptyClientID
  | authenticationFailed (username : Str)
  | interceptorRejected (err : ε)
deriving DecidableEq

/-- The client ID of a connection. -/
def effectiveClientID (c : ℕ) (pkt : ConnectPacket) : Str :=
  if pkt.clientID = [] then cfg.autoID c else pkt.clientID

/-- The expiry interval that a CONNECT asks for. -/
def expiryInterval (pkt : ConnectPacket) : UInt32 :=
  if pkt.protocolLevel = 4 then
    if pkt.cleanSession then 0 else neverExpires
  else ((pkt.properties.bind Properties.sessionExpiryInterval)).getD 0

/-- Create a session, or take over the subscriptions of the one that is there.  Returns
whether there was one. -/
def openSession (clientID : Str) (cleanStart : Bool) (expiryInterval : UInt32) :
    Bool × BrokerState σ ρ :=
  match b.sessions.get clientID with
  | some existing =>
    if cleanStart then
      (false, { b with sessions := b.sessions.create clientID cleanStart expiryInterval })
    else
      -- the session keeps its expiry interval, and its mark if it has one
      let subscriptions := existing.subscriptions.entries.foldl
        (fun idx f => idx.add clientID f.1 f.2) b.subscriptions
      (true, { b with subscriptions := subscriptions })
  | none => (false, { b with sessions := b.sessions.create clientID cleanStart expiryInterval })

/-- The will of a CONNECT. -/
def willOf (pkt : ConnectPacket) : Option WillMessage :=
  if pkt.willFlag then some ⟨pkt.willTopic, pkt.willPayload, pkt.willQoS, pkt.willRetain⟩
  else none

/-- Store the will of a CONNECT, on the connection and in the will store. -/
def setWill (c : ℕ) (clientID : Str) (pkt : ConnectPacket) : BrokerState σ ρ :=
  match willOf pkt with
  | none => b
  | some will =>
    let b := b.modifyClient c fun client => { client with will := some will }
    { b with willStore := b.willStore.map fun ws => ws.set clientID will }

/-- Deliver up to a hundred of the messages queued for a client. -/
def drainOffline (c : ℕ) (clientID : Str) (now : ℤ) : BrokerState σ ρ :=
  let out := b.offlineStore.dequeue clientID 100 now
  out.1.foldl (fun b msg => b.deliverMessage c msg.topic msg.payload msg.qos now)
    { b with offlineStore := out.2 }

/-- Accept a connection: CONNACK, then the queued messages if there was a session. -/
def acceptConnect (c : ℕ) (clientID : Str) (pkt : ConnectPacket) (sessionPresent : Bool)
    (now : ℤ) : BrokerState σ ρ :=
  let b := b.send c (.connack
    { sessionPresent, returnCode := connackAccepted, protocolVersion := pkt.protocolLevel })
  if sessionPresent then b.drainOffline c clientID now else b

/-- The end of the handshake, from `OnConnect` on. -/
def finishConnect (c : ℕ) (clientID : Str) (pkt : ConnectPacket) (sessionPresent : Bool)
    (now : ℤ) : Except (ConnectErr ε) Unit × BrokerState σ ρ :=
  match b.interceptors with
  | none => (.ok (), b.acceptConnect c clientID pkt sessionPresent now)
  | some s =>
    let out := cfg.hooks.onConnect
      (⟨clientID, pkt.username, pkt.cleanSession, cfg.remoteAddr c⟩, s)
    let b := { b with interceptors := some out.2.2 }
    match out.1 with
    | .error err =>
      (.error (.interceptorRejected err),
        b.send c (.connack { returnCode := connackNotAuthorized }))
    | .ok () => (.ok (), b.acceptConnect c clientID pkt sessionPresent now)

/-- The part of `handleConnect` behind the authentication. -/
def establish (c : ℕ) (clientID : Str) (pkt : ConnectPacket) (now : ℤ) :
    Except (ConnectErr ε) Unit × BrokerState σ ρ :=
  let b := b.modifyClient c fun client => { client with
    username := pkt.username
    clientID := clientID
    protocolVersion := pkt.protocolLevel }
  -- the old connection is told, but its end is not waited for
  let b := b.disconnectExisting clientID
  let out := b.openSession clientID pkt.cleanSession (expiryInterval pkt)
  let b := out.2.setWill c clientID pkt
  let b := b.registerClient c
  b.finishConnect cfg c clientID pkt out.1 now

/-- The handshake of a connection. -/
def handleConnect (c : ℕ) (pkt : ConnectPacket) (now : ℤ) :
    Except (ConnectErr ε) Unit × BrokerState σ ρ :=
  if pkt.protocolName ≠ str "MQTT" ∨ (pkt.protocolLevel ≠ 4 ∧ pkt.protocolLevel ≠ 5) then
    (.error (.unsupportedProtocol pkt.protocolName pkt.protocolLevel),
      b.send c (.connack { returnCode := connackUnacceptableProtocol }))
  else if pkt.clientID = [] ∧ !pkt.cleanSession then
    (.error .emptyClientID, b.send c (.connack { returnCode := connackIdentifierRejected }))
  else if !cfg.authenticate pkt.username pkt.password then
    (.error (.authenticationFailed pkt.username),
      b.send c (.connack { returnCode := connackBadUsernameOrPassword }))
  else b.establish cfg c (effectiveClientID cfg c pkt) pkt now

/-! ### PUBLISH -/

/-- Acknowledge a PUBLISH; `false` tells that it is a duplicate of QoS 2. -/
def acknowledge (c : ℕ) (clientID : Str) (qos : UInt8) (packetID : UInt16) (now : ℤ) :
    Bool × BrokerState σ ρ :=
  if qos = 1 then (true, b.send c (.puback packetID))
  else if qos = 2 then
    let (duplicate, dedupStore) := b.dedupStore.isDuplicate clientID packetID now
    let b := { b with dedupStore := dedupStore }
    if duplicate then (false, b.send c (.pubrec packetID))
    else
      let b := { b with dedupStore := b.dedupStore.markReceived clientID packetID now }
      (true, b.send c (.pubrec packetID))
  else (true, b)

/-- Pass a message through `OnPublish` and route what comes out. -/
def interceptAndRoute (evt : PublishEvent) (now : ℤ) : BrokerState σ ρ :=
  match b.interceptors with
  | none => b.routeMessage cfg evt.topic evt.payload evt.qos evt.retain false now
  | some s =>
    let out := cfg.hooks.onPublish (evt, s)
    let b := { b with interceptors := some out.2.2 }
    match out.1 with
    | .error _ => { b with calls := b.calls ++ [Call.onPublish evt none] }
    | .ok () =>
      let b := { b with calls := b.calls ++ [Call.onPublish evt (some out.2.1)] }
      b.routeMessage cfg out.2.1.topic out.2.1.payload out.2.1.qos out.2.1.retain false now

/-- The event of a PUBLISH. -/
def publishEvent (client : Client) (fh : FixedHeader) (pkt : PublishPacket) : PublishEvent :=
  ⟨client.clientID, pkt.topic, pkt.payload, fh.qos, fh.retain⟩

/-- The part of `handlePublish` behind the checks. -/
def storeAndRoute (client : Client) (fh : FixedHeader) (pkt : PublishPacket) (now : ℤ) :
    BrokerState σ ρ :=
  -- the retained message is set before the interceptors see the packet
  let b := if fh.retain then b.retainSet pkt.topic pkt.payload fh.qos else b
  b.interceptAndRoute cfg (publishEvent client fh pkt) now

/-- The part of `handlePublish` behind the acknowledgement. -/
def checkPublish (client : Client) (fh : FixedHeader) (pkt : PublishPacket) (now : ℤ) :
    BrokerState σ ρ :=
  if !cfg.authorize client.username pkt.topic .publish then b
  else
    let out :=
      cfg.limiter.allowPublish b.rateLimiter client.clientID pkt.topic pkt.payload.length
    let b := { b with rateLimiter := out.2 }
    match out.1 with
    | .error _ => b
    | .ok () => b.storeAndRoute cfg client fh pkt now

/-- Handle a PUBLISH of a client.  The packet is decoded as one of version 4. -/
def handlePublish (c : ℕ) (fh : FixedHeader) (data : Bytes) (now : ℤ) : BrokerState σ ρ :=
  match b.conns.lookup c, decodePublishPacket data fh.qos 4 with
  | some client, .ok pkt =>
    let out := b.acknowledge c client.clientID fh.qos pkt.packetID now
    if out.1 then out.2.checkPublish cfg client fh pkt now else out.2
  | _, _ => b

/-! ### Acknowledgements -/

/-- Handle a PUBACK: the delivery is no longer in flight. -/
def handlePuback (c : ℕ) (data : Bytes) : BrokerState σ ρ :=
  match decodePubackPacket data 4 with
  | .error _ => b
  | .ok pkt => b.modifyClient c fun client =>
    { client with inflight := client.inflight.remove pkt.packetID }

/-- Handle a PUBREC: the delivery is no longer in flight, and is released. -/
def handlePubrec (c : ℕ) (data : Bytes) : BrokerState σ ρ :=
  match decodePubrecPacket data 4 with
  | .error _ => b
  | .ok pkt =>
    let b := b.modifyClient c fun client =>
      { client with inflight := client.inflight.remove pkt.packetID }
    b.send c (.pubrel pkt.packetID)

/-- Handle a PUBREL: the client may use the packet ID again. -/
def handlePubrel (c : ℕ) (data : Bytes) : BrokerState σ ρ :=
  match b.conns.lookup c, decodePubrelPacket data 4 with
  | some client, .ok pkt =>
    let b := { b with dedupStore := b.dedupStore.remove client.clientID pkt.packetID }
    b.send c (.pubcomp pkt.packetID)
  | _, _ => b

/-- Handle a PUBCOMP: nothing is left to do. -/
def handlePubcomp (_c : ℕ) (_data : Bytes) : BrokerState σ ρ := b

/-! ### SUBSCRIBE -/

/-- Install a filter, in the index and in the session at `addr`. -/
def install (client : Client) (addr : Option ℕ) (filter : Str) (qos : UInt8) :
    BrokerState σ ρ :=
  { b with
    subscriptions := b.subscriptions.add client.clientID filter qos
    sessions :=
      match addr with
      | none => b.sessions
      | some addr => b.sessions.setSubscription client.clientID addr filter qos }

/-- What is installed for a filter that got past the checks: the filter and QoS that
`OnSubscribe` leaves, or nothing. -/
def interceptSubscribe (client : Client) (sub : Subscription) (interceptors : Option σ) :
    Option (Str × UInt8) × Option σ :=
  let grantedQoS := if sub.qos > 2 then 2 else sub.qos
  match interceptors with
  | none => (some (sub.topicFilter, grantedQoS), none)
  | some s =>
    let out := cfg.hooks.onSubscribe (⟨client.clientID, sub.topicFilter, grantedQoS⟩, s)
    match out.1 with
    | .error _ => (none, some out.2.2)
    | .ok () => (some (out.2.1.topicFilter, out.2.1.qos), some out.2.2)

/-- The checks of a filter: the filter and QoS to install, or `none` if it is refused.  They
depend on the states of the rate limiter and of the interceptors. -/
def grant (client : Client) (sub : Subscription) (a : ρ × Option σ) :
    Option (Str × UInt8) × (ρ × Option σ) :=
  if !topicFilterValid sub.topicFilter then (none, a)
  else if !cfg.authorize client.username sub.topicFilter .subscribe then (none, a)
  else
    let out := cfg.limiter.allowSubscribe a.1 client.clientID sub.topicFilter
    match out.1 with
    | .error _ => (none, out.2, a.2)
    | .ok () =>
      let granted := interceptSubscribe cfg client sub a.2
      (granted.1, out.2, granted.2)

/-- One filter of a SUBSCRIBE: the filter and QoS that were installed, or `none` if the filter
was refused.  `addr` is the session the handler holds. -/
def subscribeOne (client : Client) (addr : Option ℕ) (sub : Subscription) :
    Option (Str × UInt8) × BrokerState σ ρ :=
  let out := grant cfg client sub (b.rateLimiter, b.interceptors)
  let b := { b with rateLimiter := out.2.1, interceptors := out.2.2 }
  match out.1 with
  | none => (none, b)
  | some (filter, qos) => (some (filter, qos), b.install client addr filter qos)

/-- The loop over the filters of a SUBSCRIBE. -/
def subscribeLoop (client : Client) (addr : Option ℕ) :
    List Subscription → BrokerState σ ρ → List (Option (Str × UInt8)) × BrokerState σ ρ
  | [], b => ([], b)
  | sub :: subs, b =>
    let out := b.subscribeOne cfg client addr sub
    let rest := subscribeLoop client addr subs out.2
    (out.1 :: rest.1, rest.2)

/-- The SUBACK code of a filter. -/
def returnCode : Option (Str × UInt8) → UInt8
  | none => 0x80
  | some (_, qos) => qos

/-- A retained message as it is sent to a new subscriber. -/
def retainedPublish (msg : RetainedMessage) : Outgoing :=
  .publish { topic := msg.topic, qos := 0, retain := true, payload := msg.payload }

/-- Send the retained messages that match a filter. -/
def sendRetained (c : ℕ) (filter : Str) : BrokerState σ ρ :=
  (b.retainStore.matchFilter filter).foldl (fun b msg => b.send c (retainedPublish msg)) b

/-- Handle a SUBSCRIBE of a client.  The retained messages are sent for the filters of the
packet. -/
def handleSubscribe (c : ℕ) (pkt : SubscribePacket) : BrokerState σ ρ :=
  match b.conns.lookup c with
  | none => b
  | some client =>
    let addr := (b.sessions.get client.clientID).map Session.addr
    let out := subscribeLoop cfg client addr pkt.subscriptions b
    let b := { out.2 with sessions := out.2.sessions.save client.clientID }
    let b := b.send c (.suback ⟨pkt.packetID, out.1.map returnCode⟩)
    -- the filters as the packet has them, granted or not
    pkt.subscriptions.foldl (fun b sub => b.sendRetained c sub.topicFilter) b

/-! ### UNSUBSCRIBE -/

/-- The filter that `OnUnsubscribe` leaves, or nothing if it rejects. -/
def interceptUnsubscribe (client : Client) (filter : Str) (interceptors : Option σ) :
    Option Str × Option σ :=
  match interceptors with
  | none => (some filter, none)
  | some s =>
    let out := cfg.hooks.onUnsubscribe (⟨client.clientID, filter⟩, s)
    match out.1 with
    | .error _ => (none, some out.2.2)
    | .ok () => (some out.2.1.topicFilter, some out.2.2)

/-- Remove a filter, from the index and from the session at `addr`. -/
def uninstall (client : Client) (addr : Option ℕ) (filter : Str) : BrokerState σ ρ :=
  { b with
    subscriptions := b.subscriptions.remove client.clientID filter
    sessions :=
      match addr with
      | none => b.sessions
      | some addr => b.sessions.removeSubscription client.clientID addr filter }

/-- One filter of an UNSUBSCRIBE: the filter that was removed, or `none` if the interceptors
rejected.  `addr` is the session the handler holds. -/
def unsubscribeOne (client : Client) (addr : Option ℕ) (filter : Str) :
    Option Str × BrokerState σ ρ :=
  let out := interceptUnsubscribe cfg client filter b.interceptors
  let b := { b with interceptors := out.2 }
  match out.1 with
  | none => (none, b)
  | some filter => (some filter, b.uninstall client addr filter)

/-- The loop over the filters of an UNSUBSCRIBE. -/
def unsubscribeLoop (client : Client) (addr : Option ℕ) :
    List Str → BrokerState σ ρ → List (Option Str) × BrokerState σ ρ
  | [], b => ([], b)
  | filter :: filters, b =>
    let out := b.unsubscribeOne cfg client addr filter
    let rest := unsubscribeLoop client addr filters out.2
    (out.1 :: rest.1, rest.2)

/-- Handle an UNSUBSCRIBE of a client. -/
def handleUnsubscribe (c : ℕ) (pkt : UnsubscribePacket) : BrokerState σ ρ :=
  match b.conns.lookup c with
  | none => b
  | some client =>
    let addr := (b.sessions.get client.clientID).map Session.addr
    let out := unsubscribeLoop cfg client addr pkt.topicFilters b
    let b := { out.2 with sessions := out.2.sessions.save client.clientID }
    b.send c (.unsuback pkt.packetID)

/-! ### The end of a connection -/

/-- Whether a DISCONNECT asks for the will to be published. -/
def keepsWill (client : Client) (data : Bytes) : Bool :=
  client.protocolVersion = 5 && 0 < data.length &&
    match decodeDisconnectPacket data with
    | .ok pkt => pkt.reasonCode = 0x04
    | .error _ => false

/-- Handle a DISCONNECT of a client; the connection ends after that. -/
def handleDisconnect (c : ℕ) (data : Bytes) : BrokerState σ ρ :=
  match b.conns.lookup c with
  | none => b
  | some client =>
    if keepsWill client data then b
    else
      let b := b.modifyClient c fun client => { client with will := none }
      { b with willStore := b.willStore.map fun ws => ws.delete client.clientID }

/-- Publish the will of a connection that ends. -/
def publishWill (client : Client) (now : ℤ) : BrokerState σ ρ :=
  match client.will with
  | none => b
  | some will =>
    -- the interceptors are not asked
    let b := if will.retain then b.retainSet will.topic will.payload will.qos else b
    let b := b.routeMessage cfg will.topic will.payload will.qos false false now
    { b with willStore := b.willStore.map fun ws => ws.delete client.clientID }

/-- End the session of a client, or mark it as disconnected.  Storage is left alone once the
broker shuts down. -/
def endSession (clientID : Str) (now : ℤ) : BrokerState σ ρ :=
  match b.sessions.get clientID with
  | none => b
  | some session =>
    if session.expiryInterval = 0 then
      { b with
        subscriptions := b.subscriptions.removeAll clientID
        sessions := b.sessions.remove clientID
        offlineStore := if b.done then b.offlineStore else b.offlineStore.removeAll clientID }
    else if b.done then b
    else { b with sessions := b.sessions.markDisconnected clientID now }

/-- Notify the interceptors of the end of a connection. -/
def notifyDisconnect (c : ℕ) (client : Client) : BrokerState σ ρ :=
  let reason := if client.will = none then str "clean" else str "error"
  let evt : DisconnectEvent := ⟨client.clientID, reason, cfg.remoteAddr c⟩
  { b with interceptors := b.interceptors.map fun s => cfg.hooks.onDisconnect evt s }

/-- The end of a connection. -/
def close (c : ℕ) (now : ℤ) : BrokerState σ ρ :=
  match b.conns.lookup c with
  | none => b
  | some client =>
    if client.closed then b
    else
      let b := b.modifyClient c fun client => { client with closed := true }
      if client.clientID = [] then b
      else
        let b := b.unregisterClient c
        let b := b.notifyDisconnect cfg c client
        let b := b.publishWill cfg client now
        -- by client ID, whichever connection is registered for it now
        b.endSession client.clientID now

/-! ### The session reaper -/

/-- Remove what is left of an expired session (`session_reaper.go`). -/
def reap (clientID : Str) : BrokerState σ ρ :=
  { b with
    subscriptions := (b.subscriptions.clientFilters clientID).foldl
      (fun idx filter => idx.remove clientID filter) b.subscriptions
    offlineStore := b.offlineStore.removeAll clientID
    sessions := b.sessions.remove clientID }

/-- Remove the expired sessions. -/
def sweep (now : ℤ) : BrokerState σ ρ :=
  (b.sessions.expiredSessions now).foldl (fun b clientID => b.reap clientID) b

/-! ### Frames -/

lemma effectiveClientID_ne_nil {c : ℕ} (hauto : cfg.autoID c ≠ []) (pkt : ConnectPacket) :
    effectiveClientID cfg c pkt ≠ [] := by
  rw [effectiveClientID]
  split_ifs with hnil
  · exact hauto
  · exact hnil

lemma endSession_eq (clientID : Str) (now : ℤ) :
    ∃ subscriptions sessions offlineStore, b.endSession clientID now =
      { b with subscriptions := subscriptions, sessions := sessions,
               offlineStore := offlineStore } := by
  rw [endSession]
  cases b.sessions.get clientID with
  | none => exact ⟨_, _, _, rfl⟩
  | some session =>
    dsimp only
    split_ifs <;> exact ⟨_, _, _, rfl⟩

/-- The loop over the filters writes what is granted to the index and to the session. -/
lemma subscribeLoop_eq (client : Client) (addr : Option ℕ) (subs : List Subscription) :
    ∃ idx r s, ∃ granted : List (ℕ × Str × UInt8), (subscribeLoop cfg client addr subs b).2 =
      { b with
        subscriptions := idx
        rateLimiter := r
        interceptors := s
        sessions := granted.foldl (fun ss g => ss.setSubscription client.clientID g.1 g.2.1 g.2.2)
          b.sessions } := by
  induction subs generalizing b with
  | nil => exact ⟨_, _, _, [], rfl⟩
  | cons sub subs ih =>
    obtain ⟨idx, r, s, granted, heq⟩ := ih (b.subscribeOne cfg client addr sub).2
    rw [subscribeLoop, heq, subscribeOne]
    rcases grant cfg client sub (b.rateLimiter, b.interceptors) with ⟨_ | ⟨filter, qos⟩, a⟩
    · exact ⟨idx, r, s, granted, rfl⟩
    · cases addr with
      | none => exact ⟨idx, r, s, granted, rfl⟩
      | some addr => exact ⟨idx, r, s, (addr, filter, qos) :: granted, rfl⟩

variable {b} in
/-- After the loop over the filters, a SUBSCRIBE writes the session and sends packets. -/
lemma stores_handleSubscribe {c : ℕ} {client : Client} (hc : b.conns.lookup c = some client)
    (pkt : SubscribePacket) :
    let out := subscribeLoop cfg client ((b.sessions.get client.clientID).map Session.addr)
      pkt.subscriptions b
    (b.handleSubscribe cfg c pkt).stores =
      stores { out.2 with sessions := out.2.sessions.save client.clientID } := by
  have hsub : ∀ (b : BrokerState σ ρ) (sub : Subscription),
      (b.sendRetained c sub.topicFilter).stores = b.stores := fun b sub =>
    foldl_frame stores (fun b msg => b.stores_send c (retainedPublish msg)) _ b
  rw [handleSubscribe, hc]
  exact (foldl_frame stores hsub pkt.subscriptions _).trans (stores_send _ c _)

/-- The end of a connection that is open and has a client ID, up to the end of the session. -/
def leave (c : ℕ) (client : Client) (now : ℤ) : BrokerState σ ρ :=
  (((b.modifyClient c fun client => { client with closed := true }).unregisterClient
    c).notifyDisconnect cfg c client).publishWill cfg client now

variable {b} in
lemma close_eq {c : ℕ} {client : Client} (hc : b.conns.lookup c = some client)
    (hopen : client.closed = false) (hid : client.clientID ≠ []) (now : ℤ) :
    b.close cfg c now = (b.leave cfg c client now).endSession client.clientID now := by
  rw [close, hc]
  dsimp only
  rw [if_neg (by simp [hopen]), if_neg hid]
  rfl

/-- A connection that is not there or is closed does not end; without a client ID it is closed
only. -/
lemma close_cases (c : ℕ) (now : ℤ) :
    (b.close cfg c now = b ∧ ∀ client, b.conns.lookup c = some client → client.closed = true) ∨
    ∃ client, b.conns.lookup c = some client ∧ client.closed = false ∧
      ((client.clientID = [] ∧
        b.close cfg c now = b.modifyClient c fun client => { client with closed := true }) ∨
      (client.clientID ≠ [] ∧
        b.close cfg c now = (b.leave cfg c client now).endSession client.clientID now)) := by
  cases hc : b.conns.lookup c with
  | none => exact Or.inl ⟨by rw [close, hc], by simp⟩
  | some client =>
    cases hopen : client.closed with
    | true => exact Or.inl ⟨by simp [close, hc, hopen], by simp [hopen]⟩
    | false =>
      refine Or.inr ⟨client, rfl, hopen, ?_⟩
      by_cases hid : client.clientID = []
      · exact Or.inl ⟨hid, by simp [close, hc, hopen, hid]⟩
      · exact Or.inr ⟨hid, close_eq cfg hc hopen hid now⟩

/-- A part of the state that the way of a message through the broker leaves alone. -/
structure Bystander {V : Type} (view : BrokerState σ ρ → V) : Prop where
  send : ∀ b c pkt, view (send b c pkt) = view b
  routeMessage : ∀ b topic payload qos retain forwarded now,
    view (routeMessage cfg b topic payload qos retain forwarded now) = view b
  rest : ∀ (b : BrokerState σ ρ) retainStore dedupStore willStore rateLimiter interceptors calls,
    view { b with retainStore := retainStore, dedupStore := dedupStore, willStore := willStore,
                  rateLimiter := rateLimiter, interceptors := interceptors, calls := calls } =
      view b

namespace Bystander

variable {V : Type} {cfg} {view : BrokerState σ ρ → V} (h : Bystander cfg view)
include h

lemma interceptAndRoute (evt : PublishEvent) (now : ℤ) :
    view (b.interceptAndRoute cfg evt now) = view b := by
  rw [BrokerState.interceptAndRoute]
  cases b.interceptors with
  | none => exact h.routeMessage ..
  | some s =>
    dsimp only
    split
    · exact h.rest b ..
    · exact (h.routeMessage ..).trans (h.rest b ..)

lemma storeAndRoute (client : Client) (fh : FixedHeader) (pkt : PublishPacket) (now : ℤ) :
    view (b.storeAndRoute cfg client fh pkt now) = view b := by
  rw [BrokerState.storeAndRoute]
  refine (h.interceptAndRoute ..).trans ?_
  split_ifs
  · exact h.rest b ..
  · rfl

lemma acknowledge (c : ℕ) (clientID : Str) (qos : UInt8) (packetID : UInt16) (now : ℤ) :
    view (b.acknowledge c clientID qos packetID now).2 = view b := by
  rw [BrokerState.acknowledge]
  dsimp only
  split_ifs
  · exact h.send b c _
  · exact (h.send ..).trans (h.rest b ..)
  · exact (h.send ..).trans (h.rest b ..)
  · rfl

lemma handlePublish (c : ℕ) (fh : FixedHeader) (data : Bytes) (now : ℤ) :
    view (b.handlePublish cfg c fh data now) = view b := by
  rw [BrokerState.handlePublish]
  split
  · rename_i client pkt _ _
    have hack := h.acknowledge b c client.clientID fh.qos pkt.packetID now
    dsimp only
    split_ifs
    · rw [← hack, checkPublish]
      split_ifs
      · rfl
      · dsimp only
        split
        · exact h.rest _ ..
        · exact (h.storeAndRoute ..).trans (h.rest _ ..)
    · exact hack
  · rfl

lemma publishWill (client : Client) (now : ℤ) : view (b.publishWill cfg client now) = view b := by
  rw [BrokerState.publishWill]
  cases client.will with
  | none => rfl
  | some will =>
    refine (h.rest _ ..).trans ((h.routeMessage ..).trans ?_)
    split_ifs
    · exact h.rest b ..
    · rfl

end Bystander

end Dmqtt.Broker.BrokerState
