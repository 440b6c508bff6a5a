/-
The session reaper against the clients that are connected.

The reaper removes the sessions that have been marked disconnected for longer than their expiry
interval.  A session that is resumed stays marked, and a connection that ends marks the session
of its client ID even if another connection is registered for it.  `sweep_keeps_connected` is
about the runs in which neither happens to a session that can expire: there no sweep touches
what the broker holds for a connected client.
-/
import Dmqtt.Broker.Handshake

namespace Dmqtt.Broker

open Lib Codec Plugin

/-- The session is never due, whatever the time. -/
def Session.Lasting (s : Session) : Prop :=
  s.disconnectedAt = none ∨ s.expiryInterval = neverExpires

lemma Session.Lasting.not_expired {s : Session} (h : s.Lasting) (now : ℤ) :
    s.expired now = false := by
  rw [Session.expired]
  rcases h with h | h
  · rw [h]
  · cases s.disconnectedAt <;> simp [h]

/-- What happens at the broker. -/
inductive Op
  | accept (c : ℕ)
  | connect (c : ℕ) (pkt : ConnectPacket) (now : ℤ)
  | publish (c : ℕ) (fh : FixedHeader) (data : Bytes) (now : ℤ)
  | subscribe (c : ℕ) (pkt : SubscribePacket)
  | disconnect (c : ℕ) (data : Bytes)
  | close (c : ℕ) (now : ℤ)
  | sweep (now : ℤ)

namespace BrokerState

variable {σ ε ρ : Type} (cfg : Config σ ε ρ) (b : BrokerState σ ρ)

/-- One operation. -/
def step : Op → BrokerState σ ρ
  | .accept c => b.accept cfg c
  | .connect c pkt now => (b.handleConnect cfg c pkt now).2
  | .publish c fh data now => b.handlePublish cfg c fh data now
  | .subscribe c pkt => b.handleSubscribe cfg c pkt
  | .disconnect c data => b.handleDisconnect c data
  | .close c now => b.close cfg c now
  | .sweep now => b.sweep now

/-- What the broker holds for a client: its session, its subscriptions and its offline queue. -/
def held (clientID : Str) :
    Option Session × ((Str → List SubscriptionEntry) × List Str) × List OfflineMessage :=
  (b.sessions.get clientID, b.subscriptions.heldFor clientID, b.offlineStore.queue clientID)

/-- A CONNECT does not resume a session that is marked disconnected and can expire, and a
connection does not end when another one is registered for its client ID, with a session that
can expire. -/
def Orderly : Op → Prop
  | .connect c pkt _ => pkt.cleanSession = false →
      ∀ s ∈ b.sessions.get (effectiveClientID cfg c pkt),
        s.disconnectedAt = none ∨ s.expiryInterval = neverExpires
  | .close c _ => ∀ client ∈ b.conns.lookup c, client.closed = false →
      ∀ c' ∈ b.clients.lookup client.clientID, c' ≠ c →
        ∀ s ∈ b.sessions.get client.clientID,
          s.expiryInterval = 0 ∨ s.expiryInterval = neverExpires
  | _ => True

instance (op : Op) : Decidable (Orderly cfg b op) :=
  match op with
  | .connect _ pkt _ => inferInstanceAs (Decidable (pkt.cleanSession = false → ∀ s ∈ _, _))
  | .close c _ => inferInstanceAs (Decidable (∀ client ∈ b.conns.lookup c, _ → ∀ c' ∈ _, _))
  | .accept _ | .publish _ _ _ _ | .subscribe _ _ | .disconnect _ _ | .sweep _ => isTrue trivial

/-- The sessions of the clients that are registered are never due. -/
def Live : Prop :=
  ∀ clientID c, b.clients.lookup clientID = some c →
    ∀ s, b.sessions.get clientID = some s → s.Lasting

/-! ### The sweep -/

variable {clientID : Str} {b' : BrokerState σ ρ} {now : ℤ} (client : Client) (addr : Option ℕ)
  (c : ℕ)

lemma held_reap {clientID' : Str} (h : clientID ≠ clientID') :
    (b.reap clientID').held clientID = b.held clientID := by
  rw [held, held, reap]
  rw [SessionStore.get_remove, if_neg h]
  congr 2
  · exact foldl_frame (fun idx => SubscriptionIndex.heldFor idx clientID)
      (fun idx filter => idx.heldFor_remove h filter) _ _
  · rw [OfflineStore.queue, OfflineStore.removeAll, AList.lookup_erase_ne h, OfflineStore.queue]

variable {b} in
/-- A sweep leaves alone what is held for the clients whose sessions are not due. -/
lemma Live.held_sweep (hb : b.Live) (now : ℤ) {c : ℕ} (hc : b.clients.lookup clientID = some c) :
    (b.sweep now).held clientID = b.held clientID := by
  refine foldl_frame_of_mem (fun b => held b clientID) ?_ b
  intro b' clientID' hmem
  -- the list of due sessions was made in the state `b`
  obtain ⟨s, hs, hexp⟩ := b.sessions.mem_expiredSessions.1 hmem
  refine b'.held_reap ?_
  rintro rfl
  rw [(hb clientID c hc s hs).not_expired now] at hexp
  cases hexp

/-! ### What the operations do to registrations and sessions -/

/-- The registrations, the sessions, and whether the broker shuts down. -/
def liveness : GoMap Str ℕ × SessionStore × Bool := (b.clients, b.sessions, b.done)

variable {b} in
lemma liveness_eq (h : b'.stores = b.stores) : b'.liveness = b.liveness :=
  congrArg (fun b => (b.clients, b.sessions, b.done)) h

lemma liveness_modifyClient (f : Client → Client) : (b.modifyClient c f).liveness = b.liveness :=
  liveness_eq (b.stores_modifyClient c f)

lemma liveness_routeMessage (topic : Str) (payload : Bytes) (qos : UInt8)
    (retain forwarded : Bool) (now : ℤ) :
    (b.routeMessage cfg topic payload qos retain forwarded now).liveness = b.liveness :=
  congrArg (fun b => (b.clients, b.sessions, b.done))
    (b.unrouted_routeMessage cfg topic payload qos retain forwarded now)

lemma bystander_liveness : Bystander cfg (liveness : BrokerState σ ρ → _) where
  send b c pkt := liveness_eq (b.stores_send c pkt)
  routeMessage b _ _ _ _ _ _ := b.liveness_routeMessage cfg ..
  rest _ _ _ _ _ _ _ := rfl

lemma liveness_handleDisconnect (data : Bytes) :
    (b.handleDisconnect c data).liveness = b.liveness := by
  rw [handleDisconnect]
  cases b.conns.lookup c with
  | none => rfl
  | some client =>
    dsimp only
    split_ifs
    · rfl
    · exact b.liveness_modifyClient c _

lemma liveness_unregisterClient {c : ℕ} {client : Client} (hc : b.conns.lookup c = some client) :
    (b.unregisterClient c).liveness =
      (if b.clients.lookup client.clientID = some c then b.clients.erase client.clientID
        else b.clients, b.sessions, b.done) := by
  rw [unregisterClient, hc]
  dsimp only
  split_ifs <;> rfl

/-- A connection that ends is unregistered. -/
lemma liveness_leave {c : ℕ} {client : Client} (hc : b.conns.lookup c = some client) (now : ℤ) :
    (b.leave cfg c client now).liveness =
      (if b.clients.lookup client.clientID = some c then b.clients.erase client.clientID
        else b.clients, b.sessions, b.done) := by
  have hmod := b.liveness_modifyClient c fun client => { client with closed := true }
  have hlookup : (b.modifyClient c fun client => { client with closed := true }).conns.lookup c =
      some { client with closed := true } := by
    simp [modifyClient, hc]
  refine ((bystander_liveness cfg).publishWill _ client now).trans ?_
  generalize b.modifyClient c (fun client => { client with closed := true }) = b₁
    at hmod hlookup ⊢
  refine (b₁.liveness_unregisterClient hlookup).trans ?_
  simp only [liveness, Prod.mk.injEq] at hmod
  rw [hmod.1, hmod.2.1, hmod.2.2]

/-- The end of a connection changes nothing here, or unregisters the connection and ends the
session of its client ID. -/
lemma liveness_close (now : ℤ) :
    (b.close cfg c now).liveness = b.liveness ∨
    ∃ client, b.conns.lookup c = some client ∧ client.closed = false ∧
      ∃ b₁ : BrokerState σ ρ, b₁.liveness =
        (if b.clients.lookup client.clientID = some c then b.clients.erase client.clientID
          else b.clients, b.sessions, b.done) ∧
        b.close cfg c now = b₁.endSession client.clientID now := by
  rcases b.close_cases cfg c now with ⟨heq, -⟩ | ⟨client, hc, hopen, ⟨-, heq⟩ | ⟨-, heq⟩⟩
  · exact Or.inl (by rw [heq])
  · exact Or.inl (by rw [heq, liveness_modifyClient])
  · exact Or.inr ⟨client, hc, hopen, _, b.liveness_leave cfg hc now, heq⟩

lemma sessions_endSession {session : Session} (hs : b.sessions.get clientID = some session)
    (now : ℤ) :
    (b.endSession clientID now).sessions =
      if session.expiryInterval = 0 then b.sessions.remove clientID
      else if b.done then b.sessions
      else b.sessions.markDisconnected clientID now := by
  rw [endSession, hs]
  dsimp only
  split_ifs <;> rfl

/-- What is left of the sessions when that of `clientID` has ended. -/
lemma get_endSession {clientID' : Str} {s : Session}
    (h : (b.endSession clientID now).sessions.get clientID' = some s) :
    ∃ s₀, b.sessions.get clientID' = some s₀ ∧ s.expiryInterval = s₀.expiryInterval ∧
      (clientID' ≠ clientID → s = s₀) ∧ (clientID' = clientID → s₀.expiryInterval ≠ 0) := by
  cases hs : b.sessions.get clientID with
  | none =>
    rw [endSession, hs] at h
    refine ⟨s, h, rfl, fun _ => rfl, ?_⟩
    rintro rfl
    cases hs.symm.trans h
  | some session =>
    rw [b.sessions_endSession hs] at h
    split_ifs at h with hexp hdone
    · -- removed
      rw [SessionStore.get_remove] at h
      split_ifs at h with hid
      exact ⟨s, h, rfl, fun _ => rfl, fun heq => absurd heq hid⟩
    · refine ⟨s, h, rfl, fun _ => rfl, ?_⟩
      rintro rfl
      cases hs.symm.trans h
      exact hexp
    · -- marked
      rw [SessionStore.get_markDisconnected] at h
      split_ifs at h with hid
      · subst hid
        rw [hs] at h
        cases h
        exact ⟨session, hs, rfl, fun hne => absurd rfl hne, fun _ => hexp⟩
      · exact ⟨s, h, rfl, fun _ => rfl, fun heq => absurd heq hid⟩

lemma clients_endSession (clientID : Str) (now : ℤ) :
    (b.endSession clientID now).clients = b.clients := by
  obtain ⟨_, _, _, h⟩ := b.endSession_eq clientID now
  rw [h]

/-- When the sessions were marked disconnected, and their expiry intervals. -/
def marks (clientID : Str) : Option (Option ℤ × UInt32) :=
  (b.sessions.get clientID).map fun s => (s.disconnectedAt, s.expiryInterval)

variable {b} in
lemma marks_eq (h : b'.liveness = b.liveness) : b'.marks = b.marks :=
  congrArg (fun x => fun clientID =>
    (x.2.1.get clientID).map fun s => (s.disconnectedAt, s.expiryInterval)) h

variable {b} in
lemma liveness_handleSubscribe {c : ℕ} {client : Client} (hc : b.conns.lookup c = some client)
    (pkt : SubscribePacket) :
    let out := subscribeLoop cfg client ((b.sessions.get client.clientID).map Session.addr)
      pkt.subscriptions b
    (b.handleSubscribe cfg c pkt).liveness =
      (out.2.clients, out.2.sessions.save client.clientID, out.2.done) :=
  liveness_eq (stores_handleSubscribe cfg hc pkt)

lemma liveness_handleSubscribe_cases (c : ℕ) (pkt : SubscribePacket) :
    b.handleSubscribe cfg c pkt = b ∨
      ∃ clientID, ∃ granted : List (ℕ × Str × UInt8), (b.handleSubscribe cfg c pkt).liveness =
        (b.clients, (granted.foldl (fun ss g => ss.setSubscription clientID g.1 g.2.1 g.2.2)
          b.sessions).save clientID, b.done) := by
  cases hc : b.conns.lookup c with
  | none => exact Or.inl (by rw [handleSubscribe, hc])
  | some client =>
    obtain ⟨_, _, _, granted, hloop⟩ := b.subscribeLoop_eq cfg client
      ((b.sessions.get client.clientID).map Session.addr) pkt.subscriptions
    have hlive := liveness_handleSubscribe cfg hc pkt
    dsimp only at hlive
    rw [hloop] at hlive
    exact Or.inr ⟨client.clientID, granted, hlive⟩

lemma marks_handleSubscribe (pkt : SubscribePacket) :
    (b.handleSubscribe cfg c pkt).clients = b.clients ∧
      (b.handleSubscribe cfg c pkt).marks = b.marks := by
  rcases b.liveness_handleSubscribe_cases cfg c pkt with heq | ⟨id, granted, hlive⟩
  · rw [heq]
    exact ⟨rfl, rfl⟩
  · refine ⟨congrArg Prod.fst hlive, funext fun clientID => ?_⟩
    have hget := congrArg (fun x => (x.2.1.get clientID).map
      fun s => (s.disconnectedAt, s.expiryInterval)) hlive
    refine hget.trans ?_
    simp only [SessionStore.get_save]
    refine foldl_frame (fun ss : SessionStore => (ss.get clientID).map
      fun s => (s.disconnectedAt, s.expiryInterval)) (fun ss g => ?_) granted b.sessions
    exact ss.map_get_setSubscription (fun _ _ => rfl) ..

/-! ### Registered clients have sessions that are not due -/

variable {b}

lemma Live.of_marks (hb : b.Live) (hclients : b'.clients = b.clients) (hmarks : b'.marks = b.marks)
    : b'.Live := by
  intro clientID c hc s hs
  rw [hclients] at hc
  have h := congrFun hmarks clientID
  rw [marks, marks, hs] at h
  obtain ⟨s₀, hs₀, heq⟩ := Option.map_eq_some_iff.1 h.symm
  have hlast := hb clientID c hc s₀ hs₀
  rw [Prod.mk.injEq] at heq
  rw [Session.Lasting, heq.1, heq.2] at hlast
  exact hlast

lemma Live.of_liveness (hb : b.Live) (h : b'.liveness = b.liveness) : b'.Live :=
  hb.of_marks (congrArg Prod.fst h) (marks_eq h)

lemma Live.connect (hb : b.Live) {c : ℕ} {pkt : ConnectPacket}
    (ho : Orderly cfg b (.connect c pkt now)) : (b.handleConnect cfg c pkt now).2.Live := by
  rcases b.handleConnect_cases cfg c pkt now with h | h
  · exact hb.of_liveness (liveness_eq h)
  rw [h]
  intro clientID c' hc' s hs
  rcases eq_or_ne clientID (effectiveClientID cfg c pkt) with rfl | hne
  · -- the client that connects: its session is resumed unmarked, or new
    rcases b.establish_cases cfg c (effectiveClientID cfg c pkt) pkt now with
      ⟨existing, hget, hclean, hsess⟩ | ⟨-, hsess, -⟩
    · rw [hsess] at hs
      exact ho hclean s hs
    · rw [hsess, SessionStore.get_create, if_pos rfl] at hs
      cases hs
      exact Or.inl rfl
  · -- the others keep their registrations and sessions
    rw [b.lookup_clients_establish cfg c hne] at hc'
    rcases b.establish_cases cfg c (effectiveClientID cfg c pkt) pkt now with
      ⟨existing, hget, hclean, hsess⟩ | ⟨-, hsess, -⟩
    · rw [hsess] at hs
      exact hb clientID c' hc' s hs
    · rw [hsess, SessionStore.get_create, if_neg hne] at hs
      exact hb clientID c' hc' s hs

lemma Live.close (hb : b.Live) {c : ℕ} (ho : Orderly cfg b (.close c now)) :
    (b.close cfg c now).Live := by
  rcases b.liveness_close cfg c now with h | ⟨client, hc, hopen, b₁, hlive, heq⟩
  · exact hb.of_liveness h
  rw [heq]
  intro clientID c' hc' s hs
  obtain ⟨s₀, hs₀, hexp, hother, hsame⟩ := b₁.get_endSession hs
  obtain ⟨hclients, hrest⟩ := Prod.ext_iff.1 hlive
  have hsess : b₁.sessions = b.sessions := congrArg Prod.fst hrest
  rw [hsess] at hs₀
  rw [clients_endSession, show b₁.clients = _ from hclients] at hc'
  rcases eq_or_ne clientID client.clientID with rfl | hne
  · -- the client ID of the connection that ends: another connection is registered
    have hreg : b.clients.lookup client.clientID = some c' ∧ c' ≠ c := by
      split_ifs at hc' with hown
      · simp at hc'
      · refine ⟨hc', ?_⟩
        rintro rfl
        exact hown hc'
    rcases ho client hc hopen c' hreg.1 hreg.2 s₀ hs₀ with h | h
    · exact absurd h (hsame rfl)
    · exact Or.inr (hexp.trans h)
  · have hreg : b.clients.lookup clientID = some c' := by
      split_ifs at hc'
      · rwa [AList.lookup_erase_ne hne] at hc'
      · exact hc'
    rw [hother hne]
    exact hb clientID c' hreg s₀ hs₀

lemma clients_sweep (b : BrokerState σ ρ) (now : ℤ) : (b.sweep now).clients = b.clients :=
  foldl_frame BrokerState.clients (fun _ _ => by rfl) (b.sessions.expiredSessions now) b

lemma Live.sweep (hb : b.Live) (now : ℤ) : (b.sweep now).Live := by
  intro clientID c hc s hs
  rw [clients_sweep] at hc
  have hget : (b.sweep now).sessions.get clientID = b.sessions.get clientID :=
    congrArg Prod.fst (hb.held_sweep now hc)
  exact hb clientID c hc s (hget ▸ hs)

lemma Live.step (hb : b.Live) {op : Op} (ho : Orderly cfg b op) : (b.step cfg op).Live := by
  cases op with
  | accept c => exact hb
  | connect c pkt now => exact hb.connect cfg ho
  | publish c fh data now =>
    exact hb.of_liveness ((bystander_liveness cfg).handlePublish b c fh data now)
  | subscribe c pkt =>
    obtain ⟨hclients, hmarks⟩ := b.marks_handleSubscribe cfg c pkt
    exact hb.of_marks hclients hmarks
  | disconnect c data => exact hb.of_liveness (b.liveness_handleDisconnect c data)
  | close c now => exact hb.close cfg ho
  | sweep now => exact hb.sweep now

/-- In every run, from any state in which no client is registered, whose operations are all
orderly: no sweep removes or changes the session, the subscriptions or the offline queue of a
client that is registered. -/
theorem sweep_keeps_connected (b : BrokerState σ ρ) (hb : b.clients = ∅) (ops : List Op)
    (hops : ∀ x ∈ trace (step cfg) b ops, Orderly cfg x.1 x.2) :
    ∀ b' now, (b', Op.sweep now) ∈ trace (step cfg) b ops →
      ∀ clientID c, b'.clients.lookup clientID = some c →
        (b'.step cfg (.sweep now)).held clientID = b'.held clientID := by
  have hlive : b.Live := by
    intro clientID c hc
    simp [hb] at hc
  intro b' now hmem clientID c hc
  have hb' : b'.Live := trace_invariant Live (Orderly cfg) (fun b op hb ho => hb.step cfg ho) hlive
    hops (b', .sweep now) hmem
  exact hb'.held_sweep now hc

/-! ### Runs with sessions that expire -/

/-- A CONNECT of version 5 without clean start, for a session that expires after ten seconds. -/
def connectExpiring (clientID : String) : ConnectPacket where
  protocolName := str "MQTT"
  protocolLevel := 5
  cleanSession := false
  clientID := str clientID
  properties := some { sessionExpiryInterval := some 10 }

/-- The client `q` disconnects for good, and the client `p` stays. -/
def orderlyRun : List Op :=
  [.accept 0, .connect 0 (connectExpiring "p") 0, .subscribe 0 ⟨1, [⟨str "t", 1⟩], none⟩,
    .accept 1, .connect 1 (connectExpiring "q") 0, .disconnect 1 [], .close 1 second]

/-- The broker without interceptors after a run. -/
def afterRun (ops : List Op) : BrokerState TenantChain Unit :=
  ops.foldl (step sampleConfig) (new () none)

theorem sweep_keeps_connected_sample :
    (afterRun orderlyRun).sessions.expiredSessions (60 * second) = [str "q"] ∧
    ((afterRun orderlyRun).step sampleConfig (.sweep (60 * second))).held (str "p") =
      (afterRun orderlyRun).held (str "p") := by
  refine ⟨by decide, ?_⟩
  exact sweep_keeps_connected sampleConfig (new () none) rfl
    (orderlyRun ++ [.sweep (60 * second)]) (by decide) _ _ mem_trace_concat (str "p") 0 rfl

/-- The client `p` disconnects and comes back before its session expires. -/
def resumingRun : List Op :=
  [.accept 0, .connect 0 (connectExpiring "p") 0, .close 0 second,
    .accept 1, .connect 1 (connectExpiring "p") (2 * second)]

/-- A second connection of the client `p` takes over, before the first one has ended. -/
def takeoverRun : List Op :=
  [.accept 0, .connect 0 (connectExpiring "p") 0,
    .accept 1, .connect 1 (connectExpiring "p") second, .close 0 (2 * second)]

/-- In both runs a sweep removes the session of `p` while `p` is connected. -/
theorem sweep_removes_connected :
    (afterRun resumingRun).clients.lookup (str "p") = some 1 ∧
    ((afterRun resumingRun).sessions.get (str "p")).isSome ∧
    (((afterRun resumingRun).step sampleConfig (.sweep (60 * second))).sessions.get
      (str "p")).isNone ∧
    (afterRun takeoverRun).clients.lookup (str "p") = some 1 ∧
    ((afterRun takeoverRun).sessions.get (str "p")).isSome ∧
    (((afterRun takeoverRun).step sampleConfig (.sweep (60 * second))).sessions.get
      (str "p")).isNone := by
  decide

end BrokerState

end Dmqtt.Broker
