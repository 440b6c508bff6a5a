/-
What a connection is, apart from what was sent on it.

Sending and delivering touch the packet IDs, the deliveries in flight and the record of what was
sent.  The rest of a connection, its `Profile`, is set by the handshake, changed by a DISCONNECT,
and closed in the end (`profile_close`).  A fact that only depends on the profile is not changed by
what is sent.
-/
import Dmqtt.Broker.Mediation

namespace Dmqtt.Broker

open Lib Codec Plugin

/-- What a connection is, apart from what was sent on it. -/
structure Profile where
  clientID : Str
  username : Str
  will : Option WillMessage
  protocolVersion : UInt8
  closed : Bool

/-- The profile of a connection. -/
def Client.profile (client : Client) : Profile :=
  ⟨client.clientID, client.username, client.will, client.protocolVersion, client.closed⟩

namespace BrokerState

variable {σ ε ρ : Type} (cfg : Config σ ε ρ) (b : BrokerState σ ρ)

/-- The profile of the connection with a number. -/
def profile (c : ℕ) : Option Profile := (b.conns.lookup c).map Client.profile

variable {b} in
lemma profile_eq_some {c : ℕ} {client : Client} (hc : b.conns.lookup c = some client) :
    b.profile c = some client.profile := by
  rw [profile, hc]
  rfl

variable (c : ℕ) (topic : Str) (payload : Bytes) (qos : UInt8) (now : ℤ) (clientID : Str)
  (pkt : ConnectPacket) (c' : ℕ)

lemma profile_modifyClient {f : Client → Client} {g : Profile → Profile}
    (hf : ∀ client, (f client).profile = g client.profile) :
    (b.modifyClient c f).profile c' = if c' = c then (b.profile c).map g else b.profile c' :=
  b.map_lookup_modifyClient Client.profile c c' hf

lemma profile_modifyClient_of_eq {f : Client → Client}
    (hf : ∀ client, (f client).profile = client.profile) :
    (b.modifyClient c f).profile = b.profile :=
  funext fun c' => b.map_lookup_modifyClient_of_eq Client.profile c c' hf

@[simp] lemma profile_send (pkt : Outgoing) : (b.send c pkt).profile = b.profile := by
  cases hc : b.conns.lookup c with
  | none => rw [send, hc]
  | some client =>
    by_cases hopen : client.closed = true
    · rw [send, hc]
      dsimp only
      rw [if_pos hopen]
      rfl
    · have heq : b.send c pkt =
          b.modifyClient c fun client => { client with sent := client.sent ++ [pkt] } := by
        rw [send, modifyClient, hc]
        dsimp only
        rw [if_neg hopen]
      rw [heq]
      exact b.profile_modifyClient_of_eq c fun _ => rfl

lemma profile_sendDisconnectAndClose (reasonCode : UInt8) :
    (b.sendDisconnectAndClose c reasonCode).profile = b.profile := by
  rw [sendDisconnectAndClose]
  cases b.conns.lookup c with
  | none => rfl
  | some client =>
    dsimp only
    split_ifs
    · exact b.profile_send _ _
    · rfl

lemma profile_disconnectExisting : (b.disconnectExisting clientID).profile = b.profile := by
  rw [disconnectExisting]
  cases b.clients.lookup clientID with
  | none => rfl
  | some existing => exact (profile_sendDisconnectAndClose _ existing _).trans rfl

@[simp] lemma profile_deliverMessage :
    (b.deliverMessage c topic payload qos now).profile = b.profile := by
  rw [deliverMessage]
  cases b.conns.lookup c with
  | none => rfl
  | some client =>
    dsimp only
    split_ifs
    · rw [profile_send]
      exact b.profile_modifyClient_of_eq c fun _ => rfl
    · exact b.profile_modifyClient_of_eq c fun _ => rfl
    · exact b.profile_send _ _

lemma profile_deliver (d : ℕ × Str × UInt8) :
    (b.deliver cfg topic payload now d).profile = b.profile := by
  rw [deliver]
  cases b.interceptors with
  | none => exact b.profile_deliverMessage _ _ _ _ _
  | some s =>
    dsimp only
    split
    · rfl
    · exact (profile_deliverMessage _ _ _ _ _ _).trans rfl

lemma profile_routeMessage (retain forwarded : Bool) (now : ℤ) :
    (b.routeMessage cfg topic payload qos retain forwarded now).profile = b.profile := by
  have hqueue : ∀ (b : BrokerState σ ρ) (d : Str × UInt8),
      (b.enqueueOffline topic payload now d).profile = b.profile := fun _ _ => rfl
  rw [routeMessage]
  rw [foldl_frame profile hqueue,
    foldl_frame profile fun b d => b.profile_deliver cfg topic payload now d]
  rfl

lemma bystander_profile : Bystander cfg (profile : BrokerState σ ρ → _) where
  send b c pkt := b.profile_send c pkt
  routeMessage b _ _ _ _ _ _ := b.profile_routeMessage cfg ..
  rest _ _ _ _ _ _ _ := rfl

/-! ### SUBSCRIBE and DISCONNECT -/

lemma profile_handleSubscribe (pkt : SubscribePacket) :
    (b.handleSubscribe cfg c pkt).profile = b.profile := by
  rw [handleSubscribe]
  cases b.conns.lookup c with
  | none => rfl
  | some client =>
    have hretained : ∀ (b : BrokerState σ ρ) (sub : Subscription),
        (b.sendRetained c sub.topicFilter).profile = b.profile := fun b sub =>
      foldl_frame profile (fun b msg => b.profile_send c (retainedPublish msg)) _ b
    obtain ⟨_, _, _, _, hloop⟩ := b.subscribeLoop_eq cfg client
      ((b.sessions.get client.clientID).map Session.addr) pkt.subscriptions
    rw [foldl_frame profile hretained, profile_send, hloop]
    rfl

/-- A DISCONNECT withdraws the will, unless it asks for it. -/
lemma profile_handleDisconnect {c : ℕ} {client : Client} (hc : b.conns.lookup c = some client)
    (data : Bytes) (c' : ℕ) :
    (b.handleDisconnect c data).profile c' =
      if c' = c ∧ keepsWill client data = false then
        some { client.profile with will := none }
      else b.profile c' := by
  rw [handleDisconnect, hc]
  dsimp only
  by_cases hkeep : keepsWill client data = true
  · rw [if_pos hkeep, if_neg fun h => by simp [hkeep] at h]
  · rw [if_neg hkeep]
    refine (b.profile_modifyClient c c' (g := fun p => { p with will := none })
      fun _ => rfl).trans ?_
    rw [profile_eq_some hc]
    simp [hkeep]

/-! ### The handshake -/

lemma profile_finishConnect (sessionPresent : Bool) (now : ℤ) :
    (b.finishConnect cfg c clientID pkt sessionPresent now).2.profile = b.profile := by
  have haccept : ∀ b : BrokerState σ ρ,
      (b.acceptConnect c clientID pkt sessionPresent now).profile = b.profile := by
    intro b
    rw [acceptConnect]
    split_ifs
    · rw [drainOffline]
      rw [foldl_frame profile fun b (msg : OfflineMessage) =>
        b.profile_deliverMessage c msg.topic msg.payload msg.qos now]
      exact b.profile_send c _
    · exact b.profile_send c _
  rw [finishConnect]
  cases b.interceptors with
  | none => exact haccept b
  | some s =>
    dsimp only
    split
    · exact (profile_send _ c _).trans rfl
    · exact (haccept _).trans rfl

lemma profile_registerClient : (b.registerClient c).profile = b.profile := by
  obtain ⟨clients, h⟩ := b.registerClient_eq c
  rw [h]
  rfl

lemma profile_unregisterClient : (b.unregisterClient c).profile = b.profile := by
  obtain ⟨clients, h⟩ := b.unregisterClient_eq c
  rw [h]
  rfl

lemma profile_setWill :
    (b.setWill c clientID pkt).profile c' =
      if c' = c then (b.profile c).map fun p => { p with will := (willOf pkt).or p.will }
      else b.profile c' := by
  rw [setWill]
  cases willOf pkt with
  | none =>
    split_ifs with h
    · rw [h]
      simp
    · rfl
  | some will => exact b.profile_modifyClient c c' fun _ => rfl

/-! ### The end -/

lemma profile_close :
    (b.close cfg c now).profile c' =
      if c' = c then (b.profile c).map fun p => { p with closed := true } else b.profile c' := by
  have hmod := b.profile_modifyClient c c' (g := fun p => { p with closed := true })
    (f := fun client => { client with closed := true }) fun _ => rfl
  rcases b.close_cases cfg c now with ⟨heq, hclosed⟩ | ⟨client, hc, -, ⟨-, heq⟩ | ⟨-, heq⟩⟩
  · rw [heq]
    split_ifs with h
    · subst h
      cases hc : b.conns.lookup c' with
      | none => simp [profile, hc]
      | some client => simp [profile, hc, Client.profile, hclosed client hc]
    · rfl
  · rw [heq, hmod]
  · obtain ⟨_, _, _, hend⟩ := (b.leave cfg c client now).endSession_eq client.clientID now
    rw [heq, hend, ← hmod]
    have hleave : (b.leave cfg c client now).profile =
        (b.modifyClient c fun client => { client with closed := true }).profile :=
      ((bystander_profile cfg).publishWill _ client now).trans (profile_unregisterClient _ c)
    exact congrFun hleave c'

lemma profile_sweep : (b.sweep now).profile = b.profile :=
  foldl_frame profile (fun _ _ => by rfl) _ b

end BrokerState

end Dmqtt.Broker
