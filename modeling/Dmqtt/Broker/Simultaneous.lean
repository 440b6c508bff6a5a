/-
Connections that are established at the same time.

`handleConnect` unregisters the connection that is there, tells it to go, opens the session,
registers the new connection and answers; the handshakes of other connections can run between these
steps.  `iterate_advance` says that the steps of one connection alone are `handleConnect`.

A connection that is found in the way is told to go, but `registerClient` does not look whether
there is one.  `one_live_iff` says that this is the only way in which a connection is overlooked: at
most one connection of a client stays open exactly if those that were overwritten do not.
-/
import Dmqtt.Broker.Presence
import Dmqtt.Broker.Reaper

namespace Dmqtt.Broker

open Lib Codec Plugin

/-- How far a connection has come: in `handleConnect` up to `accepted` or `refused`, and then in
`close`. -/
inductive HandshakePC
  | idle
  | start
  | unregistered (existing : Option ℕ)
  | disconnected
  | opened (sessionPresent : Bool)
  | registered (sessionPresent : Bool)
  | answered (sessionPresent : Bool)
  | draining (msgs : List OfflineMessage)
  | accepted
  | refused
  | ended
deriving DecidableEq

namespace HandshakePC

/-- The connection has not been registered yet. -/
def early : HandshakePC → Bool
  | .idle => true
  | .start => true
  | .unregistered _ => true
  | .disconnected => true
  | .opened _ => true
  | _ => false

/-- The connection was registered, and has not ended or been refused. -/
def served : HandshakePC → Bool
  | .registered _ => true
  | .answered _ => true
  | .draining _ => true
  | .accepted => true
  | _ => false

/-- The connection has its client ID. -/
def named : HandshakePC → Bool
  | .unregistered _ => true
  | .disconnected => true
  | .opened _ => true
  | pc => pc.served

/-- The connection is not in the middle of its handshake. -/
def settled : HandshakePC → Bool
  | .idle => true
  | .accepted => true
  | .refused => true
  | .ended => true
  | _ => false

/-- From `pc` on to `pc'`, with no one unregistered or registered on the way. -/
structure Calm (pc pc' : HandshakePC) : Prop where
  idle : pc ≠ .idle
  pending : ∀ c, pc ≠ .unregistered (some c)
  named : pc'.named = true → pc.named = true
  early : pc.early = false → pc'.early = false
  served : pc'.served = true → pc.served = true

namespace Calm

/-- There was no connection to tell. -/
lemma disconnected : Calm (.unregistered none) .disconnected :=
  ⟨nofun, nofun, fun _ => rfl, nofun, nofun⟩

lemma opened (sessionPresent : Bool) : Calm .disconnected (.opened sessionPresent) :=
  ⟨nofun, nofun, fun _ => rfl, nofun, nofun⟩

lemma of_served {pc pc' : HandshakePC} (h : pc.served = true) (h' : pc'.early = false) :
    Calm pc pc' := by
  refine ⟨?_, ?_, fun _ => ?_, fun _ => h', fun _ => h⟩
  · rintro rfl
    cases h
  · rintro c rfl
    cases h
  · cases pc <;> first | rfl | cases h

end Calm

end HandshakePC

/-- The broker, how far the connections have come, and the connections whose sockets were closed;
`overwritten` lists those that were registered when another one was registered in their place. -/
structure Handshakes (σ ρ : Type) where
  broker : BrokerState σ ρ
  pc : ℕ → HandshakePC
  hungUp : List ℕ
  overwritten : List ℕ

namespace BrokerState

variable {σ ε ρ : Type} (cfg : Config σ ε ρ) (b : BrokerState σ ρ)

/-- The checks of a CONNECT up to the authentication. -/
def admits (pkt : ConnectPacket) : Bool :=
  !(pkt.protocolName ≠ str "MQTT" ∨ (pkt.protocolLevel ≠ 4 ∧ pkt.protocolLevel ≠ 5)) &&
    !(pkt.clientID = [] ∧ !pkt.cleanSession) && cfg.authenticate pkt.username pkt.password

/-- `OnConnect` and the CONNACK. -/
def answer (c : ℕ) (clientID : Str) (pkt : ConnectPacket) (sessionPresent : Bool) :
    Except (ConnectErr ε) Unit × BrokerState σ ρ :=
  let connack : Outgoing := .connack
    { sessionPresent, returnCode := connackAccepted, protocolVersion := pkt.protocolLevel }
  match b.interceptors with
  | none => (.ok (), b.send c connack)
  | some s =>
    let out := cfg.hooks.onConnect
      (⟨clientID, pkt.username, pkt.cleanSession, cfg.remoteAddr c⟩, s)
    let b := { b with interceptors := some out.2.2 }
    match out.1 with
    | .error err =>
      (.error (.interceptorRejected err),
        b.send c (.connack { returnCode := connackNotAuthorized }))
    | .ok () => (.ok (), b.send c connack)

end BrokerState

namespace Handshakes

open BrokerState

variable {σ ε ρ : Type} (cfg : Config σ ε ρ) (pkt : ℕ → ConnectPacket) (t : Handshakes σ ρ)

/-- The state before anything has happened. -/
def init (b : BrokerState σ ρ) : Handshakes σ ρ := ⟨b, fun _ => .idle, [], []⟩

/-- The client ID of a connection. -/
def clientID (c : ℕ) : Str := effectiveClientID cfg c (pkt c)

/-- A connection goes on. -/
def goto (c : ℕ) (b : BrokerState σ ρ) (pc : HandshakePC) : Handshakes σ ρ :=
  { t with broker := b, pc := Function.update t.pc c pc }

/-- The next step of the handshake of a connection. -/
def advance (c : ℕ) (now : ℤ) : Handshakes σ ρ :=
  let b := t.broker
  let id := clientID cfg pkt c
  match t.pc c with
  | .idle => t.goto c (b.accept cfg c) .start
  | .start =>
    if admits cfg (pkt c) then
      let b := b.modifyClient c fun client => { client with
        username := (pkt c).username
        clientID := id
        protocolVersion := (pkt c).protocolLevel }
      t.goto c { b with clients := b.clients.erase id } (.unregistered (b.clients.lookup id))
    else t.goto c (b.handleConnect cfg c (pkt c) now).2 .refused
  | .unregistered none => t.goto c b .disconnected
  | .unregistered (some existing) =>
    { t.goto c (b.sendDisconnectAndClose existing 0x8E) .disconnected with
      hungUp := existing :: t.hungUp }
  | .disconnected =>
    let out := b.openSession id (pkt c).cleanSession (expiryInterval (pkt c))
    t.goto c (out.2.setWill c id (pkt c)) (.opened out.1)
  | .opened sessionPresent =>
    -- whoever is registered by now
    { t.goto c (b.registerClient c) (.registered sessionPresent) with
      overwritten := (b.clients.lookup id).toList ++ t.overwritten }
  | .registered sessionPresent =>
    let out := b.answer cfg c id (pkt c) sessionPresent
    match out.1 with
    | .error _ => t.goto c out.2 .refused
    | .ok () => t.goto c out.2 (.answered sessionPresent)
  | .answered false => t.goto c b .accepted
  | .answered true =>
    let out := b.offlineStore.dequeue id 100 now
    t.goto c { b with offlineStore := out.2 } (.draining out.1)
  | .draining (msg :: msgs) =>
    t.goto c (b.deliverMessage c msg.topic msg.payload msg.qos now) (.draining msgs)
  | .draining [] => t.goto c b .accepted
  | .accepted => t
  | .refused => t
  | .ended => t

/-- The end of a connection whose handshake is over. -/
def hangUp (c : ℕ) (now : ℤ) : Handshakes σ ρ :=
  match t.pc c with
  | .accepted => t.goto c (t.broker.close cfg c now) .ended
  | .refused => t.goto c (t.broker.close cfg c now) .ended
  | _ => t

/-- A step of a handshake, or the end of a connection. -/
inductive Step
  | advance (c : ℕ) (now : ℤ)
  | hangUp (c : ℕ) (now : ℤ)

/-- One step.  A step that is not possible in the state changes nothing. -/
def step : Step → Handshakes σ ρ
  | .advance c now => t.advance cfg pkt c now
  | .hangUp c now => t.hangUp cfg c now

/-- The connection was accepted, has not ended, and its socket is open. -/
def Live (c : ℕ) : Prop := t.pc c = .accepted ∧ c ∉ t.hungUp

/-- No connection is in the middle of its handshake. -/
def Settled : Prop := ∀ c, (t.pc c).settled = true

/-! ### One connection alone -/

variable {t}

@[simp] lemma pc_goto (c : ℕ) (b : BrokerState σ ρ) (pc : HandshakePC) :
    (t.goto c b pc).pc c = pc := Function.update_self ..

lemma pc_goto_of_ne {c c' : ℕ} (h : c' ≠ c) (b : BrokerState σ ρ) (pc : HandshakePC) :
    (t.goto c b pc).pc c' = t.pc c' := Function.update_of_ne h ..

lemma finishConnect_eq (b : BrokerState σ ρ) (c : ℕ) (clientID : Str) (pkt : ConnectPacket)
    (sessionPresent : Bool) (now : ℤ) :
    b.finishConnect cfg c clientID pkt sessionPresent now =
      let out := b.answer cfg c clientID pkt sessionPresent
      (out.1, if out.1.isOk && sessionPresent then out.2.drainOffline c clientID now
        else out.2) := by
  rw [finishConnect, answer]
  cases b.interceptors with
  | none => cases sessionPresent <;> rfl
  | some s =>
    dsimp only
    cases (cfg.hooks.onConnect
      (⟨clientID, pkt.username, pkt.cleanSession, cfg.remoteAddr c⟩, s)).1 with
    | error err => rfl
    | ok u => cases sessionPresent <;> rfl

lemma handleConnect_of_admits (b : BrokerState σ ρ) (c : ℕ) {pkt : ConnectPacket} (now : ℤ)
    (h : admits cfg pkt = true) :
    b.handleConnect cfg c pkt now = b.establish cfg c (effectiveClientID cfg c pkt) pkt now := by
  simp only [admits, Bool.and_eq_true, Bool.not_eq_true', decide_eq_false_iff_not] at h
  rw [handleConnect, if_neg h.1.1, if_neg (by simpa using h.1.2), if_neg (by simp [h.2])]

/-- Any other CONNECT is answered with an error. -/
lemma handleConnect_of_not_admits (b : BrokerState σ ρ) (c : ℕ) {pkt : ConnectPacket} (now : ℤ)
    (h : admits cfg pkt = false) :
    ∃ err code, b.handleConnect cfg c pkt now =
      (.error err, b.send c (.connack { returnCode := code })) := by
  rw [handleConnect]
  split_ifs with h₁ h₂ h₃
  · exact ⟨_, _, rfl⟩
  · exact ⟨_, _, rfl⟩
  · exact ⟨_, _, rfl⟩
  · rw [admits, decide_eq_false h₁, decide_eq_false h₂] at h
    exact absurd (congrArg not h) h₃

variable (c : ℕ) (now : ℤ)

/-- A connection alone gets to a point of its handshake, with a state of the broker. -/
def Reaches (t : Handshakes σ ρ) (pc : HandshakePC) (b : BrokerState σ ρ) : Prop :=
  ∃ n, ((fun t => t.advance cfg pkt c now)^[n] t).pc c = pc ∧
    ((fun t => t.advance cfg pkt c now)^[n] t).broker = b

variable {cfg pkt c now} {pc : HandshakePC} {b : BrokerState σ ρ}

lemma Reaches.step (h : Reaches cfg pkt c now (t.advance cfg pkt c now) pc b) :
    Reaches cfg pkt c now t pc b := by
  obtain ⟨n, h⟩ := h
  exact ⟨n + 1, h⟩

lemma reaches_goto : Reaches cfg pkt c now (t.goto c b pc) pc b := ⟨0, pc_goto .., rfl⟩

/-- The queued messages are delivered one by one. -/
lemma reaches_draining {msgs : List OfflineMessage} (h : t.pc c = .draining msgs) :
    Reaches cfg pkt c now t .accepted (msgs.foldl
      (fun b msg => b.deliverMessage c msg.topic msg.payload msg.qos now) t.broker) := by
  induction msgs generalizing t with
  | nil =>
    refine .step ?_
    rw [advance, h]
    exact reaches_goto
  | cons msg msgs ih =>
    refine .step ?_
    rw [advance, h]
    exact ih (pc_goto ..)

lemma reaches_registered {sessionPresent : Bool} (h : t.pc c = .registered sessionPresent) :
    let out := t.broker.finishConnect cfg c (clientID cfg pkt c) (pkt c) sessionPresent now
    Reaches cfg pkt c now t (if out.1.isOk then .accepted else .refused) out.2 := by
  rw [finishConnect_eq]
  refine .step ?_
  rw [advance, h]
  dsimp only
  rcases t.broker.answer cfg c (clientID cfg pkt c) (pkt c) sessionPresent with ⟨_ | _, b⟩
  · exact reaches_goto
  · refine .step ?_
    rw [advance, pc_goto]
    cases sessionPresent with
    | false => exact reaches_goto
    | true => exact reaches_draining (pc_goto ..)

/-- The session is opened and the connection is registered. -/
lemma reaches_disconnected (h : t.pc c = .disconnected) :
    let out := t.broker.openSession (clientID cfg pkt c) (pkt c).cleanSession
      (expiryInterval (pkt c))
    let out := out.2.afterSession cfg c (clientID cfg pkt c) (pkt c) out.1 now
    Reaches cfg pkt c now t (if out.1.isOk then .accepted else .refused) out.2 := by
  refine .step ?_
  rw [advance, h]
  refine .step ?_
  rw [advance, pc_goto]
  exact reaches_registered (Function.update_self ..)

variable (cfg pkt c now) in
/-- The steps of one connection alone are `handleConnect`. -/
theorem iterate_advance (h : t.pc c = .start) :
    ∃ n, let t' := (fun t => t.advance cfg pkt c now)^[n] t
      let out := t.broker.handleConnect cfg c (pkt c) now
      t'.pc c = (if out.1.isOk then .accepted else .refused) ∧ t'.broker = out.2 := by
  refine Reaches.step ?_
  rw [advance, h]
  dsimp only
  cases hadmits : admits cfg (pkt c) with
  | true =>
    -- `disconnectExisting` is two steps
    have hid : effectiveClientID cfg c (pkt c) = clientID cfg pkt c := rfl
    rw [if_pos rfl, handleConnect_of_admits cfg t.broker c now hadmits, hid, establish_eq,
      beforeSession]
    generalize t.broker.modifyClient c _ = b
    refine .step ?_
    rw [disconnectExisting, advance, pc_goto]
    cases hl : b.clients.lookup (clientID cfg pkt c) with
    | none =>
      rw [GoMap.erase_of_lookup_eq_none hl]
      exact reaches_disconnected (pc_goto ..)
    | some existing => exact reaches_disconnected (Function.update_self ..)
  | false =>
    obtain ⟨err, code, heq⟩ := handleConnect_of_not_admits cfg t.broker c now hadmits
    rw [if_neg Bool.false_ne_true, heq]
    exact reaches_goto

/-! ### What a step does to the registrations -/

lemma idOf_accept (b : BrokerState σ ρ) (c c' : ℕ) :
    (b.accept cfg c).idOf c' = if c' = c then some [] else b.idOf c' := by
  rw [idOf, BrokerState.accept, GoMap.lookup_insert_eq]
  split_ifs <;> rfl

variable (cfg) in
lemma idOf_close (b : BrokerState σ ρ) (c : ℕ) (now : ℤ) :
    (b.close cfg c now).idOf = b.idOf := by
  funext c'
  rw [idOf_eq_map_profile, idOf_eq_map_profile, profile_close]
  split_ifs with h
  · rw [h, Option.map_map]
    rfl
  · rfl

lemma clients_registerClient {i : Str} (h : b.idOf c = some i) :
    (b.registerClient c).clients = b.clients.insert i c := by
  obtain ⟨client, hc, rfl⟩ := Option.map_eq_some_iff.1 h
  rw [registerClient, hc]

variable (cfg) in
lemma profile_answer (b : BrokerState σ ρ) (c : ℕ) (clientID : Str) (pkt : ConnectPacket)
    (sessionPresent : Bool) :
    (b.answer cfg c clientID pkt sessionPresent).2.profile = b.profile ∧
      (b.answer cfg c clientID pkt sessionPresent).2.clients = b.clients := by
  have hsend : ∀ (b : BrokerState σ ρ) (p : Outgoing), (b.send c p).clients = b.clients :=
    fun b p => congrArg (fun b => b.clients) (b.stores_send c p)
  rw [answer]
  cases b.interceptors with
  | none => exact ⟨b.profile_send c _, hsend b _⟩
  | some s =>
    dsimp only
    split <;> exact ⟨(profile_send _ c _).trans rfl, hsend _ _⟩

lemma clients_openSession (b : BrokerState σ ρ) (clientID : Str) (cleanStart : Bool)
    (expiry : UInt32) : (b.openSession clientID cleanStart expiry).2.clients = b.clients := by
  obtain ⟨_, _, hout⟩ := b.snd_openSession clientID cleanStart expiry
  rw [hout]

variable (cfg pkt) in
/-- What a step of a connection does to the client IDs and the registrations. -/
inductive Move (t : Handshakes σ ρ) (c : ℕ) : Handshakes σ ρ → Prop
  | stay : Move t c t
  | accept (b : BrokerState σ ρ) (hpc : t.pc c = .idle)
      (hid : ∀ c', b.idOf c' = if c' = c then some [] else t.broker.idOf c')
      (hclients : b.clients = t.broker.clients) : Move t c (t.goto c b .start)
  | unregister (b : BrokerState σ ρ) (hpc : t.pc c = .start)
      (hid : ∀ c', b.idOf c' =
        if c' = c then (t.broker.idOf c).map fun _ => clientID cfg pkt c else t.broker.idOf c')
      (hclients : b.clients = t.broker.clients.erase (clientID cfg pkt c)) :
      Move t c (t.goto c b (.unregistered (t.broker.clients.lookup (clientID cfg pkt c))))
  | tell (b : BrokerState σ ρ) (existing : ℕ) (hpc : t.pc c = .unregistered (some existing))
      (hid : b.idOf = t.broker.idOf) (hclients : b.clients = t.broker.clients) :
      Move t c { t.goto c b .disconnected with hungUp := existing :: t.hungUp }
  | register (sessionPresent : Bool) (hpc : t.pc c = .opened sessionPresent) :
      Move t c { t.goto c (t.broker.registerClient c) (.registered sessionPresent) with
        overwritten := (t.broker.clients.lookup (clientID cfg pkt c)).toList ++ t.overwritten }
  | quiet (b : BrokerState σ ρ) (pc : HandshakePC) (hpc : (t.pc c).Calm pc)
      (hid : b.idOf = t.broker.idOf) (hclients : b.clients = t.broker.clients) :
      Move t c (t.goto c b pc)

lemma Move.refuse (hpc : t.pc c = .start) (hid : b.idOf = t.broker.idOf)
    (hclients : b.clients = t.broker.clients) : Move cfg pkt t c (t.goto c b .refused) :=
  .quiet b .refused ⟨by simp [hpc], by simp [hpc], nofun, fun _ => rfl, nofun⟩ hid hclients

lemma move_advance (t : Handshakes σ ρ) (c : ℕ) (now : ℤ) :
    Move cfg pkt t c (t.advance cfg pkt c now) := by
  rw [Handshakes.advance]
  cases hpc : t.pc c with
  | idle => exact .accept _ hpc (idOf_accept t.broker c) rfl
  | start =>
    dsimp only
    cases hadmits : admits cfg (pkt c) with
    | true =>
      have hclients := congrArg (fun b => b.clients)
        (t.broker.stores_modifyClient c fun client => { client with
          username := (pkt c).username
          clientID := clientID cfg pkt c
          protocolVersion := (pkt c).protocolLevel })
      have hid := fun c' => t.broker.idOf_modifyClient c' c fun client => { client with
        username := (pkt c).username
        clientID := clientID cfg pkt c
        protocolVersion := (pkt c).protocolLevel }
      generalize t.broker.modifyClient c _ = b at hclients hid ⊢
      replace hclients : b.clients = t.broker.clients := hclients
      rw [hclients]
      refine .unregister _ hpc (fun c' => (hid c').trans ?_) rfl
      split_ifs with h
      · rw [h, idOf, Option.map_map]
        rfl
      · rfl
    | false =>
      obtain ⟨err, code, heq⟩ := handleConnect_of_not_admits cfg t.broker c now hadmits
      rw [if_neg Bool.false_ne_true, heq]
      exact .refuse hpc (idOf_eq_of_profile (profile_send _ c _))
        (congrArg (fun b => b.clients) (t.broker.stores_send c _))
  | unregistered existing =>
    cases existing with
    | none => exact .quiet _ _ (hpc ▸ .disconnected) rfl rfl
    | some existing =>
      exact .tell _ existing hpc
        (idOf_eq_of_profile (t.broker.profile_sendDisconnectAndClose existing 0x8E))
        (congrArg (fun b => b.clients) (t.broker.stores_sendDisconnectAndClose existing 0x8E))
  | disconnected =>
    have hid := idOf_eq_of_profile (t.broker.profile_openSession (clientID cfg pkt c)
      (pkt c).cleanSession (expiryInterval (pkt c)))
    have hclients := clients_openSession t.broker (clientID cfg pkt c) (pkt c).cleanSession
      (expiryInterval (pkt c))
    generalize t.broker.openSession _ _ _ = out at hid hclients ⊢
    refine .quiet _ _ (hpc ▸ .opened out.1) ?_ ((clients_setWill ..).trans hclients)
    funext c'
    rw [idOf_setWill, hid]
  | opened sessionPresent => exact .register sessionPresent hpc
  | registered sessionPresent =>
    obtain ⟨hprofile, hclients⟩ := profile_answer cfg t.broker c (clientID cfg pkt c)
      (pkt c) sessionPresent
    have hid := idOf_eq_of_profile hprofile
    dsimp only
    split <;> exact .quiet _ _ (hpc ▸ .of_served rfl rfl) hid hclients
  | answered sessionPresent =>
    cases sessionPresent <;> exact .quiet _ _ (hpc ▸ .of_served rfl rfl) rfl rfl
  | draining msgs =>
    cases msgs with
    | nil => exact .quiet _ _ (hpc ▸ .of_served rfl rfl) rfl rfl
    | cons msg msgs =>
      exact .quiet _ _ (hpc ▸ .of_served rfl rfl)
        (idOf_eq_of_profile (profile_deliverMessage ..))
        (congrArg (fun b => b.clients) (t.broker.stores_deliverMessage ..))
  | accepted | refused | ended => exact .stay

/-! ### Who is registered -/

variable (cfg pkt) in
/-- A connection that is served is registered, unless it was overwritten or told to go, or is about
to be told so. -/
structure Tidy (t : Handshakes σ ρ) : Prop where
  named : ∀ c, t.pc c ≠ .idle →
    ∃ i, t.broker.idOf c = some i ∧ ((t.pc c).named = true → i = clientID cfg pkt c)
  registered : ∀ i c, t.broker.clients.lookup i = some c →
    i = clientID cfg pkt c ∧ (t.pc c).early = false
  served : ∀ c, (t.pc c).served = true →
    c ∈ t.hungUp ∨ c ∈ t.overwritten ∨ t.broker.clients.lookup (clientID cfg pkt c) = some c ∨
      ∃ c', t.pc c' = .unregistered (some c)
  overwritten : ∀ c ∈ t.overwritten,
    t.broker.clients.lookup (clientID cfg pkt c) ≠ some c ∧ (t.pc c).early = false

lemma early_update (hearly : (t.pc c).early = false → pc.early = false) {c' : ℕ}
    (h : (t.pc c').early = false) : (Function.update t.pc c pc c').early = false := by
  rcases eq_or_ne c' c with rfl | hne
  · rw [Function.update_self]
    exact hearly h
  · rwa [Function.update_of_ne hne]

lemma named_goto (ht : t.Tidy cfg pkt) (hother : ∀ c' ≠ c, b.idOf c' = t.broker.idOf c')
    (hid : ∃ i, b.idOf c = some i ∧ (pc.named = true → i = clientID cfg pkt c)) (c' : ℕ)
    (h : (t.goto c b pc).pc c' ≠ .idle) :
    ∃ i, b.idOf c' = some i ∧
      (((t.goto c b pc).pc c').named = true → i = clientID cfg pkt c') := by
  rcases eq_or_ne c' c with rfl | hne
  · rwa [pc_goto]
  · rw [pc_goto_of_ne hne] at h ⊢
    rw [hother c' hne]
    exact ht.named c' h

/-- A step that registers no one. -/
lemma Tidy.goto (ht : t.Tidy cfg pkt) {hungUp : List ℕ}
    (hother : ∀ c' ≠ c, b.idOf c' = t.broker.idOf c')
    (hid : ∃ i, b.idOf c = some i ∧ (pc.named = true → i = clientID cfg pkt c))
    (hnew : ∀ i c', b.clients.lookup i = some c' → t.broker.clients.lookup i = some c')
    (hold : ∀ i c', t.broker.clients.lookup i = some c' → b.clients.lookup i = some c' ∨
      pc = .unregistered (some c') ∨ (c' = c ∧ pc.served = false))
    (hearly : (t.pc c).early = false → pc.early = false)
    (hserved : pc.served = true → (t.pc c).served = true)
    (hpending : ∀ c', t.pc c = .unregistered (some c') → c' ∈ hungUp)
    (hsub : t.hungUp ⊆ hungUp) :
    ({ t.goto c b pc with hungUp } : Handshakes σ ρ).Tidy cfg pkt where
  named := named_goto ht hother hid
  registered i c' hl := by
    obtain ⟨hi, hpc⟩ := ht.registered i c' (hnew i c' hl)
    exact ⟨hi, early_update hearly hpc⟩
  served c' hs := by
    have hs' : (t.pc c').served = true := by
      rcases eq_or_ne c' c with rfl | hne
      · exact hserved ((congrArg _ (pc_goto c' b pc)).symm.trans hs)
      · exact (congrArg _ (pc_goto_of_ne hne b pc)).symm.trans hs
    rcases ht.served c' hs' with h | h | h | ⟨c'', h⟩
    · exact Or.inl (hsub h)
    · exact Or.inr (Or.inl h)
    · refine Or.inr (Or.inr ?_)
      rcases hold _ c' h with h | h | ⟨rfl, h⟩
      · exact Or.inl h
      · exact Or.inr ⟨c, (pc_goto c b pc).trans h⟩
      · exact absurd ((congrArg _ (pc_goto c' b pc)).symm.trans hs) (by simp [h])
    · rcases eq_or_ne c'' c with rfl | hne
      · exact Or.inl (hpending c' h)
      · exact Or.inr (Or.inr (Or.inr ⟨c'', (pc_goto_of_ne hne b pc).trans h⟩))
  overwritten c' hmem := by
    obtain ⟨hl, hpc⟩ := ht.overwritten c' hmem
    exact ⟨fun h => hl (hnew _ c' h), early_update hearly hpc⟩

/-- The registration of a connection. -/
lemma Tidy.register (ht : t.Tidy cfg pkt) {sessionPresent : Bool}
    (h : t.pc c = .opened sessionPresent) :
    ({ t.goto c (t.broker.registerClient c) (.registered sessionPresent) with
      overwritten := (t.broker.clients.lookup (clientID cfg pkt c)).toList ++ t.overwritten } :
        Handshakes σ ρ).Tidy cfg pkt := by
  obtain ⟨i, hi, hname⟩ := ht.named c (by simp [h])
  obtain rfl : i = clientID cfg pkt c := hname (by simp [h, HandshakePC.named])
  have hid := idOf_eq_of_profile (t.broker.profile_registerClient c)
  have hlookup : ∀ i c', (t.broker.registerClient c).clients.lookup i = some c' ↔
      if i = clientID cfg pkt c then c' = c else t.broker.clients.lookup i = some c' := by
    intro i c'
    rw [clients_registerClient hi, GoMap.lookup_insert_eq]
    split_ifs
    · rw [Option.some_inj, eq_comm]
    · rfl
  have hlate : ∀ {c'}, (t.pc c').early = false →
      (Function.update t.pc c (.registered sessionPresent) c').early = false :=
    early_update fun _ => rfl
  -- a connection that is registered or was overwritten is another one
  have hne : ∀ {c'}, (t.pc c').early = false → c' ≠ c := by
    rintro c' hearly rfl
    rw [h] at hearly
    cases hearly
  refine ⟨named_goto ht (fun c' _ => congrFun hid c') ⟨_, (congrFun hid c).trans hi, fun _ => rfl⟩,
    fun i c' hl => ?_, fun c' hs => ?_, fun c' hmem => ?_⟩
  · replace hl := (hlookup i c').1 hl
    split_ifs at hl with heq
    · subst hl
      exact ⟨heq, congrArg _ (Function.update_self ..)⟩
    · obtain ⟨hi, hearly⟩ := ht.registered i c' hl
      exact ⟨hi, hlate hearly⟩
  · have hreg := hlookup (clientID cfg pkt c') c'
    rcases eq_or_ne c' c with rfl | hc'
    · rw [if_pos rfl] at hreg
      exact Or.inr (Or.inr (Or.inl (hreg.2 rfl)))
    replace hs : (t.pc c').served = true :=
      (congrArg _ (Function.update_of_ne hc' ..)).symm.trans hs
    rcases ht.served c' hs with h' | h' | h' | ⟨c'', h'⟩
    · exact Or.inl h'
    · exact Or.inr (Or.inl (List.mem_append_right _ h'))
    · split_ifs at hreg with heq
      · rw [heq] at h'
        exact Or.inr (Or.inl (List.mem_append_left _ (Option.mem_toList.2 h')))
      · exact Or.inr (Or.inr (Or.inl (hreg.2 h')))
    · have hc'' : c'' ≠ c := by
        rintro rfl
        cases h.symm.trans h'
      exact Or.inr (Or.inr (Or.inr ⟨c'', (Function.update_of_ne hc'' ..).trans h'⟩))
  · have hearly : (t.pc c').early = false := by
      rcases List.mem_append.1 hmem with hmem | hmem
      · exact (ht.registered _ c' (Option.mem_toList.1 hmem)).2
      · exact (ht.overwritten c' hmem).2
    refine ⟨fun hl => ?_, hlate hearly⟩
    replace hl := (hlookup _ c').1 hl
    split_ifs at hl with heq
    · exact hne hearly hl
    · rcases List.mem_append.1 hmem with hmem | hmem
      · exact heq (ht.registered _ c' (Option.mem_toList.1 hmem)).1.symm
      · exact (ht.overwritten c' hmem).1 hl

lemma Tidy.move (ht : t.Tidy cfg pkt) {t' : Handshakes σ ρ} (h : Move cfg pkt t c t') :
    t'.Tidy cfg pkt := by
  cases h with
  | stay => exact ht
  | accept b hpc hid hclients =>
    exact ht.goto (fun c' hne => (hid c').trans (if_neg hne))
      ⟨[], (hid c).trans (if_pos rfl), nofun⟩ (fun _ _ h => hclients ▸ h)
      (fun _ _ h => Or.inl (hclients ▸ h)) (hpc ▸ nofun) nofun
      (hpc ▸ nofun) (List.Subset.refl _)
  | unregister b hpc hid hclients =>
    refine ht.goto (fun c' hne => (hid c').trans (if_neg hne)) ?_ (fun i c' hl => ?_)
      (fun i c' hl => ?_) (hpc ▸ nofun) nofun
      (hpc ▸ nofun) (List.Subset.refl _)
    · obtain ⟨i, hi, -⟩ := ht.named c (by simp [hpc])
      refine ⟨clientID cfg pkt c, (hid c).trans ?_, fun _ => rfl⟩
      rw [if_pos rfl, hi]
      rfl
    · rw [hclients, GoMap.lookup_erase_eq] at hl
      split_ifs at hl
      exact hl
    · rcases eq_or_ne i (clientID cfg pkt c) with rfl | hne
      · exact Or.inr (Or.inl (congrArg _ hl))
      · rw [hclients]
        exact Or.inl ((AList.lookup_erase_ne hne).trans hl)
  | tell b existing hpc hid hclients =>
    obtain ⟨i, hi, hname⟩ := ht.named c (by simp [hpc])
    refine ht.goto (fun c' _ => congrFun hid c') ⟨i, (congrFun hid c).trans hi, fun _ => ?_⟩
      (fun _ _ h => hclients ▸ h) (fun _ _ h => Or.inl (hclients ▸ h))
      (hpc ▸ nofun) nofun ?_ (List.subset_cons_self ..)
    · exact hname (by simp [hpc, HandshakePC.named])
    · intro c' h
      cases hpc.symm.trans h
      exact List.mem_cons_self ..
  | register sessionPresent hpc => exact ht.register hpc
  | quiet b pc hpc hid hclients =>
    obtain ⟨i, hi, hname⟩ := ht.named c hpc.idle
    exact ht.goto (fun c' _ => congrFun hid c')
      ⟨i, (congrFun hid c).trans hi, fun h => hname (hpc.named h)⟩
      (fun i c' h => hclients ▸ h) (fun i c' h => Or.inl (hclients ▸ h)) hpc.early hpc.served
      (fun c' h => absurd h (hpc.pending c')) (List.Subset.refl _)

variable (cfg) in
lemma clients_close (b : BrokerState σ ρ) (c : ℕ) (now : ℤ) :
    (b.close cfg c now).clients = b.clients ∨ ∃ i, b.clients.lookup i = some c ∧
      (b.close cfg c now).clients = b.clients.erase i := by
  rcases b.liveness_close cfg c now with h | ⟨client, -, -, b₁, hlive, heq⟩
  · exact Or.inl (congrArg Prod.fst h)
  · have hclients : b₁.clients = _ := congrArg Prod.fst hlive
    rw [heq, clients_endSession, hclients]
    split_ifs with hreg
    · exact Or.inr ⟨client.clientID, hreg, rfl⟩
    · exact Or.inl rfl

variable (cfg) in
lemma lookup_clients_close (b : BrokerState σ ρ) (c : ℕ) (now : ℤ) (i : Str) :
    (b.close cfg c now).clients.lookup i = b.clients.lookup i ∨
      b.clients.lookup i = some c ∧ (b.close cfg c now).clients.lookup i = none := by
  rcases clients_close cfg b c now with heq | ⟨i₀, hreg, heq⟩
  · exact Or.inl (congrArg (AList.lookup i) heq)
  · rw [heq]
    rcases eq_or_ne i i₀ with rfl | hne
    · exact Or.inr ⟨hreg, AList.lookup_erase ..⟩
    · exact Or.inl (AList.lookup_erase_ne hne)

lemma Tidy.hangUp (ht : t.Tidy cfg pkt) (c : ℕ) (now : ℤ) :
    (t.hangUp cfg c now).Tidy cfg pkt := by
  have hclose (hidle : t.pc c ≠ .idle) (hpending : ∀ c', t.pc c ≠ .unregistered (some c')) :
      (t.goto c (t.broker.close cfg c now) .ended).Tidy cfg pkt := by
    have hid := idOf_close cfg t.broker c now
    have hlookup := lookup_clients_close cfg t.broker c now
    obtain ⟨i, hi, -⟩ := ht.named c hidle
    refine ht.goto (fun c' _ => congrFun hid c')
      ⟨i, (congrFun hid c).trans hi, nofun⟩ (fun i c' h => ?_) (fun i c' h => ?_)
      (fun _ => rfl) nofun (fun c' h => absurd h (hpending c'))
      (List.Subset.refl _)
    · rcases hlookup i with heq | ⟨-, heq⟩
      · exact heq.symm.trans h
      · cases heq.symm.trans h
    · rcases hlookup i with heq | ⟨heq, -⟩
      · exact Or.inl (heq.trans h)
      · exact Or.inr (Or.inr ⟨Option.some_inj.1 (h.symm.trans heq), rfl⟩)
  rw [Handshakes.hangUp]
  split
  · exact hclose (by simp [*]) (by simp [*])
  · exact hclose (by simp [*]) (by simp [*])
  · exact ht

/-- No step of any connection changes this. -/
theorem tidy_foldl (ht : t.Tidy cfg pkt) (steps : List Step) :
    (steps.foldl (fun t s => t.step cfg pkt s) t).Tidy cfg pkt := by
  refine List.foldlRecOn steps _ ht fun t ht s _ => ?_
  cases s with
  | advance c now => exact ht.move (move_advance t c now)
  | hangUp c now => exact ht.hangUp c now

variable (cfg pkt) in
lemma tidy_init (hb : b.clients = ∅) : (init b).Tidy cfg pkt where
  named _ h := absurd rfl h
  registered i c h := by
    rw [init, hb] at h
    cases h
  served _ h := nomatch h
  overwritten _ h := nomatch h

variable (cfg pkt) in
/-- When all handshakes are over, a connection that is open is the only one of its client and the
one that is registered, exactly if none that was overwritten is open. -/
theorem one_live_iff (hb : b.clients = ∅) (steps : List Step)
    (hsettled : (steps.foldl (fun t s => t.step cfg pkt s) (init b)).Settled) :
    let t := steps.foldl (fun t s => t.step cfg pkt s) (init b)
    (∀ c, t.Live c → (∀ c', t.Live c' → clientID cfg pkt c' = clientID cfg pkt c → c' = c) ∧
      t.broker.clients.lookup (clientID cfg pkt c) = some c) ↔
    ∀ c ∈ t.overwritten, ¬ t.Live c := by
  have htidy := tidy_foldl (tidy_init cfg pkt hb) steps
  generalize steps.foldl (fun t s => t.step cfg pkt s) (init b) = t at hsettled htidy ⊢
  constructor
  · intro h c hmem hlive
    exact (htidy.overwritten c hmem).1 (h c hlive).2
  · intro h
    have hreg : ∀ c, t.Live c → t.broker.clients.lookup (clientID cfg pkt c) = some c := by
      rintro c ⟨hpc, hup⟩
      rcases htidy.served c (by rw [hpc]; rfl) with h' | h' | h' | ⟨c', h'⟩
      · exact absurd h' hup
      · exact absurd ⟨hpc, hup⟩ (h c h')
      · exact h'
      · -- no connection is about to be told to go
        have hsettled := hsettled c'
        rw [h'] at hsettled
        cases hsettled
    refine fun c hlive => ⟨fun c' hlive' heq => ?_, hreg c hlive⟩
    have hreg' := hreg c' hlive'
    rw [heq, hreg c hlive] at hreg'
    exact (Option.some_inj.1 hreg').symm

/-! ### Two connections of one client -/

/-- The connection whose turn it is. -/
def Step.conn : Step → ℕ
  | .advance c _ => c
  | .hangUp c _ => c

variable (cfg pkt) in
/-- A step moves the connection whose turn it is, and not back to where it began. -/
lemma exists_pc_step (t : Handshakes σ ρ) (s : Step) :
    ∃ pc, (t.step cfg pkt s).pc = Function.update t.pc s.conn pc ∧
      (t.pc s.conn ≠ .idle → pc ≠ .idle) := by
  have hstay : ∀ c, ∃ pc, t.pc = Function.update t.pc c pc ∧ (t.pc c ≠ .idle → pc ≠ .idle) :=
    fun c => ⟨t.pc c, (Function.update_eq_self c t.pc).symm, fun h => h⟩
  cases s with
  | advance c now =>
    simp only [step, Handshakes.advance, Step.conn]
    split
    · exact ⟨_, rfl, fun _ => nofun⟩
    · split_ifs <;> exact ⟨_, rfl, fun _ => nofun⟩
    iterate 4 exact ⟨_, rfl, fun _ => nofun⟩
    · split <;> exact ⟨_, rfl, fun _ => nofun⟩
    iterate 4 exact ⟨_, rfl, fun _ => nofun⟩
    all_goals exact hstay c
  | hangUp c now =>
    simp only [step, Handshakes.hangUp, Step.conn]
    split
    · exact ⟨_, rfl, fun _ => nofun⟩
    · exact ⟨_, rfl, fun _ => nofun⟩
    · exact hstay c

lemma pc_foldl_of_forall_ne (steps : List Step) (h : ∀ s ∈ steps, s.conn ≠ c)
    (t : Handshakes σ ρ) :
    (steps.foldl (fun t s => t.step cfg pkt s) t).pc c = t.pc c := by
  refine foldl_frame_of_mem (fun t : Handshakes σ ρ => t.pc c) (fun t s hs => ?_) t
  obtain ⟨pc, hpc, -⟩ := exists_pc_step cfg pkt t s
  exact (congrFun hpc c).trans (Function.update_of_ne (h s hs).symm ..)

/-- The connections of the client `p` take turns. -/
def turns (cs : List ℕ) : Handshakes TenantChain Unit :=
  (cs.map fun c => Step.advance c 0).foldl
    (fun t s => t.step sampleConfig (fun _ => connectExpiring "p") s) (init (new () none))

lemma settled_turns {cs : List ℕ} (h : ∀ c ∈ cs, ((turns cs).pc c).settled = true) :
    (turns cs).Settled := by
  intro c
  by_cases hc : c ∈ cs
  · exact h c hc
  · have hne : ∀ s ∈ cs.map fun c => Step.advance c 0, s.conn ≠ c := by
      intro s hs
      obtain ⟨c', hc', rfl⟩ := List.mem_map.1 hs
      exact fun heq => hc (heq ▸ hc')
    rw [turns, pc_foldl_of_forall_ne _ hne]
    rfl

instance (t : Handshakes σ ρ) (c : ℕ) : Decidable (t.Live c) :=
  inferInstanceAs (Decidable (_ ∧ _))

/-- A connection after the other. -/
def orderly : List ℕ := List.replicate 8 0 ++ List.replicate 8 1

/-- A connection that comes later takes the place of the one that is there. -/
theorem one_live_iff_orderly :
    (∀ c, (turns orderly).Live c → (turns orderly).broker.clients.lookup (str "p") = some c) ∧
      (turns orderly).Live 1 ∧ (turns orderly).pc 0 = .accepted := by
  have hiff := one_live_iff sampleConfig (fun _ => connectExpiring "p") (b := new () none) rfl
    (orderly.map fun c => Step.advance c 0) (settled_turns (by decide))
  exact ⟨fun c hlive => (hiff.2 (by decide) c hlive).2, by decide⟩

/-- The connections take turns from the start.  Neither is in the way of the other one. -/
def simultaneous : List ℕ := (List.replicate 8 [0, 1]).flatten

/-- Both connections are of one client, are accepted and stay open; only one is registered. -/
theorem two_live :
    (∀ c, clientID sampleConfig (fun _ => connectExpiring "p") c = str "p") ∧
      (turns simultaneous).Settled ∧ (turns simultaneous).Live 0 ∧ (turns simultaneous).Live 1 ∧
      (turns simultaneous).broker.clients.lookup (str "p") = some 1 :=
  ⟨fun _ => rfl, settled_turns (by decide), by decide, by decide, by decide⟩

end Handshakes

end Dmqtt.Broker
