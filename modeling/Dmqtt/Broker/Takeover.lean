/-
A connection that is taken over by another one of the same client.

The new connection unregisters the old one and opens the session of the client; the old one,
when it ends, looks the session up by the client ID and removes it, with the subscriptions of
the client, or marks it as disconnected.  It does not look whose session this is by then
(`unregisterClient` does compare the connections).

Both are cut into the steps between which the other one can run.  `takeover_keeps` is about the
interleavings in which the old connection is through with the session when the new one opens
it.
-/
import Dmqtt.Broker.Mediation

namespace Dmqtt.Broker

open Lib Codec Plugin

/-- How far the old connection has come in `close`. -/
inductive OldPC
  | running
  | closed
  | unregistered
  | notified
  | found (expiryInterval : UInt32)
  | unsubscribed
  | removed
  | finished
deriving DecidableEq

/-- How far the new connection has come: in `handleConnect` up to `registered`, and then in the
handler of a SUBSCRIBE, which holds the session at `addr`. -/
inductive NewPC
  | start
  | disconnected
  | looked (existing : Option Session)
  | resuming (filters : List (Str × UInt8))
  | opened
  | registered
  | subscribing (addr : Option ℕ)
  | adding (addr : Option ℕ) (filter : Str) (qos : UInt8)

/-- The old connection is through with the session of the client. -/
def OldPC.through : OldPC → Bool
  | .removed => true
  | .finished => true
  | _ => false

/-- The new connection has not created or resumed the session yet. -/
def NewPC.early : NewPC → Bool
  | .start => true
  | .disconnected => true
  | .looked _ => true
  | _ => false

/-- The client, its two connections, and what the new one asks for. -/
structure Parties where
  clientID : Str
  old : ℕ
  new : ℕ
  cleanStart : Bool
  expiryInterval : UInt32

/-- The broker and the two connections.  `session` is the session that the new connection has
created or resumed, and `subscribed` lists the filters it has subscribed. -/
structure Takeover (σ ρ : Type) where
  broker : BrokerState σ ρ
  oldPC : OldPC
  newPC : NewPC
  session : Option ℕ
  subscribed : List Str

/-- A step of the old connection, of the handshake of the new one, or of a SUBSCRIBE: look up
the session, add a filter to the index, set it in the session, save the session. -/
inductive TakeoverStep
  | old (now : ℤ)
  | new
  | subscribe
  | add (filter : Str) (qos : UInt8)
  | set
  | save

namespace Takeover

variable {σ ε ρ : Type} (cfg : Config σ ε ρ) (p : Parties) (t : Takeover σ ρ)

/-- The state of the two connections before anything has happened. -/
def init (b : BrokerState σ ρ) : Takeover σ ρ := ⟨b, .running, .start, none, []⟩

/-- The next step of `close` of the old connection. -/
def oldStep (now : ℤ) : Takeover σ ρ :=
  let b := t.broker
  match t.oldPC with
  | .running =>
    { t with
      broker := b.modifyClient p.old fun client => { client with closed := true }
      oldPC := .closed }
  | .closed => { t with broker := b.unregisterClient p.old, oldPC := .unregistered }
  | .unregistered =>
    match b.conns.lookup p.old with
    | none => { t with oldPC := .notified }
    | some client =>
      { t with
        broker := (b.notifyDisconnect cfg p.old client).publishWill cfg client now
        oldPC := .notified }
  | .notified =>
    -- the session of the client ID, whoever has created it
    match b.sessions.get p.clientID with
    | none => { t with oldPC := .finished }
    | some session => { t with oldPC := .found session.expiryInterval }
  | .found expiryInterval =>
    if expiryInterval = 0 then
      { t with
        broker := { b with subscriptions := b.subscriptions.removeAll p.clientID }
        oldPC := .unsubscribed }
    else if b.done then { t with oldPC := .finished }
    else
      { t with
        broker := { b with sessions := b.sessions.markDisconnected p.clientID now }
        oldPC := .finished }
  | .unsubscribed =>
    { t with
      broker := { b with sessions := b.sessions.remove p.clientID }
      oldPC := .removed }
  | .removed =>
    { t with
      broker := { b with
        offlineStore := if b.done then b.offlineStore else b.offlineStore.removeAll p.clientID }
      oldPC := .finished }
  | .finished => t

/-- Create the session. -/
def create : Takeover σ ρ :=
  { t with
    broker := { t.broker with
      sessions := t.broker.sessions.create p.clientID p.cleanStart p.expiryInterval }
    session := some t.broker.sessions.next
    newPC := .opened }

/-- Create or resume the session, given the one that was looked up. -/
def openSession (existing : Option Session) : Takeover σ ρ :=
  match existing with
  | none => t.create p
  | some existing =>
    if p.cleanStart then t.create p
    else
      { t with
        session := some existing.addr
        newPC := .resuming (existing.subscriptions.entries.map fun f => (f.1, f.2)) }

/-- The next step of `handleConnect` of the new connection. -/
def newStep : Takeover σ ρ :=
  let b := t.broker
  match t.newPC with
  | .start => { t with broker := b.disconnectExisting p.clientID, newPC := .disconnected }
  | .disconnected => { t with newPC := .looked (b.sessions.get p.clientID) }
  | .looked existing => t.openSession p existing
  | .resuming [] => { t with newPC := .opened }
  | .resuming (f :: filters) =>
    { t with
      broker := { b with subscriptions := b.subscriptions.add p.clientID f.1 f.2 }
      newPC := .resuming filters }
  | .opened => { t with broker := b.registerClient p.new, newPC := .registered }
  | _ => t

/-- One step.  A step that is not possible in the state changes nothing. -/
def step : TakeoverStep → Takeover σ ρ
  | .old now => t.oldStep cfg p now
  | .new => t.newStep p
  | .subscribe =>
    match t.newPC with
    | .registered =>
      { t with newPC := .subscribing ((t.broker.sessions.get p.clientID).map Session.addr) }
    | _ => t
  | .add filter qos =>
    match t.newPC with
    | .subscribing addr =>
      { t with
        broker := { t.broker with
          subscriptions := t.broker.subscriptions.add p.clientID filter qos }
        subscribed := filter :: t.subscribed
        newPC := .adding addr filter qos }
    | _ => t
  | .set =>
    match t.newPC with
    | .adding (some addr) filter qos =>
      { t with
        broker := { t.broker with
          sessions := t.broker.sessions.setSubscription p.clientID addr filter qos }
        newPC := .subscribing (some addr) }
    | .adding none _ _ => { t with newPC := .subscribing none }
    | _ => t
  | .save =>
    match t.newPC with
    | .subscribing _ =>
      { t with
        broker := { t.broker with sessions := t.broker.sessions.save p.clientID }
        newPC := .registered }
    | _ => t

/-- Both connections have finished: the old one has ended, and the new one has been established
and handles no SUBSCRIBE. -/
def Finished : Prop := t.oldPC = .finished ∧ t.newPC = .registered

/-- The session that the new connection has created or resumed is in the store and is not
marked, and its filters are in the index. -/
def Kept : Prop :=
  ∃ s, t.broker.sessions.get p.clientID = some s ∧ t.session = some s.addr ∧
    s.disconnectedAt = none ∧
    ∀ filter ∈ t.subscribed, t.broker.subscriptions.Subscribed p.clientID filter

/-- The new connection opens the session after the old one is through with it, and the session
that it resumes is still in the store and not marked. -/
def OpensApart : NewPC → Prop
  | .looked existing => t.oldPC.through = true ∧
      (p.cleanStart = false → ∀ s ∈ existing,
        (t.broker.sessions.get p.clientID).map (fun s => (s.addr, s.disconnectedAt)) =
          some (s.addr, none))
  | _ => True

instance : ∀ pc, Decidable (t.OpensApart p pc)
  | .looked existing => inferInstanceAs (Decidable (_ ∧ (_ → ∀ s ∈ existing, _)))
  | .start | .disconnected | .resuming _ | .opened | .registered | .subscribing _
  | .adding _ _ _ => isTrue trivial

/-- The condition on a step of the two connections. -/
def Apart : TakeoverStep → Prop
  | .new => t.OpensApart p t.newPC
  | _ => True

instance : ∀ st, Decidable (t.Apart p st)
  | .new => inferInstanceAs (Decidable (t.OpensApart p t.newPC))
  | .old _ | .subscribe | .add _ _ | .set | .save => isTrue trivial

/-- Once the new connection has opened the session, the old one is through with it, and what
the new one has done is kept. -/
def Inv : Prop :=
  (t.newPC.early = true ∧ t.session = none ∧ t.subscribed = []) ∨
    (t.newPC.early = false ∧ t.oldPC.through = true ∧ t.Kept p)

/-! ### Steps keep the invariant -/

variable {t}

lemma oldStep_frame (now : ℤ) :
    (t.oldStep cfg p now).newPC = t.newPC ∧ (t.oldStep cfg p now).session = t.session ∧
      (t.oldStep cfg p now).subscribed = t.subscribed := by
  rw [oldStep]
  cases t.oldPC with
  | unregistered =>
    cases t.broker.conns.lookup p.old <;> exact ⟨rfl, rfl, rfl⟩
  | notified =>
    cases t.broker.sessions.get p.clientID <;> exact ⟨rfl, rfl, rfl⟩
  | found expiryInterval =>
    dsimp only
    split_ifs <;> exact ⟨rfl, rfl, rfl⟩
  | running | closed | unsubscribed | removed | finished => exact ⟨rfl, rfl, rfl⟩

/-- When it is through with the session, the old connection touches only the offline queue. -/
lemma oldStep_of_through (h : t.oldPC.through = true) (now : ℤ) :
    (t.oldStep cfg p now).oldPC.through = true ∧
      (t.oldStep cfg p now).broker.sessions = t.broker.sessions ∧
      (t.oldStep cfg p now).broker.subscriptions = t.broker.subscriptions := by
  cases hpc : t.oldPC with
  | removed => refine ⟨?_, ?_, ?_⟩ <;> simp [oldStep, hpc, OldPC.through]
  | finished =>
    have heq : t.oldStep cfg p now = t := by simp only [oldStep, hpc]
    rw [heq]
    exact ⟨h, rfl, rfl⟩
  | _ => simp [hpc, OldPC.through] at h

variable {p} in
/-- What is kept depends on the marks of the session and on the index, in which filters may be
added. -/
lemma Kept.mono {t' : Takeover σ ρ} (ht : t.Kept p) (hsession : t'.session = t.session)
    (hmarks : (t'.broker.sessions.get p.clientID).map (fun s => (s.addr, s.disconnectedAt)) =
      (t.broker.sessions.get p.clientID).map fun s => (s.addr, s.disconnectedAt))
    (hsub : ∀ filter ∈ t'.subscribed, filter ∈ t.subscribed ∨
      t'.broker.subscriptions.Subscribed p.clientID filter)
    (hidx : ∀ filter, t.broker.subscriptions.Subscribed p.clientID filter →
      t'.broker.subscriptions.Subscribed p.clientID filter) : t'.Kept p := by
  obtain ⟨s, hs, haddr, hmark, hfil⟩ := ht
  rw [hs, Option.map_some, Option.map_eq_some_iff] at hmarks
  obtain ⟨s', hs', heq⟩ := hmarks
  rw [Prod.mk.injEq] at heq
  refine ⟨s', hs', ?_, heq.2.trans hmark, ?_⟩
  · rw [hsession, haddr, heq.1]
  · intro filter hmem
    rcases hsub filter hmem with h | h
    · exact hidx filter (hfil filter h)
    · exact h

variable {p} in
lemma Kept.of_eq {t' : Takeover σ ρ} (ht : t.Kept p) (hsession : t'.session = t.session)
    (hsubscribed : t'.subscribed = t.subscribed)
    (hsessions : t'.broker.sessions = t.broker.sessions)
    (hidx : t'.broker.subscriptions = t.broker.subscriptions) : t'.Kept p :=
  ht.mono hsession (by rw [hsessions]) (fun _ h => Or.inl (hsubscribed ▸ h))
    fun _ h => hidx ▸ h

variable {p} in
lemma Inv.old (ht : t.Inv p) (now : ℤ) : (t.oldStep cfg p now).Inv p := by
  obtain ⟨hpc, hsession, hsubscribed⟩ := t.oldStep_frame cfg p now
  rcases ht with ⟨hearly, hnone, hnil⟩ | ⟨hlate, hthrough, hkept⟩
  · -- there is nothing to keep yet
    exact Or.inl ⟨hpc ▸ hearly, hsession ▸ hnone, hsubscribed ▸ hnil⟩
  · obtain ⟨hthrough', hsessions, hidx⟩ := oldStep_of_through cfg p hthrough now
    exact Or.inr ⟨hpc ▸ hlate, hthrough', hkept.of_eq hsession hsubscribed hsessions hidx⟩

variable {p} in
lemma kept_create (hnil : t.subscribed = []) : (t.create p).Kept p := by
  refine ⟨t.broker.sessions.fresh p.clientID p.cleanStart p.expiryInterval, ?_, rfl, rfl, ?_⟩
  · exact (t.broker.sessions.get_create ..).trans (if_pos rfl)
  · intro filter hmem
    rw [create, hnil] at hmem
    cases hmem

variable {p} in
lemma inv_openSession (hnil : t.subscribed = []) {existing : Option Session}
    (hapart : t.OpensApart p (.looked existing)) : (t.openSession p existing).Inv p := by
  obtain ⟨hthrough, hresume⟩ := hapart
  cases existing with
  | none => exact Or.inr ⟨rfl, hthrough, kept_create hnil⟩
  | some existing =>
    rw [openSession]
    split_ifs with hclean
    · exact Or.inr ⟨rfl, hthrough, kept_create hnil⟩
    · have hmarks := hresume (by simpa using hclean) existing rfl
      obtain ⟨s, hs, heq⟩ := Option.map_eq_some_iff.1 hmarks
      rw [Prod.mk.injEq] at heq
      refine Or.inr ⟨rfl, hthrough, s, hs, by rw [heq.1], heq.2, ?_⟩
      intro filter hmem
      rw [hnil] at hmem
      cases hmem

variable {p} in
lemma Inv.new (ht : t.Inv p) (hapart : t.Apart p .new) : (t.newStep p).Inv p := by
  rcases ht with ⟨hearly, hnone, hnil⟩ | ⟨hlate, hthrough, hkept⟩
  · cases hpc : t.newPC with
    | start | disconnected =>
      simp only [newStep, hpc]
      exact Or.inl ⟨rfl, hnone, hnil⟩
    | looked existing =>
      rw [Apart, hpc] at hapart
      simp only [newStep, hpc]
      exact inv_openSession hnil hapart
    | _ => simp [hpc, NewPC.early] at hearly
  · refine Or.inr ?_
    cases hpc : t.newPC with
    | resuming filters =>
      cases filters with
      | nil =>
        simp only [newStep, hpc]
        exact ⟨rfl, hthrough, hkept.of_eq rfl rfl rfl rfl⟩
      | cons f filters =>
        simp only [newStep, hpc]
        refine ⟨rfl, hthrough, hkept.mono rfl rfl (fun _ h => Or.inl h) fun filter h => ?_⟩
        exact (SubscriptionIndex.subscribed_add ..).2 (Or.inr h)
    | opened =>
      simp only [newStep, hpc]
      refine ⟨rfl, hthrough, hkept.of_eq rfl rfl ?_ ?_⟩ <;>
      · rw [BrokerState.registerClient]
        cases t.broker.conns.lookup p.new <;> rfl
    | start | disconnected | looked existing => simp [hpc, NewPC.early] at hlate
    | registered | subscribing addr | adding addr filter qos =>
      simp only [newStep, hpc]
      exact ⟨hpc ▸ hlate, hthrough, hkept⟩

variable {p} in
lemma Inv.late (ht : t.Inv p) (hlate : t.newPC.early = false) :
    t.oldPC.through = true ∧ t.Kept p := by
  rcases ht with ⟨hearly, -⟩ | ⟨-, h⟩
  · exact absurd hearly (by simp [hlate])
  · exact h

variable {p} in
lemma Inv.step (ht : t.Inv p) {st : TakeoverStep} (hapart : t.Apart p st) :
    (t.step cfg p st).Inv p := by
  cases st with
  | old now => exact ht.old cfg now
  | new => exact ht.new hapart
  | subscribe =>
    cases hpc : t.newPC with
    | registered =>
      obtain ⟨hthrough, hkept⟩ := ht.late (by rw [hpc]; rfl)
      simp only [Takeover.step, hpc]
      exact Or.inr ⟨rfl, hthrough, hkept.of_eq rfl rfl rfl rfl⟩
    | _ =>
      simp only [Takeover.step, hpc]
      exact ht
  | add filter qos =>
    cases hpc : t.newPC with
    | subscribing addr =>
      obtain ⟨hthrough, hkept⟩ := ht.late (by rw [hpc]; rfl)
      simp only [Takeover.step, hpc]
      refine Or.inr ⟨rfl, hthrough, hkept.mono rfl rfl ?_ ?_⟩
      · intro filter' hmem
        rcases List.mem_cons.1 hmem with rfl | hmem
        · exact Or.inr ((SubscriptionIndex.subscribed_add ..).2 (Or.inl ⟨rfl, rfl⟩))
        · exact Or.inl hmem
      · intro filter' h
        exact (SubscriptionIndex.subscribed_add ..).2 (Or.inr h)
    | _ =>
      simp only [Takeover.step, hpc]
      exact ht
  | set =>
    cases hpc : t.newPC with
    | adding addr filter qos =>
      obtain ⟨hthrough, hkept⟩ := ht.late (by rw [hpc]; rfl)
      cases addr with
      | none =>
        simp only [Takeover.step, hpc]
        exact Or.inr ⟨rfl, hthrough, hkept.of_eq rfl rfl rfl rfl⟩
      | some addr =>
        simp only [Takeover.step, hpc]
        refine Or.inr ⟨rfl, hthrough, hkept.mono rfl ?_ (fun _ h => Or.inl h) fun _ h => h⟩
        exact SessionStore.map_get_setSubscription _ (fun _ _ => rfl) ..
    | _ =>
      simp only [Takeover.step, hpc]
      exact ht
  | save =>
    cases hpc : t.newPC with
    | subscribing addr =>
      obtain ⟨hthrough, hkept⟩ := ht.late (by rw [hpc]; rfl)
      simp only [Takeover.step, hpc]
      refine Or.inr ⟨rfl, hthrough, hkept.mono rfl ?_ (fun _ h => Or.inl h) fun _ h => h⟩
      rw [SessionStore.get_save]
    | _ =>
      simp only [Takeover.step, hpc]
      exact ht

/-- For every client, state of the broker and interleaving of the steps of the old and of the
new connection, in which the new one opens the session when the old one is through with it and
does not resume a marked session: once both have finished, the session of the new connection is
in the store and is not marked, and its filters are in the index. -/
theorem takeover_keeps (p : Parties) (b : BrokerState σ ρ) (steps : List TakeoverStep)
    (hsteps : ∀ x ∈ trace (step cfg p) (init b) steps, x.1.Apart p x.2)
    (hfinished : (steps.foldl (step cfg p) (init b)).Finished) :
    (steps.foldl (step cfg p) (init b)).Kept p := by
  have hinit : (init b).Inv p := Or.inl ⟨rfl, rfl, rfl⟩
  have hinv := foldl_invariant (fun t => Inv p t) (fun t st => t.Apart p st)
    (fun t st ht hapart => ht.step cfg hapart) hinit hsteps
  exact (hinv.late (by rw [hfinished.2]; rfl)).2

/-! ### Connections that are not interrupted -/

lemma endSession_eq_steps (t : Takeover σ ρ) (hpc : t.oldPC = .notified) (now : ℤ) :
    ((List.replicate 4 (TakeoverStep.old now)).foldl (step cfg p) t).broker =
      t.broker.endSession p.clientID now := by
  simp only [List.replicate, List.foldl, step]
  rw [BrokerState.endSession]
  cases hs : t.broker.sessions.get p.clientID with
  | none => simp [oldStep, hpc, hs]
  | some session =>
    by_cases hexp : session.expiryInterval = 0
    · simp [oldStep, hpc, hs, hexp]
    · by_cases hdone : t.broker.done = true <;> simp [oldStep, hpc, hs, hexp, hdone]

/-- Without interruption the steps of the old connection are `close`. -/
theorem close_eq_steps (b : BrokerState σ ρ) {client : Client}
    (hc : b.conns.lookup p.old = some client) (hopen : client.closed = false)
    (hid : client.clientID = p.clientID) (hne : p.clientID ≠ []) (now : ℤ) :
    ((List.replicate 7 (TakeoverStep.old now)).foldl (step cfg p) (init b)).broker =
      b.close cfg p.old now := by
  have hlookup : ((b.modifyClient p.old fun client =>
      { client with closed := true }).unregisterClient p.old).conns.lookup p.old =
        some { client with closed := true } := by
    obtain ⟨_, heq⟩ := (b.modifyClient p.old fun client =>
      { client with closed := true }).unregisterClient_eq p.old
    rw [heq, BrokerState.modifyClient, hc]
    exact AList.lookup_insert _
  have hsplit : List.replicate 7 (TakeoverStep.old now) =
      List.replicate 3 (.old now) ++ List.replicate 4 (.old now) := rfl
  rw [hsplit, List.foldl_append, endSession_eq_steps]
  · rw [← hid] at hne ⊢
    simp only [List.replicate, List.foldl, step, oldStep, init, hlookup]
    simp only [BrokerState.close, hc, hopen, hne, if_false, Bool.false_eq_true]
    rfl
  · simp only [List.replicate, List.foldl, step, oldStep, init, hlookup]

lemma resume_eq_steps (t : Takeover σ ρ) (filters : List (Str × UInt8))
    (hpc : t.newPC = .resuming filters) :
    ((List.replicate (filters.length + 2) TakeoverStep.new).foldl (step cfg p) t).broker =
      BrokerState.registerClient
        { t.broker with
          subscriptions := filters.foldl (fun idx f => idx.add p.clientID f.1 f.2)
            t.broker.subscriptions } p.new := by
  induction filters generalizing t with
  | nil => simp [List.replicate, List.foldl, step, newStep, hpc]
  | cons f filters ih =>
    rw [List.length_cons, Nat.add_right_comm, List.replicate_succ, List.foldl_cons]
    rw [ih _ (by simp [step, newStep, hpc])]
    simp [step, newStep, hpc]

/-- Without interruption the steps of the new connection are those of `establish` up to the
registration. -/
theorem handshake_eq_steps (b : BrokerState σ ρ) :
    ∃ n, ((List.replicate n TakeoverStep.new).foldl (step cfg p) (init b)).broker =
      (((b.disconnectExisting p.clientID).openSession p.clientID p.cleanStart
        p.expiryInterval).2).registerClient p.new := by
  cases hs : (b.disconnectExisting p.clientID).sessions.get p.clientID with
  | none =>
    refine ⟨4, ?_⟩
    simp [List.replicate, List.foldl, step, newStep, init, hs, openSession, create,
      BrokerState.openSession]
  | some existing =>
    cases hclean : p.cleanStart with
    | true =>
      refine ⟨4, ?_⟩
      simp [List.replicate, List.foldl, step, newStep, init, hs, openSession, create,
        BrokerState.openSession, hclean]
    | false =>
      let filters := existing.subscriptions.entries.map fun f => (f.1, f.2)
      have hthree : (List.replicate 3 TakeoverStep.new).foldl (step cfg p) (init b) =
          ⟨b.disconnectExisting p.clientID, .running, .resuming filters,
            some existing.addr, []⟩ := by
        simp [List.replicate, List.foldl, step, newStep, init, hs, openSession, hclean, filters]
      refine ⟨3 + (filters.length + 2), ?_⟩
      rw [List.replicate_add, List.foldl_append, hthree, resume_eq_steps cfg p _ filters rfl]
      simp [BrokerState.openSession, hs, filters, List.foldl_map]

/-! ### Interleavings of two connections of a client -/

open BrokerState (TenantChain sampleConfig)

/-- The client `p`, whose connection 1 takes over from the connection 0. -/
def sampleParties (cleanStart : Bool) : Parties :=
  ⟨str "p", 0, 1, cleanStart, 0⟩

/-- The broker with the connection 0 of the client `p`. -/
def establishedBroker (cleanStart : Bool) : BrokerState TenantChain Unit :=
  let pkt : ConnectPacket :=
    { protocolName := str "MQTT", protocolLevel := 4, cleanSession := cleanStart,
      clientID := str "p" }
  let b := (((BrokerState.new () none).accept sampleConfig 0).handleConnect sampleConfig 0 pkt 0).2
  b.accept sampleConfig 1

/-- The new connection is established and subscribes `t`. -/
def newSteps : List TakeoverStep :=
  [.new, .new, .new, .new, .subscribe, .add (str "t") 0, .set, .save]

/-- The old connection ends. -/
def oldSteps : List TakeoverStep := List.replicate 7 (.old 1)

/-- The broker and the connections after some steps. -/
def after (cleanStart : Bool) (steps : List TakeoverStep) : Takeover TenantChain Unit :=
  steps.foldl (step sampleConfig (sampleParties cleanStart)) (init (establishedBroker cleanStart))

theorem takeover_keeps_sample :
    (after true (oldSteps ++ newSteps)).Kept (sampleParties true) ∧
    (after true (oldSteps ++ newSteps)).subscribed = [str "t"] := by
  refine ⟨?_, by decide⟩
  exact takeover_keeps sampleConfig (sampleParties true) (establishedBroker true)
    (oldSteps ++ newSteps) (by decide) ⟨by decide, rfl⟩

/-- If the old connection ends after the new one has subscribed, the session is gone after a
clean start, and marked as disconnected if it was resumed.  A session that is resumed after the
end of the old connection is marked, too. -/
theorem takeover_loses :
    (after true (newSteps ++ oldSteps)).Finished ∧
    ¬ (after true (newSteps ++ oldSteps)).Kept (sampleParties true) ∧
    (after false (.new :: newSteps ++ oldSteps)).Finished ∧
    ¬ (after false (.new :: newSteps ++ oldSteps)).Kept (sampleParties false) ∧
    (after false (oldSteps ++ .new :: newSteps)).Finished ∧
    ¬ (after false (oldSteps ++ .new :: newSteps)).Kept (sampleParties false) := by
  refine ⟨⟨by decide, rfl⟩, ?_, ⟨by decide, rfl⟩, ?_, ⟨by decide, rfl⟩, ?_⟩
  · rintro ⟨s, hs, -⟩
    cases hs
  all_goals
    rintro ⟨s, hs, -, hmark, -⟩
    cases hs
    cases hmark

end Takeover

end Dmqtt.Broker
