/-
Sends on the channels of connections that end.

`routeMessage` looks up the registered connections under the lock of the broker and sends to
them after it has released the lock; `disconnectExisting` does the same with the connection it
unregisters.  A connection that ends closes its channel first and unregisters later.  A send on
a closed channel stops the whole broker.

Here these calls are cut into their atomic steps, and the steps of any number of them are
interleaved.  `no_send_on_closed` is about the runs in which no connection closes its channel
while a call still holds it, and no call picks a connection between the closing of its channel
and its unregistration.
-/
import Dmqtt.Broker.Profile

namespace Dmqtt.Broker

open Lib Codec Plugin

/-- A call of `routeMessage` after its snapshot: what is left to deliver and to queue. -/
structure Route where
  topic : Str
  payload : Bytes
  deliveries : List (ℕ × Str × UInt8)
  offlineDeliveries : List (Str × UInt8)

/-- The broker, the calls of `routeMessage` that are under way, and the connections that calls
of `disconnectExisting` have unregistered but not told yet. -/
structure Threads (σ ρ : Type) where
  broker : BrokerState σ ρ
  routes : List Route
  takeovers : List ℕ

/-- The atomic steps.  A connection sends on its own channel, and is registered, before it
closes the channel; it is unregistered after that. -/
inductive Step
  | accept (c : ℕ)
  | register (c : ℕ) (clientID : Str) (protocolVersion : UInt8)
  | subscribe (clientID filter : Str) (qos : UInt8)
  | unsubscribe (clientID filter : Str)
  | own (c : ℕ) (pkt : Outgoing)
  | snapshot (topic : Str) (payload : Bytes) (qos : UInt8) (retain forwarded : Bool)
  | deliver (i : ℕ) (now : ℤ)
  | lookup (clientID : Str)
  | sendDisconnect (i : ℕ)
  | close (c : ℕ)
  | unregister (c : ℕ)

namespace BrokerState

variable {σ ε ρ : Type} (cfg : Config σ ε ρ) (b : BrokerState σ ρ)

/-- The state of the channel of a connection: whether it is closed, with the version of the
protocol. -/
def channel (c : ℕ) : Option (Bool × UInt8) :=
  (b.conns.lookup c).map fun client => (client.closed, client.protocolVersion)

/-- The channel of a connection can be sent to. -/
def Open (c : ℕ) : Prop := ∀ x ∈ b.channel c, x.1 = false

/-- A connection can be told that its session was taken over; only one of version 5 is. -/
def Tellable (c : ℕ) : Prop := ∀ x ∈ b.channel c, x.2 = 5 → x.1 = false

-- named, because the pairs `x` are finitely many and could be gone through
instance (c : ℕ) : Decidable (b.Open c) := Option.decidableForallMem (b.channel c)

instance (c : ℕ) : Decidable (b.Tellable c) := Option.decidableForallMem (b.channel c)

/-- Register a connection under its client ID, which it gets now. -/
def enroll (c : ℕ) (clientID : Str) (protocolVersion : UInt8) : BrokerState σ ρ :=
  (b.modifyClient c fun client => { client with clientID, protocolVersion }).registerClient c

/-! ### Channels and sends -/

lemma channel_modifyClient {c : ℕ} {f : Client → Client}
    (hf : ∀ client, ((f client).closed, (f client).protocolVersion) =
      (client.closed, client.protocolVersion)) :
    (b.modifyClient c f).channel = b.channel :=
  funext fun c' => b.map_lookup_modifyClient_of_eq
    (fun client => (client.closed, client.protocolVersion)) c c' hf

lemma channel_send (c : ℕ) (pkt : Outgoing) : (b.send c pkt).channel = b.channel := by
  have hmap : ∀ (b : BrokerState σ ρ) c,
      b.channel c = (b.profile c).map fun p => (p.closed, p.protocolVersion) := by
    intro b c
    rw [channel, profile, Option.map_map]
    rfl
  funext c'
  rw [hmap, hmap, profile_send]

/-- The channels, and whether the broker has stopped. -/
def health : (ℕ → Option (Bool × UInt8)) × Bool := (b.channel, b.panicked)

variable {b}

lemma Open.congr {b' : BrokerState σ ρ} {c : ℕ} (h : b.Open c) (heq : b'.channel = b.channel) :
    b'.Open c := by
  rw [Open, heq]
  exact h

lemma Tellable.congr {b' : BrokerState σ ρ} {c : ℕ} (h : b.Tellable c)
    (heq : b'.channel = b.channel) : b'.Tellable c := by
  rw [Tellable, heq]
  exact h

lemma health_send {c : ℕ} (h : b.Open c) (pkt : Outgoing) : (b.send c pkt).health = b.health := by
  refine Prod.ext (b.channel_send c pkt) ?_
  change (b.send c pkt).panicked = b.panicked
  rw [send]
  cases hc : b.conns.lookup c with
  | none => rfl
  | some client =>
    have hopen : client.closed = false :=
      h (client.closed, client.protocolVersion) (by simp [channel, hc])
    simp [hopen]

lemma health_sendDisconnectAndClose {c : ℕ} (h : b.Tellable c) (reasonCode : UInt8) :
    (b.sendDisconnectAndClose c reasonCode).health = b.health := by
  rw [sendDisconnectAndClose]
  cases hc : b.conns.lookup c with
  | none => rfl
  | some client =>
    dsimp only
    split_ifs with hv
    · refine health_send ?_ _
      have hx : b.channel c = some (client.closed, client.protocolVersion) := by
        simp [channel, hc]
      intro x hmem
      have hclosed := h x hmem
      rw [hx, Option.mem_some_iff] at hmem
      subst hmem
      exact hclosed hv
    · rfl

lemma panicked_modifyClient (c : ℕ) (f : Client → Client) :
    (b.modifyClient c f).panicked = b.panicked := by
  rw [modifyClient]
  cases b.conns.lookup c <;> rfl

lemma health_modifyClient {c : ℕ} {f : Client → Client}
    (hf : ∀ client, ((f client).closed, (f client).protocolVersion) =
      (client.closed, client.protocolVersion)) :
    (b.modifyClient c f).health = b.health := by
  exact Prod.ext (b.channel_modifyClient hf) (panicked_modifyClient c f)

lemma health_deliverMessage {c : ℕ} (h : b.Open c) (topic : Str) (payload : Bytes) (qos : UInt8)
    (now : ℤ) : (b.deliverMessage c topic payload qos now).health = b.health := by
  rw [deliverMessage]
  cases hc : b.conns.lookup c with
  | none => rfl
  | some client =>
    dsimp only
    split_ifs
    · refine (health_send (h.congr ?_) _).trans (health_modifyClient fun _ => rfl)
      exact b.channel_modifyClient fun _ => rfl
    · exact health_modifyClient fun _ => rfl
    · exact health_send h _

lemma health_deliver {d : ℕ × Str × UInt8} (h : b.Open d.1) (topic : Str) (payload : Bytes)
    (now : ℤ) : (b.deliver cfg topic payload now d).health = b.health := by
  rw [deliver]
  cases b.interceptors with
  | none => exact health_deliverMessage h ..
  | some s =>
    dsimp only
    split
    · rfl
    · exact health_deliverMessage (b := { b with interceptors := some _ }) h ..

lemma channel_modifyClient_of_ne {c c' : ℕ} (h : c' ≠ c) (f : Client → Client) :
    (b.modifyClient c f).channel c' = b.channel c' := by
  rw [channel, lookup_modifyClient_of_ne _ h, channel]

lemma channel_close (c : ℕ) :
    (b.modifyClient c fun client => { client with closed := true }).channel c =
      (b.channel c).map fun x => (true, x.2) := by
  refine (b.map_lookup_modifyClient (fun client => (client.closed, client.protocolVersion))
    (g := fun x => (true, x.2)) c c fun _ => rfl).trans ?_
  rw [if_pos rfl, channel]

lemma health_registerClient (c : ℕ) : (b.registerClient c).health = b.health := by
  obtain ⟨clients, h⟩ := b.registerClient_eq c
  rw [h]
  rfl

lemma health_unregisterClient (c : ℕ) : (b.unregisterClient c).health = b.health := by
  obtain ⟨clients, h⟩ := b.unregisterClient_eq c
  rw [h]
  rfl

lemma channel_enroll {c : ℕ} (h : b.Open c) (clientID : Str) (protocolVersion : UInt8) (c' : ℕ) :
    (b.enroll c clientID protocolVersion).channel c' = b.channel c' ∨
      (b.enroll c clientID protocolVersion).Open c' := by
  have hreg : (b.enroll c clientID protocolVersion).channel =
      (b.modifyClient c fun client => { client with clientID, protocolVersion }).channel :=
    congrArg Prod.fst (health_registerClient c)
  rcases eq_or_ne c' c with rfl | hne
  · right
    rw [Open, hreg, modifyClient]
    cases hc : b.conns.lookup c' with
    | none => simp [channel, hc]
    | some client =>
      have hopen := h (client.closed, client.protocolVersion) (by simp [channel, hc])
      simpa [channel] using hopen
  · left
    rw [hreg, channel_modifyClient_of_ne hne]

lemma panicked_enroll (c : ℕ) (clientID : Str) (protocolVersion : UInt8) :
    (b.enroll c clientID protocolVersion).panicked = b.panicked :=
  (congrArg Prod.snd (health_registerClient c)).trans (panicked_modifyClient c _)

end BrokerState

namespace Threads

variable {σ ε ρ : Type} (cfg : Config σ ε ρ) (t : Threads σ ρ)

/-- Change the broker. -/
def act (f : BrokerState σ ρ → BrokerState σ ρ) : Threads σ ρ := { t with broker := f t.broker }

/-- A call of `routeMessage` goes on: it delivers to the next connection of its snapshot, or
queues for the next client that is offline. -/
def advance (i : ℕ) (r : Route) (now : ℤ) : Threads σ ρ :=
  match r.deliveries, r.offlineDeliveries with
  | d :: deliveries, _ =>
    { t with
      broker := t.broker.deliver cfg r.topic r.payload now d
      routes := t.routes.set i { r with deliveries := deliveries } }
  | [], d :: offlineDeliveries =>
    { t with
      broker := t.broker.enqueueOffline r.topic r.payload now d
      routes := t.routes.set i { r with offlineDeliveries := offlineDeliveries } }
  | [], [] => t

/-- One step.  A step that is not possible in the state changes nothing. -/
def step : Step → Threads σ ρ
  | .accept c => if (t.broker.conns.lookup c).isNone then t.act fun b => b.accept cfg c else t
  | .register c clientID protocolVersion =>
    if t.broker.Open c then t.act fun b => b.enroll c clientID protocolVersion else t
  | .subscribe clientID filter qos =>
    t.act fun b => { b with subscriptions := b.subscriptions.add clientID filter qos }
  | .unsubscribe clientID filter =>
    t.act fun b => { b with subscriptions := b.subscriptions.remove clientID filter }
  | .own c pkt => if t.broker.Open c then t.act fun b => b.send c pkt else t
  | .snapshot topic payload qos retain forwarded =>
    let (deliveries, offlineDeliveries) := t.broker.routes topic qos
    { t with
      broker := { t.broker with
        calls := t.broker.calls ++ [.routeMessage topic payload qos retain forwarded] }
      routes := t.routes ++ [⟨topic, payload, deliveries, offlineDeliveries⟩] }
  | .deliver i now =>
    match t.routes[i]? with
    | none => t
    | some r => t.advance cfg i r now
  | .lookup clientID =>
    match t.broker.clients.lookup clientID with
    | none => t
    | some existing =>
      { t with
        broker := { t.broker with clients := t.broker.clients.erase clientID }
        takeovers := t.takeovers ++ [existing] }
  | .sendDisconnect i =>
    match t.takeovers[i]? with
    | none => t
    | some c =>
      { t with
        broker := t.broker.sendDisconnectAndClose c 0x8E
        takeovers := t.takeovers.eraseIdx i }
  | .close c => t.act fun b => b.modifyClient c fun client => { client with closed := true }
  | .unregister c => if t.broker.Open c then t else t.act fun b => b.unregisterClient c

/-- No call holds the connection that closes its channel, and the connections that a call picks
have not closed theirs. -/
def Quiet : Step → Prop
  | .snapshot topic _ qos _ _ => ∀ d ∈ (t.broker.routes topic qos).1, t.broker.Open d.1
  | .lookup clientID => ∀ c ∈ t.broker.clients.lookup clientID, t.broker.Tellable c
  | .close c => (∀ r ∈ t.routes, ∀ d ∈ r.deliveries, d.1 ≠ c) ∧
      ∀ x ∈ t.broker.channel c, x.2 = 5 → c ∉ t.takeovers
  | _ => True

instance (st : Step) : Decidable (t.Quiet st) :=
  match st with
  | .snapshot topic _ qos _ _ =>
    inferInstanceAs (Decidable (∀ d ∈ (t.broker.routes topic qos).1, _))
  | .lookup clientID => inferInstanceAs (Decidable (∀ c ∈ t.broker.clients.lookup clientID, _))
  | .close c => @instDecidableAnd _ _ inferInstance
    (Option.decidableForallMem (t.broker.channel c))
  | .accept _ | .register _ _ _ | .subscribe _ _ _ | .unsubscribe _ _ | .own _ _ | .deliver _ _
  | .sendDisconnect _ | .unregister _ => isTrue trivial

/-- The broker runs, and the calls that are under way hold connections that can be sent to. -/
structure Safe : Prop where
  running : t.broker.panicked = false
  routes : ∀ r ∈ t.routes, ∀ d ∈ r.deliveries, t.broker.Open d.1
  takeovers : ∀ c ∈ t.takeovers, t.broker.Tellable c

/-! ### Steps keep the broker running -/

variable {t}

/-- A step keeps `Safe` if it does not stop the broker, closes no channel and adds nothing to
what the calls hold. -/
lemma Safe.of_kept {t' : Threads σ ρ} (ht : t.Safe)
    (hp : t'.broker.panicked = t.broker.panicked)
    (hc : ∀ c, t'.broker.channel c = t.broker.channel c ∨ t'.broker.Open c)
    (hr : ∀ r ∈ t'.routes, ∀ d ∈ r.deliveries, ∃ r' ∈ t.routes, d ∈ r'.deliveries)
    (hk : ∀ c ∈ t'.takeovers, c ∈ t.takeovers) : t'.Safe := by
  refine ⟨hp.trans ht.running, ?_, ?_⟩
  · intro r hmem d hd
    obtain ⟨r', hmem', hd'⟩ := hr r hmem d hd
    rcases hc d.1 with h | h
    · intro x hx
      exact ht.routes r' hmem' d hd' x (h ▸ hx)
    · exact h
  · intro c hmem
    rcases hc c with h | h
    · intro x hx
      exact ht.takeovers c (hk c hmem) x (h ▸ hx)
    · exact fun x hx _ => h x hx

lemma Safe.of_health {t' : Threads σ ρ} (ht : t.Safe)
    (h : t'.broker.health = t.broker.health)
    (hr : ∀ r ∈ t'.routes, ∀ d ∈ r.deliveries, ∃ r' ∈ t.routes, d ∈ r'.deliveries)
    (hk : ∀ c ∈ t'.takeovers, c ∈ t.takeovers) : t'.Safe :=
  ht.of_kept (congrArg Prod.snd h) (fun c => Or.inl (congrFun (congrArg Prod.fst h) c)) hr hk

/-- A step on the broker only. -/
lemma Safe.act (ht : t.Safe) {f : BrokerState σ ρ → BrokerState σ ρ}
    (hp : (f t.broker).panicked = t.broker.panicked)
    (hc : ∀ c, (f t.broker).channel c = t.broker.channel c ∨ (f t.broker).Open c) :
    (t.act f).Safe :=
  ht.of_kept hp hc (fun r hr _ hd => ⟨r, hr, hd⟩) fun _ hk => hk

lemma Safe.act_of_health (ht : t.Safe) {f : BrokerState σ ρ → BrokerState σ ρ}
    (h : (f t.broker).health = t.broker.health) : (t.act f).Safe :=
  ht.act (congrArg Prod.snd h) fun c => Or.inl (congrFun (congrArg Prod.fst h) c)

lemma Safe.advance (ht : t.Safe) {i : ℕ} {r : Route} (hi : t.routes[i]? = some r) (now : ℤ) :
    (t.advance cfg i r now).Safe := by
  have hmem : r ∈ t.routes := List.mem_of_getElem? hi
  -- the deliveries that are left are among those that were there
  have hset : ∀ r' : Route, r'.deliveries ⊆ r.deliveries →
      ∀ r'' ∈ t.routes.set i r', ∀ d ∈ r''.deliveries, ∃ r₀ ∈ t.routes, d ∈ r₀.deliveries := by
    intro r' hsub r'' hr'' d hd
    rcases List.mem_or_eq_of_mem_set hr'' with h | rfl
    · exact ⟨r'', h, hd⟩
    · exact ⟨r, hmem, hsub hd⟩
  cases hd : r.deliveries with
  | cons d deliveries =>
    simp only [Threads.advance, hd]
    refine ht.of_health (BrokerState.health_deliver cfg ?_ r.topic r.payload now)
      (hset _ ?_) fun _ hc => hc
    · exact ht.routes r hmem d (hd ▸ List.mem_cons_self)
    · rw [hd]
      exact List.subset_cons_self _ _
  | nil =>
    cases ho : r.offlineDeliveries with
    | cons d offlineDeliveries =>
      simp only [Threads.advance, hd, ho]
      exact ht.of_health rfl (hset _ (List.nil_subset _)) fun _ hc => hc
    | nil =>
      simp only [Threads.advance, hd, ho]
      exact ht

lemma Safe.close (ht : t.Safe) {c : ℕ} (hq : t.Quiet (.close c)) :
    (t.step cfg (.close c)).Safe := by
  obtain ⟨hroutes, htake⟩ := hq
  have hother : ∀ c', c' ≠ c →
      (t.step cfg (.close c)).broker.channel c' = t.broker.channel c' :=
    fun c' hne => BrokerState.channel_modifyClient_of_ne hne _
  have hown : (t.step cfg (.close c)).broker.channel c =
      (t.broker.channel c).map fun x => (true, x.2) :=
    BrokerState.channel_close c
  refine ⟨(BrokerState.panicked_modifyClient c _).trans ht.running, ?_, ?_⟩
  · intro r hr d hd x hx
    exact ht.routes r hr d hd x (hother d.1 (hroutes r hr d hd) ▸ hx)
  · intro c' hc' x hx hv
    rcases eq_or_ne c' c with rfl | hne
    · -- its own channel: it is of version 5, so no call has it
      rw [hown, Option.mem_map] at hx
      obtain ⟨y, hy, rfl⟩ := hx
      exact absurd hc' (htake y hy hv)
    · exact ht.takeovers c' hc' x (hother c' hne ▸ hx) hv

lemma Safe.step (ht : t.Safe) {st : Step} (hq : t.Quiet st) : (t.step cfg st).Safe := by
  cases st with
  | accept c =>
    rw [Threads.step]
    split_ifs
    · refine ht.act rfl ?_
      intro c'
      rcases eq_or_ne c' c with rfl | hne
      · right
        simp [BrokerState.Open, BrokerState.channel, BrokerState.accept, Client.new]
      · left
        simp [BrokerState.channel, BrokerState.accept, AList.lookup_insert_ne hne]
    · exact ht
  | register c clientID protocolVersion =>
    rw [Threads.step]
    split_ifs with hopen
    · exact ht.act (BrokerState.panicked_enroll ..)
        (BrokerState.channel_enroll hopen clientID protocolVersion)
    · exact ht
  | subscribe clientID filter qos | unsubscribe clientID filter =>
    exact ht.act_of_health (f := fun b => { b with subscriptions := _ }) rfl
  | own c pkt =>
    rw [Threads.step]
    split_ifs with hopen
    · exact ht.act_of_health (BrokerState.health_send hopen pkt)
    · exact ht
  | snapshot topic payload qos retain forwarded =>
    -- the connections that the call picks are open
    refine ⟨ht.running, ?_, ht.takeovers⟩
    intro r hr d hd
    rcases List.mem_append.1 hr with hr | hr
    · exact ht.routes r hr d hd
    · rw [List.mem_singleton.1 hr] at hd
      exact hq d hd
  | deliver i now =>
    rw [Threads.step]
    cases hi : t.routes[i]? with
    | none => exact ht
    | some r => exact ht.advance cfg hi now
  | lookup clientID =>
    rw [Threads.step]
    cases hl : t.broker.clients.lookup clientID with
    | none => exact ht
    | some existing =>
      refine ⟨ht.running, ht.routes, ?_⟩
      intro c hc
      rcases List.mem_append.1 hc with hc | hc
      · exact ht.takeovers c hc
      · rw [List.mem_singleton.1 hc]
        exact hq existing hl
  | sendDisconnect i =>
    rw [Threads.step]
    cases hi : t.takeovers[i]? with
    | none => exact ht
    | some c =>
      have htell := ht.takeovers c (List.mem_of_getElem? hi)
      exact ht.of_health (BrokerState.health_sendDisconnectAndClose htell 0x8E)
        (fun r hr _ hd => ⟨r, hr, hd⟩) fun c' hc' => List.mem_of_mem_eraseIdx hc'
  | close c => exact ht.close cfg hq
  | unregister c =>
    rw [Threads.step]
    split_ifs
    · exact ht
    · exact ht.act_of_health (BrokerState.health_unregisterClient c)

/-- In every interleaving, from any state with no call under way, whose steps are all quiet: no
step sends on a closed channel. -/
theorem no_send_on_closed (t : Threads σ ρ) (hrunning : t.broker.panicked = false)
    (hroutes : t.routes = []) (htakeovers : t.takeovers = []) (steps : List Step)
    (hsteps : ∀ x ∈ trace (step cfg) t steps, x.1.Quiet x.2) :
    ∀ x ∈ trace (step cfg) t steps, (x.1.step cfg x.2).broker.panicked = false := by
  have ht : t.Safe := ⟨hrunning, by simp [hroutes], by simp [htakeovers]⟩
  intro x hx
  have hsafe : x.1.Safe :=
    trace_invariant Safe Quiet (fun t st ht hq => ht.step cfg hq) ht hsteps x hx
  exact (hsafe.step cfg (hsteps x hx)).running

/-! ### Calls that are not interrupted -/

lemma foldl_deliver (b : BrokerState σ ρ) (r : Route) (now : ℤ) :
    ((List.replicate (r.deliveries.length + r.offlineDeliveries.length)
        (Step.deliver 0 now)).foldl (step cfg) ⟨b, [r], []⟩).broker =
      r.offlineDeliveries.foldl (fun b d => b.enqueueOffline r.topic r.payload now d)
        (r.deliveries.foldl (fun b d => b.deliver cfg r.topic r.payload now d) b) := by
  obtain ⟨topic, payload, deliveries, offlineDeliveries⟩ := r
  induction deliveries generalizing b with
  | cons d deliveries ih =>
    rw [List.length_cons, Nat.add_right_comm, List.replicate_succ, List.foldl_cons]
    exact ih (b.deliver cfg topic payload now d)
  | nil =>
    rw [List.length_nil, Nat.zero_add]
    induction offlineDeliveries generalizing b with
    | nil => rfl
    | cons d offlineDeliveries ih =>
      rw [List.length_cons, List.replicate_succ, List.foldl_cons]
      exact ih (b.enqueueOffline topic payload now d)

/-- A call of `routeMessage` that is not interrupted takes a snapshot and goes through it. -/
theorem routeMessage_eq_steps (b : BrokerState σ ρ) (topic : Str) (payload : Bytes) (qos : UInt8)
    (retain forwarded : Bool) (now : ℤ) :
    b.routeMessage cfg topic payload qos retain forwarded now =
      ((Step.snapshot topic payload qos retain forwarded ::
        List.replicate ((b.routes topic qos).1.length + (b.routes topic qos).2.length)
          (Step.deliver 0 now)).foldl (step cfg) ⟨b, [], []⟩).broker := by
  rw [List.foldl_cons]
  exact (foldl_deliver cfg _ ⟨topic, payload, (b.routes topic qos).1, (b.routes topic qos).2⟩
    now).symm

/-! ### Interleavings with a connection that ends -/

open BrokerState (TenantChain sampleConfig)

/-- The connection 0 of the client `s`, which has subscribed `t`. -/
def subscriberSteps : List Step :=
  [.accept 0, .register 0 (str "s") 5, .subscribe (str "s") (str "t") 0]

/-- A call of `routeMessage` takes its snapshot. -/
def snapshotT : Step := .snapshot (str "t") [] 0 false false

/-- The broker without interceptors after some steps. -/
def after (steps : List Step) : Threads TenantChain Unit :=
  steps.foldl (step sampleConfig) ⟨.new () none, [], []⟩

/-- A message is delivered, and the connection ends after that. -/
def quietSteps : List Step :=
  subscriberSteps ++ [snapshotT, .deliver 0 0, .close 0, .unregister 0]

theorem no_send_on_closed_sample :
    ((after quietSteps).step sampleConfig snapshotT).broker.panicked = false ∧
    ((after quietSteps).step sampleConfig snapshotT).broker.channel 0 = some (true, 5) := by
  refine ⟨?_, by decide⟩
  exact no_send_on_closed sampleConfig ⟨.new () none, [], []⟩ rfl rfl rfl
    (quietSteps ++ [snapshotT]) (by decide) _ mem_trace_concat

/-- The channel is closed between a snapshot and the delivery, between the closing and the
unregistration a snapshot is taken, or the channel is closed while the connection is taken
over: in all three cases there is a send on the closed channel. -/
theorem send_on_closed :
    ((after (subscriberSteps ++ [snapshotT, .close 0])).step sampleConfig
      (.deliver 0 0)).broker.panicked = true ∧
    ((after (subscriberSteps ++ [.close 0, snapshotT])).step sampleConfig
      (.deliver 0 0)).broker.panicked = true ∧
    ((after (subscriberSteps ++ [.lookup (str "s"), .close 0])).step sampleConfig
      (.sendDisconnect 0)).broker.panicked = true := by
  decide

end Threads

end Dmqtt.Broker
