/-
What a client publishes and the interceptors.

A message that a client causes, by a PUBLISH or as its will, leaves the broker through
`retainStore.Set` and `routeMessage`.  It is mediated if these calls are made with what a
successful `OnPublish` on the message has left in the event, and not at all if `OnPublish`
rejects it.  The source sets the retained message before it calls `OnPublish`, and publishes
wills without calling it: `mediated_iff` says for which messages this makes no difference.
-/
import Dmqtt.Broker.Handlers
import Dmqtt.Tenant

namespace Dmqtt.Broker

open Lib Codec Plugin

/-- What a client does that can emit a message. -/
inductive Action
  | publish (fh : FixedHeader) (data : Bytes)
  | close

/-- The topic and payload that a call emits. -/
def Call.emits : Call → Option (Str × Bytes)
  | .onPublish _ _ => none
  | .retainSet topic payload _ => some (topic, payload)
  | .routeMessage topic payload _ _ _ => some (topic, payload)

namespace BrokerState

variable {σ ε ρ : Type} (cfg : Config σ ε ρ) (b : BrokerState σ ρ)

/-- The handler of an action. -/
def act (c : ℕ) (now : ℤ) : Action → BrokerState σ ρ
  | .publish fh data => b.handlePublish cfg c fh data now
  | .close => b.close cfg c now

/-- The topic and payload of the message that an action causes. -/
def message (c : ℕ) : Action → Option (Str × Bytes)
  | .publish fh data =>
    match decodePublishPacket data fh.qos 4 with
    | .ok pkt => some (pkt.topic, pkt.payload)
    | .error _ => none
  | .close => (b.conns.lookup c).bind fun client =>
    client.will.map fun will => (will.topic, will.payload)

/-- The calls made between `b` and `b'`. -/
def callsSince (b' : BrokerState σ ρ) : List Call := b'.calls.drop b.calls.length

/-- The calls between `b` and `b'` that emit a message use what a successful `OnPublish` on the
message `msg` left, and there are none if `OnPublish` rejected. -/
structure Mediated (msg : Option (Str × Bytes)) (b' : BrokerState σ ρ) : Prop where
  emitted : ∀ call ∈ b.callsSince b', ∀ out, call.emits = some out →
    ∃ evt evt', Call.onPublish evt (some evt') ∈ b.callsSince b' ∧
      msg = some (evt.topic, evt.payload) ∧ out = (evt'.topic, evt'.payload)
  rejected : ∀ evt, Call.onPublish evt none ∈ b.callsSince b' →
    b'.retainStore = b.retainStore ∧ ∀ call ∈ b.callsSince b', call.emits = none

/-- A PUBLISH gets past the checks of `handlePublish`: it can be decoded, is no duplicate of
QoS 2, is authorized, and the rate limiter admits it. -/
structure Passes (c : ℕ) (fh : FixedHeader) (data : Bytes) (now : ℤ) (client : Client)
    (pkt : PublishPacket) : Prop where
  conn : b.conns.lookup c = some client
  decoded : decodePublishPacket data fh.qos 4 = .ok pkt
  fresh : fh.qos = 2 →
    (b.dedupStore.isDuplicate client.clientID pkt.packetID now).1 = false
  authorized : cfg.authorize client.username pkt.topic .publish = true
  admitted : (cfg.limiter.allowPublish b.rateLimiter client.clientID pkt.topic
    pkt.payload.length).1 = .ok ()

/-- When an action is mediated: a PUBLISH that gets past the checks and has its retain flag set
must be accepted by the interceptors with topic and payload as they are, and a connection that
ends must have no will. -/
def Untouched (c : ℕ) (now : ℤ) (s : σ) : Action → Prop
  | .publish fh data => ∀ client pkt, Passes cfg b c fh data now client pkt → fh.retain = true →
      (cfg.hooks.onPublish (publishEvent client fh pkt, s)).1 = .ok () ∧
      (cfg.hooks.onPublish (publishEvent client fh pkt, s)).2.1.topic = pkt.topic ∧
      (cfg.hooks.onPublish (publishEvent client fh pkt, s)).2.1.payload = pkt.payload
  | .close => ∀ client, b.conns.lookup c = some client → client.closed = false →
      client.clientID ≠ [] → client.will = none

variable {cfg b} in
/-- Only one packet can get past the checks: that of the connection and the data. -/
lemma Passes.unique {c : ℕ} {fh : FixedHeader} {data : Bytes} {now : ℤ} {client client' : Client}
    {pkt pkt' : PublishPacket} (h : Passes cfg b c fh data now client pkt)
    (h' : Passes cfg b c fh data now client' pkt') : client' = client ∧ pkt' = pkt :=
  ⟨Option.some_injective _ (h'.conn.symm.trans h.conn),
    Except.ok.inj (h'.decoded.symm.trans h.decoded)⟩

/-! ### The calls of the handlers -/

@[simp] lemma topic_publishEvent (client : Client) (fh : FixedHeader) (pkt : PublishPacket) :
    (publishEvent client fh pkt).topic = pkt.topic := rfl

@[simp] lemma payload_publishEvent (client : Client) (fh : FixedHeader) (pkt : PublishPacket) :
    (publishEvent client fh pkt).payload = pkt.payload := rfl

/-- The calls that `interceptAndRoute` makes. -/
def routingCalls (evt : PublishEvent) (s : σ) : List Call :=
  let out := cfg.hooks.onPublish (evt, s)
  match out.1 with
  | .error _ => [.onPublish evt none]
  | .ok () =>
    [.onPublish evt (some out.2.1),
      .routeMessage out.2.1.topic out.2.1.payload out.2.1.qos out.2.1.retain false]

variable {b} {s : σ}

lemma calls_interceptAndRoute (hs : b.interceptors = some s) (evt : PublishEvent) (now : ℤ) :
    (b.interceptAndRoute cfg evt now).calls = b.calls ++ routingCalls cfg evt s ∧
      (b.interceptAndRoute cfg evt now).retainStore = b.retainStore := by
  simp only [interceptAndRoute, hs, routingCalls]
  cases (cfg.hooks.onPublish (evt, s)).1 with
  | error err => exact ⟨rfl, rfl⟩
  | ok u =>
    simp only [calls_routeMessage, retainStore_routeMessage, List.append_assoc,
      List.cons_append, List.nil_append, and_self]

/-- Everything but the connections and the received packets of QoS 2. -/
def undeduped (b : BrokerState σ ρ) : BrokerState σ ρ :=
  { b.stores with dedupStore := ⟨∅, 0⟩ }

variable {b' : BrokerState σ ρ} {client : Client}

lemma undeduped_eq {b : BrokerState σ ρ} (h : b'.stores = b.stores) :
    b'.undeduped = b.undeduped := by
  rw [undeduped, h, undeduped]

lemma undeduped_acknowledge (b : BrokerState σ ρ) (c : ℕ) (clientID : Str) (qos : UInt8)
    (packetID : UInt16) (now : ℤ) :
    (b.acknowledge c clientID qos packetID now).2.undeduped = b.undeduped := by
  rw [acknowledge]
  dsimp only
  split_ifs
  · exact undeduped_eq (b.stores_send _ _)
  · exact (undeduped_eq (stores_send _ _ _)).trans rfl
  · exact (undeduped_eq (stores_send _ _ _)).trans rfl
  · rfl

lemma acknowledge_eq_true (b : BrokerState σ ρ) (c : ℕ) (clientID : Str) (qos : UInt8)
    (packetID : UInt16) (now : ℤ) :
    (b.acknowledge c clientID qos packetID now).1 = true ↔
      (qos = 2 → (b.dedupStore.isDuplicate clientID packetID now).1 = false) := by
  rw [acknowledge]
  dsimp only
  split_ifs with h₁ h₂ h₃
  · subst h₁
    simp
  · simp [h₂, h₃]
  · simpa using fun _ => h₃
  · simp [h₂]

/-- A PUBLISH is stopped by a check, or it gets past the checks to `retainSet` and
`interceptAndRoute`. -/
lemma handlePublish_cases (b : BrokerState σ ρ) (c : ℕ) (fh : FixedHeader) (data : Bytes)
    (now : ℤ) :
    ((b.handlePublish cfg c fh data now).calls = b.calls ∧
      (b.handlePublish cfg c fh data now).retainStore = b.retainStore ∧
      (b.handlePublish cfg c fh data now).interceptors = b.interceptors ∧
      ∀ client pkt, ¬ Passes cfg b c fh data now client pkt) ∨
    ∃ client pkt, ∃ b₁ : BrokerState σ ρ, Passes cfg b c fh data now client pkt ∧
      b₁.calls = b.calls ∧ b₁.retainStore = b.retainStore ∧ b₁.interceptors = b.interceptors ∧
      b.handlePublish cfg c fh data now = b₁.storeAndRoute cfg client fh pkt now := by
  rw [handlePublish]
  rcases hc : b.conns.lookup c with _ | client
  · refine Or.inl ⟨rfl, rfl, rfl, fun client pkt h => ?_⟩
    rw [h.conn] at hc
    cases hc
  rcases hd : decodePublishPacket data fh.qos 4 with err | pkt
  · refine Or.inl ⟨rfl, rfl, rfl, fun client pkt h => ?_⟩
    rw [h.decoded] at hd
    cases hd
  -- from here on only this connection and packet can get past the checks
  have hpasses : (∃ client' pkt', Passes cfg b c fh data now client' pkt') →
      Passes cfg b c fh data now client pkt := by
    rintro ⟨client', pkt', h⟩
    obtain rfl := Option.some_injective _ (h.conn.symm.trans hc)
    obtain rfl := Except.ok.inj (h.decoded.symm.trans hd)
    exact h
  have hframe := undeduped_acknowledge b c client.clientID fh.qos pkt.packetID now
  have hfresh := acknowledge_eq_true b c client.clientID fh.qos pkt.packetID now
  dsimp only
  generalize b.acknowledge c client.clientID fh.qos pkt.packetID now = out at hframe hfresh ⊢
  have hcalls : out.2.calls = b.calls := congrArg (fun b => b.calls) hframe
  have hretain : out.2.retainStore = b.retainStore := congrArg (fun b => b.retainStore) hframe
  have hint : out.2.interceptors = b.interceptors := congrArg (fun b => b.interceptors) hframe
  have hlim : out.2.rateLimiter = b.rateLimiter := congrArg (fun b => b.rateLimiter) hframe
  by_cases hack : out.1 = true
  swap
  · rw [if_neg hack]
    refine Or.inl ⟨hcalls, hretain, hint, fun client' pkt' h => ?_⟩
    exact hack (hfresh.2 (hpasses ⟨_, _, h⟩).fresh)
  rw [if_pos hack, checkPublish]
  by_cases hauth : cfg.authorize client.username pkt.topic .publish = true
  swap
  · rw [if_pos (by simpa using hauth)]
    refine Or.inl ⟨hcalls, hretain, hint, fun client' pkt' h => ?_⟩
    exact hauth (hpasses ⟨_, _, h⟩).authorized
  rw [if_neg (by simpa using hauth), hlim]
  rcases hr : (cfg.limiter.allowPublish b.rateLimiter client.clientID pkt.topic
    pkt.payload.length).1 with err | u <;> simp only [hr]
  · refine Or.inl ⟨hcalls, hretain, hint, fun client' pkt' h => ?_⟩
    have hadm := (hpasses ⟨_, _, h⟩).admitted
    rw [hr] at hadm
    cases hadm
  · refine Or.inr ⟨client, pkt, _, ⟨hc, hd, hfresh.1 hack, hauth, hr⟩, ?_, ?_, ?_, rfl⟩
    · exact hcalls
    · exact hretain
    · exact hint

/-- The calls that `storeAndRoute` makes. -/
def publishCalls (client : Client) (fh : FixedHeader) (pkt : PublishPacket) (s : σ) : List Call :=
  (if fh.retain then [Call.retainSet pkt.topic pkt.payload fh.qos] else []) ++
    routingCalls cfg (publishEvent client fh pkt) s

lemma calls_storeAndRoute (hs : b.interceptors = some s) (client : Client) (fh : FixedHeader)
    (pkt : PublishPacket) (now : ℤ) :
    (b.storeAndRoute cfg client fh pkt now).calls = b.calls ++ publishCalls cfg client fh pkt s ∧
      (fh.retain = false →
        (b.storeAndRoute cfg client fh pkt now).retainStore = b.retainStore) := by
  cases hret : fh.retain with
  | false =>
    have h := calls_interceptAndRoute cfg hs (publishEvent client fh pkt) now
    simpa [storeAndRoute, publishCalls, hret] using h
  | true =>
    have h := (calls_interceptAndRoute cfg (b := b.retainSet pkt.topic pkt.payload fh.qos) hs
      (publishEvent client fh pkt) now).1
    simpa [storeAndRoute, publishCalls, hret, retainSet] using h

lemma calls_storeAndRoute_none (hs : b.interceptors = none) (client : Client) (fh : FixedHeader)
    (pkt : PublishPacket) (now : ℤ) :
    (b.storeAndRoute cfg client fh pkt now).calls = b.calls ++
      ((if fh.retain then [.retainSet pkt.topic pkt.payload fh.qos] else []) ++
        [.routeMessage pkt.topic pkt.payload fh.qos fh.retain false]) := by
  rw [storeAndRoute]
  split_ifs
  · simp [interceptAndRoute, retainSet, hs, calls_routeMessage, publishEvent]
  · simp [interceptAndRoute, hs, calls_routeMessage, publishEvent]

/-- The calls that the end of a connection makes. -/
def willCalls (client : Client) : List Call :=
  match client.will with
  | none => []
  | some will =>
    (if will.retain then [Call.retainSet will.topic will.payload will.qos] else []) ++
      [.routeMessage will.topic will.payload will.qos false false]

lemma calls_publishWill (b : BrokerState σ ρ) (client : Client) (now : ℤ) :
    (b.publishWill cfg client now).calls = b.calls ++ willCalls client := by
  rw [publishWill, willCalls]
  cases client.will with
  | none => simp
  | some will =>
    dsimp only
    rw [calls_routeMessage]
    split_ifs <;> simp [retainSet]

/-- A connection makes calls at its end only if it is open and has a client ID. -/
lemma calls_close (b : BrokerState σ ρ) (c : ℕ) (now : ℤ) :
    ((b.close cfg c now).calls = b.calls ∧ ∀ client, b.conns.lookup c = some client →
      client.closed = false → client.clientID = []) ∨
    ∃ client, b.conns.lookup c = some client ∧ client.closed = false ∧ client.clientID ≠ [] ∧
      (b.close cfg c now).calls = b.calls ++ willCalls client := by
  have hmod := b.stores_modifyClient c fun client => { client with closed := true }
  rcases b.close_cases cfg c now with ⟨heq, hclosed⟩ | ⟨client, hc, hopen, ⟨hid, heq⟩ | ⟨hid, heq⟩⟩
  · refine Or.inl ⟨by rw [heq], fun client hc hopen => ?_⟩
    exact absurd (hclosed client hc) (by simp [hopen])
  · refine Or.inl ⟨by rw [heq]; exact congrArg (fun b => b.calls) hmod, fun client' hc' _ => ?_⟩
    rwa [Option.some_injective _ (hc'.symm.trans hc)]
  · refine Or.inr ⟨client, hc, hopen, hid, ?_⟩
    obtain ⟨subscriptions, sessions, offlineStore, hend⟩ :=
      (b.leave cfg c client now).endSession_eq client.clientID now
    obtain ⟨clients, hunregister⟩ := (b.modifyClient c _).unregisterClient_eq c
    rw [heq, hend]
    rw [leave, calls_publishWill, hunregister]
    exact congrArg (fun b => b.calls ++ willCalls client) hmod

/-! ### When the calls are mediated -/

lemma callsSince_eq {new : List Call} (h : b'.calls = b.calls ++ new) : b.callsSince b' = new := by
  rw [callsSince, h, List.drop_left]

lemma mediated_of_calls_eq {msg : Option (Str × Bytes)} (h : b'.calls = b.calls) :
    b.Mediated msg b' := by
  have hnil : b.callsSince b' = [] := callsSince_eq (by rw [h, List.append_nil])
  constructor <;> simp [hnil]

/-- A PUBLISH without the retain flag is mediated. -/
lemma mediated_of_not_retain {fh : FixedHeader} {pkt : PublishPacket}
    (hcalls : b'.calls = b.calls ++ publishCalls cfg client fh pkt s)
    (hstore : b'.retainStore = b.retainStore) (hret : fh.retain = false) :
    b.Mediated (some (pkt.topic, pkt.payload)) b' := by
  have hnew := callsSince_eq hcalls
  simp only [publishCalls, hret, routingCalls] at hnew
  cases hr : (cfg.hooks.onPublish (publishEvent client fh pkt, s)).1 with
  | error err =>
    simp only [hr] at hnew
    constructor <;> simp [hnew, hstore, Call.emits]
  | ok u =>
    simp only [hr] at hnew
    constructor <;> simp [hnew, Call.emits]

/-- A PUBLISH with the retain flag is mediated if the interceptors leave its topic and payload
alone, and only then. -/
lemma mediated_iff_of_retain {fh : FixedHeader} {pkt : PublishPacket}
    (hcalls : b'.calls = b.calls ++ publishCalls cfg client fh pkt s) (hret : fh.retain = true) :
    b.Mediated (some (pkt.topic, pkt.payload)) b' ↔
      (cfg.hooks.onPublish (publishEvent client fh pkt, s)).1 = .ok () ∧
      (cfg.hooks.onPublish (publishEvent client fh pkt, s)).2.1.topic = pkt.topic ∧
      (cfg.hooks.onPublish (publishEvent client fh pkt, s)).2.1.payload = pkt.payload := by
  have hnew := callsSince_eq hcalls
  simp only [publishCalls, hret, routingCalls] at hnew
  cases hr : (cfg.hooks.onPublish (publishEvent client fh pkt, s)).1 with
  | error err =>
    simp only [hr] at hnew
    refine iff_of_false (fun h => ?_) (by simp)
    -- the retained message is set, but nothing was accepted
    obtain ⟨evt, evt', hmem, -⟩ := h.emitted (.retainSet pkt.topic pkt.payload fh.qos)
      (by simp [hnew]) _ rfl
    simp [hnew] at hmem
  | ok u =>
    simp only [hr] at hnew
    constructor
    · intro h
      obtain ⟨evt, evt', hmem, -, hout⟩ := h.emitted (.retainSet pkt.topic pkt.payload fh.qos)
        (by simp [hnew]) _ rfl
      obtain ⟨-, rfl⟩ : evt = publishEvent client fh pkt ∧ evt' = _ := by
        simpa [hnew] using hmem
      exact ⟨rfl, (Prod.ext_iff.1 hout).1.symm, (Prod.ext_iff.1 hout).2.symm⟩
    · rintro ⟨-, htopic, hpayload⟩
      constructor <;> simp [hnew, Call.emits, htopic, hpayload]

/-- A will is not mediated. -/
lemma mediated_iff_of_will {msg : Option (Str × Bytes)}
    (hcalls : b'.calls = b.calls ++ willCalls client) :
    b.Mediated msg b' ↔ client.will = none := by
  have hnew := callsSince_eq hcalls
  constructor
  · intro h
    rw [willCalls] at hnew
    rcases hw : client.will with _ | will
    · rfl
    · simp only [hw] at hnew
      obtain ⟨evt, evt', hmem, -⟩ := h.emitted
        (.routeMessage will.topic will.payload will.qos false false) (by simp [hnew]) _ rfl
      rw [hnew] at hmem
      split_ifs at hmem <;> simp at hmem
  · intro hw
    rw [willCalls, hw] at hcalls
    exact mediated_of_calls_eq (by rw [hcalls, List.append_nil])

/-- For every interceptor chain, client and message it causes: the message is mediated if it is
a PUBLISH without the retain flag, or one that does not get past the checks of
`handlePublish`, or one whose topic and payload the interceptors accept as they are, or if the
connection ends without a will; and only then. -/
theorem mediated_iff (b : BrokerState σ ρ) (s : σ) (hs : b.interceptors = some s) (c : ℕ)
    (now : ℤ) (action : Action) :
    b.Mediated (b.message c action) (b.act cfg c now action) ↔
      Untouched cfg b c now s action := by
  cases action with
  | close =>
    rcases calls_close cfg b c now with ⟨hcalls, hno⟩ | ⟨client, hc, hopen, hid, hcalls⟩
    · exact iff_of_true (mediated_of_calls_eq hcalls) fun client hc hopen hid =>
        absurd (hno client hc hopen) hid
    · refine (mediated_iff_of_will hcalls).trans ⟨?_, fun h => h client hc hopen hid⟩
      intro hw client' hc' _ _
      obtain rfl := Option.some_injective _ (hc.symm.trans hc')
      exact hw
  | publish fh data =>
    rcases handlePublish_cases cfg b c fh data now with ⟨hcalls, -, -, hno⟩ | h
    · exact iff_of_true (mediated_of_calls_eq hcalls) fun client pkt h =>
        absurd h (hno client pkt)
    obtain ⟨client, pkt, b₁, hp, hcalls, hstore, hint, heq⟩ := h
    have hmsg : b.message c (.publish fh data) = some (pkt.topic, pkt.payload) := by
      rw [message, hp.decoded]
    obtain ⟨hnew, hkeep⟩ := calls_storeAndRoute cfg (hint.trans hs) client fh pkt now
    rw [hcalls] at hnew
    rw [act, heq, hmsg]
    cases hret : fh.retain with
    | false =>
      refine iff_of_true (mediated_of_not_retain cfg hnew ((hkeep hret).trans hstore) hret) ?_
      intro client' pkt' _ hret'
      exact absurd hret' (by simp [hret])
    | true =>
      refine (mediated_iff_of_retain cfg hnew hret).trans ⟨?_, fun h => h client pkt hp hret⟩
      intro h client' pkt' hp' _
      obtain ⟨rfl, rfl⟩ := hp.unique hp'
      exact h

/-! ### A broker with a tenant -/

open Tenants

/-- The state of a chain with the tenant interceptor. -/
abbrev TenantChain : Type :=
  InterceptorChain (TenantManager Unit × Unit) (TenantErr ⊕ Empty) × (TenantManager Unit × Unit) ×
    (ℕ → ℕ → RunEnv)

/-- A broker with the interceptor chain of the package `plugin`, on which everything else is
allowed. -/
def sampleConfig : Config TenantChain (Plugin.Err (TenantErr ⊕ Empty)) Unit where
  hooks := chainHooks _ _
  limiter := ⟨fun r _ _ _ => (.ok (), r), fun r _ _ => (.ok (), r)⟩
  authenticate _ _ := true
  authorize _ _ _ := true
  inflightLimit := 20
  autoID _ := str "auto"
  remoteAddr _ := []

/-- Nothing is refused, and the interceptors do nothing. -/
def plainConfig : Config Unit Empty Unit where
  hooks := ⟨fun x => (.ok (), x), fun x => (.ok (), x), fun x => (.ok (), x), fun x => (.ok (), x),
    fun x => (.ok (), x), fun _ s => s⟩
  limiter := ⟨fun r _ _ _ => (.ok (), r), fun r _ _ => (.ok (), r)⟩
  authenticate _ _ := true
  authorize _ _ _ := true
  inflightLimit := 20
  autoID _ := str "auto"
  remoteAddr _ := []

/-- A broker with the tenants `a` and `b`. -/
def tenantBroker : BrokerState TenantChain Unit :=
  .new () (some (sampleSystem.chain, sampleSystem.state, fun _ => callAt 1))

/-- A client of the tenant `b`. -/
def sampleConnect (willFlag : Bool) : ConnectPacket where
  protocolName := str "MQTT"
  protocolLevel := 4
  cleanSession := true
  clientID := str "cb"
  username := str "b"
  willFlag := willFlag
  willTopic := str "w"

/-- The broker once the client is connected. -/
def connectedBroker (willFlag : Bool) : BrokerState TenantChain Unit :=
  ((tenantBroker.accept sampleConfig 0).handleConnect sampleConfig 0 (sampleConnect willFlag) 1).2

/-- A PUBLISH of the topic `t`. -/
def samplePublish (retain : Bool) : Action :=
  .publish { packetType := PUBLISH, retain := retain, remainingLength := 4 } [0, 1, 0x74, 0x2A]

theorem mediated_iff_sample :
    (connectedBroker false).Mediated (some (str "t", [0x2A]))
      ((connectedBroker false).act sampleConfig 0 1 (samplePublish false)) ∧
    (connectedBroker false).callsSince
      ((connectedBroker false).act sampleConfig 0 1 (samplePublish false)) =
        [.onPublish ⟨str "cb", str "t", [0x2A], 0, false⟩
          (some ⟨str "cb", str "b/t", [0x2A], 0, false⟩),
          .routeMessage (str "b/t") [0x2A] 0 false false] := by
  refine ⟨?_, by decide⟩
  refine (mediated_iff sampleConfig (connectedBroker false) _ rfl 0 1 (samplePublish false)).2 ?_
  intro client pkt _ hret
  cases hret

/-- A retained message of tenant `b` is stored without the prefix of `b`, and its will is
published without it. -/
theorem not_mediated :
    (connectedBroker false).callsSince
      ((connectedBroker false).act sampleConfig 0 1 (samplePublish true)) =
        [.retainSet (str "t") [0x2A] 0,
          .onPublish ⟨str "cb", str "t", [0x2A], 0, true⟩
            (some ⟨str "cb", str "b/t", [0x2A], 0, true⟩),
          .routeMessage (str "b/t") [0x2A] 0 true false] ∧
    ¬ (connectedBroker false).Mediated ((connectedBroker false).message 0 (samplePublish true))
      ((connectedBroker false).act sampleConfig 0 1 (samplePublish true)) ∧
    (connectedBroker true).callsSince ((connectedBroker true).act sampleConfig 0 1 .close) =
      [.routeMessage (str "w") [] 0 false false] ∧
    ¬ (connectedBroker true).Mediated ((connectedBroker true).message 0 .close)
      ((connectedBroker true).act sampleConfig 0 1 .close) := by
  have hpub : (connectedBroker false).callsSince
      ((connectedBroker false).act sampleConfig 0 1 (samplePublish true)) =
        [.retainSet (str "t") [0x2A] 0,
          .onPublish ⟨str "cb", str "t", [0x2A], 0, true⟩
            (some ⟨str "cb", str "b/t", [0x2A], 0, true⟩),
          .routeMessage (str "b/t") [0x2A] 0 true false] := by decide
  have hwill : (connectedBroker true).callsSince
      ((connectedBroker true).act sampleConfig 0 1 .close) =
        [.routeMessage (str "w") [] 0 false false] := by decide
  refine ⟨hpub, fun h => ?_, hwill, fun h => ?_⟩
  · obtain ⟨evt, evt', hmem, -, hout⟩ := h.emitted (.retainSet (str "t") [0x2A] 0)
      (by simp [hpub]) _ rfl
    obtain ⟨-, rfl⟩ : evt = _ ∧ evt' = _ := by simpa [hpub] using hmem
    exact absurd hout (by decide)
  · obtain ⟨evt, evt', hmem, -⟩ := h.emitted (.routeMessage (str "w") [] 0 false false)
      (by simp [hwill]) _ rfl
    simp [hwill] at hmem

end BrokerState

end Dmqtt.Broker
