/-
Which messages of a client are authorized.

`handlePublish` asks the authorizer about the topic of the packet, before the interceptors see
the packet.  A will is not asked about, neither when the connection is made nor when it ends, and
neither is the topic that `OnPublish` leaves.  `publish_authorized_iff` says that this is all that
escapes the authorizer, in every run; `authorized_of_connects` turns it into a condition on the
CONNECT packets and the interceptors.
-/
import Dmqtt.Broker.Presence
import Dmqtt.Broker.Reaper

namespace Dmqtt.Broker

open Lib Codec Plugin Tenants

/-- What happens at the broker, with the packets that `Op` leaves out. -/
inductive Event
  | op (op : Op)
  | unsubscribe (c : ℕ) (pkt : UnsubscribePacket)
  | puback (c : ℕ) (data : Bytes)
  | pubrec (c : ℕ) (data : Bytes)
  | pubrel (c : ℕ) (data : Bytes)
  | pubcomp (c : ℕ) (data : Bytes)

/-- The connection that an event belongs to. -/
def Event.conn : Event → Option ℕ
  | .op (.accept c) => some c
  | .op (.connect c _ _) => some c
  | .op (.publish c _ _ _) => some c
  | .op (.subscribe c _) => some c
  | .op (.disconnect c _) => some c
  | .op (.close c _) => some c
  | .op (.sweep _) => none
  | .unsubscribe c _ => some c
  | .puback c _ => some c
  | .pubrec c _ => some c
  | .pubrel c _ => some c
  | .pubcomp c _ => some c

/-- The topics on which calls route or retain a message. -/
def emittedTopics (calls : List Call) : List Str := (calls.filterMap Call.emits).map Prod.fst

namespace BrokerState

variable {σ ε ρ : Type} (cfg : Config σ ε ρ) (b : BrokerState σ ρ)

/-- One event. -/
def handleEvent : Event → BrokerState σ ρ
  | .op op => b.step cfg op
  | .unsubscribe c pkt => b.handleUnsubscribe cfg c pkt
  | .puback c data => b.handlePuback c data
  | .pubrec c data => b.handlePubrec c data
  | .pubrel c data => b.handlePubrel c data
  | .pubcomp c data => b.handlePubcomp c data

/-- What is routed or retained at an event is authorized for the user of its connection. -/
def Authorized (e : Event) : Prop :=
  ∀ topic ∈ emittedTopics (b.callsSince (b.handleEvent cfg e)),
    ∃ c client, e.conn = some c ∧ b.conns.lookup c = some client ∧
      cfg.authorize client.username topic .publish = true

/-- The topic that `OnPublish` leaves is authorized, and so is the topic of a will that is
published. -/
def Vetted : Event → Prop
  | .op (.publish c fh data now) => ∀ client pkt s, Passes cfg b c fh data now client pkt →
      b.interceptors = some s →
      (cfg.hooks.onPublish (publishEvent client fh pkt, s)).1 = .ok () →
      cfg.authorize client.username
        (cfg.hooks.onPublish (publishEvent client fh pkt, s)).2.1.topic .publish = true
  | .op (.close c _) => ∀ client will, b.conns.lookup c = some client → client.closed = false →
      client.clientID ≠ [] → client.will = some will →
      cfg.authorize client.username will.topic .publish = true
  | _ => True

/-! ### Who a connection speaks for -/

/-- The user and the will of each connection. -/
def credentials (c : ℕ) : Option (Str × Option WillMessage) :=
  (b.conns.lookup c).map fun client => (client.username, client.will)

/-- The calls, and the users and wills of the connections. -/
def ledger : List Call × (ℕ → Option (Str × Option WillMessage)) := (b.calls, b.credentials)

variable {b' : BrokerState σ ρ} (client : Client) (topic : Str) (addr : Option ℕ) (c : ℕ)
  (fh : FixedHeader) (data : Bytes) (clientID : Str) (pkt : ConnectPacket) (now : ℤ)

lemma credentials_eq_map_profile :
    b.credentials c = (b.profile c).map fun p => (p.username, p.will) := by
  rw [credentials, profile, Option.map_map]
  rfl

variable {b} in
lemma credentials_eq_of_profile (h : b'.profile = b.profile) : b'.credentials = b.credentials := by
  funext c
  rw [credentials_eq_map_profile, credentials_eq_map_profile, h]

variable {b} in
lemma ledger_eq (hunrouted : b'.unrouted = b.unrouted) (hprofile : b'.profile = b.profile) :
    b'.ledger = b.ledger :=
  Prod.ext (congrArg (fun b => b.calls) hunrouted) (credentials_eq_of_profile hprofile)

lemma ledger_modifyClient {f : Client → Client}
    (hf : ∀ client, (f client).profile = client.profile) :
    (b.modifyClient c f).ledger = b.ledger :=
  ledger_eq (unrouted_eq (b.stores_modifyClient c f)) (b.profile_modifyClient_of_eq c hf)

@[simp] lemma ledger_send (pkt : Outgoing) : (b.send c pkt).ledger = b.ledger :=
  ledger_eq (unrouted_eq (b.stores_send c pkt)) (b.profile_send c pkt)

lemma credentials_routeMessage (payload : Bytes) (qos : UInt8) (retain forwarded : Bool) (now : ℤ) :
    (b.routeMessage cfg topic payload qos retain forwarded now).credentials = b.credentials :=
  credentials_eq_of_profile (b.profile_routeMessage cfg topic payload qos retain forwarded now)

/-! ### Packets that emit nothing -/

lemma ledger_handleSubscribe (pkt : SubscribePacket) :
    (b.handleSubscribe cfg c pkt).ledger = b.ledger := by
  cases hc : b.conns.lookup c with
  | none => rw [handleSubscribe, hc]
  | some client =>
    have hcalls := congrArg (fun b => b.calls) (stores_handleSubscribe cfg hc pkt)
    obtain ⟨_, _, _, _, hloop⟩ := b.subscribeLoop_eq cfg client
      ((b.sessions.get client.clientID).map Session.addr) pkt.subscriptions
    exact Prod.ext (hcalls.trans (congrArg (fun b => b.calls) hloop))
      (credentials_eq_of_profile (b.profile_handleSubscribe cfg c pkt))

lemma ledger_unsubscribeLoop (filters : List Str) :
    (unsubscribeLoop cfg client addr filters b).2.ledger = b.ledger := by
  induction filters generalizing b with
  | nil => rfl
  | cons filter filters ih =>
    refine (ih (b.unsubscribeOne cfg client addr filter).2).trans ?_
    rw [unsubscribeOne]
    split <;> rfl

lemma ledger_handleUnsubscribe (pkt : UnsubscribePacket) :
    (b.handleUnsubscribe cfg c pkt).ledger = b.ledger := by
  rw [handleUnsubscribe]
  cases b.conns.lookup c with
  | none => rfl
  | some client =>
    rw [ledger_send]
    exact b.ledger_unsubscribeLoop cfg client _ pkt.topicFilters

lemma ledger_handlePuback : (b.handlePuback c data).ledger = b.ledger := by
  rw [handlePuback]
  split
  · rfl
  · exact b.ledger_modifyClient c fun _ => rfl

lemma ledger_handlePubrec : (b.handlePubrec c data).ledger = b.ledger := by
  rw [handlePubrec]
  split
  · rfl
  · rw [ledger_send]
    exact b.ledger_modifyClient c fun _ => rfl

lemma ledger_handlePubrel : (b.handlePubrel c data).ledger = b.ledger := by
  rw [handlePubrel]
  split
  · rw [ledger_send]
    rfl
  · rfl

lemma ledger_sweep : (b.sweep now).ledger = b.ledger :=
  foldl_frame ledger (fun _ _ => by rfl) _ b

lemma handleDisconnect_ledger :
    (b.handleDisconnect c data).calls = b.calls ∧ ∀ c' cred,
      (b.handleDisconnect c data).credentials c' = some cred → b.credentials c' = some cred ∨
        cred.2 = none := by
  cases hc : b.conns.lookup c with
  | none =>
    rw [handleDisconnect, hc]
    exact ⟨rfl, fun c' cred h => Or.inl h⟩
  | some client =>
    refine ⟨?_, fun c' cred h => ?_⟩
    · rw [handleDisconnect, hc]
      dsimp only
      split_ifs
      · rfl
      · exact congrArg (fun b => b.calls) (b.stores_modifyClient c _)
    · rw [credentials_eq_map_profile, profile_handleDisconnect b hc] at h
      split_ifs at h
      · cases h
        exact Or.inr rfl
      · exact Or.inl ((b.credentials_eq_map_profile c').trans h)

/-! ### The handshake -/

/-- The user and the will that a connection has after a CONNECT. -/
def connectCredentials (pkt : ConnectPacket) (old : Str × Option WillMessage) :
    Str × Option WillMessage :=
  (pkt.username, (willOf pkt).or old.2)

lemma establish_ledger :
    (b.establish cfg c clientID pkt now).2.calls = b.calls ∧
      ∀ c', (b.establish cfg c clientID pkt now).2.credentials c' =
        if c' = c then (b.credentials c).map (connectCredentials pkt) else b.credentials c' := by
  refine ⟨?_, fun c' => ?_⟩
  · have hcalls := congrArg (fun b => b.calls) (b.unrouted_establish cfg c clientID pkt now)
    obtain ⟨_, _, hout⟩ := b.snd_openSession clientID pkt.cleanSession (expiryInterval pkt)
    rwa [hout] at hcalls
  · simp only [credentials_eq_map_profile, profile_establish]
    split_ifs
    · rw [Option.map_map, Option.map_map]
      rfl
    · rfl

/-- A CONNECT sets the user and the will of its connection, or nothing. -/
lemma handleConnect_ledger :
    (b.handleConnect cfg c pkt now).2.calls = b.calls ∧
      ((b.handleConnect cfg c pkt now).2.credentials = b.credentials ∨
        ∀ c', (b.handleConnect cfg c pkt now).2.credentials c' =
          if c' = c then (b.credentials c).map (connectCredentials pkt)
          else b.credentials c') := by
  have hrefused : ∀ pkt, (b.send c pkt).calls = b.calls ∧
      (b.send c pkt).credentials = b.credentials :=
    fun pkt => Prod.ext_iff.1 (b.ledger_send c pkt)
  rw [handleConnect]
  split_ifs
  · exact ⟨(hrefused _).1, Or.inl (hrefused _).2⟩
  · exact ⟨(hrefused _).1, Or.inl (hrefused _).2⟩
  · exact ⟨(hrefused _).1, Or.inl (hrefused _).2⟩
  · obtain ⟨hcalls, hcred⟩ := b.establish_ledger cfg c (effectiveClientID cfg c pkt) pkt now
    exact ⟨hcalls, Or.inr hcred⟩

/-! ### What is emitted -/

@[simp] lemma emittedTopics_append (calls calls' : List Call) :
    emittedTopics (calls ++ calls') = emittedTopics calls ++ emittedTopics calls' := by
  simp [emittedTopics]

@[simp] lemma emittedTopics_ite (p : Prop) [Decidable p] (call : Call) :
    emittedTopics (if p then [call] else []) =
      if p then (call.emits.map Prod.fst).toList else [] := by
  split_ifs
  · cases h : call.emits <;> simp [emittedTopics, h]
  · rfl

/-- The topics on which `interceptAndRoute` routes a message. -/
def routedTopics (evt : PublishEvent) : List Str :=
  match b.interceptors with
  | none => [evt.topic]
  | some s =>
    match (cfg.hooks.onPublish (evt, s)).1 with
    | .error _ => []
    | .ok () => [(cfg.hooks.onPublish (evt, s)).2.1.topic]

lemma mem_routedTopics (evt : PublishEvent) (topic : Str) :
    topic ∈ b.routedTopics cfg evt ↔
      (b.interceptors = none ∧ topic = evt.topic) ∨
      ∃ s, b.interceptors = some s ∧ (cfg.hooks.onPublish (evt, s)).1 = .ok () ∧
        topic = (cfg.hooks.onPublish (evt, s)).2.1.topic := by
  rw [routedTopics]
  cases b.interceptors with
  | none => simp
  | some s =>
    cases h : (cfg.hooks.onPublish (evt, s)).1 <;> simp [h]

/-- A PUBLISH that gets past the checks is retained under its own topic, and routed under the
topic that the interceptors leave. -/
lemma topics_storeAndRoute (pkt : PublishPacket) (now : ℤ) :
    ∃ new, (b.storeAndRoute cfg client fh pkt now).calls = b.calls ++ new ∧
      emittedTopics new = (if fh.retain then [pkt.topic] else []) ++
        b.routedTopics cfg (publishEvent client fh pkt) := by
  cases hs : b.interceptors with
  | none =>
    refine ⟨_, calls_storeAndRoute_none cfg hs client fh pkt now, ?_⟩
    rw [emittedTopics_append, emittedTopics_ite, routedTopics, hs]
    rfl
  | some s =>
    refine ⟨_, (calls_storeAndRoute cfg hs client fh pkt now).1, ?_⟩
    rw [publishCalls, emittedTopics_append, emittedTopics_ite, routingCalls, routedTopics, hs]
    dsimp only
    cases (cfg.hooks.onPublish (publishEvent client fh pkt, s)).1 <;> rfl

/-- The will is retained and routed under its topic. -/
lemma topics_willCalls :
    topic ∈ emittedTopics (willCalls client) ↔
      ∃ will, client.will = some will ∧ topic = will.topic := by
  rw [willCalls]
  cases client.will with
  | none => simp [emittedTopics]
  | some will =>
    rw [emittedTopics_append, emittedTopics_ite]
    split_ifs <;> simp [emittedTopics, Call.emits]

/-! ### Events and runs -/

variable {b}

lemma authorized_of_calls_eq {e : Event} (h : (b.handleEvent cfg e).calls = b.calls) :
    Authorized cfg b e := by
  rw [Authorized, callsSince_eq (h.trans (List.append_nil _).symm)]
  intro topic ht
  cases ht

lemma authorized_publish_iff :
    Authorized cfg b (.op (.publish c fh data now)) ↔
      Vetted cfg b (.op (.publish c fh data now)) := by
  rcases handlePublish_cases cfg b c fh data now with ⟨hcalls, -, -, hno⟩ | h
  · exact iff_of_true (authorized_of_calls_eq cfg hcalls) fun client pkt s hp =>
      absurd hp (hno client pkt)
  obtain ⟨client, pkt, b₁, hp, hcalls, -, hint, heq⟩ := h
  obtain ⟨new, hnew, htopics⟩ := b₁.topics_storeAndRoute cfg client fh pkt now
  rw [hcalls, ← heq] at hnew
  rw [Authorized, show b.callsSince (b.handleEvent cfg (.op (.publish c fh data now))) = new from
    callsSince_eq hnew, htopics]
  simp only [List.mem_append, mem_routedTopics, hint]
  constructor
  · intro h client' pkt' s hp' hs hok
    obtain ⟨rfl, rfl⟩ := hp.unique hp'
    obtain ⟨c', client'', hconn, hc', hauth⟩ := h _ (Or.inr (Or.inr ⟨s, hs, hok, rfl⟩))
    cases hconn
    rwa [Option.some_injective _ (hc'.symm.trans hp.conn)] at hauth
  · intro h topic ht
    refine ⟨c, client, rfl, hp.conn, ?_⟩
    rcases ht with ht | ⟨-, rfl⟩ | ⟨s, hs, hok, rfl⟩
    · split_ifs at ht
      · rw [List.mem_singleton.1 ht]
        exact hp.authorized
      · cases ht
    · exact hp.authorized
    · exact h client pkt s hp hs hok

lemma authorized_close_iff :
    Authorized cfg b (.op (.close c now)) ↔ Vetted cfg b (.op (.close c now)) := by
  rcases calls_close cfg b c now with ⟨hcalls, hno⟩ | ⟨client, hc, hopen, hid, hcalls⟩
  · exact iff_of_true (authorized_of_calls_eq cfg hcalls) fun client will hc hopen hid =>
      absurd (hno client hc hopen) hid
  rw [Authorized, show b.callsSince (b.handleEvent cfg (.op (.close c now))) = willCalls client from
    callsSince_eq hcalls]
  constructor
  · intro h client' will hc' _ _ hwill
    obtain rfl := Option.some_injective _ (hc'.symm.trans hc)
    obtain ⟨c', client'', hconn, hc'', hauth⟩ :=
      h will.topic ((topics_willCalls client' will.topic).2 ⟨will, hwill, rfl⟩)
    cases hconn
    rwa [Option.some_injective _ (hc''.symm.trans hc)] at hauth
  · intro h topic ht
    obtain ⟨will, hwill, rfl⟩ := (topics_willCalls client topic).1 ht
    exact ⟨c, client, rfl, hc, h client will hc hopen hid hwill⟩

lemma authorized_iff (e : Event) : Authorized cfg b e ↔ Vetted cfg b e := by
  have hquiet : ∀ e : Event, (b.handleEvent cfg e).ledger = b.ledger → Authorized cfg b e :=
    fun e h => authorized_of_calls_eq cfg (congrArg Prod.fst h)
  cases e with
  | op op =>
    cases op with
    | accept c => exact iff_of_true (authorized_of_calls_eq cfg rfl) trivial
    | connect c pkt now =>
      exact iff_of_true
        (authorized_of_calls_eq cfg (b.handleConnect_ledger cfg c pkt now).1) trivial
    | publish c fh data now => exact authorized_publish_iff cfg c fh data now
    | subscribe c pkt => exact iff_of_true (hquiet _ (b.ledger_handleSubscribe cfg c pkt)) trivial
    | disconnect c data =>
      exact iff_of_true
        (authorized_of_calls_eq cfg (b.handleDisconnect_ledger c data).1) trivial
    | close c now => exact authorized_close_iff cfg c now
    | sweep now => exact iff_of_true (hquiet _ (b.ledger_sweep now)) trivial
  | unsubscribe c pkt => exact iff_of_true (hquiet _ (b.ledger_handleUnsubscribe cfg c pkt)) trivial
  | puback c data => exact iff_of_true (hquiet _ (b.ledger_handlePuback c data)) trivial
  | pubrec c data => exact iff_of_true (hquiet _ (b.ledger_handlePubrec c data)) trivial
  | pubrel c data => exact iff_of_true (hquiet _ (b.ledger_handlePubrel c data)) trivial
  | pubcomp c data => exact iff_of_true (hquiet _ rfl) trivial

/-- In every run, for every authorizer: what is routed or retained on behalf of a client is
authorized for its user if the topics that `OnPublish` leaves are, and the topics of the wills that
are published; and only then. -/
theorem publish_authorized_iff (b : BrokerState σ ρ) (events : List Event) :
    (∀ x ∈ trace (handleEvent cfg) b events, Authorized cfg x.1 x.2) ↔
      ∀ x ∈ trace (handleEvent cfg) b events, Vetted cfg x.1 x.2 :=
  forall₂_congr fun x _ => authorized_iff cfg x.2

/-! ### A will that nobody asks about -/

/-- The user `b` may publish on `t` only. -/
def aclConfig : Config TenantChain (Plugin.Err (TenantErr ⊕ Empty)) Unit :=
  let users : Auth.CredentialStore := ⟨(∅ : GoMap Str Auth.User).insert (str "b")
    { username := str "b", passwordHash := str "h", tenantID := str "b",
      acl := [⟨str "t", .publish⟩] }⟩
  { sampleConfig with authorize := users.authorize }

/-- A client of the user `b` connects with a will on `w`, and its connection ends. -/
def willRun : List Event :=
  [.op (.accept 0), .op (.connect 0 (sampleConnect true) 1), .op (.close 0 2)]

/-- The broker before the connection ends. -/
def willBroker : BrokerState TenantChain Unit :=
  (willRun.take 2).foldl (handleEvent aclConfig) tenantBroker

/-- The will is published on `w`, on which the user `b` must not publish. -/
theorem will_not_authorized :
    aclConfig.authorize (str "b") (str "w") .publish = false ∧
    (willBroker.conns.lookup 0).map Client.username = some (str "b") ∧
    willBroker.callsSince (willBroker.handleEvent aclConfig (.op (.close 0 2))) =
      [.routeMessage (str "w") [] 0 false false] ∧
    ¬ ∀ x ∈ trace (handleEvent aclConfig) tenantBroker willRun, Authorized aclConfig x.1 x.2 := by
  have hdenied : aclConfig.authorize (str "b") (str "w") .publish = false := by decide
  have huser : (willBroker.conns.lookup 0).map Client.username = some (str "b") := rfl
  have hcalls : willBroker.callsSince (willBroker.handleEvent aclConfig (.op (.close 0 2))) =
      [.routeMessage (str "w") [] 0 false false] := by decide +kernel
  refine ⟨hdenied, huser, hcalls, fun h => ?_⟩
  have hlast : (willBroker, Event.op (.close 0 2)) ∈
      trace (handleEvent aclConfig) tenantBroker willRun := mem_trace_concat
  obtain ⟨c, client, hconn, hc, hauth⟩ :=
    h _ hlast (str "w") (by rw [hcalls]; exact List.mem_singleton_self _)
  cases hconn
  have hname : client.username = str "b" :=
    Option.some_injective _ (by rw [← huser]; exact (congrArg (Option.map Client.username) hc).symm)
  rw [hname, hdenied] at hauth
  cases hauth

/-! ### Runs with authorized wills -/

/-- The wills that are set are authorized for their users. -/
def WillsAuthorized (b : BrokerState σ ρ) : Prop :=
  ∀ c user will, b.credentials c = some (user, some will) →
    cfg.authorize user will.topic .publish = true

/-- A CONNECT is the first packet of its connection, and its will is authorized. -/
def Proper (b : BrokerState σ ρ) : Event → Prop
  | .op (.connect c pkt _) => (∀ client, b.conns.lookup c = some client → client.will = none) ∧
      ∀ will, willOf pkt = some will → cfg.authorize pkt.username will.topic .publish = true
  | _ => True

lemma bystander_credentials : Bystander cfg (credentials : BrokerState σ ρ → _) where
  send b c pkt := congrArg Prod.snd (b.ledger_send c pkt)
  routeMessage b _ _ _ _ _ _ := b.credentials_routeMessage cfg ..
  rest _ _ _ _ _ _ _ := rfl

lemma credentials_close (b : BrokerState σ ρ) (c : ℕ) (now : ℤ) :
    (b.close cfg c now).credentials = b.credentials := by
  funext c'
  rw [credentials_eq_map_profile, credentials_eq_map_profile, profile_close]
  split_ifs with h
  · rw [h, Option.map_map]
    rfl
  · rfl

variable {cfg}

lemma WillsAuthorized.of_eq (hb : WillsAuthorized cfg b) (h : b'.credentials = b.credentials) :
    WillsAuthorized cfg b' := by
  intro c user will hc
  exact hb c user will (h ▸ hc)

lemma WillsAuthorized.connect (hb : WillsAuthorized cfg b) {c : ℕ} {pkt : ConnectPacket} {now : ℤ}
    (hp : Proper cfg b (.op (.connect c pkt now))) :
    WillsAuthorized cfg (b.handleConnect cfg c pkt now).2 := by
  rcases (b.handleConnect_ledger cfg c pkt now).2 with h | h
  · exact hb.of_eq h
  intro c' user will hc'
  rw [h] at hc'
  split_ifs at hc' with heq
  · obtain ⟨old, hold, hcred⟩ := Option.map_eq_some_iff.1 hc'
    obtain ⟨client, hc, rfl⟩ := Option.map_eq_some_iff.1 hold
    rw [connectCredentials, hp.1 client hc, Option.or_none, Prod.mk.injEq] at hcred
    rw [← hcred.1]
    exact hp.2 will hcred.2
  · exact hb c' user will hc'

lemma WillsAuthorized.handleEvent (hb : WillsAuthorized cfg b) {e : Event} (hp : Proper cfg b e) :
    WillsAuthorized cfg (b.handleEvent cfg e) := by
  have hquiet : ∀ e : Event, (b.handleEvent cfg e).ledger = b.ledger →
      WillsAuthorized cfg (b.handleEvent cfg e) := fun e h => hb.of_eq (congrArg Prod.snd h)
  cases e with
  | op op =>
    cases op with
    | accept c =>
      intro c' user will hc'
      obtain ⟨client, hlookup, hcred⟩ := Option.map_eq_some_iff.1 hc'
      rcases eq_or_ne c' c with rfl | hne
      · rw [show (b.handleEvent cfg (.op (.accept c'))).conns.lookup c' = _ from
          AList.lookup_insert _] at hlookup
        cases hlookup
        cases hcred
      · rw [show (b.handleEvent cfg (.op (.accept c))).conns.lookup c' = _ from
          AList.lookup_insert_ne hne] at hlookup
        exact hb c' user will (Option.map_eq_some_iff.2 ⟨client, hlookup, hcred⟩)
    | connect c pkt now => exact hb.connect hp
    | publish c fh data now =>
      exact hb.of_eq ((bystander_credentials cfg).handlePublish b c fh data now)
    | subscribe c pkt => exact hquiet _ (b.ledger_handleSubscribe cfg c pkt)
    | disconnect c data =>
      intro c' user will hc'
      rcases (b.handleDisconnect_ledger c data).2 c' _ hc' with h | h
      · exact hb c' user will h
      · cases h
    | close c now => exact hb.of_eq (credentials_close cfg b c now)
    | sweep now => exact hquiet _ (b.ledger_sweep now)
  | unsubscribe c pkt => exact hquiet _ (b.ledger_handleUnsubscribe cfg c pkt)
  | puback c data => exact hquiet _ (b.ledger_handlePuback c data)
  | pubrec c data => exact hquiet _ (b.ledger_handlePubrec c data)
  | pubrel c data => exact hquiet _ (b.ledger_handlePubrel c data)
  | pubcomp c data => exact hquiet _ rfl

variable (cfg)

/-- If every CONNECT is the first packet of its connection and carries no will or an authorized
one, and if the interceptors leave no authorized topic for one that is not, then everything that
is routed or retained on behalf of a client in a run from a state without wills is authorized. -/
theorem authorized_of_connects (b : BrokerState σ ρ)
    (hb : ∀ c client, b.conns.lookup c = some client → client.will = none)
    (hhooks : ∀ user evt s, cfg.authorize user evt.topic .publish = true →
      (cfg.hooks.onPublish (evt, s)).1 = .ok () →
      cfg.authorize user (cfg.hooks.onPublish (evt, s)).2.1.topic .publish = true)
    (events : List Event) (hevents : ∀ x ∈ trace (handleEvent cfg) b events, Proper cfg x.1 x.2) :
    ∀ x ∈ trace (handleEvent cfg) b events, Authorized cfg x.1 x.2 := by
  have hwills : WillsAuthorized cfg b := by
    intro c user will hc
    obtain ⟨client, hlookup, hcred⟩ := Option.map_eq_some_iff.1 hc
    rw [hb c client hlookup] at hcred
    cases hcred
  intro x hx
  have hinv := trace_invariant (WillsAuthorized cfg) (Proper cfg)
    (fun b e hb hp => hb.handleEvent hp) hwills hevents x hx
  refine (authorized_iff cfg x.2).2 ?_
  obtain ⟨b', e⟩ := x
  cases e with
  | op op =>
    cases op with
    | publish c fh data now =>
      intro client pkt s hp hs hok
      exact hhooks client.username _ s hp.authorized hok
    | close c now =>
      intro client will hc _ _ hwill
      refine hinv c client.username will ?_
      rw [credentials, hc, ← hwill]
      rfl
    | _ => trivial
  | _ => trivial

/-- The will on `w` is authorized. -/
theorem authorized_of_connects_will :
    let cfg := { plainConfig with authorize := fun _ topic _ => topic = str "w" }
    ∀ x ∈ trace (handleEvent cfg) (new () none) willRun, Authorized cfg x.1 x.2 := by
  refine authorized_of_connects _ _ (fun _ _ h => by cases h) (fun _ _ _ h _ => h) _ ?_
  simp only [willRun, trace, List.forall_mem_cons]
  refine ⟨trivial, ⟨fun client hc => ?_, fun will hwill => ?_⟩, trivial, List.forall_mem_nil _⟩
  · cases hc
    rfl
  · cases hwill
    rfl

end BrokerState

end Dmqtt.Broker
