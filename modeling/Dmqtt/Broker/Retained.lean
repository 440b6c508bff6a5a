/-
The retained messages that a SUBSCRIBE sends.

`handleSubscribe` installs the filters that get past the checks, as the interceptors have
rewritten them, but sends the retained messages for all filters of the packet as they were
written.  `retained_sends_iff` says when this comes to the same.
-/
import Dmqtt.Broker.Mediation

namespace Dmqtt.Broker.BrokerState

open Lib Codec Plugin

variable {σ ε ρ : Type} (cfg : Config σ ε ρ) (b : BrokerState σ ρ)

/-- What the checks decide on the filters of a SUBSCRIBE, one after the other. -/
def grants (client : Client) : List Subscription → ρ × Option σ → List (Option (Str × UInt8))
  | [], _ => []
  | sub :: subs, a =>
    let out := grant cfg client sub a
    out.1 :: grants client subs out.2

/-- The retained messages sent for a filter of the packet. -/
def retainedFor (sub : Subscription) : List RetainedMessage :=
  b.retainStore.matchFilter sub.topicFilter

/-- What a SUBSCRIBE installs for each of its filters. -/
def installed (client : Client) (pkt : SubscribePacket) : List (Option (Str × UInt8)) :=
  (subscribeLoop cfg client ((b.sessions.get client.clientID).map Session.addr)
    pkt.subscriptions b).1

/-- The packets sent on a connection. -/
def sentOn (c : ℕ) : List Outgoing := ((b.conns.lookup c).map Client.sent).getD []

/-- The packets sent on a connection between `b` and `b'`. -/
def sentSince (b' : BrokerState σ ρ) (c : ℕ) : List Outgoing :=
  (b'.sentOn c).drop (b.sentOn c).length

/-- The packets `sent` are right for what a SUBSCRIBE has installed: each message among them
matches an installed filter, none is sent for a filter that was refused, and all that match an
installed filter are sent. -/
structure RetainedRight (client : Client) (pkt : SubscribePacket) (sent : List Outgoing) :
    Prop where
  matched : ∀ p, Outgoing.publish p ∈ sent →
    ∃ filter qos, some (filter, qos) ∈ installed cfg b client pkt ∧
      topicMatch filter p.topic = true
  refused : ∀ sub, (sub, none) ∈ pkt.subscriptions.zip (installed cfg b client pkt) →
    b.retainedFor sub = []
  complete : ∀ filter qos, some (filter, qos) ∈ installed cfg b client pkt →
    ∀ msg, b.retainStore.Retains msg → topicMatch filter msg.topic = true →
      retainedPublish msg ∈ sent

/-- For every retained message, no refused filter matches its topic, and some granted filter
matches it as written if and only if one does as rewritten. -/
def FiltersAgree (subs : List Subscription) (granted : List (Option (Str × UInt8))) : Prop :=
  ∀ msg, b.retainStore.Retains msg →
    (∀ sub, (sub, none) ∈ subs.zip granted → topicMatch sub.topicFilter msg.topic = false) ∧
    ((∃ sub filter qos, (sub, some (filter, qos)) ∈ subs.zip granted ∧
        topicMatch sub.topicFilter msg.topic = true) ↔
      ∃ filter qos, some (filter, qos) ∈ granted ∧ topicMatch filter msg.topic = true)

/-! ### The two loops -/

variable {c : ℕ} {msg : RetainedMessage} (client : Client) (addr : Option ℕ) (sub : Subscription)
  (subs : List Subscription) (filter : Str)

lemma length_grants (a : ρ × Option σ) : (grants cfg client subs a).length = subs.length := by
  induction subs generalizing a with
  | nil => rfl
  | cons sub subs ih => simp [grants, ih]

/-- The connections and the retained messages, which the first loop leaves alone. -/
def sending : GoMap ℕ Client × RetainStore := (b.conns, b.retainStore)

lemma subscribeOne_spec :
    (b.subscribeOne cfg client addr sub).1 =
        (grant cfg client sub (b.rateLimiter, b.interceptors)).1 ∧
      ((b.subscribeOne cfg client addr sub).2.rateLimiter,
        (b.subscribeOne cfg client addr sub).2.interceptors) =
          (grant cfg client sub (b.rateLimiter, b.interceptors)).2 ∧
      (b.subscribeOne cfg client addr sub).2.sending = b.sending := by
  rw [subscribeOne]
  generalize grant cfg client sub (b.rateLimiter, b.interceptors) = out
  rcases out with ⟨_ | ⟨filter, qos⟩, a⟩ <;> exact ⟨rfl, rfl, rfl⟩

/-- A filter that is installed is in the index, and what was in the index stays there. -/
lemma subscribed_subscribeOne :
    (b.subscribeOne cfg client addr sub).2.subscriptions.Subscribed client.clientID filter ↔
      (∃ qos, (b.subscribeOne cfg client addr sub).1 = some (filter, qos)) ∨
        b.subscriptions.Subscribed client.clientID filter := by
  rw [subscribeOne]
  generalize grant cfg client sub (b.rateLimiter, b.interceptors) = out
  rcases out with ⟨_ | ⟨filter', qos⟩, a⟩
  · simp
  · simp [install, SubscriptionIndex.subscribed_add, eq_comm]

/-- The first loop installs what the checks grant. -/
lemma subscribeLoop_spec :
    (subscribeLoop cfg client addr subs b).1 =
        grants cfg client subs (b.rateLimiter, b.interceptors) ∧
      (subscribeLoop cfg client addr subs b).2.sending = b.sending := by
  induction subs generalizing b with
  | nil => exact ⟨rfl, rfl⟩
  | cons sub subs ih =>
    obtain ⟨hout, ha, hframe⟩ := b.subscribeOne_spec cfg client addr sub
    obtain ⟨hrest, hframe'⟩ := ih (b.subscribeOne cfg client addr sub).2
    rw [subscribeLoop, grants]
    refine ⟨?_, hframe'.trans hframe⟩
    rw [hout, hrest, ha]

lemma subscribed_subscribeLoop :
    (subscribeLoop cfg client addr subs b).2.subscriptions.Subscribed client.clientID filter ↔
      (∃ qos, some (filter, qos) ∈ (subscribeLoop cfg client addr subs b).1) ∨
        b.subscriptions.Subscribed client.clientID filter := by
  induction subs generalizing b with
  | nil => simp [subscribeLoop]
  | cons sub subs ih =>
    rw [subscribeLoop]
    rw [ih, subscribed_subscribeOne]
    simp only [List.mem_cons, exists_or, eq_comm (a := some _), ← or_assoc]
    rw [or_comm (a := ∃ qos, some (filter, qos) ∈ _)]

variable {b}

lemma lookup_send {client : Client} (hc : b.conns.lookup c = some client)
    (hopen : client.closed = false) (pkt : Outgoing) :
    (b.send c pkt).conns.lookup c = some { client with sent := client.sent ++ [pkt] } := by
  simp [send, hc, hopen]

lemma retainStore_send (b : BrokerState σ ρ) (c : ℕ) (pkt : Outgoing) :
    (b.send c pkt).retainStore = b.retainStore :=
  congrArg (fun b => b.retainStore) (b.stores_send c pkt)

lemma lookup_foldl_send {α : Type} {client : Client} (hc : b.conns.lookup c = some client)
    (hopen : client.closed = false) (f : α → Outgoing) (l : List α) :
    (l.foldl (fun b a => b.send c (f a)) b).conns.lookup c =
      some { client with sent := client.sent ++ l.map f } := by
  induction l generalizing b client with
  | nil => simpa using hc
  | cons a l ih =>
    rw [List.foldl_cons, ih (lookup_send hc hopen (f a)) hopen]
    simp

lemma retainStore_sendRetained (b : BrokerState σ ρ) (c : ℕ) (filter : Str) :
    (b.sendRetained c filter).retainStore = b.retainStore :=
  foldl_frame BrokerState.retainStore
    (fun b msg => retainStore_send b c (retainedPublish msg)) (b.retainStore.matchFilter filter) b

/-- The second loop sends the retained messages of all filters. -/
lemma lookup_foldl_sendRetained {client : Client} (hc : b.conns.lookup c = some client)
    (hopen : client.closed = false) (subs : List Subscription) :
    (subs.foldl (fun b sub => b.sendRetained c sub.topicFilter) b).conns.lookup c =
      some { client with
        sent := client.sent ++ (subs.flatMap b.retainedFor).map retainedPublish } := by
  induction subs generalizing b client with
  | nil => simpa using hc
  | cons sub subs ih =>
    have hone : (b.sendRetained c sub.topicFilter).conns.lookup c = _ :=
      lookup_foldl_send hc hopen retainedPublish (b.retainedFor sub)
    have hstore : (b.sendRetained c sub.topicFilter).retainedFor = b.retainedFor := by
      funext sub'
      rw [retainedFor, retainStore_sendRetained, retainedFor]
    rw [List.foldl_cons, ih hone hopen, hstore]
    simp

/-! ### When the right messages are sent -/

lemma mem_zip_of_mem_subs {subs : List Subscription} {granted : List (Option (Str × UInt8))}
    (hlen : granted.length = subs.length) {sub : Subscription} (h : sub ∈ subs) :
    ∃ g, (sub, g) ∈ subs.zip granted := by
  obtain ⟨i, hi, rfl⟩ := List.getElem_of_mem h
  exact ⟨granted[i], List.mem_of_getElem (i := i) (by simp) (h := by simp; omega)⟩

lemma mem_retainedFor {sub : Subscription} :
    msg ∈ b.retainedFor sub ↔
      b.retainStore.Retains msg ∧ topicMatch sub.topicFilter msg.topic = true :=
  RetainStore.mem_matchFilter

/-- A retained message is among the packets that were sent if it was sent for some filter. -/
lemma retainedPublish_mem_iff {subs : List Subscription} (hmsg : b.retainStore.Retains msg) :
    retainedPublish msg ∈ (subs.flatMap b.retainedFor).map retainedPublish ↔
      ∃ sub ∈ subs, topicMatch sub.topicFilter msg.topic = true := by
  constructor
  · intro h
    obtain ⟨msg', hmem, heq⟩ := List.mem_map.1 h
    obtain ⟨sub, hsub, hmem⟩ := List.mem_flatMap.1 hmem
    have htopic : msg'.topic = msg.topic := by
      injection heq with heq
      exact congrArg PublishPacket.topic heq
    exact ⟨sub, hsub, htopic ▸ (mem_retainedFor.1 hmem).2⟩
  · rintro ⟨sub, hsub, hm⟩
    exact List.mem_map_of_mem (List.mem_flatMap.2 ⟨sub, hsub, mem_retainedFor.2 ⟨hmsg, hm⟩⟩)

lemma retainedFor_eq_nil_iff {sub : Subscription} :
    b.retainedFor sub = [] ↔
      ∀ msg, b.retainStore.Retains msg → topicMatch sub.topicFilter msg.topic = false := by
  simp only [List.eq_nil_iff_forall_not_mem, mem_retainedFor, not_and, Bool.not_eq_true]

lemma retainedRight_iff {client : Client} {pkt : SubscribePacket} {suback : SubackPacket} :
    RetainedRight cfg b client pkt
        (.suback suback :: (pkt.subscriptions.flatMap b.retainedFor).map retainedPublish) ↔
      b.FiltersAgree pkt.subscriptions
        (grants cfg client pkt.subscriptions (b.rateLimiter, b.interceptors)) := by
  have hgrants : installed cfg b client pkt =
      grants cfg client pkt.subscriptions (b.rateLimiter, b.interceptors) :=
    (b.subscribeLoop_spec cfg client _ pkt.subscriptions).1
  have hlen := length_grants cfg client pkt.subscriptions (b.rateLimiter, b.interceptors)
  generalize grants cfg client pkt.subscriptions (b.rateLimiter, b.interceptors) = granted
    at hgrants hlen ⊢
  constructor
  · rintro ⟨hmatched, hrefused, hcomplete⟩ msg hmsg
    rw [hgrants] at hmatched hrefused hcomplete
    have hno : ∀ sub, (sub, none) ∈ pkt.subscriptions.zip granted →
        topicMatch sub.topicFilter msg.topic = false :=
      fun sub hsub => retainedFor_eq_nil_iff.1 (hrefused sub hsub) msg hmsg
    refine ⟨hno, ?_, ?_⟩
    · rintro ⟨sub, filter, qos, hsub, hm⟩
      exact hmatched _ (List.mem_cons_of_mem _
        ((retainedPublish_mem_iff hmsg).2 ⟨sub, (List.of_mem_zip hsub).1, hm⟩))
    · rintro ⟨filter, qos, hg, hm⟩
      have hsent := List.mem_of_ne_of_mem (by simp [retainedPublish])
        (hcomplete filter qos hg msg hmsg hm)
      -- the filter for which it was sent is a granted one, since no refused one matches
      obtain ⟨sub, hsub, hms⟩ := (retainedPublish_mem_iff hmsg).1 hsent
      obtain ⟨g, hzip⟩ := mem_zip_of_mem_subs hlen hsub
      cases g with
      | none => exact absurd hms (by simp [hno sub hzip])
      | some g => exact ⟨sub, g.1, g.2, hzip, hms⟩
  · intro h
    refine ⟨?_, ?_, ?_⟩ <;> rw [hgrants]
    · -- each message was sent for some filter of the packet
      intro p hp
      obtain ⟨msg, hmem, rfl⟩ : ∃ msg ∈ pkt.subscriptions.flatMap b.retainedFor, _ = p := by
        simpa [retainedPublish] using hp
      obtain ⟨sub, hsub, hmem⟩ := List.mem_flatMap.1 hmem
      obtain ⟨hmsg, hm⟩ := mem_retainedFor.1 hmem
      obtain ⟨g, hzip⟩ := mem_zip_of_mem_subs hlen hsub
      cases g with
      | none => exact absurd hm (by simp [(h msg hmsg).1 sub hzip])
      | some g => exact (h msg hmsg).2.1 ⟨sub, g.1, g.2, hzip, hm⟩
    · intro sub hzip
      exact retainedFor_eq_nil_iff.2 fun msg hmsg => (h msg hmsg).1 sub hzip
    · intro filter qos hg msg hmsg hm
      obtain ⟨sub, filter', qos', hzip, hms⟩ := (h msg hmsg).2.2 ⟨filter, qos, hg, hm⟩
      exact List.mem_cons_of_mem _
        ((retainedPublish_mem_iff hmsg).2 ⟨sub, (List.of_mem_zip hzip).1, hms⟩)

/-! ### The handler -/

lemma lookup_handleSubscribe {client : Client} (hc : b.conns.lookup c = some client)
    (hopen : client.closed = false) (pkt : SubscribePacket) :
    (b.handleSubscribe cfg c pkt).conns.lookup c = some { client with
      sent := client.sent ++
        .suback ⟨pkt.packetID, (installed cfg b client pkt).map returnCode⟩ ::
          (pkt.subscriptions.flatMap b.retainedFor).map retainedPublish } := by
  have hframe := (b.subscribeLoop_spec cfg client
    ((b.sessions.get client.clientID).map Session.addr) pkt.subscriptions).2
  rw [handleSubscribe, hc, installed]
  dsimp only
  generalize subscribeLoop cfg client _ pkt.subscriptions b = out at hframe ⊢
  have hconns : out.2.conns.lookup c = some client :=
    (congrArg (fun x => x.1.lookup c) hframe).trans hc
  -- the connection and the retained messages are those of `b` when the SUBACK is sent
  have hsuback := lookup_send
    (b := { out.2 with sessions := out.2.sessions.save client.clientID }) hconns hopen
    (.suback ⟨pkt.packetID, out.1.map returnCode⟩)
  have hfor : ∀ sub, (send { out.2 with sessions := out.2.sessions.save client.clientID } c
      (.suback ⟨pkt.packetID, out.1.map returnCode⟩)).retainedFor sub = b.retainedFor sub := by
    intro sub
    rw [retainedFor, retainStore_send]
    exact congrArg (fun x => x.2.matchFilter sub.topicFilter) hframe
  rw [lookup_foldl_sendRetained hsuback hopen, funext hfor]
  simp

lemma subscriptions_handleSubscribe {client : Client} (hc : b.conns.lookup c = some client)
    (pkt : SubscribePacket) :
    (b.handleSubscribe cfg c pkt).subscriptions =
      (subscribeLoop cfg client ((b.sessions.get client.clientID).map Session.addr)
        pkt.subscriptions b).2.subscriptions :=
  congrArg (fun b => b.subscriptions) (stores_handleSubscribe cfg hc pkt)

/-- For every SUBSCRIBE of a client, authorizer, rate limiter, interceptors and retained
messages: the filters that the checks grant are installed and no others, and the retained
messages that are sent after the SUBACK are right for them if and only if `FiltersAgree`. -/
theorem retained_sends_iff (b : BrokerState σ ρ) (c : ℕ) (client : Client)
    (hc : b.conns.lookup c = some client) (hopen : client.closed = false)
    (pkt : SubscribePacket) :
    (∀ filter, (b.handleSubscribe cfg c pkt).subscriptions.Subscribed client.clientID filter ↔
      (∃ qos, some (filter, qos) ∈ installed cfg b client pkt) ∨
        b.subscriptions.Subscribed client.clientID filter) ∧
    (RetainedRight cfg b client pkt (b.sentSince (b.handleSubscribe cfg c pkt) c) ↔
      b.FiltersAgree pkt.subscriptions
        (grants cfg client pkt.subscriptions (b.rateLimiter, b.interceptors))) := by
  constructor
  · intro filter
    rw [subscriptions_handleSubscribe cfg hc, subscribed_subscribeLoop, installed]
  · rw [sentSince, sentOn, sentOn, lookup_handleSubscribe cfg hc hopen, hc]
    simp only [Option.map_some, Option.getD_some, List.drop_left]
    exact retainedRight_iff cfg

/-! ### A broker with a retained message -/

/-- The broker with the client `cb` of the tenant `b`, which has published the retained message
`t`; without interceptors if `plain`. -/
def retainingBroker (plain : Bool) : BrokerState TenantChain Unit :=
  let b := connectedBroker false
  let b := if plain then { b with interceptors := none } else b
  b.act sampleConfig 0 1 (samplePublish true)

/-- The retained message. -/
def retainedT : RetainedMessage := ⟨str "t", [0x2A], 0⟩

/-- A SUBSCRIBE of one filter. -/
def subscribeTo (filter : String) : SubscribePacket :=
  { packetID := 1, subscriptions := [⟨str filter, 0⟩] }

lemma eq_retainedT {plain : Bool} (h : (retainingBroker plain).retainStore.Retains msg) :
    msg = retainedT := by
  have hentries : (retainingBroker plain).retainStore.messages.entries =
      [⟨str "t", retainedT⟩] := by
    cases plain <;> rfl
  have hmem := AList.mem_lookup_iff.1 h
  rw [hentries, List.mem_singleton] at hmem
  exact congrArg Sigma.snd hmem

/-- The connection of the client. -/
def sampleClient : Client where
  clientID := str "cb"
  username := str "b"
  will := none
  packetIDs := 0
  inflight := ⟨∅, 20⟩
  protocolVersion := 4
  closed := false
  sent := [.connack { returnCode := connackAccepted, protocolVersion := 4 }]

theorem retained_sends_iff_sample :
    RetainedRight sampleConfig (retainingBroker true) sampleClient (subscribeTo "+")
      ((retainingBroker true).sentSince
        ((retainingBroker true).handleSubscribe sampleConfig 0 (subscribeTo "+")) 0) ∧
    (retainingBroker true).sentSince
      ((retainingBroker true).handleSubscribe sampleConfig 0 (subscribeTo "+")) 0 =
        [.suback ⟨1, [0]⟩, retainedPublish retainedT] := by
  refine ⟨?_, by decide⟩
  refine (retained_sends_iff sampleConfig (retainingBroker true) 0 sampleClient rfl rfl
    (subscribeTo "+")).2.2 ?_
  have hgrants : grants sampleConfig sampleClient (subscribeTo "+").subscriptions
      ((retainingBroker true).rateLimiter, (retainingBroker true).interceptors) =
        [some (str "+", 0)] := rfl
  intro msg hmsg
  obtain rfl := eq_retainedT hmsg
  have hm : topicMatch (str "+") retainedT.topic = true := by decide
  rw [hgrants]
  simp [subscribeTo, hm]

/-- The refused filter `#/x` yields a retained message, and so does the filter `t`, which is
installed as `b/t`. -/
theorem retained_sends_wrong :
    (retainingBroker false).conns.lookup 0 = some sampleClient ∧
    (retainingBroker false).sentSince
      ((retainingBroker false).handleSubscribe sampleConfig 0 (subscribeTo "#/x")) 0 =
        [.suback ⟨1, [0x80]⟩, retainedPublish retainedT] ∧
    ¬ RetainedRight sampleConfig (retainingBroker false) sampleClient (subscribeTo "#/x")
      ((retainingBroker false).sentSince
        ((retainingBroker false).handleSubscribe sampleConfig 0 (subscribeTo "#/x")) 0) ∧
    (retainingBroker false).sentSince
      ((retainingBroker false).handleSubscribe sampleConfig 0 (subscribeTo "t")) 0 =
        [.suback ⟨1, [0]⟩, retainedPublish retainedT] ∧
    ¬ RetainedRight sampleConfig (retainingBroker false) sampleClient (subscribeTo "t")
      ((retainingBroker false).sentSince
        ((retainingBroker false).handleSubscribe sampleConfig 0 (subscribeTo "t")) 0) := by
  have hnone : installed sampleConfig (retainingBroker false) sampleClient (subscribeTo "#/x") =
      [none] := rfl
  have hsome : installed sampleConfig (retainingBroker false) sampleClient (subscribeTo "t") =
      [some (str "b/t", 0)] := rfl
  refine ⟨rfl, by decide, fun h => ?_, by decide, fun h => ?_⟩
  all_goals
    obtain ⟨filter, qos, hmem, hm⟩ := h.matched
      { topic := str "t", qos := 0, retain := true, payload := [0x2A] } (by decide)
  · rw [hnone] at hmem
    simp at hmem
  · rw [hsome] at hmem
    obtain ⟨rfl, rfl⟩ : filter = str "b/t" ∧ qos = 0 := by simpa using hmem
    exact absurd hm (by decide)

end Dmqtt.Broker.BrokerState
