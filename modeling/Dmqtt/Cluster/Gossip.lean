/-
The subscriptions of a node and what other nodes record of them.

A node tells the others what its clients subscribe to: a SUBSCRIBE is broadcast with each filter
that it installs, and an UNSUBSCRIBE and the end of a session with each filter that they remove.
The broadcasts do not tell which client it was, so that the last one counts, and what a session
brings along when it is resumed or imported is not broadcast.  `gossip_agreement_iff` says in
which runs the other nodes know enough to forward messages all the same.
-/
import Dmqtt.Broker.Retained
import Dmqtt.Broker.Handshake
import Dmqtt.Broker.Migration
import Dmqtt.Cluster.RemoteSubs

namespace Dmqtt.Cluster

open Lib Codec Plugin Broker

/-! ### The index and the broadcasts -/

/-- Each entry of the index is advertised with at least its QoS. -/
def Covers (idx : SubscriptionIndex) (queue : List SubBroadcast) : Prop :=
  ∀ filter, ∀ e ∈ idx.entries filter, ∃ qos ∈ advertised queue filter, e.qos ≤ qos

section Changes

variable {idx : SubscriptionIndex} {queue : List SubBroadcast} (selfID clientID : Str)

/-- Add subscriptions of a client. -/
def addAll (idx : SubscriptionIndex) (subs : List (Str × UInt8)) : SubscriptionIndex :=
  subs.foldl (fun idx g => idx.add clientID g.1 g.2) idx

/-- Remove subscriptions of a client. -/
def removeAll (idx : SubscriptionIndex) (filters : List Str) : SubscriptionIndex :=
  filters.foldl (fun idx f => idx.remove clientID f) idx

lemma distinct_addAll (h : idx.Distinct) (subs : List (Str × UInt8)) :
    (addAll clientID idx subs).Distinct := by
  induction subs generalizing idx with
  | nil => exact h
  | cons g subs ih => exact ih (h.add clientID g.1 g.2)

lemma distinct_removeAll (h : idx.Distinct) (filters : List Str) :
    (removeAll clientID idx filters).Distinct :=
  h.foldl_remove clientID filters

variable {subs : List (Str × UInt8)} {filter : Str}

lemma mem_entries_addAll {e : SubscriptionEntry}
    (h : e ∈ (addAll clientID idx subs).entries filter) :
    (∃ qos, (filter, qos) ∈ subs ∧ e = ⟨clientID, qos⟩) ∨ e ∈ idx.entries filter := by
  induction subs generalizing idx with
  | nil => exact Or.inr h
  | cons g subs ih =>
    rcases ih h with ⟨qos, hmem, rfl⟩ | hadd
    · exact Or.inl ⟨qos, List.mem_cons_of_mem _ hmem, rfl⟩
    · rcases SubscriptionIndex.mem_entries_add hadd with ⟨rfl, rfl⟩ | hidx
      · exact Or.inl ⟨g.2, List.mem_cons_self, rfl⟩
      · exact Or.inr hidx

lemma entries_addAll_of_notMem (h : filter ∉ subs.map Prod.fst) :
    (addAll clientID idx subs).entries filter = idx.entries filter := by
  induction subs generalizing idx with
  | nil => rfl
  | cons g subs ih =>
    rw [List.map_cons, List.mem_cons, not_or] at h
    exact (ih h.2).trans (idx.entries_add_of_ne clientID g.2 h.1)

/-- Subscriptions to distinct filters are all there afterwards. -/
lemma mem_entries_addAll_of_mem (hnodup : (subs.map Prod.fst).Nodup) {g : Str × UInt8}
    (hg : g ∈ subs) :
    ⟨clientID, g.2⟩ ∈ (addAll clientID idx subs).entries g.1 := by
  induction subs generalizing idx with
  | nil => cases hg
  | cons g' subs ih =>
    obtain ⟨hnot, hnodup⟩ := List.nodup_cons.1 hnodup
    rcases List.mem_cons.1 hg with rfl | hg
    · change _ ∈ (addAll clientID (idx.add clientID g.1 g.2) subs).entries g.1
      rw [entries_addAll_of_notMem clientID hnot]
      exact idx.mem_entries_add_self clientID g.1 g.2
    · exact ih hnodup hg

lemma mem_entries_removeAll (hd : idx.Distinct) {filters : List Str} {e : SubscriptionEntry} :
    e ∈ (removeAll clientID idx filters).entries filter ↔
      e ∈ idx.entries filter ∧ ¬ (filter ∈ filters ∧ e.clientID = clientID) :=
  SubscriptionIndex.mem_entries_foldl_remove hd

/-- Broadcasts of subscriptions. -/
def subBroadcasts (subs : List (Str × UInt8)) : List SubBroadcast :=
  subs.map fun g => ⟨.sub g.2, selfID, g.1⟩

/-- Broadcasts of unsubscriptions. -/
def unsubBroadcasts (filters : List Str) : List SubBroadcast :=
  filters.map fun f => ⟨.unsub, selfID, f⟩

lemma advertised_append_unsubs (filters : List Str) (filter : Str) :
    advertised (queue ++ unsubBroadcasts selfID filters) filter =
      if filter ∈ filters then none else advertised queue filter := by
  induction filters generalizing queue with
  | nil => simp [unsubBroadcasts]
  | cons f filters ih =>
    have hcons : queue ++ unsubBroadcasts selfID (f :: filters) =
        (queue ++ [⟨.unsub, selfID, f⟩]) ++ unsubBroadcasts selfID filters := by
      simp [unsubBroadcasts]
    rw [hcons, ih, advertised_append_unsub]
    by_cases hf : f = filter
    · simp [hf]
    · simp [hf, Ne.symm hf]

lemma covers_addAll (h : Covers idx queue) (subs : List (Str × UInt8)) :
    Covers (addAll clientID idx subs) (queue ++ subBroadcasts selfID subs) := by
  induction subs generalizing idx queue with
  | nil => simpa [addAll, subBroadcasts] using h
  | cons g subs ih =>
    have hcons : queue ++ subBroadcasts selfID (g :: subs) =
        (queue ++ [⟨.sub g.2, selfID, g.1⟩]) ++ subBroadcasts selfID subs := by
      simp [subBroadcasts]
    rw [hcons]
    refine ih fun filter e he => ?_
    rw [advertised_append_sub]
    rcases SubscriptionIndex.mem_entries_add he with ⟨rfl, rfl⟩ | he
    · rw [if_pos rfl]
      exact ⟨_, rfl, le_better _ _⟩
    · obtain ⟨qos, hqos, hle⟩ := h filter e he
      split_ifs
      · exact ⟨_, rfl, UInt8.le_trans hle (le_better_of_mem hqos _)⟩
      · exact ⟨qos, hqos, hle⟩

/-- Removed subscriptions that are broadcast leave the index covered if and only if no other
client has one of the filters. -/
lemma covers_removeAll_iff (hd : idx.Distinct) (h : Covers idx queue) (filters : List Str) :
    Covers (removeAll clientID idx filters) (queue ++ unsubBroadcasts selfID filters) ↔
      ∀ filter ∈ filters, ∀ e ∈ idx.entries filter, e.clientID = clientID := by
  constructor
  · intro hcov filter hmem e he
    by_contra hne
    obtain ⟨qos, hqos, -⟩ := hcov filter e
      ((mem_entries_removeAll clientID hd).2 ⟨he, fun h => hne h.2⟩)
    rw [advertised_append_unsubs, if_pos hmem] at hqos
    cases hqos
  · intro hown filter e he
    obtain ⟨he, hnot⟩ := (mem_entries_removeAll clientID hd).1 he
    have hmem : filter ∉ filters := fun hmem => hnot ⟨hmem, hown filter hmem e he⟩
    rw [advertised_append_unsubs, if_neg hmem]
    exact h filter e he

/-- Subscriptions that are not broadcast are covered if and only if they were advertised
before. -/
lemma covers_restore_iff (h : Covers idx queue) (hnodup : (subs.map Prod.fst).Nodup) :
    Covers (addAll clientID idx subs) queue ↔
      ∀ g ∈ subs, ∃ qos ∈ advertised queue g.1, g.2 ≤ qos := by
  constructor
  · intro hcov g hg
    exact hcov g.1 ⟨clientID, g.2⟩ (mem_entries_addAll_of_mem clientID hnodup hg)
  · intro hadv filter e he
    rcases mem_entries_addAll clientID he with ⟨qos, hmem, rfl⟩ | he
    · exact hadv (filter, qos) hmem
    · exact h filter e he

end Changes

/-! ### The handlers -/

section Handlers

variable {σ ε ρ : Type} (cfg : Config σ ε ρ) (b : BrokerState σ ρ)

/-- The filters that a SUBSCRIBE installs. -/
def granted (c : ℕ) (pkt : SubscribePacket) : List (Str × UInt8) :=
  match b.conns.lookup c with
  | none => []
  | some client => (BrokerState.installed cfg b client pkt).reduceOption

/-- The filters that an UNSUBSCRIBE removes. -/
def removed (c : ℕ) (pkt : UnsubscribePacket) : List Str :=
  match b.conns.lookup c with
  | none => []
  | some client =>
    (BrokerState.unsubscribeLoop cfg client ((b.sessions.get client.clientID).map Session.addr)
      pkt.topicFilters b).1.reduceOption

/-- The broker when `close` looks at the session. -/
def closing (c : ℕ) (client : Client) (now : ℤ) : BrokerState σ ρ :=
  (((b.modifyClient c fun client => { client with closed := true }).unregisterClient
    c).notifyDisconnect cfg c client).publishWill cfg client now

/-- The filters that the end of a connection removes, with the session. -/
def dropped (c : ℕ) (now : ℤ) : List Str :=
  match b.conns.lookup c with
  | none => []
  | some client =>
    if client.closed ∨ client.clientID = [] then []
    else
      match (closing cfg b c client now).sessions.get client.clientID with
      | none => []
      | some session =>
        if session.expiryInterval = 0 then
          (closing cfg b c client now).subscriptions.clientFilters client.clientID
        else []

/-- A CONNECT is refused before the session is looked up. -/
def refused (pkt : ConnectPacket) : Prop :=
  (pkt.protocolName ≠ str "MQTT" ∨ (pkt.protocolLevel ≠ 4 ∧ pkt.protocolLevel ≠ 5)) ∨
    (pkt.clientID = [] ∧ !pkt.cleanSession) ∨ !cfg.authenticate pkt.username pkt.password

instance (pkt : ConnectPacket) : Decidable (refused cfg pkt) :=
  inferInstanceAs (Decidable (_ ∨ _))

/-- The subscriptions of a Go map. -/
def subscriptionsOf (m : GoMap Str UInt8) : List (Str × UInt8) := m.entries.map fun f => (f.1, f.2)

/-- The subscriptions that a CONNECT brings along from the session that it resumes. -/
def resumed (c : ℕ) (pkt : ConnectPacket) : List (Str × UInt8) :=
  if refused cfg pkt ∨ pkt.cleanSession then []
  else
    match b.sessions.get (BrokerState.effectiveClientID cfg c pkt) with
    | none => []
    | some session => subscriptionsOf session.subscriptions

/-- The subscriptions that migrated data bring along. -/
def imported (msg : MigrateDataMessage) : List (Str × UInt8) :=
  match msg.session with
  | none => []
  | some session => subscriptionsOf session.subscriptions

/-- The client ID of a connection. -/
def clientOf (c : ℕ) : Str := ((b.conns.lookup c).map Client.clientID).getD []

variable {b} (c : ℕ) (clientID : Str) (pkt : ConnectPacket) (client : Client) (now : ℤ)
  (addr : Option ℕ)

lemma subscriptions_subscribeLoop (subs : List Subscription) (b : BrokerState σ ρ) :
    (BrokerState.subscribeLoop cfg client addr subs b).2.subscriptions =
      addAll client.clientID b.subscriptions
        (BrokerState.subscribeLoop cfg client addr subs b).1.reduceOption := by
  induction subs generalizing b with
  | nil => rfl
  | cons sub subs ih =>
    rw [BrokerState.subscribeLoop]
    rw [ih, BrokerState.subscribeOne]
    generalize BrokerState.grant cfg client sub (b.rateLimiter, b.interceptors) = out
    rcases out with ⟨_ | ⟨filter, qos⟩, a⟩ <;> rfl

lemma subscriptions_subscribe (pkt : SubscribePacket) :
    (b.handleSubscribe cfg c pkt).subscriptions =
      addAll (clientOf b c) b.subscriptions (granted cfg b c pkt) := by
  rw [clientOf, granted]
  cases hc : b.conns.lookup c with
  | none =>
    rw [BrokerState.handleSubscribe, hc]
    rfl
  | some client =>
    rw [BrokerState.subscriptions_handleSubscribe cfg hc]
    exact subscriptions_subscribeLoop cfg client _ pkt.subscriptions b

lemma subscriptions_unsubscribeLoop (filters : List Str) (b : BrokerState σ ρ) :
    (BrokerState.unsubscribeLoop cfg client addr filters b).2.subscriptions =
      removeAll client.clientID b.subscriptions
        (BrokerState.unsubscribeLoop cfg client addr filters b).1.reduceOption := by
  induction filters generalizing b with
  | nil => rfl
  | cons filter filters ih =>
    rw [BrokerState.unsubscribeLoop]
    rw [ih, BrokerState.unsubscribeOne]
    generalize BrokerState.interceptUnsubscribe cfg client filter b.interceptors = out
    rcases out with ⟨_ | filter', s⟩ <;> rfl

lemma subscriptions_unsubscribe (pkt : UnsubscribePacket) :
    (b.handleUnsubscribe cfg c pkt).subscriptions =
      removeAll (clientOf b c) b.subscriptions (removed cfg b c pkt) := by
  rw [clientOf, removed, BrokerState.handleUnsubscribe]
  cases b.conns.lookup c with
  | none => rfl
  | some client =>
    have hsend : ∀ (b : BrokerState σ ρ) (p : Outgoing),
        (b.send c p).subscriptions = b.subscriptions :=
      fun b p => congrArg (fun b => b.subscriptions) (b.stores_send c p)
    rw [hsend]
    exact subscriptions_unsubscribeLoop cfg client _ pkt.topicFilters b

/-- Until `close` looks at the session, it leaves the index alone. -/
lemma subscriptions_closing : (closing cfg b c client now).subscriptions = b.subscriptions := by
  have hwill : ∀ b : BrokerState σ ρ,
      (b.publishWill cfg client now).subscriptions = b.subscriptions := by
    intro b
    rw [BrokerState.publishWill]
    cases client.will with
    | none => rfl
    | some will =>
      refine (congrArg (fun b => b.subscriptions)
        (BrokerState.unrouted_routeMessage cfg _ will.topic will.payload will.qos false false
          now)).trans ?_
      split_ifs <;> rfl
  have hunregister : ∀ b : BrokerState σ ρ,
      (b.unregisterClient c).subscriptions = b.subscriptions := by
    intro b
    rw [BrokerState.unregisterClient]
    cases b.conns.lookup c with
    | none => rfl
    | some client =>
      dsimp only
      split_ifs <;> rfl
  rw [closing, hwill]
  refine (hunregister _).trans ?_
  exact congrArg (fun b => b.subscriptions) (b.stores_modifyClient c _)

/-- The end of a connection removes the filters of the client if it ends the session. -/
lemma entries_close (filter : Str) :
    (b.close cfg c now).subscriptions.entries filter =
      (removeAll (clientOf b c) b.subscriptions (dropped cfg b c now)).entries filter := by
  have hmod : (b.modifyClient c fun client => { client with closed := true }).subscriptions =
      b.subscriptions := congrArg (fun b => b.subscriptions) (b.stores_modifyClient c _)
  rw [clientOf, dropped, BrokerState.close]
  cases hc : b.conns.lookup c with
  | none => rfl
  | some client =>
    dsimp only
    by_cases hclosed : client.closed = true
    · rw [if_pos hclosed, if_pos (Or.inl hclosed)]
      rfl
    by_cases hid : client.clientID = []
    · rw [if_neg hclosed, if_pos hid, if_pos (Or.inr hid), hmod]
      rfl
    rw [if_neg hclosed, if_neg hid, if_neg (not_or.2 ⟨hclosed, hid⟩)]
    change ((closing cfg b c client now).endSession client.clientID now).subscriptions.entries
      filter = _
    rw [BrokerState.endSession]
    cases (closing cfg b c client now).sessions.get client.clientID with
    | none =>
      rw [subscriptions_closing]
      rfl
    | some session =>
      dsimp only
      by_cases hexp : session.expiryInterval = 0
      · rw [if_pos hexp, if_pos hexp]
        rw [SubscriptionIndex.entries_removeAll, subscriptions_closing]
        rfl
      · split_ifs
        · rw [subscriptions_closing]
          rfl
        · rw [subscriptions_closing]
          rfl

lemma addAll_subscriptionsOf (idx : SubscriptionIndex) (m : GoMap Str UInt8) :
    addAll clientID idx (subscriptionsOf m) =
      m.entries.foldl (fun idx f => idx.add clientID f.1 f.2) idx := by
  rw [addAll, subscriptionsOf, List.foldl_map]

lemma nodup_subscriptionsOf (m : GoMap Str UInt8) : ((subscriptionsOf m).map Prod.fst).Nodup := by
  rw [subscriptionsOf, List.map_map]
  exact m.nodupKeys

/-- Without a clean start, `establish` adds the subscriptions of the session. -/
lemma subscriptions_establish :
    (b.establish cfg c clientID pkt now).2.subscriptions =
      addAll clientID b.subscriptions
        (if pkt.cleanSession then []
        else ((b.sessions.get clientID).map fun s => subscriptionsOf s.subscriptions).getD []) := by
  refine (congrArg (fun b => b.subscriptions)
    (b.unrouted_establish cfg c clientID pkt now)).trans ?_
  change (b.openSession clientID pkt.cleanSession _).2.subscriptions = _
  rw [BrokerState.openSession]
  cases b.sessions.get clientID with
  | none =>
    rw [Option.map_none, Option.getD_none, ite_self]
    rfl
  | some existing =>
    rw [Option.map_some, Option.getD_some]
    split_ifs
    · rfl
    · rw [addAll_subscriptionsOf]

lemma subscriptions_connect :
    (b.handleConnect cfg c pkt now).2.subscriptions =
      addAll (BrokerState.effectiveClientID cfg c pkt) b.subscriptions (resumed cfg b c pkt) := by
  have hsend : ∀ p, (b.send c p).subscriptions = b.subscriptions := fun p =>
    congrArg (fun b => b.subscriptions) (b.stores_send c p)
  rw [BrokerState.handleConnect, resumed]
  by_cases href : refused cfg pkt
  · rw [if_pos (Or.inl href)]
    split_ifs with hprotocol hid hauth
    · exact hsend _
    · exact hsend _
    · exact hsend _
    · exact absurd href (not_or.2 ⟨hprotocol, not_or.2 ⟨hid, hauth⟩⟩)
  · have hprotocol := fun h => href (Or.inl h)
    have hid := fun h => href (Or.inr (Or.inl h))
    have hauth := fun h => href (Or.inr (Or.inr h))
    rw [if_neg hprotocol, if_neg hid, if_neg hauth, subscriptions_establish]
    simp only [href, false_or]
    cases b.sessions.get (BrokerState.effectiveClientID cfg c pkt) <;> rfl

lemma subscriptions_import (msg : MigrateDataMessage) (now : ℤ) :
    (b.importMigrateData msg now).subscriptions =
      addAll ((msg.session.map MigrateSessionData.clientID).getD []) b.subscriptions
        (imported msg) := by
  rw [BrokerState.importMigrateData, imported]
  cases msg.session with
  | none => rfl
  | some session =>
    rw [BrokerState.subscriptions_importSession, addAll_subscriptionsOf]
    rfl

end Handlers

/-! ### Runs of a node -/

/-- A node: its broker, and the gossip messages on subscriptions that it has queued so far. -/
structure Node (σ ρ : Type) where
  broker : BrokerState σ ρ
  queue : List SubBroadcast

/-- What happens on a node.  The last case is anything that leaves the index alone. -/
inductive NodeOp (σ ρ : Type)
  | connect (c : ℕ) (pkt : ConnectPacket)
  | subscribe (c : ℕ) (pkt : SubscribePacket)
  | unsubscribe (c : ℕ) (pkt : UnsubscribePacket)
  | close (c : ℕ)
  | importData (msg : MigrateDataMessage)
  | other (f : BrokerState σ ρ → BrokerState σ ρ)
      (hf : ∀ b, (f b).subscriptions = b.subscriptions)

namespace Node

variable {σ ε ρ : Type} (cfg : Config σ ε ρ) (selfID : Str)

/-- The node after an operation at some instant. -/
def step (n : Node σ ρ) (o : ℤ × NodeOp σ ρ) : Node σ ρ :=
  match o.2 with
  | .connect c pkt => ⟨(n.broker.handleConnect cfg c pkt o.1).2, n.queue⟩
  | .subscribe c pkt =>
    ⟨n.broker.handleSubscribe cfg c pkt,
      n.queue ++ subBroadcasts selfID (granted cfg n.broker c pkt)⟩
  | .unsubscribe c pkt =>
    ⟨n.broker.handleUnsubscribe cfg c pkt,
      n.queue ++ unsubBroadcasts selfID (removed cfg n.broker c pkt)⟩
  | .close c =>
    ⟨n.broker.close cfg c o.1, n.queue ++ unsubBroadcasts selfID (dropped cfg n.broker c o.1)⟩
  | .importData msg => ⟨n.broker.importMigrateData msg o.1, n.queue⟩
  | .other f _ => ⟨f n.broker, n.queue⟩

/-- Another node that has handled all messages of this one in order, and whatever messages of
other nodes in between, records this node under each filter that a client has here, with at
least the QoS of the client; and it forwards each message on a topic that the filter matches to
this node, at the QoS of the message or at least that of the client. -/
def Agreement (n : Node σ ρ) : Prop :=
  ∀ ms : List SubBroadcast, (ms.filter fun m => m.nodeID = selfID) = n.queue →
    ∀ filter, ∀ e ∈ n.broker.subscriptions.entries filter,
      (∃ qos ∈ (ms.foldl RemoteSubIndex.handleSubBroadcast .new).record filter selfID,
        e.qos ≤ qos) ∧
      ∀ topic, topicMatch filter topic = true → ∀ qos, ∃ q,
        (selfID, q) ∈ (ms.foldl RemoteSubIndex.handleSubBroadcast .new).forwards topic qos ∧
          (q = qos ∨ e.qos ≤ q)

/-- The condition on an operation: no other client has a filter that is removed with a broadcast,
and each subscription that is added without one has been advertised with at least its QoS. -/
def Meets (n : Node σ ρ) (o : ℤ × NodeOp σ ρ) : Prop :=
  match o.2 with
  | .connect c pkt =>
    ∀ g ∈ resumed cfg n.broker c pkt, ∃ qos ∈ advertised n.queue g.1, g.2 ≤ qos
  | .subscribe _ _ => True
  | .unsubscribe c pkt =>
    ∀ filter ∈ removed cfg n.broker c pkt, ∀ e ∈ n.broker.subscriptions.entries filter,
      e.clientID = clientOf n.broker c
  | .close c =>
    ∀ filter ∈ dropped cfg n.broker c o.1, ∀ e ∈ n.broker.subscriptions.entries filter,
      e.clientID = clientOf n.broker c
  | .importData msg => ∀ g ∈ imported msg, ∃ qos ∈ advertised n.queue g.1, g.2 ≤ qos
  | .other _ _ => True

instance decidableMeets (n : Node σ ρ) : (o : ℤ × NodeOp σ ρ) → Decidable (n.Meets cfg o)
  | (_, .connect c pkt) => inferInstanceAs (Decidable (∀ g ∈ resumed cfg n.broker c pkt, _))
  | (_, .unsubscribe c pkt) =>
    inferInstanceAs (Decidable (∀ filter ∈ removed cfg n.broker c pkt, _))
  | (now, .close c) => inferInstanceAs (Decidable (∀ filter ∈ dropped cfg n.broker c now, _))
  | (_, .importData msg) => inferInstanceAs (Decidable (∀ g ∈ imported msg, _))
  | (_, .subscribe _ _) | (_, .other _ _) => isTrue trivial

/-- What holds in every run: the entries are distinct, and the messages are the node's own. -/
structure WellFormed (n : Node σ ρ) : Prop where
  distinct : n.broker.subscriptions.Distinct
  own : ∀ m ∈ n.queue, m.nodeID = selfID

variable {n : Node σ ρ} {selfID}

/-- The others agree if and only if the entries are covered by the broadcasts. -/
lemma agreement_iff (h : n.WellFormed selfID) :
    n.Agreement selfID ↔ Covers n.broker.subscriptions n.queue := by
  constructor
  · intro hag filter e he
    have hfilter : (n.queue.filter fun m => m.nodeID = selfID) = n.queue :=
      List.filter_eq_self.2 fun m hm => by simpa using h.own m hm
    obtain ⟨⟨qos, hqos, hle⟩, -⟩ := hag n.queue hfilter filter e he
    rw [record_handleAll, hfilter] at hqos
    exact ⟨qos, hqos, hle⟩
  · intro hcov ms hms filter e he
    obtain ⟨qos, hqos, hle⟩ := hcov filter e he
    have hrecord : (ms.foldl RemoteSubIndex.handleSubBroadcast .new).record filter selfID =
        some qos := by
      rw [record_handleAll, hms]
      exact hqos
    refine ⟨⟨qos, hrecord, hle⟩, fun topic hm qos' => ?_⟩
    obtain ⟨q, hmem, hq⟩ := exists_mem_forwards hrecord hm qos'
    exact ⟨q, hmem, hq.imp_right (UInt8.le_trans hle)⟩

lemma own_append {queue new : List SubBroadcast} (h : ∀ m ∈ queue, m.nodeID = selfID)
    (hnew : ∀ m ∈ new, m.nodeID = selfID) : ∀ m ∈ queue ++ new, m.nodeID = selfID := by
  intro m hm
  rcases List.mem_append.1 hm with hm | hm
  · exact h m hm
  · exact hnew m hm

lemma own_subBroadcasts (subs : List (Str × UInt8)) :
    ∀ m ∈ subBroadcasts selfID subs, m.nodeID = selfID := by
  intro m hm
  obtain ⟨g, -, rfl⟩ := List.mem_map.1 hm
  rfl

lemma own_unsubBroadcasts (filters : List Str) :
    ∀ m ∈ unsubBroadcasts selfID filters, m.nodeID = selfID := by
  simp [unsubBroadcasts]

lemma wellFormed_step (h : n.WellFormed selfID) (o : ℤ × NodeOp σ ρ) :
    (n.step cfg selfID o).WellFormed selfID := by
  obtain ⟨now, op⟩ := o
  cases op with
  | connect c pkt =>
    refine ⟨?_, h.own⟩
    rw [step, subscriptions_connect]
    exact distinct_addAll _ h.distinct _
  | subscribe c pkt =>
    refine ⟨?_, own_append h.own (own_subBroadcasts _)⟩
    rw [step, subscriptions_subscribe]
    exact distinct_addAll _ h.distinct _
  | unsubscribe c pkt =>
    refine ⟨?_, own_append h.own (own_unsubBroadcasts _)⟩
    rw [step, subscriptions_unsubscribe]
    exact distinct_removeAll _ h.distinct _
  | close c =>
    refine ⟨fun filter => ?_, own_append h.own (own_unsubBroadcasts _)⟩
    rw [step, entries_close]
    exact distinct_removeAll _ h.distinct _ filter
  | importData msg =>
    refine ⟨?_, h.own⟩
    rw [step, subscriptions_import]
    exact distinct_addAll _ h.distinct _
  | other f hf =>
    refine ⟨?_, h.own⟩
    rw [step, hf]
    exact h.distinct

/-- An operation keeps the entries covered if and only if it meets the condition. -/
lemma covers_step_iff (h : n.WellFormed selfID) (hcov : Covers n.broker.subscriptions n.queue)
    (o : ℤ × NodeOp σ ρ) :
    Covers (n.step cfg selfID o).broker.subscriptions (n.step cfg selfID o).queue ↔
      n.Meets cfg o := by
  obtain ⟨now, op⟩ := o
  cases op with
  | connect c pkt =>
    rw [step, subscriptions_connect]
    refine covers_restore_iff _ hcov ?_
    rw [resumed]
    split_ifs
    · exact List.nodup_nil
    · cases n.broker.sessions.get (BrokerState.effectiveClientID cfg c pkt) with
      | none => exact List.nodup_nil
      | some session => exact nodup_subscriptionsOf session.subscriptions
  | subscribe c pkt =>
    rw [step, subscriptions_subscribe]
    exact iff_of_true (covers_addAll selfID _ hcov _) trivial
  | unsubscribe c pkt =>
    rw [step, subscriptions_unsubscribe]
    exact covers_removeAll_iff selfID _ h.distinct hcov _
  | close c =>
    refine Iff.trans (forall_congr' fun filter => ?_)
      (covers_removeAll_iff selfID _ h.distinct hcov (dropped cfg n.broker c now))
    rw [step, entries_close]
  | importData msg =>
    rw [step, subscriptions_import]
    refine covers_restore_iff _ hcov ?_
    rw [imported]
    cases msg.session with
    | none => exact List.nodup_nil
    | some session => exact nodup_subscriptionsOf session.subscriptions
  | other f hf =>
    rw [step, hf]
    exact iff_of_true hcov trivial

/-- **Agreement on subscriptions.**  In every run of a node that starts without subscriptions, by
any number of clients: the other nodes agree with it after every operation, once they have
handled its messages, if and only if no operation removes a filter with a broadcast that another
client still has, or adds one without a broadcast that is not advertised yet with at least the
same QoS. -/
theorem gossip_agreement_iff (cfg : Config σ ε ρ) (selfID : Str) (b : BrokerState σ ρ)
    (hb : b.subscriptions = .new) (os : List (ℤ × NodeOp σ ρ)) :
    (∀ os', os' <+: os → Agreement selfID (os'.foldl (step cfg selfID) ⟨b, []⟩)) ↔
      ∀ x ∈ trace (step cfg selfID) ⟨b, []⟩ os, x.1.Meets cfg x.2 := by
  have hwf : WellFormed selfID (⟨b, []⟩ : Node σ ρ) := by
    refine ⟨?_, by simp⟩
    rw [hb]
    exact SubscriptionIndex.distinct_new
  have hag : Agreement selfID (⟨b, []⟩ : Node σ ρ) := by
    rw [agreement_iff hwf, hb]
    intro filter e he
    cases he
  refine forall_prefix_iff (WellFormed selfID) (Agreement selfID) _
    (fun n o h => wellFormed_step cfg h o) (fun n o h hag => ?_) hwf hag os
  rw [agreement_iff (wellFormed_step cfg h o),
    covers_step_iff cfg h ((agreement_iff h).1 hag) o]

/-! ### Two clients with one filter -/

/-- The CONNECT of a client. -/
def connectAs (clientID : String) : ConnectPacket where
  protocolName := str "MQTT"
  protocolLevel := 4
  cleanSession := true
  clientID := str clientID

/-- A broker with two connections. -/
def pairBroker : BrokerState BrokerState.TenantChain Unit :=
  (BrokerState.accept BrokerState.sampleConfig (.new () none) 0).accept BrokerState.sampleConfig 1

/-- The client `x` subscribes to `t`, and the client `y` to another filter and then no more. -/
def pairRun (filter : String) : List (ℤ × NodeOp BrokerState.TenantChain Unit) :=
  [(1, .connect 0 (connectAs "x")), (1, .connect 1 (connectAs "y")),
    (2, .subscribe 0 { packetID := 1, subscriptions := [⟨str "t", 1⟩] }),
    (2, .subscribe 1 { packetID := 1, subscriptions := [⟨str filter, 1⟩] }),
    (3, .unsubscribe 1 { packetID := 2, topicFilters := [str filter] })]

/-- The node after the run. -/
def pairNode (filter : String) : Node BrokerState.TenantChain Unit :=
  (pairRun filter).foldl (step BrokerState.sampleConfig (str "A")) ⟨pairBroker, []⟩

theorem gossip_agreement_iff_sample :
    Agreement (str "A") (pairNode "u") ∧
      (pairNode "u").broker.subscriptions.entries (str "t") = [⟨str "x", 1⟩] :=
  ⟨(gossip_agreement_iff BrokerState.sampleConfig (str "A") pairBroker rfl (pairRun "u")).2
    (by decide +kernel) (pairRun "u") List.prefix_rfl, by decide +kernel⟩

/-- If `y` leaves the filter of `x`, then the other nodes do not forward messages for `x` any
more. -/
theorem gossip_disagreement :
    (pairNode "t").broker.subscriptions.entries (str "t") = [⟨str "x", 1⟩] ∧
    ((pairNode "t").queue.foldl RemoteSubIndex.handleSubBroadcast .new).record (str "t")
      (str "A") = none ∧
    ((pairNode "t").queue.foldl RemoteSubIndex.handleSubBroadcast .new).forwards (str "t") 1 = [] ∧
    ¬ Agreement (str "A") (pairNode "t") := by
  have hentries : (pairNode "t").broker.subscriptions.entries (str "t") = [⟨str "x", 1⟩] := by
    decide +kernel
  have hrecord : ((pairNode "t").queue.foldl RemoteSubIndex.handleSubBroadcast .new).record
      (str "t") (str "A") = none := by decide +kernel
  refine ⟨hentries, hrecord, by decide +kernel, fun h => ?_⟩
  have hown : ((pairNode "t").queue.filter fun m => m.nodeID = str "A") = (pairNode "t").queue := by
    decide +kernel
  obtain ⟨⟨qos, hqos, -⟩, -⟩ := h _ hown (str "t") ⟨str "x", 1⟩ (by simp [hentries])
  rw [hrecord] at hqos
  cases hqos

end Node

end Dmqtt.Cluster
