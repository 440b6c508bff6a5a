/-
What a connection leaves behind that `OnConnect` refuses.

The handshake asks the interceptors last, when an old connection has been told to go, the session
is open, the will is stored and the connection is registered.  A refusal undoes nothing of this:
the connection ends like any other one.  `refused_traceless` says for which CONNECT packets there
is nothing to undo.
-/
import Dmqtt.Broker.Delivery
import Dmqtt.Broker.Reaper

namespace Dmqtt.Broker

open Lib Codec Plugin Tenants

/-- A session without its address. -/
def Session.content (s : Session) : Session := { s with addr := 0 }

/-- The persistent copy of the session of a client. -/
def SessionStore.copy (ss : SessionStore) (clientID : Str) : Option Session :=
  ss.store.bind fun store => store.lookup clientID

namespace SessionStore

variable (ss : SessionStore)

lemma copy_create_of_ne {clientID clientID' : Str} (h : clientID' ≠ clientID) (cleanStart : Bool)
    (expiryInterval : UInt32) :
    (ss.create clientID cleanStart expiryInterval).copy clientID' = ss.copy clientID' := by
  rw [copy, copy, create, put, persist]
  cases ss.store with
  | none => rfl
  | some store => exact AList.lookup_insert_ne h

lemma copy_remove (clientID clientID' : Str) :
    (ss.remove clientID).copy clientID' =
      if clientID' = clientID then none else ss.copy clientID' := by
  rw [copy, copy, remove]
  cases ss.store with
  | none => simp
  | some store =>
    exact GoMap.lookup_erase_eq ..

end SessionStore

namespace BrokerState

variable {σ ε ρ : Type} (cfg : Config σ ε ρ) (b : BrokerState σ ρ)

/-- Apart from the connection `c`, the two states cannot be told apart by the sessions, the
subscriptions, the offline queues, the wills, the retained messages, and the connections with what
was sent on them. -/
structure Traceless (c : ℕ) (b' : BrokerState σ ρ) : Prop where
  sessions : ∀ clientID, (b'.sessions.get clientID).map Session.content =
    (b.sessions.get clientID).map Session.content
  copies : ∀ clientID, (b'.sessions.copy clientID).map Session.content =
    (b.sessions.copy clientID).map Session.content
  entries : ∀ filter, b'.subscriptions.entries filter = b.subscriptions.entries filter
  clientFilters : ∀ clientID,
    b'.subscriptions.clientFilters clientID = b.subscriptions.clientFilters clientID
  queues : ∀ clientID, b'.offlineStore.queue clientID = b.offlineStore.queue clientID
  willStore : b'.willStore = b.willStore
  retainStore : b'.retainStore = b.retainStore
  clients : ∀ clientID, b'.clients.lookup clientID = b.clients.lookup clientID
  conns : ∀ c', c' ≠ c → b'.conns.lookup c' = b.conns.lookup c'

/-- Nothing is there under the client ID, and the session that is asked for ends with its
connection. -/
structure Unused (clientID : Str) (pkt : ConnectPacket) : Prop where
  unregistered : b.clients.lookup clientID = none
  session : b.sessions.get clientID = none
  copy : b.sessions.copy clientID = none
  expiry : expiryInterval pkt = 0
  clientFilters : b.subscriptions.clientFilters clientID = []
  queue : b.offlineStore.queue clientID = []

/-- A connection on which nothing was received yet. -/
structure Fresh (c : ℕ) : Prop where
  client : b.conns.lookup c = some (.new cfg.inflightLimit)
  unregistered : ∀ clientID, b.clients.lookup clientID ≠ some c

/-- A CONNECT, and the end of the connection. -/
def connectAndClose (c : ℕ) (pkt : ConnectPacket) (now now' : ℤ) : BrokerState σ ρ :=
  (b.handleConnect cfg c pkt now).2.close cfg c now'

/-! ### The way to the end of the session -/

/-- What the handshake and the end of a connection change, without a will: the session and the
subscriptions, then the offline queue. -/
def holdings : SubscriptionIndex × SessionStore × RetainStore × OfflineStore × Option WillStore ×
    Bool :=
  (b.subscriptions, b.sessions, b.retainStore, b.offlineStore, b.willStore, b.done)

variable {b}

lemma holdings_eq {b' : BrokerState σ ρ} (h : b'.stores = b.stores) :
    b'.holdings = b.holdings := by
  have h := congrArg (fun b : BrokerState σ ρ => b.holdings) h
  exact h

variable {c : ℕ} {pkt : ConnectPacket} {now : ℤ} {b₁ : BrokerState σ ρ} {err : ε} (clientID : Str)
  (cleanStart : Bool) (expiry : UInt32)

lemma frame_openSession :
    (b.openSession clientID cleanStart expiry).2.conns = b.conns ∧
      (b.openSession clientID cleanStart expiry).2.clients = b.clients ∧
      (b.openSession clientID cleanStart expiry).2.done = b.done := by
  obtain ⟨_, _, hout⟩ := b.snd_openSession clientID cleanStart expiry
  rw [hout]
  exact ⟨rfl, rfl, rfl⟩

lemma exists_get_openSession :
    ∃ s, (b.openSession clientID cleanStart expiry).2.sessions.get clientID = some s := by
  rcases b.openSession_cases clientID cleanStart expiry with
    ⟨existing, idx, hget, -, hout⟩ | ⟨-, hout⟩ <;> rw [hout]
  · exact ⟨existing, hget⟩
  · exact ⟨_, (SessionStore.get_create ..).trans (if_pos rfl)⟩

/-- The end of a connection without a will, up to the end of the session. -/
lemma leave_of_no_will {client : Client} (hc : b.conns.lookup c = some client)
    (hwill : client.will = none) (hreg : b.clients.lookup client.clientID = some c) (now : ℤ) :
    (b.leave cfg c client now).holdings = b.holdings ∧
      (b.leave cfg c client now).clients = b.clients.erase client.clientID ∧
      ∀ c', c' ≠ c → (b.leave cfg c client now).conns.lookup c' = b.conns.lookup c' := by
  have hstores := b.stores_modifyClient c fun client => { client with closed := true }
  have hlookup := lookup_modifyClient hc fun client => { client with closed := true }
  have hframe := fun c' (hne : c' ≠ c) =>
    b.lookup_modifyClient_of_ne hne fun client => { client with closed := true }
  rw [leave, publishWill, hwill, notifyDisconnect, unregisterClient, hlookup]
  generalize b.modifyClient c (fun client => { client with closed := true }) = b₁
    at hstores hframe ⊢
  have hclients : b₁.clients = b.clients := congrArg (fun b => b.clients) hstores
  have hholdings := holdings_eq hstores
  dsimp only
  rw [hclients, if_pos hreg]
  exact ⟨hholdings, rfl, hframe⟩

lemma lookup_beforeSession (hfresh : b.Fresh cfg c) (clientID : Str) (pkt : ConnectPacket) :
    (∃ client : Client, (b.beforeSession c clientID pkt).conns.lookup c = some client ∧
      client.clientID = clientID ∧ client.closed = false ∧ client.will = none) ∧
    (b.clients.lookup clientID = none → ∀ c', c' ≠ c →
      (b.beforeSession c clientID pkt).conns.lookup c' = b.conns.lookup c') := by
  have hclients := congrArg (fun b => b.clients) (b.stores_modifyClient c fun client =>
    { client with username := pkt.username, clientID := clientID,
                  protocolVersion := pkt.protocolLevel })
  have hlookup := lookup_modifyClient hfresh.client fun client : Client =>
    { client with username := pkt.username, clientID := clientID,
                  protocolVersion := pkt.protocolLevel }
  have hframe := fun c' (hne : c' ≠ c) => b.lookup_modifyClient_of_ne hne fun client =>
    { client with username := pkt.username, clientID := clientID,
                  protocolVersion := pkt.protocolLevel }
  rw [beforeSession]
  generalize b.modifyClient c _ = b₁ at hclients hlookup hframe ⊢
  have hclients : b₁.clients = b.clients := hclients
  constructor
  · refine ⟨_, (b₁.lookup_disconnectExisting_of_ne ?_).trans hlookup, rfl, rfl, rfl⟩
    rw [hclients]
    exact hfresh.unregistered clientID
  · intro hnone c' hne
    rw [b₁.lookup_disconnectExisting_of_ne (by rw [hclients, hnone]; simp), hframe c' hne]

/-- The end of a handshake that is refused. -/
lemma finishConnect_of_refused {clientID : Str} {sessionPresent : Bool} (h : (b.finishConnect cfg c
    clientID pkt sessionPresent now).1 = .error (.interceptorRejected err)) :
    ∃ b₁ : BrokerState σ ρ, (b.finishConnect cfg c clientID pkt sessionPresent now).2 =
        b₁.send c (.connack { returnCode := connackNotAuthorized }) ∧
      b₁.holdings = b.holdings ∧ b₁.clients = b.clients ∧ b₁.conns = b.conns := by
  rw [finishConnect] at h ⊢
  cases hs : b.interceptors with
  | none =>
    rw [hs] at h
    cases h
  | some s =>
    rw [hs] at h
    dsimp only at h ⊢
    split at h
    · exact ⟨_, rfl, rfl, rfl, rfl⟩
    · cases h

/-- A handshake without a will that is refused: the session is opened, and the connection is
registered. -/
lemma establish_of_refused {clientID : Str} (hfresh : b.Fresh cfg c) (hwill : willOf pkt = none)
    (hrefused : (b.establish cfg c clientID pkt now).1 = .error (.interceptorRejected err)) :
    (b.establish cfg c clientID pkt now).2.holdings =
      ((b.beforeSession c clientID pkt).openSession clientID pkt.cleanSession
        (expiryInterval pkt)).2.holdings ∧
    (b.establish cfg c clientID pkt now).2.clients =
      (b.clients.erase clientID).insert clientID c ∧
    (∃ client : Client, (b.establish cfg c clientID pkt now).2.conns.lookup c = some client ∧
      client.clientID = clientID ∧ client.closed = false ∧ client.will = none) ∧
    (b.clients.lookup clientID = none → ∀ c', c' ≠ c →
      (b.establish cfg c clientID pkt now).2.conns.lookup c' = b.conns.lookup c') := by
  have hclients : (b.beforeSession c clientID pkt).clients = b.clients.erase clientID :=
    congrArg (fun b => b.clients) (b.stores_beforeSession c clientID pkt)
  obtain ⟨⟨client, hlookup, hid, hopen, hnone⟩, hframe⟩ :=
    lookup_beforeSession cfg hfresh clientID pkt
  rw [establish_eq] at hrefused ⊢
  generalize b.beforeSession c clientID pkt = b₁ at hclients hlookup hframe hrefused ⊢
  obtain ⟨hconns₂, hclients₂, -⟩ :=
    b₁.frame_openSession clientID pkt.cleanSession (expiryInterval pkt)
  generalize b₁.openSession clientID pkt.cleanSession (expiryInterval pkt) = out
    at hconns₂ hclients₂ hrefused ⊢
  rw [← hconns₂] at hlookup hframe
  rw [hclients] at hclients₂
  have hreg : (out.2.setWill c clientID pkt).registerClient c =
      { out.2 with clients := (b.clients.erase clientID).insert clientID c } := by
    rw [setWill, hwill, registerClient, hlookup]
    dsimp only
    rw [hclients₂, hid]
  rw [afterSession, hreg] at hrefused ⊢
  obtain ⟨b₂, hsend, hholdings, hclients₂, hconns⟩ := finishConnect_of_refused cfg hrefused
  rw [← hconns] at hlookup hframe
  rw [hsend]
  refine ⟨(holdings_eq (b₂.stores_send c _)).trans hholdings, ?_, ?_, ?_⟩
  · exact (congrArg (fun b => b.clients) (b₂.stores_send c _)).trans hclients₂
  · have hsent := lookup_send_eq hlookup (.connack { returnCode := connackNotAuthorized })
    rw [Client.push, if_neg (by simp [hopen])] at hsent
    exact ⟨_, hsent, hid, hopen, hnone⟩
  · intro hfree c' hne
    exact (b₂.lookup_send_of_ne hne _).trans (hframe hfree c' hne)

lemma holdings_beforeSession (c : ℕ) (clientID : Str) (pkt : ConnectPacket) :
    (b.beforeSession c clientID pkt).holdings = b.holdings := by
  have h := congrArg (fun b : BrokerState σ ρ => b.holdings) (b.stores_beforeSession c clientID pkt)
  exact h

/-- The state `b₁` in which the session of a refused CONNECT ends: there is a session, a new one if
there was none, and the client ID is no longer registered. -/
structure Opened (b : BrokerState σ ρ) (c : ℕ) (clientID : Str) (pkt : ConnectPacket)
    (b₁ : BrokerState σ ρ) : Prop where
  session : ∃ s, b₁.sessions.get clientID = some s
  created : b.sessions.get clientID = none → b₁.holdings =
    { b with sessions :=
      b.sessions.create clientID pkt.cleanSession (expiryInterval pkt) }.holdings
  done : b₁.done = b.done
  clients : ∀ clientID', b₁.clients.lookup clientID' =
    if clientID' = clientID then none else b.clients.lookup clientID'
  conns : b.clients.lookup clientID = none → ∀ c', c' ≠ c →
    b₁.conns.lookup c' = b.conns.lookup c'

/-- What `openSession` leaves in the place of the session. -/
lemma holdings_openSession {clientID : Str} (h : b₁.holdings = ((b.beforeSession c clientID
    pkt).openSession clientID pkt.cleanSession (expiryInterval pkt)).2.holdings) :
    (∃ s, b₁.sessions.get clientID = some s) ∧ b₁.done = b.done ∧
    (b.sessions.get clientID = none → b₁.holdings =
      { b with sessions :=
        b.sessions.create clientID pkt.cleanSession (expiryInterval pkt) }.holdings) := by
  have hbefore := b.holdings_beforeSession c clientID pkt
  generalize b.beforeSession c clientID pkt = b₀ at h hbefore
  simp only [holdings, Prod.mk.injEq] at hbefore
  obtain ⟨hsubs₀, hsess₀, hretain₀, hoffline₀, hwills₀, hdone₀⟩ := hbefore
  refine ⟨?_, ?_, fun hnone => ?_⟩
  · obtain ⟨s, hs⟩ := b₀.exists_get_openSession clientID pkt.cleanSession (expiryInterval pkt)
    exact ⟨s, (congrArg (fun x => x.2.1.get clientID) h).trans hs⟩
  · have hdone := (b₀.frame_openSession clientID pkt.cleanSession (expiryInterval pkt)).2.2
    exact (congrArg (fun x => x.2.2.2.2.2) h).trans (hdone.trans hdone₀)
  · rw [h, openSession, hsess₀, hnone]
    simp only [holdings, hsubs₀, hretain₀, hoffline₀, hwills₀, hdone₀]

/-- A refused CONNECT without a will, up to the end of the session. -/
lemma connectAndClose_eq (hfresh : b.Fresh cfg c) (hwill : willOf pkt = none)
    (hid : effectiveClientID cfg c pkt ≠ [])
    (hrefused : (b.handleConnect cfg c pkt now).1 = .error (.interceptorRejected err)) (now' : ℤ) :
    ∃ b₁ : BrokerState σ ρ, Opened b c (effectiveClientID cfg c pkt) pkt b₁ ∧
      b.connectAndClose cfg c pkt now now' =
        b₁.endSession (effectiveClientID cfg c pkt) now' := by
  have hestablish : b.handleConnect cfg c pkt now =
      b.establish cfg c (effectiveClientID cfg c pkt) pkt now := by
    rw [handleConnect] at hrefused ⊢
    split_ifs at hrefused ⊢
    all_goals first | rfl | cases hrefused
  rw [hestablish] at hrefused
  obtain ⟨hholdings, hclients, ⟨client, hlookup, hclient, hopen, hnone⟩, hframe⟩ :=
    establish_of_refused cfg hfresh hwill hrefused
  rw [connectAndClose, hestablish]
  generalize (b.establish cfg c (effectiveClientID cfg c pkt) pkt now).2 = b₂
    at hholdings hclients hlookup hframe ⊢
  have hreg : b₂.clients.lookup client.clientID = some c := by
    rw [hclient, hclients]
    exact AList.lookup_insert _
  have hclose := close_eq cfg hlookup hopen (by rwa [hclient]) now'
  obtain ⟨hholdings₁, hclients₁, hframe₁⟩ := leave_of_no_will cfg hlookup hnone hreg now'
  rw [hclient] at hclose hclients₁
  obtain ⟨hsession, hdone, hcreated⟩ := holdings_openSession (hholdings₁.trans hholdings)
  refine ⟨_, ⟨hsession, hcreated, hdone, ?_, ?_⟩, hclose⟩
  · intro clientID
    rw [hclients₁, hclients]
    split_ifs with heq
    · subst heq
      exact AList.lookup_erase _ _
    · rw [AList.lookup_erase_ne heq, AList.lookup_insert_ne heq, AList.lookup_erase_ne heq]
  · intro hfree c' hne
    exact (hframe₁ c' hne).trans (hframe hfree c' hne)

/-! ### Which refusals leave nothing behind -/

/-- The end of a session that does not outlive its connection. -/
lemma endSession_of_expiry {clientID : Str} {s : Session}
    (hget : b.sessions.get clientID = some s) (hexp : s.expiryInterval = 0) (now : ℤ) :
    b.endSession clientID now = { b with
      subscriptions := b.subscriptions.removeAll clientID
      sessions := b.sessions.remove clientID
      offlineStore := if b.done then b.offlineStore else b.offlineStore.removeAll clientID } := by
  rw [endSession, hget]
  dsimp only
  rw [if_pos hexp]

/-- A session that is made for one connection and removed with it. -/
lemma Opened.traceless {clientID : Str} (h : Opened b c clientID pkt b₁)
    (hunused : b.Unused clientID pkt) (now : ℤ) :
    b.Traceless c (b₁.endSession clientID now) := by
  have hholdings := h.created hunused.session
  simp only [holdings, Prod.mk.injEq] at hholdings
  obtain ⟨hsubs, hsess, hretain, hoffline, hwills, -⟩ := hholdings
  have hget : b₁.sessions.get clientID =
      some (b.sessions.fresh clientID pkt.cleanSession (expiryInterval pkt)) := by
    rw [hsess, SessionStore.get_create, if_pos rfl]
  rw [endSession_of_expiry hget hunused.expiry]
  refine ⟨?_, ?_, ?_, ?_, ?_, hwills, hretain, ?_, h.conns hunused.unregistered⟩
  · intro clientID'
    rw [hsess, SessionStore.get_remove, SessionStore.get_create]
    split_ifs with heq
    · rw [heq, hunused.session]
    · rfl
  · intro clientID'
    rw [hsess, SessionStore.copy_remove]
    split_ifs with heq
    · rw [heq, hunused.copy]
    · rw [SessionStore.copy_create_of_ne _ heq]
  · intro filter
    rw [hsubs, SubscriptionIndex.entries_removeAll, hunused.clientFilters]
    rfl
  · intro clientID'
    rw [hsubs, SubscriptionIndex.clientFilters_removeAll]
    split_ifs with heq
    · rw [heq, hunused.clientFilters]
    · rfl
  · intro clientID'
    rw [hoffline]
    split_ifs
    · rfl
    · rw [OfflineStore.queue_removeAll]
      split_ifs with heq
      · rw [heq, hunused.queue]
      · rfl
  · intro clientID'
    rw [h.clients]
    split_ifs with heq
    · rw [heq, hunused.unregistered]
    · rfl

/-- A session that ends and was there before has another mark than before. -/
lemma get_eq_none_of_traceless {clientID : Str} {s₁ : Session}
    (hget : b₁.sessions.get clientID = some s₁) (hrunning : b₁.done = false)
    (hmarks : ∀ s, b.sessions.get clientID = some s → s.disconnectedAt ≠ some now)
    (h : b.Traceless c (b₁.endSession clientID now)) :
    s₁.expiryInterval = 0 ∧ b.sessions.get clientID = none := by
  have hsess := h.sessions clientID
  rw [b₁.sessions_endSession hget] at hsess
  split_ifs at hsess with hexp hdone
  · rw [SessionStore.get_remove, if_pos rfl] at hsess
    exact ⟨hexp, Option.map_eq_none_iff.1 hsess.symm⟩
  · exact absurd hdone (by simp [hrunning])
  · rw [SessionStore.get_markDisconnected, if_pos rfl, hget] at hsess
    obtain ⟨s, hs, hcontent⟩ := Option.map_eq_some_iff.1 hsess.symm
    exact absurd (congrArg Session.disconnectedAt hcontent) (hmarks s hs)

/-- Conversely, what the end of the session removes was not there before. -/
lemma Opened.unused {clientID : Str} (h : Opened b c clientID pkt b₁) (hrunning : b.done = false)
    (hmarks : ∀ s, b.sessions.get clientID = some s → s.disconnectedAt ≠ some now)
    (htraceless : b.Traceless c (b₁.endSession clientID now)) : b.Unused clientID pkt := by
  have hrunning₁ : b₁.done = false := h.done.trans hrunning
  obtain ⟨s₁, hget⟩ := h.session
  obtain ⟨hexp, hnone⟩ := get_eq_none_of_traceless hget hrunning₁ hmarks htraceless
  rw [endSession_of_expiry hget hexp] at htraceless
  have hsess : b₁.sessions = b.sessions.create clientID pkt.cleanSession (expiryInterval pkt) :=
    congrArg (fun x => x.2.1) (h.created hnone)
  rw [hsess, SessionStore.get_create, if_pos rfl] at hget
  cases hget
  refine ⟨?_, hnone, ?_, hexp, ?_, ?_⟩
  · have hclient := htraceless.clients clientID
    rw [h.clients, if_pos rfl] at hclient
    exact hclient.symm
  · have hcopy := htraceless.copies clientID
    rw [SessionStore.copy_remove, if_pos rfl] at hcopy
    exact Option.map_eq_none_iff.1 hcopy.symm
  · have hfilters := htraceless.clientFilters clientID
    rw [SubscriptionIndex.clientFilters_removeAll, if_pos rfl] at hfilters
    exact hfilters.symm
  · have hqueue := htraceless.queues clientID
    rw [if_neg (by simp [hrunning₁]), OfflineStore.queue_removeAll, if_pos rfl] at hqueue
    exact hqueue.symm

/-- A CONNECT without a will that is refused leaves nothing behind if there was nothing under its
client ID and its session ends with the connection.  While the broker runs it is the only case, but
for a session that was marked at the very instant of the refusal. -/
theorem refused_traceless (b : BrokerState σ ρ) (c : ℕ) (pkt : ConnectPacket) (now now' : ℤ)
    (err : ε) (hfresh : b.Fresh cfg c) (hauto : cfg.autoID c ≠ []) (hwill : willOf pkt = none)
    (hrefused : (b.handleConnect cfg c pkt now).1 = .error (.interceptorRejected err)) :
    (b.Unused (effectiveClientID cfg c pkt) pkt →
      b.Traceless c (b.connectAndClose cfg c pkt now now')) ∧
    (b.done = false →
      (∀ s, b.sessions.get (effectiveClientID cfg c pkt) = some s → s.disconnectedAt ≠ some now') →
      b.Traceless c (b.connectAndClose cfg c pkt now now') →
      b.Unused (effectiveClientID cfg c pkt) pkt) := by
  have hid : effectiveClientID cfg c pkt ≠ [] := effectiveClientID_ne_nil cfg hauto pkt
  obtain ⟨b₁, hopened, hclose⟩ := connectAndClose_eq cfg hfresh hwill hid hrefused now'
  rw [hclose]
  exact ⟨fun hunused => hopened.traceless hunused now', fun hrunning hmarks htraceless =>
    hopened.unused hrunning hmarks htraceless⟩

/-! ### A tenant that may have one connection -/

/-- A broker with the tenant `a`, which may have one connection. -/
def quotaBroker : BrokerState TenantChain Unit :=
  let manager := ((TenantManager.new unlimited).loadTenants unlimited
    [⟨str "a", 1, 0, 0, []⟩]).toOption.getD (TenantManager.new unlimited)
  new () (some (sampleSystem.chain, (manager, ()), fun _ => callAt 1))

/-- A CONNECT of a user of `a`, with a will on `w` or without. -/
def connectOfTenant (clientID : String) (willFlag : Bool) : ConnectPacket :=
  { connectAs clientID true with
    username := str "a", willFlag := willFlag, willTopic := str "w" }

/-- The connection of the tenant is that of the client `p`; the client `q`, without a tenant, has
subscribed `w`; and there is a new connection 2. -/
def exhaustedBroker : BrokerState TenantChain Unit :=
  let b := ((quotaBroker.accept sampleConfig 0).handleConnect sampleConfig 0
    (connectOfTenant "p" false) 1).2
  let b := b.connected 1 "q" true 1
  let b := b.handleSubscribe sampleConfig 1 { packetID := 1, subscriptions := [⟨str "w", 0⟩] }
  b.accept sampleConfig 2

/-- The tenant has no connection left. -/
def exhausted : Plugin.Err (TenantErr ⊕ Empty) := .hook (.inl (.quotaExhausted (str "a") 1 1))

lemma fresh_exhaustedBroker : exhaustedBroker.Fresh sampleConfig 2 where
  client := rfl
  unregistered clientID h := by
    have hclients : exhaustedBroker.clients.entries = [⟨str "q", 1⟩, ⟨str "p", 0⟩] := rfl
    have hmem : ⟨clientID, 2⟩ ∈ exhaustedBroker.clients.entries := AList.mem_lookup_iff.1 h
    rw [hclients] at hmem
    simp at hmem

theorem refused_traceless_newClient :
    exhaustedBroker.Traceless 2
      (exhaustedBroker.connectAndClose sampleConfig 2 (connectOfTenant "r" false) 2 3) := by
  refine (refused_traceless sampleConfig exhaustedBroker 2 (connectOfTenant "r" false) 2 3 exhausted
    fresh_exhaustedBroker (by decide) rfl (by decide +kernel)).1 ?_
  exact ⟨rfl, rfl, rfl, rfl, rfl, rfl⟩

/-- The broker after connection 2 has called itself `p`, with a will, and is closed. -/
def refusedBroker : BrokerState TenantChain Unit :=
  exhaustedBroker.connectAndClose sampleConfig 2 (connectOfTenant "p" true) 2 3

/-- Connection 2 is refused as `p`, which is connection 0.  Then `p` is no longer connected, its
session is gone, and `q` has got the will. -/
theorem refused_leaves_traces :
    (exhaustedBroker.handleConnect sampleConfig 2 (connectOfTenant "p" true) 2).1 =
      .error (.interceptorRejected exhausted) ∧
    exhaustedBroker.clients.lookup (str "p") = some 0 ∧
    refusedBroker.clients.lookup (str "p") = none ∧
    (exhaustedBroker.sessions.get (str "p")).isSome = true ∧
    (refusedBroker.sessions.get (str "p")).isSome = false ∧
    (refusedBroker.conns.lookup 1).map Client.sent =
      (exhaustedBroker.conns.lookup 1).map (fun client =>
        client.sent ++ [.publish { topic := str "w" }]) ∧
    ¬ exhaustedBroker.Traceless 2 refusedBroker := by
  have hbefore : exhaustedBroker.clients.lookup (str "p") = some 0 := rfl
  have hafter : refusedBroker.clients.lookup (str "p") = none := rfl
  refine ⟨by decide +kernel, hbefore, hafter, rfl, rfl, by decide +kernel, ?_⟩
  intro h
  have hclients := h.clients (str "p")
  rw [hbefore, hafter] at hclients
  cases hclients

end BrokerState

end Dmqtt.Broker
