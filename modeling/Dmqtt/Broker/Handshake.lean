/-
What a CONNECT does to the stores of the broker, and the clean start.

`handleConnect` refuses the packet before it touches a store, or goes on with `establish`,
which opens the session (`establish_cases`) and registers the connection
(`lookup_clients_establish`).  With the flag for a
clean start it makes a new session, and leaves alone what the index, the offline queues and the
received packets of QoS 2 hold for the client ID.  So a clean start begins with a clean state
only if there was nothing to discard: `cleanStart_iff`.
-/
import Dmqtt.Broker.Profile

namespace Dmqtt.Broker.BrokerState

open Lib Codec Plugin

variable {σ ε ρ : Type} (cfg : Config σ ε ρ) (b : BrokerState σ ρ)

/-! ### The steps of the handshake -/

variable (c c' : ℕ) (clientID : Str) (cleanStart : Bool) (expiry : UInt32) (pkt : ConnectPacket)
  (sessionPresent : Bool) (now : ℤ)

lemma unrouted_drainOffline : (b.drainOffline c clientID now).unrouted = b.unrouted := by
  rw [drainOffline]
  rw [foldl_frame unrouted fun b (msg : OfflineMessage) =>
    unrouted_eq (b.stores_deliverMessage c msg.topic msg.payload msg.qos now)]
  rfl

lemma unrouted_acceptConnect :
    (b.acceptConnect c clientID pkt sessionPresent now).unrouted = b.unrouted := by
  rw [acceptConnect]
  split_ifs
  · rw [unrouted_drainOffline, unrouted_eq (b.stores_send c _)]
  · exact unrouted_eq (b.stores_send c _)

lemma unrouted_finishConnect :
    (b.finishConnect cfg c clientID pkt sessionPresent now).2.unrouted = b.unrouted := by
  rw [finishConnect]
  cases b.interceptors with
  | none => exact b.unrouted_acceptConnect c clientID pkt sessionPresent now
  | some s =>
    dsimp only
    split
    · exact (unrouted_eq (stores_send _ c _)).trans rfl
    · exact (unrouted_acceptConnect _ c clientID pkt sessionPresent now).trans rfl

variable {b} in
/-- A handshake that the interceptors do not refuse. -/
lemma finishConnect_of_ok {c : ℕ} {clientID : Str} {pkt : ConnectPacket} {sessionPresent : Bool}
    {now : ℤ} (hok : (b.finishConnect cfg c clientID pkt sessionPresent now).1.isOk = true) :
    ∃ interceptors, (b.finishConnect cfg c clientID pkt sessionPresent now).2 =
      ({ b with interceptors } : BrokerState σ ρ).acceptConnect c clientID pkt sessionPresent
        now := by
  rw [finishConnect] at hok ⊢
  cases hs : b.interceptors with
  | none => exact ⟨b.interceptors, rfl⟩
  | some s =>
    rw [hs] at hok
    dsimp only at hok ⊢
    split at hok
    · cases hok
    · exact ⟨_, rfl⟩

lemma offlineStore_finishConnect :
    (b.finishConnect cfg c clientID pkt false now).2.offlineStore = b.offlineStore := by
  have hsend : ∀ (b : BrokerState σ ρ) (p : Outgoing),
      (b.send c p).offlineStore = b.offlineStore :=
    fun b p => congrArg (fun b => b.offlineStore) (b.stores_send c p)
  rw [finishConnect]
  cases b.interceptors with
  | none => exact hsend b _
  | some s =>
    dsimp only
    split <;> exact hsend _ _

/-- A session is taken over, with its subscriptions, or a new one is made. -/
lemma openSession_cases :
    (∃ existing idx, b.sessions.get clientID = some existing ∧ cleanStart = false ∧
      b.openSession clientID cleanStart expiry = (true, { b with subscriptions := idx })) ∨
    ((cleanStart = true ∨ b.sessions.get clientID = none) ∧
      b.openSession clientID cleanStart expiry =
        (false, { b with sessions := b.sessions.create clientID cleanStart expiry })) := by
  rw [openSession]
  cases hs : b.sessions.get clientID with
  | none => exact Or.inr ⟨Or.inr rfl, rfl⟩
  | some existing =>
    cases cleanStart with
    | false => exact Or.inl ⟨existing, _, rfl, rfl, rfl⟩
    | true => exact Or.inr ⟨Or.inl rfl, rfl⟩

lemma snd_openSession :
    ∃ subscriptions sessions, (b.openSession clientID cleanStart expiry).2 =
      { b with subscriptions, sessions } := by
  rcases b.openSession_cases clientID cleanStart expiry with ⟨_, _, -, -, hout⟩ | ⟨-, hout⟩
  · exact ⟨_, _, by rw [hout]⟩
  · exact ⟨_, _, by rw [hout]⟩

lemma offlineStore_openSession :
    (b.openSession clientID cleanStart expiry).2.offlineStore = b.offlineStore := by
  obtain ⟨_, _, hout⟩ := b.snd_openSession clientID cleanStart expiry
  rw [hout]

/-- A session is present if it is there and the CONNECT does not ask for a new one. -/
lemma fst_openSession :
    (b.openSession clientID cleanStart expiry).1 =
      (!cleanStart && (b.sessions.get clientID).isSome) := by
  rcases b.openSession_cases clientID cleanStart expiry with
    ⟨existing, _, hget, hclean, hout⟩ | ⟨hclean | hget, hout⟩
  · rw [hout, hget, hclean]
    rfl
  · rw [hout, hclean]
    rfl
  · rw [hout, hget]
    simp

/-! ### Registration -/

/-- The client ID of a connection. -/
def idOf (c : ℕ) : Option Str := (b.conns.lookup c).map Client.clientID

lemma idOf_modifyClient (f : Client → Client) :
    (b.modifyClient c' f).idOf c =
      if c = c' then (b.conns.lookup c).map fun client => (f client).clientID else b.idOf c := by
  rw [modifyClient]
  split_ifs with h
  · subst h
    cases hc : b.conns.lookup c <;> simp [idOf, hc]
  · cases b.conns.lookup c' with
    | none => rfl
    | some client => simp [idOf, AList.lookup_insert_ne h]

lemma idOf_eq_map_profile : b.idOf c = (b.profile c).map Profile.clientID := by
  rw [idOf, profile, Option.map_map]
  rfl

variable {b} in
lemma idOf_eq_of_profile {b' : BrokerState σ ρ} (h : b'.profile = b.profile) :
    b'.idOf = b.idOf := by
  funext c
  rw [idOf_eq_map_profile, idOf_eq_map_profile, h]

lemma idOf_disconnectExisting : (b.disconnectExisting clientID).idOf c = b.idOf c :=
  congrFun (idOf_eq_of_profile (b.profile_disconnectExisting clientID)) c

lemma idOf_setWill : (b.setWill c' clientID pkt).idOf c = b.idOf c := by
  rw [idOf_eq_map_profile, profile_setWill, idOf_eq_map_profile]
  split_ifs with h
  · rw [h, Option.map_map]
    rfl
  · rfl

lemma unrouted_setWill :
    (b.setWill c clientID pkt).unrouted = { b.unrouted with
      willStore := match willOf pkt with
        | none => b.willStore
        | some will => b.willStore.map fun ws => ws.set clientID will } := by
  rw [setWill]
  cases willOf pkt with
  | none => rfl
  | some will =>
    exact congrArg
      (fun b => { b with willStore := b.willStore.map fun ws => WillStore.set ws clientID will })
      (unrouted_eq (b.stores_modifyClient c fun client => { client with will := some will }))

lemma clients_setWill : (b.setWill c clientID pkt).clients = b.clients :=
  congrArg (fun b => b.clients) (b.unrouted_setWill c clientID pkt)

lemma unrouted_registerClient :
    (b.registerClient c).unrouted = { b.unrouted with
      clients := (b.idOf c).elim b.unrouted.clients fun i => b.unrouted.clients.insert i c } := by
  rw [registerClient, idOf]
  cases b.conns.lookup c <;> rfl

/-! ### The handshake as a whole -/

/-- The state in which `establish` opens the session. -/
def beforeSession (c : ℕ) (clientID : Str) (pkt : ConnectPacket) : BrokerState σ ρ :=
  (b.modifyClient c fun client => { client with
    username := pkt.username
    clientID := clientID
    protocolVersion := pkt.protocolLevel }).disconnectExisting clientID

lemma stores_beforeSession :
    (b.beforeSession c clientID pkt).stores =
      { b.stores with clients := b.clients.erase clientID } := by
  have h := b.stores_modifyClient c fun client => { client with
    username := pkt.username
    clientID := clientID
    protocolVersion := pkt.protocolLevel }
  rw [beforeSession, stores_disconnectExisting, h]
  exact congrArg (fun m => { b.stores with clients := m })
    (congrArg (fun b => b.clients.erase clientID) h)

/-- The part of `establish` behind the session. -/
def afterSession (c : ℕ) (clientID : Str) (pkt : ConnectPacket) (sessionPresent : Bool)
    (now : ℤ) : Except (ConnectErr ε) Unit × BrokerState σ ρ :=
  ((b.setWill c clientID pkt).registerClient c).finishConnect cfg c clientID pkt sessionPresent now

lemma establish_eq :
    b.establish cfg c clientID pkt now =
      let out := (b.beforeSession c clientID pkt).openSession clientID pkt.cleanSession
        (expiryInterval pkt)
      out.2.afterSession cfg c clientID pkt out.1 now := rfl

lemma offlineStore_registering :
    ((b.setWill c clientID pkt).registerClient c).offlineStore = b.offlineStore := by
  obtain ⟨clients, h⟩ := (b.setWill c clientID pkt).registerClient_eq c
  rw [h, setWill]
  cases willOf pkt with
  | none => rfl
  | some will => exact congrArg (fun b => b.offlineStore) (b.stores_modifyClient c _)

/-- What the handshake leaves in the stores: the session is opened, the will is stored, and the
connection is registered. -/
lemma unrouted_establish :
    (b.establish cfg c clientID pkt now).2.unrouted =
      { (b.openSession clientID pkt.cleanSession (expiryInterval pkt)).2.unrouted with
        clients := if (b.conns.lookup c).isSome then (b.clients.erase clientID).insert clientID c
          else b.clients.erase clientID
        willStore := match willOf pkt with
          | none => b.willStore
          | some will => b.willStore.map fun ws => ws.set clientID will } := by
  have hstores := b.stores_beforeSession c clientID pkt
  have hid : (b.beforeSession c clientID pkt).idOf c =
      (b.conns.lookup c).map fun _ => clientID := by
    rw [beforeSession, idOf_disconnectExisting, idOf_modifyClient, if_pos rfl]
  rw [establish_eq]
  generalize b.beforeSession c clientID pkt = b₁ at hstores hid ⊢
  -- the session is opened in a state with other connections and registrations
  obtain ⟨conns, panicked, rfl⟩ : ∃ conns panicked,
      b₁ = { b with clients := b.clients.erase clientID, conns, panicked } :=
    ⟨b₁.conns, b₁.panicked, congrArg
      (fun x => { x with conns := b₁.conns, panicked := b₁.panicked }) hstores⟩
  have hopen : (openSession { b with clients := b.clients.erase clientID, conns, panicked } clientID
      pkt.cleanSession (expiryInterval pkt)).2 =
        { (b.openSession clientID pkt.cleanSession (expiryInterval pkt)).2 with
          clients := b.clients.erase clientID, conns, panicked } := by
    rw [openSession, openSession]
    cases b.sessions.get clientID with
    | none => rfl
    | some existing => dsimp only; split_ifs <;> rfl
  dsimp only
  rw [afterSession, unrouted_finishConnect, unrouted_registerClient, idOf_setWill, unrouted_setWill,
    hopen]
  obtain ⟨subs, sess, hout⟩ := b.snd_openSession clientID pkt.cleanSession (expiryInterval pkt)
  rw [hout]
  dsimp only [idOf] at hid ⊢
  rw [hid]
  cases b.conns.lookup c <;> rfl

/-- `establish` takes over the session of the client, or makes a new one and leaves alone the
index, the offline queues and the received packets. -/
lemma establish_cases :
    (∃ existing, b.sessions.get clientID = some existing ∧ pkt.cleanSession = false ∧
      (b.establish cfg c clientID pkt now).2.sessions = b.sessions) ∨
    ((pkt.cleanSession = true ∨ b.sessions.get clientID = none) ∧
      (b.establish cfg c clientID pkt now).2.sessions =
        b.sessions.create clientID pkt.cleanSession (expiryInterval pkt) ∧
      (b.establish cfg c clientID pkt now).2.subscriptions = b.subscriptions ∧
      (b.establish cfg c clientID pkt now).2.offlineStore = b.offlineStore ∧
      (b.establish cfg c clientID pkt now).2.dedupStore = b.dedupStore) := by
  have hunrouted := b.unrouted_establish cfg c clientID pkt now
  rcases b.openSession_cases clientID pkt.cleanSession (expiryInterval pkt) with
    ⟨existing, idx, hget, hclean, hout⟩ | ⟨hnew, hout⟩
  · -- the session is there and is taken over as it is
    rw [hout] at hunrouted
    exact Or.inl ⟨existing, hget, hclean, congrArg (fun b => b.sessions) hunrouted⟩
  · -- a new session is made; without one before, nothing is drained from the queue
    have hoffline : (b.establish cfg c clientID pkt now).2.offlineStore = b.offlineStore := by
      have hstores := b.stores_beforeSession c clientID pkt
      have hfalse : ((b.beforeSession c clientID pkt).openSession clientID pkt.cleanSession
          (expiryInterval pkt)).1 = false := by
        rw [fst_openSession, show (b.beforeSession c clientID pkt).sessions = b.sessions from
          congrArg (fun b => b.sessions) hstores]
        rcases hnew with h | h <;> simp [h]
      rw [establish_eq]
      dsimp only
      rw [hfalse, afterSession, offlineStore_finishConnect, offlineStore_registering,
        offlineStore_openSession]
      exact congrArg (fun b => b.offlineStore) hstores
    rw [hout] at hunrouted
    exact Or.inr ⟨hnew, congrArg (fun b => b.sessions) hunrouted,
      congrArg (fun b => b.subscriptions) hunrouted, hoffline,
      congrArg (fun b => b.dedupStore) hunrouted⟩

lemma lookup_clients_establish {clientID clientID' : Str} (h : clientID' ≠ clientID)
    (pkt : ConnectPacket) (now : ℤ) :
    (b.establish cfg c clientID pkt now).2.clients.lookup clientID' =
      b.clients.lookup clientID' := by
  have hclients := congrArg (fun b => b.clients) (b.unrouted_establish cfg c clientID pkt now)
  refine (congrArg (AList.lookup clientID') hclients).trans ?_
  dsimp only
  split_ifs
  · rw [AList.lookup_insert_ne h, AList.lookup_erase_ne h]
  · rw [AList.lookup_erase_ne h]

/-- A CONNECT is answered with an error at once, or established. -/
lemma handleConnect_eq :
    (∃ err code, b.handleConnect cfg c pkt now =
        (.error err, b.send c (.connack { returnCode := code }))) ∨
      b.handleConnect cfg c pkt now = b.establish cfg c (effectiveClientID cfg c pkt) pkt now := by
  rw [handleConnect]
  split_ifs
  · exact Or.inl ⟨_, _, rfl⟩
  · exact Or.inl ⟨_, _, rfl⟩
  · exact Or.inl ⟨_, _, rfl⟩
  · exact Or.inr rfl

/-- A CONNECT is refused before the stores are touched, or established. -/
lemma handleConnect_cases :
    (b.handleConnect cfg c pkt now).2.stores = b.stores ∨
      b.handleConnect cfg c pkt now = b.establish cfg c (effectiveClientID cfg c pkt) pkt now := by
  rcases b.handleConnect_eq cfg c pkt now with ⟨err, code, h⟩ | h
  · rw [h]
    exact Or.inl (b.stores_send c _)
  · exact Or.inr h

/-! ### Clean start -/

/-- Nothing is left of what the broker held for a client ID: the index has no filter of it, its
queue is empty, and none of its packets of QoS 2 is taken for a duplicate from `now` on. -/
structure Discarded (clientID : Str) (now : ℤ) : Prop where
  unsubscribed : ∀ filter, ¬ b.subscriptions.Subscribed clientID filter
  noFilters : b.subscriptions.clientFilters clientID = []
  noMessages : b.offlineStore.queue clientID = []
  noDuplicates : ∀ packetID t, now ≤ t →
    (b.dedupStore.isDuplicate clientID packetID t).1 = false

/-- There is nothing to discard: no subscriber of a filter has the client ID, the maps hold no
filters and no messages for it, and what was received from it has expired. -/
structure NothingHeld (clientID : Str) (now : ℤ) : Prop where
  subscribers : ∀ filter es, b.subscriptions.filters.lookup filter = some es →
    ∀ e ∈ es, e.clientID ≠ clientID
  filters : ∀ fs, b.subscriptions.clients.lookup clientID = some fs → fs.keys = []
  messages : ∀ queue, b.offlineStore.queues.lookup clientID = some queue → queue = []
  received : ∀ packetID expiresAt,
    b.dedupStore.entries.lookup (dedupKey clientID packetID) = some expiresAt → expiresAt < now

lemma isDuplicate_eq_false_iff (d : DedupStore) (clientID : Str) (packetID : UInt16) (t : ℤ) :
    (d.isDuplicate clientID packetID t).1 = false ↔
      ∀ expiresAt, d.entries.lookup (dedupKey clientID packetID) = some expiresAt →
        expiresAt < t := by
  rw [DedupStore.isDuplicate]
  cases d.entries.lookup (dedupKey clientID packetID) with
  | none => simp
  | some expiresAt =>
    dsimp only
    split_ifs with h <;> simp <;> omega

variable {b} in
lemma discarded_iff {clientID : Str} {now : ℤ} :
    b.Discarded clientID now ↔ b.NothingHeld clientID now := by
  constructor
  · rintro ⟨hsub, hfil, hmsg, hdup⟩
    refine ⟨?_, ?_, ?_, ?_⟩
    · intro filter es hes e he hid
      exact hsub filter ⟨e, by simpa [SubscriptionIndex.entries, hes] using he, hid⟩
    · intro fs hfs
      simpa [SubscriptionIndex.clientFilters, hfs] using hfil
    · intro queue hq
      simpa [OfflineStore.queue, hq] using hmsg
    · intro packetID expiresAt hl
      exact (isDuplicate_eq_false_iff ..).1 (hdup packetID now le_rfl) expiresAt hl
  · rintro ⟨hsub, hfil, hmsg, hrec⟩
    refine ⟨?_, ?_, ?_, ?_⟩
    · rintro filter ⟨e, he, hid⟩
      rw [SubscriptionIndex.entries] at he
      cases hes : b.subscriptions.filters.lookup filter with
      | none => simp [hes] at he
      | some es => exact hsub filter es hes e (by simpa [hes] using he) hid
    · rw [SubscriptionIndex.clientFilters]
      cases hfs : b.subscriptions.clients.lookup clientID with
      | none => rfl
      | some fs => exact hfil fs hfs
    · rw [OfflineStore.queue]
      cases hq : b.offlineStore.queues.lookup clientID with
      | none => rfl
      | some queue => exact hmsg queue hq
    · intro packetID t ht
      refine (isDuplicate_eq_false_iff ..).2 fun expiresAt hl => ?_
      exact (hrec packetID expiresAt hl).trans_le ht

variable {b} in
lemma Discarded.of_eq {b' : BrokerState σ ρ} {clientID : Str} {now : ℤ}
    (h : b.Discarded clientID now) (hsub : b'.subscriptions = b.subscriptions)
    (hoff : b'.offlineStore = b.offlineStore) (hdup : b'.dedupStore = b.dedupStore) :
    b'.Discarded clientID now := by
  obtain ⟨h₁, h₂, h₃, h₄⟩ := h
  rw [← hsub] at h₁ h₂
  rw [← hoff] at h₃
  rw [← hdup] at h₄
  exact ⟨h₁, h₂, h₃, h₄⟩

/-- For every state and CONNECT with a clean start: what the broker held for the client ID is
discarded if and only if there was nothing. -/
theorem cleanStart_iff (b : BrokerState σ ρ) (c : ℕ) (pkt : ConnectPacket)
    (hclean : pkt.cleanSession = true) (now : ℤ) :
    (b.handleConnect cfg c pkt now).2.Discarded (effectiveClientID cfg c pkt) now ↔
      b.NothingHeld (effectiveClientID cfg c pkt) now := by
  rw [← discarded_iff]
  -- refused or established, the packet leaves the three stores alone
  have hkept : (b.handleConnect cfg c pkt now).2.subscriptions = b.subscriptions ∧
      (b.handleConnect cfg c pkt now).2.offlineStore = b.offlineStore ∧
      (b.handleConnect cfg c pkt now).2.dedupStore = b.dedupStore := by
    rcases b.handleConnect_cases cfg c pkt now with h | h
    · exact ⟨congrArg (fun b => b.subscriptions) h, congrArg (fun b => b.offlineStore) h,
        congrArg (fun b => b.dedupStore) h⟩
    · rw [h]
      rcases b.establish_cases cfg c (effectiveClientID cfg c pkt) pkt now with
        ⟨-, -, hno, -⟩ | ⟨-, -, hsub, hoff, hdup⟩
      · exact absurd hclean (by simp [hno])
      · exact ⟨hsub, hoff, hdup⟩
  obtain ⟨hsub, hoff, hdup⟩ := hkept
  exact ⟨fun h => h.of_eq hsub.symm hoff.symm hdup.symm, fun h => h.of_eq hsub hoff hdup⟩

/-! ### A client that comes back -/

/-- A CONNECT of version 4. -/
def connectAs (clientID : String) (cleanSession : Bool) : ConnectPacket where
  protocolName := str "MQTT"
  protocolLevel := 4
  cleanSession := cleanSession
  clientID := str clientID

/-- The broker without interceptors, once the connection `c` is established. -/
def connected (b : BrokerState TenantChain Unit) (c : ℕ) (clientID : String)
    (cleanSession : Bool) (now : ℤ) : BrokerState TenantChain Unit :=
  ((b.accept sampleConfig c).handleConnect sampleConfig c (connectAs clientID cleanSession) now).2

/-- The client `p` has subscribed `t`, has published a packet 7 of QoS 2 on `u` and is gone,
and the client `q` has published on `t`. -/
def returningBroker : BrokerState TenantChain Unit :=
  let b := (new () none).connected 0 "p" false 0
  let b := b.handleSubscribe sampleConfig 0 { packetID := 1, subscriptions := [⟨str "t", 1⟩] }
  let b := b.handlePublish sampleConfig 0
    { packetType := PUBLISH, qos := 2, remainingLength := 5 } [0, 1, 0x75, 0, 7] 1
  let b := b.close sampleConfig 0 2
  let b := b.connected 1 "q" true 3
  b.handlePublish sampleConfig 1
    { packetType := PUBLISH, qos := 1, remainingLength := 5 } [0, 1, 0x74, 0, 1] 4

/-- The clean start of a client that has not been there. -/
theorem cleanStart_iff_sample :
    (returningBroker.connected 2 "r" true 5).Discarded (str "r") 5 := by
  refine (cleanStart_iff sampleConfig (returningBroker.accept sampleConfig 2) 2
    (connectAs "r" true) rfl 5).2 ?_
  refine ⟨?_, ?_, ?_, ?_⟩
  · intro filter es hes
    have hfilters : returningBroker.subscriptions.filters.entries = [⟨str "t", [⟨str "p", 1⟩]⟩] :=
      rfl
    have hmem : _ ∈ returningBroker.subscriptions.filters.entries := AList.mem_lookup_iff.1 hes
    rw [hfilters, List.mem_singleton] at hmem
    cases hmem
    decide
  · intro fs hfs
    have hnone : returningBroker.subscriptions.clients.lookup (str "r") = none := rfl
    cases hnone.symm.trans hfs
  · intro queue hq
    have hnone : returningBroker.offlineStore.queues.lookup (str "r") = none := rfl
    cases hnone.symm.trans hq
  · intro packetID expiresAt hl
    have hentries : returningBroker.dedupStore.entries.entries =
        [⟨dedupKey (str "p") 7, 180 * second + 1⟩] := rfl
    have hmem : _ ∈ returningBroker.dedupStore.entries.entries := AList.mem_lookup_iff.1 hl
    rw [hentries, List.mem_singleton] at hmem
    have hkey := congrArg (fun e => e.1.head?) hmem
    cases hkey

/-- After a clean start `p` still has its subscription, its queued message and its packet. -/
theorem cleanStart_keeps :
    (returningBroker.connected 2 "p" true 5).subscriptions.Subscribed (str "p") (str "t") ∧
    (returningBroker.connected 2 "p" true 5).offlineStore.queue (str "p") ≠ [] ∧
    ((returningBroker.connected 2 "p" true 5).dedupStore.isDuplicate (str "p") 7 5).1 = true ∧
    ¬ (returningBroker.connected 2 "p" true 5).Discarded (str "p") 5 := by
  have hsub : (returningBroker.connected 2 "p" true 5).subscriptions.Subscribed
    (str "p") (str "t") := by decide
  exact ⟨hsub, by decide, by decide, fun h => h.unsubscribed (str "t") hsub⟩

end Dmqtt.Broker.BrokerState
