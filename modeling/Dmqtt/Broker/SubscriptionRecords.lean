/-
The three records of the subscriptions of a client.

A subscription is in the session of its client, in the index, and in the copy of the session that
the persistent store has.  SUBSCRIBE and UNSUBSCRIBE change the first two one filter after the
other, and write the copy at the end.  The copy is JSON, which replaces what is not valid UTF-8, and
no check of a filter asks for valid UTF-8: `subscription_records_iff` says when the three still
agree.
-/
import Dmqtt.Broker.Expiry
import Dmqtt.Broker.Persistence
import Mathlib.Data.List.ReduceOption

namespace Dmqtt.Broker

open Lib Codec Plugin

/-- The QoS under each filter. -/
abbrev FilterMap := Str → Option UInt8

namespace SubscriptionChange

/-- The subscriptions after a change. -/
def update (m : FilterMap) : SubscriptionChange → FilterMap
  | .set topic qos => Function.update m topic (some qos)
  | .remove topic => Function.update m topic none

/-- The index after a change for a client. -/
def applyIndex (clientID : Str) (idx : SubscriptionIndex) :
    SubscriptionChange → SubscriptionIndex
  | .set topic qos => idx.add clientID topic qos
  | .remove topic => idx.remove clientID topic

end SubscriptionChange

/-! ### The entries of one client -/

namespace SubscriptionIndex

/-- The entries of a client under a filter are those of the map. -/
def Holds (idx : SubscriptionIndex) (clientID : Str) (m : FilterMap) : Prop :=
  ∀ filter, (idx.heldFor clientID).1 filter =
    ((m filter).map (SubscriptionEntry.mk clientID)).toList

lemma filter_setQoS (clientID : Str) (qos : UInt8) (es : List SubscriptionEntry) :
    (setQoS clientID qos es).filter (fun e => e.clientID = clientID) =
      setQoS clientID qos (es.filter fun e => e.clientID = clientID) := by
  induction es with
  | nil => rfl
  | cons e es ih =>
    rw [setQoS]
    by_cases he : e.clientID = clientID
    · simp [he, setQoS]
    · simp [he, ih]

lemma filter_eraseP (clientID : Str) (es : List SubscriptionEntry) :
    (es.eraseP fun e => e.clientID = clientID).filter (fun e => e.clientID = clientID) =
      (es.filter fun e => e.clientID = clientID).tail := by
  induction es with
  | nil => rfl
  | cons e es ih =>
    by_cases he : e.clientID = clientID
    · simp [he]
    · simp [he, ih]

variable {idx : SubscriptionIndex} {clientID : Str} {m : FilterMap}

lemma Holds.add (h : idx.Holds clientID m) (filter : Str) (qos : UInt8) :
    (idx.add clientID filter qos).Holds clientID (Function.update m filter (some qos)) := by
  intro filter'
  have hold := h filter'
  dsimp only [heldFor] at hold ⊢
  by_cases hf : filter' = filter
  · subst hf
    rw [Function.update_self, SubscriptionIndex.add]
    split_ifs with hany <;> rw [entries_insert, if_pos rfl]
    · -- the one entry of the client gets the new QoS
      rw [filter_setQoS, hold]
      cases hm : m filter' with
      | none =>
        rw [hm] at hold
        obtain ⟨e, he, hid⟩ := List.any_eq_true.1 hany
        have hmem : e ∈ (idx.entries filter').filter fun e => e.clientID = clientID :=
          List.mem_filter.2 ⟨he, hid⟩
        rw [hold] at hmem
        cases hmem
      | some qos' => simp [setQoS]
    · have hnil : (idx.entries filter').filter (fun e => e.clientID = clientID) = [] := by
        simpa using hany
      simp [hnil]
  · rw [entries_add_of_ne idx clientID qos hf, Function.update_of_ne hf, hold]

lemma Holds.remove (h : idx.Holds clientID m) (filter : Str) :
    (idx.remove clientID filter).Holds clientID (Function.update m filter none) := by
  intro filter'
  have hold := h filter'
  dsimp only [heldFor] at hold ⊢
  rw [entries_remove]
  by_cases hf : filter' = filter
  · subst hf
    rw [if_pos rfl, filter_eraseP, hold, Function.update_self]
    cases m filter' <;> rfl
  · rw [if_neg hf, Function.update_of_ne hf, hold]

end SubscriptionIndex

/-! ### Session and index -/

/-- The session at `addr` and the index have the subscriptions of the map. -/
structure Recorded (clientID : Str) (addr : ℕ) (m : FilterMap) (idx : SubscriptionIndex)
    (ss : SessionStore) : Prop where
  session : ∃ s, ss.get clientID = some s ∧ s.addr = addr ∧
    ∀ filter, s.subscriptions.lookup filter = m filter
  index : idx.Holds clientID m

namespace Recorded

variable {clientID : Str} {addr : ℕ} {m : FilterMap} {idx : SubscriptionIndex} {ss : SessionStore}

lemma change (h : Recorded clientID addr m idx ss) (change : SubscriptionChange) :
    Recorded clientID addr (change.update m) (change.applyIndex clientID idx)
      (change.apply clientID addr ss) := by
  obtain ⟨⟨s, hs, haddr, hm⟩, hidx⟩ := h
  cases change with
  | set topic qos =>
    refine ⟨⟨{ s with subscriptions := s.subscriptions.insert topic qos }, ?_, haddr,
      fun filter => ?_⟩, hidx.add topic qos⟩
    · simp [SubscriptionChange.apply, SessionStore.get_setSubscription, hs, haddr]
    · rcases eq_or_ne filter topic with rfl | hne
      · simp [SubscriptionChange.update]
      · simp [SubscriptionChange.update, AList.lookup_insert_ne hne, hne, hm]
  | remove topic =>
    refine ⟨⟨{ s with subscriptions := s.subscriptions.erase topic }, ?_, haddr,
      fun filter => ?_⟩, hidx.remove topic⟩
    · simp [SubscriptionChange.apply, SessionStore.get_removeSubscription, hs, haddr]
    · rcases eq_or_ne filter topic with rfl | hne
      · simp [SubscriptionChange.update]
      · simp [SubscriptionChange.update, AList.lookup_erase_ne hne, hne, hm]

lemma changes (h : Recorded clientID addr m idx ss) (changes : List SubscriptionChange) :
    Recorded clientID addr (changes.foldl SubscriptionChange.update m)
      (changes.foldl (SubscriptionChange.applyIndex clientID) idx)
      (changes.foldl (SubscriptionChange.apply clientID addr) ss) := by
  induction changes generalizing m idx ss with
  | nil => exact h
  | cons change changes ih => exact ih (h.change change)

end Recorded

/-! ### The persistent copy -/

/-- The subscriptions that `Load` reads from what `persist` writes for a session. -/
def Session.persisted (e : Encodings) (clientID : Str) (s : Session) : Option FilterMap :=
  (readSession e clientID (e.json.marshal (sessionJSON e s))).map
    fun s filter => s.subscriptions.lookup filter

section Persisted

variable {e : Encodings} {clientID : Str} {s : Session} {m : FilterMap}

lemma persisted_of_valid (he : e.Lossless)
    (hvalid : ∀ filter qos, s.subscriptions.lookup filter = some qos → ValidUTF8 filter) :
    s.persisted e clientID = some fun filter => s.subscriptions.lookup filter := by
  have hread := congrArg (Option.map fun r => r.2.2.2.1)
    (record_readSession_marshal he clientID hvalid)
  rw [Option.map_map] at hread
  exact hread

/-- The subscriptions in the text of a session. -/
lemma get_coerced_subscriptions (he : e.Lossless) (s : Session) :
    JsonObject.get ((sessionJSON e s).map fun x =>
        (e.json.coerce x.1, x.2.mapStrings e.json.coerce)) (str "subscriptions") =
      .numbers ((sortedSubscriptions s).map fun f => (e.json.coerce f.1, (f.2 : ℤ))) := by
  have hnames : ((sessionJSON e s).map fun x =>
      (e.json.coerce x.1, x.2.mapStrings e.json.coerce)).map Prod.fst =
        (sessionJSON e s).map Prod.fst := by
    rw [sessionJSON]
    cases s.disconnectedAt <;> simp [he.coerce_str]
  refine JsonObject.get_of_mem (hnames ▸ (nodup_sessionJSON s).of_cons) ?_
  refine List.mem_map.2 ⟨(str "subscriptions",
    .numbers ((sortedSubscriptions s).map fun f => (f.1, (f.2 : ℤ)))), ?_, ?_⟩
  · simp [sessionJSON]
  · simp [JsonValue.mapStrings, he.coerce_str]

lemma validUTF8_of_persisted (he : e.Lossless) (hrep : e.json.Replacing)
    (hm : s.persisted e clientID = some m) {filter : Str} {qos : UInt8}
    (hf : m filter = some qos) : ValidUTF8 filter := by
  obtain ⟨s', hread, rfl⟩ := Option.map_eq_some_iff.1 hm
  simp only [readSession, Option.bind_eq_bind, Option.bind_eq_some_iff, Option.pure_def] at hread
  obtain ⟨raw, hraw, s₁, hs₁, hread⟩ := hread
  have hsubs : s'.subscriptions = s₁.subscriptions := by
    split_ifs at hread <;>
    · rw [← Option.some_injective _ hread]
  simp only [sessionOfJSON, Option.bind_eq_bind, Option.bind_eq_some_iff, Option.pure_def] at hs₁
  obtain ⟨_, -, _, -, _, -, subs, hmembers, _, -, _, -, _, -, _, -, hs₁⟩ := hs₁
  rw [he.json.unmarshal_marshal] at hraw
  rw [← Option.some_injective _ hraw, get_coerced_subscriptions he] at hmembers
  rw [hsubs, ← Option.some_injective _ hs₁] at hf
  rcases GoMap.mem_of_lookup_foldl_insert hf with hnil | ⟨x, hx, rfl, -⟩
  · simp at hnil
  · obtain ⟨y, -, hy⟩ := JsonValue.mem_asNumbers hmembers hx
    exact hy ▸ hrep y.1

lemma persisted_eq_iff (he : e.Lossless) (hrep : e.json.Replacing)
    (hs : ∀ filter, s.subscriptions.lookup filter = m filter) :
    s.persisted e clientID = some m ↔ ∀ filter, (m filter).isSome → ValidUTF8 filter := by
  constructor
  · intro hm filter hf
    obtain ⟨qos, hqos⟩ := Option.isSome_iff_exists.1 hf
    exact validUTF8_of_persisted he hrep hm hqos
  · intro hvalid
    rw [persisted_of_valid he]
    · exact congrArg some (funext hs)
    · intro filter qos hl
      rw [hs] at hl
      exact hvalid filter (by rw [hl]; rfl)

end Persisted

namespace BrokerState

variable {σ ε ρ : Type}

/-- What the broker has of a client: its session, what the index holds, and the persistent copy. -/
def recordsOf (b : BrokerState σ ρ) (clientID : Str) :=
  (b.sessions.get clientID, b.subscriptions.heldFor clientID, b.sessions.row clientID)

/-- The session of a client, the index, and the persistent copy if there is a persistent store, have
the subscriptions of the map. -/
structure RecordsAgree (e : Encodings) (b : BrokerState σ ρ) (clientID : Str) (m : FilterMap) :
    Prop where
  session : ∃ s, b.sessions.get clientID = some s ∧
    ∀ filter, s.subscriptions.lookup filter = m filter
  index : b.subscriptions.Holds clientID m
  persisted : b.sessions.store.isSome →
    (b.sessions.row clientID).bind (Session.persisted e clientID) = some m

/-! ### The handlers -/

/-- The changes that a SUBSCRIBE makes. -/
def sets (granted : List (Option (Str × UInt8))) : List SubscriptionChange :=
  granted.reduceOption.map fun g => .set g.1 g.2

/-- The changes that an UNSUBSCRIBE makes. -/
def removes (filters : List (Option Str)) : List SubscriptionChange :=
  filters.reduceOption.map .remove

variable (cfg : Config σ ε ρ)

/-- The first loop changes the index and the session in step. -/
lemma subscribeLoop_changes (client : Client) (addr : ℕ) (subs : List Subscription)
    (b : BrokerState σ ρ) :
    let out := subscribeLoop cfg client (some addr) subs b
    out.2.subscriptions =
        (sets out.1).foldl (SubscriptionChange.applyIndex client.clientID) b.subscriptions ∧
      out.2.sessions =
        (sets out.1).foldl (SubscriptionChange.apply client.clientID addr) b.sessions := by
  induction subs generalizing b with
  | nil => exact ⟨rfl, rfl⟩
  | cons sub subs ih =>
    have hrest := ih (b.subscribeOne cfg client (some addr) sub).2
    rw [subscribeLoop]
    dsimp only at hrest ⊢
    rw [hrest.1, hrest.2, subscribeOne]
    rcases grant cfg client sub (b.rateLimiter, b.interceptors) with ⟨_ | ⟨filter, qos⟩, a⟩ <;>
      exact ⟨rfl, rfl⟩

lemma unsubscribeLoop_changes (client : Client) (addr : ℕ) (filters : List Str)
    (b : BrokerState σ ρ) :
    let out := unsubscribeLoop cfg client (some addr) filters b
    out.2.subscriptions =
        (removes out.1).foldl (SubscriptionChange.applyIndex client.clientID) b.subscriptions ∧
      out.2.sessions =
        (removes out.1).foldl (SubscriptionChange.apply client.clientID addr) b.sessions := by
  induction filters generalizing b with
  | nil => exact ⟨rfl, rfl⟩
  | cons filter filters ih =>
    have hrest := ih (b.unsubscribeOne cfg client (some addr) filter).2
    rw [unsubscribeLoop]
    dsimp only at hrest ⊢
    rw [hrest.1, hrest.2, unsubscribeOne]
    rcases interceptUnsubscribe cfg client filter b.interceptors with ⟨_ | filter', s⟩ <;>
      exact ⟨rfl, rfl⟩

variable {b : BrokerState σ ρ} {c : ℕ} {client : Client}

lemma handleSubscribe_changes (hc : b.conns.lookup c = some client) {s : Session}
    (hs : b.sessions.get client.clientID = some s) (pkt : SubscribePacket) :
    let changes := sets (grants cfg client pkt.subscriptions (b.rateLimiter, b.interceptors))
    (b.handleSubscribe cfg c pkt).subscriptions =
        changes.foldl (SubscriptionChange.applyIndex client.clientID) b.subscriptions ∧
      (b.handleSubscribe cfg c pkt).sessions =
        (changes.foldl (SubscriptionChange.apply client.clientID s.addr) b.sessions).save
          client.clientID := by
  have hloop := subscribeLoop_changes cfg client s.addr pkt.subscriptions b
  have hgrants := (b.subscribeLoop_spec cfg client (some s.addr) pkt.subscriptions).1
  have hsubs := subscriptions_handleSubscribe cfg hc pkt
  have hlive := liveness_handleSubscribe cfg hc pkt
  rw [hs, Option.map_some] at hsubs hlive
  dsimp only at hloop ⊢
  rw [hgrants] at hloop
  have hsess : (b.handleSubscribe cfg c pkt).sessions = _ := congrArg (fun x => x.2.1) hlive
  exact ⟨hsubs.trans hloop.1, by rw [hsess, hloop.2]⟩

lemma handleUnsubscribe_changes (hc : b.conns.lookup c = some client) {s : Session}
    (hs : b.sessions.get client.clientID = some s) (pkt : UnsubscribePacket) :
    let changes := removes (unsubscribeLoop cfg client (some s.addr) pkt.topicFilters b).1
    (b.handleUnsubscribe cfg c pkt).subscriptions =
        changes.foldl (SubscriptionChange.applyIndex client.clientID) b.subscriptions ∧
      (b.handleUnsubscribe cfg c pkt).sessions =
        (changes.foldl (SubscriptionChange.apply client.clientID s.addr) b.sessions).save
          client.clientID := by
  have hloop := unsubscribeLoop_changes cfg client s.addr pkt.topicFilters b
  have hsend : ∀ (b : BrokerState σ ρ) (p : Outgoing),
      (b.send c p).subscriptions = b.subscriptions ∧ (b.send c p).sessions = b.sessions :=
    fun b p => ⟨congrArg (fun b => b.subscriptions) (b.stores_send c p),
      congrArg (fun b => b.sessions) (b.stores_send c p)⟩
  rw [handleUnsubscribe, hc]
  rw [(hsend _ _).1, (hsend _ _).2, hs]
  exact ⟨hloop.1, by rw [← hloop.2]; rfl⟩

/-! ### Changes for one client -/

lemma store_apply (clientID : Str) (addr : ℕ) (ss : SessionStore) (change : SubscriptionChange) :
    (change.apply clientID addr ss).store = ss.store := by
  cases change with
  | set topic qos =>
    rw [SubscriptionChange.apply, SessionStore.setSubscription]
    rcases ss.get clientID with _ | s
    · rfl
    · dsimp only
      split_ifs <;> rfl
  | remove topic =>
    rw [SubscriptionChange.apply, SessionStore.removeSubscription]
    rcases ss.get clientID with _ | s
    · rfl
    · dsimp only
      split_ifs <;> rfl

lemma row_save_of_ne {clientID id : Str} (hne : id ≠ clientID) (ss : SessionStore) :
    (ss.save clientID).row id = ss.row id := by
  rw [SessionStore.save]
  cases ss.get clientID with
  | none => rfl
  | some s => exact (ss.row_persist clientID id s).trans (if_neg hne)

section Changes

variable {e : Encodings} {b' : BrokerState σ ρ} {clientID : Str} {m : FilterMap} {addr : ℕ}
  {changes : List SubscriptionChange}
  (hidx : b'.subscriptions =
    changes.foldl (SubscriptionChange.applyIndex clientID) b.subscriptions)
  (hsess : b'.sessions =
    (changes.foldl (SubscriptionChange.apply clientID addr) b.sessions).save clientID)

include hidx hsess in
lemma recordsOf_changes {id : Str} (hne : id ≠ clientID) : b'.recordsOf id = b.recordsOf id := by
  have hget : ∀ ss (change : SubscriptionChange),
      (change.apply clientID addr ss).get id = ss.get id :=
    fun ss change => (WriteThrough.get_apply clientID addr change ss).1 id hne
  have hrow : ∀ ss (change : SubscriptionChange),
      (change.apply clientID addr ss).row id = ss.row id :=
    fun ss change => by rw [SessionStore.row, store_apply, SessionStore.row]
  have hheld : ∀ idx (change : SubscriptionChange),
      (change.applyIndex clientID idx).heldFor id = idx.heldFor id := by
    intro idx change
    cases change with
    | set topic qos => exact idx.heldFor_add hne topic qos
    | remove topic => exact idx.heldFor_remove hne topic
  rw [recordsOf, hidx, hsess, SessionStore.get_save, row_save_of_ne hne,
    foldl_frame (fun ss => SessionStore.get ss id) hget,
    foldl_frame (fun ss => SessionStore.row ss id) hrow,
    foldl_frame (fun idx => SubscriptionIndex.heldFor idx id) hheld]
  rfl

lemma RecordsAgree.valid (he : e.Lossless) (hrep : e.json.Replacing)
    (h : RecordsAgree e b clientID m) (hstore : b.sessions.store.isSome) {filter : Str}
    (hf : (m filter).isSome) : ValidUTF8 filter := by
  obtain ⟨s, -, hs⟩ := Option.bind_eq_some_iff.1 (h.persisted hstore)
  obtain ⟨qos, hqos⟩ := Option.isSome_iff_exists.1 hf
  exact validUTF8_of_persisted he hrep hs hqos

include hidx hsess in
/-- The session and the index still agree, and the copy agrees with them unless a filter is not
valid UTF-8. -/
lemma recordsAgree_changes (he : e.Lossless) (hrep : e.json.Replacing)
    (h : Recorded clientID addr m b.subscriptions b.sessions) :
    let m' := changes.foldl SubscriptionChange.update m
    (∃ s, b'.sessions.get clientID = some s ∧
      b'.subscriptions.Holds clientID fun filter => s.subscriptions.lookup filter) ∧
    ((∃ m'', RecordsAgree e b' clientID m'') ↔
      (b.sessions.store.isSome → ∀ filter, (m' filter).isSome → ValidUTF8 filter)) := by
  intro m'
  obtain ⟨⟨s, hs, -, hm⟩, hholds⟩ := h.changes changes
  have hget : b'.sessions.get clientID = some s := by rw [hsess, SessionStore.get_save, hs]
  have hrow : b'.sessions.row clientID = b.sessions.store.map fun _ => s := by
    rw [hsess, SessionStore.save, hs]
    rw [SessionStore.row_persist, if_pos rfl, foldl_frame SessionStore.store (store_apply _ _)]
  have hstore : b'.sessions.store.isSome = b.sessions.store.isSome := by
    rw [hsess, SessionStore.save, hs, ← foldl_frame SessionStore.store (store_apply clientID addr)
      changes b.sessions]
    exact Option.isSome_map
  have hmap : (fun filter => s.subscriptions.lookup filter) = m' := funext hm
  have hcopy : b.sessions.store.isSome →
      ((b'.sessions.row clientID).bind (Session.persisted e clientID) = some m' ↔
        ∀ filter, (m' filter).isSome → ValidUTF8 filter) := by
    intro hsome
    obtain ⟨rows, hrows⟩ := Option.isSome_iff_exists.1 hsome
    rw [hrow, hrows]
    exact persisted_eq_iff he hrep hm
  refine ⟨⟨s, hget, ?_⟩, ?_, ?_⟩
  · rw [hmap, hidx]
    exact hholds
  · rintro ⟨m'', ⟨s', hs', hm''⟩, -, hpersisted⟩ hsome
    rw [hget] at hs'
    obtain rfl := Option.some_injective _ hs'
    obtain rfl : m' = m'' := hmap.symm.trans (funext hm'')
    exact (hcopy hsome).1 (hpersisted (hstore ▸ hsome))
  · intro hvalid
    refine ⟨m', ⟨s, hget, hm⟩, hidx ▸ hholds, fun hsome => ?_⟩
    rw [hstore] at hsome
    exact (hcopy hsome).2 (hvalid hsome)

end Changes

lemma isSome_foldl_sets {m : FilterMap} {granted : List (Option (Str × UInt8))} {filter : Str} :
    ((sets granted).foldl SubscriptionChange.update m filter).isSome ↔
      (m filter).isSome ∨ ∃ qos, some (filter, qos) ∈ granted := by
  rw [sets]
  simp only [← List.reduceOption_mem_iff]
  generalize granted.reduceOption = granted
  induction granted generalizing m with
  | nil => simp
  | cons g granted ih =>
    rw [List.map_cons, List.foldl_cons, ih, SubscriptionChange.update]
    rcases eq_or_ne filter g.1 with rfl | hne
    · rw [Function.update_self]
      exact ⟨fun _ => Or.inr ⟨g.2, List.mem_cons_self⟩, fun _ => Or.inl rfl⟩
    · simp [hne, Prod.ext_iff]

lemma isSome_of_isSome_foldl_removes {m : FilterMap} {filters : List (Option Str)} {filter : Str}
    (h : ((removes filters).foldl SubscriptionChange.update m filter).isSome) :
    (m filter).isSome := by
  rw [removes] at h
  generalize filters.reduceOption = filters at h
  induction filters generalizing m with
  | nil => exact h
  | cons f filters ih =>
    have hone := ih h
    rw [SubscriptionChange.update] at hone
    rcases eq_or_ne filter f with rfl | hne
    · simp at hone
    · rwa [Function.update_of_ne hne] at hone

/-! ### The codes of the SUBACK -/

/-- A chain of interceptors that is asked for at most QoS 2 grants at most QoS 2. -/
def HooksBounded : Prop :=
  ∀ x, x.1.qos ≤ 2 → (cfg.hooks.onSubscribe x).1 = .ok () → (cfg.hooks.onSubscribe x).2.1.qos ≤ 2

lemma qos_interceptSubscribe (hqos : HooksBounded cfg) (client : Client) (sub : Subscription)
    (interceptors : Option σ) {filter : Str} {qos : UInt8}
    (h : (interceptSubscribe cfg client sub interceptors).1 = some (filter, qos)) : qos ≤ 2 := by
  have hgranted : (if sub.qos > 2 then 2 else sub.qos : UInt8) ≤ 2 := by
    split_ifs with hgt
    · decide
    · exact UInt8.not_lt.1 hgt
  cases interceptors with
  | none =>
    cases h
    exact hgranted
  | some s =>
    rw [interceptSubscribe] at h
    have hbound := hqos (⟨client.clientID, sub.topicFilter,
      if sub.qos > 2 then 2 else sub.qos⟩, s) hgranted
    generalize cfg.hooks.onSubscribe (⟨client.clientID, sub.topicFilter,
      if sub.qos > 2 then 2 else sub.qos⟩, s) = out at h hbound
    rcases out with ⟨_ | _, ev, s'⟩
    · cases h
    · cases h
      exact hbound rfl

lemma qos_grants (hqos : HooksBounded cfg) (client : Client) (subs : List Subscription)
    (a : ρ × Option σ) {filter : Str} {qos : UInt8}
    (h : some (filter, qos) ∈ grants cfg client subs a) : qos ≤ 2 := by
  induction subs generalizing a with
  | nil => cases h
  | cons sub subs ih =>
    rcases List.mem_cons.1 h with hone | hrest
    · rw [grant] at hone
      split_ifs at hone
      rcases hout : cfg.limiter.allowSubscribe a.1 client.clientID sub.topicFilter with
        ⟨_ | _, r⟩
      · rw [hout] at hone
        cases hone
      · rw [hout] at hone
        exact qos_interceptSubscribe cfg hqos client sub a.2 hone.symm
    · exact ih _ hrest

lemma returnCode_eq_iff {g : Option (Str × UInt8)}
    (hg : ∀ filter qos, g = some (filter, qos) → qos ≤ 2) : returnCode g = 0x80 ↔ g = none := by
  rcases g with _ | ⟨filter, qos⟩
  · simp [returnCode]
  · have hle := hg filter qos rfl
    simp only [returnCode, reduceCtorEq, iff_false]
    rintro rfl
    exact absurd hle (by decide)

/-- For every SUBSCRIBE and UNSUBSCRIBE of a client whose records agree, and every authorizer, rate
limiter and chain of interceptors: session and index agree again, the records of other clients are
as before, and the SUBACK has the QoS of each filter that is installed and 0x80 for the others.  The
persistent copy agrees again as well, except after a SUBSCRIBE that installs a filter that is not
valid UTF-8. -/
theorem subscription_records_iff (e : Encodings) (he : e.Lossless) (hrep : e.json.Replacing)
    (hqos : HooksBounded cfg) (b : BrokerState σ ρ) (c : ℕ) (client : Client)
    (hc : b.conns.lookup c = some client) (hopen : client.closed = false) (m : FilterMap)
    (h : RecordsAgree e b client.clientID m) :
    (∀ pkt : SubscribePacket,
      let b' := b.handleSubscribe cfg c pkt
      let granted := grants cfg client pkt.subscriptions (b.rateLimiter, b.interceptors)
      (∃ s, b'.sessions.get client.clientID = some s ∧
        b'.subscriptions.Holds client.clientID fun filter => s.subscriptions.lookup filter) ∧
      ((∃ m', RecordsAgree e b' client.clientID m') ↔
        (b.sessions.store.isSome → ∀ filter qos, some (filter, qos) ∈ granted →
          ValidUTF8 filter)) ∧
      (∀ id, id ≠ client.clientID → b'.recordsOf id = b.recordsOf id) ∧
      b'.subscriptions = granted.reduceOption.foldl
        (fun idx g => idx.add client.clientID g.1 g.2) b.subscriptions ∧
      ∃ codes, (b.sentSince b' c).head? = some (.suback ⟨pkt.packetID, codes⟩) ∧
        codes = granted.map returnCode ∧ codes.length = pkt.subscriptions.length ∧
        ∀ i : ℕ, codes[i]? = some 0x80 ↔ granted[i]? = some none) ∧
    ∀ pkt : UnsubscribePacket,
      let b' := b.handleUnsubscribe cfg c pkt
      (∃ m', RecordsAgree e b' client.clientID m') ∧
      ∀ id, id ≠ client.clientID → b'.recordsOf id = b.recordsOf id := by
  obtain ⟨s, hs, hm⟩ := h.session
  have hrec : Recorded client.clientID s.addr m b.subscriptions b.sessions :=
    ⟨⟨s, hs, rfl, hm⟩, h.index⟩
  constructor
  · intro pkt b' granted
    obtain ⟨hidx, hsess⟩ := handleSubscribe_changes cfg hc hs pkt
    obtain ⟨hfirst, hiff⟩ := recordsAgree_changes hidx hsess he hrep hrec
    refine ⟨hfirst, hiff.trans ?_, fun id hne => recordsOf_changes hidx hsess hne, ?_, ?_⟩
    · -- the filters that were there before are valid
      refine forall_congr' fun hstore =>
        ⟨fun hvalid filter qos hg => ?_, fun hvalid filter hf => ?_⟩
      · exact hvalid filter (isSome_foldl_sets.2 (Or.inr ⟨qos, hg⟩))
      · rcases isSome_foldl_sets.1 hf with hold | ⟨qos, hg⟩
        · exact h.valid he hrep hstore hold
        · exact hvalid filter qos hg
    · rw [hidx, sets, List.foldl_map]
      rfl
    · refine ⟨granted.map returnCode, ?_, rfl, ?_, fun i => ?_⟩
      · have hgrants := (b.subscribeLoop_spec cfg client
          ((b.sessions.get client.clientID).map Session.addr) pkt.subscriptions).1
        rw [sentSince, sentOn, sentOn, lookup_handleSubscribe cfg hc hopen, hc, installed, hgrants]
        simp [granted]
      · rw [List.length_map, length_grants]
      · rw [List.getElem?_map]
        cases hg : granted[i]? with
        | none => simp
        | some g =>
          rw [Option.map_some, Option.some_inj, Option.some_inj]
          refine returnCode_eq_iff fun filter qos heq => ?_
          subst heq
          exact qos_grants cfg hqos client _ _ (List.mem_of_getElem? hg)
  · intro pkt b'
    obtain ⟨hidx, hsess⟩ := handleUnsubscribe_changes cfg hc hs pkt
    obtain ⟨-, hiff⟩ := recordsAgree_changes hidx hsess he hrep hrec
    refine ⟨hiff.2 fun hstore filter hf => ?_, fun id hne => recordsOf_changes hidx hsess hne⟩
    exact h.valid he hrep hstore (isSome_of_isSome_foldl_removes hf)

/-! ### A client with a persistent session -/

/-- The client `c` is connected to a broker with a persistent store. -/
def persistentBroker : BrokerState Unit Unit :=
  let b : BrokerState Unit Unit := { BrokerState.new () none with sessions := .new true }
  let pkt : ConnectPacket :=
    { protocolName := str "MQTT", protocolLevel := 4, cleanSession := false, clientID := str "c" }
  ((b.accept plainConfig 0).handleConnect plainConfig 0 pkt 1).2

/-- The connection of the client. -/
def plainClient : Client where
  clientID := str "c"
  username := []
  will := none
  packetIDs := 0
  inflight := ⟨∅, 20⟩
  protocolVersion := 4
  closed := false
  sent := [.connack { returnCode := connackAccepted, protocolVersion := 4 }]

lemma recordsAgree_persistentBroker {e : Encodings} (he : e.Lossless) :
    RecordsAgree e persistentBroker (str "c") fun _ => none where
  session := ⟨_, rfl, fun _ => rfl⟩
  index := fun _ => rfl
  persisted := fun _ => persisted_of_valid he (fun _ _ h => nomatch h)

/-- A filter is asked for twice, and one is not valid. -/
theorem subscription_records_iff_twice :
    ∃ e : Encodings, e.Lossless ∧ e.json.Replacing ∧
      let pkt : SubscribePacket :=
        { packetID := 7, subscriptions := [⟨str "a", 1⟩, ⟨str "#/a", 0⟩, ⟨str "a", 2⟩] }
      let b' := persistentBroker.handleSubscribe plainConfig 0 pkt
      (∃ m, RecordsAgree e b' (str "c") m) ∧
      (persistentBroker.sentSince b' 0).head? = some (.suback ⟨7, [1, 0x80, 2]⟩) := by
  obtain ⟨e, he, hrep⟩ := Encodings.exists_lossless
  refine ⟨e, he, hrep, ?_⟩
  intro pkt b'
  obtain ⟨-, hiff, -, -, codes, hcodes, rfl, -⟩ := (subscription_records_iff plainConfig e he hrep
    (fun _ h _ => h) persistentBroker 0 plainClient rfl rfl _
    (recordsAgree_persistentBroker he)).1 pkt
  refine ⟨hiff.2 fun _ filter qos hg => ?_, hcodes⟩
  have hfilter : filter = str "a" := by
    have hgrants : grants plainConfig plainClient pkt.subscriptions
        (persistentBroker.rateLimiter, persistentBroker.interceptors) =
          [some (str "a", 1), none, some (str "a", 2)] := rfl
    simp only [hgrants, List.mem_cons, Option.some.injEq, Prod.mk.injEq, reduceCtorEq,
      List.not_mem_nil, or_false, false_or] at hg
    rcases hg with ⟨hf, -⟩ | ⟨hf, -⟩ <;> exact hf
  rw [hfilter]
  exact validUTF8_toUTF8 "a"

/-- The filter of the single byte 0xFF is granted. -/
theorem persisted_copy_differs :
    let pkt : SubscribePacket := { packetID := 7, subscriptions := [⟨[0xFF], 0⟩] }
    let b' := persistentBroker.handleSubscribe plainConfig 0 pkt
    (persistentBroker.sentSince b' 0).head? = some (.suback ⟨7, [0]⟩) ∧
    (∃ e : Encodings, e.Lossless ∧ e.json.Replacing) ∧
    ∀ e : Encodings, e.Lossless → e.json.Replacing →
      (∃ m, RecordsAgree e persistentBroker (str "c") m) ∧
      ¬ ∃ m, RecordsAgree e b' (str "c") m := by
  refine ⟨rfl, Encodings.exists_lossless, fun e he hrep =>
    ⟨⟨_, recordsAgree_persistentBroker he⟩, ?_⟩⟩
  rintro ⟨m, h⟩
  obtain ⟨s, hs, hm⟩ := h.session
  obtain rfl := Option.some_injective _ hs
  have hsome : (m [0xFF]).isSome := by
    rw [← hm]
    rfl
  have hvalid : ValidUTF8 [0xFF] := h.valid he hrep rfl hsome
  rw [ValidUTF8] at hvalid
  exact absurd hvalid (by decide)

end BrokerState

end Dmqtt.Broker
