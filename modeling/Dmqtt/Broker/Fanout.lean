/-
Who gets a routed message.

`FanOut` says which clients `routeMessage` serves, in terms of the subscription index, the
registered connections and the sessions.  Without interceptors the rest of `routeMessage` is one
`deliverMessage` for each connection and one `Enqueue` for each offline client of the snapshot,
so that nothing else changes.
-/
import Dmqtt.Broker.Mediation

namespace Dmqtt.Broker.BrokerState

open Lib Codec Plugin

variable {σ ε ρ : Type} (cfg : Config σ ε ρ) (b : BrokerState σ ρ)

/-- The client has a filter that matches the topic, and gets a message of QoS `qos` with
`effectiveQoS`. -/
def Receives (topic : Str) (qos : UInt8) (clientID : Str) (effectiveQoS : UInt8) : Prop :=
  ∃ m, IsGreatest (b.subscriptions.matchingQoS topic clientID) m ∧ effectiveQoS = min qos m

/-- The deliveries and the offline deliveries of a message: each client once, the connected ones
with their connection, the others if their session outlives the connection. -/
structure FanOut (topic : Str) (qos : UInt8) (deliveries : List (ℕ × Str × UInt8))
    (offlineDeliveries : List (Str × UInt8)) : Prop where
  nodup_deliveries : (deliveries.map fun d => d.2.1).Nodup
  mem_deliveries : ∀ c clientID effectiveQoS, (c, clientID, effectiveQoS) ∈ deliveries ↔
    b.clients.lookup clientID = some c ∧ b.Receives topic qos clientID effectiveQoS
  nodup_offlineDeliveries : (offlineDeliveries.map Prod.fst).Nodup
  mem_offlineDeliveries : ∀ clientID effectiveQoS, (clientID, effectiveQoS) ∈ offlineDeliveries ↔
    b.clients.lookup clientID = none ∧
    (∃ s, b.sessions.get clientID = some s ∧ s.expiryInterval ≠ 0) ∧
    b.Receives topic qos clientID effectiveQoS

/-! ### The snapshot -/

/-- The matched clients with the QoS of the delivery. -/
def matched (topic : Str) (qos : UInt8) : List (Str × UInt8) :=
  (b.subscriptions.matchTopic topic).map fun m =>
    (m.clientID, if m.qos < qos then m.qos else qos)

lemma mem_matched {topic clientID : Str} {qos effectiveQoS : UInt8} :
    (clientID, effectiveQoS) ∈ b.matched topic qos ↔
      b.Receives topic qos clientID effectiveQoS := by
  have hmin : ∀ m : UInt8, (if m < qos then m else qos) = min qos m := by
    intro m
    rw [UInt8.min_def]
    split_ifs with h h' h'
    · exact absurd h (UInt8.not_lt.2 h')
    · rfl
    · rfl
    · exact absurd (UInt8.not_lt.1 h) h'
  rw [matched, List.mem_map]
  constructor
  · rintro ⟨⟨clientID, m⟩, hm, heq⟩
    cases heq
    exact ⟨m, (b.subscriptions.mem_matchTopic_iff topic clientID m).1 hm, hmin m⟩
  · rintro ⟨m, hm, rfl⟩
    exact ⟨⟨clientID, m⟩, (b.subscriptions.mem_matchTopic_iff topic clientID m).2 hm,
      by rw [hmin]⟩

variable (topic : Str) (qos : UInt8) (payload : Bytes) (now : ℤ)

lemma nodup_matched : ((b.matched topic qos).map Prod.fst).Nodup := by
  rw [matched, List.map_map]
  exact b.subscriptions.nodup_matchTopic topic

/-- The snapshot that `routeMessage` takes. -/
lemma fanOut_routes :
    b.FanOut topic qos (b.routes topic qos).1 (b.routes topic qos).2 where
  nodup_deliveries := by
    rw [List.Nodup, List.pairwise_map, routes, List.pairwise_filterMap]
    refine (List.pairwise_map.1 (b.nodup_matched topic qos)).imp ?_
    intro x x' hne d hd d' hd'
    obtain ⟨c, -, rfl⟩ := Option.map_eq_some_iff.1 hd
    obtain ⟨c', -, rfl⟩ := Option.map_eq_some_iff.1 hd'
    exact hne
  mem_deliveries c clientID effectiveQoS := by
    rw [← mem_matched, routes, List.mem_filterMap]
    constructor
    · rintro ⟨⟨clientID', effectiveQoS'⟩, hm, heq⟩
      obtain ⟨c', hl, heq⟩ := Option.map_eq_some_iff.1 heq
      cases heq
      exact ⟨hl, hm⟩
    · rintro ⟨hl, hm⟩
      exact ⟨(clientID, effectiveQoS), hm, by simp [hl]⟩
  nodup_offlineDeliveries := (b.nodup_matched topic qos).sublist (List.filter_sublist.map _)
  mem_offlineDeliveries clientID effectiveQoS := by
    have hsession : ((b.sessions.get clientID).any fun s => s.expiryInterval ≠ 0) = true ↔
        ∃ s, b.sessions.get clientID = some s ∧ s.expiryInterval ≠ 0 := by
      cases b.sessions.get clientID <;> simp
    rw [← mem_matched, ← hsession, routes, List.mem_filter, Bool.and_eq_true,
      Option.isNone_iff_eq_none, and_comm, and_assoc]
    rfl

/-! ### The message -/

lemma interceptors_deliverMessage (c : ℕ) (topic : Str) (payload : Bytes) (qos : UInt8)
    (now : ℤ) : (b.deliverMessage c topic payload qos now).interceptors = b.interceptors := by
  have h := b.stores_deliverMessage c topic payload qos now
  exact congrArg (fun b => b.interceptors) h

/-- Without interceptors the deliveries are calls of `deliverMessage`. -/
lemma foldl_deliver (h : b.interceptors = none) (topic : Str) (payload : Bytes) (now : ℤ)
    (ds : List (ℕ × Str × UInt8)) :
    ds.foldl (fun b d => b.deliver cfg topic payload now d) b =
      ds.foldl (fun b d => b.deliverMessage d.1 topic payload d.2.2 now) b := by
  induction ds generalizing b with
  | nil => rfl
  | cons d ds ih =>
    have hd : b.deliver cfg topic payload now d =
        b.deliverMessage d.1 topic payload d.2.2 now := by
      rw [deliver, h]
    rw [List.foldl_cons, List.foldl_cons, hd]
    exact ih _ (by rw [interceptors_deliverMessage, h])

lemma offlineStore_deliver (d : ℕ × Str × UInt8) :
    (b.deliver cfg topic payload now d).offlineStore = b.offlineStore := by
  have hmsg : ∀ (b : BrokerState σ ρ) (topic : Str) (payload : Bytes) (qos : UInt8),
      (b.deliverMessage d.1 topic payload qos now).offlineStore = b.offlineStore :=
    fun b topic payload qos =>
      congrArg (fun b => b.offlineStore) (b.stores_deliverMessage d.1 topic payload qos now)
  rw [deliver]
  cases b.interceptors with
  | none => exact hmsg b topic payload _
  | some s =>
    dsimp only
    split
    · rfl
    · exact hmsg _ _ _ _

lemma conns_enqueueOffline (d : Str × UInt8) :
    (b.enqueueOffline topic payload now d).conns = b.conns := rfl

lemma queue_enqueueOffline_of_ne {clientID : Str} {d : Str × UInt8} (h : clientID ≠ d.1)
    (topic : Str) (payload : Bytes) (now : ℤ) :
    (b.enqueueOffline topic payload now d).offlineStore.queue clientID =
      b.offlineStore.queue clientID := by
  obtain ⟨q, m, -, -, heq⟩ :=
    b.offlineStore.enqueue_eq d.1 { topic, payload, qos := d.2 } now
  rw [enqueueOffline]
  rw [heq, OfflineStore.queue_insert, if_neg h]

/-- Without interceptors, `routeMessage` delivers a message once to each connected client that
has a matching filter, with the smaller one of the QoS of the message and of the largest of these
filters.  It queues the message once, with this QoS, for each client with a matching filter that
is not connected and whose session outlives its connection.  Other connections and queues stay as
they are, and so does the rest of the state. -/
theorem routeMessage_fanOut (h : b.interceptors = none) (topic : Str) (payload : Bytes)
    (qos : UInt8) (retain forwarded : Bool) (now : ℤ) :
    ∃ deliveries offlineDeliveries, b.FanOut topic qos deliveries offlineDeliveries ∧
      b.routeMessage cfg topic payload qos retain forwarded now =
        offlineDeliveries.foldl (fun b d => b.enqueueOffline topic payload now d)
          (deliveries.foldl (fun b d => b.deliverMessage d.1 topic payload d.2.2 now)
            { b with calls := b.calls ++ [.routeMessage topic payload qos retain forwarded] }) ∧
      (∀ c, (∀ d ∈ deliveries, d.1 ≠ c) →
        (b.routeMessage cfg topic payload qos retain forwarded now).conns.lookup c =
          b.conns.lookup c) ∧
      (∀ clientID, (∀ d ∈ offlineDeliveries, d.1 ≠ clientID) →
        (b.routeMessage cfg topic payload qos retain forwarded now).offlineStore.queue clientID =
          b.offlineStore.queue clientID) ∧
      (b.routeMessage cfg topic payload qos retain forwarded now).unrouted =
        { b.unrouted with
          calls := b.calls ++ [.routeMessage topic payload qos retain forwarded] } := by
  have heq : b.routeMessage cfg topic payload qos retain forwarded now =
      (b.routes topic qos).2.foldl (fun b d => b.enqueueOffline topic payload now d)
        ((b.routes topic qos).1.foldl (fun b d => b.deliverMessage d.1 topic payload d.2.2 now)
          { b with calls := b.calls ++ [.routeMessage topic payload qos retain forwarded] }) := by
    rw [routeMessage]
    dsimp only
    rw [foldl_deliver]
    exact h
  refine ⟨_, _, b.fanOut_routes topic qos, heq, ?_, ?_,
    b.unrouted_routeMessage cfg topic payload qos retain forwarded now⟩
  · intro c hc
    rw [heq, foldl_frame (fun b : BrokerState σ ρ => b.conns.lookup c)
      fun b d => congrArg (AList.lookup c) (b.conns_enqueueOffline topic payload now d)]
    exact foldl_frame_of_mem (fun b : BrokerState σ ρ => b.conns.lookup c)
      (fun b d hd => b.lookup_deliverMessage_of_ne (hc d hd).symm topic payload d.2.2 now) _
  · intro clientID hq
    rw [heq, foldl_frame_of_mem (fun b : BrokerState σ ρ => b.offlineStore.queue clientID)
      fun b d hd => b.queue_enqueueOffline_of_ne (hq d hd).symm topic payload now]
    refine foldl_frame (fun b : BrokerState σ ρ => b.offlineStore.queue clientID) ?_ _ _
    intro b d
    have hstores := b.stores_deliverMessage d.1 topic payload d.2.2 now
    exact congrArg (fun b => b.offlineStore.queue clientID) hstores

/-- A broker with a connected subscriber and one that is away. -/
def twoSubscribers : BrokerState TenantChain Unit :=
  let b : BrokerState TenantChain Unit := .new () none
  { b with
    subscriptions := ((b.subscriptions.add (str "x") (str "a/+") 1).add (str "x") (str "a/b") 2).add
      (str "y") (str "#") 0
    sessions := b.sessions.create (str "y") false neverExpires
    clients := b.clients.insert (str "x") 0 }

/-- The connected one gets the message at its own QoS, the other one gets it later. -/
theorem routeMessage_fanOut_twoSubscribers :
    ∃ deliveries offlineDeliveries,
      twoSubscribers.FanOut (str "a/b") 1 deliveries offlineDeliveries ∧
      (0, str "x", 1) ∈ deliveries ∧ (str "y", 0) ∈ offlineDeliveries := by
  obtain ⟨ds, os, hfan, -⟩ :=
    twoSubscribers.routeMessage_fanOut sampleConfig rfl (str "a/b") [] 1 false false 0
  refine ⟨ds, os, hfan, ?_, ?_⟩
  · rw [hfan.mem_deliveries, ← mem_matched]
    decide
  · rw [hfan.mem_offlineDeliveries, ← mem_matched]
    exact ⟨by decide, ⟨_, rfl, by decide⟩, by decide⟩

end Dmqtt.Broker.BrokerState
