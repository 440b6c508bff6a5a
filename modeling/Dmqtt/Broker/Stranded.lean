/-
Messages that are routed while a client comes back.

`routeMessage` decides in its snapshot who is offline, and queues the message for them later.  A
client that comes back is registered, and then `handleConnect` takes up to a hundred messages off
its queue, once.

Here the steps of any number of calls of `routeMessage` are interleaved with those of the handshake
of one connection.  What is in the queue after the calls that are in progress have finished stays
there until the client comes back again.  `queue_eq_nil_iff` says when it is empty.
-/
import Dmqtt.Broker.Delivery
import Dmqtt.Broker.Fanout
import Dmqtt.Broker.OfflineOrder
import Dmqtt.Broker.Sends
import Dmqtt.Broker.Simultaneous

namespace Dmqtt.Broker

open Lib Codec Plugin

namespace OfflineStore

variable {s : OfflineStore}

/-- There is something in a queue after a message was added, or was refused because the queue is
full. -/
lemma queue_enqueue_ne_nil (h : 0 < s.maxPerClient) (clientID : Str) (msg : OfflineMessage)
    (now : ℤ) : (s.enqueue clientID msg now).2.queue clientID ≠ [] := by
  rw [enqueue]
  split_ifs with hfull
  · have hne : (s.queue clientID).filter (fun m => m.live now) ≠ [] := by
      intro hnil
      rw [hnil] at hfull
      exact absurd hfull (not_le.2 h)
    split
    · rwa [queue_insert, if_pos rfl]
    · split
      · rwa [queue_insert, if_pos rfl]
      · simp [queue_insert]
  · simp [queue_insert]

variable (clientID : Str) (msg : OfflineMessage) (n : ℕ) (now : ℤ)

lemma maxPerClient_enqueue : (s.enqueue clientID msg now).2.maxPerClient = s.maxPerClient := by
  obtain ⟨q, m, -, -, heq⟩ := s.enqueue_eq clientID msg now
  rw [heq]

lemma maxPerClient_dequeue : (s.dequeue clientID n now).2.maxPerClient = s.maxPerClient := by
  rw [dequeue]
  cases s.queues.lookup clientID <;> rfl

lemma queue_dequeue_eq_nil_iff :
    (s.dequeue clientID n now).2.queue clientID = [] ↔ (s.liveQueue clientID now).length ≤ n := by
  rw [queue_dequeue_self, List.drop_eq_nil_iff, valid, List.length_insertionSort]

end OfflineStore

/-- The number of messages that a call of `routeMessage` is still going to queue for a client. -/
def Route.pending (clientID : Str) (r : Route) : ℕ :=
  r.offlineDeliveries.countP fun d => d.1 = clientID

/-- The call has returned. -/
def Route.Finished (r : Route) : Prop := r.deliveries = [] ∧ r.offlineDeliveries = []

instance (r : Route) : Decidable r.Finished := inferInstanceAs (Decidable (_ ∧ _))

/-- The handshakes, and the calls of `routeMessage` that are under way. -/
structure Traffic (σ ρ : Type) where
  handshakes : Handshakes σ ρ
  routes : List Route

namespace Traffic

open BrokerState Handshakes

variable {σ ε ρ : Type} (cfg : Config σ ε ρ) (pkt : ℕ → ConnectPacket) (c : ℕ) (t : Traffic σ ρ)

/-- The calls of `routeMessage`, on their own. -/
def threads : Threads σ ρ := ⟨t.handshakes.broker, t.routes, []⟩

/-- The calls of `routeMessage` have gone on. -/
def withThreads (threads : Threads σ ρ) : Traffic σ ρ :=
  ⟨{ t.handshakes with broker := threads.broker }, threads.routes⟩

/-- The handshake of the connection goes on, or a call of `routeMessage` begins or goes on. -/
inductive Step
  | connect (now : ℤ)
  | snapshot (topic : Str) (payload : Bytes) (qos : UInt8) (retain forwarded : Bool)
  | deliver (i : ℕ) (now : ℤ)

/-- One step. -/
def step : Step → Traffic σ ρ
  | .connect now => { t with handshakes := t.handshakes.advance cfg pkt c now }
  | .snapshot topic payload qos retain forwarded =>
    t.withThreads (t.threads.step cfg (.snapshot topic payload qos retain forwarded))
  | .deliver i now => t.withThreads (t.threads.step cfg (.deliver i now))

/-- A run. -/
def run (steps : List Step) : Traffic σ ρ := steps.foldl (step cfg pkt c) t

/-- The messages that are queued for the client of the connection. -/
def queue : List OfflineMessage :=
  t.handshakes.broker.offlineStore.queue (clientID cfg pkt c)

/-- How many messages the calls are still going to queue for the client of the connection. -/
def waiting : List ℕ := t.routes.map (Route.pending (clientID cfg pkt c))

/-- Nothing is queued for the client, or going to be. -/
def Clear : Prop := t.queue cfg pkt c = [] ∧ ∀ k ∈ t.waiting cfg pkt c, k = 0

/-! ### Calls of `routeMessage` -/

variable {t}

lemma frame_deliver (i : ℕ) (now : ℤ) :
    let t' := t.step cfg pkt c (.deliver i now)
    t'.handshakes.pc = t.handshakes.pc ∧
      t'.handshakes.broker.clients = t.handshakes.broker.clients ∧
      t'.handshakes.broker.idOf = t.handshakes.broker.idOf := by
  refine ⟨rfl, ?_⟩
  simp only [step, withThreads, threads, Threads.step]
  cases t.routes[i]? with
  | none => exact ⟨rfl, rfl⟩
  | some r =>
    dsimp only
    rw [Threads.advance]
    split
    · exact ⟨congrArg (fun b => b.clients) (unrouted_deliver cfg _ _ _ _ _),
        idOf_eq_of_profile (profile_deliver cfg _ _ _ _ _)⟩
    · exact ⟨rfl, rfl⟩
    · exact ⟨rfl, rfl⟩

/-- A call that goes on leaves the queue of the client alone, or queues one of the messages that it
was going to. -/
lemma deliver_cases (hmax : 0 < t.handshakes.broker.offlineStore.maxPerClient) (i : ℕ) (now : ℤ) :
    let t' := t.step cfg pkt c (.deliver i now)
    t'.handshakes.broker.offlineStore.maxPerClient =
        t.handshakes.broker.offlineStore.maxPerClient ∧
      ((t'.queue cfg pkt c = t.queue cfg pkt c ∧ t'.waiting cfg pkt c = t.waiting cfg pkt c) ∨
        (t'.queue cfg pkt c ≠ [] ∧ ∃ k, (t.waiting cfg pkt c)[i]? = some (k + 1) ∧
          t'.waiting cfg pkt c = (t.waiting cfg pkt c).set i k)) := by
  simp only [step, withThreads, threads, Threads.step, queue, waiting]
  cases hi : t.routes[i]? with
  | none => exact ⟨rfl, Or.inl ⟨rfl, rfl⟩⟩
  | some r =>
    have hget : (t.routes.map (Route.pending (clientID cfg pkt c)))[i]? =
        some (r.pending (clientID cfg pkt c)) := by
      rw [List.getElem?_map, hi]
      rfl
    have hset : ∀ r' : Route, r'.pending (clientID cfg pkt c) = r.pending (clientID cfg pkt c) →
        (t.routes.set i r').map (Route.pending (clientID cfg pkt c)) =
          t.routes.map (Route.pending (clientID cfg pkt c)) := by
      intro r' hr'
      rw [List.map_set, hr']
      obtain ⟨hlt, hval⟩ := List.getElem?_eq_some_iff.1 hget
      rw [← hval, List.set_getElem_self]
    dsimp only
    rw [Threads.advance]
    split
    · rw [offlineStore_deliver]
      exact ⟨rfl, Or.inl ⟨rfl, hset _ rfl⟩⟩
    next d ds hdeliveries hd =>
      refine ⟨OfflineStore.maxPerClient_enqueue .., ?_⟩
      by_cases hid : d.1 = clientID cfg pkt c
      · refine Or.inr ⟨?_, ds.countP fun d => d.1 = clientID cfg pkt c, ?_, List.map_set ..⟩
        · rw [← hid]
          exact OfflineStore.queue_enqueue_ne_nil hmax d.1 _ now
        · rw [hget, Route.pending, hd, List.countP_cons, if_pos (by simpa using hid)]
      · refine Or.inl ⟨queue_enqueueOffline_of_ne _ (Ne.symm hid) .., hset _ ?_⟩
        rw [Route.pending, Route.pending, hd, List.countP_cons, if_neg (by simpa using hid)]
        rfl
    · exact ⟨rfl, Or.inl ⟨rfl, rfl⟩⟩

/-- A call that begins while the client is connected is not going to queue anything for it. -/
lemma pending_routes {b : BrokerState σ ρ} {clientID : Str} (h : b.clients.lookup clientID = some c)
    (topic : Str) (payload : Bytes) (qos : UInt8) :
    Route.pending clientID ⟨topic, payload, (b.routes topic qos).1, (b.routes topic qos).2⟩ =
      0 := by
  rw [Route.pending, List.countP_eq_zero]
  rintro ⟨clientID', qos'⟩ hd hid
  obtain rfl : clientID' = clientID := by simpa using hid
  have hoff := (List.mem_filter.1 hd).2
  dsimp only at hoff
  rw [h] at hoff
  cases hoff

/-! ### After the messages were taken off the queue -/

/-- The handshake is past the point at which it takes the messages off the queue. -/
def drained : HandshakePC → Bool
  | .draining _ => true
  | .accepted => true
  | _ => false

lemma advance_of_drained {t : Handshakes σ ρ} (h : drained (t.pc c) = true) (now : ℤ) :
    let t' := t.advance cfg pkt c now
    drained (t'.pc c) = true ∧ t'.broker.clients = t.broker.clients ∧
      t'.broker.offlineStore = t.broker.offlineStore := by
  rw [Handshakes.advance]
  cases hpc : t.pc c with
  | draining msgs =>
    cases msgs with
    | nil => exact ⟨congrArg drained (pc_goto ..), rfl, rfl⟩
    | cons msg msgs =>
      have hstores := t.broker.stores_deliverMessage c msg.topic msg.payload msg.qos now
      exact ⟨congrArg drained (pc_goto ..), congrArg (fun b => b.clients) hstores,
        congrArg (fun b => b.offlineStore) hstores⟩
  | accepted => exact ⟨by rw [hpc]; rfl, rfl, rfl⟩
  | _ =>
    rw [hpc] at h
    cases h

/-- The client is registered and the messages were taken off its queue. -/
structure Resumed (t : Traffic σ ρ) : Prop where
  drained : drained (t.handshakes.pc c) = true
  registered : t.handshakes.broker.clients.lookup (clientID cfg pkt c) = some c
  room : 0 < t.handshakes.broker.offlineStore.maxPerClient

lemma Resumed.step_cases (h : t.Resumed cfg pkt c) (s : Step) :
    let t' := t.step cfg pkt c s
    t'.Resumed cfg pkt c ∧
      ((t'.queue cfg pkt c = t.queue cfg pkt c ∧
        (t'.waiting cfg pkt c = t.waiting cfg pkt c ∨
          t'.waiting cfg pkt c = t.waiting cfg pkt c ++ [0])) ∨
      (t'.queue cfg pkt c ≠ [] ∧ ∃ i k, (t.waiting cfg pkt c)[i]? = some (k + 1) ∧
        t'.waiting cfg pkt c = (t.waiting cfg pkt c).set i k)) := by
  cases s with
  | connect now =>
    obtain ⟨hdrained, hclients, hstore⟩ := advance_of_drained cfg pkt c h.drained now
    refine ⟨⟨hdrained, ?_, ?_⟩, Or.inl ⟨?_, Or.inl rfl⟩⟩
    · exact (congrArg (AList.lookup _) hclients).trans h.registered
    · exact lt_of_lt_of_eq h.room (congrArg OfflineStore.maxPerClient hstore.symm)
    · exact congrArg (fun s => OfflineStore.queue s _) hstore
  | snapshot topic payload qos retain forwarded =>
    refine ⟨⟨h.drained, h.registered, h.room⟩, Or.inl ⟨rfl, Or.inr ?_⟩⟩
    refine (List.map_append).trans (congrArg _ ?_)
    exact congrArg (fun k => [k]) (pending_routes c h.registered topic payload qos)
  | deliver i now =>
    obtain ⟨hpc, hclients, -⟩ := frame_deliver cfg pkt c (t := t) i now
    obtain ⟨hmax, hcases⟩ := deliver_cases cfg pkt c h.room i now
    refine ⟨⟨?_, ?_, ?_⟩, ?_⟩
    · exact (congrArg (fun pc => Traffic.drained (pc c)) hpc).trans h.drained
    · exact (congrArg (AList.lookup _) hclients).trans h.registered
    · exact lt_of_lt_of_eq h.room hmax.symm
    · rcases hcases with ⟨hqueue, hwaiting⟩ | ⟨hqueue, k, hk, hwaiting⟩
      · exact Or.inl ⟨hqueue, Or.inl hwaiting⟩
      · exact Or.inr ⟨hqueue, i, k, hk, hwaiting⟩

lemma Resumed.clear_step (h : t.Resumed cfg pkt c) (s : Step) :
    (t.step cfg pkt c s).Clear cfg pkt c ↔ t.Clear cfg pkt c := by
  rcases (h.step_cases cfg pkt c s).2 with ⟨hqueue, hwaiting | hwaiting⟩ | ⟨hqueue, i, k, hk, -⟩
  · rw [Clear, hqueue, hwaiting, Clear]
  · rw [Clear, hqueue, hwaiting, Clear, List.forall_mem_append]
    simp
  · refine iff_of_false (fun hclear => hqueue hclear.1) fun hclear => ?_
    cases hclear.2 (k + 1) (List.mem_of_getElem? hk)

/-- The calls that begin from now on do not queue anything for the client. -/
lemma Resumed.late_step (h : t.Resumed cfg pkt c) (s : Step) {n : ℕ}
    (hlate : ∀ k ∈ (t.waiting cfg pkt c).drop n, k = 0)
    (hn : n ≤ (t.waiting cfg pkt c).length) :
    (∀ k ∈ ((t.step cfg pkt c s).waiting cfg pkt c).drop n, k = 0) ∧
      n ≤ ((t.step cfg pkt c s).waiting cfg pkt c).length := by
  rcases (h.step_cases cfg pkt c s).2 with ⟨-, hwaiting | hwaiting⟩ | ⟨-, i, k, hk, hwaiting⟩
  · rw [hwaiting]
    exact ⟨hlate, hn⟩
  · rw [hwaiting, List.drop_append_of_le_length hn]
    refine ⟨fun k hk => ?_, hn.trans (by simp)⟩
    rcases List.mem_append.1 hk with hk | hk
    · exact hlate k hk
    · exact List.mem_singleton.1 hk
  · have hlt : i < n := by
      by_contra hle
      have hmem : k + 1 ∈ (t.waiting cfg pkt c).drop n := by
        refine List.mem_of_getElem? (i := i - n) ?_
        rw [List.getElem?_drop, Nat.add_sub_cancel' (not_lt.1 hle), hk]
      cases hlate _ hmem
    rw [hwaiting, List.drop_set_of_lt hlt, List.length_set]
    exact ⟨hlate, hn⟩

/-- What the steps after the messages were taken off the queue leave. -/
lemma Resumed.clear_run (h : t.Resumed cfg pkt c) (steps : List Step) :
    (t.run cfg pkt c steps).Resumed cfg pkt c ∧
      ((t.run cfg pkt c steps).Clear cfg pkt c ↔ t.Clear cfg pkt c) := by
  refine List.foldlRecOn (motive := fun t' : Traffic σ ρ => t'.Resumed cfg pkt c ∧
    (t'.Clear cfg pkt c ↔ t.Clear cfg pkt c)) steps _ ⟨h, Iff.rfl⟩ fun t' ⟨h', hclear⟩ s _ => ?_
  exact ⟨(h'.step_cases cfg pkt c s).1, (h'.clear_step cfg pkt c s).trans hclear⟩

/-- Once the calls that were in progress have finished, no call is going to queue anything for the
client. -/
lemma Resumed.waiting_eq_zero (h : t.Resumed cfg pkt c) (steps : List Step)
    (hfinished : ∀ r ∈ (t.run cfg pkt c steps).routes.take t.routes.length, r.Finished) :
    ∀ k ∈ (t.run cfg pkt c steps).waiting cfg pkt c, k = 0 := by
  have hlength : (t.waiting cfg pkt c).length = t.routes.length := List.length_map ..
  have hlate : (t.run cfg pkt c steps).Resumed cfg pkt c ∧
      (∀ k ∈ ((t.run cfg pkt c steps).waiting cfg pkt c).drop t.routes.length, k = 0) ∧
      t.routes.length ≤ ((t.run cfg pkt c steps).waiting cfg pkt c).length := by
    refine List.foldlRecOn (motive := fun t' : Traffic σ ρ => t'.Resumed cfg pkt c ∧
        (∀ k ∈ (t'.waiting cfg pkt c).drop t.routes.length, k = 0) ∧
        t.routes.length ≤ (t'.waiting cfg pkt c).length) steps _ ⟨h, ?_, hlength.ge⟩
      fun t' ⟨h', hlate, hn⟩ s _ => ?_
    · rw [← hlength, List.drop_length]
      exact nofun
    · exact ⟨(h'.step_cases cfg pkt c s).1, h'.late_step cfg pkt c s hlate hn⟩
  generalize t.run cfg pkt c steps = t' at hfinished hlate ⊢
  intro k hk
  rw [← List.take_append_drop t.routes.length (t'.waiting cfg pkt c)] at hk
  rcases List.mem_append.1 hk with hk | hk
  · rw [waiting, ← List.map_take] at hk
    obtain ⟨r, hr, rfl⟩ := List.mem_map.1 hk
    rw [Route.pending, (hfinished r hr).2]
    rfl
  · exact hlate.2.1 k hk

/-! ### Up to the registration -/

/-- The connection has its client ID when it needs it, and is registered when it is served. -/
structure Enrolled (t : Handshakes σ ρ) : Prop where
  named : ∃ i, t.broker.idOf c = some i ∧ ((t.pc c).named = true → i = clientID cfg pkt c)
  registered : (t.pc c).served = true →
    t.broker.clients.lookup (clientID cfg pkt c) = some c

lemma Enrolled.move {t t' : Handshakes σ ρ} (h : Enrolled cfg pkt c t)
    (hmove : Move cfg pkt t c t') : Enrolled cfg pkt c t' := by
  obtain ⟨⟨i, hi, hname⟩, hreg⟩ := h
  cases hmove with
  | stay => exact ⟨⟨i, hi, hname⟩, hreg⟩
  | accept b hpc hid hclients =>
    refine ⟨⟨[], (hid c).trans (if_pos rfl), ?_⟩, ?_⟩
    · rw [pc_goto]
      exact nofun
    · rw [pc_goto]
      exact nofun
  | unregister b hpc hid hclients =>
    refine ⟨⟨clientID cfg pkt c, (hid c).trans ?_, fun _ => rfl⟩, ?_⟩
    · rw [if_pos rfl, hi]
      rfl
    · rw [pc_goto]
      exact nofun
  | tell b existing hpc hid hclients =>
    refine ⟨⟨i, (congrFun hid c).trans hi, fun _ => hname (by rw [hpc]; rfl)⟩, fun hserved => ?_⟩
    exact nomatch (congrArg HandshakePC.served (Function.update_self ..)).symm.trans hserved
  | register sessionPresent hpc =>
    obtain rfl : i = clientID cfg pkt c := hname (by rw [hpc]; rfl)
    have hid := idOf_eq_of_profile (t.broker.profile_registerClient c)
    refine ⟨⟨clientID cfg pkt c, (congrFun hid c).trans hi, fun _ => rfl⟩, fun _ => ?_⟩
    exact (congrArg (AList.lookup _) (clients_registerClient hi)).trans (AList.lookup_insert _)
  | quiet b pc hpc hid hclients =>
    refine ⟨⟨i, (congrFun hid c).trans hi, ?_⟩, ?_⟩
    · rw [pc_goto]
      exact fun h => hname (hpc.named h)
    · rw [pc_goto]
      exact fun h => (congrArg (AList.lookup _) hclients).trans (hreg (hpc.served h))

lemma enrolled_run (h : Enrolled cfg pkt c t.handshakes) (steps : List Step) :
    Enrolled cfg pkt c (t.run cfg pkt c steps).handshakes := by
  refine List.foldlRecOn (motive := fun t : Traffic σ ρ => Enrolled cfg pkt c t.handshakes)
    steps _ h fun t h s _ => ?_
  cases s with
  | connect now => exact h.move cfg pkt c (move_advance t.handshakes c now)
  | snapshot topic payload qos retain forwarded => exact ⟨h.named, h.registered⟩
  | deliver i now =>
    obtain ⟨hpc, hclients, hid⟩ := frame_deliver cfg pkt c (t := t) i now
    obtain ⟨⟨j, hj, hname⟩, hreg⟩ := h
    refine ⟨⟨j, (congrFun hid c).trans hj, ?_⟩, ?_⟩
    · rw [hpc]
      exact hname
    · rw [hpc, hclients]
      exact hreg

lemma step_drain (now : ℤ) (h : t.handshakes.pc c = .answered true) :
    t.step cfg pkt c (.connect now) =
      let out := t.handshakes.broker.offlineStore.dequeue (clientID cfg pkt c) 100 now
      ⟨t.handshakes.goto c { t.handshakes.broker with offlineStore := out.2 } (.draining out.1),
        t.routes⟩ := by
  rw [step, Handshakes.advance, h]

/-- The client after the messages were taken off its queue. -/
lemma Enrolled.resumed_drain (h : Enrolled cfg pkt c t.handshakes)
    (hpc : t.handshakes.pc c = .answered true)
    (hmax : 0 < t.handshakes.broker.offlineStore.maxPerClient) (now : ℤ) :
    (t.step cfg pkt c (.connect now)).Resumed cfg pkt c ∧
      ((t.step cfg pkt c (.connect now)).Clear cfg pkt c ↔
        (t.handshakes.broker.offlineStore.liveQueue (clientID cfg pkt c) now).length ≤ 100 ∧
          ∀ r ∈ t.routes, ∀ d ∈ r.offlineDeliveries, d.1 ≠ clientID cfg pkt c) := by
  rw [step_drain cfg pkt c now hpc]
  refine ⟨⟨congrArg drained (pc_goto ..), h.registered (by rw [hpc]; rfl), ?_⟩, ?_⟩
  · exact lt_of_lt_of_eq hmax (OfflineStore.maxPerClient_dequeue ..).symm
  · refine and_congr (OfflineStore.queue_dequeue_eq_nil_iff ..) ?_
    simp only [waiting, List.forall_mem_map, Route.pending, List.countP_eq_zero,
      decide_eq_true_eq, ne_eq]

variable (t) in
/-- **When no message is stranded.**  Consider a handshake that finds a session, any number of calls
of `routeMessage` at the same time, and the time at which all calls that were in progress at some
point after the messages were taken off the queue, such as the return of the handshake, have
finished.  Then the queue of the client is empty exactly if there were no more than a hundred
messages to take off it, and no call had decided before that the client is offline and not queued
its message yet. -/
theorem queue_eq_nil_iff (hstart : t.handshakes.pc c = .start)
    (hconn : (t.handshakes.broker.idOf c).isSome) (before during after : List Step) (now : ℤ)
    (hdrain : (t.run cfg pkt c before).handshakes.pc c = .answered true)
    (hmax : 0 < (t.run cfg pkt c before).handshakes.broker.offlineStore.maxPerClient)
    (hfinished :
      let returned := t.run cfg pkt c (before ++ .connect now :: during)
      ∀ r ∈ (returned.run cfg pkt c after).routes.take returned.routes.length, r.Finished) :
    let drain := t.run cfg pkt c before
    let returned := t.run cfg pkt c (before ++ .connect now :: during)
    (returned.run cfg pkt c after).queue cfg pkt c = [] ↔
      (drain.handshakes.broker.offlineStore.liveQueue (clientID cfg pkt c) now).length ≤ 100 ∧
        ∀ r ∈ drain.routes, ∀ d ∈ r.offlineDeliveries, d.1 ≠ clientID cfg pkt c := by
  have henrolled : Enrolled cfg pkt c t.handshakes := by
    obtain ⟨i, hi⟩ := Option.isSome_iff_exists.1 hconn
    refine ⟨⟨i, hi, ?_⟩, ?_⟩
    · rw [hstart]
      exact nofun
    · rw [hstart]
      exact nofun
  obtain ⟨hresumed, hclear⟩ :=
    (enrolled_run cfg pkt c henrolled before).resumed_drain cfg pkt c hdrain hmax now
  have hreturned : t.run cfg pkt c (before ++ .connect now :: during) =
      ((t.run cfg pkt c before).step cfg pkt c (.connect now)).run cfg pkt c during := by
    rw [run, List.foldl_append, List.foldl_cons]
    rfl
  rw [hreturned] at hfinished ⊢
  generalize (t.run cfg pkt c before).step cfg pkt c (.connect now) = t₁
    at hresumed hclear hfinished ⊢
  obtain ⟨hresumed₂, hclear₂⟩ := hresumed.clear_run cfg pkt c during
  obtain ⟨-, hclear₃⟩ := hresumed₂.clear_run cfg pkt c after
  have hwaiting := hresumed₂.waiting_eq_zero cfg pkt c after hfinished
  calc ((t₁.run cfg pkt c during).run cfg pkt c after).queue cfg pkt c = []
      ↔ ((t₁.run cfg pkt c during).run cfg pkt c after).Clear cfg pkt c :=
        (and_iff_left hwaiting).symm
    _ ↔ t₁.Clear cfg pkt c := hclear₃.trans hclear₂
    _ ↔ _ := hclear

/-! ### A client with a backlog -/

/-- The client `p` comes back on the connection 1 and finds `n` messages. -/
def resuming (n : ℕ) : Traffic TenantChain Unit :=
  ⟨(init (backlogBroker n)).goto 1 (backlogBroker n) .start, []⟩

/-- A run with this client. -/
def resume (t : Traffic TenantChain Unit) (steps : List Step) : Traffic TenantChain Unit :=
  t.run sampleConfig (fun _ => persistentConnect) 1 steps

/-- The messages of this client. -/
def backlog (t : Traffic TenantChain Unit) : List OfflineMessage :=
  t.queue sampleConfig (fun _ => persistentConnect) 1

/-- Steps of the handshake. -/
def connects (n : ℕ) : List Step := List.replicate n (.connect 4)

/-- A message for the client. -/
def messageFor : Step := .snapshot (str "t") [7] 1 false false

/-- The message is queued before the client is back. -/
def inTime : List Step := [messageFor, .deliver 0 3] ++ connects 5

theorem queue_eq_nil_iff_inTime :
    let returned := resume (resuming 1) (inTime ++ .connect 4 :: connects 3)
    returned.handshakes.pc 1 = .accepted ∧ backlog (resume returned []) = [] := by
  refine ⟨by decide +kernel, ?_⟩
  refine (queue_eq_nil_iff sampleConfig (fun _ => persistentConnect) 1 (resuming 1) rfl rfl inTime
    (connects 3) [] 4 ?_ ?_ ?_).2 ?_
  · decide +kernel
  · decide +kernel
  · decide +kernel
  · decide +kernel

/-- The client is seen offline, comes back, and gets a message into its queue then; and a client
that comes back to 101 messages gets a hundred of them. -/
theorem messages_stranded :
    (let returned := resume (resuming 0) (messageFor :: connects 5 ++ .connect 4 :: connects 1)
    returned.handshakes.pc 1 = .accepted ∧
      (∀ r ∈ (resume returned [.deliver 0 5]).routes, r.Finished) ∧
      backlog (resume returned [.deliver 0 5]) ≠ []) ∧
    let returned := resume (resuming 101) (connects 5 ++ .connect 4 :: connects 101)
    returned.handshakes.pc 1 = .accepted ∧ (∀ r ∈ returned.routes, r.Finished) ∧
      backlog returned ≠ [] := by
  refine ⟨?_, ?_⟩
  · decide +kernel
  · decide +kernel

end Traffic

end Dmqtt.Broker
