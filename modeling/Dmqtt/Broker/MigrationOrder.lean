/-
The order of delivery across a migration.

`GetOfflineMessages` takes the messages of a device off the queue, sorted, and queues them again;
`ImportMigrateData` queues them on the target without their priorities and instants.  Here every
`Enqueue` of the two loops reads the clock by itself.  What the target then returns is what the
source would have returned (`migration_keeps_order`): the exported list is sorted, new messages
of one priority and growing age are sorted, too, and so both stores hold their list as it stands.

That nobody can tell the source from what it was before is shown through the ledger of
`OfflineOrder`: both stores follow the same one, and a ledger determines all batches to come.
-/
import Dmqtt.Broker.Migration
import Dmqtt.Broker.OfflineOrder
import Mathlib.Data.List.SplitLengths

namespace Dmqtt.Broker

open Lib

/-- A sequence of `Enqueue` calls for a client, the `i`-th one at the instant `clock i`. -/
def OfflineOp.enqueues (clientID : Str) (clock : ℕ → ℤ) (msgs : List OfflineMessage) :
    List (ℤ × OfflineOp) :=
  msgs.mapIdx fun i m => (clock i, .enqueue clientID m)

lemma OfflineOp.enqueues_cons (clientID : Str) (clock : ℕ → ℤ) (m : OfflineMessage)
    (msgs : List OfflineMessage) :
    enqueues clientID clock (m :: msgs) =
      (clock 0, .enqueue clientID m) :: enqueues clientID (fun i => clock (i + 1)) msgs := by
  rw [enqueues, List.mapIdx_cons]
  rfl

namespace OfflineStore

variable {s : OfflineStore}

/-- Queue messages one after the other, each at an instant of its own. -/
def enqueueEach (s : OfflineStore) (clientID : Str) (clock : ℕ → ℤ) (msgs : List OfflineMessage) :
    OfflineStore := (OfflineOp.enqueues clientID clock msgs).foldl apply s

/-- The batches that a sequence of `Dequeue` calls for a client returns. -/
def batches (s : OfflineStore) (clientID : Str) (calls : List (ℤ × ℕ)) :
    List (List OfflineMessage) :=
  (trace apply s (calls.map fun c => (c.1, .dequeue clientID c.2))).filterMap (batchOf clientID)

/-- The other store has the same limit, lifetime and tiers. -/
def Configured (s t : OfflineStore) : Prop :=
  t.maxPerClient = s.maxPerClient ∧ t.defaultTTL = s.defaultTTL ∧ t.tierConfig = s.tierConfig

/-- The message is one that `Enqueue` leaves as it is. -/
def Stamped (s : OfflineStore) (m : OfflineMessage) : Prop :=
  m.createdAt ≠ none ∧ (m.expiresAt = none → s.tierConfig = none ∧ s.defaultTTL ≤ 0)

instance (s : OfflineStore) (m : OfflineMessage) : Decidable (s.Stamped m) :=
  inferInstanceAs (Decidable (_ ∧ _))

/-- At a clock that stands still, these are the `Enqueue` calls at one instant. -/
lemma enqueueEach_const (clientID : Str) (now : ℤ) (msgs : List OfflineMessage) :
    s.enqueueEach clientID (fun _ => now) msgs = s.enqueueAll clientID msgs now := by
  induction msgs generalizing s with
  | nil => rfl
  | cons m msgs ih =>
    rw [enqueueEach, OfflineOp.enqueues_cons]
    exact ih

/-! ### What is in a queue -/

lemma stamp_apply (x : ℤ × OfflineOp) (msg : OfflineMessage) (now : ℤ) :
    (s.apply x).stamp msg now = s.stamp msg now := by
  obtain ⟨-, httl, htier⟩ := s.params_apply x
  rw [stamp, stamp, httl, htier]

lemma Stamped.stamp_eq {m : OfflineMessage} (h : s.Stamped m) (now : ℤ) : s.stamp m now = m := by
  obtain ⟨topic, payload, qos, priority, createdAt, expiresAt⟩ := m
  obtain ⟨hcreated, hexpires⟩ := h
  cases createdAt with
  | none => exact absurd rfl hcreated
  | some created =>
    cases expiresAt with
    | some t => rfl
    | none =>
      obtain ⟨htier, httl⟩ := hexpires rfl
      rw [stamp, htier]
      exact if_neg httl.not_gt

end OfflineStore

lemma OfflineMessage.live_of_le {m : OfflineMessage} {t t' : ℤ} (h : m.live t') (hle : t ≤ t') :
    m.live t := by
  rw [live] at h ⊢
  cases hexp : m.expiresAt with
  | none => rfl
  | some e =>
    rw [hexp] at h
    simp only [gt_iff_lt, Bool.not_eq_true', decide_eq_false_iff_not, not_lt] at h ⊢
    exact hle.trans h

namespace OfflineStore

variable {s : OfflineStore} {clientID : Str} {horizon : ℤ}

lemma liveQueue_eq (h : ∀ m ∈ s.queue clientID, m.live horizon) {t : ℤ} (ht : t ≤ horizon) :
    s.liveQueue clientID t = s.queue clientID :=
  List.filter_eq_self.2 fun m hm => OfflineMessage.live_of_le (h m hm) ht

lemma valid_eq_valid (h : ∀ m ∈ s.queue clientID, m.live horizon) {t : ℤ} (ht : t ≤ horizon) :
    s.valid clientID t = s.valid clientID horizon := by
  rw [valid, valid, liveQueue_eq h ht, liveQueue_eq h le_rfl]

lemma perm_valid (h : ∀ m ∈ s.queue clientID, m.live horizon) :
    (s.valid clientID horizon).Perm (s.queue clientID) := by
  rw [valid, liveQueue_eq h le_rfl]
  exact List.perm_insertionSort _ _

lemma dequeue_length (h : ∀ m ∈ s.queue clientID, m.live horizon) {t : ℤ} (ht : t ≤ horizon) :
    (s.dequeue clientID (s.queue clientID).length t).1 = s.valid clientID horizon ∧
      (s.dequeue clientID (s.queue clientID).length t).2.queue clientID = [] := by
  rw [dequeue_all, queue_dequeue_self, valid_eq_valid h ht]
  exact ⟨rfl, List.drop_of_length_le (length_valid_le clientID horizon)⟩

variable {t : OfflineStore} {clock : ℕ → ℤ} (q : List OfflineMessage)

/-- As long as nothing expires and there is room, the messages go to the end of the queue. -/
lemma queue_enqueueEach {msgs : List OfflineMessage} (hclock : ∀ i < msgs.length, clock i ≤ horizon)
    (hlive : ∀ m ∈ s.queue clientID, m.live horizon)
    (hnew : ∀ m ∈ msgs.mapIdx fun i m => s.stamp m (clock i), m.live horizon)
    (hroom : ((s.queue clientID).length + msgs.length : ℤ) ≤ s.maxPerClient) :
    (s.enqueueEach clientID clock msgs).queue clientID =
      s.queue clientID ++ msgs.mapIdx fun i m => s.stamp m (clock i) := by
  induction msgs generalizing s clock with
  | nil => simp [enqueueEach, OfflineOp.enqueues]
  | cons m msgs ih =>
    set x : ℤ × OfflineOp := (clock 0, .enqueue clientID m) with hx
    have hmax := (s.params_apply x).1
    rw [List.length_cons] at hclock hroom
    rw [List.mapIdx_cons] at hnew ⊢
    have hfirst : (s.apply x).queue clientID = s.queue clientID ++ [s.stamp m (clock 0)] := by
      have hsame := liveQueue_eq hlive (hclock 0 (by omega))
      have hself := (queue_enqueue_of_room (by rw [hsame]; omega) m).2
      rw [hsame] at hself
      exact hself
    have hstamp : (fun i m => (s.apply x).stamp m (clock (i + 1))) =
        fun i m => s.stamp m (clock (i + 1)) := by
      funext i m
      exact stamp_apply x m _
    rw [enqueueEach, OfflineOp.enqueues_cons]
    refine (ih (fun i hi => hclock (i + 1) (by omega)) ?_ ?_ ?_).trans ?_
    · intro m' hm'
      rw [hfirst] at hm'
      rcases List.mem_append.1 hm' with hm' | hm'
      · exact hlive m' hm'
      · rw [List.mem_singleton.1 hm']
        exact hnew _ List.mem_cons_self
    · rw [hstamp]
      exact fun m' hm' => hnew m' (List.mem_cons_of_mem _ hm')
    · rw [hfirst, hmax, List.length_append, List.length_singleton]
      omega
    · rw [hstamp, hfirst, List.append_assoc]
      rfl

lemma queue_enqueueEach_of_ne {d : Str} (h : d ≠ clientID) (clock : ℕ → ℤ)
    (msgs : List OfflineMessage) :
    (s.enqueueEach clientID clock msgs).queue d = s.queue d := by
  refine foldl_frame_of_mem (fun s : OfflineStore => s.queue d) ?_ s
  intro s x hx
  obtain ⟨i, hi, rfl⟩ := List.mem_mapIdx.1 hx
  exact queue_apply_of_ne h

lemma configured_enqueueEach (clientID : Str) (clock : ℕ → ℤ) (msgs : List OfflineMessage) :
    s.Configured (s.enqueueEach clientID clock msgs) := by
  refine List.foldlRecOn _ _ ⟨rfl, rfl, rfl⟩ fun t ht x _ => ?_
  obtain ⟨hmax, httl, htier⟩ := t.params_apply x
  exact ⟨hmax.trans ht.1, httl.trans ht.2.1, htier.trans ht.2.2⟩

/-! ### The batches up to the horizon -/

lemma insertionSort_drop_valid (t : ℤ) (n : ℕ) :
    ((s.valid clientID t).drop n).insertionSort OfflineMessage.before =
      (s.valid clientID t).drop n :=
  List.Pairwise.insertionSort_eq
    ((List.pairwise_insertionSort _ _).sublist (List.drop_sublist _ _))

/-- Up to the horizon, the batches are the sorted queue, cut into pieces. -/
lemma batches_eq (h : ∀ m ∈ s.queue clientID, m.live horizon) {calls : List (ℤ × ℕ)}
    (hcalls : ∀ c ∈ calls, c.1 ≤ horizon) :
    s.batches clientID calls = (calls.map Prod.snd).splitLengths (s.valid clientID horizon) := by
  induction calls generalizing s with
  | nil => rfl
  | cons c calls ih =>
    obtain ⟨t, n⟩ := c
    have hvalid : s.valid clientID t = s.valid clientID horizon :=
      valid_eq_valid h (hcalls _ List.mem_cons_self)
    have hqueue : (s.apply (t, .dequeue clientID n)).queue clientID =
        (s.valid clientID horizon).drop n := by
      rw [← hvalid]
      exact queue_dequeue_self clientID n t
    have hlive : ∀ m ∈ (s.apply (t, .dequeue clientID n)).queue clientID,
        m.live horizon := by
      intro m hm
      rw [hqueue] at hm
      exact h m ((perm_valid h).subset (List.mem_of_mem_drop hm))
    have hnext : (s.apply (t, .dequeue clientID n)).valid clientID horizon =
        (s.valid clientID horizon).drop n := by
      rw [valid, liveQueue_eq hlive le_rfl, hqueue, insertionSort_drop_valid]
    have hrest := ih hlive fun c hc => hcalls c (List.mem_cons_of_mem _ hc)
    have hfirst : batchOf clientID (s, t, .dequeue clientID n) =
        some ((s.valid clientID horizon).take n) := by
      rw [batchOf]
      dsimp only
      rw [if_pos rfl, dequeue_fst, hvalid]
    rw [List.map_cons, List.splitLengths_cons, ← hnext, ← hrest, batches, List.map_cons, trace,
      List.filterMap_cons_some hfirst, batches]

lemma map_splitLengths {α β : Type*} (f : α → β) (ns : List ℕ) (l : List α) :
    (ns.splitLengths l).map (List.map f) = ns.splitLengths (l.map f) := by
  induction ns generalizing l with
  | nil => rfl
  | cons n ns ih =>
    rw [List.splitLengths_cons, List.splitLengths_cons, List.map_cons, ih, List.map_take,
      List.map_drop]

/-! ### Stores that follow one ledger -/

/-- Two stores of the same parameters hold the same messages for a client, and ties stand in
the same order. -/
def Alike (clientID : Str) (s t : OfflineStore) : Prop :=
  ∃ l : OfflineLedger, l.Valid ∧ Follows s.maxPerClient s.defaultTTL clientID s l ∧
    Follows s.maxPerClient s.defaultTTL clientID t l

/-- The ledger on which the messages of a queue are numbered as they stand. -/
def ledger (q : List OfflineMessage) : OfflineLedger :=
  { OfflineLedger.empty with
    arrived := q.zipIdx.map Prod.swap
    queued := q.zipIdx.map Prod.swap }

lemma map_fst_zipIdx_swap : (q.zipIdx.map Prod.swap).map Prod.fst = List.range q.length := by
  rw [List.map_map]
  exact (List.zipIdx_map_snd 0 q).trans (List.range_eq_range' (n := q.length)).symm

lemma valid_ledger : (ledger q).Valid where
  numbers := by
    rw [ledger, map_fst_zipIdx_swap]
    simp
  conserved := by simp [ledger, OfflineLedger.empty]
  expired := by simp [ledger, OfflineLedger.empty]

lemma follows_ledger (h : s.tierConfig = none) (clientID : Str) :
    Follows s.maxPerClient s.defaultTTL clientID s (ledger (s.queue clientID)) := by
  refine ⟨⟨rfl, rfl, h⟩, (s.queue clientID).zipIdx.map Prod.swap, ?_, List.Perm.refl _, ?_⟩
  · rw [List.map_map]
    exact (List.zipIdx_map_fst 0 _).symm
  · have hsorted : (((s.queue clientID).zipIdx.map Prod.swap).map Prod.fst).Pairwise (· ≤ ·) := by
      rw [map_fst_zipIdx_swap]
      exact List.pairwise_le_range
    exact (List.pairwise_map.1 hsorted).imp fun hle _ _ => hle

/-- A store is like the one whose queue has been sorted. -/
lemma alike_of_queue_eq_valid (h : s.tierConfig = none) (hconf : s.Configured t)
    (hlive : ∀ m ∈ s.queue clientID, m.live horizon)
    (hqueue : t.queue clientID = s.valid clientID horizon) : Alike clientID s t := by
  obtain ⟨hmax, httl, htier⟩ := hconf
  have hfollows := follows_ledger h clientID
  have hexpire : ((ledger (s.queue clientID)).expire horizon).queued =
      (ledger (s.queue clientID)).queued := by
    refine List.filter_eq_self.2 fun x hx => ?_
    obtain ⟨y, hy, rfl⟩ := List.mem_map.1 hx
    exact hlive _ (List.fst_mem_of_mem_zipIdx hy)
  refine ⟨ledger (s.queue clientID), valid_ledger _, hfollows,
    ⟨hmax, httl, htier.trans h⟩, OfflineLedger.inOrder (ledger (s.queue clientID)).queued, ?_,
    OfflineLedger.perm_inOrder _, tiesInOrder_inOrder _⟩
  rw [hqueue, hfollows.valid_eq (valid_ledger _), hexpire]

lemma alike_of_queue_eq (h : s.tierConfig = none) (hconf : s.Configured t)
    (hqueue : t.queue clientID = s.queue clientID) : Alike clientID s t := by
  obtain ⟨hmax, httl, htier⟩ := hconf
  obtain ⟨-, q, hq, hperm, hties⟩ := follows_ledger h clientID
  exact ⟨ledger (s.queue clientID), valid_ledger _, follows_ledger h clientID,
    ⟨hmax, httl, htier.trans h⟩, q, hqueue.trans hq, hperm, hties⟩

lemma Alike.apply (h : Alike clientID s t) (x : ℤ × OfflineOp) :
    Alike clientID (s.apply x) (t.apply x) := by
  obtain ⟨l, hl, hs, ht⟩ := h
  obtain ⟨hmax, httl, -⟩ := s.params_apply x
  refine ⟨_, hl.apply s.maxPerClient s.defaultTTL clientID x, ?_, ?_⟩
  · rw [hmax, httl]
    exact hs.apply hl x
  · rw [hmax, httl]
    exact ht.apply hl x

lemma Alike.batchOf_eq (h : Alike clientID s t) (x : ℤ × OfflineOp) :
    batchOf clientID (t, x) = batchOf clientID (s, x) := by
  obtain ⟨l, hl, hs, ht⟩ := h
  obtain ⟨now, op⟩ := x
  cases op with
  | enqueue clientID' msg => rfl
  | dequeue clientID' maxCount =>
    rw [batchOf, batchOf]
    dsimp only
    split_ifs with hid
    · rw [hid, dequeue_fst, dequeue_fst, hs.valid_eq hl, ht.valid_eq hl]
    · rfl
  | removeAll clientID' => rfl

/-- From two stores that are alike, every run returns the same batches. -/
lemma Alike.filterMap_trace (h : Alike clientID s t) (ops : List (ℤ × OfflineOp)) :
    (trace OfflineStore.apply t ops).filterMap (batchOf clientID) =
      (trace OfflineStore.apply s ops).filterMap (batchOf clientID) := by
  induction ops generalizing s t with
  | nil => rfl
  | cons x ops ih =>
    rw [trace, trace, List.filterMap_cons, List.filterMap_cons, h.batchOf_eq x,
      ih (h.apply x)]

/-! ### What is imported -/

/-- The messages that an import puts into the queue. -/
def imported (s : OfflineStore) (clock : ℕ → ℤ) (msgs : List MigrateOfflineMsg) :
    List OfflineMessage :=
  (msgs.map MigrateOfflineMsg.offline).mapIdx fun i m => s.stamp m (clock i)

lemma migrated_imported (clock : ℕ → ℤ) (msgs : List MigrateOfflineMsg) :
    (s.imported clock msgs).map OfflineMessage.migrated = msgs := by
  rw [imported]
  refine List.ext_getElem (by simp) fun i hi hi' => ?_
  rw [List.getElem_map, List.getElem_mapIdx, migrated_stamp, List.getElem_map]
  rfl

/-- All of them have the same priority, and they age in the order in which they came. -/
lemma pairwise_imported (hmono : Monotone clock) (msgs : List MigrateOfflineMsg) :
    (s.imported clock msgs).Pairwise OfflineMessage.before := by
  rw [imported, List.pairwise_iff_getElem]
  intro i j hi hj hij
  rw [List.getElem_mapIdx, List.getElem_mapIdx, List.getElem_map, List.getElem_map]
  refine Or.inr ⟨?_, ?_⟩
  · rw [priority_stamp, priority_stamp]
    rfl
  · rw [createdAt_stamp, createdAt_stamp]
    exact hmono hij.le

lemma live_imported (htier : s.tierConfig = none) (hmono : Monotone clock)
    (httl : s.defaultTTL ≤ 0 ∨ horizon ≤ clock 0 + s.defaultTTL) (msgs : List MigrateOfflineMsg) :
    ∀ m ∈ s.imported clock msgs, m.live horizon := by
  intro m hm
  obtain ⟨i, hi, rfl⟩ := List.mem_mapIdx.1 hm
  have hle : clock 0 ≤ clock i := hmono (Nat.zero_le i)
  rw [List.getElem_map, stamp, htier]
  dsimp only [MigrateOfflineMsg.offline]
  split_ifs with hpos
  · simp only [OfflineMessage.live, Option.getD_none, gt_iff_lt, Bool.not_eq_true',
      decide_eq_false_iff_not, not_lt]
    omega
  · rfl

/-- `GetOfflineMessages` on the store: `Dequeue` at one instant, and an `Enqueue` for each message
at an instant of its own. -/
def exportAt (s : OfflineStore) (deviceID : Str) (now : ℤ) (clock : ℕ → ℤ) :
    List MigrateOfflineMsg × OfflineStore :=
  let out := s.dequeue deviceID (s.queue deviceID).length now
  (out.1.map OfflineMessage.migrated, out.2.enqueueEach deviceID clock out.1)

lemma queue_exportAt {now : ℤ} (hstamped : ∀ m ∈ s.queue clientID, s.Stamped m)
    (hlive : ∀ m ∈ s.queue clientID, m.live horizon) (hnow : now ≤ horizon)
    (hclock : ∀ i < (s.queue clientID).length, clock i ≤ horizon)
    (hroom : ((s.queue clientID).length : ℤ) ≤ s.maxPerClient) :
    (s.exportAt clientID now clock).2.queue clientID = s.valid clientID horizon := by
  obtain ⟨hout, hempty⟩ := dequeue_length hlive hnow
  rw [exportAt]
  have hmax := (s.params_apply (now, .dequeue clientID (s.queue clientID).length)).1
  have hkeep := s.stamp_apply (now, .dequeue clientID (s.queue clientID).length)
  rw [apply] at hmax hkeep
  dsimp only at hmax hkeep
  generalize s.dequeue clientID (s.queue clientID).length now = out at *
  have hperm : (s.valid clientID horizon).Perm (s.queue clientID) := perm_valid hlive
  have hmap : ((s.valid clientID horizon).mapIdx fun i m => out.2.stamp m (clock i)) =
      s.valid clientID horizon := by
    refine List.ext_getElem List.length_mapIdx fun i hi hi' => ?_
    rw [List.getElem_mapIdx, hkeep]
    exact (hstamped _ (hperm.subset (List.getElem_mem _))).stamp_eq (clock i)
  rw [← hperm.length_eq] at hclock
  rw [hout]
  refine (queue_enqueueEach hclock ?_ ?_ ?_).trans ?_
  · rw [hempty]
    exact fun m hm => absurd hm List.not_mem_nil
  · rw [hmap]
    exact fun m hm => hlive m (hperm.subset hm)
  · rw [hempty, hperm.length_eq, hmax, List.length_nil]
    omega
  · rw [hempty, hmap, List.nil_append]

end OfflineStore

/-! ### Export and import -/

namespace BrokerState

variable {σ ρ : Type} (b : BrokerState σ ρ)

/-- `GetOfflineMessages`, with the instants of its `Enqueue` calls. -/
def getOfflineMessagesAt (deviceID : Str) (now : ℤ) (clock : ℕ → ℤ) :
    List MigrateOfflineMsg × BrokerState σ ρ :=
  let out := b.offlineStore.dequeue deviceID (b.offlineStore.queue deviceID).length now
  (out.1.map OfflineMessage.migrated,
    { b with offlineStore := out.2.enqueueEach deviceID clock out.1 })

/-- `ImportMigrateData`, with the instants of its `Enqueue` calls. -/
def importMigrateDataAt (msg : MigrateDataMessage) (clock : ℕ → ℤ) : BrokerState σ ρ :=
  let b := { b with
    offlineStore := b.offlineStore.enqueueEach msg.deviceID clock
      (msg.messages.map MigrateOfflineMsg.offline) }
  match msg.session with
  | none => b
  | some session => b.importSession session

lemma getOfflineMessagesAt_const (deviceID : Str) (now : ℤ) :
    b.getOfflineMessagesAt deviceID now (fun _ => now) = b.getOfflineMessages deviceID now := by
  rw [getOfflineMessagesAt, getOfflineMessages, OfflineStore.enqueueEach_const]

lemma importMigrateDataAt_const (msg : MigrateDataMessage) (now : ℤ) :
    b.importMigrateDataAt msg (fun _ => now) = b.importMigrateData msg now := by
  rw [importMigrateDataAt, OfflineStore.enqueueEach_const]
  rfl

section Order

variable {b} {deviceID : Str} {now horizon : ℤ} {clock : ℕ → ℤ}

lemma getOfflineMessagesAt_fst (hlive : ∀ m ∈ b.offlineStore.queue deviceID, m.live horizon)
    (hnow : now ≤ horizon) :
    (b.getOfflineMessagesAt deviceID now clock).1 =
      (b.offlineStore.valid deviceID horizon).map OfflineMessage.migrated := by
  rw [getOfflineMessagesAt, (OfflineStore.dequeue_length hlive hnow).1]

/-- Nobody can tell the source after an export from the source before it. -/
lemma alike_getOfflineMessagesAt (htier : b.offlineStore.tierConfig = none)
    (hstamped : ∀ m ∈ b.offlineStore.queue deviceID, b.offlineStore.Stamped m)
    (hlive : ∀ m ∈ b.offlineStore.queue deviceID, m.live horizon) (hnow : now ≤ horizon)
    (hclock : ∀ i < (b.offlineStore.queue deviceID).length, clock i ≤ horizon)
    (hroom : ((b.offlineStore.queue deviceID).length : ℤ) ≤ b.offlineStore.maxPerClient)
    (clientID : Str) :
    OfflineStore.Alike clientID b.offlineStore
      (b.getOfflineMessagesAt deviceID now clock).2.offlineStore := by
  have hconf : b.offlineStore.Configured
      (b.getOfflineMessagesAt deviceID now clock).2.offlineStore := by
    have hdequeue := b.offlineStore.params_apply
      (now, .dequeue deviceID (b.offlineStore.queue deviceID).length)
    obtain ⟨hmax, httl, htier⟩ := OfflineStore.configured_enqueueEach
      (s := (b.offlineStore.dequeue deviceID (b.offlineStore.queue deviceID).length now).2)
      deviceID clock
      (b.offlineStore.dequeue deviceID (b.offlineStore.queue deviceID).length now).1
    exact ⟨hmax.trans hdequeue.1, httl.trans hdequeue.2.1, htier.trans hdequeue.2.2⟩
  by_cases hid : clientID = deviceID
  · rw [hid]
    exact OfflineStore.alike_of_queue_eq_valid htier hconf hlive
      (OfflineStore.queue_exportAt hstamped hlive hnow hclock hroom)
  · refine OfflineStore.alike_of_queue_eq htier hconf ?_
    exact (OfflineStore.queue_enqueueEach_of_ne hid clock _).trans
      (OfflineStore.queue_dequeue_of_ne hid _ now)

/-- Messages that are imported into an empty queue stand in it as they came, and sorted. -/
lemma valid_importMigrateDataAt (htier : b.offlineStore.tierConfig = none)
    (hempty : b.offlineStore.queue deviceID = []) {msgs : List MigrateOfflineMsg}
    (hroom : (msgs.length : ℤ) ≤ b.offlineStore.maxPerClient) (hmono : Monotone clock)
    (hclock : ∀ i < msgs.length, clock i ≤ horizon)
    (httl : b.offlineStore.defaultTTL ≤ 0 ∨ horizon ≤ clock 0 + b.offlineStore.defaultTTL)
    (session : Option MigrateSessionData) :
    let target := (b.importMigrateDataAt ⟨deviceID, msgs, session⟩ clock).offlineStore
    (∀ m ∈ target.queue deviceID, m.live horizon) ∧
      (target.valid deviceID horizon).map OfflineMessage.migrated = msgs := by
  intro target
  have hstore : target =
      b.offlineStore.enqueueEach deviceID clock (msgs.map MigrateOfflineMsg.offline) := by
    cases session with
    | none => rfl
    | some session => exact offlineStore_importSession session
  have hlive := OfflineStore.live_imported htier hmono httl msgs
  have hqueue : target.queue deviceID = b.offlineStore.imported clock msgs := by
    rw [hstore, OfflineStore.queue_enqueueEach (by rwa [List.length_map])
      (by rw [hempty]; exact fun m hm => absurd hm List.not_mem_nil) hlive ?_, hempty]
    · rfl
    · rw [hempty, List.length_map, List.length_nil]
      omega
  rw [← hqueue] at hlive
  refine ⟨hlive, ?_⟩
  rw [OfflineStore.valid, OfflineStore.liveQueue_eq hlive le_rfl, hqueue,
    (OfflineStore.pairwise_imported hmono msgs).insertionSort_eq, OfflineStore.migrated_imported]

end Order

end BrokerState

section Theorem

variable {σ ρ : Type} {source target : BrokerState σ ρ} {deviceID : Str} {now horizon : ℤ}
  {clock clock' : ℕ → ℤ}

/-- Without tiers, and as long as no message expires, a queue that is exported and imported into
an empty queue with room for it comes out of the target as it would have come out of the source,
by any sequence of `Dequeue` calls.  The source returns from then on, whatever it is asked to do,
what it would have returned without the export. -/
theorem migration_keeps_order (hsource : source.offlineStore.tierConfig = none)
    (htarget : target.offlineStore.tierConfig = none)
    (hroom : ((source.offlineStore.queue deviceID).length : ℤ) ≤ source.offlineStore.maxPerClient)
    (hroom' : ((source.offlineStore.queue deviceID).length : ℤ) ≤ target.offlineStore.maxPerClient)
    (hempty : target.offlineStore.queue deviceID = [])
    (hnow : now ≤ horizon) (hmono : Monotone clock')
    (hclock : ∀ i < (source.offlineStore.queue deviceID).length,
      clock i ≤ horizon ∧ clock' i ≤ horizon)
    (hlive : ∀ m ∈ source.offlineStore.queue deviceID, m.live horizon)
    (httl : target.offlineStore.defaultTTL ≤ 0 ∨
      horizon ≤ clock' 0 + target.offlineStore.defaultTTL)
    (session : Option MigrateSessionData) :
    let out := source.getOfflineMessagesAt deviceID now clock
    let target' := target.importMigrateDataAt ⟨deviceID, out.1, session⟩ clock'
    (∀ calls calls' : List (ℤ × ℕ), (∀ c ∈ calls ++ calls', c.1 ≤ horizon) →
      calls.map Prod.snd = calls'.map Prod.snd →
      (target'.offlineStore.batches deviceID calls).map (List.map OfflineMessage.migrated) =
        (source.offlineStore.batches deviceID calls').map (List.map OfflineMessage.migrated)) ∧
    ((∀ m ∈ source.offlineStore.queue deviceID, source.offlineStore.Stamped m) →
      ∀ (clientID : Str) (ops : List (ℤ × OfflineOp)),
        (trace OfflineStore.apply out.2.offlineStore ops).filterMap
            (OfflineStore.batchOf clientID) =
          (trace OfflineStore.apply source.offlineStore ops).filterMap
            (OfflineStore.batchOf clientID)) := by
  intro out target'
  have hout : out.1 = (source.offlineStore.valid deviceID horizon).map OfflineMessage.migrated :=
    BrokerState.getOfflineMessagesAt_fst hlive hnow
  have hlength : out.1.length = (source.offlineStore.queue deviceID).length := by
    rw [hout, List.length_map]
    exact (OfflineStore.perm_valid hlive).length_eq
  obtain ⟨hlive', hvalid⟩ := BrokerState.valid_importMigrateDataAt htarget hempty
    (hlength ▸ hroom') hmono (fun i hi => (hclock i (hlength ▸ hi)).2) httl session
  constructor
  · intro calls calls' hcalls hcounts
    rw [OfflineStore.batches_eq hlive' fun c hc => hcalls c (List.mem_append_left _ hc),
      OfflineStore.batches_eq hlive fun c hc => hcalls c (List.mem_append_right _ hc),
      OfflineStore.map_splitLengths, OfflineStore.map_splitLengths, hvalid, hout, hcounts]
  · intro hstamped clientID ops
    exact (BrokerState.alike_getOfflineMessagesAt hsource hstamped hlive hnow
      (fun i hi => (hclock i hi).1) hroom clientID).filterMap_trace ops

end Theorem

/-- A broker with messages of two priorities; among those of the higher one, the newer message
came first. -/
def queuedBroker : BrokerState Unit Unit :=
  let msg (payload priority : UInt8) (created : ℤ) : OfflineMessage :=
    { topic := str "t", payload := [payload], qos := 1, priority := priority,
      createdAt := some created, expiresAt := some 100 }
  let queue := [msg 1 2 5, msg 2 0 7, msg 3 0 6, msg 4 2 5]
  { BrokerState.new () none with
    offlineStore := ⟨AList.insert (str "d") queue ∅, 10, 90, none⟩ }

theorem migration_keeps_order_queued :
    let out := queuedBroker.getOfflineMessagesAt (str "d") 8 (fun i => 8 + i)
    let target := (BrokerState.new () none : BrokerState Unit Unit).importMigrateDataAt
      ⟨str "d", out.1, none⟩ (fun i => 20 + i)
    out.1.map (·.payload) = [[3], [2], [1], [4]] ∧
      (target.offlineStore.batches (str "d") [(30, 3), (31, 1)]).map
          (List.map OfflineMessage.migrated) =
        (queuedBroker.offlineStore.batches (str "d") [(9, 3), (9, 1)]).map
          (List.map OfflineMessage.migrated) ∧
      ∀ clientID ops,
        (trace OfflineStore.apply out.2.offlineStore ops).filterMap
            (OfflineStore.batchOf clientID) =
          (trace OfflineStore.apply queuedBroker.offlineStore ops).filterMap
            (OfflineStore.batchOf clientID) := by
  have hclock : Monotone fun i : ℕ => (20 + i : ℤ) := fun i j h => by
    dsimp only
    omega
  have horder := @migration_keeps_order Unit Unit queuedBroker (.new () none) (str "d") 8 50
    (fun i => 8 + i) (fun i => 20 + i) rfl rfl (by decide) (by decide) rfl (by decide)
    hclock (by decide) (by decide) (Or.inr (by decide)) none
  exact ⟨by decide, horder.1 _ _ (by decide) rfl, horder.2 (by decide)⟩

end Dmqtt.Broker
