/-
Conservation and order of the offline queues.

`OfflineLedger` says what becomes of the messages of one client, each of which has the number of its
arrival: it is queued, and then returned, expired or removed.  What is returned comes in the
order of priority, creation and arrival.  `Follows` relates a store to the ledger of a client;
the stable sort of the source is a sort by arrival number in it.
-/
import Dmqtt.Broker.Offline
import Dmqtt.Lib.StableSort
import Dmqtt.Lib.Trace

namespace Dmqtt.Broker

open Lib

/-- The operations on an offline store. -/
inductive OfflineOp
  | enqueue (clientID : Str) (msg : OfflineMessage)
  | dequeue (clientID : Str) (maxCount : ℕ)
  | removeAll (clientID : Str)
deriving DecidableEq

/-- The client whose queue an operation is for. -/
def OfflineOp.clientID : OfflineOp → Str
  | .enqueue clientID _ => clientID
  | .dequeue clientID _ => clientID
  | .removeAll clientID => clientID

namespace OfflineMessage

instance : Std.Total before where
  total a b := by
    simp only [before, UInt8.lt_iff_toNat_lt, ← UInt8.toNat_inj]
    omega

instance : IsTrans OfflineMessage before where
  trans a b c := by
    simp only [before, UInt8.lt_iff_toNat_lt, ← UInt8.toNat_inj]
    omega

end OfflineMessage

namespace OfflineStore

/-- Execute an operation at an instant. -/
def apply (s : OfflineStore) (x : ℤ × OfflineOp) : OfflineStore :=
  match x.2 with
  | .enqueue clientID msg => (s.enqueue clientID msg x.1).2
  | .dequeue clientID maxCount => (s.dequeue clientID maxCount x.1).2
  | .removeAll clientID => s.removeAll clientID

/-- The message that an operation queues for a client, if it is an `Enqueue` that succeeds. -/
def acceptedBy (clientID : Str) (x : OfflineStore × ℤ × OfflineOp) : Option OfflineMessage :=
  match x.2.2 with
  | .enqueue clientID' msg =>
    if clientID' = clientID ∧ (x.1.enqueue clientID' msg x.2.1).1.isOk then
      some (x.1.stamp msg x.2.1)
    else none
  | _ => none

/-- The messages that an operation returns, if it is a `Dequeue` for the client. -/
def batchOf (clientID : Str) (x : OfflineStore × ℤ × OfflineOp) : Option (List OfflineMessage) :=
  match x.2.2 with
  | .dequeue clientID' maxCount =>
    if clientID' = clientID then some (x.1.dequeue clientID' maxCount x.2.1).1 else none
  | _ => none

end OfflineStore

/-! ### The ledger of a client -/

/-- What becomes of the messages of a client: those that arrived with success, those that are
queued, the batches that were returned, those that were dropped as expired, with the instant, and
those that were removed. -/
structure OfflineLedger where
  arrived : List (ℕ × OfflineMessage)
  queued : List (ℕ × OfflineMessage)
  returned : List (List (ℕ × OfflineMessage))
  expired : List (ℤ × ℕ × OfflineMessage)
  removed : List (ℕ × OfflineMessage)

namespace OfflineLedger

/-- The ledger before the first message. -/
def empty : OfflineLedger := ⟨[], [], [], [], []⟩

/-- Numbered messages by priority, creation and arrival. -/
def inOrder (l : List (ℕ × OfflineMessage)) : List (ℕ × OfflineMessage) :=
  l.insertionSort (byArrival OfflineMessage.before)

/-- Drop what has expired. -/
def expire (l : OfflineLedger) (now : ℤ) : OfflineLedger :=
  { l with
    queued := l.queued.filter fun m => m.2.live now
    expired := l.expired ++ (l.queued.filter fun m => !m.2.live now).map (now, ·) }

/-- Queue a message under the next number. -/
def arrive (l : OfflineLedger) (msg : OfflineMessage) : OfflineLedger :=
  { l with
    arrived := l.arrived ++ [(l.arrived.length, msg)]
    queued := l.queued ++ [(l.arrived.length, msg)] }

/-- Return the first messages of the queue. -/
def give (l : OfflineLedger) (maxCount : ℕ) : OfflineLedger :=
  { l with
    queued := (inOrder l.queued).drop maxCount
    returned := l.returned ++ [(inOrder l.queued).take maxCount] }

/-- Remove the queue. -/
def clear (l : OfflineLedger) : OfflineLedger :=
  { l with queued := [], removed := l.removed ++ l.queued }

/-- What an operation does to the ledger of a client. -/
def apply (maxPerClient defaultTTL : ℤ) (clientID : Str) (l : OfflineLedger) (x : ℤ × OfflineOp) :
    OfflineLedger :=
  if x.2.clientID = clientID then
    match x.2 with
    | .enqueue _ msg =>
      let l := l.expire x.1
      if (l.queued.length : ℤ) ≥ maxPerClient then l
      else l.arrive ((OfflineStore.new maxPerClient defaultTTL).stamp msg x.1)
    | .dequeue _ maxCount => (l.expire x.1).give maxCount
    | .removeAll _ => l.clear
  else l

/-- Every message that arrived is in one place, under a number of its own, and what expired did
so before it was dropped. -/
structure Valid (l : OfflineLedger) : Prop where
  numbers : l.arrived.map Prod.fst = List.range l.arrived.length
  conserved :
    l.arrived.Perm (l.returned.flatten ++ l.queued ++ l.expired.map Prod.snd ++ l.removed)
  expired : ∀ x ∈ l.expired, ∃ t, x.2.2.expiresAt = some t ∧ t < x.1

variable {l : OfflineLedger}

lemma valid_empty : empty.Valid := ⟨rfl, List.Perm.nil, by simp [empty]⟩

lemma perm_inOrder (q : List (ℕ × OfflineMessage)) : (inOrder q).Perm q :=
  List.perm_insertionSort _ q

/-- The ledger may be read off as counts. -/
lemma conserved_iff :
    l.arrived.Perm (l.returned.flatten ++ l.queued ++ l.expired.map Prod.snd ++ l.removed) ↔
      ∀ x, l.arrived.count x = l.returned.flatten.count x + l.queued.count x +
        (l.expired.map Prod.snd).count x + l.removed.count x := by
  rw [List.perm_iff_count]
  simp only [List.count_append]

lemma Valid.expire (h : l.Valid) (now : ℤ) : (l.expire now).Valid where
  numbers := h.numbers
  conserved := by
    refine conserved_iff.2 fun x => ?_
    have hsplit := (List.filter_append_perm (fun m => m.2.live now) l.queued).count_eq x
    have hold := conserved_iff.1 h.conserved x
    have hmap : ((l.queued.filter fun m => !m.2.live now).map (now, ·)).map Prod.snd =
        l.queued.filter fun m => !m.2.live now := by
      simp [Function.comp_def]
    rw [List.count_append] at hsplit
    simp only [OfflineLedger.expire, List.map_append, hmap, List.count_append]
    omega
  expired := by
    intro x hx
    rcases List.mem_append.1 hx with hx | hx
    · exact h.expired x hx
    · obtain ⟨m, hm, rfl⟩ := List.mem_map.1 hx
      have hlive : m.2.live now = false := by simpa using (List.mem_filter.1 hm).2
      rw [OfflineMessage.live] at hlive
      cases ht : m.2.expiresAt with
      | none => simp [ht] at hlive
      | some t => exact ⟨t, rfl, by simpa [ht] using hlive⟩

lemma Valid.arrive (h : l.Valid) (msg : OfflineMessage) : (l.arrive msg).Valid where
  numbers := by
    simp [OfflineLedger.arrive, h.numbers, List.range_succ]
  conserved := by
    refine conserved_iff.2 fun x => ?_
    have hold := conserved_iff.1 h.conserved x
    simp only [OfflineLedger.arrive, List.count_append]
    omega
  expired := h.expired

lemma Valid.give (h : l.Valid) (maxCount : ℕ) : (l.give maxCount).Valid where
  numbers := h.numbers
  conserved := by
    refine conserved_iff.2 fun x => ?_
    have hold := conserved_iff.1 h.conserved x
    have hsplit : ((inOrder l.queued).take maxCount).count x +
        ((inOrder l.queued).drop maxCount).count x = l.queued.count x := by
      rw [← List.count_append, List.take_append_drop, (perm_inOrder l.queued).count_eq]
    simp only [OfflineLedger.give, List.flatten_append, List.flatten_singleton, List.count_append]
    omega
  expired := h.expired

lemma Valid.clear (h : l.Valid) : l.clear.Valid where
  numbers := h.numbers
  conserved := by
    refine conserved_iff.2 fun x => ?_
    have hold := conserved_iff.1 h.conserved x
    simp only [OfflineLedger.clear, List.count_append, List.count_nil]
    omega
  expired := h.expired

lemma Valid.apply (h : l.Valid) (maxPerClient defaultTTL : ℤ) (clientID : Str)
    (x : ℤ × OfflineOp) : (l.apply maxPerClient defaultTTL clientID x).Valid := by
  obtain ⟨now, op⟩ := x
  rw [OfflineLedger.apply]
  split_ifs
  · cases op with
    | enqueue clientID' msg =>
      dsimp only
      split_ifs
      · exact h.expire now
      · exact (h.expire now).arrive _
    | dequeue clientID' maxCount => exact (h.expire now).give maxCount
    | removeAll clientID' => exact h.clear
  · exact h

lemma Valid.nodup_queued (h : l.Valid) : (l.queued.map Prod.fst).Nodup := by
  have harrived : (l.arrived.map Prod.fst).Nodup := by
    rw [h.numbers]
    exact List.nodup_range
  refine (h.conserved.map Prod.fst).nodup_iff.1 harrived |>.sublist (List.Sublist.map _ ?_)
  rw [List.append_assoc, List.append_assoc]
  exact (List.sublist_append_left _ _).trans (List.sublist_append_right _ _)

lemma Valid.lt_of_mem_arrived (h : l.Valid) {x : ℕ × OfflineMessage} (hx : x ∈ l.arrived) :
    x.1 < l.arrived.length := by
  have hnum := List.mem_map_of_mem (f := Prod.fst) hx
  rw [h.numbers] at hnum
  exact List.mem_range.1 hnum

lemma Valid.lt_of_mem_queued (h : l.Valid) {x : ℕ × OfflineMessage} (hx : x ∈ l.queued) :
    x.1 < l.arrived.length :=
  h.lt_of_mem_arrived (h.conserved.symm.subset (by simp [hx]))

end OfflineLedger

/-! ### The store follows the ledger -/

namespace OfflineStore

variable {s : OfflineStore}

/-- The messages of a client that have not expired. -/
def liveQueue (s : OfflineStore) (clientID : Str) (now : ℤ) : List OfflineMessage :=
  (s.queue clientID).filter fun m => m.live now

/-- Without tiers, `Enqueue` fails exactly if the limit is reached. -/
lemma isOk_enqueue (h : s.tierConfig = none) (clientID : Str) (msg : OfflineMessage) (now : ℤ) :
    (s.enqueue clientID msg now).1.isOk =
      !decide (((s.liveQueue clientID now).length : ℤ) ≥ s.maxPerClient) := by
  rw [enqueue, h, liveQueue]
  split_ifs with hfull <;> simp [hfull, Except.isOk, Except.toBool]

lemma queue_enqueue_self (h : s.tierConfig = none) (clientID : Str) (msg : OfflineMessage)
    (now : ℤ) :
    (s.enqueue clientID msg now).2.queue clientID =
      if ((s.liveQueue clientID now).length : ℤ) ≥ s.maxPerClient then s.liveQueue clientID now
      else s.liveQueue clientID now ++ [s.stamp msg now] := by
  rw [enqueue, h, liveQueue]
  split_ifs
  · simp [queue]
  · simp [queue]

lemma queue_enqueue_of_room {clientID : Str} {now : ℤ}
    (h : ((s.liveQueue clientID now).length : ℤ) < s.maxPerClient) (msg : OfflineMessage) :
    (s.enqueue clientID msg now).1 = .ok () ∧
      (s.enqueue clientID msg now).2.queue clientID =
        s.liveQueue clientID now ++ [s.stamp msg now] := by
  rw [liveQueue] at h ⊢
  rw [enqueue]
  rw [if_neg (not_le.2 h)]
  exact ⟨rfl, (queue_insert clientID clientID _).trans (if_pos rfl)⟩

variable (msg : OfflineMessage) (clientID : Str) (maxCount : ℕ) (now : ℤ)

lemma priority_stamp : (s.stamp msg now).priority = msg.priority := by
  rw [stamp]
  split
  · rfl
  · rfl
  · split_ifs <;> rfl

lemma createdAt_stamp : (s.stamp msg now).createdAt = some (msg.createdAt.getD now) := by
  rw [stamp]
  split
  · rfl
  · rfl
  · split_ifs <;> rfl

/-- What `Dequeue` sorts. -/
def valid (s : OfflineStore) (clientID : Str) (now : ℤ) : List OfflineMessage :=
  (s.liveQueue clientID now).insertionSort OfflineMessage.before

lemma dequeue_fst : (s.dequeue clientID maxCount now).1 = (s.valid clientID now).take maxCount := by
  rw [dequeue, valid, liveQueue, queue]
  cases s.queues.lookup clientID with
  | none => simp
  | some q => rfl

/-- A `Dequeue` for at least as many messages as have not expired takes them all. -/
lemma dequeue_of_length_le {clientID : Str} {maxCount : ℕ} {now : ℤ}
    (h : (s.valid clientID now).length ≤ maxCount) :
    s.dequeue clientID maxCount now =
      s.dequeue clientID (s.valid clientID now).length now := by
  cases hl : s.queues.lookup clientID with
  | none => simp only [dequeue, hl]
  | some q =>
    have hvalid : s.valid clientID now =
        (q.filter fun m => m.live now).insertionSort OfflineMessage.before := by
      rw [valid, liveQueue, queue, hl]
      rfl
    rw [hvalid] at h ⊢
    simp only [dequeue, hl, List.take_of_length_le h, List.drop_of_length_le h, List.take_length,
      List.drop_length]

lemma length_valid_le : (s.valid clientID now).length ≤ (s.queue clientID).length := by
  rw [valid, (List.perm_insertionSort _ _).length_eq]
  exact List.length_filter_le _ _

lemma dequeue_all :
    (s.dequeue clientID (s.queue clientID).length now).1 = s.valid clientID now := by
  rw [dequeue_fst, List.take_of_length_le (length_valid_le clientID now)]

lemma queue_dequeue_self :
    (s.dequeue clientID maxCount now).2.queue clientID =
      (s.valid clientID now).drop maxCount := by
  rw [dequeue]
  cases hl : s.queues.lookup clientID with
  | none => simp [valid, liveQueue, queue, hl]
  | some q =>
    have hq : s.queue clientID = q := by rw [queue, hl]; rfl
    rw [valid, liveQueue, hq]
    dsimp only
    split_ifs with hnil
    · rw [queue_erase, if_pos rfl, hnil]
    · rw [queue_insert, if_pos rfl]

lemma queue_apply_of_ne {clientID : Str} {x : ℤ × OfflineOp} (h : clientID ≠ x.2.clientID) :
    (s.apply x).queue clientID = s.queue clientID := by
  obtain ⟨now, op⟩ := x
  cases op with
  | enqueue clientID' msg =>
    obtain ⟨q, m, -, -, heq⟩ := s.enqueue_eq clientID' msg now
    rw [apply]
    dsimp only
    rw [heq, queue_insert]
    exact if_neg h
  | dequeue clientID' maxCount => exact queue_dequeue_of_ne h maxCount now
  | removeAll clientID' => exact (queue_removeAll clientID' clientID).trans (if_neg h)

lemma params_apply (x : ℤ × OfflineOp) :
    (s.apply x).maxPerClient = s.maxPerClient ∧ (s.apply x).defaultTTL = s.defaultTTL ∧
      (s.apply x).tierConfig = s.tierConfig := by
  obtain ⟨now, op⟩ := x
  cases op with
  | enqueue clientID' msg =>
    obtain ⟨q, m, -, -, heq⟩ := s.enqueue_eq clientID' msg now
    rw [apply]
    dsimp only
    rw [heq]
    exact ⟨rfl, rfl, rfl⟩
  | dequeue clientID' maxCount =>
    rw [apply]
    dsimp only
    rw [dequeue]
    cases s.queues.lookup clientID' <;> exact ⟨rfl, rfl, rfl⟩
  | removeAll clientID' => exact ⟨rfl, rfl, rfl⟩

lemma length_evict {q q' : List OfflineMessage} {priority : UInt8}
    (h : evict q priority = some q') : q'.length + 1 = q.length := by
  obtain ⟨p, -, hp⟩ := List.exists_of_findSome?_eq_some h
  split_ifs at hp with hany
  cases hp
  obtain ⟨m, hm, hmp⟩ := List.any_eq_true.1 hany.2
  rw [List.length_eraseP_of_mem hm hmp]
  exact Nat.sub_add_cancel (List.length_pos_of_mem hm)

/-- `Enqueue` keeps the queue as it is, or puts the message behind a part of it.  The queue does
not get longer than the limit. -/
lemma enqueue_cases {clientID : Str} (hlen : ((s.queue clientID).length : ℤ) ≤ max 0 s.maxPerClient)
    (msg : OfflineMessage) (now : ℤ) :
    ((s.enqueue clientID msg now).1.isOk = false ∧
      (s.enqueue clientID msg now).2.queue clientID = s.queue clientID) ∨
    ((s.enqueue clientID msg now).1.isOk = true ∧ ∃ q : List OfflineMessage,
      q.Sublist (s.queue clientID) ∧ (q.length : ℤ) + 1 ≤ max 0 s.maxPerClient ∧
      (s.enqueue clientID msg now).2.queue clientID = q ++ [s.stamp msg now]) := by
  have hsub : (s.liveQueue clientID now).Sublist (s.queue clientID) := List.filter_sublist
  have hle := hsub.length_le
  rw [enqueue]
  rw [← liveQueue]
  by_cases hfull : ((s.liveQueue clientID now).length : ℤ) ≥ s.maxPerClient
  · -- all messages are live then
    have hall : s.liveQueue clientID now = s.queue clientID :=
      hsub.eq_of_length_le (by omega)
    rw [if_pos hfull]
    cases s.tierConfig with
    | none => exact Or.inl ⟨rfl, by simp [queue, hall]⟩
    | some cfg =>
      cases hevict : evict (s.liveQueue clientID now) (s.stamp msg now).priority with
      | none => exact Or.inl ⟨rfl, by simp [queue, hall]⟩
      | some q =>
        have hq := length_evict hevict
        refine Or.inr ⟨rfl, q, (evict_sublist hevict).trans hsub, by omega, ?_⟩
        simp [queue]
  · rw [if_neg hfull]
    exact Or.inr ⟨rfl, _, hsub, by omega, by simp [queue]⟩

lemma length_queue_apply_le {clientID : Str}
    (h : ((s.queue clientID).length : ℤ) ≤ max 0 s.maxPerClient) (x : ℤ × OfflineOp) :
    (((s.apply x).queue clientID).length : ℤ) ≤ max 0 s.maxPerClient := by
  by_cases hne : clientID = x.2.clientID
  · obtain ⟨now, op⟩ := x
    cases op with
    | enqueue clientID' msg =>
      obtain rfl : clientID = clientID' := hne
      rw [apply]
      rcases enqueue_cases h msg now with ⟨-, hq⟩ | ⟨-, q, -, hlen, hq⟩
      · rw [hq]
        exact h
      · rw [hq, List.length_append, List.length_singleton]
        exact_mod_cast hlen
    | dequeue clientID' maxCount =>
      obtain rfl : clientID = clientID' := hne
      rw [apply]
      dsimp only
      have hvalid := s.length_valid_le clientID now
      rw [queue_dequeue_self, List.length_drop]
      omega
    | removeAll clientID' =>
      obtain rfl : clientID = clientID' := hne
      rw [apply]
      rw [queue_removeAll, if_pos rfl]
      exact le_max_left _ _
  · rw [queue_apply_of_ne hne]
    exact h

/-- The queue of the client is what is queued in the ledger, and ties stand in the order of
their arrival. -/
structure Follows (maxPerClient defaultTTL : ℤ) (clientID : Str) (s : OfflineStore)
    (l : OfflineLedger) : Prop where
  params : s.maxPerClient = maxPerClient ∧ s.defaultTTL = defaultTTL ∧ s.tierConfig = none
  queue : ∃ q : List (ℕ × OfflineMessage), s.queue clientID = q.map Prod.snd ∧ q.Perm l.queued ∧
    TiesInOrder OfflineMessage.before q

section Step

variable {maxPerClient defaultTTL : ℤ} {clientID : Str} {l : OfflineLedger}

lemma follows_new : Follows maxPerClient defaultTTL clientID (new maxPerClient defaultTTL) .empty :=
  ⟨⟨rfl, rfl, rfl⟩, [], rfl, List.Perm.nil, List.Pairwise.nil⟩

lemma Follows.stamp_eq (h : Follows maxPerClient defaultTTL clientID s l) (msg : OfflineMessage)
    (now : ℤ) : s.stamp msg now = (new maxPerClient defaultTTL).stamp msg now := by
  obtain ⟨-, httl, htier⟩ := h.params
  rw [stamp, stamp, htier, httl]
  rfl

/-- What has not expired follows the ledger once it has dropped the rest. -/
lemma Follows.live (h : Follows maxPerClient defaultTTL clientID s l) (now : ℤ) :
    ∃ q : List (ℕ × OfflineMessage),
      s.liveQueue clientID now = q.map Prod.snd ∧ q.Perm (l.expire now).queued ∧
      TiesInOrder OfflineMessage.before q := by
  obtain ⟨q, hq, hperm, hties⟩ := h.queue
  refine ⟨q.filter fun m => m.2.live now, ?_, hperm.filter _, hties.sublist List.filter_sublist⟩
  rw [liveQueue, hq, List.filter_map]
  rfl

/-- What `Dequeue` sorts is in the order of the ledger. -/
lemma Follows.valid_eq (h : Follows maxPerClient defaultTTL clientID s l) (hl : l.Valid)
    (now : ℤ) :
    s.valid clientID now = (OfflineLedger.inOrder (l.expire now).queued).map Prod.snd := by
  obtain ⟨q, hq, hperm, hties⟩ := h.live now
  rw [valid, hq, ← map_insertionSort_byValue,
    insertionSort_byValue_eq hties hperm (hl.expire now).nodup_queued]
  rfl

lemma tiesInOrder_inOrder (q : List (ℕ × OfflineMessage)) :
    TiesInOrder OfflineMessage.before (OfflineLedger.inOrder q) :=
  tiesInOrder_of_byArrival (List.pairwise_insertionSort _ q)

lemma Follows.apply (h : Follows maxPerClient defaultTTL clientID s l) (hl : l.Valid)
    (x : ℤ × OfflineOp) :
    Follows maxPerClient defaultTTL clientID (s.apply x)
      (l.apply maxPerClient defaultTTL clientID x) where
  params := by
    obtain ⟨hmax, httl, htier⟩ := s.params_apply x
    rw [hmax, httl, htier]
    exact h.params
  queue := by
    by_cases hid : x.2.clientID = clientID
    · obtain ⟨now, op⟩ := x
      rw [OfflineLedger.apply, if_pos hid]
      cases op with
      | enqueue clientID' msg =>
        obtain rfl : clientID' = clientID := hid
        obtain ⟨hmax, -, htier⟩ := h.params
        obtain ⟨q, hq, hperm, hties⟩ := h.live now
        have hlen : q.length = (l.expire now).queued.length := hperm.length_eq
        rw [OfflineStore.apply]
        dsimp only
        rw [queue_enqueue_self htier, hq, List.length_map, hlen, hmax, h.stamp_eq]
        split_ifs
        · exact ⟨q, rfl, hperm, hties⟩
        · refine ⟨q ++ [(l.arrived.length, _)], ?_, hperm.append_right _, ?_⟩
          · rw [List.map_append]
            rfl
          · refine hties.concat fun y hy => Nat.le_of_lt ?_
            exact (hl.expire now).lt_of_mem_queued (hperm.subset hy)
      | dequeue clientID' maxCount =>
        obtain rfl : clientID' = clientID := hid
        refine ⟨(OfflineLedger.inOrder (l.expire now).queued).drop maxCount, ?_, List.Perm.refl _,
          (tiesInOrder_inOrder _).sublist (List.drop_sublist _ _)⟩
        rw [OfflineStore.apply, List.map_drop, ← h.valid_eq hl]
        exact queue_dequeue_self clientID' maxCount now
      | removeAll clientID' =>
        obtain rfl : clientID' = clientID := hid
        exact ⟨[], (queue_removeAll _ _).trans (if_pos rfl), List.Perm.refl _, List.Pairwise.nil⟩
    · rw [OfflineLedger.apply, if_neg hid, queue_apply_of_ne (Ne.symm hid)]
      exact h.queue

/-- The ledger records what `Enqueue` accepts. -/
lemma Follows.arrived_apply (h : Follows maxPerClient defaultTTL clientID s l)
    (x : ℤ × OfflineOp) :
    (l.apply maxPerClient defaultTTL clientID x).arrived.map Prod.snd =
      l.arrived.map Prod.snd ++ (acceptedBy clientID (s, x)).toList := by
  obtain ⟨now, op⟩ := x
  cases op with
  | enqueue clientID' msg =>
    rw [OfflineLedger.apply, acceptedBy]
    by_cases hid : clientID' = clientID
    · subst hid
      obtain ⟨hmax, -, htier⟩ := h.params
      obtain ⟨q, hq, hperm, -⟩ := h.live now
      have hlen : q.length = (l.expire now).queued.length := hperm.length_eq
      dsimp only
      rw [isOk_enqueue htier, hq, List.length_map, hlen, hmax, h.stamp_eq,
        OfflineOp.clientID, if_pos rfl]
      by_cases hfull : ((l.expire now).queued.length : ℤ) ≥ maxPerClient
      · rw [if_pos hfull, if_neg (by simp [hfull])]
        simp [OfflineLedger.expire]
      · rw [if_neg hfull, if_pos ⟨rfl, by simpa using hfull⟩]
        simp [OfflineLedger.arrive, OfflineLedger.expire]
    · simp [hid, OfflineOp.clientID]
  | dequeue clientID' maxCount =>
    rw [OfflineLedger.apply, acceptedBy]
    split_ifs <;> simp [OfflineLedger.give, OfflineLedger.expire]
  | removeAll clientID' =>
    rw [OfflineLedger.apply, acceptedBy]
    split_ifs <;> simp [OfflineLedger.clear]

/-- The ledger records what `Dequeue` returns. -/
lemma Follows.returned_apply (h : Follows maxPerClient defaultTTL clientID s l) (hl : l.Valid)
    (x : ℤ × OfflineOp) :
    (l.apply maxPerClient defaultTTL clientID x).returned.map (List.map Prod.snd) =
      l.returned.map (List.map Prod.snd) ++ (batchOf clientID (s, x)).toList := by
  obtain ⟨now, op⟩ := x
  cases op with
  | enqueue clientID' msg =>
    rw [OfflineLedger.apply, batchOf]
    dsimp only
    split_ifs <;> simp [OfflineLedger.arrive, OfflineLedger.expire]
  | dequeue clientID' maxCount =>
    rw [OfflineLedger.apply, batchOf]
    by_cases hid : clientID' = clientID
    · subst hid
      simp [OfflineOp.clientID, dequeue_fst, h.valid_eq hl, OfflineLedger.give,
        OfflineLedger.expire, List.map_take]
    · simp [hid, OfflineOp.clientID]
  | removeAll clientID' =>
    rw [OfflineLedger.apply, batchOf]
    split_ifs <;> simp [OfflineLedger.clear]

/-- What a ledger has recorded at the end of a run, and what the next `Dequeue` returns. -/
structure Accounts (clientID : Str) (s₀ : OfflineStore) (ops : List (ℤ × OfflineOp))
    (l : OfflineLedger) : Prop where
  valid : l.Valid
  /-- the messages whose `Enqueue` succeeded -/
  arrived : l.arrived.map Prod.snd =
    (trace OfflineStore.apply s₀ ops).filterMap (acceptedBy clientID)
  /-- the results of `Dequeue` -/
  returned : l.returned.map (List.map Prod.snd) =
    (trace OfflineStore.apply s₀ ops).filterMap (batchOf clientID)
  queued : ((ops.foldl OfflineStore.apply s₀).queue clientID).Perm (l.queued.map Prod.snd)
  /-- `Dequeue` returns the first messages that are left, by priority, creation and arrival -/
  next : ∀ maxCount now, ∃ q : List (ℕ × OfflineMessage),
    q.Perm (l.queued.filter fun m => m.2.live now) ∧
    q.Pairwise (byArrival OfflineMessage.before) ∧
    ((ops.foldl OfflineStore.apply s₀).dequeue clientID maxCount now).1 =
      (q.take maxCount).map Prod.snd

lemma Follows.foldl (h : Follows maxPerClient defaultTTL clientID s l) (hl : l.Valid)
    (ops : List (ℤ × OfflineOp)) :
    Follows maxPerClient defaultTTL clientID (ops.foldl OfflineStore.apply s)
        (ops.foldl (OfflineLedger.apply maxPerClient defaultTTL clientID) l) ∧
      (ops.foldl (OfflineLedger.apply maxPerClient defaultTTL clientID) l).Valid := by
  induction ops generalizing s l with
  | nil => exact ⟨h, hl⟩
  | cons x ops ih => exact ih (h.apply hl x) (hl.apply maxPerClient defaultTTL clientID x)

lemma Follows.recorded (h : Follows maxPerClient defaultTTL clientID s l) (hl : l.Valid)
    (ops : List (ℤ × OfflineOp)) :
    (ops.foldl (OfflineLedger.apply maxPerClient defaultTTL clientID) l).arrived.map Prod.snd =
        l.arrived.map Prod.snd ++
          (trace OfflineStore.apply s ops).filterMap (acceptedBy clientID) ∧
      (ops.foldl (OfflineLedger.apply maxPerClient defaultTTL clientID) l).returned.map
          (List.map Prod.snd) =
        l.returned.map (List.map Prod.snd) ++
          (trace OfflineStore.apply s ops).filterMap (batchOf clientID) := by
  induction ops generalizing s l with
  | nil => simp [trace]
  | cons x ops ih =>
    obtain ⟨harrived, hreturned⟩ :=
      ih (h.apply hl x) (hl.apply maxPerClient defaultTTL clientID x)
    rw [List.foldl_cons, harrived, hreturned, h.arrived_apply x, h.returned_apply hl x, trace,
      List.filterMap_cons, List.filterMap_cons]
    constructor
    · cases acceptedBy clientID (s, x) <;> simp
    · cases batchOf clientID (s, x) <;> simp

lemma accounts (maxPerClient defaultTTL : ℤ) (clientID : Str) (ops : List (ℤ × OfflineOp)) :
    Accounts clientID (new maxPerClient defaultTTL) ops
      (ops.foldl (OfflineLedger.apply maxPerClient defaultTTL clientID) .empty) := by
  have hnew : Follows maxPerClient defaultTTL clientID (new maxPerClient defaultTTL) .empty :=
    follows_new
  obtain ⟨hfollows, hvalid⟩ := hnew.foldl OfflineLedger.valid_empty ops
  obtain ⟨harrived, hreturned⟩ := hnew.recorded OfflineLedger.valid_empty ops
  refine ⟨hvalid, harrived, hreturned, ?_, ?_⟩
  · obtain ⟨q, hq, hperm, -⟩ := hfollows.queue
    rw [hq]
    exact hperm.map _
  · intro maxCount now
    refine ⟨_, OfflineLedger.perm_inOrder _, List.pairwise_insertionSort _ _, ?_⟩
    rw [dequeue_fst, hfollows.valid_eq hvalid, List.map_take]
    rfl

end Step

end OfflineStore

/-! ### First in, first out -/

namespace OfflineLedger

variable {l : OfflineLedger} {priority : UInt8} {now : ℤ}

/-- All messages are of one priority and were created when they arrived: what was returned and
then what is queued stands in the order of arrival. -/
structure FirstInFirstOut (priority : UInt8) (now : ℤ) (l : OfflineLedger) : Prop where
  priority_eq : ∀ x ∈ l.queued, x.2.priority = priority
  created_le : ∀ x ∈ l.queued, x.2.createdAt.getD 0 ≤ now
  created : l.queued.Pairwise fun x y => x.2.createdAt.getD 0 ≤ y.2.createdAt.getD 0
  increasing : (l.returned.flatten ++ l.queued).Pairwise fun x y => x.1 < y.1

lemma firstInFirstOut_empty : FirstInFirstOut priority now empty :=
  ⟨by simp [empty], by simp [empty], List.Pairwise.nil, List.Pairwise.nil⟩

lemma FirstInFirstOut.mono (h : FirstInFirstOut priority now l) {now' : ℤ} (hle : now ≤ now') :
    FirstInFirstOut priority now' l :=
  ⟨h.priority_eq, fun x hx => (h.created_le x hx).trans hle, h.created, h.increasing⟩

lemma FirstInFirstOut.expire (h : FirstInFirstOut priority now l) :
    FirstInFirstOut priority now (l.expire now) where
  priority_eq x hx := h.priority_eq x (List.mem_filter.1 hx).1
  created_le x hx := h.created_le x (List.mem_filter.1 hx).1
  created := h.created.sublist List.filter_sublist
  increasing := h.increasing.sublist (List.filter_sublist.append_left _)

lemma FirstInFirstOut.arrive (h : FirstInFirstOut priority now l) (hl : l.Valid)
    {msg : OfflineMessage} (hp : msg.priority = priority) (hc : msg.createdAt = some now) :
    FirstInFirstOut priority now (l.arrive msg) := by
  have hlt : ∀ x ∈ l.returned.flatten ++ l.queued, x.1 < l.arrived.length := by
    intro x hx
    refine hl.lt_of_mem_arrived (hl.conserved.symm.subset ?_)
    rw [List.append_assoc, List.append_assoc, ← List.append_assoc]
    exact List.mem_append_left _ hx
  have hcreated : msg.createdAt.getD 0 = now := by rw [hc]; rfl
  refine ⟨?_, ?_, ?_, ?_⟩
  · intro x hx
    rcases List.mem_append.1 hx with hx | hx
    · exact h.priority_eq x hx
    · rw [List.mem_singleton.1 hx]
      exact hp
  · intro x hx
    rcases List.mem_append.1 hx with hx | hx
    · exact h.created_le x hx
    · rw [List.mem_singleton.1 hx]
      exact hcreated.le
  · refine List.pairwise_append.2 ⟨h.created, List.pairwise_singleton _ _, ?_⟩
    intro x hx y hy
    rw [List.mem_singleton.1 hy, hcreated]
    exact h.created_le x hx
  · rw [OfflineLedger.arrive, ← List.append_assoc]
    refine List.pairwise_append.2 ⟨h.increasing, List.pairwise_singleton _ _, ?_⟩
    intro x hx y hy
    rw [List.mem_singleton.1 hy]
    exact hlt x hx

lemma FirstInFirstOut.inOrder_eq (h : FirstInFirstOut priority now l) :
    inOrder l.queued = l.queued := by
  have hnum : l.queued.Pairwise fun x y => x.1 < y.1 := (List.pairwise_append.1 h.increasing).2.1
  refine List.Pairwise.insertionSort_eq ?_
  refine (h.created.and hnum).imp_of_mem ?_
  intro x y hx hy hxy
  refine ⟨Or.inr ⟨?_, hxy.1⟩, fun _ => hxy.2.le⟩
  rw [h.priority_eq x hx, h.priority_eq y hy]

lemma FirstInFirstOut.give (h : FirstInFirstOut priority now l) (maxCount : ℕ) :
    FirstInFirstOut priority now (l.give maxCount) := by
  have hdrop : (l.queued.drop maxCount).Sublist l.queued := List.drop_sublist _ _
  rw [OfflineLedger.give, h.inOrder_eq]
  refine ⟨fun x hx => h.priority_eq x (hdrop.subset hx),
    fun x hx => h.created_le x (hdrop.subset hx), h.created.sublist hdrop, ?_⟩
  rw [List.flatten_append, List.flatten_singleton, List.append_assoc, List.take_append_drop]
  exact h.increasing

lemma FirstInFirstOut.clear (h : FirstInFirstOut priority now l) :
    FirstInFirstOut priority now l.clear :=
  ⟨by simp [OfflineLedger.clear], by simp [OfflineLedger.clear], List.Pairwise.nil,
    h.increasing.sublist ((List.nil_sublist _).append_left _)⟩

lemma FirstInFirstOut.apply (h : FirstInFirstOut priority now l) (hl : l.Valid)
    (maxPerClient defaultTTL : ℤ) {clientID : Str} {op : OfflineOp}
    (hop : ∀ msg, op = .enqueue clientID msg → msg.priority = priority ∧ msg.createdAt = none) :
    FirstInFirstOut priority now (l.apply maxPerClient defaultTTL clientID (now, op)) := by
  rw [OfflineLedger.apply]
  split_ifs with hid
  · cases op with
    | enqueue clientID' msg =>
      obtain rfl : clientID' = clientID := hid
      obtain ⟨hp, hc⟩ := hop msg rfl
      dsimp only
      split_ifs
      · exact h.expire
      · refine h.expire.arrive (hl.expire now) ?_ ?_
        · rw [OfflineStore.priority_stamp, hp]
        · rw [OfflineStore.createdAt_stamp, hc]
          rfl
    | dequeue clientID' maxCount => exact h.expire.give maxCount
    | removeAll clientID' => exact h.clear
  · exact h

lemma FirstInFirstOut.foldl (h : FirstInFirstOut priority now l) (hl : l.Valid)
    (maxPerClient defaultTTL : ℤ) (clientID : Str) {ops : List (ℤ × OfflineOp)}
    (hclock : (ops.map Prod.fst).Pairwise (· ≤ ·)) (hnow : ∀ x ∈ ops, now ≤ x.1)
    (hops : ∀ now msg, (now, OfflineOp.enqueue clientID msg) ∈ ops →
      msg.priority = priority ∧ msg.createdAt = none) :
    ∃ now', FirstInFirstOut priority now'
      (ops.foldl (OfflineLedger.apply maxPerClient defaultTTL clientID) l) := by
  induction ops generalizing now l with
  | nil => exact ⟨now, h⟩
  | cons x ops ih =>
    obtain ⟨t, op⟩ := x
    rw [List.map_cons, List.pairwise_cons] at hclock
    have hle : now ≤ t := hnow (t, op) List.mem_cons_self
    refine ih ((h.mono hle).apply hl maxPerClient defaultTTL ?_)
      (hl.apply maxPerClient defaultTTL clientID (t, op)) hclock.2 ?_ ?_
    · rintro msg rfl
      exact hops t msg List.mem_cons_self
    · intro y hy
      exact hclock.1 y.1 (List.mem_map_of_mem hy)
    · intro now' msg hmem
      exact hops now' msg (List.mem_cons_of_mem _ hmem)

end OfflineLedger

/-! ### Conservation and order -/

/-- At the end of a run every message of a client whose `Enqueue` succeeded is in one place: it
was returned, is queued, was dropped after it expired, or was removed.  `Dequeue` returns the
first messages by priority, creation and arrival.  With one priority and creation times from the
store, all that is returned comes in the order of arrival, and before what is still queued.  No
operation changes the queue of another client. -/
theorem offlineStore_accounts (maxPerClient defaultTTL : ℤ) (clientID : Str)
    (ops : List (ℤ × OfflineOp)) :
    OfflineStore.Accounts clientID (.new maxPerClient defaultTTL) ops
      (ops.foldl (OfflineLedger.apply maxPerClient defaultTTL clientID) .empty) ∧
    (∀ priority, (ops.map Prod.fst).Pairwise (· ≤ ·) →
      (∀ now msg, (now, OfflineOp.enqueue clientID msg) ∈ ops →
        msg.priority = priority ∧ msg.createdAt = none) →
      ((ops.foldl (OfflineLedger.apply maxPerClient defaultTTL clientID) .empty).returned.flatten ++
        (ops.foldl (OfflineLedger.apply maxPerClient defaultTTL clientID) .empty).queued).Pairwise
          fun x y => x.1 < y.1) ∧
    ∀ (s : OfflineStore) (x : ℤ × OfflineOp), clientID ≠ x.2.clientID →
      (s.apply x).queue clientID = s.queue clientID := by
  refine ⟨OfflineStore.accounts maxPerClient defaultTTL clientID ops, ?_,
    fun s x => OfflineStore.queue_apply_of_ne⟩
  intro priority hclock hops
  cases ops with
  | nil => exact List.Pairwise.nil
  | cons x ops =>
    have hnow : ∀ y ∈ x :: ops, x.1 ≤ y.1 := by
      intro y hy
      rcases List.mem_cons.1 hy with rfl | hy
      · exact le_rfl
      · exact (List.pairwise_cons.1 hclock).1 y.1 (List.mem_map_of_mem hy)
    obtain ⟨now, h⟩ := OfflineLedger.firstInFirstOut_empty.foldl OfflineLedger.valid_empty
      maxPerClient defaultTTL clientID hclock hnow hops
    exact h.increasing

/-- Three messages that are taken off in two batches, the last one queued in between. -/
def threeMessages : List (ℤ × OfflineOp) :=
  let msg : OfflineMessage := { topic := str "t", payload := [], qos := 1 }
  [(1, .enqueue (str "c") msg), (1, .enqueue (str "c") msg), (2, .dequeue (str "c") 1),
    (2, .enqueue (str "c") msg), (3, .dequeue (str "c") 100)]

theorem offlineStore_accounts_threeMessages :
    (threeMessages.foldl (OfflineLedger.apply 10 0 (str "c")) .empty).returned.map
      (List.map Prod.fst) = [[0], [1, 2]] ∧
    ((threeMessages.foldl (OfflineLedger.apply 10 0 (str "c")) .empty).returned.flatten ++
      (threeMessages.foldl (OfflineLedger.apply 10 0 (str "c")) .empty).queued).Pairwise
        fun x y => x.1 < y.1 := by
  refine ⟨by decide, (offlineStore_accounts 10 0 (str "c") threeMessages).2.1 0 (by decide) ?_⟩
  intro now msg hmem
  simp only [threeMessages, List.mem_cons, Prod.mk.injEq, OfflineOp.enqueue.injEq, reduceCtorEq,
    and_false, List.not_mem_nil, or_false, false_or] at hmem
  obtain ⟨-, -, rfl⟩ | ⟨-, -, rfl⟩ | ⟨-, -, rfl⟩ := hmem
  all_goals exact ⟨rfl, rfl⟩

end Dmqtt.Broker
