/-
Tiers of the offline queues: which message gives way when a queue is full, and how many messages of
one priority it holds.

A smaller priority value is more important.  When a queue is full, `Enqueue` looks for a message to
evict from the least important priority up to that of the new message; `Evicts` says what it finds
(`enqueue_tiered`).  The limits by priority of a `TierConfig` are read nowhere: all that bounds the
messages of one priority is the limit of the whole queue (`tier_limits_iff`).
-/
import Dmqtt.Broker.OfflineOrder

namespace Dmqtt.Broker

open Lib

/-- `v` is the first of the least important messages of a queue, and `q'` is the queue without
it. -/
def Evicts (q : List OfflineMessage) (v : OfflineMessage) (q' : List OfflineMessage) : Prop :=
  ∃ l r, q = l ++ v :: r ∧ q' = l ++ r ∧
    (∀ m ∈ l, m.priority < v.priority) ∧ ∀ m ∈ r, m.priority ≤ v.priority

lemma Evicts.count_eq {q q' : List OfflineMessage} {v m : OfflineMessage} (h : Evicts q v q')
    (hm : m ≠ v) : q'.count m = q.count m := by
  obtain ⟨l, r, rfl, rfl, -, -⟩ := h
  rw [List.count_append, List.count_append, List.count_cons_of_ne hm.symm]

/-- What is erased as the first message of a priority, if no message is less important. -/
lemma evicts_eraseP {q : List OfflineMessage} {p : UInt8} (hle : ∀ m ∈ q, m.priority ≤ p)
    (hex : ∃ m ∈ q, m.priority = p) :
    ∃ v, v.priority = p ∧ Evicts q v (q.eraseP fun m => m.priority = p) := by
  obtain ⟨m, hm, hp⟩ := hex
  obtain ⟨v, l, r, hl, hv, hq, herase⟩ := 
    List.exists_of_eraseP (p := fun m => decide (m.priority = p)) hm (decide_eq_true hp)
  have hvp : v.priority = p := of_decide_eq_true hv
  refine ⟨v, hvp, l, r, hq, herase, ?_, ?_⟩
  · intro m hm
    rw [hvp]
    refine UInt8.lt_of_le_of_ne (hle m ?_) fun heq => hl m hm (decide_eq_true heq)
    rw [hq]
    exact List.mem_append_left _ hm
  · intro m hm
    rw [hvp]
    refine hle m ?_
    rw [hq]
    exact List.mem_append_right _ (List.mem_cons_of_mem _ hm)

/-- A message that `Enqueue` leaves as it is and that has not expired at the instant 0. -/
def OfflineMessage.filler (priority : UInt8) : OfflineMessage :=
  ⟨[], [], 0, priority, some 0, some 0⟩

namespace OfflineStore

variable {s : OfflineStore}

/-- The search for a message to evict, through any priorities from the least important one up. -/
lemma findSome?_evict {q : List OfflineMessage} {priority : UInt8} {ps : List UInt8}
    (hps : ps.Pairwise (· > ·)) (hq : ∀ m ∈ q, m.priority ∈ ps) :
    match ps.findSome? fun p =>
      if p ≥ priority ∧ q.any fun m => m.priority = p then
        some (q.eraseP fun m => m.priority = p)
      else none with
    | none => ∀ m ∈ q, m.priority < priority
    | some q' => ∃ v, priority ≤ v.priority ∧ Evicts q v q' := by
  induction ps with
  | nil =>
    intro m hm
    exact absurd (hq m hm) List.not_mem_nil
  | cons p ps ih =>
    obtain ⟨hlt, hrest⟩ := List.pairwise_cons.1 hps
    have hle : ∀ m ∈ q, m.priority ≤ p := by
      intro m hm
      rcases List.mem_cons.1 (hq m hm) with heq | hmem
      · exact UInt8.le_of_eq heq
      · exact UInt8.le_of_lt (hlt _ hmem)
    rw [List.findSome?_cons]
    by_cases hp : p ≥ priority
    · by_cases hany : q.any fun m => m.priority = p
      · rw [if_pos ⟨hp, hany⟩]
        obtain ⟨m, hm, hmp⟩ := List.any_eq_true.1 hany
        obtain ⟨v, hv, hevicts⟩ := evicts_eraseP hle ⟨m, hm, of_decide_eq_true hmp⟩
        exact ⟨v, hv ▸ hp, hevicts⟩
      · rw [if_neg fun h => hany h.2]
        refine ih hrest fun m hm => ?_
        refine (List.mem_cons.1 (hq m hm)).resolve_left fun heq => hany ?_
        exact List.any_eq_true.2 ⟨m, hm, decide_eq_true heq⟩
    · -- from here on the new message is less important than the priorities that are left
      rw [if_neg fun h => hp h.1]
      have hless : ∀ m ∈ q, m.priority < priority := fun m hm =>
        UInt8.lt_of_le_of_lt (hle m hm) (UInt8.not_le.1 hp)
      have hnone : (ps.findSome? fun p =>
          if p ≥ priority ∧ q.any fun m => m.priority = p then
            some (q.eraseP fun m => m.priority = p)
          else none) = none := by
        refine List.findSome?_eq_none_iff.2 fun p' hp' => if_neg fun h => ?_
        exact hp (UInt8.le_trans h.1 (UInt8.le_of_lt (hlt p' hp')))
      rw [hnone]
      exact hless

/-- `Enqueue` evicts the first of the least important messages, unless all are more important
than the new one. -/
lemma evict_spec {q : List OfflineMessage} (hq : ∀ m ∈ q, m.priority ≤ priorityLow)
    (priority : UInt8) :
    match evict q priority with
    | none => ∀ m ∈ q, m.priority < priority
    | some q' => ∃ v, priority ≤ v.priority ∧ Evicts q v q' := by
  refine findSome?_evict (by decide) fun m hm => ?_
  have hle : m.priority.toNat ≤ 2 := UInt8.le_iff_toNat_le.1 (hq m hm)
  simp only [List.mem_cons, List.not_mem_nil, or_false, ← UInt8.toNat_inj]
  have hvalues : priorityLow.toNat = 2 ∧ priorityMedium.toNat = 1 ∧ priorityHigh.toNat = 0 :=
    ⟨rfl, rfl, rfl⟩
  omega

variable {clientID : Str}

/-- With tiers, a full queue gives a message away, or it is left without those that have
expired. -/
lemma queue_enqueue_of_full {now : ℤ} (htier : s.tierConfig.isSome)
    (h : s.maxPerClient ≤ ((s.liveQueue clientID now).length : ℤ)) (msg : OfflineMessage) :
    ((s.enqueue clientID msg now).1, (s.enqueue clientID msg now).2.queue clientID) =
      match evict (s.liveQueue clientID now) msg.priority with
      | none => (.error (s.fullErr clientID), s.liveQueue clientID now)
      | some q => (.ok (), q ++ [s.stamp msg now]) := by
  obtain ⟨cfg, hcfg⟩ := Option.isSome_iff_exists.1 htier
  rw [liveQueue] at h ⊢
  rw [enqueue, hcfg]
  rw [if_pos h, priority_stamp]
  cases evict ((s.queue clientID).filter fun m => m.live now) msg.priority with
  | none | some q =>
    exact congrArg (Prod.mk _) ((queue_insert clientID clientID _).trans (if_pos rfl))

/-- The three outcomes of `Enqueue` with tiers. -/
lemma enqueue_tiered_cases (htier : s.tierConfig.isSome)
    (hqueue : ∀ m ∈ s.queue clientID, m.priority ≤ priorityLow) (msg : OfflineMessage) (now : ℤ) :
    let unexpired := s.liveQueue clientID now
    let result := (s.enqueue clientID msg now).1
    let queue := (s.enqueue clientID msg now).2.queue clientID
    ((unexpired.length : ℤ) < s.maxPerClient ∧ result = .ok () ∧
        queue = unexpired ++ [s.stamp msg now]) ∨
      (s.maxPerClient ≤ unexpired.length ∧ result = .ok () ∧
        ∃ v rest, msg.priority ≤ v.priority ∧ Evicts unexpired v rest ∧
          queue = rest ++ [s.stamp msg now]) ∨
      (s.maxPerClient ≤ unexpired.length ∧ result = .error (s.fullErr clientID) ∧
        (∀ m ∈ unexpired, m.priority < msg.priority) ∧ queue = unexpired) := by
  intro unexpired result queue
  rcases lt_or_ge (unexpired.length : ℤ) s.maxPerClient with hroom | hfull
  · exact Or.inl ⟨hroom, queue_enqueue_of_room hroom msg⟩
  · have hspec := evict_spec (fun m hm => hqueue m (List.mem_filter.1 hm).1) msg.priority
      (q := unexpired)
    have heq : (result, queue) = _ := queue_enqueue_of_full htier hfull msg
    cases hevict : evict (s.liveQueue clientID now) msg.priority with
    | none =>
      rw [hevict] at hspec heq
      obtain ⟨hresult, hq⟩ := Prod.ext_iff.1 heq
      exact Or.inr (Or.inr ⟨hfull, hresult, hspec, hq⟩)
    | some rest =>
      rw [hevict] at hspec heq
      obtain ⟨hresult, hq⟩ := Prod.ext_iff.1 heq
      obtain ⟨v, hv, hevicts⟩ := hspec
      exact Or.inr (Or.inl ⟨hfull, hresult, v, rest, hv, hevicts, hq⟩)

/-- No message that is more important than the new one is lost before it expires. -/
lemma count_enqueue_of_lt (htier : s.tierConfig.isSome)
    (hqueue : ∀ m ∈ s.queue clientID, m.priority ≤ priorityLow) {msg m : OfflineMessage} (now : ℤ)
    (hm : m.priority < msg.priority) :
    ((s.enqueue clientID msg now).2.queue clientID).count m =
      (s.liveQueue clientID now).count m := by
  have hstamp : [s.stamp msg now].count m = 0 := by
    refine List.count_eq_zero.2 fun hmem => ?_
    rw [List.mem_singleton.1 hmem, priority_stamp] at hm
    exact UInt8.lt_irrefl _ hm
  rcases enqueue_tiered_cases htier hqueue msg now with
    ⟨-, -, hq⟩ | ⟨-, -, v, rest, hv, hevicts, hq⟩ | ⟨-, -, -, hq⟩
  · rw [hq, List.count_append, hstamp, Nat.add_zero]
  · have hne : m ≠ v := by
      rintro rfl
      exact UInt8.not_lt.2 hv hm
    rw [hq, List.count_append, hstamp, Nat.add_zero, hevicts.count_eq hne]
  · rw [hq]

/-! ### Eviction -/

/-- With tiers, `Enqueue` drops what has expired.  If there is no room then, the first of the least
important messages gives way to the new one, unless all of them are more important. -/
theorem enqueue_tiered {clientID : Str} (htier : s.tierConfig.isSome)
    (hlen : ((s.queue clientID).length : ℤ) ≤ s.maxPerClient)
    (hqueue : ∀ m ∈ s.queue clientID, m.priority ≤ priorityLow) (msg : OfflineMessage) (now : ℤ) :
    let unexpired := (s.queue clientID).filter fun m => m.live now
    let result := (s.enqueue clientID msg now).1
    let queue := (s.enqueue clientID msg now).2.queue clientID
    ((unexpired.length : ℤ) < s.maxPerClient →
        result = .ok () ∧ queue = unexpired ++ [s.stamp msg now]) ∧
      (s.maxPerClient ≤ unexpired.length → (∃ m ∈ unexpired, msg.priority ≤ m.priority) →
        result = .ok () ∧ ∃ v rest, msg.priority ≤ v.priority ∧ Evicts unexpired v rest ∧
          queue = rest ++ [s.stamp msg now]) ∧
      (s.maxPerClient ≤ unexpired.length → (∀ m ∈ unexpired, m.priority < msg.priority) →
        result = .error (s.fullErr clientID) ∧ queue = unexpired) ∧
      (∀ m, m.priority < msg.priority → queue.count m = unexpired.count m) ∧
      (queue.length : ℤ) ≤ s.maxPerClient ∧
      ∀ d, d ≠ clientID → (s.enqueue clientID msg now).2.queue d = s.queue d := by
  intro unexpired result queue
  have hcases := enqueue_tiered_cases htier hqueue msg now
  have hbound : (queue.length : ℤ) ≤ max 0 s.maxPerClient :=
    length_queue_apply_le (hlen.trans (le_max_right _ _)) (now, .enqueue clientID msg)
  refine ⟨?_, ?_, ?_, ?_, ?_, ?_⟩
  · intro hroom
    rcases hcases with ⟨-, hdone⟩ | ⟨hfull, -⟩ | ⟨hfull, -⟩
    · exact hdone
    · exact absurd hroom (not_lt.2 hfull)
    · exact absurd hroom (not_lt.2 hfull)
  · rintro hfull ⟨m, hm, hle⟩
    rcases hcases with ⟨hroom, -⟩ | ⟨-, hdone⟩ | ⟨-, -, hall, -⟩
    · exact absurd hroom (not_lt.2 hfull)
    · exact hdone
    · exact absurd (hall m hm) (UInt8.not_lt.2 hle)
  · intro hfull hall
    rcases hcases with ⟨hroom, -⟩ | ⟨-, -, v, rest, hv, ⟨l, r, hq, -⟩, -⟩ | ⟨-, hresult, -, hq⟩
    · exact absurd hroom (not_lt.2 hfull)
    · refine absurd (hall v ?_) (UInt8.not_lt.2 hv)
      have hmem : v ∈ l ++ v :: r := List.mem_append_right _ List.mem_cons_self
      rw [← hq] at hmem
      exact hmem
    · exact ⟨hresult, hq⟩
  · intro m hm
    exact count_enqueue_of_lt htier hqueue now hm
  · omega
  · intro d hd
    exact queue_apply_of_ne (x := (now, .enqueue clientID msg)) hd

/-- A queue for two messages with one of low and one of high priority. -/
def tieredPair : OfflineStore where
  queues := (∅ : GoMap Str (List OfflineMessage)).insert (str "d")
    [⟨str "a", [], 0, priorityHigh, some 0, some 60⟩,
      ⟨str "b", [], 0, priorityLow, some 0, some 60⟩]
  maxPerClient := 2
  defaultTTL := 0
  tierConfig := some ⟨2, 60, 2, 60, 2, 60⟩

theorem enqueue_tiered_pair :
    (tieredPair.enqueue (str "d") ⟨str "c", [], 0, priorityMedium, none, none⟩ 30).1 = .ok () ∧
      ∃ v rest, priorityMedium ≤ v.priority ∧
        Evicts ((tieredPair.queue (str "d")).filter fun m => m.live 30) v rest ∧
        (tieredPair.enqueue (str "d") ⟨str "c", [], 0, priorityMedium, none, none⟩ 30).2.queue
          (str "d") = rest ++ [⟨str "c", [], 0, priorityMedium, some 30, some 90⟩] :=
  (enqueue_tiered (s := tieredPair) rfl (by decide) (by decide) _ _).2.1 (by decide)
    ⟨⟨str "b", [], 0, priorityLow, some 0, some 60⟩, by decide, by decide⟩

/-! ### The limits by priority -/

/-- A store with tiers and without messages. -/
def newTiered (maxPerClient defaultTTL : ℤ) (cfg : TierConfig) : OfflineStore :=
  { new maxPerClient defaultTTL with tierConfig := some cfg }

lemma length_queue_foldl_le (ops : List (ℤ × OfflineOp))
    (h : ((s.queue clientID).length : ℤ) ≤ max 0 s.maxPerClient) :
    (((ops.foldl apply s).queue clientID).length : ℤ) ≤ max 0 s.maxPerClient := by
  induction ops generalizing s with
  | nil => exact h
  | cons x ops ih =>
    have hmax := (s.params_apply x).1
    exact hmax ▸ ih (hmax.symm ▸ length_queue_apply_le h x)

lemma queue_fill {priority : UInt8} {k : ℕ} (n : ℕ)
    (hqueue : s.queue clientID = List.replicate k (.filler priority))
    (hroom : (k + n : ℤ) ≤ s.maxPerClient) :
    ((List.replicate n ((0, .enqueue clientID (.filler priority)) : ℤ × OfflineOp)).foldl apply
      s).queue clientID = List.replicate (k + n) (.filler priority) := by
  induction n generalizing s k with
  | zero => exact hqueue
  | succ n ih =>
    have hlive : s.liveQueue clientID 0 = List.replicate k (.filler priority) := by
      rw [liveQueue, hqueue, List.filter_replicate]
      exact if_pos rfl
    have hlt : ((s.liveQueue clientID 0).length : ℤ) < s.maxPerClient := by
      rw [hlive, List.length_replicate]
      omega
    rw [List.replicate_succ, List.foldl_cons, ← Nat.succ_add_eq_add_succ]
    refine ih ?_ ?_
    · rw [apply]
      rw [(queue_enqueue_of_room hlt _).2, hlive, List.replicate_succ']
      rfl
    · rw [(s.params_apply _).1]
      omega

end OfflineStore

/-- The limits of a configuration, with their priorities. -/
def TierConfig.limits (cfg : TierConfig) : List (UInt8 × ℤ) :=
  [(priorityHigh, cfg.highMax), (priorityMedium, cfg.midMax), (priorityLow, cfg.lowMax)]

/-- A queue holds at most as many messages of each priority as the configuration says. -/
def TierConfig.Admits (cfg : TierConfig) (q : List OfflineMessage) : Prop :=
  ∀ x ∈ cfg.limits, ((q.countP fun m => m.priority = x.1 : ℕ) : ℤ) ≤ x.2

instance (cfg : TierConfig) (q : List OfflineMessage) : Decidable (cfg.Admits q) :=
  List.decidableBAll _ _

/-- The limits by priority hold in all reachable states exactly if none of them is below the limit
of the whole queue. -/
theorem tier_limits_iff (maxPerClient defaultTTL : ℤ) (cfg : TierConfig) :
    (∀ (ops : List (ℤ × OfflineOp)) (clientID : Str), cfg.Admits
      ((ops.foldl OfflineStore.apply (.newTiered maxPerClient defaultTTL cfg)).queue clientID)) ↔
      ∀ x ∈ cfg.limits, max 0 maxPerClient ≤ x.2 := by
  constructor
  · intro h x hx
    -- a queue that is full of messages of one priority
    have hfull := h (List.replicate maxPerClient.toNat (0, .enqueue [] (.filler x.1))) [] x hx
    rcases le_or_gt maxPerClient 0 with hmax | hmax
    · rw [max_eq_left hmax]
      exact (Int.natCast_nonneg _).trans hfull
    · have hroom : ((0 : ℕ) + maxPerClient.toNat : ℤ) ≤ maxPerClient := by omega
      have hpriority : decide ((OfflineMessage.filler x.1).priority = x.1) = true :=
        decide_eq_true rfl
      rw [OfflineStore.queue_fill (k := 0) _ rfl hroom, List.countP_replicate, if_pos hpriority]
        at hfull
      omega
  · intro h ops clientID x hx
    have hle := OfflineStore.length_queue_foldl_le ops
      (show (((OfflineStore.newTiered maxPerClient defaultTTL cfg).queue clientID).length : ℤ) ≤ _
        from le_max_left 0 maxPerClient)
    exact (Nat.cast_le.2 List.countP_le_length).trans (hle.trans (h x hx))

/-- Two messages of high priority in a queue for two, with a limit of one. -/
theorem tier_limits_exceeded :
    ¬ (⟨1, 60, 1, 60, 1, 60⟩ : TierConfig).Admits
      (([(0, .enqueue (str "d") ⟨str "a", [], 0, priorityHigh, none, none⟩),
        (1, .enqueue (str "d") ⟨str "b", [], 0, priorityHigh, none, none⟩)] :
          List (ℤ × OfflineOp)).foldl OfflineStore.apply
        (.newTiered 2 60 ⟨1, 60, 1, 60, 1, 60⟩) |>.queue (str "d")) := by
  decide

end Dmqtt.Broker
