/-
Crashes during `Enqueue`.

The calls of an `Enqueue` delete the rows of the client one by one and write the new queue after
that, so a crash in between loses messages.  `queue_crash` gives the queue that a restart finds
after each number of calls, and `enqueue_crash_iff` the condition under which it is always the
old or the new queue.
-/
import Dmqtt.Broker.OfflineRestart

namespace Dmqtt.Broker

open Lib Storage

namespace OfflineStorage

/-- The storage after the first `n` calls of an `Enqueue`. -/
def crash (j : MessageCodec) (s : OfflineStorage) (clientID : Str) (msg : OfflineMessage) (now : ℤ)
    (n : ℕ) : OfflineStorage :=
  { s with store := ((s.enqueueCalls j clientID msg now).1.take n).foldl exec s.store }

variable {j : MessageCodec} {s : OfflineStorage} {clientID : Str} {msg : OfflineMessage} {now : ℤ}

lemma queue_enqueue_ne_nil (h : Synced j s) (hok : (s.mem.enqueue clientID msg now).1.isOk = true) :
    (s.mem.enqueue clientID msg now).2.queue clientID ≠ [] := by
  rcases OfflineStore.enqueue_cases (h.length_le clientID) msg now with ⟨herr, -⟩ | ⟨-, q, -, -, hq⟩
  · rw [hok] at herr
    cases herr
  · rw [hq]
    simp

lemma queue_enqueue_of_nil (h : Synced j s) (hok : (s.mem.enqueue clientID msg now).1.isOk = true)
    (hnil : s.mem.queue clientID = []) :
    (s.mem.enqueue clientID msg now).2.queue clientID = [s.mem.stamp msg now] := by
  rcases OfflineStore.enqueue_cases (h.length_le clientID) msg now with
    ⟨herr, -⟩ | ⟨-, q, hsub, -, hq⟩
  · rw [hok] at herr
    cases herr
  · rw [hnil, List.sublist_nil] at hsub
    rw [hq, hsub, List.nil_append]

/-- The calls of an `Enqueue` that succeeds. -/
lemma enqueueCalls_of_isOk (h : Synced j s) (hok : (s.mem.enqueue clientID msg now).1.isOk = true) :
    (s.enqueueCalls j clientID msg now).1 =
      deleteRows (scan s.store (keyRange clientID)) ++
        (persistAll j clientID ((s.mem.enqueue clientID msg now).2.queue clientID)
          (s.seqNums.insert clientID 0)).1 := by
  have hne := queue_enqueue_ne_nil h hok
  rw [enqueueCalls]
  cases hres : (s.mem.enqueue clientID msg now).1 with
  | error err =>
    rw [hres] at hok
    cases hok
  | ok u =>
    rw [clearPebbleMessages, if_neg hne]

/-- The queue that a restart finds after the first `n` calls: as long as rows are deleted, the
rest of the old queue, and then the part of the new queue that is written. -/
lemma queue_crash (h : Synced j s) (hj : j.Lossless) (hslash : slash ∉ clientID)
    (hok : (s.mem.enqueue clientID msg now).1.isOk = true) (n : ℕ) :
    ((s.crash j clientID msg now n).restart j).mem.queue clientID =
      if n ≤ (s.mem.queue clientID).length then (s.mem.queue clientID).drop n
      else ((s.mem.enqueue clientID msg now).2.queue clientID).take
        ((n - (s.mem.queue clientID).length + 1) / 2) := by
  have hrows := h.rows clientID hslash
  have hlen : (scan s.store (keyRange clientID)).length = (s.mem.queue clientID).length := by
    rw [hrows, rowsOf, List.length_mapIdx]
  have hdeletes : (deleteRows (scan s.store (keyRange clientID))).length =
      (s.mem.queue clientID).length := by
    rw [deleteRows, List.length_map, hlen]
  have hnew : ((s.mem.enqueue clientID msg now).2.queue clientID).length ≤ 2 ^ 64 := by
    have hle := OfflineStore.length_queue_apply_le (h.length_le clientID)
      (now, .enqueue clientID msg)
    have hlimit := h.limit_lt
    dsimp only [OfflineStore.apply] at hle
    omega
  have hwritten : ∀ k, scan (((persistAll j clientID
      ((s.mem.enqueue clientID msg now).2.queue clientID) (s.seqNums.insert clientID 0)).1.take
        k).foldl exec ((deleteRows (scan s.store (keyRange clientID))).foldl exec s.store))
      (keyRange clientID) = rowsOf j clientID
        (((s.mem.enqueue clientID msg now).2.queue clientID).take ((k + 1) / 2)) :=
    scan_take_persistAll hj [] (by simp) (scan_deleteRows _ _) hnew
  rw [queue_restart_eq j _ hslash, crash, enqueueCalls_of_isOk h hok, List.take_append, hdeletes,
    List.foldl_append]
  split_ifs with hn
  · rw [Nat.sub_eq_zero_of_le hn, List.take_zero, List.foldl_nil, deleteRows, ← List.map_take,
      ← deleteRows, scan_deleteRows_take, hrows, filterMap_drop_rowsOf hj]
  · rw [List.take_of_length_le (by omega), hwritten, filterMap_rowsOf hj]

lemma queue_crash_of_not_isOk (h : Synced j s) (hj : j.Lossless)
    (herr : (s.mem.enqueue clientID msg now).1.isOk = false) (n : ℕ) :
    ((s.crash j clientID msg now n).restart j).mem.queue clientID = s.mem.queue clientID := by
  have hcalls : s.crash j clientID msg now n = s := by
    rw [crash, enqueueCalls]
    cases hres : (s.mem.enqueue clientID msg now).1 with
    | error err => simp
    | ok u =>
      rw [hres] at herr
      cases herr
  rw [hcalls, h.queue_restart hj]

end OfflineStorage

open OfflineStorage

/-- After a crash in an `Enqueue` a restart always finds the old or the new queue of the client
exactly if the old one is empty or the `Enqueue` fails.  Otherwise the crash leaves a part of one
of the two queues: the end of the old one, or the start of the new one. -/
theorem enqueue_crash_iff (j : MessageCodec) (hj : j.Lossless) (s : OfflineStorage)
    (h : Synced j s) (clientID : Str) (hslash : slash ∉ clientID) (msg : OfflineMessage) (now : ℤ) :
    ((∀ n, ((s.crash j clientID msg now n).restart j).mem.queue clientID = s.mem.queue clientID ∨
        ((s.crash j clientID msg now n).restart j).mem.queue clientID =
          (s.enqueue j clientID msg now).2.mem.queue clientID) ↔
      s.mem.queue clientID = [] ∨ (s.enqueue j clientID msg now).1.isOk = false) ∧
    ((s.enqueue j clientID msg now).1.isOk = true → ∀ n,
      ((s.crash j clientID msg now n).restart j).mem.queue clientID =
        if n ≤ (s.mem.queue clientID).length then (s.mem.queue clientID).drop n
        else ((s.enqueue j clientID msg now).2.mem.queue clientID).take
          ((n - (s.mem.queue clientID).length + 1) / 2)) := by
  refine ⟨?_, queue_crash h hj hslash⟩
  cases hok : (s.enqueue j clientID msg now).1.isOk with
  | false =>
    refine iff_of_true (fun n => Or.inl (queue_crash_of_not_isOk h hj hok n)) (Or.inr rfl)
  | true =>
    have hcrash := queue_crash h hj hslash hok
    have hne := queue_enqueue_ne_nil h hok
    constructor
    · -- when the last row is deleted, the queue is gone
      intro hatomic
      have hgone := hcrash (s.mem.queue clientID).length
      rw [if_pos le_rfl, List.drop_length] at hgone
      rcases hatomic (s.mem.queue clientID).length with hold | hnew
      · exact Or.inl (hold.symm.trans hgone)
      · exact absurd (hnew.symm.trans hgone) hne
    · intro hempty n
      have hold : s.mem.queue clientID = [] := hempty.resolve_right (by simp)
      have hnew : (s.enqueue j clientID msg now).2.mem.queue clientID = [s.mem.stamp msg now] :=
        queue_enqueue_of_nil h hok hold
      rw [hcrash n]
      cases n with
      | zero => exact Or.inl (if_pos (Nat.zero_le _))
      | succ n =>
        right
        have hhalf : (n + 1 - 0 + 1) / 2 = n / 2 + 1 := by omega
        rw [hold, List.length_nil, if_neg (Nat.not_succ_le_zero n), hhalf]
        exact (congrArg (List.take (n / 2 + 1)) hnew).trans (by rw [hnew]; simp)

/-- Storage without messages. -/
def emptyStorage : OfflineStorage := ⟨.new 10 0, ∅, ∅⟩

lemma synced_emptyStorage (j : MessageCodec) : Synced j emptyStorage :=
  synced_new _ rfl (by norm_num [OfflineStore.new]) fun _ _ => rfl

theorem enqueue_crash_iff_sample :
    ∃ j : MessageCodec, j.Lossless ∧ ∀ n,
      ((emptyStorage.crash j (str "c") (sampleMessage [1]) 0 n).restart j).mem.queue (str "c") =
        [] ∨
      ((emptyStorage.crash j (str "c") (sampleMessage [1]) 0 n).restart j).mem.queue (str "c") =
        [{ sampleMessage [1] with createdAt := some 0 }] := by
  obtain ⟨j, hj⟩ := exists_lossless
  exact ⟨j, hj, (enqueue_crash_iff j hj emptyStorage (synced_emptyStorage j) (str "c") (by decide)
    (sampleMessage [1]) 0).1.2 (Or.inl rfl)⟩

/-- Storage with a message for the client `c`. -/
def oneMessage (j : MessageCodec) : OfflineStorage :=
  emptyStorage.apply j (0, .enqueue (str "c") (sampleMessage [1]))

/-- After a crash behind the first call of a second `Enqueue`, a restart finds neither message. -/
theorem enqueue_not_crash_atomic :
    ∃ j : MessageCodec, j.Lossless ∧ Synced j (oneMessage j) ∧
      (oneMessage j).mem.queue (str "c") = [{ sampleMessage [1] with createdAt := some 0 }] ∧
      ((oneMessage j).enqueue j (str "c") (sampleMessage [2]) 1).2.mem.queue (str "c") =
        [{ sampleMessage [1] with createdAt := some 0 },
          { sampleMessage [2] with createdAt := some 1 }] ∧
      (((oneMessage j).crash j (str "c") (sampleMessage [2]) 1 1).restart j).mem.queue (str "c") =
        [] := by
  obtain ⟨j, hj⟩ := exists_lossless
  have hsynced : Synced j (oneMessage j) := (synced_emptyStorage j).apply hj (by decide)
  exact ⟨j, hj, hsynced, rfl, rfl, queue_crash hsynced hj (by decide) rfl 1⟩

end Dmqtt.Broker
