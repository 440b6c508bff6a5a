/-
Lifetimes and priorities across a migration.

`MigrateOfflineMsg` has the topic, the payload and the QoS of an offline message, and nothing else.
On the target it is queued like a new message: it is created when it is imported, it lives as long
as a new message of priority 0 does there, and it has that priority.  `migration_keeps_message_iff`
says for which messages nobody can tell.
-/
import Dmqtt.Broker.MigrationOrder

namespace Dmqtt.Broker

open Lib

/-- The message has an expiry, and it has passed. -/
def OfflineMessage.expired (m : OfflineMessage) (now : ℤ) : Prop :=
  ∃ t, m.expiresAt = some t ∧ t < now

namespace OfflineStore

variable {s : OfflineStore}

/-- How long a message lives that comes without instants and priority. -/
def importTTL (s : OfflineStore) : Option ℤ :=
  match s.tierConfig with
  | some cfg => some cfg.highTTL
  | none => if s.defaultTTL > 0 then some s.defaultTTL else none

lemma expiresAt_stamp_offline (m : MigrateOfflineMsg) (now : ℤ) :
    (s.stamp m.offline now).expiresAt = s.importTTL.map fun ttl => now + ttl := by
  rw [stamp, importTTL]
  cases s.tierConfig with
  | some cfg => rfl
  | none =>
    split_ifs <;> rfl

variable {clientID : Str} {m : OfflineMessage}

lemma live_of_mem_dequeue {n : ℕ} {now : ℤ} (h : m ∈ (s.dequeue clientID n now).1) :
    m.live now := by
  rw [dequeue_fst] at h
  have hvalid := (List.perm_insertionSort _ _).subset (List.mem_of_mem_take h)
  exact (List.mem_filter.1 hvalid).2

lemma mem_dequeue_of_live {now : ℤ} (hm : m ∈ s.queue clientID) (hlive : m.live now) :
    m ∈ (s.dequeue clientID (s.queue clientID).length now).1 := by
  rw [dequeue_all]
  exact (List.perm_insertionSort _ _).symm.subset (List.mem_filter.2 ⟨hm, hlive⟩)

/-- A message that is queued is never returned after an instant exactly if it expires by then. -/
lemma expires_iff (hm : m ∈ s.queue clientID) (t : ℤ) :
    (∀ (ops : List (ℤ × OfflineOp)) (n : ℕ) (now : ℤ), t < now →
      m ∉ ((ops.foldl apply s).dequeue clientID n now).1) ↔
      ∃ t' ≤ t, m.expiresAt = some t' := by
  constructor
  · intro h
    cases hexp : m.expiresAt with
    | none =>
      refine absurd (mem_dequeue_of_live hm ?_) (h [] _ (t + 1) (lt_add_one t))
      rw [OfflineMessage.live, hexp]
    | some t' =>
      refine ⟨t', ?_, rfl⟩
      by_contra hlt
      refine absurd (mem_dequeue_of_live hm ?_) (h [] _ t' (not_le.1 hlt))
      rw [OfflineMessage.live, hexp]
      exact Bool.not_eq_true' _ ▸ decide_eq_false (lt_irrefl t')
  · rintro ⟨t', hle, hexp⟩ ops n now hlt hmem
    have hlive := live_of_mem_dequeue hmem
    rw [OfflineMessage.live, hexp] at hlive
    have hnot : ¬ now > t' := by simpa using hlive
    exact hnot (hle.trans_lt hlt)

end OfflineStore

variable {σ ρ : Type}

/-- The `i`-th of the exported messages is not prolonged, and keeps its priority, exactly if it has
priority 0 and would not live longer as a new message of the target. -/
theorem migration_keeps_message_iff (source target : BrokerState σ ρ) (deviceID : Str) (now : ℤ)
    (clock clock' : ℕ → ℤ) (session : Option MigrateSessionData) {i : ℕ} {m : OfflineMessage}
    (hm : (source.offlineStore.valid deviceID now)[i]? = some m) :
    let exported := (source.getOfflineMessagesAt deviceID now clock).1
    let store := (target.importMigrateDataAt ⟨deviceID, exported, session⟩ clock').offlineStore
    let copy := target.offlineStore.stamp m.migrated.offline (clock' i)
    exported[i]? = some m.migrated ∧
      (copy ∈ store.queue deviceID →
        ((∀ (ops : List (ℤ × OfflineOp)) (n : ℕ) (t : ℤ), m.expired t →
            copy ∉ ((ops.foldl OfflineStore.apply store).dequeue deviceID n t).1) ∧
          copy.priority = m.priority ↔
        m.priority = priorityHigh ∧ ∀ expiresAt, m.expiresAt = some expiresAt →
          ∃ ttl, target.offlineStore.importTTL = some ttl ∧ clock' i + ttl ≤ expiresAt)) := by
  intro exported store copy
  constructor
  · have hexported : exported = (source.offlineStore.valid deviceID now).map _ :=
      congrArg (List.map OfflineMessage.migrated) (OfflineStore.dequeue_all deviceID now)
    rw [hexported, List.getElem?_map, hm]
    rfl
  · intro hmem
    have hpriority : copy.priority = priorityHigh := OfflineStore.priority_stamp _ _
    rw [hpriority, and_comm, eq_comm]
    refine and_congr_right fun _ => ?_
    cases hexp : m.expiresAt with
    | none =>
      refine iff_of_true (fun ops n t ht => ?_) (fun expiresAt h => nomatch h)
      obtain ⟨t', ht', -⟩ := ht
      rw [hexp] at ht'
      cases ht'
    | some expiresAt =>
      have hexpired : ∀ t, m.expired t ↔ expiresAt < t := fun t => by
        rw [OfflineMessage.expired, hexp]
        simp
      simp only [hexpired, Option.some_inj, forall_eq']
      rw [OfflineStore.expires_iff hmem, OfflineStore.expiresAt_stamp_offline]
      constructor
      · rintro ⟨t, hle, ht⟩
        obtain ⟨ttl, httl, rfl⟩ := Option.map_eq_some_iff.1 ht
        exact ⟨ttl, httl, hle⟩
      · rintro ⟨ttl, httl, hle⟩
        exact ⟨_, hle, by rw [httl]; rfl⟩

/-- A broker with one offline message, which expires at the instant 100. -/
def expiringBroker (priority : UInt8) : BrokerState Unit Unit :=
  { BrokerState.new () none with
    offlineStore :=
      ⟨AList.insert (str "d") [⟨str "t", [1], 1, priority, some 0, some 100⟩] ∅, 10, 90, none⟩ }

/-- A broker without messages. -/
def importingBroker : BrokerState Unit Unit :=
  { BrokerState.new () none with offlineStore := .new 10 90 }

/-- Imported by the instant 10, the message expires in time. -/
theorem migration_keeps_message_high :
    let exported := ((expiringBroker priorityHigh).getOfflineMessagesAt (str "d") 4 fun _ => 5).1
    let store := (importingBroker.importMigrateDataAt ⟨str "d", exported, none⟩
      fun _ => 10).offlineStore
    let copy : OfflineMessage := ⟨str "t", [1], 1, priorityHigh, some 10, some 100⟩
    store.queue (str "d") = [copy] ∧
      ∀ (ops : List (ℤ × OfflineOp)) (n : ℕ) (t : ℤ), 100 < t →
        copy ∉ ((ops.foldl OfflineStore.apply store).dequeue (str "d") n t).1 :=
  have hkept := (migration_keeps_message_iff (expiringBroker priorityHigh) importingBroker
    (str "d") 4 (fun _ => 5) (fun _ => 10) none (i := 0) rfl).2 (by decide)
  have hexpiry : ∀ expiresAt, some (100 : ℤ) = some expiresAt →
      ∃ ttl, some (90 : ℤ) = some ttl ∧ 10 + ttl ≤ expiresAt := by
    rintro _ ⟨⟩
    exact ⟨90, rfl, by decide⟩
  ⟨by decide, fun ops n t ht => (hkept.2 ⟨rfl, hexpiry⟩).1 ops n t ⟨100, rfl, ht⟩⟩

/-- Imported later, a message of low priority is returned after it has expired, and with the
priority that is most important. -/
theorem migration_prolongs :
    let exported := ((expiringBroker priorityLow).getOfflineMessagesAt (str "d") 4 fun _ => 5).1
    let store := (importingBroker.importMigrateDataAt ⟨str "d", exported, none⟩
      fun _ => 60).offlineStore
    (store.dequeue (str "d") 1 140).1 =
        [⟨str "t", [1], 1, priorityHigh, some 60, some 150⟩] ∧
      ((expiringBroker priorityLow).offlineStore.dequeue (str "d") 1 140).1 = [] := by
  decide

end Dmqtt.Broker
