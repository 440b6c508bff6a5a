/-
An export of offline messages that runs along with other calls.

`GetOfflineMessages` locks the store once for `Count`, once for `Dequeue` and once for each
`Enqueue`.  `ExportRun` is the state of an export between two of these steps; a run is any sequence
of steps of the export and of calls by others.  A run is `Atomic` if the same results and the same
queue come out of calls that run one after the other, in some order.

`export_atomic` needs that nobody calls between `Dequeue` and the last `Enqueue`.  If somebody does,
the queue may be full when the messages come back, and messages may come back that were removed
meanwhile (`export_interrupted`).
-/
import Dmqtt.Broker.MigrationOrder

namespace Dmqtt.Broker

open Lib

/-- What a call on an offline store returns. -/
inductive OfflineResult
  | enqueued (result : Except Str Unit)
  | dequeued (msgs : List OfflineMessage)
  | removed
deriving DecidableEq

/-- A call, at an instant, and what it returned. -/
abbrev OfflineCall : Type := (ℤ × OfflineOp) × OfflineResult

namespace OfflineStore

variable {s : OfflineStore}

/-- What an operation returns. -/
def result (s : OfflineStore) (x : ℤ × OfflineOp) : OfflineResult :=
  match x.2 with
  | .enqueue clientID msg => .enqueued (s.enqueue clientID msg x.1).1
  | .dequeue clientID maxCount => .dequeued (s.dequeue clientID maxCount x.1).1
  | .removeAll _ => .removed

/-- The calls that come about when operations are executed one after the other. -/
def record (s : OfflineStore) (ops : List (ℤ × OfflineOp)) : List OfflineCall :=
  (trace apply s ops).map fun x => (x.2, x.1.result x.2)

lemma record_cons (x : ℤ × OfflineOp) (ops : List (ℤ × OfflineOp)) :
    s.record (x :: ops) = (x, s.result x) :: (s.apply x).record ops := rfl

lemma record_append (ops ops' : List (ℤ × OfflineOp)) :
    s.record (ops ++ ops') = s.record ops ++ (ops.foldl apply s).record ops' := by
  induction ops generalizing s with
  | nil => rfl
  | cons x ops ih => rw [List.cons_append, record_cons, record_cons, ih, List.foldl_cons,
      List.cons_append]

end OfflineStore

/-! ### Runs -/

/-- How far an export has come: `now` and `clock` are the instants of `Dequeue` and of the
`Enqueue` calls so far, `out` is what `Dequeue` returned, and `pending` is what has to be queued
again. -/
inductive ExportPhase
  | start
  | counted (n : ℕ)
  | queueing (now : ℤ) (clock : List ℤ) (out pending : List OfflineMessage)
deriving DecidableEq

/-- What happens next: a call by somebody else, or a step of the export. -/
inductive ExportEvent
  | call (x : ℤ × OfflineOp)
  | advance (now : ℤ)

/-- The store, the export and the calls that others have made. -/
structure ExportRun where
  store : OfflineStore
  phase : ExportPhase := .start
  calls : List OfflineCall := []

namespace ExportRun

/-- One critical section. -/
def step (deviceID : Str) (r : ExportRun) : ExportEvent → ExportRun
  | .call x =>
    { r with store := r.store.apply x, calls := r.calls ++ [(x, r.store.result x)] }
  | .advance now =>
    match r.phase with
    | .start => { r with phase := .counted (r.store.queue deviceID).length }
    | .counted n =>
      let out := r.store.dequeue deviceID n now
      { r with store := out.2, phase := .queueing now [] out.1 out.1 }
    | .queueing t clock out (m :: pending) =>
      { r with
        store := (r.store.enqueue deviceID m now).2
        phase := .queueing t (clock ++ [now]) out pending }
    | .queueing _ _ _ [] => r

/-- The run of an export that starts on a store. -/
def run (deviceID : Str) (s : OfflineStore) (events : List ExportEvent) : ExportRun :=
  events.foldl (step deviceID) ⟨s, .start, []⟩

/-- The export has ended, and there is an order of all calls in which, run one after the other, they
return what they returned and leave the queue as it is. -/
def Atomic (deviceID : Str) (s : OfflineStore) (r : ExportRun) : Prop :=
  ∃ (now : ℤ) (clock : List ℤ) (out : List OfflineMessage) (before after : List (ℤ × OfflineOp)),
    r.phase = .queueing now clock out [] ∧
      let s₁ := before.foldl OfflineStore.apply s
      let exported := s₁.exportAt deviceID now fun i => clock.getD i 0
      (s.record before ++ exported.2.record after).Perm r.calls ∧
      exported.1 = out.map OfflineMessage.migrated ∧
      (after.foldl OfflineStore.apply exported.2).queue deviceID = r.store.queue deviceID

variable {deviceID : Str} {r : ExportRun}

lemma foldl_calls (ops : List (ℤ × OfflineOp)) :
    (ops.map ExportEvent.call).foldl (step deviceID) r =
      { r with
        store := ops.foldl OfflineStore.apply r.store
        calls := r.calls ++ r.store.record ops } := by
  induction ops generalizing r with
  | nil => simp [OfflineStore.record, trace]
  | cons x ops ih =>
    rw [List.map_cons, List.foldl_cons, ih, OfflineStore.record_cons]
    simp [step]

/-- The export queues all messages again when nobody interrupts it. -/
lemma foldl_advance {s : OfflineStore} {now : ℤ} {clock instants : List ℤ}
    {out pending : List OfflineMessage} {calls : List OfflineCall}
    (h : instants.length = pending.length) :
    (instants.map ExportEvent.advance).foldl (step deviceID)
        ⟨s, .queueing now clock out pending, calls⟩ =
      ⟨s.enqueueEach deviceID (fun i => instants.getD i 0) pending,
        .queueing now (clock ++ instants) out [], calls⟩ := by
  induction pending generalizing s clock instants with
  | nil =>
    obtain rfl := List.length_eq_zero_iff.1 h
    rw [List.append_nil]
    rfl
  | cons m pending ih =>
    obtain ⟨t, instants, rfl⟩ := List.exists_cons_of_length_eq_add_one h
    rw [List.map_cons, List.foldl_cons, OfflineStore.enqueueEach, OfflineOp.enqueues_cons,
      List.append_cons clock t instants]
    exact ih (Nat.succ_injective h)

/-- A run in which nobody calls between `Dequeue` and the last `Enqueue`. -/
lemma foldl_uninterrupted {s s₀ s₁ s₂ : OfflineStore} {pre mid : List (ℤ × OfflineOp)}
    (hs₀ : s₀ = pre.foldl OfflineStore.apply s) (hs₁ : s₁ = mid.foldl OfflineStore.apply s₀)
    {t now : ℤ} {instants : List ℤ} {out : List OfflineMessage}
    (hout : s₁.dequeue deviceID (s₀.queue deviceID).length now = (out, s₂))
    (hinstants : instants.length = out.length) :
    run deviceID s (pre.map ExportEvent.call ++ .advance t :: mid.map ExportEvent.call ++
        .advance now :: instants.map ExportEvent.advance) =
      ⟨s₂.enqueueEach deviceID (fun i => instants.getD i 0) out, .queueing now instants out [],
        s.record (pre ++ mid)⟩ := by
  have hfirst : (pre.map ExportEvent.call).foldl (step deviceID) ⟨s, .start, []⟩ =
      ⟨s₀, .start, s.record pre⟩ := by
    rw [foldl_calls, hs₀, List.nil_append]
  have hcounted : (mid.map ExportEvent.call).foldl (step deviceID)
      ⟨s₀, .counted (s₀.queue deviceID).length, s.record pre⟩ =
        ⟨s₁, .counted (s₀.queue deviceID).length, s.record (pre ++ mid)⟩ := by
    rw [foldl_calls, OfflineStore.record_append, hs₁, hs₀]
  have hcount : step deviceID ⟨s₀, .start, s.record pre⟩ (.advance t) =
      ⟨s₀, .counted (s₀.queue deviceID).length, s.record pre⟩ := rfl
  have hdequeue : step deviceID ⟨s₁, .counted (s₀.queue deviceID).length, s.record (pre ++ mid)⟩
      (.advance now) = ⟨s₂, .queueing now [] out out, s.record (pre ++ mid)⟩ := by
    rw [step]
    dsimp only
    rw [hout]
  rw [run, List.foldl_append, List.foldl_append, List.foldl_cons, List.foldl_cons, hfirst, hcount,
    hcounted, hdequeue, foldl_advance hinstants, List.nil_append]

end ExportRun

/-- An export that nobody interrupts from `Dequeue` on is atomic, if `Count` did not count too few
messages.  If, moreover, the queue is within its limit and no message expires meanwhile, then all
its messages are returned, and are in the queue again. -/
theorem export_atomic (s : OfflineStore) (deviceID : Str) (pre mid post : List (ℤ × OfflineOp))
    (t now : ℤ) (instants : List ℤ) {s₀ s₁ : OfflineStore}
    (hs₀ : s₀ = pre.foldl OfflineStore.apply s) (hs₁ : s₁ = mid.foldl OfflineStore.apply s₀)
    (hcount : (s₁.valid deviceID now).length ≤ (s₀.queue deviceID).length)
    (hinstants : instants.length = (s₁.valid deviceID now).length) :
    let events := pre.map ExportEvent.call ++ .advance t :: mid.map ExportEvent.call ++
      .advance now :: instants.map ExportEvent.advance
    (ExportRun.run deviceID s (events ++ post.map ExportEvent.call)).Atomic deviceID s ∧
      ((∀ m ∈ s₁.queue deviceID, s₁.Stamped m) →
        ((s₁.queue deviceID).length : ℤ) ≤ s₁.maxPerClient →
        ∀ horizon, (∀ t ∈ now :: instants, t ≤ horizon) →
          (∀ m ∈ s₁.queue deviceID, m.live horizon) →
          ((ExportRun.run deviceID s events).store.queue deviceID).Perm (s₁.queue deviceID)) := by
  intro events
  have hall := OfflineStore.dequeue_of_length_le hcount
  have hout : s₁.dequeue deviceID (s₀.queue deviceID).length now =
      s₁.dequeue deviceID (s₁.queue deviceID).length now :=
    hall.trans (OfflineStore.dequeue_of_length_le (s₁.length_valid_le deviceID now)).symm
  have hlen : instants.length =
      (s₁.dequeue deviceID (s₁.queue deviceID).length now).1.length := by
    rw [OfflineStore.dequeue_all, hinstants]
  have hrun : ExportRun.run deviceID s events =
      ⟨(s₁.exportAt deviceID now fun i => instants.getD i 0).2,
      .queueing now instants (s₁.dequeue deviceID (s₁.queue deviceID).length now).1 [],
      s.record (pre ++ mid)⟩ := ExportRun.foldl_uninterrupted hs₀ hs₁ hout hlen
  have hs : (pre ++ mid).foldl OfflineStore.apply s = s₁ := by
    rw [List.foldl_append, ← hs₀, ← hs₁]
  constructor
  · rw [ExportRun.run, List.foldl_append, ← ExportRun.run, hrun, ExportRun.foldl_calls]
    refine ⟨now, instants, _, pre ++ mid, post, rfl, ?_⟩
    rw [hs]
    exact ⟨List.Perm.refl _, rfl, rfl⟩
  · intro hstamped hroom horizon hhorizon hlive
    rw [hrun]
    rw [OfflineStore.queue_exportAt hstamped hlive (hhorizon now List.mem_cons_self) ?_ hroom]
    · exact OfflineStore.perm_valid hlive
    · intro i hi
      have hi' : i < instants.length := by
        rw [hinstants, OfflineStore.valid_eq_valid hlive (hhorizon now List.mem_cons_self),
          (OfflineStore.perm_valid hlive).length_eq]
        exact hi
      rw [List.getD_eq_getElem _ _ hi']
      exact hhorizon _ (List.mem_cons_of_mem _ (List.getElem_mem hi'))

/-- A store with one message for a client, and with room for `maxPerClient`. -/
def oneQueued (maxPerClient : ℤ) : OfflineStore where
  queues := (∅ : GoMap Str (List OfflineMessage)).insert (str "d")
    [⟨str "a", [], 1, 0, some 0, none⟩]
  maxPerClient := maxPerClient
  defaultTTL := 0
  tierConfig := none

/-- A message is queued before `Count`, and one is taken off after the last `Enqueue`. -/
theorem export_atomic_between :
    let s := oneQueued 2
    let enqueue : ℤ × OfflineOp := (1, .enqueue (str "d") ⟨str "b", [], 1, 0, none, none⟩)
    let dequeue : ℤ × OfflineOp := (6, .dequeue (str "d") 1)
    let run := ExportRun.run (str "d") s
      [.call enqueue, .advance 2, .advance 3, .advance 4, .advance 5, .call dequeue]
    run.calls.map Prod.snd =
        [.enqueued (.ok ()), .dequeued [⟨str "a", [], 1, 0, some 0, none⟩]] ∧
      run.Atomic (str "d") s :=
  ⟨by decide, (export_atomic (oneQueued 2) (str "d")
    [(1, .enqueue (str "d") ⟨str "b", [], 1, 0, none, none⟩)] [] [(6, .dequeue (str "d") 1)] 2 3
    [4, 5] rfl rfl (by decide) (by decide)).1⟩

namespace OfflineStore

variable {s : OfflineStore}

lemma record_eq_nil_iff {ops : List (ℤ × OfflineOp)} : s.record ops = [] ↔ ops = [] := by
  cases ops with
  | nil => exact iff_of_true rfl rfl
  | cons x ops => simp [record_cons]

lemma record_eq_singleton_iff {ops : List (ℤ × OfflineOp)} {c : OfflineCall} :
    s.record ops = [c] ↔ ops = [c.1] ∧ s.result c.1 = c.2 := by
  cases ops with
  | nil => simp [record, trace]
  | cons x ops =>
    rw [record_cons, List.cons.injEq, record_eq_nil_iff, List.cons.injEq]
    constructor
    · rintro ⟨rfl, hnil⟩
      exact ⟨⟨rfl, hnil⟩, rfl⟩
    · rintro ⟨⟨rfl, hnil⟩, hresult⟩
      exact ⟨Prod.ext rfl hresult, hnil⟩

end OfflineStore

/-- With one call by somebody else there are two orders. -/
lemma ExportRun.atomic_one_iff {deviceID : Str} {s store : OfflineStore} {now : ℤ} {clock : List ℤ}
    {out : List OfflineMessage} {c : OfflineCall} :
    ExportRun.Atomic deviceID s ⟨store, .queueing now clock out [], [c]⟩ ↔
      (let exported := s.exportAt deviceID now fun i => clock.getD i 0
       exported.2.result c.1 = c.2 ∧ exported.1 = out.map OfflineMessage.migrated ∧
         (exported.2.apply c.1).queue deviceID = store.queue deviceID) ∨
      (let exported := (s.apply c.1).exportAt deviceID now fun i => clock.getD i 0
       s.result c.1 = c.2 ∧ exported.1 = out.map OfflineMessage.migrated ∧
         exported.2.queue deviceID = store.queue deviceID) := by
  constructor
  · rintro ⟨now', clock', out', before, after, hphase, hperm, hout, hqueue⟩
    cases hphase
    rcases List.append_eq_singleton_iff.1 (List.perm_singleton.1 hperm) with
      ⟨hbefore, hafter⟩ | ⟨hbefore, hafter⟩
    · obtain rfl := OfflineStore.record_eq_nil_iff.1 hbefore
      obtain ⟨rfl, hresult⟩ := OfflineStore.record_eq_singleton_iff.1 hafter
      exact Or.inl ⟨hresult, hout, hqueue⟩
    · obtain rfl := OfflineStore.record_eq_nil_iff.1 hafter
      obtain ⟨rfl, hresult⟩ := OfflineStore.record_eq_singleton_iff.1 hbefore
      exact Or.inr ⟨hresult, hout, hqueue⟩
  · rintro (⟨hresult, hout, hqueue⟩ | ⟨hresult, hout, hqueue⟩)
    · refine ⟨now, clock, out, [], [c.1], rfl, ?_, hout, hqueue⟩
      exact List.Perm.of_eq (OfflineStore.record_eq_singleton_iff.2 ⟨rfl, hresult⟩)
    · refine ⟨now, clock, out, [c.1], [], rfl, ?_, hout, hqueue⟩
      have hrecord := OfflineStore.record_eq_singleton_iff.2 ⟨rfl, hresult⟩
      exact List.Perm.of_eq ((List.append_nil _).trans hrecord)

/-- A message that is queued between `Dequeue` and `Enqueue` takes the place of the one that is
exported; and a message that is removed there comes back. -/
theorem export_interrupted :
    (let run := ExportRun.run (str "d") (oneQueued 1) [.advance 1, .advance 2,
       .call (3, .enqueue (str "d") ⟨str "b", [], 1, 0, none, none⟩), .advance 4]
     run.store.queue (str "d") = [⟨str "b", [], 1, 0, some 3, none⟩] ∧
       ¬ run.Atomic (str "d") (oneQueued 1)) ∧
    (let run := ExportRun.run (str "d") (oneQueued 1) [.advance 1, .advance 2,
       .call (3, .removeAll (str "d")), .advance 4]
     run.store.queue (str "d") = [⟨str "a", [], 1, 0, some 0, none⟩] ∧
       ¬ run.Atomic (str "d") (oneQueued 1)) := by
  refine ⟨⟨by decide, fun h => ?_⟩, by decide, fun h => ?_⟩
  · exact absurd (ExportRun.atomic_one_iff.1 h) (by decide)
  · exact absurd (ExportRun.atomic_one_iff.1 h) (by decide)

end Dmqtt.Broker
