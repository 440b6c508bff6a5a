/-
How many migrations run at a time (`MigrationCoordinator` of `migration.go`, `TriggerMigration` and
`autoRebalanceAfterRingChange` of `cluster.go`).

Before a migration is started, `CanStartMore` compares the number of running migrations with
`maxParallel`.  A migration that is started is not running until its goroutine calls
`AdvancePhase`, and until then it does not count.  `running_le_maxParallel` says when the bound
holds all the same.
-/
import Dmqtt.Cluster.Executor
import Dmqtt.Lib.Counting

namespace Dmqtt.Cluster

open Lib Codec

/-- The migrations that are known, by ID; they are numbered in the order in which they are made. -/
structure MigrationCoordinator where
  migrations : GoMap Str ℕ
  maxParallel : ℤ

namespace MigrationCoordinator

variable (mc : MigrationCoordinator) (all : List ShardMigration)

/-- A coordinator without migrations. -/
def new (maxParallel : ℤ) : MigrationCoordinator :=
  ⟨∅, if maxParallel ≤ 0 then 3 else maxParallel⟩

/-- Add a migration, in place of the one with the same ID. -/
def submit (id : Str) (k : ℕ) : MigrationCoordinator :=
  { mc with migrations := mc.migrations.insert id k }

/-- The number of migrations that are running. -/
def activeCount : ℕ :=
  mc.migrations.entries.countP fun e => all[e.2]?.any fun m => m.status = .running

/-- One more migration may be started. -/
def canStartMore : Bool := (mc.activeCount all : ℤ) < mc.maxParallel

end MigrationCoordinator

/-- `DefaultMigrationConfig`. -/
def defaultMigrationConfig : MigrationConfig := ⟨1000, 3⟩

/-- Where a start of a migration stands: before `CanStartMore`, before `Submit`, or before the
goroutine. -/
inductive StartStage
  | checking
  | passed
  | submitted (k : ℕ)
deriving DecidableEq

/-- Someone who starts migrations: the nodes and devices that are to come.  `TriggerMigration`
starts one, `autoRebalanceAfterRingChange` one for each node. -/
structure Starter where
  kind : Str
  todo : List (Str × List Str)
  stage : StartStage := .checking

/-- A call of `TriggerMigration`. -/
def triggerMigration (toNode : Str) (deviceIDs : List Str) : Starter :=
  { kind := str "mig", todo := [(toNode, deviceIDs)] }

/-- The loop of `autoRebalanceAfterRingChange`. -/
def autoRebalance (myDiff : List (Str × List Str)) : Starter :=
  { kind := str "auto", todo := myDiff }

/-- A node that starts migrations: those that start them, all migrations that were made, and those
whose goroutine was started. -/
structure Coordinating where
  selfID : Str
  migrationConfig : MigrationConfig
  coordinator : MigrationCoordinator
  starters : List Starter
  migrations : List ShardMigration
  started : List ℕ

/-- What happens: someone calls `CanStartMore`, `Submit` at a time in milliseconds, or starts the
goroutine; `Execute` goes on to the next phase, or comes to its end with some devices that
failed; or a migration is cancelled. -/
inductive CoordinatingOp
  | check (i : ℕ)
  | submit (i : ℕ) (unixMilli : ℤ)
  | spawn (i : ℕ)
  | advancePhase (k : ℕ)
  | conclude (k : ℕ) (failed : ℕ)
  | cancel (id : Str)

namespace Coordinating

variable (s : Coordinating)

/-- Nothing has been started. -/
def init (selfID : Str) (cfg : MigrationConfig) (maxParallel : ℤ) (starters : List Starter) :
    Coordinating where
  selfID := selfID
  migrationConfig := cfg
  coordinator := .new maxParallel
  starters := starters.map fun c => { c with stage := .checking }
  migrations := []
  started := []

/-- The migration that is made for a node. -/
def make (kind toNode : Str) (deviceIDs : List Str) (unixMilli : ℤ) : ShardMigration :=
  let cfg := if s.migrationConfig.batchSize = 0 then defaultMigrationConfig else s.migrationConfig
  .new (kind ++ str "-" ++ s.selfID ++ str "-" ++ toNode ++ str "-" ++ str (toString unixMilli))
    s.selfID toNode deviceIDs cfg

/-- Change a migration. -/
def modify (k : ℕ) (f : ShardMigration → ShardMigration) : Coordinating :=
  { s with migrations := s.migrations.modify k f }

/-- The node after an operation. -/
def step : CoordinatingOp → Coordinating
  | .check i =>
    match s.starters[i]? with
    | some ⟨kind, job :: rest, .checking⟩ =>
      if s.coordinator.canStartMore s.migrations then
        { s with starters := s.starters.set i ⟨kind, job :: rest, .passed⟩ }
      -- `TriggerMigration` returns an error, the loop goes on to the next node
      else { s with starters := s.starters.set i ⟨kind, rest, .checking⟩ }
    | _ => s
  | .submit i unixMilli =>
    match s.starters[i]? with
    | some ⟨kind, (toNode, deviceIDs) :: rest, .passed⟩ =>
      let m := s.make kind toNode deviceIDs unixMilli
      let k := s.migrations.length
      { s with
        migrations := s.migrations ++ [m]
        coordinator := s.coordinator.submit m.id k
        starters := s.starters.set i ⟨kind, rest, .submitted k⟩ }
    | _ => s
  | .spawn i =>
    match s.starters[i]? with
    | some ⟨kind, rest, .submitted k⟩ =>
      { s with started := k :: s.started, starters := s.starters.set i ⟨kind, rest, .checking⟩ }
    | _ => s
  | .advancePhase k => if k ∈ s.started then s.modify k ShardMigration.advancePhase else s
  | .conclude k failed =>
    if k ∈ s.started ∧ s.migrations[k]?.any fun m => m.phase = .cleanup then
      s.modify k fun m =>
        if failed > 0 then m.markFailed (str (toString failed) ++ str " devices failed to migrate")
        else m.markCompleted
    else s
  | .cancel id =>
    match s.coordinator.migrations.lookup id with
    | none => s
    | some k => s.modify k ShardMigration.cancel

/-- How many migrations are running. -/
def running : ℕ := s.migrations.countP fun m => m.status = .running

/-- How many migrations are running or will be, unless they are cancelled before. -/
def load : ℕ :=
  s.starters.countP (fun c => c.stage = .passed) +
    s.migrations.countP fun m => m.status = .pending ∨ m.status = .running

/-- The condition on an operation: a check that is passed takes into account what was let through
before. -/
def Meets : CoordinatingOp → Prop
  | .check _ => s.coordinator.canStartMore s.migrations → (s.load : ℤ) < s.coordinator.maxParallel
  | _ => True

instance : (o : CoordinatingOp) → Decidable (s.Meets o)
  | .check _ => inferInstanceAs (Decidable (_ → _))
  | .submit _ _ | .spawn _ | .advancePhase _ | .conclude _ _ | .cancel _ => isTrue trivial

/-! ### What an operation does to the load -/

variable {s}

lemma load_modify_le (k : ℕ) {f : ShardMigration → ShardMigration}
    (h : ∀ m, (f m).status = .pending ∨ (f m).status = .running →
      m.status = .pending ∨ m.status = .running) : (s.modify k f).load ≤ s.load := by
  refine Nat.add_le_add_left (countP_modify_le (fun m hm => ?_) _ _) _
  exact decide_eq_true (h m (of_decide_eq_true hm))

/-- Someone who starts migrations goes on. -/
lemma countP_passed_set {i : ℕ} {kind : Str} {todo : List (Str × List Str)} {stage : StartStage}
    (h : s.starters[i]? = some ⟨kind, todo, stage⟩) (todo' : List (Str × List Str))
    (stage' : StartStage) :
    (s.starters.set i ⟨kind, todo', stage'⟩).countP (fun c => c.stage = .passed) +
        (if stage = .passed then 1 else 0) =
      s.starters.countP (fun c => c.stage = .passed) + (if stage' = .passed then 1 else 0) := by
  have hset := countP_set_add (fun c : Starter => c.stage = .passed) h ⟨kind, todo', stage'⟩
  simpa only [decide_eq_true_eq] using hset

/-- The load grows only with a check that is passed. -/
lemma load_step_le (s : Coordinating) (o : CoordinatingOp) :
    (s.step o).load ≤ s.load + match o with
      | .check _ => if s.coordinator.canStartMore s.migrations then 1 else 0
      | _ => 0 := by
  cases o with
  | check i =>
    rw [step]
    split
    next kind job rest hi =>
      split_ifs
      · have hset := countP_passed_set hi (job :: rest) .passed
        simp only [reduceCtorEq, if_false, if_true] at hset
        dsimp only [load]
        omega
      · have hset := countP_passed_set hi rest .checking
        simp only [reduceCtorEq, if_false] at hset
        dsimp only [load]
        omega
    next => exact Nat.le_add_right _ _
  | submit i unixMilli =>
    rw [step]
    split
    next kind toNode deviceIDs rest hi =>
      have hset := countP_passed_set hi rest (.submitted s.migrations.length)
      simp only [reduceCtorEq, if_false, if_true] at hset
      dsimp only [load]
      rw [List.countP_append, List.countP_singleton]
      simp only [make, ShardMigration.new, true_or, decide_true, if_true]
      omega
    next => exact le_rfl
  | spawn i =>
    rw [step]
    split
    next kind rest k hi =>
      have hset := countP_passed_set hi rest .checking
      simp only [reduceCtorEq, if_false] at hset
      dsimp only [load]
      omega
    next => exact le_rfl
  | advancePhase k =>
    rw [step]
    split
    · refine load_modify_le k fun m hm => ?_
      by_cases hpending : m.status = .pending
      · exact .inl hpending
      · rwa [ShardMigration.advancePhase, if_neg hpending] at hm
    · exact le_rfl
  | conclude k failed =>
    rw [step]
    split
    · refine load_modify_le k fun m hm => ?_
      split_ifs at hm <;> rcases hm with hm | hm <;> cases hm
    · exact le_rfl
  | cancel id =>
    rw [step]
    split
    · exact le_rfl
    · exact load_modify_le _ fun m hm => by rcases hm with hm | hm <;> cases hm

lemma maxParallel_step (s : Coordinating) (o : CoordinatingOp) :
    (s.step o).coordinator.maxParallel = s.coordinator.maxParallel := by
  cases o with
  | check i =>
    rw [step]
    split
    · split_ifs <;> rfl
    · rfl
  | submit i unixMilli | spawn i =>
    rw [step]
    split <;> rfl
  | advancePhase k =>
    rw [step]
    split_ifs <;> rfl
  | conclude k failed | cancel id =>
    rw [step]
    split <;> rfl

lemma load_step (hs : (s.load : ℤ) ≤ s.coordinator.maxParallel) {o : CoordinatingOp}
    (h : s.Meets o) : ((s.step o).load : ℤ) ≤ (s.step o).coordinator.maxParallel := by
  have hle := load_step_le s o
  rw [maxParallel_step]
  cases o with
  | check i =>
    rw [Meets] at h
    dsimp only at hle
    split_ifs at hle with hpass
    · have hlt := h hpass
      omega
    · omega
  | _ => exact le_trans (by exact_mod_cast hle) hs

lemma running_le_load (s : Coordinating) : s.running ≤ s.load := by
  refine le_trans ?_ (Nat.le_add_left _ _)
  refine List.countP_mono_left fun m _ hm => ?_
  exact decide_eq_true (.inr (of_decide_eq_true hm))

lemma load_init (selfID : Str) (cfg : MigrationConfig) (maxParallel : ℤ)
    (starters : List Starter) :
    ((init selfID cfg maxParallel starters).load : ℤ) ≤
      (init selfID cfg maxParallel starters).coordinator.maxParallel := by
  have hzero : (init selfID cfg maxParallel starters).load = 0 := by
    simp [load, init]
  rw [hzero]
  dsimp only [init, MigrationCoordinator.new]
  split_ifs with h
  · decide
  · omega

/-- **When no more than `maxParallel` migrations run.**  In every run in which each check that is
passed is passed while the running migrations, together with those that were let through and are
not running yet, are fewer than `maxParallel`, there are never more than `maxParallel` migrations
running. -/
theorem running_le_maxParallel (selfID : Str) (cfg : MigrationConfig) (maxParallel : ℤ)
    (starters : List Starter) (os : List CoordinatingOp)
    (h : ∀ x ∈ trace step (init selfID cfg maxParallel starters) os, x.1.Meets x.2) :
    let s := os.foldl step (init selfID cfg maxParallel starters)
    (s.running : ℤ) ≤ s.coordinator.maxParallel := by
  have hload := foldl_invariant (fun s => (s.load : ℤ) ≤ s.coordinator.maxParallel) Meets
    (fun _ _ hs ho => load_step hs ho) (load_init selfID cfg maxParallel starters) h
  exact le_trans (by exact_mod_cast running_le_load _) hload

/-- Four migrations are triggered. -/
def fourStarters : List Starter :=
  [triggerMigration (str "B") [str "d"], triggerMigration (str "C") [str "e"],
    autoRebalance [(str "D", [str "f"]), (str "E", [str "g"])]]

/-- A migration is started and its goroutine goes on to the first phase. -/
def startAt (i k : ℕ) : List CoordinatingOp := [.check i, .submit i 0, .spawn i, .advancePhase k]

/-- One after the other, three are started and the fourth is skipped. -/
theorem running_le_maxParallel_four :
    let s := (startAt 0 0 ++ startAt 1 1 ++ startAt 2 2 ++ startAt 2 3).foldl step
      (init (str "A") defaultMigrationConfig 3 fourStarters)
    (s.running : ℤ) ≤ s.coordinator.maxParallel :=
  running_le_maxParallel _ _ _ _ _ (by decide +kernel)

/-- All are started before the first goroutine gets to run: four migrations are running where
three are allowed. -/
theorem running_exceeds :
    let s := ([.check 0, .check 1, .check 2, .submit 0 0, .submit 1 0, .submit 2 0, .spawn 0,
      .spawn 1, .spawn 2, .check 2, .submit 2 0, .spawn 2, .advancePhase 0, .advancePhase 1,
      .advancePhase 2, .advancePhase 3] : List CoordinatingOp).foldl step
        (init (str "A") defaultMigrationConfig 3 fourStarters)
    s.running = 4 ∧ s.coordinator.maxParallel = 3 := by
  decide +kernel

end Coordinating

end Dmqtt.Cluster
