/-
The runs of a migration and the executions of `Execute`.

In `Dmqtt/Cluster/Executor.lean` the steps of `Execute` interleave with those of the network and
of the target, in `Dmqtt/Cluster/Accounting.lean` it runs by itself and is told the outcomes of its
calls.  `resume` is what is left of an execution at each stage of the machine; a step of the machine
is a step of it, with the outcome that the step has shown, and so a run that returns is an
execution (`exists_resume_of_run`).  What holds of executions then holds of runs: the devices are
accounted for in every run (`returned_accounts`).
-/
import Dmqtt.Cluster.Accounting

namespace Dmqtt.Cluster

open Lib Codec Broker

namespace Executing

variable {β : Type} (api : MigrationBrokerAPI β)

/-! ### What is left at a stage -/

/-- What is left behind the batches. -/
def afterBatches (x : Executing β) : Option Str × Executing β :=
  (x.advancePhase.redirectDevices x.migration.affectedDevices).advancePhase.conclude

/-- What is left in front of a batch, with the devices that are to come. -/
def resumeBatches (rest : List Str) (x : Executing β) : Option Str × Executing β :=
  afterBatches (batchesLoop api rest x.migration.batchSize (batchSize_pos x.migration) 0 x)

/-- What is left within a batch. -/
def resumeBatch (b : Batch) (x : Executing β) : Option Str × Executing β :=
  let out := batchLoop api b.todo b.migrated b.failed x
  resumeBatches api b.later (out.2.record out.1)

/-- What is left once the data of a device were sent. -/
def resumeCleanup (b : Batch) (deviceID : Str) (x : Executing β) : Option Str × Executing β :=
  resumeBatch api { b with migrated := b.migrated + 1 } (x.deleteDevice api deviceID)

/-- What is left behind the attempts for a device. -/
def afterSend (b : Batch) (deviceID : Str) :
    Option Str × Executing β → Option Str × Executing β
  | (some _, x) => resumeBatch api { b with failed := b.failed + 1 } x
  | (none, x) => resumeCleanup api b deviceID x

/-- What is left of an execution at a stage. -/
def resume (x : Executing β) : ExecStage → Option Str × Executing β
  | .prepare => execute api x
  | .marking rest =>
    let x := (x.markDevices rest).advancePhase.advancePhase
    resumeBatches api x.migration.affectedDevices x
  | .handshake =>
    let x := x.advancePhase.advancePhase
    resumeBatches api x.migration.affectedDevices x
  | .migrate =>
    let x := x.advancePhase
    resumeBatches api x.migration.affectedDevices x
  | .batches rest => resumeBatches api rest x
  | .device b => resumeBatch api b x
  | .sending b msg retry | .waiting b msg retry _ =>
    afterSend api b msg.deviceID
      (sendLoop msg ((x.migration.config.maxRetries - retry).toNat + 1) none x)
  | .cleanup b msg => resumeCleanup api b msg.deviceID x
  | .redirect => afterBatches x
  | .clearing rest => (x.redirectDevices rest).advancePhase.conclude
  | .finishing => x.advancePhase.conclude
  | .concluding => x.conclude
  | .returned err => (err, x)

/-! ### The loops -/

lemma migration_sendLoop (msg : MigrateDataMessage) (n : ℕ) (err : Option Str) (x : Executing β) :
    (sendLoop msg n err x).2.migration = x.migration := by
  obtain ⟨tries, hx, -⟩ := sendLoop_spec msg n err x
  rw [hx]

lemma batchLoop_cons (deviceID : Str) (b : Batch) (x : Executing β) :
    resumeBatch api { b with todo := deviceID :: b.todo } x =
      afterSend api b deviceID
        (sendLoop (x.gather api deviceID).1 x.attempts none (x.gather api deviceID).2) := by
  have hattempts : (x.gather api deviceID).2.attempts = x.attempts := rfl
  simp only [resumeBatch, batchLoop, hattempts]
  rcases sendLoop (x.gather api deviceID).1 x.attempts none (x.gather api deviceID).2
    with ⟨_ | err, x'⟩ <;> rfl

lemma migration_batchLoop (batch : List Str) (migrated failed : ℕ) (x : Executing β) :
    (batchLoop api batch migrated failed x).2.migration = x.migration := by
  induction batch generalizing migrated failed x with
  | nil => rfl
  | cons deviceID batch ih =>
    have hsent := migration_sendLoop (x.gather api deviceID).1
      (x.gather api deviceID).2.attempts none (x.gather api deviceID).2
    simp only [batchLoop]
    rcases hs : sendLoop (x.gather api deviceID).1 (x.gather api deviceID).2.attempts none
      (x.gather api deviceID).2 with ⟨_ | err, x'⟩ <;> rw [hs] at hsent
    · exact (ih _ _ _).trans hsent
    · exact (ih _ _ _).trans hsent

lemma batchesLoop_of_lt {devices : List Str} {batchSize i : ℕ} {hsize : 0 < batchSize}
    (h : i < devices.length) (x : Executing β) :
    let out := batchLoop api ((devices.drop i).take batchSize) 0 0 x
    batchesLoop api devices batchSize hsize i x =
      batchesLoop api devices batchSize hsize (i + batchSize) (out.2.record out.1) := by
  intro out
  rw [batchesLoop, if_pos h]
  simp only [take_drop_batch]
  rfl

lemma batchesLoop_of_le {devices : List Str} {batchSize i : ℕ} {hsize : 0 < batchSize}
    (h : devices.length ≤ i) (x : Executing β) :
    batchesLoop api devices batchSize hsize i x = x := by
  rw [batchesLoop, if_neg (not_lt.2 h)]

/-- The batches from a device on are those of the rest of the list. -/
lemma batchesLoop_add (devices : List Str) (i : ℕ) {batchSize : ℕ} (hsize : 0 < batchSize) (j : ℕ)
    (x : Executing β) :
    batchesLoop api devices batchSize hsize (i + j) x =
      batchesLoop api (devices.drop i) batchSize hsize j x := by
  induction h : devices.length - (i + j) using Nat.strong_induction_on generalizing j x with
  | _ k ih =>
    by_cases hlt : i + j < devices.length
    · have hlt' : j < (devices.drop i).length := by
        rw [List.length_drop]
        omega
      refine (batchesLoop_of_lt api hlt x).trans ?_
      refine Eq.trans ?_ (batchesLoop_of_lt api hlt' x).symm
      simp only [List.drop_drop, Nat.add_assoc]
      exact ih _ (by omega) _ _ rfl
    · rw [batchesLoop_of_le api (by omega), batchesLoop_of_le api]
      rw [List.length_drop]
      omega

/-- What is left in front of a batch is its devices, and the batches behind it. -/
lemma resumeBatches_cons (d : Str) (rest : List Str) (x : Executing β) :
    resumeBatches api (d :: rest) x =
      resumeBatch api ⟨(d :: rest).take x.migration.batchSize,
        (d :: rest).drop x.migration.batchSize, 0, 0⟩ x := by
  have hmigration := migration_batchLoop api ((d :: rest).take x.migration.batchSize) 0 0 x
  have hsplit := batchesLoop_add api (d :: rest) x.migration.batchSize (batchSize_pos x.migration) 0
  rw [Nat.add_zero] at hsplit
  rw [resumeBatches, batchesLoop_of_lt api (by simp), List.drop_zero, Nat.zero_add, hsplit,
    resumeBatch, resumeBatches]
  generalize batchLoop api ((d :: rest).take x.migration.batchSize) 0 0 x = out at hmigration ⊢
  have hsame : (out.2.record out.1).migration.batchSize = x.migration.batchSize := by
    rw [← hmigration]
    rfl
  simp only [hsame]

end Executing

/-! ### Runs -/

namespace Migrating

open Executing

variable {β : Type} {source target : ClusterNode β} {api : MigrationBrokerAPI β}

/-- What `Execute` works on, in a state of the machine. -/
def executing (s : Migrating β) (env : ExecEnv) (calls : List ExecCall) : Executing β :=
  ⟨s.migration, s.connIdx, s.source, env, calls⟩

/-- A step of the machine is a step of the execution: what is left before it is what is left after
it, with the outcome that it shows. -/
def Continues (api : MigrationBrokerAPI β) (s s' : Migrating β) : Prop :=
  ∀ env', ∃ env, ∀ calls, ∃ calls',
    resume api (s.executing env calls) s.stage = resume api (s'.executing env' calls') s'.stage

lemma Continues.of_eq {s s' : Migrating β}
    (h : ∀ env calls, resume api (s.executing env calls) s.stage =
      resume api (s'.executing env calls) s'.stage) : Continues api s s' :=
  fun env => ⟨env, fun calls => ⟨calls, h env calls⟩⟩

lemma continues_gather {s : Migrating β} {deviceID : Str} {b : Batch} (now : ℤ)
    (h : s.stage = .device { b with todo := deviceID :: b.todo }) :
    Continues api s (s.gather api deviceID b now) := by
  intro env'
  let env : ExecEnv := { env' with now := fun n => n.casesOn now env'.now }
  refine ⟨env, fun calls => ⟨((s.executing env calls).gather api deviceID).2.calls, ?_⟩⟩
  rw [h]
  refine (batchLoop_cons api deviceID b _).trans ?_
  have hattempts : (s.executing env calls).attempts = (s.migration.config.maxRetries + 1).toNat :=
    rfl
  rw [hattempts, gather]
  split_ifs with hretries
  · have hn : (s.migration.config.maxRetries + 1).toNat =
        (s.migration.config.maxRetries - (0 : ℕ)).toNat + 1 := by omega
    rw [hn]
    rfl
  · rw [show (s.migration.config.maxRetries + 1).toNat = 0 by omega]
    rfl

lemma continues_exec (s : Migrating β) (now : ℤ) : Continues api s (s.exec api now) := by
  rw [exec]
  cases h : s.stage with
  | prepare | handshake | migrate | redirect | finishing =>
    exact .of_eq fun _ _ => by rw [h]; rfl
  | marking rest | clearing rest => cases rest <;> exact .of_eq fun _ _ => by rw [h]; rfl
  | batches rest =>
    refine .of_eq fun env calls => ?_
    rw [h]
    cases rest with
    | nil => exact congrArg afterBatches (batchesLoop_of_le api (Nat.zero_le _) _)
    | cons d rest => exact resumeBatches_cons api d rest _
  | device b =>
    obtain ⟨todo, later, migrated, failed⟩ := b
    cases todo with
    | nil => exact .of_eq fun _ _ => by rw [h]; rfl
    | cons d todo => exact continues_gather now h
  | cleanup b msg =>
    refine fun env => ⟨env, fun calls =>
      ⟨((s.executing env calls).deleteDevice api msg.deviceID).calls, ?_⟩⟩
    rw [h]
    rfl
  | concluding =>
    refine .of_eq fun env calls => ?_
    by_cases hfailed : s.migration.progress.failed > 0 <;>
      simp only [h, Migrating.conclude, resume, Executing.conclude, executing, hfailed, if_true,
        if_false]
  | _ => exact .of_eq fun _ _ => rfl

/-- An outcome of `SendMigrate` is shown. -/
def withOutcome (err : Option Str) (env : ExecEnv) : ExecEnv :=
  { env with sendErr := fun n => n.casesOn err env.sendErr }

/-- A call of `SendMigrate` fails. -/
lemma continues_failAttempt {s s' : Migrating β} {b : Batch} {msg : MigrateDataMessage}
    {retry : ℕ} (h : ∀ env calls, resume api (s.executing env calls) s.stage =
      afterSend api b msg.deviceID (sendLoop msg
        ((s.migration.config.maxRetries - retry).toNat + 1) none (s.executing env calls)))
    (hs' : ∀ env calls, s'.executing env calls = s.executing env calls)
    (hstage : s'.stage = s.failAttempt b msg retry) : Continues api s s' := by
  refine fun env => ⟨withOutcome (some []) env, fun calls =>
    ⟨((s.executing (withOutcome (some []) env) calls).sendMigrate msg).2.calls, ?_⟩⟩
  rw [h, hs', hstage, failAttempt]
  split_ifs with hlt
  · have hn : (s.migration.config.maxRetries - retry).toNat =
        (s.migration.config.maxRetries - (retry + 1 : ℕ)).toNat + 1 := by omega
    rw [hn]
    rfl
  · rw [show (s.migration.config.maxRetries - retry).toNat = 0 by omega]
    rfl

/-- A call of `SendMigrate` succeeds. -/
lemma continues_success {s s' : Migrating β} {b : Batch} {msg : MigrateDataMessage} {retry ch : ℕ}
    (h : s.stage = .waiting b msg retry ch)
    (hs' : ∀ env calls, s'.executing env calls = s.executing env calls)
    (hstage : s'.stage = .cleanup b msg) : Continues api s s' := by
  refine fun env => ⟨withOutcome none env, fun calls =>
    ⟨((s.executing (withOutcome none env) calls).sendMigrate msg).2.calls, ?_⟩⟩
  rw [h, hs', hstage]
  rfl

lemma continues_step (hsource : source.brokerAPI = some api) (s : Migrating β)
    (o : ℤ × MigratingOp β) : Continues api s (s.step source target o) := by
  have hsame : ∀ s' : Migrating β, (∀ env calls, s'.executing env calls = s.executing env calls) →
      s'.stage = s.stage → Continues api s s' :=
    fun s' hs' hstage => .of_eq fun env calls => by rw [hs', hstage]
  obtain ⟨now, op⟩ := o
  rw [step]
  cases op with
  | exec =>
    rw [hsource]
    exact continues_exec s now
  | send writeErr =>
    dsimp only [send]
    split
    next b msg retry h =>
      split
      next => exact .of_eq fun env calls => by rw [h]; rfl
      next => exact continues_failAttempt (fun _ _ => by rw [h]; rfl) (fun _ _ => rfl) rfl
    next => exact hsame _ (fun _ _ => rfl) rfl
  | receive =>
    dsimp only
    split
    next b msg retry ch h =>
      split_ifs
      · exact continues_success h (fun _ _ => rfl) rfl
      · exact hsame _ (fun _ _ => rfl) rfl
    next => exact hsame _ (fun _ _ => rfl) rfl
  | timeout | shutdown =>
    dsimp only
    split
    next b msg retry ch h =>
      exact continues_failAttempt (fun _ _ => by rw [h]; rfl) (fun _ _ => rfl) rfl
    next => exact hsame _ (fun _ _ => rfl) rfl
  | handle k =>
    -- the callback of the target works on the broker of the target
    dsimp only [handle]
    split <;> exact hsame _ (fun _ _ => rfl) rfl
  | _ => exact hsame _ (fun _ _ => rfl) rfl

/-- What is left of a run that returns is an execution. -/
lemma exists_resume_of_run (hsource : source.brokerAPI = some api) {s : Migrating β}
    {os : List (ℤ × MigratingOp β)} {err : Option Str}
    (h : (os.foldl (step source target) s).stage = .returned err) :
    ∃ env, ∀ calls, ∃ env' calls', resume api (s.executing env calls) s.stage =
      (err, (os.foldl (step source target) s).executing env' calls') := by
  induction os generalizing s with
  | nil =>
    let env : ExecEnv := ⟨fun _ => none, fun _ => 0⟩
    refine ⟨env, fun calls => ⟨env, calls, ?_⟩⟩
    rw [List.foldl_nil] at h
    rw [h]
    rfl
  | cons o os ih =>
    obtain ⟨env', hrest⟩ := ih h
    have hcontinues : Continues api s (s.step source target o) := continues_step hsource s o
    obtain ⟨env, hstep⟩ := hcontinues env'
    refine ⟨env, fun calls => ?_⟩
    obtain ⟨calls', hcalls'⟩ := hstep calls
    rw [hcalls']
    exact hrest calls'

/-- **The end of a migration.**  In every run with the network and the target, once `Execute` has
returned: each device has been migrated or has failed, none is left marked as migrating, and the
migration is completed without an error if none failed, and has failed with an error otherwise. -/
theorem returned_accounts (hsource : source.brokerAPI = some api) (id fromNode toNode : Str)
    (devices : List Str) (cfg : MigrationConfig) (hretries : 0 ≤ cfg.maxRetries)
    (connIdx : ConnectionIndex) (transport : PeerTransport) (b b' : β)
    {os : List (ℤ × MigratingOp β)} {s : Migrating β} (hrun : os.foldl (step source target)
      (init (.new id fromNode toNode devices cfg) connIdx transport b b') = s)
    {err : Option Str} (h : s.stage = .returned err) :
    s.migration.progress.migrated + s.migration.progress.failed = devices.length ∧
      (∀ d ∈ devices, s.connIdx.isMigrating d = false) ∧
      (s.migration.progress.failed = 0 → err = none ∧ s.migration.status = .completed) ∧
      (s.migration.progress.failed ≠ 0 → err ≠ none ∧ s.migration.status = .failed) := by
  subst hrun
  obtain ⟨env, hrest⟩ := exists_resume_of_run hsource h
  obtain ⟨env', calls, hexec⟩ := hrest []
  obtain ⟨entries, x, hout, hdevices, -, -, -, hprogress, hclear⟩ := exists_execute_eq api
    (start (.new id fromNode toNode devices cfg) connIdx b env) rfl (by
      show 0 < (cfg.maxRetries + 1).toNat
      omega)
  obtain ⟨-, hconnIdx, hsame, hcompleted, hfailed⟩ := x.conclude_spec
  -- what is left at the start is the whole of `Execute`
  have hend : x.conclude = _ := hout.symm.trans hexec
  rw [hend] at hconnIdx hsame hcompleted hfailed
  rw [← hsame] at hcompleted hfailed
  refine ⟨?_, fun d hd => ?_, hcompleted, hfailed⟩
  · have hlength : entries.length = devices.length := by
      rw [← List.length_map (f := fun e => e.msg.deviceID), hdevices]
      rfl
    have hcount := hsame.trans hprogress
    dsimp only [executing] at hcount
    rw [hcount, progress, ← hlength, List.length_eq_countP_add_countP fun e => e.Succeeded]
    simp [start, ShardMigration.new]
  · exact (congrArg (fun idx : ConnectionIndex => idx.isMigrating d) hconnIdx).trans (hclear d hd)

/-- The target is not a peer, and the device fails. -/
theorem returned_accounts_notFound :
    let os : List (ℤ × MigratingOp (BrokerState Unit Unit)) :=
      List.replicate 7 (0, .exec) ++ (0, .send none) :: List.replicate 7 (0, .exec)
    let s := os.foldl (step (.configured _ _) (.configured _ _))
      (init (.new (str "m") (str "A") (str "B") [str "d"] ⟨1, 0⟩) .new .new (.new () none)
        (.new () none))
    s.migration.progress.failed = 1 ∧ s.migration.status = .failed := by
  intro os s
  have hfailed : s.migration.progress.failed = 1 := by decide +kernel
  have haccounts := returned_accounts rfl _ _ _ _ _ (by decide) _ _ _ _ (rfl : _ = s) rfl
  exact ⟨hfailed, (haccounts.2.2.2 (by rw [hfailed]; decide)).2⟩

end Migrating

end Dmqtt.Cluster
