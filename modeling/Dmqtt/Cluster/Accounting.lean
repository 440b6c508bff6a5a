/-
The accounts of a migration (`Execute` of `migration_executor.go`).

Here `Execute` runs by itself, from its first line to its return, as three nested loops: over
batches, over the devices of a batch and over the attempts to send their data.  The outcome of
each call of `SendMigrate` is up to the environment.  `execute_accounts` says that for every such
environment the devices are worked off one by one, each with its own attempts, and that the counters
and the status tell what became of them.
-/
import Dmqtt.Cluster.Executor

namespace Dmqtt.Cluster

open Lib Codec Broker

/-- The calls that `Execute` makes; those of `SendMigrate` with the error that they return. -/
inductive ExecCall
  | disconnectDevice (deviceID : Str)
  | getOfflineMessages (deviceID : Str)
  | getSessionData (deviceID : Str)
  | sendMigrate (nodeID : Str) (msg : MigrateDataMessage) (err : Option Str)
  | deleteOfflineMessages (deviceID : Str)
  | deleteSession (deviceID : Str)

/-- What `Execute` meets from now on: the errors of the calls of `SendMigrate`, and the instants at
which the devices come up. -/
structure ExecEnv where
  sendErr : ℕ → Option Str
  now : ℕ → ℤ

/-- A migration that is executed, with the index and the broker it works on and the calls so
far. -/
structure Executing (β : Type) where
  migration : ShardMigration
  connIdx : ConnectionIndex
  broker : β
  env : ExecEnv
  calls : List ExecCall

/-- Whether a device is marked as migrating. -/
def ConnectionIndex.isMigrating (idx : ConnectionIndex) (deviceID : Str) : Bool :=
  (idx.migrating.lookup deviceID).getD false

namespace Executing

variable {β : Type} (api : MigrationBrokerAPI β) (x : Executing β)

/-- Go on to the next phase. -/
def advancePhase : Executing β := { x with migration := x.migration.advancePhase }

/-- Mark devices as migrating. -/
def markDevices (devices : List Str) : Executing β :=
  { x with connIdx := devices.foldl (fun idx d => idx.setMigrating d true) x.connIdx }

/-- Disconnect a device and collect its data. -/
def gather (deviceID : Str) : MigrateDataMessage × Executing β :=
  let broker := api.disconnectDevice deviceID x.broker
  let (offlineMsgs, broker) := api.getOfflineMessages deviceID (x.env.now 0) broker
  let sessionData := api.getSessionData deviceID broker
  (⟨deviceID, offlineMsgs, sessionData⟩,
    { x with
      broker := broker
      env := { x.env with now := fun n => x.env.now (n + 1) }
      calls := x.calls ++ [.disconnectDevice deviceID, .getOfflineMessages deviceID,
        .getSessionData deviceID] })

/-- Call `SendMigrate`. -/
def sendMigrate (msg : MigrateDataMessage) : Option Str × Executing β :=
  (x.env.sendErr 0,
    { x with
      env := { x.env with sendErr := fun n => x.env.sendErr (n + 1) }
      calls := x.calls ++ [.sendMigrate x.migration.toNode msg (x.env.sendErr 0)] })

/-- The loop over the attempts, with the number of those that are left and the error of the last
one. -/
def sendLoop (msg : MigrateDataMessage) : ℕ → Option Str → Executing β → Option Str × Executing β
  | 0, sendErr, x => (sendErr, x)
  | n + 1, _, x =>
    match x.sendMigrate msg with
    | (none, x) => (none, x)
    | (some err, x) => sendLoop msg n (some err) x

/-- Delete the data of a device. -/
def deleteDevice (deviceID : Str) : Executing β :=
  { x with
    broker := api.deleteSession deviceID (api.deleteOfflineMessages deviceID x.broker)
    calls := x.calls ++ [.deleteOfflineMessages deviceID, .deleteSession deviceID] }

/-- The number of attempts for a device. -/
def attempts : ℕ := (x.migration.config.maxRetries + 1).toNat

/-- The loop over the devices of a batch, with its two counters. -/
def batchLoop : List Str → ℕ → ℕ → Executing β → (ℕ × ℕ) × Executing β
  | [], batchMigrated, batchFailed, x => ((batchMigrated, batchFailed), x)
  | deviceID :: batch, batchMigrated, batchFailed, x =>
    let (migrateMsg, x) := x.gather api deviceID
    let (sendErr, x) := sendLoop migrateMsg x.attempts none x
    match sendErr with
    | some _ => batchLoop batch batchMigrated (batchFailed + 1) x
    | none => batchLoop batch (batchMigrated + 1) batchFailed (x.deleteDevice api deviceID)

/-- Add the counters of a batch to those of the migration. -/
def record (counters : ℕ × ℕ) : Executing β :=
  { x with migration := (x.migration.recordMigrated counters.1).recordFailed counters.2 }

/-- The loop over the batches, from the device at `i` on. -/
def batchesLoop (devices : List Str) (batchSize : ℕ) (hsize : 0 < batchSize) (i : ℕ)
    (x : Executing β) : Executing β :=
  if i < devices.length then
    let last := if i + batchSize > devices.length then devices.length else i + batchSize
    let batch := (devices.take last).drop i
    let out := batchLoop api batch 0 0 x
    batchesLoop devices batchSize hsize (i + batchSize) (out.2.record out.1)
  else x
termination_by devices.length - i

lemma batchSize_pos (m : ShardMigration) : 0 < m.batchSize := by
  rw [ShardMigration.batchSize]
  split_ifs <;> omega

/-- Clear the marks of devices, and take the devices off the index. -/
def redirectDevices (devices : List Str) : Executing β :=
  { x with
    connIdx := devices.foldl (fun idx d => (idx.setMigrating d false).remove d) x.connIdx }

/-- The end of `Execute`. -/
def conclude : Option Str × Executing β :=
  let failed := x.migration.progress.failed
  if failed > 0 then
    let reason := str (toString failed) ++ str " devices failed to migrate"
    (some (str "migration " ++ x.migration.id ++ str ": " ++ str (toString failed) ++
        str " devices failed"),
      { x with migration := x.migration.markFailed reason })
  else (none, { x with migration := x.migration.markCompleted })

/-- Run all phases of a migration: the error that is returned, and what is left. -/
def execute : Option Str × Executing β :=
  let x := x.advancePhase.markDevices x.migration.affectedDevices
  let x := x.advancePhase.advancePhase
  let x := batchesLoop api x.migration.affectedDevices x.migration.batchSize
    (batchSize_pos x.migration) 0 x
  let x := x.advancePhase.redirectDevices x.migration.affectedDevices
  x.advancePhase.conclude

/-- A migration about to be executed. -/
def start (m : ShardMigration) (connIdx : ConnectionIndex) (broker : β) (env : ExecEnv) :
    Executing β :=
  ⟨m, connIdx, broker, env, []⟩

end Executing

/-! ### Entries -/

/-- What became of an entry of the list: the data that were collected, and the errors of the
attempts to send them. -/
structure ExecEntry where
  msg : MigrateDataMessage
  tries : List (Option Str)

namespace ExecEntry

variable (e : ExecEntry)

/-- One of the attempts succeeded. -/
def Succeeded : Prop := none ∈ e.tries

instance : Decidable e.Succeeded := inferInstanceAs (Decidable (_ ∈ _))

/-- The calls for an entry. -/
def calls (toNode : Str) : List ExecCall :=
  [.disconnectDevice e.msg.deviceID, .getOfflineMessages e.msg.deviceID,
      .getSessionData e.msg.deviceID] ++
    e.tries.map (.sendMigrate toNode e.msg) ++
    if e.Succeeded then [.deleteOfflineMessages e.msg.deviceID, .deleteSession e.msg.deviceID]
    else []

/-- The attempts end with the first that succeeds, and with the last one at the latest. -/
def Tried (attempts : ℕ) : Prop :=
  none ∉ e.tries.dropLast ∧ e.tries.length ≤ attempts ∧
    (¬ e.Succeeded → e.tries.length = attempts)

end ExecEntry

namespace Executing

variable {β : Type} (api : MigrationBrokerAPI β)

/-! ### The attempts for a device -/

/-- The attempts for a device are the next outcomes, up to the first that is a success. -/
lemma sendLoop_spec (msg : MigrateDataMessage) (n : ℕ) (err : Option Str) (x : Executing β) :
    ∃ tries : List (Option Str),
      (sendLoop msg n err x).2 =
        { x with
          env := { x.env with sendErr := fun k => x.env.sendErr (tries.length + k) }
          calls := x.calls ++ tries.map (.sendMigrate x.migration.toNode msg) } ∧
      tries = (List.range tries.length).map x.env.sendErr ∧
      none ∉ tries.dropLast ∧ tries.length ≤ n ∧ (none ∉ tries → tries.length = n) ∧
      ((sendLoop msg n err x).1 = none ↔ none ∈ tries ∨ n = 0 ∧ err = none) := by
  induction n generalizing err x with
  | zero => exact ⟨[], by simp [sendLoop]⟩
  | succ n ih =>
    rw [sendLoop]
    cases hfirst : x.env.sendErr 0 with
    | none =>
      refine ⟨[none], ?_⟩
      simp [sendMigrate, hfirst, Nat.add_comm 1]
    | some e =>
      obtain ⟨tries, hx, houtcomes, hlast, hlen, hall, hres⟩ :=
        ih (some e) (x.sendMigrate msg).2
      have hsend : x.sendMigrate msg = (some e, (x.sendMigrate msg).2) :=
        Prod.ext hfirst rfl
      rw [hsend]
      refine ⟨some e :: tries, ?_, ?_, ?_, ?_, ?_, ?_⟩
      · refine hx.trans ?_
        simp [sendMigrate, hfirst, Nat.add_right_comm _ 1]
      · rw [List.length_cons, List.range_succ_eq_map, List.map_cons, List.map_map, hfirst]
        exact congrArg _ houtcomes
      · cases tries with
        | nil => simp
        | cons a tries => simpa using hlast
      · simpa using hlen
      · simpa using hall
      · refine hres.trans ?_
        simp

/-! ### Entries that were worked off -/

/-- The entries account for the calls and the outcomes so far. -/
structure Accounts (env : ExecEnv) (x : Executing β) (entries : List ExecEntry) : Prop where
  calls : x.calls = entries.flatMap fun e => e.calls x.migration.toNode
  tried : ∀ e ∈ entries, e.Tried x.attempts
  outcomes : entries.flatMap ExecEntry.tries =
    (List.range (entries.flatMap ExecEntry.tries).length).map env.sendErr
  sendErr : ∀ k, x.env.sendErr k =
    env.sendErr ((entries.flatMap ExecEntry.tries).length + k)

variable {env : ExecEnv} {entries : List ExecEntry} (x : Executing β)

lemma Accounts.nil (h : x.calls = []) : Accounts x.env x [] :=
  ⟨h, by simp, rfl, fun k => by simp⟩

lemma Accounts.snoc {x x' : Executing β} (h : Accounts env x entries) {e : ExecEntry}
    (hmigration : x'.migration = x.migration)
    (hcalls : x'.calls = x.calls ++ e.calls x.migration.toNode) (htried : e.Tried x.attempts)
    (houtcomes : e.tries = (List.range e.tries.length).map x.env.sendErr)
    (hsendErr : ∀ k, x'.env.sendErr k = x.env.sendErr (e.tries.length + k)) :
    Accounts env x' (entries ++ [e]) where
  calls := by
    rw [hcalls, h.calls, hmigration, List.flatMap_append, List.flatMap_singleton]
  tried e' he' := by
    rw [attempts, hmigration]
    rcases List.mem_append.1 he' with he' | he'
    · exact h.tried e' he'
    · rwa [List.mem_singleton.1 he']
  outcomes := by
    have hshift : x.env.sendErr = env.sendErr ∘ ((entries.flatMap ExecEntry.tries).length + ·) :=
      funext h.sendErr
    rw [List.flatMap_append, List.flatMap_singleton, List.length_append, List.range_add,
      List.map_append, ← h.outcomes, List.map_map, ← hshift, ← houtcomes]
  sendErr k := by
    rw [hsendErr, h.sendErr, List.flatMap_append, List.flatMap_singleton, List.length_append,
      Nat.add_assoc]

/-- One more device: it is disconnected, its data are collected and sent, and if that succeeds they
are deleted. -/
lemma Accounts.device {x : Executing β} (h : Accounts env x entries) (hpos : 0 < x.attempts)
    (deviceID : Str) :
    let sent := sendLoop (x.gather api deviceID).1 x.attempts none (x.gather api deviceID).2
    ∃ e : ExecEntry, e.msg.deviceID = deviceID ∧ (sent.1 = none ↔ e.Succeeded) ∧
      sent.2.migration = x.migration ∧ sent.2.connIdx = x.connIdx ∧
      Accounts env (if e.Succeeded then sent.2.deleteDevice api deviceID else sent.2)
        (entries ++ [e]) := by
  obtain ⟨tries, hx, houtcomes, hlast, hlen, hall, hres⟩ :=
    sendLoop_spec (x.gather api deviceID).1 x.attempts none (x.gather api deviceID).2
  generalize sendLoop (x.gather api deviceID).1 x.attempts none (x.gather api deviceID).2 = sent
    at hx hres
  have hmigration : sent.2.migration = x.migration := by rw [hx]; rfl
  have hconnIdx : sent.2.connIdx = x.connIdx := by rw [hx]; rfl
  have hsendErr : ∀ k, sent.2.env.sendErr k = x.env.sendErr (tries.length + k) := by
    intro k
    rw [hx]
    rfl
  have hcalls : sent.2.calls = x.calls ++ ([.disconnectDevice deviceID,
      .getOfflineMessages deviceID, .getSessionData deviceID] ++
        tries.map (.sendMigrate x.migration.toNode (x.gather api deviceID).1)) := by
    rw [hx, ← List.append_assoc]
    rfl
  refine ⟨⟨(x.gather api deviceID).1, tries⟩, rfl, ?_, hmigration, hconnIdx, ?_⟩
  · rw [hres, or_iff_left (by omega)]
    rfl
  · refine h.snoc ?_ ?_ ⟨hlast, hlen, hall⟩ houtcomes ?_
    · split_ifs <;> exact hmigration
    · rw [ExecEntry.calls]
      split_ifs with hok
      · show sent.2.calls ++ _ = _
        rw [hcalls, List.append_assoc]
        rfl
      · rw [hcalls, List.append_nil]
        rfl
    · intro k
      split_ifs <;> exact hsendErr k

/-! ### The loops -/

/-- The devices of a batch. -/
lemma batchLoop_spec (batch : List Str) (migrated failed : ℕ) {x : Executing β}
    (h : Accounts env x entries) (hpos : 0 < x.attempts) :
    ∃ new : List ExecEntry, new.map (fun e => e.msg.deviceID) = batch ∧
      (batchLoop api batch migrated failed x).1 =
        (migrated + new.countP (·.Succeeded), failed + new.countP (¬ ·.Succeeded)) ∧
      (batchLoop api batch migrated failed x).2.migration = x.migration ∧
      (batchLoop api batch migrated failed x).2.connIdx = x.connIdx ∧
      Accounts env (batchLoop api batch migrated failed x).2 (entries ++ new) := by
  induction batch generalizing migrated failed x entries with
  | nil => exact ⟨[], rfl, rfl, rfl, rfl, by rwa [List.append_nil]⟩
  | cons deviceID batch ih =>
    obtain ⟨e, hdevice, hok, hmigration, hconnIdx, hacc⟩ := h.device api hpos deviceID
    have hattempts : (x.gather api deviceID).2.attempts = x.attempts := rfl
    simp only [batchLoop, hattempts]
    rcases hsent : sendLoop (x.gather api deviceID).1 x.attempts none
      (x.gather api deviceID).2 with ⟨sendErr, x'⟩
    simp only [hsent] at hok hmigration hconnIdx hacc
    cases sendErr with
    | none =>
      rw [if_pos (hok.1 rfl)] at hacc
      obtain ⟨new, hnew, hcount, hm, hc, hall⟩ := ih (migrated + 1) failed hacc
        (by rwa [attempts, show (x'.deleteDevice api deviceID).migration = x.migration from
          hmigration])
      refine ⟨e :: new, by rw [List.map_cons, hdevice, hnew], ?_, hm.trans hmigration,
        hc.trans hconnIdx, by simpa using hall⟩
      rw [hcount, List.countP_cons, List.countP_cons]
      simp [hok.1 rfl, Nat.add_assoc, Nat.add_comm]
    | some err =>
      have hfail : ¬ e.Succeeded := fun he => nomatch hok.2 he
      rw [if_neg hfail] at hacc
      obtain ⟨new, hnew, hcount, hm, hc, hall⟩ := ih migrated (failed + 1) hacc
        (by rwa [attempts, hmigration])
      refine ⟨e :: new, by rw [List.map_cons, hdevice, hnew], ?_, hm.trans hmigration,
        hc.trans hconnIdx, by simpa using hall⟩
      rw [hcount, List.countP_cons, List.countP_cons]
      simp [hfail, Nat.add_assoc, Nat.add_comm]

/-- Count entries on top of a progress. -/
def progress (old : MigrationProgress) (new : List ExecEntry) : MigrationProgress :=
  { old with
    migrated := old.migrated + new.countP (·.Succeeded)
    failed := old.failed + new.countP (¬ ·.Succeeded) }

lemma progress_append (old : MigrationProgress) (new new' : List ExecEntry) :
    progress old (new ++ new') = progress (progress old new) new' := by
  simp only [progress, List.countP_append, Nat.add_assoc]

lemma Accounts.record {x : Executing β} (h : Accounts env x entries) (counters : ℕ × ℕ) :
    Accounts env (x.record counters) entries :=
  ⟨h.calls, h.tried, h.outcomes, h.sendErr⟩

lemma take_drop_batch {α : Type*} (devices : List α) (batchSize i : ℕ) :
    (devices.take (if i + batchSize > devices.length then devices.length else i + batchSize)).drop
      i = (devices.drop i).take batchSize := by
  rw [List.drop_take, List.take_eq_take_iff, List.length_drop]
  split_ifs <;> omega

/-- The batches from the device at `i` on. -/
lemma batchesLoop_spec (devices : List Str) (batchSize : ℕ) (hsize : 0 < batchSize) (i : ℕ)
    {x : Executing β} (h : Accounts env x entries) (hpos : 0 < x.attempts) :
    ∃ new : List ExecEntry, new.map (fun e => e.msg.deviceID) = devices.drop i ∧
      (batchesLoop api devices batchSize hsize i x).migration =
        { x.migration with progress := progress x.migration.progress new } ∧
      (batchesLoop api devices batchSize hsize i x).connIdx = x.connIdx ∧
      Accounts env (batchesLoop api devices batchSize hsize i x) (entries ++ new) := by
  fun_induction batchesLoop api devices batchSize hsize i x generalizing entries with
  | case1 i x hi last batch out =>
    rename_i ih
    have hbatch : batch = (devices.drop i).take batchSize := take_drop_batch devices batchSize i
    obtain ⟨new, hnew, hcount, hmigration, hconnIdx, hacc⟩ :=
      batchLoop_spec api batch 0 0 h hpos
    have hrecord : (out.2.record out.1).migration =
        { x.migration with progress := progress x.migration.progress new } := by
      rw [record, hcount, Nat.zero_add, Nat.zero_add, hmigration]
      rfl
    have hattempts : (out.2.record out.1).attempts = x.attempts := by
      rw [attempts, hrecord, attempts]
    obtain ⟨new', hnew', hmigration', hconnIdx', hacc'⟩ :=
      ih (hacc.record out.1) (hattempts ▸ hpos)
    refine ⟨new ++ new', ?_, ?_, hconnIdx'.trans hconnIdx, ?_⟩
    · rw [List.map_append, hnew, hnew', hbatch, ← List.drop_drop, List.take_append_drop]
    · rw [hmigration', hrecord, progress_append]
    · rwa [← List.append_assoc]
  | case2 i x hi =>
    refine ⟨[], ?_, rfl, rfl, by simpa using h⟩
    rw [List.drop_eq_nil_of_le (by omega), List.map_nil]

/-! ### The migration as a whole -/

lemma migrating_remove (idx : ConnectionIndex) (d : Str) :
    (idx.remove d).migrating = idx.migrating := by
  rw [ConnectionIndex.remove]
  split <;> rfl

/-- The mark of a device that is redirected is cleared, and stays so. -/
lemma isMigrating_redirect {devices : List Str} {idx : ConnectionIndex} {d : Str}
    (h : d ∈ devices ∨ idx.isMigrating d = false) :
    (devices.foldl (fun idx d => (idx.setMigrating d false).remove d) idx).isMigrating d =
      false := by
  induction devices generalizing idx with
  | nil => simpa using h
  | cons d' devices ih =>
    refine ih ?_
    rw [ConnectionIndex.isMigrating, migrating_remove]
    rcases eq_or_ne d d' with rfl | hne
    · exact Or.inr (by simp [ConnectionIndex.setMigrating])
    · refine (h.imp_left fun hd => (List.mem_cons.1 hd).resolve_left hne).imp_right fun hd => ?_
      rwa [ConnectionIndex.setMigrating, if_neg Bool.false_ne_true, AList.lookup_erase_ne hne]

/-- What `Execute` does before its end. -/
lemma exists_execute_eq (hx : x.calls = []) (hpos : 0 < x.attempts) :
    ∃ (entries : List ExecEntry) (x' : Executing β), execute api x = x'.conclude ∧
      entries.map (fun e => e.msg.deviceID) = x.migration.affectedDevices ∧
      Accounts x.env x' entries ∧ x'.migration.toNode = x.migration.toNode ∧
      x'.attempts = x.attempts ∧
      x'.migration.progress = progress x.migration.progress entries ∧
      ∀ d ∈ x.migration.affectedDevices, x'.connIdx.isMigrating d = false := by
  let m := x.migration
  let x₁ := (x.advancePhase.markDevices m.affectedDevices).advancePhase.advancePhase
  obtain ⟨entries, hdevices, hmigration, hconnIdx, hacc⟩ := batchesLoop_spec api
    m.affectedDevices m.batchSize (batchSize_pos m) 0 (Accounts.nil x₁ hx) hpos
  let x₂ := batchesLoop api m.affectedDevices m.batchSize (batchSize_pos m) 0 x₁
  have hx₂ : x₂.migration =
      { x₁.migration with progress := progress x₁.migration.progress entries } := hmigration
  have haffected : x₂.migration.affectedDevices = m.affectedDevices := by rw [hx₂]; rfl
  have htoNode : x₂.migration.toNode = m.toNode := by rw [hx₂]; rfl
  have hconfig : x₂.migration.config = m.config := by rw [hx₂]; rfl
  have hprogress : x₂.migration.progress = progress m.progress entries := by rw [hx₂]; rfl
  refine ⟨entries, (x₂.advancePhase.redirectDevices m.affectedDevices).advancePhase, ?_, hdevices,
    ⟨hacc.calls, hacc.tried, hacc.outcomes, hacc.sendErr⟩, htoNode, ?_, hprogress,
    fun d hd => isMigrating_redirect (Or.inl hd)⟩
  · rw [← haffected]
    rfl
  · exact congrArg (fun cfg : MigrationConfig => (cfg.maxRetries + 1).toNat) hconfig

/-- The end changes only the status, by the number of devices that failed. -/
lemma conclude_spec :
    x.conclude.2.calls = x.calls ∧ x.conclude.2.connIdx = x.connIdx ∧
      x.conclude.2.migration.progress = x.migration.progress ∧
      (x.migration.progress.failed = 0 →
        x.conclude.1 = none ∧ x.conclude.2.migration.status = .completed) ∧
      (x.migration.progress.failed ≠ 0 →
        x.conclude.1 ≠ none ∧ x.conclude.2.migration.status = .failed) := by
  rw [conclude]
  split_ifs with hfailed
  · exact ⟨rfl, rfl, rfl, fun h => by omega, fun _ => ⟨Option.some_ne_none _, rfl⟩⟩
  · exact ⟨rfl, rfl, rfl, fun _ => ⟨rfl, rfl⟩, fun h => by omega⟩

/-- **The accounts of a migration.**  Whatever the outcomes of the calls of `SendMigrate`, `Execute`
works off the entries of the list one after the other: for each it collects the data, tries to
send them until the first success and at most `MaxRetries + 1` times, and deletes them if and only
if there was a success.  The counters tell how many entries had one and how many had none, no device
of the list is left marked as migrating, and the migration is completed without an error if none
failed, and has failed with an error otherwise. -/
theorem execute_accounts (id fromNode toNode : Str) (devices : List Str) (cfg : MigrationConfig)
    (hretries : 0 ≤ cfg.maxRetries) (connIdx : ConnectionIndex) (broker : β) (env : ExecEnv) :
    let out := execute api
      (start (.new id fromNode toNode devices cfg) connIdx broker env)
    ∃ entries : List ExecEntry,
      entries.map (fun e => e.msg.deviceID) = devices ∧
      out.2.calls = (entries.flatMap fun e => e.calls toNode) ∧
      (∀ e ∈ entries, e.Tried (cfg.maxRetries + 1).toNat) ∧
      entries.flatMap ExecEntry.tries =
        (List.range (entries.flatMap ExecEntry.tries).length).map env.sendErr ∧
      out.2.migration.progress =
        ⟨devices.length, entries.countP (·.Succeeded), entries.countP (¬ ·.Succeeded)⟩ ∧
      out.2.migration.progress.migrated + out.2.migration.progress.failed =
        out.2.migration.progress.total ∧
      (∀ d ∈ devices, out.2.connIdx.isMigrating d = false) ∧
      (out.2.migration.progress.failed = 0 →
        out.1 = none ∧ out.2.migration.status = .completed) ∧
      (out.2.migration.progress.failed ≠ 0 →
        out.1 ≠ none ∧ out.2.migration.status = .failed) := by
  obtain ⟨entries, x, hout, hdevices, hacc, htoNode, hattempts, hprogress, hclear⟩ :=
    exists_execute_eq api
      (start (.new id fromNode toNode devices cfg) connIdx broker env) rfl (by
        show 0 < (cfg.maxRetries + 1).toNat
        omega)
  obtain ⟨hcalls, hconnIdx, hsame, hcompleted, hfailed⟩ := x.conclude_spec
  have hcount : x.migration.progress =
      ⟨devices.length, entries.countP (·.Succeeded), entries.countP (¬ ·.Succeeded)⟩ := by
    rw [hprogress, progress]
    simp [start, ShardMigration.new]
  have hlength : entries.length = devices.length := by
    rw [← List.length_map (f := fun e => e.msg.deviceID), hdevices]
    rfl
  dsimp only
  rw [hout, hcalls, hconnIdx, hsame]
  refine ⟨entries, hdevices, ?_, ?_, hacc.outcomes, hcount, ?_, hclear, hcompleted, hfailed⟩
  · rw [hacc.calls, htoNode]
    rfl
  · intro e he
    have htried := hacc.tried e he
    rwa [hattempts] at htried
  · rw [hcount, ← hlength, List.length_eq_countP_add_countP fun e => e.Succeeded]
    simp

/-- The first device is sent at the second attempt and the second one at none, and the third is the
first one again. -/
theorem execute_accounts_sample :
    let env : ExecEnv := ⟨fun n => if n = 1 ∨ n = 4 then none else some (str "timeout"), fun _ => 0⟩
    let out := execute (migrationAPI Unit Unit)
      (start (.new (str "m") (str "A") (str "B") [str "d", str "e", str "d"] ⟨2, 1⟩) .new
        (.new () none) env)
    (∃ entries : List ExecEntry,
      entries.map (fun e => e.msg.deviceID) = [str "d", str "e", str "d"] ∧
      out.2.calls = (entries.flatMap fun e => e.calls (str "B")) ∧
      ∀ e ∈ entries, e.Tried 2) ∧
    out.2.migration.progress.migrated + out.2.migration.progress.failed = 3 := by
  intro env out
  obtain ⟨entries, hdevices, hcalls, htried, -, hprogress, hsum, -⟩ :=
    execute_accounts (migrationAPI Unit Unit) (str "m") (str "A") (str "B")
      [str "d", str "e", str "d"] ⟨2, 1⟩ (by decide) .new (.new () none) env
  refine ⟨⟨entries, hdevices, hcalls, htried⟩, hsum.trans ?_⟩
  rw [hprogress]
  rfl

end Executing

end Dmqtt.Cluster
