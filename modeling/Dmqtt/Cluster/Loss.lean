/-
Migration loses data.

Nodes that are built by `NewCluster` and `SetMigrationBrokerAPI` have no callback for migrated
data.  The target acknowledges them all the same, and then the source deletes them.
`losesNothing_iff` says in which runs this does not happen.
-/
import Dmqtt.Broker.Mediation
import Dmqtt.Cluster.Transfer

namespace Dmqtt.Cluster.Migrating

open Lib Codec Broker

variable {β σ ρ : Type} {source target : ClusterNode β} {s : Migrating β} {o : ℤ × MigratingOp β}

/-- The device whose data `Execute` deletes next. -/
def deleting (s : Migrating β) : Option Str :=
  match s.stage with
  | .cleanup _ msg => some msg.deviceID
  | _ => none

/-- The target has imported exactly the data that the source has of a device. -/
def Imported (s : Migrating (BrokerState σ ρ)) (deviceID : Str) : Prop :=
  ∃ p ∈ s.imports, p.2.deviceID = deviceID ∧
    p.2.messages.Perm
      ((s.source.offlineStore.queue deviceID).map OfflineMessage.migrated) ∧
    p.2.session = s.source.getSessionData deviceID

/-- If `Execute` is about to delete the data of a device, then the target has imported them. -/
def LosesNothing (s : Migrating (BrokerState σ ρ)) : Prop := ∀ d ∈ s.deleting, s.Imported d

/-- The operation makes `Execute` believe that the target has the data: an acknowledgement has
ended the wait of `SendMigrate`; or a device is next, but there are no attempts to be made. -/
def Confirms (s : Migrating β) (o : ℤ × MigratingOp β) : Prop :=
  match o.2, s.stage with
  | .receive, .waiting _ _ _ ch => ch ∈ s.transport.closed
  | .exec, .device ⟨_ :: _, _, _, _⟩ => s.migration.config.maxRetries < 0
  | _, _ => False

lemma imports_step (htarget : target.migrateHandler = none) (o : ℤ × MigratingOp β) :
    (s.step source target o).imports = s.imports := by
  generalize hs' : s.step source target o = s'
  have heffect : Effect source target s o s' := hs' ▸ effect_step
  cases heffect with
  | lose hexec hpending himports htarget | crash b ho hexec hpending himports htarget =>
    exact himports
  | imports f hf => exact absurd hf (by simp [htarget])
  | write msg hentry hsource hunsent hcur hcur' hphase hphase' hpending himports => exact himports
  | plain hnet | gather api hapi d msg hnet | proceed hnet | fail msg hnet
  | delete api hapi msg hnet => exact hnet.imports

lemma deleting_failAttempt {s' : Migrating β} {b : Batch} {msg : MigrateDataMessage} {retry : ℕ}
    (h : s'.stage = s.failAttempt b msg retry) : s'.deleting = none := by
  rw [deleting, h, failAttempt]
  split_ifs <;> rfl

lemma deleting_exec_iff (h : s.deleting = none) (api : MigrationBrokerAPI β) (now : ℤ) :
    (s.exec api now).deleting = none ↔ ¬ s.Confirms (now, .exec) := by
  rw [deleting] at h
  rw [exec, Confirms]
  cases hstage : s.stage with
  | marking rest | batches rest | clearing rest => cases rest <;> exact iff_of_true rfl id
  | device b =>
    obtain ⟨todo, later, migrated, failed⟩ := b
    cases todo with
    | nil => exact iff_of_true rfl id
    | cons d todo =>
      dsimp only
      rw [gather]
      split_ifs with hretries
      · exact iff_of_true rfl (by omega)
      · exact iff_of_false (fun hnone => by cases hnone) (by omega)
  | cleanup b msg =>
    rw [hstage] at h
    cases h
  | concluding =>
    rw [conclude]
    split_ifs <;> exact iff_of_true rfl id
  | sending b msg retry | waiting b msg retry ch | returned err =>
    exact iff_of_true (by rw [deleting, hstage]) id
  | _ => exact iff_of_true rfl id

lemma deleting_step_iff {api : MigrationBrokerAPI β} (hsource : source.brokerAPI = some api)
    (h : s.deleting = none) : (s.step source target o).deleting = none ↔ ¬ s.Confirms o := by
  obtain ⟨now, op⟩ := o
  cases op with
  | exec =>
    rw [step, hsource]
    exact deleting_exec_iff h api now
  | send writeErr =>
    refine iff_of_true ?_ id
    show (s.send writeErr now).deleting = none
    rw [send]
    split
    · split
      · rfl
      · exact deleting_failAttempt rfl
    · exact h
  | receive =>
    rw [step, Confirms]
    cases hstage : s.stage with
    | waiting b msg retry ch =>
      dsimp only
      split_ifs with hclosed
      · exact iff_of_false (fun hnone => by cases hnone) (not_not.2 hclosed)
      · exact iff_of_true h hclosed
    | _ => exact iff_of_true h id
  | timeout | shutdown =>
    refine iff_of_true ?_ id
    rw [step]
    dsimp only
    split
    · exact deleting_failAttempt rfl
    · exact h
  | handle k =>
    refine iff_of_true ?_ id
    show (s.handle target k now).deleting = none
    rw [handle]
    dsimp only
    split <;> exact h
  | _ => exact iff_of_true h id

/-- **Migration loses nothing**, for two nodes that are built by `NewCluster` and
`SetMigrationBrokerAPI`, exactly in the runs in which no wait of `SendMigrate` is ended by an
acknowledgement, and no device comes up while `MaxRetries` is negative: otherwise the data are
deleted although the target has not imported any. -/
theorem losesNothing_iff (m : ShardMigration) (connIdx : ConnectionIndex)
    (transport : PeerTransport) (bsource btarget : BrokerState σ ρ)
    (os : List (ℤ × MigratingOp (BrokerState σ ρ))) :
    (∀ os', os' <+: os → LosesNothing (os'.foldl (step (.configured σ ρ) (.configured σ ρ))
        (init m connIdx transport bsource btarget))) ↔
      ∀ x ∈ trace (step (.configured σ ρ) (.configured σ ρ))
        (init m connIdx transport bsource btarget) os, ¬ x.1.Confirms x.2 := by
  have hiff : ∀ s : Migrating (BrokerState σ ρ), s.imports = [] →
      (s.LosesNothing ↔ s.deleting = none) := by
    intro s hs
    constructor
    · intro h
      refine Option.eq_none_iff_forall_not_mem.2 fun d hd => ?_
      obtain ⟨p, hp, -⟩ := h d hd
      rw [hs] at hp
      cases hp
    · intro h d hd
      rw [h] at hd
      cases hd
  refine forall_prefix_iff (fun s : Migrating (BrokerState σ ρ) => s.imports = []) LosesNothing
    (fun s o => ¬ s.Confirms o) (fun s o hs => ?_) (fun s o hs hl => ?_) rfl
    ((hiff _ rfl).2 rfl) os
  · rw [imports_step rfl, hs]
  · rw [hiff _ (by rw [imports_step rfl, hs]), deleting_step_iff rfl ((hiff s hs).1 hl)]

/-! ### A device with one message -/

/-- An operation on two brokers. -/
abbrev DeviceOp := ℤ × MigratingOp (BrokerState BrokerState.TenantChain Unit)

/-- A broker with a message for the device `d`. -/
def deviceBroker : BrokerState BrokerState.TenantChain Unit :=
  (BrokerState.new () none).importMigrateData ⟨str "d", [⟨str "t", [], 1⟩], none⟩ 0

/-- The device is to be migrated from there to the node `B`, which has no messages. -/
def deviceStart : Migrating (BrokerState BrokerState.TenantChain Unit) :=
  init (.new (str "m") (str "A") (str "B") [str "d"] ⟨1000, 3⟩) .new
    ((PeerTransport.new.addPeer (str "B")).setStream (str "B") true) deviceBroker (.new () none)

/-- `Execute` gets to its first call of `SendMigrate`. -/
def firstSteps : List DeviceOp := List.replicate 7 (0, .exec)

/-- The data arrive, and so does their acknowledgement. -/
def acknowledgedRun : List DeviceOp :=
  firstSteps ++ ([(0, .send none), (second, .read 0), (second, .handle 0),
    (2 * second, .readAck 0), (2 * second, .receive)] : List DeviceOp)

/-- The nodes after the run. -/
def deviceRun (target : ClusterNode (BrokerState BrokerState.TenantChain Unit))
    (os : List DeviceOp) : Migrating (BrokerState BrokerState.TenantChain Unit) :=
  os.foldl (step (.configured _ _) target) deviceStart

/-- The message of the device is lost: the source is about to delete it, and does so, and the
target has not imported anything. -/
theorem losesNothing_fails :
    ¬ LosesNothing (deviceRun (.configured _ _) acknowledgedRun) ∧
    (deviceRun (.configured _ _) acknowledgedRun).source.offlineStore.stock (str "d")
      ⟨str "t", [], 1⟩ = 1 ∧
    (deviceRun (.configured _ _) (acknowledgedRun ++ [((3 * second, .exec) : DeviceOp)])
      ).source.offlineStore.stock (str "d") ⟨str "t", [], 1⟩ = 0 ∧
    (deviceRun (.configured _ _) (acknowledgedRun ++ [((3 * second, .exec) : DeviceOp)])
      ).target.offlineStore.stock (str "d") ⟨str "t", [], 1⟩ = 0 := by
  refine ⟨fun h => ?_, by decide +kernel, by decide +kernel, by decide +kernel⟩
  obtain ⟨p, hp, -⟩ := h (str "d") (by decide +kernel)
  have hnone : (deviceRun (.configured _ _) acknowledgedRun).imports.length = 0 := by
    decide +kernel
  rw [List.length_eq_zero_iff.1 hnone] at hp
  cases hp

end Dmqtt.Cluster.Migrating
