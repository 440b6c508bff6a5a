/-
The steps of a migration (`Execute`, `SendMigrate` and the callback of the target).

`effect_step` says what an operation does to the device that is being transferred, to what is
under way and to the two brokers.  `steps_exchange` says that each transfer is an exchange, as
long as the source gives an attempt up only after it was lost.
-/
import Dmqtt.Cluster.Executor

namespace Dmqtt.Cluster

open Lib Codec Broker

/-! ### What an operation does -/

namespace ExecStage

/-- The devices that are still to come. -/
def unsent (devices : List Str) : ExecStage → List Str
  | .prepare | .marking _ | .handshake | .migrate => devices
  | .batches rest => rest
  | .device b | .sending b _ _ | .waiting b _ _ _ | .cleanup b _ => b.todo ++ b.later
  | .redirect | .clearing _ | .finishing | .concluding | .returned _ => []

/-- The data that are being transferred. -/
def current : ExecStage → Option MigrateDataMessage
  | .sending _ msg _ | .waiting _ msg _ _ | .cleanup _ msg => some msg
  | _ => none

/-- The phase of the transfer as a sender. -/
def phase : ExecStage → Phase
  | .sending _ _ _ => .ready
  | .waiting _ _ _ _ => .waiting
  | _ => .finished

/-- The data of the current device will be sent again, or collected again, if this attempt
fails. -/
def Resends (maxRetries : ℤ) : ExecStage → Prop
  | .waiting b msg retry _ => (retry : ℤ) < maxRetries ∨ msg.deviceID ∈ b.todo ++ b.later
  | _ => False

instance (maxRetries : ℤ) : (stage : ExecStage) → Decidable (stage.Resends maxRetries)
  | .waiting b msg retry _ =>
    inferInstanceAs (Decidable ((retry : ℤ) < maxRetries ∨ msg.deviceID ∈ b.todo ++ b.later))
  | .prepare | .marking _ | .handshake | .migrate | .batches _ | .device _ | .sending _ _ _
  | .cleanup _ _ | .redirect | .clearing _ | .finishing | .concluding | .returned _ => isFalse id

lemma phase_of_current {stage : ExecStage} (h : stage.current = none) :
    stage.phase = .finished := by
  cases stage with
  | sending b msg retry | waiting b msg retry ch => cases h
  | _ => rfl

lemma forall_current_of_none {stage : ExecStage} {P : MigrateDataMessage → Prop}
    (h : stage.current = none) : ∀ msg ∈ stage.current, P msg := by
  intro msg hmem
  rw [h] at hmem
  cases hmem

lemma forall_current_of_some {stage : ExecStage} {P : MigrateDataMessage → Prop}
    {msg : MigrateDataMessage} (h : stage.current = some msg) (hP : P msg) :
    ∀ msg ∈ stage.current, P msg := by
  intro msg' hmem
  rw [h] at hmem
  cases hmem
  exact hP

end ExecStage

namespace Migrating

section Effects

variable {β : Type} {source target : ClusterNode β} {s s' : Migrating β} {o : ℤ × MigratingOp β}

/-- The devices that are still to come. -/
def unsent (s : Migrating β) : List Str := s.stage.unsent s.migration.affectedDevices

/-- The data of the current device will be sent or collected again if this attempt fails. -/
def Resends (s : Migrating β) : Prop := s.stage.Resends s.migration.config.maxRetries

instance (s : Migrating β) : Decidable s.Resends :=
  inferInstanceAs (Decidable (s.stage.Resends _))

/-- `Execute` and the source stay as they are. -/
structure SameExec (s s' : Migrating β) : Prop where
  stage : s'.stage = s.stage
  entry : s'.entry = s.entry
  unsent : s'.unsent = s.unsent
  source : s'.source = s.source

/-- What is under way and the target stay as they are. -/
structure SameNet (s s' : Migrating β) : Prop where
  pending : s'.network.pending = s.network.pending
  imports : s'.imports = s.imports
  target : s'.target = s.target

/-- What an operation does. -/
inductive Effect (source target : ClusterNode β) (s : Migrating β) (o : ℤ × MigratingOp β)
    (s' : Migrating β) : Prop
  | lose (hexec : SameExec s s') (hpending : s'.network.pending.Subperm s.network.pending)
      (himports : s'.imports = s.imports) (htarget : s'.target = s.target)
  | crash (b : β) (ho : o.2 = .crash b) (hexec : SameExec s s')
      (hpending : s'.network.pending.Subperm s.network.pending)
      (himports : s'.imports = s.imports) (htarget : s'.target = b)
  | imports (f : MigrateDataMessage → ℤ → β → β) (hf : target.migrateHandler = some f) (j : ℕ)
      (msg : MigrateDataMessage) (hexec : SameExec s s')
      (hpending : s.network.pending.Perm ((j, msg) :: s'.network.pending))
      (himports : s'.imports = s.imports ++ [(j, msg)]) (htarget : s'.target = f msg o.1 s.target)
  | plain (hnet : SameNet s s') (hentry : s'.entry = s.entry) (hsource : s'.source = s.source)
      (hcur : s.stage.current = none) (hcur' : s'.stage.current = none)
      (hunsent : s'.unsent ⊆ s.unsent)
  | gather (api : MigrationBrokerAPI β) (hapi : source.brokerAPI = some api) (d : Str)
      (msg : MigrateDataMessage) (hnet : SameNet s s') (hentry : s'.entry = s.entry + 1)
      (hmsg : msg.deviceID = d ∧ msg.messages =
        (api.getOfflineMessages d o.1 (api.disconnectDevice d s.source)).1)
      (hsource : s'.source = (api.getOfflineMessages d o.1 (api.disconnectDevice d s.source)).2)
      (hcur : s.stage.current = none) (hcur' : s'.stage.current = some msg)
      (hphase' : s'.stage.phase ≠ .waiting) (hunsent : s.unsent = d :: s'.unsent)
  | write (msg : MigrateDataMessage) (hentry : s'.entry = s.entry)
      (hsource : s'.source = s.source) (hunsent : s'.unsent = s.unsent)
      (hcur : s.stage.current = some msg) (hcur' : s'.stage.current = some msg)
      (hphase : s.stage.phase = .ready) (hphase' : s'.stage.phase = .waiting)
      (hpending : s'.network.pending.Perm ((s.entry, msg) :: s.network.pending))
      (himports : s'.imports = s.imports) (htarget : s'.target = s.target)
  | proceed (hnet : SameNet s s') (hentry : s'.entry = s.entry) (hsource : s'.source = s.source)
      (hunsent : s'.unsent = s.unsent) (hcur : s'.stage.current = s.stage.current)
      (hphase : s'.stage.phase = s.stage.phase ∨ s'.stage.phase = .finished ∨
        (o.2 = .timeout ∨ o.2 = .shutdown) ∧ s.Resends ∧ s.stage.phase = .waiting ∧
          s'.stage.phase = .ready)
  | fail (msg : MigrateDataMessage) (hnet : SameNet s s') (hentry : s'.entry = s.entry)
      (hsource : s'.source = s.source) (hunsent : s'.unsent = s.unsent)
      (hcur : s.stage.current = some msg) (hcur' : s'.stage.current = none)
      (hphase : s.stage.phase = .ready ∨
        (o.2 = .timeout ∨ o.2 = .shutdown) ∧ (msg.deviceID ∈ s.unsent → s.Resends))
  | delete (api : MigrationBrokerAPI β) (hapi : source.brokerAPI = some api)
      (msg : MigrateDataMessage) (hnet : SameNet s s') (hentry : s'.entry = s.entry)
      (hsource : s'.source =
        api.deleteSession msg.deviceID (api.deleteOfflineMessages msg.deviceID s.source))
      (hunsent : s'.unsent = s.unsent) (hcur : s.stage.current = some msg)
      (hcur' : s'.stage.current = none) (hphase : s.stage.phase = .finished)

lemma sameExec_refl : SameExec s s := ⟨rfl, rfl, rfl, rfl⟩

lemma effect_refl : Effect source target s o s :=
  .lose sameExec_refl (List.Subperm.refl _) rfl rfl

lemma effect_plain {stage : ExecStage} (hstage : s.stage = stage) (hcur : stage.current = none)
    (hcur' : s'.stage.current = none)
    (hunsent : s'.unsent ⊆ stage.unsent s.migration.affectedDevices) (hnet : SameNet s s')
    (hentry : s'.entry = s.entry) (hsource : s'.source = s.source) :
    Effect source target s o s' := by
  subst hstage
  exact .plain hnet hentry hsource hcur hcur' hunsent

lemma effect_exec {api : MigrationBrokerAPI β} (hapi : source.brokerAPI = some api) (now : ℤ) :
    Effect source target s (now, .exec) (s.exec api now) := by
  have hsub : ∀ l : List Str, l ⊆ l := List.Subset.refl
  rw [exec]
  cases hstage : s.stage with
  | prepare | handshake | migrate | redirect | finishing =>
    exact effect_plain hstage rfl rfl (hsub _) ⟨rfl, rfl, rfl⟩ rfl rfl
  | marking rest | clearing rest =>
    cases rest with
    | nil | cons d rest => exact effect_plain hstage rfl rfl (hsub _) ⟨rfl, rfl, rfl⟩ rfl rfl
  | batches rest =>
    cases rest with
    | nil => exact effect_plain hstage rfl rfl (hsub _) ⟨rfl, rfl, rfl⟩ rfl rfl
    | cons d rest =>
      refine effect_plain hstage rfl rfl ?_ ⟨rfl, rfl, rfl⟩ rfl rfl
      show (d :: rest).take _ ++ (d :: rest).drop _ ⊆ d :: rest
      rw [List.take_append_drop]
      exact hsub _
  | device b =>
    obtain ⟨todo, later, migrated, failed⟩ := b
    cases todo with
    | nil => exact effect_plain hstage rfl rfl (hsub _) ⟨rfl, rfl, rfl⟩ rfl rfl
    | cons d todo =>
      have hcur : s.stage.current = none := by
        rw [hstage]
        rfl
      have hunsent : s.unsent = d :: (todo ++ later) := by
        rw [unsent, hstage]
        rfl
      dsimp only
      rw [gather]
      split_ifs <;> exact .gather api hapi d _ ⟨rfl, rfl, rfl⟩ rfl ⟨rfl, rfl⟩ rfl hcur rfl
        (fun h => by cases h) hunsent
  | cleanup b msg =>
    have hcur : s.stage.current = some msg := by
      rw [hstage]
      rfl
    have hunsent : s.unsent = b.todo ++ b.later := by
      rw [unsent, hstage]
      rfl
    exact .delete api hapi msg ⟨rfl, rfl, rfl⟩ rfl rfl hunsent.symm hcur rfl (by rw [hstage]; rfl)
  | concluding =>
    rw [conclude]
    split_ifs <;> exact effect_plain hstage rfl rfl (hsub _) ⟨rfl, rfl, rfl⟩ rfl rfl
  | _ => exact effect_refl

/-- An attempt that fails: the source tries again, or gives the device up. -/
lemma effect_failAttempt {b : Batch} {msg : MigrateDataMessage} {retry : ℕ}
    (hcur : s.stage.current = some msg) (hunsent : s.unsent = b.todo ++ b.later)
    (hstage' : s'.stage = s.failAttempt b msg retry) (hnet : SameNet s s')
    (hentry : s'.entry = s.entry) (hsource : s'.source = s.source)
    (hphase : s.stage.phase = .ready ∨
      (o.2 = .timeout ∨ o.2 = .shutdown) ∧ s.stage.phase = .waiting ∧
        ((retry : ℤ) < s.migration.config.maxRetries ∨ msg.deviceID ∈ b.todo ++ b.later →
          s.Resends)) :
    Effect source target s o s' := by
  rw [failAttempt] at hstage'
  split_ifs at hstage' with hretry
  · have hunsent' : s'.unsent = s.unsent := by
      rw [hunsent, unsent, hstage']
      rfl
    refine .proceed hnet hentry hsource hunsent' (by rw [hcur, hstage']; rfl) ?_
    rcases hphase with hready | ⟨hop, hwait, hresends⟩
    · exact Or.inl (by rw [hready, hstage']; rfl)
    · exact Or.inr (Or.inr ⟨hop, hresends (Or.inl hretry), hwait, by rw [hstage']; rfl⟩)
  · have hunsent' : s'.unsent = s.unsent := by
      rw [hunsent, unsent, hstage']
      rfl
    refine .fail msg hnet hentry hsource hunsent' hcur (by rw [hstage']; rfl) ?_
    rcases hphase with hready | ⟨hop, hwait, hresends⟩
    · exact Or.inl hready
    · refine Or.inr ⟨hop, fun hmem => hresends (Or.inr ?_)⟩
      rw [← hunsent]
      exact hmem

lemma effect_send (writeErr : Option Str) (now : ℤ) :
    Effect source target s o (s.send writeErr now) := by
  rw [send]
  cases hstage : s.stage with
  | sending b msg retry =>
    have hcur : s.stage.current = some msg := by rw [hstage]; rfl
    have hunsent : s.unsent = b.todo ++ b.later := by rw [unsent, hstage]; rfl
    have hready : s.stage.phase = .ready := by rw [hstage]; rfl
    dsimp only
    rcases s.transport.sendMigrate s.migration.toNode msg writeErr now with ⟨_ | ch, transport⟩
    · exact effect_failAttempt hcur hunsent rfl ⟨rfl, rfl, rfl⟩ rfl rfl (Or.inl hready)
    · exact .write msg rfl rfl hunsent.symm hcur rfl hready rfl (Network.pending_write _ _) rfl
        rfl
  | _ => exact effect_refl

/-- A wait that ends without an acknowledgement. -/
lemma effect_giveUp {b : Batch} {msg : MigrateDataMessage} {retry ch : ℕ}
    (hstage : s.stage = .waiting b msg retry ch) (hop : o.2 = .timeout ∨ o.2 = .shutdown)
    (transport : PeerTransport) :
    Effect source target s o { s with transport, stage := s.failAttempt b msg retry } := by
  refine effect_failAttempt (by rw [hstage]; rfl) (by rw [unsent, hstage]; rfl) rfl
    ⟨rfl, rfl, rfl⟩ rfl rfl (Or.inr ⟨hop, by rw [hstage]; rfl, fun h => ?_⟩)
  rw [Resends, hstage]
  exact h

lemma effect_handle (k : ℕ) : Effect source target s o (s.handle target k o.1) := by
  have hlose : Effect source target s o { s with network := (s.network.take k).2 } :=
    .lose ⟨rfl, rfl, rfl, rfl⟩ (Network.pending_take_sublist k).subperm rfl rfl
  rw [handle]
  dsimp only [Network.take] at hlose ⊢
  cases hk : s.network.handling[k]? with
  | none => exact hlose
  | some p =>
    obtain ⟨j, msg⟩ := p
    cases hf : target.migrateHandler with
    | none => exact hlose
    | some f =>
      exact .imports f hf j msg ⟨rfl, rfl, rfl, rfl⟩ (Network.pending_take hk) rfl rfl

lemma effect_step : Effect source target s o (s.step source target o) := by
  obtain ⟨now, op⟩ := o
  cases op with
  | exec =>
    rw [step]
    cases hapi : source.brokerAPI with
    | none => exact effect_refl
    | some api => exact effect_exec hapi now
  | send writeErr => exact effect_send writeErr now
  | receive =>
    rw [step]
    cases hstage : s.stage with
    | waiting b msg retry ch =>
      dsimp only
      split_ifs
      · refine .proceed ⟨rfl, rfl, rfl⟩ rfl rfl ?_ ?_ (Or.inr (Or.inl rfl))
        · rw [unsent, unsent, hstage]
          rfl
        · rw [hstage]
          rfl
      · exact effect_refl
    | _ => exact effect_refl
  | timeout =>
    rw [step]
    cases hstage : s.stage with
    | waiting b msg retry ch => exact effect_giveUp hstage (Or.inl rfl) _
    | _ => exact effect_refl
  | shutdown =>
    rw [step]
    cases hstage : s.stage with
    | waiting b msg retry ch => exact effect_giveUp hstage (Or.inr rfl) _
    | _ => exact effect_refl
  | read k => exact .lose ⟨rfl, rfl, rfl, rfl⟩ (Network.pending_read _ k).subperm rfl rfl
  | handle k => exact effect_handle k
  | lose k => exact .lose ⟨rfl, rfl, rfl, rfl⟩ (Network.pending_lose k).subperm rfl rfl
  | crash restored =>
    exact .crash restored rfl ⟨rfl, rfl, rfl, rfl⟩ (Network.pending_drop _).subperm rfl rfl
  | readAck k | loseAck k | cleanup | setStream up =>
    exact .lose ⟨rfl, rfl, rfl, rfl⟩ (List.Subperm.refl _) rfl rfl

/-! ### Each transfer is an exchange -/

/-- The phase of the transfer with a number. -/
def phaseOf (s : Migrating β) (k : ℕ) : Phase :=
  if s.entry < k then .ready else if k = s.entry then s.stage.phase else .finished

/-- A transfer as an exchange. -/
def exchange (s : Migrating β) (k : ℕ) : Exchange :=
  .of (s.phaseOf k) s.network.pending s.imports k

/-- A device that is given up for now, but comes again, was given up only after its data were
lost. -/
def GivesUpLost (s : Migrating β) (o : ℤ × MigratingOp β) : Prop :=
  (o.2 = .timeout ∨ o.2 = .shutdown) → s.Resends →
    Exchange.Lost s.network.pending s.imports s.entry

lemma phaseOf_congr (hentry : s'.entry = s.entry) (hphase : s'.stage.phase = s.stage.phase)
    (k : ℕ) : s'.phaseOf k = s.phaseOf k := by
  rw [phaseOf, phaseOf, hentry, hphase]

lemma phaseOf_self (s : Migrating β) : s.phaseOf s.entry = s.stage.phase := by
  rw [phaseOf, if_neg (lt_irrefl _), if_pos rfl]

lemma phaseOf_of_ne (hentry : s'.entry = s.entry) {k : ℕ} (hk : k ≠ s.entry) :
    s'.phaseOf k = s.phaseOf k := by
  rw [phaseOf, phaseOf, hentry, if_neg hk, if_neg hk]

lemma phaseOf_next (hentry : s'.entry = s.entry + 1) (hphase' : s'.stage.phase ≠ .waiting)
    (k : ℕ) : s'.phaseOf k = s.phaseOf k ∨ s'.phaseOf k = .finished := by
  rw [phaseOf, phaseOf, hentry]
  rcases lt_trichotomy k (s.entry + 1) with hlt | rfl | hgt
  · right
    rw [if_neg (by omega), if_neg (by omega)]
  · rw [if_neg (by omega), if_pos rfl, if_pos (by omega)]
    cases hphase : s'.stage.phase with
    | ready => exact Or.inl rfl
    | waiting => exact absurd hphase hphase'
    | finished => exact Or.inr rfl
  · left
    rw [if_pos hgt, if_pos (by omega)]

/-- The code refines the exchange: if an operation meets the condition, then it is a sequence of
steps of each transfer. -/
lemma steps_exchange (h : s.GivesUpLost o) (k : ℕ) :
    Exchange.Steps (s.exchange k) ((s.step source target o).exchange k) := by
  generalize hs' : s.step source target o = s'
  have heffect : Effect source target s o s' := hs' ▸ effect_step
  have hstage : SameNet s s' → s'.entry = s.entry →
      Exchange.Steps (.of s.stage.phase s.network.pending s.imports s.entry)
        (.of s'.stage.phase s.network.pending s.imports s.entry) →
      Exchange.Steps (s.exchange k) (s'.exchange k) := by
    intro hnet hentry hsteps
    rw [exchange, exchange, hnet.pending, hnet.imports]
    by_cases hk : k = s.entry
    · rw [hk, phaseOf_self, ← hentry, phaseOf_self, hentry]
      exact hsteps
    · rw [phaseOf_of_ne hentry hk]
  cases heffect with
  | lose hexec hpending himports htarget | crash b ho hexec hpending himports htarget =>
    rw [exchange, exchange, phaseOf_congr hexec.entry (by rw [hexec.stage]), himports]
    exact Exchange.steps_lose hpending
  | imports f hf j msg hexec hpending himports htarget =>
    rw [exchange, exchange, phaseOf_congr hexec.entry (by rw [hexec.stage]), himports]
    exact Exchange.steps_handle hpending
  | plain hnet hentry hsource hcur hcur' hunsent =>
    refine hstage hnet hentry ?_
    rw [ExecStage.phase_of_current hcur, ExecStage.phase_of_current hcur']
  | gather api hapi d msg hnet hentry hmsg hsource hcur hcur' hphase' hunsent =>
    rw [exchange, exchange, hnet.pending, hnet.imports]
    rcases phaseOf_next hentry hphase' k with hsame | hfin
    · rw [hsame]
    · rw [hfin]
      exact Exchange.steps_finish
  | write msg hentry hsource hunsent hcur hcur' hphase hphase' hpending himports htarget =>
    rw [exchange, exchange, himports]
    by_cases hk : k = s.entry
    · subst hk
      rw [phaseOf_self, ← hentry, phaseOf_self, hentry, hphase, hphase']
      exact Exchange.steps_write hpending
    · rw [phaseOf_of_ne hentry hk, Exchange.of_write_of_ne hpending (Ne.symm hk)]
  | proceed hnet hentry hsource hunsent hcur hphase =>
    refine hstage hnet hentry ?_
    rcases hphase with hsame | hfin | ⟨hop, hresends, hwait, hready⟩
    · rw [hsame]
    · rw [hfin]
      exact Exchange.steps_finish
    · rw [hwait, hready]
      exact Exchange.steps_retry (h hop hresends)
  | fail msg hnet hentry hsource hunsent hcur hcur' hphase =>
    refine hstage hnet hentry ?_
    rw [ExecStage.phase_of_current hcur']
    exact Exchange.steps_finish
  | delete api hapi msg hnet hentry hsource hunsent hcur hcur' hphase =>
    refine hstage hnet hentry ?_
    rw [ExecStage.phase_of_current hcur', hphase]

end Effects

end Migrating

end Dmqtt.Cluster
