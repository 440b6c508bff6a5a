/-
Cancelling a migration (`Cancel` of `migration.go`).

`Cancel` sets the status of a migration, from another goroutine and at any moment.  `Execute`
never looks at the status: it goes through all devices, and sets the status again at the end.
`cancel_final_iff` says when a migration that is over stays as it is all the same.
-/
import Dmqtt.Cluster.Loss

namespace Dmqtt.Cluster

open Lib Codec Broker

/-- What happens: the migration is cancelled, or `Execute`, the network or the target does
something. -/
inductive SupervisedOp (β : Type)
  | cancel
  | op (o : MigratingOp β)

/-- The operation is a cancellation. -/
def SupervisedOp.isCancel {β : Type} : SupervisedOp β → Bool
  | .cancel => true
  | .op _ => false

/-- `Execute` is over. -/
def ExecStage.isReturned : ExecStage → Bool
  | .returned _ => true
  | _ => false

lemma ShardMigration.isTerminal_iff {m : ShardMigration} :
    m.isTerminal ↔ m.status = .completed ∨ m.status = .failed ∨ m.status = .cancelled := by
  simp [ShardMigration.isTerminal, or_assoc]

lemma ShardMigration.isTerminal_congr {m m' : ShardMigration} (h : m'.status = m.status) :
    m'.isTerminal = m.isTerminal := by
  rw [ShardMigration.isTerminal, ShardMigration.isTerminal, h]

lemma ShardMigration.isTerminal_of_running {m : ShardMigration} (h : m.status = .running) :
    m.isTerminal = false := by
  rw [ShardMigration.isTerminal, h]
  rfl

namespace Migrating

variable {β : Type} (source target : ClusterNode β)

/-- The two nodes after an operation at some instant. -/
def supervise (s : Migrating β) (o : ℤ × SupervisedOp β) : Migrating β :=
  match o.2 with
  | .cancel => { s with migration := s.migration.cancel }
  | .op o' => s.step source target (o.1, o')

/-- The operation deletes the data of a device at the source. -/
def Deletes (s : Migrating β) (o : ℤ × SupervisedOp β) : Prop :=
  o.2 = .op .exec ∧ s.deleting.isSome

/-- Once the migration is over, its status does not change. -/
def Stable (s : Migrating β) (os : List (ℤ × SupervisedOp β)) : Prop :=
  ∀ os₁ os₂, os₁ <+: os₂ → os₂ <+: os →
    (os₁.foldl (supervise source target) s).migration.isTerminal →
    (os₂.foldl (supervise source target) s).migration.status =
      (os₁.foldl (supervise source target) s).migration.status

/-- After the migration is cancelled, only the data of the device are deleted that was being
transferred at that moment. -/
def Contained (s : Migrating β) (os : List (ℤ × SupervisedOp β)) : Prop :=
  ∀ before t after, os = before ++ (t, .cancel) :: after →
    let s' := (before ++ [(t, .cancel)]).foldl (supervise source target) s
    ∀ x ∈ trace (supervise source target) s' after, x.1.Deletes x.2 →
      s'.stage.current.isSome ∧ x.1.entry = s'.entry

/-! ### What an operation does to the status -/

variable {source target} {s : Migrating β}

/-- What an operation, other than a cancellation, does to the status. -/
inductive StatusEffect (s s' : Migrating β) : Prop
  | keep (hstatus : s'.migration.status = s.migration.status)
      (hreturned : s'.stage.isReturned = s.stage.isReturned)
  | run (hstatus : s.migration.status = .pending) (hstatus' : s'.migration.status = .running)
      (hreturned : s.stage.isReturned = false) (hreturned' : s'.stage.isReturned = false)
  | conclude (hstatus' : s'.migration.status = .completed ∨ s'.migration.status = .failed)
      (hreturned : s.stage.isReturned = false) (hreturned' : s'.stage.isReturned = true)

lemma statusEffect_advancePhase {s' : Migrating β}
    (hmigration : s'.migration = s.migration.advancePhase)
    (hreturned : s.stage.isReturned = false) (hreturned' : s'.stage.isReturned = false) :
    StatusEffect s s' := by
  by_cases hpending : s.migration.status = .pending
  · refine .run hpending ?_ hreturned hreturned'
    rw [hmigration, ShardMigration.advancePhase, if_pos hpending]
  · refine .keep ?_ (hreturned'.trans hreturned.symm)
    rw [hmigration, ShardMigration.advancePhase, if_neg hpending]

lemma isReturned_failAttempt (b : Batch) (msg : MigrateDataMessage) (retry : ℕ) :
    (s.failAttempt b msg retry).isReturned = false := by
  rw [failAttempt]
  split_ifs <;> rfl

lemma statusEffect_exec (api : MigrationBrokerAPI β) (now : ℤ) :
    StatusEffect s (s.exec api now) := by
  have hreturned : ∀ {stage}, s.stage = stage → s.stage.isReturned = stage.isReturned :=
    congrArg ExecStage.isReturned
  rw [exec]
  cases hstage : s.stage with
  | prepare | handshake | migrate | redirect | finishing =>
    exact statusEffect_advancePhase rfl (hreturned hstage) rfl
  | marking rest | batches rest | clearing rest =>
    cases rest <;> exact .keep rfl (hreturned hstage).symm
  | device b =>
    obtain ⟨todo, later, migrated, failed⟩ := b
    cases todo with
    | nil => exact .keep rfl (hreturned hstage).symm
    | cons d todo =>
      refine .keep rfl (Eq.trans ?_ (hreturned hstage).symm)
      dsimp only [gather]
      split_ifs <;> rfl
  | cleanup b msg => exact .keep rfl (hreturned hstage).symm
  | concluding =>
    dsimp only [conclude]
    split_ifs
    · exact .conclude (.inr rfl) (hreturned hstage) rfl
    · exact .conclude (.inl rfl) (hreturned hstage) rfl
  | _ => exact .keep rfl rfl

variable (source target s) in
lemma statusEffect_step (o : ℤ × MigratingOp β) : StatusEffect s (s.step source target o) := by
  have hwaiting : ∀ {b msg retry ch}, s.stage = .waiting b msg retry ch →
      s.stage.isReturned = false := congrArg ExecStage.isReturned
  obtain ⟨now, op⟩ := o
  rw [step]
  cases op with
  | exec =>
    dsimp only
    split
    · exact .keep rfl rfl
    · exact statusEffect_exec _ now
  | send writeErr =>
    dsimp only [send]
    split
    next b msg retry hstage =>
      have hreturned : s.stage.isReturned = false := congrArg ExecStage.isReturned hstage
      split
      · exact .keep rfl hreturned.symm
      · exact .keep rfl ((isReturned_failAttempt b msg retry).trans hreturned.symm)
    next => exact .keep rfl rfl
  | receive =>
    dsimp only
    split
    next hstage =>
      split_ifs
      · exact .keep rfl (hwaiting hstage).symm
      · exact .keep rfl rfl
    next => exact .keep rfl rfl
  | timeout | shutdown =>
    dsimp only
    split
    next b msg retry ch hstage =>
      exact .keep rfl ((isReturned_failAttempt b msg retry).trans (hwaiting hstage).symm)
    next => exact .keep rfl rfl
  | handle k =>
    dsimp only [handle]
    split <;> exact .keep rfl rfl
  | _ => exact .keep rfl rfl

/-! ### Runs -/

lemma isReturned_supervise (h : s.stage.isReturned) (o : ℤ × SupervisedOp β) :
    (s.supervise source target o).stage.isReturned := by
  obtain ⟨t, _ | o⟩ := o
  · exact h
  · cases statusEffect_step source target s (t, o) with
    | keep hstatus hreturned => exact hreturned.trans h
    | run hstatus hstatus' hreturned hreturned' => exact absurd h (by rw [hreturned]; exact nofun)
    | conclude hstatus' hreturned hreturned' => exact hreturned'

lemma isReturned_foldl (h : s.stage.isReturned) (os : List (ℤ × SupervisedOp β)) :
    (os.foldl (supervise source target) s).stage.isReturned := by
  refine List.foldlRecOn (motive := fun s : Migrating β => s.stage.isReturned) os _ h ?_
  exact fun s hs o _ => isReturned_supervise hs o

variable {os : List (ℤ × SupervisedOp β)}

/-- Unless it is cancelled, a migration that `Execute` is through with keeps its status. -/
lemma status_foldl_of_isReturned (h : s.stage.isReturned) (hcancel : ∀ t, (t, .cancel) ∉ os) :
    (os.foldl (supervise source target) s).migration.status = s.migration.status := by
  induction os generalizing s with
  | nil => rfl
  | cons o os ih =>
    obtain ⟨t, _ | o⟩ := o
    · exact absurd List.mem_cons_self (hcancel t)
    · rw [List.foldl_cons, ih (isReturned_supervise h _) fun t' h' =>
        hcancel t' (List.mem_cons_of_mem _ h')]
      cases statusEffect_step source target s (t, o) with
      | keep hstatus hreturned => exact hstatus
      | run hstatus hstatus' hreturned hreturned' =>
        exact absurd h (by rw [hreturned]; exact nofun)
      | conclude hstatus' hreturned hreturned' => exact absurd h (by rw [hreturned]; exact nofun)

/-- As long as `Execute` is not through, a migration is over exactly if it was cancelled. -/
lemma status_foldl (hs : s.migration.status = .pending)
    (h : (os.foldl (supervise source target) s).stage.isReturned = false) :
    let m := (os.foldl (supervise source target) s).migration
    ((∃ t, (t, .cancel) ∈ os) → m.status = .cancelled) ∧
      ((∀ t, (t, .cancel) ∉ os) → m.isTerminal = false) := by
  induction os using List.reverseRecOn with
  | nil =>
    refine ⟨fun ⟨_, h⟩ => absurd h List.not_mem_nil, fun _ => ?_⟩
    dsimp only [List.foldl_nil]
    rw [ShardMigration.isTerminal, hs]
    rfl
  | append_singleton os o ih =>
    rw [List.foldl_concat] at h ⊢
    have hbefore : (os.foldl (supervise source target) s).stage.isReturned = false := by
      by_contra hreturned
      rw [isReturned_supervise (Bool.eq_true_of_not_eq_false hreturned)] at h
      cases h
    obtain ⟨hsome, hnone⟩ := ih hbefore
    obtain ⟨t, _ | o⟩ := o
    · refine ⟨fun _ => rfl, fun hcancel => ?_⟩
      exact absurd (List.mem_append_right _ (List.mem_singleton_self _)) (hcancel t)
    · have hmem : ∀ t', (t', SupervisedOp.cancel) ∈ os ++ [(t, .op o)] ↔ (t', .cancel) ∈ os := by
        simp
      simp only [hmem]
      cases statusEffect_step source target (os.foldl (supervise source target) s) (t, o) with
      | keep hstatus hreturned =>
        refine ⟨fun hcancel => hstatus.trans (hsome hcancel), fun hcancel => ?_⟩
        exact (ShardMigration.isTerminal_congr hstatus).trans (hnone hcancel)
      | run hstatus hstatus' hreturned hreturned' =>
        constructor
        · intro hcancel
          cases hstatus.symm.trans (hsome hcancel)
        · intro _
          exact ShardMigration.isTerminal_of_running hstatus'
      | conclude hstatus' hreturned hreturned' =>
        exact absurd h (by rw [supervise, hreturned']; exact nofun)

lemma status_of_concludes {o : ℤ × SupervisedOp β} (h : ¬ s.stage.isReturned)
    (h' : (s.supervise source target o).stage.isReturned) :
    let m := (s.supervise source target o).migration
    m.isTerminal ∧ m.status ≠ .cancelled := by
  obtain ⟨t, _ | o⟩ := o
  · exact absurd h' h
  · cases statusEffect_step source target s (t, o) with
    | keep hstatus hreturned => exact absurd (hreturned.symm.trans h') h
    | run hstatus hstatus' hreturned hreturned' => cases hreturned'.symm.trans h'
    | conclude hstatus' hreturned hreturned' =>
      dsimp only
      rw [ShardMigration.isTerminal_iff]
      rcases hstatus' with hstatus' | hstatus'
      · exact ⟨.inl hstatus', fun hne => by cases hstatus'.symm.trans hne⟩
      · exact ⟨.inr (.inl hstatus'), fun hne => by cases hstatus'.symm.trans hne⟩

/-- `Execute` is not through before the end of a run unless it is at the end. -/
lemma not_isReturned_before {os' : List (ℤ × SupervisedOp β)} (h : os <+: os')
    (hend : (os'.foldl (supervise source target) s).stage.isReturned = false) :
    (os.foldl (supervise source target) s).stage.isReturned = false := by
  obtain ⟨rest, rfl⟩ := h
  by_contra htrue
  rw [List.foldl_append, isReturned_foldl (Bool.eq_true_of_not_eq_false htrue)] at hend
  cases hend

/-- If the status is stable, a migration that is cancelled is not executed to its end. -/
lemma Stable.isReturned (hstable : Stable source target s os)
    (hs : s.migration.status = .pending) (hstage : s.stage.isReturned = false) {t : ℤ}
    (hcancel : (t, .cancel) ∈ os) :
    (os.foldl (supervise source target) s).stage.isReturned = false := by
  by_contra hreturned
  -- `Execute` sets the status once, with its last step
  obtain ⟨before, o, after, rfl, hbefore, hafter⟩ :=
    exists_acquiring (p := fun s : Migrating β => s.stage.isReturned)
      (by rw [hstage]; exact nofun) (Bool.eq_true_of_not_eq_false hreturned)
  have hconcat := List.foldl_concat (supervise source target) s o before
  rw [hconcat] at hafter
  obtain ⟨hterminal, hstatus⟩ := status_of_concludes hbefore hafter
  rw [← hconcat] at hterminal hstatus
  rcases List.mem_append.1 hcancel with hcancel | hcancel
  · -- it was cancelled before
    have hcancelled := (status_foldl hs (Bool.eq_false_of_not_eq_true hbefore)).1 ⟨t, hcancel⟩
    refine hstatus ((hstable before (before ++ [o]) ⟨[o], rfl⟩ ⟨after, by simp⟩ ?_).trans
      hcancelled)
    exact ShardMigration.isTerminal_iff.2 (.inr (.inr hcancelled))
  · -- it is cancelled afterwards
    rcases List.mem_cons.1 hcancel with rfl | hcancel
    · rw [List.foldl_concat] at hstatus
      exact hstatus rfl
    obtain ⟨mid, after, rfl⟩ := List.mem_iff_append.1 hcancel
    refine hstatus ((hstable (before ++ [o]) (before ++ [o] ++ mid ++ [(t, .cancel)]) ?_ ?_
      hterminal).symm.trans ?_)
    · exact ⟨mid ++ [(t, .cancel)], by simp⟩
    · exact ⟨after, by simp⟩
    · rw [List.foldl_concat]
      rfl

lemma stable_of_not_isReturned (hs : s.migration.status = .pending)
    (hend : (os.foldl (supervise source target) s).stage.isReturned = false) :
    Stable source target s os := by
  rintro os₁ _ ⟨mid, rfl⟩ h₂ hterminal
  have hmid := not_isReturned_before h₂ hend
  have hfirst := status_foldl hs (not_isReturned_before ⟨mid, rfl⟩ hmid)
  have hcancel : ∃ t, (t, SupervisedOp.cancel) ∈ os₁ := by
    by_contra hnone
    rw [hfirst.2 (not_exists.1 hnone)] at hterminal
    cases hterminal
  obtain ⟨t, ht⟩ := hcancel
  rw [hfirst.1 ⟨t, ht⟩]
  exact (status_foldl hs hmid).1 ⟨t, List.mem_append_left _ ht⟩

/-- Without a cancellation only `Execute` ends the migration. -/
lemma stable_of_not_cancelled (hs : s.migration.status = .pending)
    (hcancel : ∀ t, (t, .cancel) ∉ os) : Stable source target s os := by
  rintro os₁ _ ⟨mid, rfl⟩ ⟨after, rfl⟩ hterminal
  have hreturned : (os₁.foldl (supervise source target) s).stage.isReturned := by
    by_contra hfalse
    have hnone := (status_foldl hs (Bool.eq_false_of_not_eq_true hfalse)).2 fun t ht =>
      hcancel t (List.mem_append_left _ (List.mem_append_left _ ht))
    rw [hnone] at hterminal
    cases hterminal
  rw [List.foldl_append]
  exact status_foldl_of_isReturned hreturned fun t ht =>
    hcancel t (List.mem_append_left _ (List.mem_append_right _ ht))

/-- The status is stable exactly if a migration that is cancelled is not executed to its end. -/
lemma stable_iff (hs : s.migration.status = .pending) (hstage : s.stage.isReturned = false) :
    Stable source target s os ↔ ((∃ t, (t, .cancel) ∈ os) →
      (os.foldl (supervise source target) s).stage.isReturned = false) := by
  constructor
  · rintro hstable ⟨t, hcancel⟩
    exact hstable.isReturned hs hstage hcancel
  · intro h
    by_cases hcancel : ∃ t, (t, SupervisedOp.cancel) ∈ os
    · exact stable_of_not_isReturned hs (h hcancel)
    · exact stable_of_not_cancelled hs (not_exists.1 hcancel)

/-! ### The devices -/

/-- Devices come up one after the other, and a transfer that is under way was under way before,
unless a device came up. -/
lemma entry_supervise (source target : ClusterNode β) (s : Migrating β)
    (o : ℤ × SupervisedOp β) :
    let s' := s.supervise source target o
    s.entry ≤ s'.entry ∧
      (s'.entry = s.entry → s'.stage.current.isSome → s.stage.current.isSome) := by
  obtain ⟨t, _ | o⟩ := o
  · exact ⟨le_rfl, fun _ h => h⟩
  · have hsame : ∀ {s' : Migrating β}, SameExec s s' → s.entry ≤ s'.entry ∧
        (s'.entry = s.entry → s'.stage.current.isSome → s.stage.current.isSome) := by
      intro s' hexec
      rw [hexec.entry, hexec.stage]
      exact ⟨le_rfl, fun _ h => h⟩
    have hnone : ∀ {s' : Migrating β}, s'.entry = s.entry → s'.stage.current = none →
        s.entry ≤ s'.entry ∧
          (s'.entry = s.entry → s'.stage.current.isSome → s.stage.current.isSome) := by
      intro s' hentry hcur
      rw [hentry, hcur]
      exact ⟨le_rfl, nofun⟩
    cases (effect_step : Effect source target s (t, o) (s.step source target (t, o))) with
    | lose hexec | crash b ho hexec | imports f hf j msg hexec => exact hsame hexec
    | plain hnet hentry hsource hcur hcur' => exact hnone hentry hcur'
    | gather api hapi d msg hnet hentry =>
      dsimp only [supervise]
      omega
    | write msg hentry hsource hunsent hcur => exact ⟨hentry.ge, fun _ _ => by rw [hcur]; rfl⟩
    | proceed hnet hentry hsource hunsent hcur => exact ⟨hentry.ge, fun _ h => by rwa [← hcur]⟩
    | fail msg hnet hentry hsource hunsent hcur hcur'
    | delete api hapi msg hnet hentry hsource hunsent hcur hcur' => exact hnone hentry hcur'

lemma entry_le_foldl (s : Migrating β) (os : List (ℤ × SupervisedOp β)) :
    s.entry ≤ (os.foldl (supervise source target) s).entry := by
  induction os generalizing s with
  | nil => exact le_rfl
  | cons o os ih => exact (entry_supervise source target s o).1.trans (ih _)

/-- In a run in which no device comes up there is only the transfer that was under way. -/
lemma current_of_mem_trace (h : (os.foldl (supervise source target) s).entry = s.entry) :
    ∀ x ∈ trace (supervise source target) s os,
      x.1.entry = s.entry ∧ (x.1.stage.current.isSome → s.stage.current.isSome) := by
  induction os generalizing s with
  | nil => simp [trace]
  | cons o os ih =>
    obtain ⟨hle, hcurrent⟩ := entry_supervise source target s o
    have hentry : (s.supervise source target o).entry = s.entry :=
      le_antisymm ((entry_le_foldl _ os).trans h.le) hle
    intro x hx
    rcases List.mem_cons.1 hx with rfl | hx
    · exact ⟨rfl, id⟩
    · obtain ⟨hx₁, hx₂⟩ := ih (h.trans hentry.symm) x hx
      exact ⟨hx₁.trans hentry, fun hsome => hcurrent hentry (hx₂ hsome)⟩

lemma current_of_deletes {o : ℤ × SupervisedOp β} (h : s.Deletes o) : s.stage.current.isSome := by
  have hsome := h.2
  rw [deleting] at hsome
  split at hsome
  next hstage =>
    rw [hstage]
    rfl
  next => cases hsome

/-- **When a migration that is over stays as it is.**  If no further device comes up after a
migration is cancelled, then its status does not change any more once it is completed, failed or
cancelled, and only the data of the device are deleted that was being transferred when it was
cancelled, if and only if a migration that is cancelled is not executed to its end. -/
theorem cancel_final_iff (source target : ClusterNode β) {m : ShardMigration}
    (hm : m.status = .pending) (connIdx : ConnectionIndex) (transport : PeerTransport)
    (bsource btarget : β) {os : List (ℤ × SupervisedOp β)}
    (h : ∀ x ∈ trace (supervise source target) (init m connIdx transport bsource btarget) os,
      x.2.2.isCancel → (os.foldl (supervise source target)
        (init m connIdx transport bsource btarget)).entry = x.1.entry) :
    (Stable source target (init m connIdx transport bsource btarget) os ∧
        Contained source target (init m connIdx transport bsource btarget) os) ↔
      ((∃ t, (t, .cancel) ∈ os) →
        (os.foldl (supervise source target)
          (init m connIdx transport bsource btarget)).stage.isReturned = false) := by
  rw [stable_iff (s := init m connIdx transport bsource btarget) hm rfl]
  refine and_iff_left ?_
  intro before t after hos
  have hentry := h _ (hos ▸ mem_trace_append) rfl
  rw [hos, List.append_cons, List.foldl_append] at hentry
  intro s' x hx hdeletes
  obtain ⟨hx₁, hx₂⟩ := current_of_mem_trace (hentry.trans (by rw [List.foldl_concat]; rfl)) x hx
  exact ⟨hx₂ (current_of_deletes hdeletes), hx₁⟩

/-! ### Two devices -/

/-- An operation on two brokers. -/
abbrev SupervisedDeviceOp := ℤ × SupervisedOp (BrokerState BrokerState.TenantChain Unit)

/-- The devices `d` and `e` are to be migrated to the node `B`. -/
def devicesStart : Migrating (BrokerState BrokerState.TenantChain Unit) :=
  init (.new (str "m") (str "A") (str "B") [str "d", str "e"] ⟨1000, 3⟩) .new
    ((PeerTransport.new.addPeer (str "B")).setStream (str "B") true) (.new () none) (.new () none)

/-- `Execute` gets to its first call of `SendMigrate`, and the migration is cancelled. -/
def cancelledRun : List SupervisedDeviceOp :=
  List.replicate 8 (0, .op .exec) ++ [(0, .op (.send none)), (0, .cancel)]

/-- The data of the device that is being transferred arrive, and are deleted. -/
def transferRun : List SupervisedDeviceOp :=
  [(second, .op (.read 0)), (second, .op (.readAck 0)), (second, .op .receive),
    (second, .op .exec)]

/-- The first device is migrated to the end; nothing more is done. -/
theorem cancel_final_iff_first :
    Stable (.configured _ _) (.configured _ _) devicesStart (cancelledRun ++ transferRun) ∧
      Contained (.configured _ _) (.configured _ _) devicesStart (cancelledRun ++ transferRun) :=
  (cancel_final_iff (.configured _ _) (.configured _ _) rfl _ _ _ _ (by decide +kernel)).2
    fun _ => by decide +kernel

/-- The other device comes up, and its data arrive. -/
def nextRun : List SupervisedDeviceOp :=
  [(second, .op .exec), (second, .op (.send none)), (second, .op (.read 0)),
    (second, .op (.readAck 0)), (second, .op .receive)]

/-- The data of the other device are deleted although the migration was cancelled before it came
up, and in the end the migration is completed. -/
theorem cancel_not_final :
    let s := cancelledRun.foldl (supervise (.configured _ _) (.configured _ _)) devicesStart
    let s₁ := (transferRun ++ nextRun).foldl (supervise (.configured _ _) (.configured _ _)) s
    let s₂ := (List.replicate 10 (second, .op .exec) : List SupervisedDeviceOp).foldl
      (supervise (.configured _ _) (.configured _ _)) s₁
    (s.migration.status = .cancelled ∧ s.stage.current.map (·.deviceID) = some (str "d")) ∧
      (s₁.migration.status = .cancelled ∧ s₁.deleting = some (str "e")) ∧
      s₂.migration.status = .completed := by
  decide +kernel

end Migrating

end Dmqtt.Cluster
