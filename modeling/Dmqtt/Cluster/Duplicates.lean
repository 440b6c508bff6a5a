/-
Migration duplicates data.

If the callback of the target is `ImportMigrateData`, then data are imported as often as they
arrive, and the source sends them again if an acknowledgement does not come in time.
`duplicatesNothing` says in which runs the target does not hold a message twice: copies of the
data of a device are counted together with what the source has of it.
-/
import Dmqtt.Cluster.Loss

namespace Dmqtt.Cluster.Migrating

open Lib Codec Broker

/-! ### Counting messages -/

section Counting

variable {β : Type} {s s' : Migrating β}

/-- Data of devices that were sent and not lost. -/
def copies (s : Migrating β) : List (ℕ × MigrateDataMessage) := s.network.pending ++ s.imports

/-- Those of the transfers before the current one. -/
def others (s : Migrating β) : List (ℕ × MigrateDataMessage) :=
  s.copies.filter fun p => p.1 ≠ s.entry

/-- How often a message of a device is among the data. -/
def load (d : Str) (x : MigrateOfflineMsg) (l : List (ℕ × MigrateDataMessage)) : ℕ :=
  (l.flatMap fun p => if p.2.deviceID = d then p.2.messages else []).count x

variable {d : Str} {x : MigrateOfflineMsg} {l l' : List (ℕ × MigrateDataMessage)}

lemma load_append (l l' : List (ℕ × MigrateDataMessage)) :
    load d x (l ++ l') = load d x l + load d x l' := by
  rw [load, List.flatMap_append, List.count_append, load, load]

lemma load_singleton (k : ℕ) (msg : MigrateDataMessage) :
    load d x [(k, msg)] = if msg.deviceID = d then msg.messages.count x else 0 := by
  rw [load, List.flatMap_singleton]
  split_ifs <;> rfl

lemma load_perm (h : l.Perm l') : load d x l = load d x l' :=
  (h.flatMap fun _ _ => List.Perm.refl _).count_eq x

lemma load_subperm (h : l'.Subperm l) : load d x l' ≤ load d x l := by
  obtain ⟨l'', hperm, hsub⟩ := h
  rw [← load_perm hperm]
  exact (hsub.flatMap _).count_le x

lemma copies_subperm (hpending : s'.network.pending.Subperm s.network.pending)
    (himports : s'.imports = s.imports) : s'.copies.Subperm s.copies := by
  rw [copies, copies, himports]
  exact hpending.append (List.Subperm.refl _)

lemma copies_eq (hnet : SameNet s s') : s'.copies = s.copies := by
  rw [copies, copies, hnet.pending, hnet.imports]

lemma others_of_lost (h : Exchange.Lost s.network.pending s.imports s.entry) :
    s.others = s.copies := by
  refine List.filter_eq_self.2 fun p hp => ?_
  rcases List.mem_append.1 hp with hp | hp
  · simpa using h.1 p hp
  · simpa using h.2 p hp

end Counting

/-! ### The invariant -/

variable {σ ρ : Type} {s s' : Migrating (BrokerState σ ρ)}
  {o : ℤ × MigratingOp (BrokerState σ ρ)} {d : Str} {x : MigrateOfflineMsg} {q : ℕ}

/-- The invariant for a message of a device of which the source had `q` at first.  Before the
data of the device are sent, those on the source and the copies count together; while they are
sent, those on the source count instead of their own copies. -/
structure Balanced (d : Str) (x : MigrateOfflineMsg) (q : ℕ)
    (s : Migrating (BrokerState σ ρ)) : Prop where
  target_le : s.target.offlineStore.stock d x ≤ load d x s.imports
  copies_le : load d x s.copies ≤ q
  unsent_le : d ∈ s.unsent → (∀ msg ∈ s.stage.current, msg.deviceID ≠ d) →
    load d x s.copies + s.source.offlineStore.stock d x ≤ q
  current_le : ∀ msg ∈ s.stage.current, msg.deviceID = d →
    load d x s.others + s.source.offlineStore.stock d x ≤ q ∧
      load d x s.others + msg.messages.count x ≤ q

/-- Copies that get lost do no harm. -/
lemma Balanced.shrink (h : Balanced d x q s) (hexec : SameExec s s')
    (hcopies : s'.copies.Subperm s.copies)
    (htarget : s'.target.offlineStore.stock d x ≤ load d x s'.imports) : Balanced d x q s' where
  target_le := htarget
  copies_le := (load_subperm hcopies).trans h.copies_le
  unsent_le hd hcur := by
    rw [hexec.unsent] at hd
    rw [hexec.stage] at hcur
    rw [hexec.source]
    exact (Nat.add_le_add_right (load_subperm hcopies) _).trans (h.unsent_le hd hcur)
  current_le msg hmsg hdev := by
    rw [hexec.stage] at hmsg
    have hothers : load d x s'.others ≤ load d x s.others := by
      rw [others, others, hexec.entry]
      exact load_subperm (hcopies.filter _)
    obtain ⟨hsource, hdata⟩ := h.current_le msg hmsg hdev
    rw [hexec.source]
    exact ⟨(Nat.add_le_add_right hothers _).trans hsource,
      (Nat.add_le_add_right hothers _).trans hdata⟩

/-- A step of `Execute` that leaves the network alone: what is to be shown of the source. -/
lemma Balanced.exec (h : Balanced d x q s) (hnet : SameNet s s')
    (hunsent : d ∈ s'.unsent → (∀ msg ∈ s'.stage.current, msg.deviceID ≠ d) →
      load d x s.copies + s'.source.offlineStore.stock d x ≤ q)
    (hcurrent : ∀ msg ∈ s'.stage.current, msg.deviceID = d →
      load d x (s.copies.filter fun p => p.1 ≠ s'.entry) + s'.source.offlineStore.stock d x ≤ q ∧
        load d x (s.copies.filter fun p => p.1 ≠ s'.entry) + msg.messages.count x ≤ q) :
    Balanced d x q s' where
  target_le := by
    rw [hnet.target, hnet.imports]
    exact h.target_le
  copies_le := by
    rw [copies_eq hnet]
    exact h.copies_le
  unsent_le hd hcur := by
    rw [copies_eq hnet]
    exact hunsent hd hcur
  current_le msg hmsg hdev := by
    rw [others, copies_eq hnet]
    exact hcurrent msg hmsg hdev

/-- The data of a device are collected: what is on the source counts for them from now on. -/
lemma Balanced.gather (h : Balanced d x q s) {dev : Str} {msg : MigrateDataMessage} {now : ℤ}
    (hnet : SameNet s s')
    (hmsg : msg.deviceID = dev ∧
      msg.messages = ((s.source.disconnectDevice dev).getOfflineMessages dev now).1)
    (hsource : s'.source = ((s.source.disconnectDevice dev).getOfflineMessages dev now).2)
    (hcur : s.stage.current = none) (hcur' : s'.stage.current = some msg)
    (hunsent : s.unsent = dev :: s'.unsent) : Balanced d x q s' := by
  have hnone : ∀ msg ∈ s.stage.current, msg.deviceID ≠ d :=
    ExecStage.forall_current_of_none hcur
  obtain ⟨hexport, hleft⟩ := BrokerState.stock_getOfflineMessages
    (b := s.source.disconnectDevice dev) dev d now x
  rw [BrokerState.offlineStore_disconnectDevice] at hexport hleft
  rw [← hmsg.2] at hexport
  rw [← hsource] at hleft
  refine h.exec hnet (fun hd _ => ?_) (ExecStage.forall_current_of_some hcur' fun hdev => ?_)
  · have hbefore := h.unsent_le (by rw [hunsent]; exact List.mem_cons_of_mem _ hd) hnone
    omega
  · have hdev' : dev = d := hmsg.1.symm.trans hdev
    have hbefore := h.unsent_le (by rw [hunsent, hdev']; exact List.mem_cons_self) hnone
    have hfilter : load d x (s.copies.filter fun p => p.1 ≠ s'.entry) ≤ load d x s.copies :=
      load_subperm List.filter_sublist.subperm
    rw [hdev'] at hexport
    omega

/-- The data of the current device are written: there is no other copy of them. -/
lemma Balanced.write (h : Balanced d x q s) {msg : MigrateDataMessage}
    (hentry : s'.entry = s.entry) (hsource : s'.source = s.source)
    (hunsent : s'.unsent = s.unsent) (hcur : s.stage.current = some msg)
    (hcur' : s'.stage.current = some msg) (hothers : s.others = s.copies)
    (hpending : s'.network.pending.Perm ((s.entry, msg) :: s.network.pending))
    (himports : s'.imports = s.imports) (htarget : s'.target = s.target) : Balanced d x q s' := by
  have hcopies : s'.copies.Perm ((s.entry, msg) :: s.copies) := by
    rw [copies, himports]
    exact hpending.append_right _
  have hload : load d x s'.copies =
      (if msg.deviceID = d then msg.messages.count x else 0) + load d x s.copies := by
    rw [load_perm hcopies, ← List.singleton_append, load_append, load_singleton]
  have hothers' : load d x s'.others = load d x s.others := by
    rw [others, others, hentry, load_perm (hcopies.filter _), List.filter_cons_of_neg (by simp)]
  refine ⟨?_, ?_, fun hd hne => ?_, fun msg' hmem hdev => ?_⟩
  · rw [htarget, himports]
    exact h.target_le
  · rw [hload]
    split_ifs with hdev
    · rw [Nat.add_comm, ← hothers]
      exact (h.current_le msg hcur hdev).2
    · rw [Nat.zero_add]
      exact h.copies_le
  · have hdev : msg.deviceID ≠ d := hne msg hcur'
    rw [hload, if_neg hdev, Nat.zero_add, hsource]
    exact h.unsent_le (hunsent ▸ hd) (ExecStage.forall_current_of_some hcur hdev)
  · rw [hothers', hsource]
    rw [hcur', ← hcur] at hmem
    exact h.current_le msg' hmem hdev

lemma balanced_step (h : Balanced d x q s) (hone : (s.exchange s.entry).AtMostOnce)
    (hlost : s.GivesUpLost o)
    (hcrash : ∀ b, o.2 = .crash b → b.offlineStore.PartOf s.target.offlineStore) :
    Balanced d x q (s.step (.configured σ ρ) (.importing σ ρ) o) := by
  generalize hs' : s.step (.configured σ ρ) (.importing σ ρ) o = s'
  have heffect : Effect (.configured σ ρ) (.importing σ ρ) s o s' := hs' ▸ effect_step
  have hready : s.stage.phase = .ready → s.others = s.copies := by
    intro hphase
    rw [exchange, phaseOf_self, hphase] at hone
    exact others_of_lost hone.lost
  cases heffect with
  | lose hexec hpending himports htarget =>
    refine h.shrink hexec (copies_subperm hpending himports) ?_
    rw [htarget, himports]
    exact h.target_le
  | crash b ho hexec hpending himports htarget =>
    refine h.shrink hexec (copies_subperm hpending himports) ?_
    rw [htarget, himports]
    exact ((hcrash b ho).stock_le d x).trans h.target_le
  | imports f hf j msg hexec hpending himports htarget =>
    cases hf
    have hcopies : s'.copies.Perm s.copies := by
      rw [copies, copies, himports, ← List.append_assoc]
      refine (List.perm_append_singleton _ _).trans ?_
      exact (hpending.append_right _).symm
    refine h.shrink hexec hcopies.subperm ?_
    rw [htarget, himports, load_append, load_singleton]
    have himport := BrokerState.stock_importMigrateData_le (b := s.target) msg d o.1 x
    simp only [eq_comm (a := d)] at himport
    exact himport.trans (Nat.add_le_add_right h.target_le _)
  | plain hnet hentry hsource hcur hcur' hunsent =>
    refine h.exec hnet (fun hd _ => ?_) (ExecStage.forall_current_of_none hcur')
    rw [hsource]
    exact h.unsent_le (hunsent hd) (ExecStage.forall_current_of_none hcur)
  | gather api hapi dev msg hnet hentry hmsg hsource hcur hcur' hphase' hunsent =>
    cases hapi
    exact h.gather hnet hmsg hsource hcur hcur' hunsent
  | write msg hentry hsource hunsent hcur hcur' hphase hphase' hpending himports htarget =>
    exact h.write hentry hsource hunsent hcur hcur' (hready hphase) hpending himports htarget
  | proceed hnet hentry hsource hunsent hcur hphase =>
    refine h.exec hnet (fun hd hne => ?_) fun msg hmem hdev => ?_
    · rw [hsource]
      exact h.unsent_le (hunsent ▸ hd) (hcur ▸ hne)
    · rw [hsource, hentry]
      exact h.current_le msg (hcur ▸ hmem) hdev
  | fail msg hnet hentry hsource hunsent hcur hcur' hphase =>
    refine h.exec hnet (fun hd _ => ?_) (ExecStage.forall_current_of_none hcur')
    rw [hunsent] at hd
    rw [hsource]
    by_cases hdev : msg.deviceID = d
    · -- the device comes again, so that its data were lost
      have hothers : s.others = s.copies := by
        rcases hphase with hphase | ⟨hop, hresends⟩
        · exact hready hphase
        · exact others_of_lost (hlost hop (hresends (hdev ▸ hd)))
      rw [← hothers]
      exact (h.current_le msg hcur hdev).1
    · exact h.unsent_le hd (ExecStage.forall_current_of_some hcur hdev)
  | delete api hapi msg hnet hentry hsource hunsent hcur hcur' hphase =>
    cases hapi
    have hstock : s'.source.offlineStore.stock d x =
        if d = msg.deviceID then 0 else s.source.offlineStore.stock d x := by
      rw [hsource]
      exact BrokerState.stock_deleteOfflineMessages msg.deviceID d x
    refine h.exec hnet (fun hd _ => ?_) (ExecStage.forall_current_of_none hcur')
    rw [hstock]
    split_ifs with hdev
    · exact h.copies_le
    · exact h.unsent_le (hunsent ▸ hd)
        (ExecStage.forall_current_of_some hcur fun heq => hdev heq.symm)

/-- The condition on an operation: a wait of `SendMigrate` that ends without an acknowledgement,
after which the data of the device are sent or collected again, ends after the frame was lost; and
a target that crashes comes up with no messages that it did not have. -/
def Meets (s : Migrating (BrokerState σ ρ)) (o : ℤ × MigratingOp (BrokerState σ ρ)) : Prop :=
  match o.2 with
  | .timeout => s.Resends → Exchange.Lost s.network.pending s.imports s.entry
  | .shutdown => s.Resends → Exchange.Lost s.network.pending s.imports s.entry
  | .crash b => b.offlineStore.PartOf s.target.offlineStore
  | _ => True

lemma Meets.givesUpLost (h : s.Meets o) : s.GivesUpLost o := by
  rintro (ho | ho) hresends
  · rw [Meets, ho] at h
    exact h hresends
  · rw [Meets, ho] at h
    exact h hresends

lemma Meets.partOf (h : s.Meets o) (b : BrokerState σ ρ) (ho : o.2 = .crash b) :
    b.offlineStore.PartOf s.target.offlineStore := by
  rw [Meets, ho] at h
  exact h

/-- **Migration duplicates nothing.**  If the target's callback is `ImportMigrateData` and its
queue for a device is empty at first, then in every run whose operations all meet the condition
the target holds each message of the device at most as often as the source did at first. -/
theorem duplicatesNothing (m : ShardMigration) (connIdx : ConnectionIndex)
    (transport : PeerTransport) (bsource btarget : BrokerState σ ρ)
    (os : List (ℤ × MigratingOp (BrokerState σ ρ)))
    (h : ∀ x ∈ trace (step (.configured σ ρ) (.importing σ ρ))
      (init m connIdx transport bsource btarget) os, x.1.Meets x.2)
    (d : Str) (hempty : btarget.offlineStore.queue d = []) (x : MigrateOfflineMsg) :
    (os.foldl (step (.configured σ ρ) (.importing σ ρ))
        (init m connIdx transport bsource btarget)).target.offlineStore.stock d x ≤
      bsource.offlineStore.stock d x := by
  have hinit : ∀ k, ((init m connIdx transport bsource btarget).exchange k).AtMostOnce :=
    fun k => ⟨Nat.zero_le 1, fun _ => rfl⟩
  have hbalanced : Balanced d x (bsource.offlineStore.stock d x)
      (init m connIdx transport bsource btarget) := by
    refine ⟨?_, Nat.zero_le _, fun _ _ => ?_, fun msg hmem => ?_⟩
    · show btarget.offlineStore.stock d x ≤ _
      rw [OfflineStore.stock, hempty]
      exact Nat.zero_le _
    · show 0 + bsource.offlineStore.stock d x ≤ _
      rw [Nat.zero_add]
    · cases hmem
  have hrun := foldl_invariant
    (fun s : Migrating (BrokerState σ ρ) => Balanced d x (bsource.offlineStore.stock d x) s ∧
      ∀ k, (s.exchange k).AtMostOnce) Meets
    (fun s o hs hmeets => ⟨balanced_step hs.1 (hs.2 s.entry) hmeets.givesUpLost hmeets.partOf,
      fun k => (hs.2 k).steps (steps_exchange hmeets.givesUpLost k)⟩)
    ⟨hbalanced, hinit⟩ h
  refine hrun.1.target_le.trans (le_trans ?_ hrun.1.copies_le)
  rw [copies, load_append]
  exact Nat.le_add_left _ _

instance decidableMeets (s : Migrating (BrokerState σ ρ)) :
    (o : ℤ × MigratingOp (BrokerState σ ρ)) → Decidable (s.Meets o)
  | (_, .timeout) | (_, .shutdown) => inferInstanceAs (Decidable
      (s.Resends → Exchange.Lost s.network.pending s.imports s.entry))
  | (_, .crash b) => inferInstanceAs (Decidable (b.offlineStore.PartOf s.target.offlineStore))
  | (_, .exec) | (_, .send _) | (_, .receive) | (_, .read _) | (_, .handle _) | (_, .lose _)
  | (_, .readAck _) | (_, .loseAck _) | (_, .cleanup) | (_, .setStream _) => isTrue trivial

/-- `Execute` gets from the acknowledgement to its end. -/
def lastSteps : List DeviceOp := List.replicate 8 (12 * second, .exec)

/-- The data of the device are lost once, and arrive when they are sent again. -/
def lossyRun : List DeviceOp :=
  firstSteps ++ ([(0, .send none), (second, .lose 0), (10 * second, .timeout),
    (10 * second, .send none), (11 * second, .read 0), (11 * second, .handle 0),
    (12 * second, .readAck 0), (12 * second, .receive)] : List DeviceOp) ++ lastSteps

theorem duplicatesNothing_sample :
    (deviceRun (.importing _ _) lossyRun).target.offlineStore.stock (str "d") ⟨str "t", [], 1⟩ ≤
      deviceBroker.offlineStore.stock (str "d") ⟨str "t", [], 1⟩ ∧
    (deviceRun (.importing _ _) lossyRun).target.offlineStore.stock (str "d") ⟨str "t", [], 1⟩ = 1 ∧
    (deviceRun (.importing _ _) lossyRun).migration.status = .completed :=
  ⟨duplicatesNothing _ _ _ deviceBroker _ lossyRun (by decide +kernel) (str "d") rfl _,
    by decide +kernel, by decide +kernel⟩

/-- The data of the device arrive, but their acknowledgement is lost. -/
def lostAckRun : List DeviceOp :=
  firstSteps ++ ([(0, .send none), (second, .read 0), (second, .handle 0),
    (2 * second, .loseAck 0), (10 * second, .timeout), (10 * second, .send none),
    (11 * second, .read 0), (11 * second, .handle 0), (12 * second, .readAck 0),
    (12 * second, .receive)] : List DeviceOp) ++ lastSteps

/-- Then they are sent and imported again, and the target holds the message twice. -/
theorem duplicatesNothing_fails :
    deviceBroker.offlineStore.stock (str "d") ⟨str "t", [], 1⟩ = 1 ∧
    (deviceRun (.importing _ _) lostAckRun).target.offlineStore.stock (str "d")
      ⟨str "t", [], 1⟩ = 2 ∧
    (deviceRun (.importing _ _) lostAckRun).migration.status = .completed := by
  refine ⟨?_, ?_, ?_⟩ <;> decide +kernel

end Dmqtt.Cluster.Migrating
