/-
The connection quota of a tenant when calls overlap.

`TryConnect` loads the counter of the tenant and compares it with the quota, then adds to the
counter, and then records the client.  `OnDisconnect` takes the client off the record and then
subtracts from the counter.  Each of these steps is atomic, but other calls may run in between.

Between the comparison and the addition a call has been let in without being counted.
`tenant_quota_iff` says that the counter can exceed the quota exactly if a call is let in while the
counter and the calls of this kind have used up the quota already.
-/
import Dmqtt.Tenant
import Dmqtt.Lib.Admission
import Dmqtt.Lib.Counting

namespace Dmqtt.Tenants

open Lib

variable {ρ : Type}

/-- How far a call of `TryConnect` or `OnDisconnect` has come. -/
inductive QuotaCall
  | connect (clientID tenantID : Str)
  | admitted (clientID tenantID : Str)
  | counted (clientID tenantID : Str)
  | disconnect (clientID : Str)
  | releasing (tenantID : Str)
  | returned
deriving DecidableEq

namespace QuotaCall

/-- The call has not begun. -/
def fresh : QuotaCall → Bool
  | .connect _ _ => true
  | .disconnect _ => true
  | _ => false

/-- The call is for a tenant, and has not begun. -/
def connectsTo (t : Str) : QuotaCall → Bool
  | .connect _ tenantID => tenantID = t
  | _ => false

/-- The call has been let in by a tenant, and has not been counted. -/
def admittedBy (t : Str) : QuotaCall → Bool
  | .admitted _ tenantID => tenantID = t
  | _ => false

end QuotaCall

/-- A tenant manager and the calls that are under way. -/
structure QuotaRun (ρ : Type) where
  manager : TenantManager ρ
  calls : List QuotaCall

namespace QuotaRun

/-- A call goes on. -/
def goto (r : QuotaRun ρ) (i : ℕ) (m : TenantManager ρ) (call : QuotaCall) : QuotaRun ρ :=
  ⟨m, r.calls.set i call⟩

/-- The next step of a call. -/
def step (r : QuotaRun ρ) (i : ℕ) : QuotaRun ρ :=
  let m := r.manager
  match r.calls[i]? with
  | some (.connect clientID tenantID) =>
    let state := m.getState tenantID
    if state.config.maxConnections > 0 ∧ state.connections ≥ state.config.maxConnections then
      r.goto i m .returned
    else r.goto i m (.admitted clientID tenantID)
  | some (.admitted clientID tenantID) =>
    r.goto i (m.modifyState tenantID fun state =>
      { state with connections := state.connections + 1 }) (.counted clientID tenantID)
  | some (.counted clientID tenantID) =>
    r.goto i { m with clients := m.clients.insert clientID tenantID } .returned
  | some (.disconnect clientID) =>
    match m.clients.lookup clientID with
    | none => r.goto i m .returned
    | some tenantID =>
      r.goto i { m with clients := m.clients.erase clientID } (.releasing tenantID)
  | some (.releasing tenantID) =>
    r.goto i (m.modifyState tenantID fun state =>
      { state with connections := state.connections - 1 }) .returned
  | some .returned => r
  | none => r

/-- The number of connections that a tenant counts. -/
def counter (t : Str) (r : QuotaRun ρ) : ℤ := (r.manager.getState t).connections

/-- The number of calls that a tenant has let in and not counted. -/
def pending (t : Str) (r : QuotaRun ρ) : ℕ := r.calls.countP (QuotaCall.admittedBy t)

/-- The next step of a call lets it in. -/
def LetsIn (t : Str) (max : ℤ) (r : QuotaRun ρ) (i : ℕ) : Prop :=
  (∃ call ∈ r.calls[i]?, call.connectsTo t) ∧ r.counter t < max

/-- The next step of a call counts it. -/
def Counts (t : Str) (r : QuotaRun ρ) (i : ℕ) : Prop :=
  ∃ call ∈ r.calls[i]?, call.admittedBy t

instance (t : Str) (max : ℤ) (r : QuotaRun ρ) (i : ℕ) : Decidable (r.LetsIn t max i) :=
  inferInstanceAs (Decidable (_ ∧ _))

/-! ### Calls that run alone -/

variable {r : QuotaRun ρ} {i : ℕ} {clientID tenantID : Str}

lemma step_of_refused (h : r.calls[i]? = some (.connect clientID tenantID))
    (hfull : (r.manager.getState tenantID).config.maxConnections > 0 ∧
      (r.manager.getState tenantID).connections ≥
        (r.manager.getState tenantID).config.maxConnections) :
    r.step i = r.goto i r.manager .returned := by
  simp only [step, h, if_pos hfull]

lemma step_of_let_in (h : r.calls[i]? = some (.connect clientID tenantID))
    (hroom : ¬ ((r.manager.getState tenantID).config.maxConnections > 0 ∧
      (r.manager.getState tenantID).connections ≥
        (r.manager.getState tenantID).config.maxConnections)) :
    r.step i = r.goto i r.manager (.admitted clientID tenantID) := by
  simp only [step, h, if_neg hroom]

lemma step_of_admitted (h : r.calls[i]? = some (.admitted clientID tenantID)) :
    r.step i = r.goto i (r.manager.modifyState tenantID fun state =>
      { state with connections := state.connections + 1 }) (.counted clientID tenantID) := by
  rw [step, h]

lemma step_of_counted (h : r.calls[i]? = some (.counted clientID tenantID)) :
    r.step i = r.goto i
      { r.manager with clients := r.manager.clients.insert clientID tenantID } .returned := by
  rw [step, h]

lemma step_of_unknown (h : r.calls[i]? = some (.disconnect clientID))
    (hl : r.manager.clients.lookup clientID = none) :
    r.step i = r.goto i r.manager .returned := by
  simp only [step, h, hl]

lemma step_of_known (h : r.calls[i]? = some (.disconnect clientID))
    (hl : r.manager.clients.lookup clientID = some tenantID) :
    r.step i = r.goto i { r.manager with clients := r.manager.clients.erase clientID }
      (.releasing tenantID) := by
  simp only [step, h, hl]

lemma step_of_releasing (h : r.calls[i]? = some (.releasing tenantID)) :
    r.step i = r.goto i (r.manager.modifyState tenantID fun state =>
      { state with connections := state.connections - 1 }) .returned := by
  rw [step, h]

lemma step_of_returned (h : r.calls[i]? = some .returned) : r.step i = r := by
  rw [step, h]

lemma calls_goto (h : i < r.calls.length) (m : TenantManager ρ) (call : QuotaCall) :
    (r.goto i m call).calls[i]? = some call := List.getElem?_set_self h

lemma goto_goto (m m' : TenantManager ρ) (call call' : QuotaCall) :
    (r.goto i m call).goto i m' call' = r.goto i m' call' :=
  congrArg (QuotaRun.mk m') (List.set_set ..)

lemma goto_self {call : QuotaCall} (h : r.calls[i]? = some call) :
    r.goto i r.manager call = r := by
  obtain ⟨hi, rfl⟩ := List.getElem?_eq_some_iff.1 h
  exact congrArg (QuotaRun.mk r.manager) (List.set_getElem_self hi)

lemma iterate_connect (h : r.calls[i]? = some (.connect clientID tenantID)) :
    (fun r => step r i)^[3] r =
      r.goto i (r.manager.tryConnect clientID tenantID).2 .returned := by
  have hi : i < r.calls.length := (List.getElem?_eq_some_iff.1 h).1
  rw [Function.iterate_succ_apply, Function.iterate_succ_apply, Function.iterate_one,
    TenantManager.tryConnect]
  split_ifs with hfull
  · have hreturned := step_of_returned (calls_goto hi r.manager .returned)
    rw [step_of_refused h hfull, hreturned, hreturned]
  · rw [step_of_let_in h hfull, step_of_admitted (calls_goto hi _ _), goto_goto,
      step_of_counted (calls_goto hi _ _), goto_goto]
    rfl

lemma iterate_disconnect (h : r.calls[i]? = some (.disconnect clientID)) :
    (fun r => step r i)^[2] r = r.goto i (r.manager.onDisconnect clientID) .returned := by
  have hi : i < r.calls.length := (List.getElem?_eq_some_iff.1 h).1
  rw [Function.iterate_succ_apply, Function.iterate_one, TenantManager.onDisconnect]
  cases hl : r.manager.clients.lookup clientID with
  | none => rw [step_of_unknown h hl, step_of_returned (calls_goto hi _ _)]
  | some tenantID =>
    rw [step_of_known h hl, step_of_releasing (calls_goto hi _ _), goto_goto]
    rfl

end QuotaRun

/-! ### The counter of one tenant -/

/-- The tenant is loaded, with the given quota. -/
def TenantManager.Loaded (m : TenantManager ρ) (t : Str) (max : ℤ) : Prop :=
  t ≠ [] ∧ ∃ state, m.tenants.lookup t = some state ∧ state.config.maxConnections = max

namespace TenantManager

variable {m : TenantManager ρ} {t : Str} {max : ℤ}

lemma Loaded.lookup_eq (h : m.Loaded t max) : m.tenants.lookup t = some (m.getState t) := by
  obtain ⟨hnil, state, hstate, -⟩ := h
  rw [getState, if_neg hnil, hstate]

lemma Loaded.maxConnections (h : m.Loaded t max) :
    (m.getState t).config.maxConnections = max := by
  obtain ⟨state, hstate, hmax⟩ := h.2
  rw [h.lookup_eq, Option.some_inj] at hstate
  rw [hstate, hmax]

/-- A change of the state of a tenant changes no other tenant. -/
lemma Loaded.lookup_modifyState (h : m.Loaded t max) (t' : Str)
    (f : TenantState ρ → TenantState ρ) :
    (m.modifyState t' f).tenants.lookup t =
      some (if t' = t then f (m.getState t) else m.getState t) := by
  rw [modifyState]
  split_ifs with hnil heq heq
  · exact absurd (heq.symm.trans hnil) h.1
  · exact h.lookup_eq
  · rw [heq, h.lookup_eq]
    exact AList.lookup_insert _
  · cases m.tenants.lookup t' with
    | none => exact h.lookup_eq
    | some state => exact (AList.lookup_insert_ne (Ne.symm heq)).trans h.lookup_eq

lemma Loaded.modifyState (h : m.Loaded t max) (t' : Str) {f : TenantState ρ → TenantState ρ}
    (hf : ∀ state, (f state).config = state.config) : (m.modifyState t' f).Loaded t max := by
  refine ⟨h.1, _, h.lookup_modifyState t' f, ?_⟩
  split_ifs
  · rw [hf]
    exact h.maxConnections
  · exact h.maxConnections

lemma Loaded.getState_modifyState (h : m.Loaded t max) (t' : Str)
    (f : TenantState ρ → TenantState ρ) :
    (m.modifyState t' f).getState t = if t' = t then f (m.getState t) else m.getState t := by
  rw [getState, if_neg h.1, h.lookup_modifyState]

end TenantManager

namespace QuotaRun

variable {r : QuotaRun ρ} {i : ℕ} {t : Str} {max : ℤ}

lemma pending_goto {call : QuotaCall} (h : r.calls[i]? = some call) (m : TenantManager ρ)
    (call' : QuotaCall) :
    (r.goto i m call').pending t + (if call.admittedBy t then 1 else 0) =
      r.pending t + if call'.admittedBy t then 1 else 0 :=
  countP_set_add (QuotaCall.admittedBy t) h call'

lemma LetsIn.not_counts (h : r.LetsIn t max i) : ¬ r.Counts t i := by
  obtain ⟨⟨call, hcall, hconnects⟩, -⟩ := h
  rintro ⟨call', hcall', hadmitted⟩
  obtain rfl := Option.some_injective _ (Eq.trans (Eq.symm hcall) hcall')
  cases call <;> first | cases hconnects | cases hadmitted

/-- What a step does to a tenant: it lets a call in, it counts one, or it does neither and does
not add to the counter. -/
inductive Move (t : Str) (max : ℤ) (r : QuotaRun ρ) (i : ℕ) : Prop
  | letIn (h : r.LetsIn t max i) (hcounter : (r.step i).counter t = r.counter t)
      (hpending : (r.step i).pending t = r.pending t + 1)
  | count (h : r.Counts t i) (hcounter : (r.step i).counter t = r.counter t + 1)
      (hpending : (r.step i).pending t + 1 = r.pending t)
  | other (h : ¬ r.LetsIn t max i) (h' : ¬ r.Counts t i)
      (hcounter : (r.step i).counter t ≤ r.counter t)
      (hpending : (r.step i).pending t = r.pending t)

/-- A step of a call that is not about to be let in or counted by the tenant. -/
lemma Move.of_goto {m : TenantManager ρ} {call call' : QuotaCall} (h : r.calls[i]? = some call)
    (hstep : r.step i = r.goto i m call')
    (hconnect : call.connectsTo t = true → max ≤ r.counter t)
    (hcall : call.admittedBy t = false) (hcall' : call'.admittedBy t = false)
    (hm : (m.getState t).connections ≤ r.counter t) : Move t max r i := by
  refine .other ?_ ?_ (hstep ▸ hm) ?_
  · rintro ⟨⟨call₀, hcall₀, hconnects⟩, hlt⟩
    obtain rfl := Option.some_injective _ (h.symm.trans hcall₀)
    exact absurd (hconnect hconnects) (not_le.2 hlt)
  · rintro ⟨call₀, hcall₀, hadmitted⟩
    obtain rfl := Option.some_injective _ (h.symm.trans hcall₀)
    rw [hcall] at hadmitted
    cases hadmitted
  · have hpending := pending_goto (t := t) h m call'
    rw [hcall, hcall'] at hpending
    rw [hstep]
    exact hpending

lemma move_connect (h : r.manager.Loaded t max) (hmax : 0 < max) {clientID tenantID : Str}
    (hcall : r.calls[i]? = some (.connect clientID tenantID)) :
    (r.step i).manager.Loaded t max ∧ Move t max r i := by
  by_cases hfull : (r.manager.getState tenantID).config.maxConnections > 0 ∧
      (r.manager.getState tenantID).connections ≥
        (r.manager.getState tenantID).config.maxConnections
  · have hstep := step_of_refused hcall hfull
    refine ⟨hstep ▸ h, .of_goto hcall hstep ?_ rfl rfl le_rfl⟩
    intro hconnects
    obtain rfl : tenantID = t := of_decide_eq_true hconnects
    rw [← h.maxConnections]
    exact hfull.2
  · have hstep := step_of_let_in hcall hfull
    refine ⟨hstep ▸ h, ?_⟩
    by_cases heq : tenantID = t
    · subst heq
      rw [h.maxConnections] at hfull
      have hlt : r.counter tenantID < max := not_le.1 fun hle => hfull ⟨hmax, hle⟩
      have hpending := pending_goto (t := tenantID) hcall r.manager (.admitted clientID tenantID)
      rw [← hstep] at hpending
      refine .letIn ⟨⟨_, hcall, decide_eq_true rfl⟩, hlt⟩ (by rw [hstep]; rfl) ?_
      simpa [QuotaCall.admittedBy] using hpending
    · refine .of_goto hcall hstep ?_ rfl (decide_eq_false heq) le_rfl
      exact fun hconnects => absurd (of_decide_eq_true hconnects) heq

lemma move_admitted (h : r.manager.Loaded t max) {clientID tenantID : Str}
    (hcall : r.calls[i]? = some (.admitted clientID tenantID)) :
    (r.step i).manager.Loaded t max ∧ Move t max r i := by
  have hstep := step_of_admitted hcall
  have hstate := h.getState_modifyState tenantID fun state =>
    { state with connections := state.connections + 1 }
  refine ⟨hstep ▸ h.modifyState tenantID fun _ => rfl, ?_⟩
  by_cases heq : tenantID = t
  · subst heq
    rw [if_pos rfl] at hstate
    have hpending := pending_goto (t := tenantID) hcall
      (r.manager.modifyState tenantID fun state =>
        { state with connections := state.connections + 1 }) (.counted clientID tenantID)
    rw [← hstep] at hpending
    refine .count ⟨_, hcall, decide_eq_true rfl⟩ ?_ (by simpa [QuotaCall.admittedBy] using hpending)
    rw [hstep]
    exact congrArg TenantState.connections hstate
  · rw [if_neg heq] at hstate
    refine .of_goto hcall hstep nofun (decide_eq_false heq) rfl ?_
    rw [hstate]
    exact le_rfl

lemma move_releasing (h : r.manager.Loaded t max) {tenantID : Str}
    (hcall : r.calls[i]? = some (.releasing tenantID)) :
    (r.step i).manager.Loaded t max ∧ Move t max r i := by
  have hstep := step_of_releasing hcall
  refine ⟨hstep ▸ h.modifyState tenantID fun _ => rfl,
    .of_goto hcall hstep nofun rfl rfl ?_⟩
  rw [h.getState_modifyState, counter]
  split_ifs
  · exact (Int.sub_one_lt_iff.2 le_rfl).le
  · exact le_rfl

lemma move_step (h : r.manager.Loaded t max) (hmax : 0 < max) (i : ℕ) :
    (r.step i).manager.Loaded t max ∧ Move t max r i := by
  cases hcall : r.calls[i]? with
  | none =>
    have hstep : r.step i = r := by rw [step, hcall]
    refine ⟨hstep.symm ▸ h, .other ?_ ?_ (by rw [hstep]) (by rw [hstep])⟩
    · rintro ⟨⟨call, h, -⟩, -⟩
      cases hcall.symm.trans h
    · rintro ⟨call, h, -⟩
      cases hcall.symm.trans h
  | some call =>
    cases call with
    | connect clientID tenantID => exact move_connect h hmax hcall
    | admitted clientID tenantID => exact move_admitted h hcall
    | counted clientID tenantID =>
      have hstep := step_of_counted hcall
      exact ⟨hstep ▸ h, .of_goto hcall hstep nofun rfl rfl le_rfl⟩
    | disconnect clientID =>
      cases hl : r.manager.clients.lookup clientID with
      | none =>
        have hstep := step_of_unknown hcall hl
        exact ⟨hstep ▸ h, .of_goto hcall hstep nofun rfl rfl le_rfl⟩
      | some tenantID =>
        have hstep := step_of_known hcall hl
        exact ⟨hstep ▸ h, .of_goto hcall hstep nofun rfl rfl le_rfl⟩
    | releasing tenantID => exact move_releasing h hcall
    | returned =>
      have hstep := (step_of_returned hcall).trans (goto_self hcall).symm
      exact ⟨hstep ▸ h, .of_goto hcall hstep nofun rfl rfl le_rfl⟩

/-- The counter of a tenant as something that is checked first and taken later. -/
def admission (t : Str) {max : ℤ} (hmax : 0 < max) : Admission (step (ρ := ρ)) where
  Inv r := r.manager.Loaded t max
  used := counter t
  pending := pending t
  Passes := LetsIn t max
  inv_step r i h := (move_step h hmax i).1
  of_passes r i h hpass := by
    rcases (move_step h hmax i).2 with ⟨-, hcounter, hpending⟩ | ⟨hcounts, -, -⟩ | ⟨hnot, -, -, -⟩
    · rw [hcounter, hpending]
      push_cast
      omega
    · exact absurd hcounts hpass.not_counts
    · exact absurd hpass hnot
  of_not_passes r i h hpass := by
    rcases (move_step h hmax i).2 with ⟨hlet, -, -⟩ | ⟨-, hcounter, hpending⟩ |
      ⟨-, -, hcounter, hpending⟩
    · exact absurd hlet hpass
    · omega
    · omega

/-- A call that was let in can be counted at any time. -/
def completable (t : Str) {max : ℤ} (hmax : 0 < max) :
    (admission (ρ := ρ) t hmax).Completable where
  Begins := Counts t
  of_begins r i h hcounts := by
    rcases (move_step h hmax i).2 with ⟨hlet, -, -⟩ | ⟨-, hcounter, hpending⟩ | ⟨-, hnot, -, -⟩
    · exact absurd hcounts hlet.not_counts
    · exact ⟨hcounter, hpending⟩
    · exact absurd hcounts hnot
  exists_begins r h hpos := by
    obtain ⟨call, hmem, hcall⟩ := List.countP_pos_iff.1 hpos
    obtain ⟨i, hi⟩ := List.mem_iff_getElem?.1 hmem
    exact ⟨i, call, hi, hcall⟩

end QuotaRun

/-- However the calls that were let in go on, the counter stays within the quota exactly if,
whenever a call is let in, the counter and the calls that were let in before and are not counted are
below the quota together. -/
theorem tenant_quota_iff {m : TenantManager ρ} {t : Str} {state : TenantState ρ} (ht : t ≠ [])
    (hstate : m.tenants.lookup t = some state) (hmax : 0 < state.config.maxConnections)
    (hquota : state.connections ≤ state.config.maxConnections) {calls : List QuotaCall}
    (hcalls : ∀ call ∈ calls, call.fresh = true) (schedule : List ℕ) :
    let run := fun schedule : List ℕ => schedule.foldl QuotaRun.step ⟨m, calls⟩
    (∀ done, done <+: schedule → ∀ rest,
        (∀ x ∈ trace QuotaRun.step (run done) rest, x.1.Counts t x.2) →
        (run (done ++ rest)).counter t ≤ state.config.maxConnections) ↔
      ∀ x ∈ trace QuotaRun.step ⟨m, calls⟩ schedule, x.1.LetsIn t state.config.maxConnections x.2 →
        x.1.counter t + x.1.pending t < state.config.maxConnections := by
  intro run
  have hloaded : m.Loaded t state.config.maxConnections := ⟨ht, state, hstate, rfl⟩
  have hcounter : QuotaRun.counter t ⟨m, calls⟩ = state.connections := by
    rw [QuotaRun.counter, ← Option.some_injective _ (hstate.symm.trans hloaded.lookup_eq)]
  have hpending : QuotaRun.pending t (⟨m, calls⟩ : QuotaRun ρ) = 0 := by
    refine List.countP_eq_zero.2 fun call hmem hcall => ?_
    have hfresh := hcalls call hmem
    cases call <;> first | cases hcall | cases hfresh
  have hinv : (QuotaRun.admission t hmax).Inv ⟨m, calls⟩ := hloaded
  have hlimit : (QuotaRun.admission t hmax).used ⟨m, calls⟩ +
      (QuotaRun.admission t hmax).pending ⟨m, calls⟩ ≤ state.config.maxConnections := by
    change QuotaRun.counter t ⟨m, calls⟩ + QuotaRun.pending t ⟨m, calls⟩ ≤ _
    rw [hcounter, hpending, Nat.cast_zero, add_zero]
    exact hquota
  have hiff := (QuotaRun.completable t hmax).le_completions_iff hinv hlimit schedule
  simp only [run, List.foldl_append]
  exact hiff

/-- A tenant with a quota of one connection, and two clients that connect. -/
def quotaManager : TenantManager Unit :=
  { TenantManager.new unlimited with
    tenants := (∅ : GoMap Str (TenantState Unit)).insert (str "t")
      ⟨⟨str "t", 1, 0, 0, str "t"⟩, 0, ()⟩ }

def twoConnects : List QuotaCall := [.connect (str "a") (str "t"), .connect (str "b") (str "t")]

/-- One after the other, the second client is refused. -/
theorem tenant_quota_iff_sequential :
    (∀ x ∈ trace QuotaRun.step ⟨quotaManager, twoConnects⟩ [0, 0, 0, 1],
      x.1.LetsIn (str "t") 1 x.2 → x.1.counter (str "t") + x.1.pending (str "t") < 1) ∧
    ∀ done, done <+: [0, 0, 0, 1] → ∀ rest,
      (∀ x ∈ trace QuotaRun.step (done.foldl QuotaRun.step ⟨quotaManager, twoConnects⟩) rest,
        x.1.Counts (str "t") x.2) →
      ((done ++ rest).foldl QuotaRun.step ⟨quotaManager, twoConnects⟩).counter (str "t") ≤ 1 := by
  have hbelow : ∀ x ∈ trace QuotaRun.step ⟨quotaManager, twoConnects⟩ [0, 0, 0, 1],
      x.1.LetsIn (str "t") 1 x.2 → x.1.counter (str "t") + x.1.pending (str "t") < 1 := by
    decide
  exact ⟨hbelow, (@tenant_quota_iff Unit quotaManager (str "t") ⟨⟨str "t", 1, 0, 0, str "t"⟩, 0, ()⟩
    (by decide) rfl (by decide) (by decide) twoConnects (by decide) [0, 0, 0, 1]).2 hbelow⟩

/-- Both clients are let in before one of them is counted. -/
theorem tenant_quota_exceeded :
    ([0, 1, 0, 1].foldl QuotaRun.step ⟨quotaManager, twoConnects⟩).counter (str "t") = 2 := by
  decide

end Dmqtt.Tenants
