/-
Limits that are checked first and taken later.

A machine lets something in after a look at how much is in use, and the use begins only with a later
step.  What was let in and has not begun is pending.  The use alone says too little then:
`Admission.le_iff` says that the use and what is pending stay within a limit together exactly if,
whenever something is let in, the two are below the limit together.

If what is pending can always begin, then nothing less will do: `Admission.le_completions_iff`.
-/
import Dmqtt.Lib.Trace
import Mathlib.Algebra.Order.Ring.Int

namespace Dmqtt.Lib

variable {S O : Type*}

/-- What is in use and what is pending in the states of a machine, and the steps that let
something in.  No other step adds to the two. -/
structure Admission (step : S → O → S) where
  Inv : S → Prop
  used : S → ℤ
  pending : S → ℕ
  Passes : S → O → Prop
  inv_step : ∀ s o, Inv s → Inv (step s o)
  of_passes : ∀ s o, Inv s → Passes s o →
    used (step s o) + pending (step s o) = used s + pending s + 1
  of_not_passes : ∀ s o, Inv s → ¬ Passes s o →
    used (step s o) + pending (step s o) ≤ used s + pending s

namespace Admission

variable {step : S → O → S} (A : Admission step) {s : S} {limit : ℤ}

lemma le_iff (hs : A.Inv s) (hlimit : A.used s + A.pending s ≤ limit) (os : List O) :
    (∀ os', os' <+: os →
      A.used (os'.foldl step s) + A.pending (os'.foldl step s) ≤ limit) ↔
      ∀ x ∈ trace step s os, A.Passes x.1 x.2 → A.used x.1 + A.pending x.1 < limit := by
  refine forall_prefix_iff A.Inv (fun s => A.used s + A.pending s ≤ limit)
    (fun s o => A.Passes s o → A.used s + A.pending s < limit) A.inv_step ?_ hs hlimit os
  intro s o hs hle
  by_cases hpass : A.Passes s o
  · rw [A.of_passes s o hs hpass, Int.add_one_le_iff]
    exact ⟨fun h _ => h, fun h => h hpass⟩
  · exact iff_of_true ((A.of_not_passes s o hs hpass).trans hle) fun h => absurd h hpass

lemma used_le (hs : A.Inv s) (hlimit : A.used s + A.pending s ≤ limit) {os : List O}
    (h : ∀ x ∈ trace step s os, A.Passes x.1 x.2 → A.used x.1 + A.pending x.1 < limit)
    {os' : List O} (hos' : os' <+: os) : A.used (os'.foldl step s) ≤ limit := by
  have hle := (A.le_iff hs hlimit os).2 h os' hos'
  omega

/-! ### Completions -/

/-- Steps with which something that is pending begins; as long as something is pending, there is
such a step. -/
structure Completable where
  Begins : S → O → Prop
  of_begins : ∀ s o, A.Inv s → Begins s o →
    A.used (step s o) = A.used s + 1 ∧ A.pending (step s o) + 1 = A.pending s
  exists_begins : ∀ s, A.Inv s → 0 < A.pending s → ∃ o, Begins s o

variable {A} (C : A.Completable)

/-- All that is pending may begin. -/
lemma Completable.exists_completion (hs : A.Inv s) :
    ∃ os : List O, (∀ x ∈ trace step s os, C.Begins x.1 x.2) ∧
      A.used (os.foldl step s) = A.used s + A.pending s := by
  induction hn : A.pending s generalizing s with
  | zero => exact ⟨[], fun _ h => absurd h List.not_mem_nil, (add_zero _).symm⟩
  | succ n ih =>
    obtain ⟨o, ho⟩ := C.exists_begins s hs (by omega)
    obtain ⟨hused, hpending⟩ := C.of_begins s o hs ho
    obtain ⟨os, hos, hend⟩ := ih (A.inv_step s o hs) (by omega)
    refine ⟨o :: os, ?_, ?_⟩
    · intro x hx
      rcases List.mem_cons.1 hx with rfl | hx
      · exact ho
      · exact hos x hx
    · rw [List.foldl_cons, hend, hused]
      omega

lemma Completable.used_le_of_begins (hs : A.Inv s) {os : List O}
    (h : ∀ x ∈ trace step s os, C.Begins x.1 x.2) :
    A.used (os.foldl step s) ≤ A.used s + A.pending s := by
  induction os generalizing s with
  | nil => exact le_add_of_nonneg_right (Int.natCast_nonneg _)
  | cons o os ih =>
    obtain ⟨hused, hpending⟩ := C.of_begins s o hs (h (s, o) List.mem_cons_self)
    have hle := ih (A.inv_step s o hs) fun x hx => h x (List.mem_cons_of_mem _ hx)
    rw [List.foldl_cons]
    omega

/-- However what is pending begins, the use stays within the limit exactly if, whenever something is
let in, the use and what is pending are below the limit together. -/
lemma Completable.le_completions_iff (hs : A.Inv s) (hlimit : A.used s + A.pending s ≤ limit)
    (os : List O) :
    (∀ os', os' <+: os → ∀ rest, (∀ x ∈ trace step (os'.foldl step s) rest, C.Begins x.1 x.2) →
      A.used (rest.foldl step (os'.foldl step s)) ≤ limit) ↔
      ∀ x ∈ trace step s os, A.Passes x.1 x.2 → A.used x.1 + A.pending x.1 < limit := by
  have hinv : ∀ os' : List O, A.Inv (os'.foldl step s) := fun os' =>
    List.foldlRecOn os' _ hs fun s hs o _ => A.inv_step s o hs
  rw [← A.le_iff hs hlimit os]
  constructor
  · intro h os' hos'
    obtain ⟨rest, hrest, hend⟩ := C.exists_completion (hinv os')
    exact hend ▸ h os' hos' rest hrest
  · intro h os' hos' rest hrest
    exact (C.used_le_of_begins (hinv os') hrest).trans (h os' hos')

end Admission

end Dmqtt.Lib
