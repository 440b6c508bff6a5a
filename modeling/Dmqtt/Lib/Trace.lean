/-
Loops, and runs of a machine with a total step function.

`foldl_frame` is the frame rule for a loop: what every iteration leaves alone, the loop leaves
alone.  `foldl_frame_unique` is the rule for what a single iteration changes.

`trace` lists the states in which the operations of a run are executed.  `trace_invariant` is
the rule for run properties: an invariant that every operation preserves, provided it is
executed under a condition `P`, holds in every state of a run whose operations all meet `P`.
`forall_prefix_iff` is the rule for a condition that is necessary, too.  `Since` is about the last
operation of a kind, and `foldl_flag_iff` the rule for what it decides.
-/
import Mathlib.Data.List.Induction
import Mathlib.Data.List.Nodup

namespace Dmqtt.Lib

variable {S O : Type*} (step : S → O → S)

/-- The operations of a run, each with the state in which it is executed. -/
def trace : S → List O → List (S × O)
  | _, [] => []
  | s, o :: os => (s, o) :: trace (step s o) os

variable {step} {s : S} {os : List O} {o : O} {F : Type*} (I : S → Prop) (P : S → O → Prop)

lemma trace_invariant (hstep : ∀ s o, I s → P s o → I (step s o)) (hs : I s)
    (hP : ∀ x ∈ trace step s os, P x.1 x.2) : ∀ x ∈ trace step s os, I x.1 := by
  induction os generalizing s with
  | nil => simp [trace]
  | cons o os ih =>
    intro x hx
    have ho : P s o := hP (s, o) List.mem_cons_self
    rcases List.mem_cons.1 hx with rfl | hx
    · exact hs
    · exact ih (hstep s o hs ho) (fun y hy => hP y (List.mem_cons_of_mem _ hy)) x hx

lemma foldl_invariant (hstep : ∀ s o, I s → P s o → I (step s o)) (hs : I s)
    (hP : ∀ x ∈ trace step s os, P x.1 x.2) : I (os.foldl step s) := by
  induction os generalizing s with
  | nil => exact hs
  | cons o os ih =>
    have ho : P s o := hP (s, o) List.mem_cons_self
    exact ih (hstep s o hs ho) fun y hy => hP y (List.mem_cons_of_mem _ hy)

/-- An operation is executed in the state that the operations before it lead to. -/
lemma mem_trace_append {os' : List O} : (os.foldl step s, o) ∈ trace step s (os ++ o :: os') := by
  induction os generalizing s with
  | nil => exact List.mem_cons_self
  | cons o' os ih => exact List.mem_cons_of_mem _ ih

lemma mem_trace_concat : (os.foldl step s, o) ∈ trace step s (os ++ [o]) := mem_trace_append

lemma exists_of_mem_trace {x : S × O} (h : x ∈ trace step s os) :
    ∃ before after, os = before ++ x.2 :: after ∧ x.1 = before.foldl step s := by
  induction os generalizing s with
  | nil => cases h
  | cons o os ih =>
    rcases List.mem_cons.1 h with rfl | h
    · exact ⟨[], os, rfl, rfl⟩
    · obtain ⟨before, after, rfl, hx⟩ := ih h
      exact ⟨o :: before, after, rfl, hx⟩

/-- What a run acquires, it acquires by one of its operations. -/
lemma exists_acquiring {p : S → Prop} (hs : ¬ p s) (h : p (os.foldl step s)) :
    ∃ before o after, os = before ++ o :: after ∧ ¬ p (before.foldl step s) ∧
      p ((before ++ [o]).foldl step s) := by
  induction os generalizing s with
  | nil => exact absurd h hs
  | cons o os ih =>
    by_cases ho : p (step s o)
    · exact ⟨[], o, os, rfl, hs, ho⟩
    · obtain ⟨before, o', after, rfl, hbefore, hafter⟩ := ih ho h
      exact ⟨o :: before, o', after, rfl, hbefore, hafter⟩

/-- There is an operation with `P`, and all after it are with `Q`. -/
def Since (P Q : O → Prop) (os : List O) : Prop :=
  ∃ before o after, os = before ++ o :: after ∧ P o ∧ ∀ o' ∈ after, Q o'

lemma not_since_nil (P Q : O → Prop) : ¬ Since P Q [] := by
  rintro ⟨before, o, after, hos, -⟩
  exact absurd hos.symm (by simp)

lemma since_concat (P Q : O → Prop) (os : List O) (o : O) :
    Since P Q (os ++ [o]) ↔ P o ∨ Q o ∧ Since P Q os := by
  constructor
  · rintro ⟨before, o₁, after, hos, hP, hQ⟩
    rcases List.eq_nil_or_concat' after with rfl | ⟨after, o₂, rfl⟩
    · obtain ⟨-, rfl⟩ := List.append_singleton_inj.1 hos
      exact Or.inl hP
    · rw [← List.cons_append, ← List.append_assoc, List.append_singleton_inj] at hos
      obtain ⟨rfl, rfl⟩ := hos
      exact Or.inr ⟨hQ o (by simp), before, o₁, after, rfl, hP,
        fun o' ho' => hQ o' (List.mem_append_left _ ho')⟩
  · rintro (hP | ⟨hQo, before, o₁, after, rfl, hP, hQ⟩)
    · exact ⟨os, o, [], rfl, hP, nofun⟩
    · refine ⟨before, o₁, after ++ [o], by simp, hP, fun o' ho' => ?_⟩
      rcases List.mem_append.1 ho' with ho' | ho'
      · exact hQ o' ho'
      · exact List.mem_singleton.1 ho' ▸ hQo

/-- A flag that some operations set and others clear is set after a run exactly if one sets it and
none after that clears it. -/
lemma foldl_flag_iff {flag : S → Prop} {Sets Clears : O → Prop}
    (hset : ∀ s o, Sets o → flag (step s o)) (hclear : ∀ s o, Clears o → ¬ flag (step s o))
    (hkeep : ∀ s o, ¬ Sets o → ¬ Clears o → (flag (step s o) ↔ flag s)) (hs : ¬ flag s)
    (os : List O) :
    flag (os.foldl step s) ↔
      ∃ before o after, os = before ++ o :: after ∧ Sets o ∧ ∀ o' ∈ after, ¬ Clears o' := by
  change flag (os.foldl step s) ↔ Since Sets (fun o => ¬ Clears o) os
  induction os using List.reverseRecOn with
  | nil => exact iff_of_false hs (not_since_nil _ _)
  | append_singleton os o ih =>
    rw [List.foldl_append, List.foldl_cons, List.foldl_nil, since_concat, ← ih]
    by_cases hso : Sets o
    · exact iff_of_true (hset _ o hso) (Or.inl hso)
    by_cases hco : Clears o
    · exact iff_of_false (hclear _ o hco) fun h => h.elim hso fun h => h.1 hco
    · rw [hkeep _ o hso hco, or_iff_right hso, and_iff_right hco]

/-- A property that, along with an invariant, survives an operation exactly if the operation is
executed under the condition `P`, holds all along a run exactly if all operations are. -/
lemma forall_prefix_iff (Q : S → Prop) (P : S → O → Prop) (hI : ∀ s o, I s → I (step s o))
    (hstep : ∀ s o, I s → Q s → (Q (step s o) ↔ P s o)) (hs : I s) (hQ : Q s) (os : List O) :
    (∀ os', os' <+: os → Q (os'.foldl step s)) ↔ ∀ x ∈ trace step s os, P x.1 x.2 := by
  induction os generalizing s with
  | nil =>
    refine iff_of_true (fun os' h => ?_) (by simp [trace])
    rw [List.prefix_nil.1 h]
    exact hQ
  | cons o os ih =>
    have hiff := hstep s o hs hQ
    constructor
    · intro h x hx
      have hnext : Q (step s o) := h [o] ⟨os, rfl⟩
      rcases List.mem_cons.1 hx with rfl | hx
      · exact hiff.1 hnext
      · refine (ih (hI s o hs) hnext).1 (fun os' h' => ?_) x hx
        exact h (o :: os') ((List.prefix_cons_inj o).2 h')
    · intro h os' h'
      have hnext : Q (step s o) := hiff.2 (h (s, o) List.mem_cons_self)
      cases os' with
      | nil => exact hQ
      | cons o' os' =>
        obtain ⟨rfl, htail⟩ := List.cons_prefix_cons.1 h'
        exact (ih (hI s o' hs) hnext).2 (fun x hx => h x (List.mem_cons_of_mem _ hx)) os' htail

lemma foldl_frame_of_mem (view : S → F) (h : ∀ s, ∀ o ∈ os, view (step s o) = view s) (s : S) :
    view (os.foldl step s) = view s := by
  induction os generalizing s with
  | nil => rfl
  | cons o os ih =>
    rw [List.foldl_cons, ih fun s o ho => h s o (List.mem_cons_of_mem _ ho)]
    exact h s o List.mem_cons_self

lemma foldl_frame (view : S → F) (h : ∀ s o, view (step s o) = view s) (os : List O) (s : S) :
    view (os.foldl step s) = view s :=
  foldl_frame_of_mem view (fun s o _ => h s o) s

/-- One iteration of a loop is all that changes the view. -/
lemma foldl_frame_unique [DecidableEq O] (view : S → F) (hnodup : os.Nodup) (ho : o ∈ os)
    (h : ∀ s, ∀ o' ∈ os, o' ≠ o → view (step s o') = view s) (s : S) :
    let s' := (os.takeWhile (· ≠ o)).foldl step s
    view s' = view s ∧ view (os.foldl step s) = view (step s' o) := by
  obtain ⟨before, after, rfl⟩ := List.mem_iff_append.1 ho
  have hne : ∀ o' ∈ before ++ after, o' ≠ o := by
    rintro o' ho' rfl
    exact (List.nodup_middle.1 hnodup).notMem ho'
  have htake : (before ++ o :: after).takeWhile (· ≠ o) = before := by
    rw [List.takeWhile_append_of_pos fun o' ho' => decide_eq_true
      (hne o' (List.mem_append_left _ ho')), List.takeWhile_cons_of_neg (by simp), List.append_nil]
  rw [htake]
  constructor
  · exact foldl_frame_of_mem view (fun s o' ho' =>
      h s o' (List.mem_append_left _ ho') (hne o' (List.mem_append_left _ ho'))) s
  · rw [List.foldl_append, List.foldl_cons]
    exact foldl_frame_of_mem view (fun s o' ho' =>
      h s o' (List.mem_append_right _ (List.mem_cons_of_mem _ ho'))
        (hne o' (List.mem_append_right _ ho'))) _

end Dmqtt.Lib
