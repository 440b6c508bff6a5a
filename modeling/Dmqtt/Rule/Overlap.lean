/-
Calls of `Evaluate` that overlap (`internal/rule/engine.go`).

The engine means to stop rules whose actions trigger rules, and drops a call that finds its counter
`depth` above `maxHopCount`.  The counter belongs to the engine, however, and not to a chain of
actions: it counts the calls that are under way, whoever made them.

The calls run side by side here, one atomic operation at a time, over a set of rules that stays as
it is.  `evaluate_overlapping` says when a call evaluates the rules that match its message: exactly
if fewer than five calls are under way at its entry.  A call that was dropped counts until it
returns.
-/
import Dmqtt.Lib.Counting
import Dmqtt.Lib.Trace
import Dmqtt.Rule.Engine

namespace Dmqtt.Rule

open Lib

/-- The arguments of `Evaluate`. -/
structure Message where
  topic : Str
  payload : Bytes
  qos : UInt8
  clientID : Str

/-- What a call did: the rules whose condition it evaluated, and those whose actions it handed to
the executor. -/
structure Outcome where
  evaluated : List CompiledRule
  executed : List CompiledRule

/-- How far a call of `Evaluate` has got.  Its outcome is `none` if it was dropped. -/
inductive EvalPC
  | start
  | entered (depth : ℤ)
  | looping (done : Outcome) (todo : List CompiledRule)
  | leaving (outcome : Option Outcome)
  | returned (outcome : Option Outcome)

structure EvalCall where
  message : Message
  pc : EvalPC

/-- The body of the loop over the rules. -/
def Outcome.visit (m : Message) (done : Outcome) (r : CompiledRule) : Outcome :=
  if topicMatch r.source.topic m.topic then
    match r.evaluate m.topic m.payload m.qos m.clientID with
    | .ok true => ⟨done.evaluated ++ [r], done.executed ++ [r]⟩
    | .ok false => ⟨done.evaluated ++ [r], done.executed⟩
    | .error _ => ⟨done.evaluated ++ [r], done.executed⟩
  else done

/-- The outcome of a call that evaluates every rule whose topic filter matches its message. -/
def Outcome.all (rules : List CompiledRule) (m : Message) : Outcome where
  evaluated := rules.filter fun r => topicMatch r.source.topic m.topic
  executed := evaluate rules maxHopCount m.topic m.payload m.qos m.clientID

/-- The outcome of a call that entered as the `depth`-th. -/
def outcome (rules : List CompiledRule) (depth : ℤ) (m : Message) : Option Outcome :=
  if depth > maxHopCount then none else some (Outcome.all rules m)

namespace EvalCall

/-- The next operation of a call, and the counter after it. -/
def step (rules : List CompiledRule) (depth : ℤ) (c : EvalCall) : ℤ × EvalCall :=
  match c.pc with
  -- `depth := e.depth.Add(1)`
  | .start => (depth + 1, { c with pc := .entered (depth + 1) })
  | .entered d =>
    if d > maxHopCount then (depth, { c with pc := .leaving none })
    else (depth, { c with pc := .looping ⟨[], []⟩ rules })
  | .looping done (r :: todo) =>
    (depth, { c with pc := .looping (done.visit c.message r) todo })
  | .looping done [] => (depth, { c with pc := .leaving (some done) })
  -- the deferred `e.depth.Add(-1)`
  | .leaving o => (depth - 1, { c with pc := .returned o })
  | .returned _ => (depth, c)

/-- Is the call between its two operations on the counter? -/
def underWay (c : EvalCall) : Bool :=
  match c.pc with
  | .start => false
  | .entered _ => true
  | .looping _ _ => true
  | .leaving _ => true
  | .returned _ => false

/-- What can be said about a call that entered as the `depth`-th. -/
def Follows (rules : List CompiledRule) (depth : ℤ) (c : EvalCall) : Prop :=
  match c.pc with
  | .start => False
  | .entered d => d = depth
  | .looping done todo =>
    some (todo.foldl (Outcome.visit c.message) done) = outcome rules depth c.message
  | .leaving o => o = outcome rules depth c.message
  | .returned o => o = outcome rules depth c.message

end EvalCall

/-- The calls of `Evaluate` and the counter they share. -/
structure Overlap where
  depth : ℤ
  calls : List EvalCall

namespace Overlap

/-- No call has begun. -/
def new (ms : List Message) : Overlap := ⟨0, ms.map fun m => ⟨m, .start⟩⟩

/-- The next operation of the `i`-th call. -/
def step (rules : List CompiledRule) (s : Overlap) (i : ℕ) : Overlap :=
  match s.calls[i]? with
  | none => s
  | some c => ⟨(c.step rules s.depth).1, s.calls.set i (c.step rules s.depth).2⟩

/-- How many calls are under way. -/
def inProgress (s : Overlap) : ℕ := s.calls.countP EvalCall.underWay

/-- The next operation of the `i`-th call is its entry. -/
def Enters (s : Overlap) (i : ℕ) : Prop := ∃ c, s.calls[i]? = some c ∧ c.pc = .start

/-- The `i`-th call has returned with the outcome `o`. -/
def Returns (s : Overlap) (i : ℕ) (m : Message) (o : Option Outcome) : Prop :=
  s.calls[i]? = some ⟨m, .returned o⟩

end Overlap

variable {rules : List CompiledRule}

/-! ### One call -/

lemma Outcome.foldl_visit (m : Message) (rules : List CompiledRule) (done : Outcome) :
    rules.foldl (visit m) done =
      ⟨done.evaluated ++ (all rules m).evaluated, done.executed ++ (all rules m).executed⟩ := by
  have hdepth : ¬ maxHopCount > maxHopCount := lt_irrefl _
  induction rules generalizing done with
  | nil => simp [all, evaluate]
  | cons r rules ih =>
    rw [List.foldl_cons, ih, visit]
    simp only [all, evaluate, if_neg hdepth, List.filter_cons]
    by_cases hmatch : topicMatch r.source.topic m.topic
    · rw [if_pos hmatch, if_pos hmatch]
      cases hr : r.evaluate m.topic m.payload m.qos m.clientID with
      | error e => simp [hmatch]
      | ok matched => cases matched <;> simp [hmatch]
    · simp [hmatch]

lemma Outcome.foldl_visit_nil (m : Message) (rules : List CompiledRule) :
    rules.foldl (visit m) ⟨[], []⟩ = all rules m := by
  rw [foldl_visit, List.nil_append, List.nil_append]

namespace EvalCall

lemma depth_step (rules : List CompiledRule) (depth : ℤ) (c : EvalCall) :
    (c.step rules depth).1 + (if c.underWay then 1 else 0) =
      depth + if (c.step rules depth).2.underWay then 1 else 0 := by
  obtain ⟨m, pc⟩ := c
  cases pc with
  | start => simp [step, underWay]
  | entered d => by_cases hd : d > maxHopCount <;> simp [step, underWay, hd]
  | looping done todo => cases todo <;> simp [step, underWay]
  | leaving o | returned o => simp [step, underWay]

lemma Follows.step {depth d : ℤ} {c : EvalCall} (h : c.Follows rules d) :
    (c.step rules depth).2.Follows rules d := by
  obtain ⟨m, pc⟩ := c
  cases pc with
  | start => exact h.elim
  | entered d' =>
    obtain rfl : d' = d := h
    by_cases hd : d' > maxHopCount
    · simp only [EvalCall.step, if_pos hd, Follows, outcome]
    · simp only [EvalCall.step, if_neg hd, Follows, outcome, Outcome.foldl_visit_nil]
  | looping done todo => cases todo <;> exact h
  | leaving o | returned o => exact h

lemma follows_step_start {depth : ℤ} {c : EvalCall} (h : c.pc = .start) :
    (c.step rules depth).2.Follows rules (depth + 1) := by
  simp only [step, h, Follows]

end EvalCall

/-! ### Calls side by side -/

namespace Overlap

variable {i : ℕ} {s : Overlap}

lemma step_eq {c : EvalCall} (h : s.calls[i]? = some c) :
    s.step rules i = ⟨(c.step rules s.depth).1, s.calls.set i (c.step rules s.depth).2⟩ := by
  rw [step, h]

lemma getElem?_step_self {c : EvalCall} (h : s.calls[i]? = some c) :
    (s.step rules i).calls[i]? = some (c.step rules s.depth).2 := by
  rw [step_eq h]
  exact List.getElem?_set_self (List.getElem?_eq_some_iff.1 h).1

lemma getElem?_step_ne {j : ℕ} (h : i ≠ j) : (s.step rules i).calls[j]? = s.calls[j]? := by
  rw [step]
  split
  · rfl
  · exact List.getElem?_set_ne h

/-- The counter is the number of calls under way. -/
lemma depth_foldl_step (ms : List Message) (schedule : List ℕ) :
    (schedule.foldl (step rules) (new ms)).depth =
      (schedule.foldl (step rules) (new ms)).inProgress := by
  refine foldl_invariant (fun s : Overlap => s.depth = s.inProgress) (fun _ _ => True) ?_ ?_
    fun _ _ => trivial
  · intro s i hs _
    cases hi : s.calls[i]? with
    | none => rwa [step, hi]
    | some c =>
      have hdepth := c.depth_step rules s.depth
      have hcount := countP_set_add EvalCall.underWay hi (c.step rules s.depth).2
      rw [step_eq hi]
      simp only [inProgress] at hs ⊢
      split_ifs at hdepth hcount <;> omega
  · simp [new, inProgress, List.countP_map, Function.comp_def, EvalCall.underWay]

/-- What the entry of a call decides stays decided. -/
lemma follows_foldl_step {d : ℤ} (h : ∃ c, s.calls[i]? = some c ∧ c.Follows rules d)
    (schedule : List ℕ) :
    ∃ c, (schedule.foldl (step rules) s).calls[i]? = some c ∧ c.Follows rules d := by
  refine foldl_invariant (fun s : Overlap => ∃ c, s.calls[i]? = some c ∧ c.Follows rules d)
    (fun _ _ => True) ?_ h fun _ _ => trivial
  rintro s j ⟨c, hc, hfollows⟩ _
  by_cases hj : j = i
  · subst hj
    exact ⟨_, getElem?_step_self hc, hfollows.step⟩
  · exact ⟨c, by rw [getElem?_step_ne hj, hc], hfollows⟩

/-- With which outcome a call returns. -/
lemma outcome_of_enters {ms : List Message} {before after : List ℕ} {m : Message}
    {o : Option Outcome} (henters : (before.foldl (step rules) (new ms)).Enters i)
    (h : ((before ++ i :: after).foldl (step rules) (new ms)).Returns i m o) :
    o = outcome rules ((before.foldl (step rules) (new ms)).inProgress + 1) m := by
  obtain ⟨c, hc, hstart⟩ := henters
  rw [List.foldl_append, List.foldl_cons] at h
  obtain ⟨c', hc', hfollows⟩ := follows_foldl_step
    ⟨_, getElem?_step_self hc, EvalCall.follows_step_start hstart⟩ after
  obtain rfl := Option.some.inj (hc'.symm.trans h)
  rwa [depth_foldl_step] at hfollows

/-- A call that has returned has entered. -/
lemma exists_enters {ms : List Message} {schedule : List ℕ} {m : Message} {o : Option Outcome}
    (h : (schedule.foldl (step rules) (new ms)).Returns i m o) :
    ∃ before after, schedule = before ++ i :: after ∧
      (before.foldl (step rules) (new ms)).Enters i := by
  let p (s : Overlap) : Prop := ∃ c, s.calls[i]? = some c ∧ c.pc ≠ .start
  have hnew : ¬ p (new ms) := by
    rintro ⟨c, hc, hne⟩
    obtain ⟨m, -, rfl⟩ := List.mem_map.1 (List.mem_of_getElem? hc)
    exact hne rfl
  obtain ⟨before, j, after, rfl, hbefore, hafter⟩ := exists_acquiring hnew ⟨_, h, nofun⟩
  rw [List.foldl_append, List.foldl_cons, List.foldl_nil] at hafter
  -- the operation that moves the call on is one of its own
  obtain rfl : j = i := by
    by_contra hne
    exact hbefore (by simpa only [p, getElem?_step_ne hne] using hafter)
  refine ⟨before, after, rfl, ?_⟩
  cases hj : (before.foldl (step rules) (new ms)).calls[j]? with
  | none =>
    rw [step, hj] at hafter
    exact absurd hafter hbefore
  | some c => exact ⟨c, hj, by_contra fun hne => hbefore ⟨c, hj, hne⟩⟩

end Overlap

lemma outcome_eq_all_iff {n : ℕ} {m : Message} :
    outcome rules (n + 1) m = some (Outcome.all rules m) ↔ (n : ℤ) < maxHopCount := by
  rw [outcome]
  split_ifs with h
  · exact iff_of_false nofun (by omega)
  · exact iff_of_true rfl (by omega)

/-- Of the calls that have returned, each has evaluated the rules that match its message exactly if
each entered while fewer than five calls were under way. -/
theorem evaluate_overlapping (rules : List CompiledRule) (ms : List Message) (schedule : List ℕ) :
    let s := schedule.foldl (Overlap.step rules) (.new ms)
    (∀ i m o, s.Returns i m o → o = some (Outcome.all rules m)) ↔
      ∀ x ∈ trace (Overlap.step rules) (.new ms) schedule, x.1.Enters x.2 →
        (∃ m o, s.Returns x.2 m o) → (x.1.inProgress : ℤ) < maxHopCount := by
  intro s
  constructor
  · rintro hall ⟨s', i⟩ hx henters ⟨m, o, hreturns⟩
    obtain ⟨before, after, rfl, rfl⟩ := exists_of_mem_trace hx
    have ho := Overlap.outcome_of_enters henters hreturns
    rw [hall i m o hreturns] at ho
    exact outcome_eq_all_iff.1 ho.symm
  · intro hfew i m o hreturns
    obtain ⟨before, after, rfl, henters⟩ := Overlap.exists_enters hreturns
    rw [Overlap.outcome_of_enters henters hreturns]
    exact outcome_eq_all_iff.2 (hfew _ mem_trace_append henters ⟨m, o, hreturns⟩)

/-- A rule without actions that matches every message. -/
private def anyMessage : CompiledRule := ⟨str "r", ⟨str "#"⟩, [], fun _ _ _ _ => .ok true⟩

/-- Six clients publish at the same time.  The rule matches the message of the last one, whose call
is dropped. -/
theorem evaluate_overlap_dropped :
    let ms : List Message := [0, 1, 2, 3, 4, 5].map fun id => ⟨str "t", [], 0, [id]⟩
    let s := [0, 1, 2, 3, 4, 5, 5, 5].foldl (Overlap.step [anyMessage]) (.new ms)
    topicMatch anyMessage.source.topic (str "t") = true ∧
      s.Returns 5 ⟨str "t", [], 0, [5]⟩ none :=
  ⟨(matchIndexed_eq _ _).trans (by decide), rfl⟩

end Dmqtt.Rule
