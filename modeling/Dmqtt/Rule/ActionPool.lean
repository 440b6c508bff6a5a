/-
The pool that runs the actions of rules (`ActionExecutor` of `internal/rule/action.go`).

`Execute` goes through a list of actions.  For each one it takes a slot of the semaphore, counts
the action in the wait group and starts a goroutine, or drops the action if there is no slot.  The
goroutine runs the action, gives the slot back and then reports to the wait group, for which
`Close` waits.  Here any number of calls and goroutines take these steps in any order.  The actions
are of any type `α`: what `executeOne` does with them is not up to the pool.

The invariant `Valid` says who holds the slots and who is counted in the wait group.
-/
import Dmqtt.Lib.Counting
import Dmqtt.Lib.Trace
import Dmqtt.Rule.Engine

namespace Dmqtt.Rule

open Lib

/-- Where a call of `Execute` stands: before the `select`, before `wg.Add`, or before the `go`
statement. -/
inductive ExecuteStage
  | selecting
  | acquired
  | added
deriving DecidableEq

/-- A call of `Execute`: the actions that it is done with, and those to come. -/
structure ExecuteCall (α : Type) where
  passed : List α
  todo : List α
  stage : ExecuteStage
deriving DecidableEq

/-- Where a goroutine stands: before, in and after `executeOne`, after the receive from the
semaphore, and after `wg.Done`. -/
inductive GoroutineStage
  | spawned
  | running
  | finished
  | released
  | ended
deriving DecidableEq

/-- The goroutine for an action of a call. -/
structure Goroutine (α : Type) where
  call : ℕ
  index : ℕ
  action : α
  stage : GoroutineStage
deriving DecidableEq

/-- Where a call of `Close` stands: in `wg.Wait`, after the counter was zero, or at its end. -/
inductive CloseStage
  | waiting
  | woken
  | returned
deriving DecidableEq

/-- The executor with all that uses it, and which actions, by call and index, were started and
which were dropped. -/
structure ActionExecutor (α : Type) where
  size : ℕ
  sem : ℕ
  wg : ℕ
  calls : List (ExecuteCall α)
  goroutines : List (Goroutine α)
  closes : List CloseStage
  started : List (ℕ × ℕ)
  dropped : List (ℕ × ℕ)
deriving DecidableEq

/-- The steps of the calls of `Execute`, of the goroutines and of the calls of `Close`. -/
inductive PoolOp (α : Type)
  | execute (actions : List α)
  | select (i : ℕ)
  | add (i : ℕ)
  | spawn (i : ℕ)
  | start (j : ℕ)
  | finish (j : ℕ)
  | release (j : ℕ)
  | done (j : ℕ)
  | close
  | wake (c : ℕ)
  | leave (c : ℕ)
deriving DecidableEq

variable {α : Type}

/-- A call of `Execute` begins. -/
def PoolOp.isExecute : PoolOp α → Bool
  | .execute _ => true
  | _ => false

/-- The call holds a slot that it has not handed to a goroutine. -/
def ExecuteCall.holds (c : ExecuteCall α) : Bool := c.stage ≠ .selecting

/-- The goroutine holds a slot. -/
def Goroutine.holds (g : Goroutine α) : Bool :=
  g.stage = .spawned ∨ g.stage = .running ∨ g.stage = .finished

/-- The goroutine is the one for the action `x`. -/
def Goroutine.isFor (x : ℕ × ℕ) (g : Goroutine α) : Bool := (g.call, g.index) = x

namespace ActionExecutor

/-- `NewActionExecutor` -/
def new (workerPoolSize : ℤ) : ActionExecutor α where
  size := if workerPoolSize ≤ 0 then 64 else workerPoolSize.toNat
  sem := 0
  wg := 0
  calls := []
  goroutines := []
  closes := []
  started := []
  dropped := []

variable (s : ActionExecutor α)

/-- The executor after a step; a step that cannot be taken changes nothing. -/
def step : PoolOp α → ActionExecutor α
  | .execute actions => { s with calls := s.calls ++ [⟨[], actions, .selecting⟩] }
  | .select i =>
    match s.calls[i]? with
    | some ⟨passed, a :: todo, .selecting⟩ =>
      if s.sem < s.size then
        { s with sem := s.sem + 1, calls := s.calls.set i ⟨passed, a :: todo, .acquired⟩ }
      else
        { s with
          dropped := s.dropped ++ [(i, passed.length)]
          calls := s.calls.set i ⟨passed ++ [a], todo, .selecting⟩ }
    | _ => s
  | .add i =>
    match s.calls[i]? with
    | some ⟨passed, a :: todo, .acquired⟩ =>
      { s with wg := s.wg + 1, calls := s.calls.set i ⟨passed, a :: todo, .added⟩ }
    | _ => s
  | .spawn i =>
    match s.calls[i]? with
    | some ⟨passed, a :: todo, .added⟩ =>
      { s with
        goroutines := s.goroutines ++ [⟨i, passed.length, a, .spawned⟩]
        calls := s.calls.set i ⟨passed ++ [a], todo, .selecting⟩ }
    | _ => s
  | .start j =>
    match s.goroutines[j]? with
    | some ⟨i, k, a, .spawned⟩ =>
      { s with
        started := s.started ++ [(i, k)]
        goroutines := s.goroutines.set j ⟨i, k, a, .running⟩ }
    | _ => s
  | .finish j =>
    match s.goroutines[j]? with
    | some ⟨i, k, a, .running⟩ => { s with goroutines := s.goroutines.set j ⟨i, k, a, .finished⟩ }
    | _ => s
  | .release j =>
    match s.goroutines[j]? with
    | some ⟨i, k, a, .finished⟩ =>
      -- the receive blocks as long as the channel is empty
      if s.sem = 0 then s
      else { s with sem := s.sem - 1, goroutines := s.goroutines.set j ⟨i, k, a, .released⟩ }
    | _ => s
  | .done j =>
    match s.goroutines[j]? with
    | some ⟨i, k, a, .released⟩ =>
      { s with wg := s.wg - 1, goroutines := s.goroutines.set j ⟨i, k, a, .ended⟩ }
    | _ => s
  | .close => { s with closes := s.closes ++ [.waiting] }
  | .wake c =>
    if s.closes[c]? = some .waiting ∧ s.wg = 0 then { s with closes := s.closes.set c .woken }
    else s
  | .leave c =>
    if s.closes[c]? = some .woken then { s with closes := s.closes.set c .returned } else s

/-- The action that a step starts. -/
def starting (s : ActionExecutor α) : PoolOp α → Option α
  | .start j =>
    match s.goroutines[j]? with
    | some ⟨_, _, a, .spawned⟩ => some a
    | _ => none
  | _ => none

/-- What a step does, if it can be taken. -/
inductive Move (s : ActionExecutor α) : PoolOp α → ActionExecutor α → Prop
  | stay {o : PoolOp α} (ho : o.isExecute = false) (hstart : s.starting o = none) : Move s o s
  | execute (actions : List α) :
    Move s (.execute actions) { s with calls := s.calls ++ [⟨[], actions, .selecting⟩] }
  | acquire {i : ℕ} {passed todo : List α} {a : α}
    (hi : s.calls[i]? = some ⟨passed, a :: todo, .selecting⟩) (hroom : s.sem < s.size) :
    Move s (.select i)
      { s with sem := s.sem + 1, calls := s.calls.set i ⟨passed, a :: todo, .acquired⟩ }
  | drop {i : ℕ} {passed todo : List α} {a : α}
    (hi : s.calls[i]? = some ⟨passed, a :: todo, .selecting⟩) (hfull : s.size ≤ s.sem) :
    Move s (.select i) { s with
      dropped := s.dropped ++ [(i, passed.length)]
      calls := s.calls.set i ⟨passed ++ [a], todo, .selecting⟩ }
  | add {i : ℕ} {passed todo : List α} {a : α}
    (hi : s.calls[i]? = some ⟨passed, a :: todo, .acquired⟩) :
    Move s (.add i) { s with wg := s.wg + 1, calls := s.calls.set i ⟨passed, a :: todo, .added⟩ }
  | spawn {i : ℕ} {passed todo : List α} {a : α}
    (hi : s.calls[i]? = some ⟨passed, a :: todo, .added⟩) :
    Move s (.spawn i) { s with
      goroutines := s.goroutines ++ [⟨i, passed.length, a, .spawned⟩]
      calls := s.calls.set i ⟨passed ++ [a], todo, .selecting⟩ }
  | start {j i k : ℕ} {a : α} (hj : s.goroutines[j]? = some ⟨i, k, a, .spawned⟩)
    (hstart : s.starting (.start j) = some a) :
    Move s (.start j) { s with
      started := s.started ++ [(i, k)]
      goroutines := s.goroutines.set j ⟨i, k, a, .running⟩ }
  | finish {j i k : ℕ} {a : α} (hj : s.goroutines[j]? = some ⟨i, k, a, .running⟩) :
    Move s (.finish j) { s with goroutines := s.goroutines.set j ⟨i, k, a, .finished⟩ }
  | release {j i k : ℕ} {a : α} (hj : s.goroutines[j]? = some ⟨i, k, a, .finished⟩)
    (hsem : s.sem ≠ 0) :
    Move s (.release j)
      { s with sem := s.sem - 1, goroutines := s.goroutines.set j ⟨i, k, a, .released⟩ }
  | done {j i k : ℕ} {a : α} (hj : s.goroutines[j]? = some ⟨i, k, a, .released⟩) :
    Move s (.done j)
      { s with wg := s.wg - 1, goroutines := s.goroutines.set j ⟨i, k, a, .ended⟩ }
  | close : Move s .close { s with closes := s.closes ++ [.waiting] }
  | wake {c : ℕ} (hwg : s.wg = 0) : Move s (.wake c) { s with closes := s.closes.set c .woken }
  | leave {c : ℕ} (hc : s.closes[c]? = some .woken) :
    Move s (.leave c) { s with closes := s.closes.set c .returned }

lemma move_step (o : PoolOp α) : Move s o (s.step o) := by
  cases o with
  | execute actions => exact .execute actions
  | select i =>
    rw [step]
    split
    next hi =>
      split_ifs with hroom
      · exact .acquire hi hroom
      · exact .drop hi (not_lt.1 hroom)
    next => exact .stay rfl rfl
  | add i =>
    rw [step]
    split
    next hi => exact .add hi
    next => exact .stay rfl rfl
  | spawn i =>
    rw [step]
    split
    next hi => exact .spawn hi
    next => exact .stay rfl rfl
  | start j =>
    rw [step]
    split
    next hj => exact .start hj (by rw [starting, hj])
    next hj =>
      refine .stay rfl ?_
      rw [starting]
      split
      next hj' => exact absurd hj' (hj _ _ _)
      next => rfl
  | finish j =>
    rw [step]
    split
    next hj => exact .finish hj
    next => exact .stay rfl rfl
  | release j =>
    rw [step]
    split
    next hj =>
      split_ifs with hsem
      · exact .stay rfl rfl
      · exact .release hj hsem
    next => exact .stay rfl rfl
  | done j =>
    rw [step]
    split
    next hj => exact .done hj
    next => exact .stay rfl rfl
  | close => exact .close
  | wake c =>
    rw [step]
    split_ifs with hwake
    · exact .wake hwake.2
    · exact .stay rfl rfl
  | leave c =>
    rw [step]
    split_ifs with hleave
    · exact .leave hleave
    · exact .stay rfl rfl

/-- How many actions are running. -/
def running : ℕ := s.goroutines.countP fun g => g.stage = .running

/-- How many slots are taken. -/
def slots : ℕ := s.calls.countP ExecuteCall.holds + s.goroutines.countP Goroutine.holds

/-- How many of the actions of a call the loop is done with. -/
def passedBy (i : ℕ) : ℕ := s.calls[i]?.elim 0 fun c => c.passed.length

/-- An action of a call. -/
def action (x : ℕ × ℕ) : Option α := s.calls[x.1]?.bind fun c => (c.passed ++ c.todo)[x.2]?

/-- How often an action is still to be started or dropped: the loop has not come to it, or its
goroutine has not begun. -/
def pending (x : ℕ × ℕ) : ℕ :=
  (if s.passedBy x.1 ≤ x.2 ∧ (s.action x).isSome then 1 else 0) +
    s.goroutines.countP fun g => g.isFor x && decide (g.stage = .spawned)

/-- The slots are held by calls and goroutines, those counted in the wait group have not ended,
and each action that a loop is done with has a goroutine or was dropped. -/
structure Valid (s : ActionExecutor α) : Prop where
  sem : s.sem = s.slots
  sem_le : s.sem ≤ s.size
  wg : s.wg = s.calls.countP (fun c => c.stage = .added) +
    s.goroutines.countP fun g => g.stage ≠ .ended
  todo : ∀ c ∈ s.calls, c.stage ≠ .selecting → c.todo ≠ []
  once : ∀ x : ℕ × ℕ, s.goroutines.countP (Goroutine.isFor x) + s.dropped.count x =
    if x.2 < s.passedBy x.1 then 1 else 0
  started : ∀ x, s.started.count x =
    s.goroutines.countP fun g => g.isFor x && !decide (g.stage = .spawned)
  action : ∀ g ∈ s.goroutines, s.action (g.call, g.index) = some g.action

variable {o : PoolOp α} {sem wg i : ℕ} {a : α} {started : List (ℕ × ℕ)} {t : ActionExecutor α}
  {passed todo : List α} {stage : ExecuteStage} (workerPoolSize : ℤ) (p : α → Bool)

lemma valid_new : (new workerPoolSize : ActionExecutor α).Valid := by
  refine ⟨rfl, Nat.zero_le _, rfl, ?_, ?_, ?_, ?_⟩ <;> simp [new, passedBy]

variable {s}

/-! ### A goroutine goes on -/

/-- A goroutine goes from one stage to the next, with what it does to the counters. -/
lemma Valid.setGoroutine (h : s.Valid) {j k : ℕ} {stage : GoroutineStage}
    (hj : s.goroutines[j]? = some ⟨i, k, a, stage⟩) {stage' : GoroutineStage} (hsem : sem + (if (⟨i,
    k, a, stage⟩ : Goroutine α).holds then 1 else 0) = s.sem + if (⟨i, k, a, stage'⟩ : Goroutine
    α).holds then 1 else 0) (hle : sem ≤ s.size)
    (hwg : wg + (if stage ≠ .ended then 1 else 0) = s.wg + if stage' ≠ .ended then 1 else 0)
    (hstarted : ∀ x, started.count x + (if (i, k) = x ∧ stage ≠ .spawned then 1 else 0) =
    s.started.count x + if (i, k) = x ∧ stage' ≠ .spawned then 1 else 0) :
    Valid { s with
      sem := sem
      wg := wg
      started := started
      goroutines := s.goroutines.set j ⟨i, k, a, stage'⟩ } where
  sem := by
    have hset := countP_set_add Goroutine.holds hj ⟨i, k, a, stage'⟩
    have hold := h.sem
    rw [slots] at hold ⊢
    dsimp only
    omega
  sem_le := hle
  wg := by
    have hset := countP_set_add (fun g : Goroutine α => g.stage ≠ .ended) hj ⟨i, k, a, stage'⟩
    have hold := h.wg
    simp only [decide_eq_true_eq] at hset
    dsimp only
    omega
  todo := h.todo
  once x := by
    have hset := countP_set_add (Goroutine.isFor x) hj ⟨i, k, a, stage'⟩
    have hsame : (s.goroutines.set j ⟨i, k, a, stage'⟩).countP (Goroutine.isFor x) =
        s.goroutines.countP (Goroutine.isFor x) := Nat.add_right_cancel hset
    rw [hsame]
    exact h.once x
  started x := by
    have hset := countP_set_add
      (fun g : Goroutine α => g.isFor x && !decide (g.stage = .spawned)) hj ⟨i, k, a, stage'⟩
    have hold := h.started x
    have hnew := hstarted x
    simp only [Goroutine.isFor, Bool.and_eq_true, Bool.not_eq_true', decide_eq_true_eq,
      decide_eq_false_iff_not] at hset
    dsimp only [Goroutine.isFor] at hold ⊢
    simp only [ne_eq] at hnew
    omega
  action g hg := by
    rcases List.mem_or_eq_of_mem_set hg with hg | rfl
    · exact h.action g hg
    · exact h.action ⟨i, k, a, stage⟩ (List.mem_of_getElem? hj)

/-! ### A call goes on -/

section Call

variable {t : ActionExecutor α} {i : ℕ} {passed todo : List α} {a : α}
  {stage : ExecuteStage}

lemma passedBy_of_getElem? {c : ExecuteCall α} (hi : s.calls[i]? = some c) :
    s.passedBy i = c.passed.length := by
  rw [passedBy, hi]
  rfl

lemma passedBy_set {c c' : ExecuteCall α} (hi : s.calls[i]? = some c)
    (ht : t.calls = s.calls.set i c') (i' : ℕ) :
    t.passedBy i' = if i' = i then c'.passed.length else s.passedBy i' := by
  have hlt : i < s.calls.length := (List.getElem?_eq_some_iff.1 hi).1
  rw [passedBy, passedBy, ht, List.getElem?_set]
  split_ifs with h h' h'
  · rfl
  · exact absurd h.symm h'
  · exact absurd h'.symm h
  · rfl

/-- The actions of the calls stay the same. -/
lemma action_set {c : ExecuteCall α} (hi : s.calls[i]? = some c) (c' : ExecuteCall α)
    (ht : t.calls = s.calls.set i c') (hc : c'.passed ++ c'.todo = c.passed ++ c.todo)
    (x : ℕ × ℕ) : t.action x = s.action x := by
  have hlt : i < s.calls.length := (List.getElem?_eq_some_iff.1 hi).1
  rw [action, action, ht, List.getElem?_set]
  split_ifs with h
  · rw [← h, hi, Option.bind_some, Option.bind_some, hc]
  · rfl

/-- A call goes from one stage to the next. -/
lemma Valid.setStage (h : s.Valid) (hi : s.calls[i]? = some ⟨passed, a :: todo, stage⟩)
    {stage' : ExecuteStage} {sem wg : ℕ}
    (hsem : sem + (if stage ≠ .selecting then 1 else 0) =
      s.sem + if stage' ≠ .selecting then 1 else 0)
    (hle : sem ≤ s.size)
    (hwg : wg + (if stage = .added then 1 else 0) = s.wg + if stage' = .added then 1 else 0) :
    Valid { s with
      sem := sem
      wg := wg
      calls := s.calls.set i ⟨passed, a :: todo, stage'⟩ } where
  sem := by
    have hset := countP_set_add ExecuteCall.holds hi ⟨passed, a :: todo, stage'⟩
    have hold := h.sem
    simp only [ExecuteCall.holds, decide_eq_true_eq] at hset
    rw [slots] at hold ⊢
    dsimp only [ExecuteCall.holds] at hold ⊢
    omega
  sem_le := hle
  wg := by
    have hset := countP_set_add (fun c : ExecuteCall α => c.stage = .added) hi
      ⟨passed, a :: todo, stage'⟩
    have hold := h.wg
    simp only [decide_eq_true_eq] at hset
    dsimp only
    omega
  todo c hc := by
    rcases List.mem_or_eq_of_mem_set hc with hc | rfl
    · exact h.todo c hc
    · exact fun _ => List.cons_ne_nil _ _
  once x := by
    have hold := h.once x
    rw [passedBy_set hi rfl]
    by_cases hx : x.1 = i
    · rw [hx, passedBy_of_getElem? hi] at hold
      rw [if_pos hx]
      exact hold
    · rw [if_neg hx]
      exact hold
  started := h.started
  action g hg := by
    exact Eq.trans (action_set hi ⟨passed, a :: todo, stage'⟩ rfl rfl _) (h.action g hg)

/-- The loop goes on to the next action. -/
lemma once_pass (hi : s.calls[i]? = some ⟨passed, a :: todo, stage⟩)
    (ht : t.calls = s.calls.set i ⟨passed ++ [a], todo, .selecting⟩) (x : ℕ × ℕ) :
    (if x.2 < t.passedBy x.1 then 1 else 0) =
      (if x.2 < s.passedBy x.1 then 1 else 0) + if (i, passed.length) = x then 1 else 0 := by
  obtain ⟨i', k⟩ := x
  rw [passedBy_set hi ht]
  simp only [Prod.mk.injEq]
  by_cases hi' : i' = i
  · rw [if_pos hi', hi', passedBy_of_getElem? hi, List.length_append, List.length_singleton]
    dsimp only
    split_ifs <;> omega
  · have hne : ¬ (i = i' ∧ passed.length = k) := fun h => hi' h.1.symm
    rw [if_neg hi', if_neg hne, Nat.add_zero]

lemma todo_pass (h : s.Valid) :
    ∀ c ∈ s.calls.set i ⟨passed ++ [a], todo, .selecting⟩, c.stage ≠ .selecting → c.todo ≠ [] := by
  intro c hc
  rcases List.mem_or_eq_of_mem_set hc with hc | rfl
  · exact h.todo c hc
  · exact fun hstage => absurd rfl hstage

lemma Valid.drop (h : s.Valid) (hi : s.calls[i]? = some ⟨passed, a :: todo, .selecting⟩) :
    Valid { s with
      dropped := s.dropped ++ [(i, passed.length)]
      calls := s.calls.set i ⟨passed ++ [a], todo, .selecting⟩ } where
  sem := by
    have hset := countP_set_add ExecuteCall.holds hi ⟨passed ++ [a], todo, .selecting⟩
    have hsame : (s.calls.set i ⟨passed ++ [a], todo, .selecting⟩).countP ExecuteCall.holds =
        s.calls.countP ExecuteCall.holds := Nat.add_right_cancel hset
    rw [slots]
    rw [hsame]
    exact h.sem
  sem_le := h.sem_le
  wg := by
    have hset := countP_set_add (fun c : ExecuteCall α => c.stage = .added) hi
      ⟨passed ++ [a], todo, .selecting⟩
    have hold := h.wg
    simp only [decide_eq_true_eq] at hset
    dsimp only
    omega
  todo := todo_pass h
  once x := by
    rw [once_pass hi rfl, ← h.once x]
    rw [List.count_append, List.count_singleton, Nat.add_assoc]
    simp only [beq_iff_eq]
  started := h.started
  action g hg := by
    refine Eq.trans (action_set hi _ rfl ?_ _) (h.action g hg)
    exact (List.append_cons passed a todo).symm

/-- A goroutine is started; it takes over the slot of the call. -/
lemma Valid.spawn (h : s.Valid) (hi : s.calls[i]? = some ⟨passed, a :: todo, .added⟩) :
    Valid { s with
      goroutines := s.goroutines ++ [⟨i, passed.length, a, .spawned⟩]
      calls := s.calls.set i ⟨passed ++ [a], todo, .selecting⟩ } where
  sem := by
    have hset := countP_set_add ExecuteCall.holds hi ⟨passed ++ [a], todo, .selecting⟩
    have hold := h.sem
    rw [if_pos (by rfl), if_neg (by simp [ExecuteCall.holds])] at hset
    rw [slots] at hold ⊢
    dsimp only
    rw [List.countP_append, List.countP_singleton, if_pos (by rfl)]
    omega
  sem_le := h.sem_le
  wg := by
    have hset := countP_set_add (fun c : ExecuteCall α => c.stage = .added) hi
      ⟨passed ++ [a], todo, .selecting⟩
    have hold := h.wg
    simp only [decide_eq_true_eq] at hset
    dsimp only
    rw [List.countP_append, List.countP_singleton, if_pos (by rfl)]
    simp only [reduceCtorEq, if_true, if_false] at hset
    omega
  todo := todo_pass h
  once x := by
    rw [once_pass hi rfl, ← h.once x]
    rw [List.countP_append, List.countP_singleton, Nat.add_right_comm, Goroutine.isFor]
    simp only [decide_eq_true_eq]
  started x := by
    rw [List.countP_append, List.countP_singleton, if_neg (by simp), Nat.add_zero]
    exact h.started x
  action g hg := by
    refine Eq.trans (action_set hi _ rfl (List.append_cons passed a todo).symm _) ?_
    rcases List.mem_append.1 hg with hg | hg
    · exact h.action g hg
    · rw [List.mem_singleton.1 hg, ActionExecutor.action, hi, Option.bind_some]
      rw [List.getElem?_append_right le_rfl, Nat.sub_self]
      rfl

lemma Valid.execute (h : s.Valid) (actions : List α) :
    Valid { s with calls := s.calls ++ [⟨[], actions, .selecting⟩] } where
  sem := by
    rw [slots]
    rw [List.countP_append, List.countP_singleton, if_neg (by simp [ExecuteCall.holds]),
      Nat.add_zero]
    exact h.sem
  sem_le := h.sem_le
  wg := by
    rw [List.countP_append, List.countP_singleton, if_neg (by simp), Nat.add_zero]
    exact h.wg
  todo c hc := by
    rcases List.mem_append.1 hc with hc | hc
    · exact h.todo c hc
    · rw [List.mem_singleton.1 hc]
      exact fun hstage => absurd rfl hstage
  once x := by
    have hsame : passedBy { s with calls := s.calls ++ [⟨[], actions, .selecting⟩] } x.1 =
        s.passedBy x.1 := by
      rw [passedBy, passedBy]
      rcases Nat.lt_trichotomy x.1 s.calls.length with hlt | heq | hgt
      · rw [List.getElem?_append_left hlt]
      · rw [heq, List.getElem?_append_right le_rfl, Nat.sub_self,
          List.getElem?_eq_none le_rfl]
        rfl
      · rw [List.getElem?_eq_none (by simpa using hgt), List.getElem?_eq_none hgt.le]
    rw [hsame]
    exact h.once x
  started := h.started
  action g hg := by
    have hold := h.action g hg
    rw [ActionExecutor.action] at hold ⊢
    obtain ⟨c, hc, hget⟩ := Option.bind_eq_some_iff.1 hold
    rw [List.getElem?_append_left (List.getElem?_eq_some_iff.1 hc).1, hc]
    exact hget

end Call

lemma Valid.setCloses (h : s.Valid) (closes : List CloseStage) :
    Valid { s with closes := closes } :=
  ⟨h.sem, h.sem_le, h.wg, h.todo, h.once, h.started, h.action⟩

lemma Valid.sem_pos (h : s.Valid) {g : Goroutine α} (hg : g ∈ s.goroutines) (hholds : g.holds) :
    0 < s.sem := by
  rw [h.sem, slots]
  have hpos : 0 < s.goroutines.countP Goroutine.holds := List.countP_pos_iff.2 ⟨g, hg, hholds⟩
  omega

lemma Valid.wg_pos (h : s.Valid) {g : Goroutine α} (hg : g ∈ s.goroutines)
    (hlive : g.stage ≠ .ended) : 0 < s.wg := by
  rw [h.wg]
  have hpos : 0 < s.goroutines.countP fun g => g.stage ≠ .ended :=
    List.countP_pos_iff.2 ⟨g, hg, decide_eq_true hlive⟩
  omega

lemma Valid.move (h : s.Valid) (hmove : Move s o t) : t.Valid := by
  cases hmove with
  | stay => exact h
  | execute actions => exact h.execute actions
  | acquire hi hroom => exact h.setStage hi rfl hroom rfl
  | drop hi => exact h.drop hi
  | add hi => exact h.setStage hi rfl h.sem_le rfl
  | spawn hi => exact h.spawn hi
  | start hj =>
    refine h.setGoroutine hj rfl h.sem_le rfl fun x => ?_
    rw [List.count_append, List.count_singleton]
    simp
  | finish hj => exact h.setGoroutine hj rfl h.sem_le rfl fun x => by simp
  | release hj hsem =>
    have hle := h.sem_le
    refine h.setGoroutine hj ?_ ?_ rfl fun x => by simp
    · rw [if_pos (by rfl), if_neg (by simp [Goroutine.holds])]
      omega
    · omega
  | done hj =>
    have hpos := h.wg_pos (List.mem_of_getElem? hj) (by simp)
    refine h.setGoroutine hj rfl h.sem_le ?_ fun x => by simp
    rw [if_pos (by simp), if_neg (by simp)]
    omega
  | close | wake | leave => exact h.setCloses _

lemma Valid.step (h : s.Valid) (o : PoolOp α) : (s.step o).Valid := h.move (s.move_step o)

/-- Each action of a call was started or dropped once, or is still to be. -/
lemma Valid.accounts (h : s.Valid) (x : ℕ × ℕ) :
    s.started.count x + s.dropped.count x + s.pending x = if (s.action x).isSome then 1 else 0 := by
  have hsplit := countP_and_add_countP_and_not (Goroutine.isFor x)
    (fun g => decide (g.stage = .spawned)) s.goroutines
  have honce := h.once x
  have hstarted := h.started x
  have hpassed : x.2 < s.passedBy x.1 → (s.action x).isSome := by
    intro hlt
    rw [passedBy] at hlt
    rw [ActionExecutor.action]
    cases hc : s.calls[x.1]? with
    | none => simp [hc] at hlt
    | some c =>
      rw [hc] at hlt
      rw [Option.bind_some, List.getElem?_append_left hlt, List.getElem?_eq_getElem hlt]
      rfl
  rw [pending]
  by_cases hlt : x.2 < s.passedBy x.1
  · rw [if_neg fun hle => absurd hle.1 (not_le.2 hlt), if_pos (hpassed hlt)]
    rw [if_pos hlt] at honce
    omega
  · rw [if_neg hlt] at honce
    by_cases hsome : (s.action x).isSome
    · rw [if_pos ⟨not_lt.1 hlt, hsome⟩, if_pos hsome]
      omega
    · rw [if_neg fun hle => hsome hle.2, if_neg hsome]
      omega

/-! ### Waiting for the end -/

/-- No call of `Execute` is in progress. -/
def Idle (s : ActionExecutor α) : Prop := ∀ c ∈ s.calls, c.todo = []

instance : Decidable s.Idle := inferInstanceAs (Decidable (∀ c ∈ s.calls, c.todo = []))

/-- A call of `Close` is past `wg.Wait`. -/
def Woken (s : ActionExecutor α) (c : ℕ) : Prop :=
  s.closes[c]? = some .woken ∨ s.closes[c]? = some .returned

instance (c : ℕ) : Decidable (s.Woken c) := inferInstanceAs (Decidable (_ ∨ _))

/-- What a step does apart from the counts: it drops an action only if there is no slot, lets a
`Close` get past `wg.Wait` only if the counter is zero, and leaves calls that are not in progress
alone. -/
structure Effect (s : ActionExecutor α) (o : PoolOp α) (t : ActionExecutor α) : Prop where
  size : t.size = s.size
  dropped : t.dropped = s.dropped ∨ s.size ≤ s.sem
  woken : ∀ c, t.Woken c → s.Woken c ∨ s.wg = 0
  idle : s.Idle → o.isExecute = false → t.calls = s.calls ∧ t.wg ≤ s.wg

lemma Effect.refl (s : ActionExecutor α) (o : PoolOp α) : Effect s o s :=
  ⟨rfl, Or.inl rfl, fun _ => Or.inl, fun _ _ => ⟨rfl, le_rfl⟩⟩

lemma Effect.goroutine {goroutines : List (Goroutine α)} (hwg : wg ≤ s.wg) :
    Effect s o { s with sem := sem, wg := wg, started := started, goroutines := goroutines } :=
  ⟨rfl, Or.inl rfl, fun _ => Or.inl, fun _ _ => ⟨rfl, hwg⟩⟩

lemma Idle.getElem?_ne (h : s.Idle) (i : ℕ) :
    s.calls[i]? ≠ some ⟨passed, a :: todo, stage⟩ := fun hi =>
  absurd (h _ (List.mem_of_getElem? hi)) (List.cons_ne_nil _ _)

lemma Effect.call (hi : s.calls[i]? = some ⟨passed, a :: todo, stage⟩)
    {calls : List (ExecuteCall α)} {goroutines : List (Goroutine α)} {dropped : List (ℕ × ℕ)}
    (hdropped : dropped = s.dropped ∨ s.size ≤ s.sem) :
    Effect s o { s with
      sem := sem, wg := wg, calls := calls, goroutines := goroutines, dropped := dropped } :=
  ⟨rfl, hdropped, fun _ => Or.inl, fun h _ => absurd hi (h.getElem?_ne i)⟩

lemma Effect.close {closes : List CloseStage}
    (h : ∀ c, Woken { s with closes := closes } c → s.Woken c ∨ s.wg = 0) :
    Effect s o { s with closes := closes } :=
  ⟨rfl, Or.inl rfl, h, fun _ _ => ⟨rfl, le_rfl⟩⟩

lemma Move.effect (hmove : Move s o t) : Effect s o t := by
  cases hmove with
  | stay => exact .refl s _
  | execute actions => exact ⟨rfl, Or.inl rfl, fun _ => Or.inl, fun _ ho => nomatch ho⟩
  | acquire hi => exact .call hi (Or.inl rfl)
  | drop hi hfull => exact .call hi (Or.inr hfull)
  | add hi | spawn hi => exact .call hi (Or.inl rfl)
  | start | finish | release => exact .goroutine le_rfl
  | done => exact .goroutine (Nat.sub_le _ _)
  | close =>
    refine .close fun c h => Or.inl ?_
    rw [Woken] at h ⊢
    rw [List.getElem?_append] at h
    split_ifs at h
    · exact h
    · rw [List.getElem?_singleton] at h
      split_ifs at h <;> simp at h
  | wake hwg => exact .close fun _ _ => Or.inr hwg
  | leave hleave =>
    refine .close fun c h => Or.inl ?_
    rw [Woken] at h ⊢
    rw [List.getElem?_set] at h
    split_ifs at h with hc hlt
    · rw [← hc]
      exact Or.inl hleave
    · simp at h
    · exact h

lemma effect_step (s : ActionExecutor α) (o : PoolOp α) : Effect s o (s.step o) :=
  (s.move_step o).effect

lemma Valid.quiet (h : s.Valid) (hidle : s.Idle) (hwg : s.wg = 0) :
    (∀ g ∈ s.goroutines, g.stage = .ended) ∧ s.sem = 0 := by
  have hended : ∀ g ∈ s.goroutines, g.stage = .ended := by
    intro g hg
    by_contra hne
    exact absurd hwg (h.wg_pos hg hne).ne'
  refine ⟨hended, ?_⟩
  rw [h.sem, slots, Nat.add_eq_zero_iff, List.countP_eq_zero, List.countP_eq_zero]
  constructor
  · intro c hc hholds
    exact h.todo c hc (of_decide_eq_true hholds) (hidle c hc)
  · intro g hg
    simp [Goroutine.holds, hended g hg]

/-- From a state without a call in progress on, a `Close` gets past `wg.Wait` when the wait group
is at zero, and there it stays. -/
lemma Idle.wg_eq_zero {os : List (PoolOp α)} (h : s.Idle)
    (hos : ∀ o ∈ os, o.isExecute = false) {c : ℕ} (hc : s.Woken c → s.wg = 0) :
    (os.foldl ActionExecutor.step s).Idle ∧
      ((os.foldl ActionExecutor.step s).Woken c → (os.foldl ActionExecutor.step s).wg = 0) := by
  induction os generalizing s with
  | nil => exact ⟨h, hc⟩
  | cons o os ih =>
    have heffect := effect_step s o
    obtain ⟨hcalls, hwg⟩ := heffect.idle h (hos o List.mem_cons_self)
    refine ih ?_ (fun o' ho' => hos o' (List.mem_cons_of_mem _ ho')) ?_
    · rw [Idle, hcalls]
      exact h
    · intro hwoken
      have hzero : s.wg = 0 := (heffect.woken c hwoken).elim hc id
      exact Nat.le_zero.1 (hzero ▸ hwg)

/-! ### What is still to be started -/

/-- How many actions with a property are still to be started, unless they are dropped. -/
def load (p : α → Bool) (s : ActionExecutor α) : ℕ :=
  (s.calls.map fun c => c.todo.countP p).sum +
    s.goroutines.countP fun g => p g.action && decide (g.stage = .spawned)

lemma load_execute (s : ActionExecutor α) (actions : List α) :
    (s.step (.execute actions)).load p = s.load p + actions.countP p := by
  rw [ActionExecutor.step, load, load, List.map_append, List.sum_append]
  simp only [List.map_cons, List.map_nil, List.sum_cons, List.sum_nil]
  omega

lemma load_call_le (hi : s.calls[i]? = some ⟨passed, todo, stage⟩) {passed' todo' : List α}
    {stage' : ExecuteStage} (htodo : todo'.Sublist todo) {dropped : List (ℕ × ℕ)} :
    load p { s with
      sem := sem, wg := wg, dropped := dropped
      calls := s.calls.set i ⟨passed', todo', stage'⟩ } ≤ s.load p := by
  have hset := sum_map_set_add (fun c => c.todo.countP p) hi ⟨passed', todo', stage'⟩
  have hle := htodo.countP_le (p := p)
  dsimp only [load] at hset ⊢
  omega

lemma load_goroutine {j k : ℕ} {stage : GoroutineStage}
    (hj : s.goroutines[j]? = some ⟨i, k, a, stage⟩) {stage' : GoroutineStage}
    (hstage : stage' ≠ .spawned) :
    load p { s with
        sem := sem, wg := wg, started := started
        goroutines := s.goroutines.set j ⟨i, k, a, stage'⟩ } +
      (if stage = .spawned then if p a then 1 else 0 else 0) = s.load p := by
  have hset := countP_set_add (fun g => p g.action && decide (g.stage = .spawned)) hj
    ⟨i, k, a, stage'⟩
  dsimp only [load]
  by_cases hspawned : stage = .spawned <;> simp [hspawned, hstage] at hset ⊢ <;> omega

lemma Move.load_le (hmove : Move s o t) (ho : o.isExecute = false) :
    t.load p + (s.starting o).elim 0 (fun a => if p a then 1 else 0) ≤ s.load p := by
  cases hmove with
  | stay _ hstart => simp [hstart]
  | execute actions => cases ho
  | acquire hi | add hi => exact load_call_le p hi (List.Sublist.refl _)
  | drop hi => exact load_call_le p hi (List.sublist_cons_self _ _)
  | @spawn i passed todo a hi =>
    have hset := sum_map_set_add (fun c => c.todo.countP p) hi ⟨passed ++ [a], todo, .selecting⟩
    dsimp only at hset
    rw [List.countP_cons] at hset
    simp only [load, starting, Option.elim_none, List.countP_append, List.countP_singleton,
      decide_true, Bool.and_true]
    omega
  | start hj hstart =>
    rw [hstart]
    exact (load_goroutine p hj (by simp)).le
  | finish hj | release hj | done hj => exact (load_goroutine p hj (by simp)).le
  | close | wake | leave => exact le_rfl

/-- A call of `Execute` or a goroutine goes on: what it starts is no longer to be started, and
nothing is added. -/
lemma load_step_le (s : ActionExecutor α) (ho : o.isExecute = false) :
    (s.step o).load p + (s.starting o).elim 0 (fun a => if p a then 1 else 0) ≤ s.load p :=
  (s.move_step o).load_le p ho

/-! ### Every interleaving -/

lemma valid_foldl_step (os : List (PoolOp α)) :
    (os.foldl ActionExecutor.step (new workerPoolSize)).Valid :=
  List.foldlRecOn os _ (valid_new workerPoolSize) fun _ hs o _ => hs.step o

lemma size_foldl_step (s : ActionExecutor α) (os : List (PoolOp α)) :
    (os.foldl ActionExecutor.step s).size = s.size :=
  foldl_frame (fun s : ActionExecutor α => s.size) (fun s o => (effect_step s o).size) os s

/-- In every interleaving, at most as many actions run as the pool has slots; every action of every
call was started once, or dropped once, or is still to be; what a goroutine runs is the action of
its call, and no goroutine waits to give back its slot.  An action is dropped only when all slots
are taken.  Once no call is in progress, a `Close` that has not got past `wg.Wait` by then returns
when all goroutines have ended and all slots are free. -/
theorem actionPool_accounts (workerPoolSize : ℤ) (os : List (PoolOp α)) :
    let pool := new workerPoolSize
    let s := os.foldl ActionExecutor.step pool
    s.running ≤ pool.size ∧
    (∀ x, s.started.count x + s.dropped.count x + s.pending x =
      if (s.action x).isSome then 1 else 0) ∧
    (∀ g ∈ s.goroutines, s.action (g.call, g.index) = some g.action ∧
      (g.stage = .finished → s.sem ≠ 0)) ∧
    (∀ x ∈ trace ActionExecutor.step pool os,
      (x.1.step x.2).dropped ≠ x.1.dropped → x.1.slots = pool.size) ∧
    ∀ (os' : List (PoolOp α)) (c : ℕ), s.Idle → (∀ o ∈ os', o.isExecute = false) → ¬ s.Woken c →
      (os'.foldl ActionExecutor.step s).closes[c]? = some .returned →
      (∀ g ∈ (os'.foldl ActionExecutor.step s).goroutines, g.stage = .ended) ∧
        (os'.foldl ActionExecutor.step s).sem = 0 := by
  intro pool s
  have hs : s.Valid := valid_foldl_step workerPoolSize os
  have hsize : s.size = pool.size := size_foldl_step pool os
  refine ⟨?_, hs.accounts, ?_, ?_, ?_⟩
  · calc s.running ≤ s.goroutines.countP Goroutine.holds :=
          List.countP_mono_left fun g _ hg => by simp [Goroutine.holds, of_decide_eq_true hg]
      _ ≤ s.slots := Nat.le_add_left _ _
      _ = s.sem := hs.sem.symm
      _ ≤ pool.size := hsize ▸ hs.sem_le
  · intro g hg
    refine ⟨hs.action g hg, fun hstage => (hs.sem_pos hg ?_).ne'⟩
    simp [Goroutine.holds, hstage]
  · intro x hx hdrop
    have hinv := trace_invariant (fun t : ActionExecutor α => t.Valid ∧ t.size = pool.size)
      (fun _ _ => True) (fun t o ht _ => ⟨ht.1.step o, (effect_step t o).size.trans ht.2⟩)
      ⟨valid_new workerPoolSize, rfl⟩ (fun _ _ => trivial) x hx
    have hfull := (effect_step x.1 x.2).dropped.resolve_left hdrop
    rw [← hinv.1.sem, ← hinv.2]
    exact le_antisymm hinv.1.sem_le hfull
  · intro os' c hidle hos' hwoken hreturned
    obtain ⟨hidle', hwg⟩ := hidle.wg_eq_zero hos' fun h => absurd h hwoken
    have hvalid : (os'.foldl ActionExecutor.step s).Valid := by
      rw [← List.foldl_append]
      exact valid_foldl_step workerPoolSize (os ++ os')
    exact hvalid.quiet hidle' (hwg (Or.inr hreturned))

/-- Two actions for a pool of one slot: the second one is dropped.  Then `Close` is called. -/
def oneSlotRun : List (PoolOp Action) :=
  [.execute [⟨str "publish", str "a", []⟩, ⟨str "publish", str "b", []⟩], .select 0, .add 0,
    .spawn 0, .start 0, .select 0]

theorem actionPool_accounts_oneSlot :
    let s := oneSlotRun.foldl ActionExecutor.step (new 1)
    let rest : List (PoolOp Action) :=
      [.close, .wake 0, .finish 0, .release 0, .done 0, .wake 0, .leave 0]
    (s.started, s.dropped, s.running) = ([(0, 0)], [(0, 1)], 1) ∧
      s.started.count (0, 1) + s.dropped.count (0, 1) + s.pending (0, 1) = 1 ∧
      (∀ g ∈ (rest.foldl ActionExecutor.step s).goroutines, g.stage = .ended) ∧
      (rest.foldl ActionExecutor.step s).sem = 0 := by
  obtain ⟨-, haccounts, -, -, hclose⟩ := actionPool_accounts 1 oneSlotRun
  exact ⟨by decide, haccounts (0, 1), hclose _ 0 (by decide) (by decide) (by decide) (by decide)⟩

end ActionExecutor

end Dmqtt.Rule
