/-
Interceptors, their executors and the chain (`internal/plugin`).

Interceptors share a state `σ`; a hook reads the clock, may change its event and the state,
and returns an error to reject.  `Executor.Run` starts the hook on a goroutine of its own and
waits for its end or for a timeout.  Which of the two comes first, and whether a hook that
timed out has done its work, is not up to the code, so both are part of the environment
`RunEnv` of the call, with the instants at which the clock is read.

The five dispatch methods of the chain are one loop, `dispatch`.  `dispatch_through` is its
rule: a condition on event and state that every hook that accepts preserves, and that holds in
spite of hooks that are skipped, holds after a dispatch that accepts.
-/
import Dmqtt.CircuitBreaker
import Dmqtt.Codec.Packets

namespace Dmqtt.Plugin

open Lib CircuitBreaker

/-! ### Events -/

/-- The data of the `OnConnect` hook. -/
structure ConnectEvent where
  clientID : Str
  username : Str
  cleanSession : Bool
  remoteAddr : Str
deriving DecidableEq

/-- The data of the `OnPublish` hook. -/
structure PublishEvent where
  clientID : Str
  topic : Str
  payload : Bytes
  qos : UInt8
  retain : Bool
deriving DecidableEq

/-- The data of the `OnSubscribe` hook. -/
structure SubscribeEvent where
  clientID : Str
  topicFilter : Str
  qos : UInt8
deriving DecidableEq

/-- The data of the `OnDelivery` hook. -/
structure DeliveryEvent where
  clientID : Str
  topic : Str
  payload : Bytes
  qos : UInt8
deriving DecidableEq

/-- The data of the `OnUnsubscribe` hook. -/
structure UnsubscribeEvent where
  clientID : Str
  topicFilter : Str
deriving DecidableEq

/-- The data of the `OnDisconnect` hook. -/
structure DisconnectEvent where
  clientID : Str
  reason : Str
  remoteAddr : Str
deriving DecidableEq

/-! ### The executor of one interceptor -/

/-- The errors of `Executor.Run`; `ε` are those of the hooks, with those of hooks that
panic. -/
inductive Err (ε : Type)
  | interceptorSkipped
  | deadlineExceeded
  | hook (e : ε)
deriving DecidableEq

/-- A hook for events in `α`, at an instant: its error, and what it leaves in event and
state. -/
abbrev Hook (σ ε α : Type) := ℤ → α × σ → Except (Err ε) Unit × (α × σ)

/-- How `Executor.Run` ends: with the hook, or with the timeout.  A hook that timed out has
or has not done its work. -/
inductive Outcome
  | done
  | timeout (finished : Bool)
deriving DecidableEq

/-- What one `Executor.Run` meets: the instants at which the breaker is asked, the hook runs
and its result is recorded, and how it ends. -/
structure RunEnv where
  allowAt : ℤ
  hookAt : ℤ
  recordAt : ℤ
  outcome : Outcome
deriving DecidableEq

/-- The breaker around the calls of an interceptor. -/
structure Executor where
  breaker : Breaker
deriving DecidableEq

variable {σ ε α : Type}

/-- Run a hook with timeout and circuit breaker protection. -/
def Executor.run (e : Executor) (env : RunEnv) (fn : Hook σ ε α) (x : α × σ) :
    Except (Err ε) Unit × (α × σ) × Executor :=
  let (allowed, breaker) := e.breaker.allow env.allowAt
  if !allowed then (.error .interceptorSkipped, x, ⟨breaker⟩)
  else
    match env.outcome with
    | .done =>
      let (err, x) := fn env.hookAt x
      match err with
      | .error err => (.error err, x, ⟨breaker.recordFailure env.recordAt⟩)
      | .ok () => (.ok (), x, ⟨breaker.recordSuccess⟩)
    | .timeout finished =>
      (.error .deadlineExceeded, if finished then (fn env.hookAt x).2 else x,
        ⟨breaker.recordFailure env.recordAt⟩)

/-! ### The chain -/

/-- An interceptor: the hooks it implements. -/
structure Interceptor (σ ε : Type) where
  onConnect : Option (Hook σ ε ConnectEvent) := none
  onPublish : Option (Hook σ ε PublishEvent) := none
  onSubscribe : Option (Hook σ ε SubscribeEvent) := none
  onDelivery : Option (Hook σ ε DeliveryEvent) := none
  onUnsubscribe : Option (Hook σ ε UnsubscribeEvent) := none
  onDisconnect : Option (DisconnectEvent → σ → σ) := none

/-- An interceptor of a chain with its executor. -/
structure RegisteredInterceptor (σ ε : Type) where
  interceptor : Interceptor σ ε
  executor : Executor

/-- The interceptors in the order of their registration. -/
abbrev InterceptorChain (σ ε : Type) := List (RegisteredInterceptor σ ε)

/-- The breaker configuration of `defaultInterceptorConfig`. -/
def defaultBreakerConfig : Config where
  errorThreshold := 1 / 2
  windowSize := 10 * second
  openDuration := 30 * second
  halfOpenMax := 3
  minRequests := 5

/-- Add an interceptor to the chain, with a breaker of its own. -/
def InterceptorChain.register (c : InterceptorChain σ ε) (i : Interceptor σ ε) (cfg : Config) :
    InterceptorChain σ ε :=
  c ++ [⟨i, ⟨.new cfg⟩⟩]

/-- The loop of the dispatch methods: run the hook of each interceptor that has one, pass over
those whose breaker is open, and stop at the first other error.  `env i` is what the call of
the interceptor at position `i` meets. -/
def dispatch (hook : Interceptor σ ε → Option (Hook σ ε α)) :
    (env : ℕ → RunEnv) → InterceptorChain σ ε → α × σ →
      Except (Err ε) Unit × (α × σ) × InterceptorChain σ ε
  | _, [], x => (.ok (), x, [])
  | env, ri :: c, x =>
    match hook ri.interceptor with
    | none =>
      let (r, x, c) := dispatch hook (fun i => env (i + 1)) c x
      (r, x, ri :: c)
    | some fn =>
      let (r, x, executor) := ri.executor.run (env 0) fn x
      let ri := { ri with executor := executor }
      match r with
      | .ok () | .error .interceptorSkipped =>
        let (r, x, c) := dispatch hook (fun i => env (i + 1)) c x
        (r, x, ri :: c)
      | .error err => (.error err, x, ri :: c)

namespace InterceptorChain

variable (c : InterceptorChain σ ε) (env : ℕ → RunEnv)

/-- Dispatch a `ConnectEvent`. -/
def onConnect (x : ConnectEvent × σ) := dispatch Interceptor.onConnect env c x

/-- Dispatch a `PublishEvent`. -/
def onPublish (x : PublishEvent × σ) := dispatch Interceptor.onPublish env c x

/-- Dispatch a `SubscribeEvent`. -/
def onSubscribe (x : SubscribeEvent × σ) := dispatch Interceptor.onSubscribe env c x

/-- Dispatch a `DeliveryEvent`. -/
def onDelivery (x : DeliveryEvent × σ) := dispatch Interceptor.onDelivery env c x

/-- Dispatch an `UnsubscribeEvent`. -/
def onUnsubscribe (x : UnsubscribeEvent × σ) := dispatch Interceptor.onUnsubscribe env c x

/-- Notify the interceptors of a `DisconnectEvent`.  The source starts a goroutine for each of
them; here they have all run when the next event comes. -/
def onDisconnect (evt : DisconnectEvent) (s : σ) : σ :=
  c.foldl (fun s ri =>
    match ri.interceptor.onDisconnect with
    | none => s
    | some fn => fn evt s) s

end InterceptorChain

/-! ### What a dispatch that accepts has run -/

/-- The results of a hook after which the dispatch goes on.  A hook may return
`ErrInterceptorSkipped` itself, and then the dispatch goes on with what it left. -/
def Continues (r : Except (Err ε) Unit) : Prop := r = .ok () ∨ r = .error .interceptorSkipped

variable (e : Executor) (env : RunEnv) (fn : Hook σ ε α) (x : α × σ)

/-- What `Executor.Run` does: it skips the hook, or runs it to its end, or times out. -/
lemma Executor.run_cases :
    (e.breaker.Refuses env.allowAt ∧ (e.run env fn x).1 = .error .interceptorSkipped ∧
      (e.run env fn x).2.1 = x) ∨
    ((e.run env fn x).1 = (fn env.hookAt x).1 ∧ (e.run env fn x).2.1 = (fn env.hookAt x).2) ∨
    (e.run env fn x).1 = .error .deadlineExceeded := by
  have href := e.breaker.allow_eq_false_iff env.allowAt
  rw [Executor.run]
  rcases hallow : e.breaker.allow env.allowAt with ⟨allowed, breaker⟩
  rw [hallow] at href
  cases allowed with
  | false => exact Or.inl ⟨href.1 rfl, rfl, rfl⟩
  | true =>
    refine Or.inr ?_
    cases env.outcome with
    | timeout finished => exact Or.inr rfl
    | done =>
      left
      rcases hfn : fn env.hookAt x with ⟨err | ⟨⟨⟩⟩, x'⟩ <;> exact ⟨rfl, rfl⟩

lemma Executor.run_state :
    (e.run env fn x).2.1 = x ∨ (e.run env fn x).2.1 = (fn env.hookAt x).2 := by
  rw [Executor.run]
  rcases e.breaker.allow env.allowAt with ⟨_ | _, breaker⟩
  · exact Or.inl rfl
  · cases env.outcome with
    | done =>
      right
      rcases fn env.hookAt x with ⟨err | ⟨⟨⟩⟩, x'⟩ <;> simp
    | timeout finished =>
      cases finished with
      | true => exact Or.inr rfl
      | false => exact Or.inl rfl

/-- If an executor lets the dispatch go on, its hook did, or was skipped by the breaker. -/
lemma Executor.run_continues {e : Executor} {env : RunEnv} {fn : Hook σ ε α} {x : α × σ}
    (h : Continues (e.run env fn x).1) :
    (e.breaker.Refuses env.allowAt ∧ (e.run env fn x).2.1 = x) ∨
    (Continues (fn env.hookAt x).1 ∧ (e.run env fn x).2.1 = (fn env.hookAt x).2) := by
  rcases e.run_cases env fn x with ⟨href, -, hx⟩ | ⟨hr, hx⟩ | hr
  · exact Or.inl ⟨href, hx⟩
  · rw [hr] at h
    exact Or.inr ⟨h, hx⟩
  · rw [hr] at h
    rcases h with h | h <;> simp at h

section Dispatch

variable {hook : Interceptor σ ε → Option (Hook σ ε α)} {c : InterceptorChain σ ε}
  (I : α × σ → Prop)

/-- A dispatch to an interceptor and the rest of the chain accepts only if the dispatch to the
rest does, from what the interceptor left. -/
lemma dispatch_cons_ok {env : ℕ → RunEnv} {ri : RegisteredInterceptor σ ε} {x : α × σ}
    (h : (dispatch hook env (ri :: c) x).1 = .ok ()) :
    ∃ x', (dispatch hook (fun i => env (i + 1)) c x').1 = .ok () ∧
      (dispatch hook env (ri :: c) x).2.1 = (dispatch hook (fun i => env (i + 1)) c x').2.1 ∧
      ((hook ri.interceptor = none ∧ x' = x) ∨
        ∃ fn, hook ri.interceptor = some fn ∧
          ((ri.executor.breaker.Refuses (env 0).allowAt ∧ x' = x) ∨
            (Continues (fn (env 0).hookAt x).1 ∧ x' = (fn (env 0).hookAt x).2))) := by
  rw [dispatch] at h ⊢
  cases hfn : hook ri.interceptor with
  | none =>
    rw [hfn] at h
    exact ⟨x, h, rfl, Or.inl ⟨rfl, rfl⟩⟩
  | some fn =>
    rw [hfn] at h
    have hrun := @Executor.run_continues _ _ _ ri.executor (env 0) fn x
    rcases hr : ri.executor.run (env 0) fn x with ⟨(_ | _ | e) | ⟨⟨⟩⟩, x', executor⟩ <;>
      simp only [hr] at h hrun ⊢
    · refine ⟨x', h, rfl, Or.inr ⟨fn, rfl, hrun (Or.inr rfl)⟩⟩
    · cases h
    · cases h
    · refine ⟨x', h, rfl, Or.inr ⟨fn, rfl, hrun (Or.inl rfl)⟩⟩

/-- Whether or not it accepts, a dispatch to an interceptor and the rest of the chain leaves what
the interceptor left, or what the dispatch to the rest makes of it. -/
lemma dispatch_cons_state (env : ℕ → RunEnv) (ri : RegisteredInterceptor σ ε)
    (c : InterceptorChain σ ε) (x : α × σ) :
    ∃ x', (x' = x ∨ ∃ fn t, hook ri.interceptor = some fn ∧ x' = (fn t x).2) ∧
      ((dispatch hook env (ri :: c) x).2.1 = x' ∨
        (dispatch hook env (ri :: c) x).2.1 = (dispatch hook (fun i => env (i + 1)) c x').2.1) := by
  rw [dispatch]
  cases hfn : hook ri.interceptor with
  | none => exact ⟨x, Or.inl rfl, Or.inr rfl⟩
  | some fn =>
    have hrun : (ri.executor.run (env 0) fn x).2.1 = x ∨
        ∃ fn' t, some fn = some fn' ∧ (ri.executor.run (env 0) fn x).2.1 = (fn' t x).2 := by
      rcases ri.executor.run_state (env 0) fn x with h | h
      · exact Or.inl h
      · exact Or.inr ⟨fn, _, rfl, h⟩
    refine ⟨(ri.executor.run (env 0) fn x).2.1, hrun, ?_⟩
    dsimp only
    rcases ri.executor.run (env 0) fn x with ⟨(_ | _ | e) | ⟨⟨⟩⟩, x', executor⟩
    · exact Or.inr rfl
    · exact Or.inl rfl
    · exact Or.inl rfl
    · exact Or.inr rfl

lemma dispatch_frame {F : Type*} (view : α × σ → F)
    (hc : ∀ ri ∈ c, ∀ fn, hook ri.interceptor = some fn → ∀ t x, view (fn t x).2 = view x)
    (env : ℕ → RunEnv) (x : α × σ) : view (dispatch hook env c x).2.1 = view x := by
  induction c generalizing env x with
  | nil => rfl
  | cons ri c ih =>
    obtain ⟨x', hx', hout⟩ := @dispatch_cons_state _ _ _ hook env ri c x
    have hview : view x' = view x := by
      rcases hx' with rfl | ⟨fn, t, hfn, rfl⟩
      · rfl
      · exact hc ri List.mem_cons_self fn hfn t x
    rcases hout with h | h
    · rw [h, hview]
    · rw [h, ih fun ri' hri' => hc ri' (List.mem_cons_of_mem _ hri'), hview]

/-- A condition that every hook that lets the dispatch go on preserves holds after a dispatch
that accepts. -/
lemma dispatch_invariant (hc : ∀ ri ∈ c, ∀ fn, hook ri.interceptor = some fn → ∀ t x, I x →
    Continues (fn t x).1 → I (fn t x).2) {env : ℕ → RunEnv} {x : α × σ} (hx : I x)
    (h : (dispatch hook env c x).1 = .ok ()) : I (dispatch hook env c x).2.1 := by
  induction c generalizing env x with
  | nil => exact hx
  | cons ri c ih =>
    obtain ⟨x', hok, hout, hcase⟩ := dispatch_cons_ok h
    rw [hout]
    refine ih (fun ri' hri' => hc ri' (List.mem_cons_of_mem _ hri')) ?_ hok
    rcases hcase with ⟨-, rfl⟩ | ⟨fn, hfn, ⟨-, rfl⟩ | ⟨hcont, rfl⟩⟩
    · exact hx
    · exact hx
    · exact hc ri List.mem_cons_self fn hfn _ _ hx hcont

/-- A condition `I` before the interceptor at position `k` and `J` after it: if the breaker of
that interceptor does not refuse the call and its hook leads from `I` to `J`, then a dispatch
that accepts leads from `I` to `J`. -/
lemma dispatch_through (J : α × σ → Prop) {chain : InterceptorChain σ ε} {k : ℕ}
    {ri : RegisteredInterceptor σ ε} {fn : Hook σ ε α} (hk : chain[k]? = some ri)
    (hfn : hook ri.interceptor = some fn) (hI : ∀ j rj, j ≠ k → chain[j]? = some rj → ∀ gn, hook
    rj.interceptor = some gn → ∀ t x, Continues (gn t x).1 → (I x → I (gn t x).2) ∧ (J x → J (gn t
    x).2)) (hJ : ∀ t x, I x → Continues (fn t x).1 → J (fn t x).2) {env : ℕ → RunEnv} {x : α × σ}
    (hadm : ¬ ri.executor.breaker.Refuses (env k).allowAt) (hx : I x)
    (h : (dispatch hook env chain x).1 = .ok ()) : J (dispatch hook env chain x).2.1 := by
  induction chain generalizing env x k with
  | nil => simp at hk
  | cons r chain ih =>
    obtain ⟨x', hok, hout, hcase⟩ := dispatch_cons_ok h
    rw [hout]
    cases k with
    | zero =>
      obtain rfl : r = ri := by simpa using hk
      -- the rest of the chain keeps what the hook has established
      refine dispatch_invariant J ?_ ?_ hok
      · intro rj hrj gn hgn t y hy hcont
        obtain ⟨j, hj⟩ := List.getElem?_of_mem hrj
        exact (hI (j + 1) rj (Nat.succ_ne_zero j) (by simpa using hj) gn hgn t y hcont).2 hy
      · rcases hcase with ⟨hnone, -⟩ | ⟨gn, hgn, ⟨href, -⟩ | ⟨hcont, rfl⟩⟩
        · rw [hfn] at hnone
          cases hnone
        · exact absurd href hadm
        · rw [hfn] at hgn
          obtain rfl := Option.some_injective _ hgn
          exact hJ _ _ hx hcont
    | succ k =>
      refine ih (by simpa using hk) ?_ hadm ?_ hok
      · intro j rj hjk hj
        exact hI (j + 1) rj (by omega) (by simpa using hj)
      · rcases hcase with ⟨-, rfl⟩ | ⟨gn, hgn, ⟨-, rfl⟩ | ⟨hcont, rfl⟩⟩
        · exact hx
        · exact hx
        · exact (hI 0 r (Nat.succ_ne_zero k).symm rfl gn hgn _ _ hcont).1 hx

lemma map_interceptor_dispatch (env : ℕ → RunEnv) (c : InterceptorChain σ ε) (x : α × σ) :
    (dispatch hook env c x).2.2.map RegisteredInterceptor.interceptor =
      c.map RegisteredInterceptor.interceptor := by
  induction c generalizing env x with
  | nil => rfl
  | cons ri c ih =>
    rw [dispatch]
    cases hook ri.interceptor with
    | none => simp only [List.map_cons, ih]
    | some fn =>
      rcases hr : ri.executor.run (env 0) fn x with ⟨(_ | _ | e) | ⟨⟨⟩⟩, x', executor⟩ <;>
        simp only [hr, List.map_cons, ih]

end Dispatch

end Dmqtt.Plugin
