/-
The circuit breaker (`internal/circuitbreaker/breaker.go`).

Every method that reads the clock takes the instant as an argument.  The counters do not wrap
around here, and the error rate, a quotient of floats in the source, is a rational number.
-/
import Dmqtt.Lib.GoTypes
import Mathlib.Data.Rat.Defs

namespace Dmqtt.CircuitBreaker

open Lib

/-- The states of a circuit breaker. -/
inductive State
  | closed
  | opened
  | halfOpen
deriving DecidableEq, Repr

/-- The configuration of a circuit breaker. -/
structure Config where
  errorThreshold : ℚ
  windowSize : ℤ
  openDuration : ℤ
  halfOpenMax : ℤ
  minRequests : ℤ
deriving DecidableEq

/-- A circuit breaker. -/
structure Breaker where
  state : State
  failCount : ℕ
  successCount : ℕ
  totalCount : ℕ
  halfOpenSucc : ℕ
  openedAt : ℤ
  config : Config
deriving DecidableEq

namespace Breaker

/-- A new breaker is closed; the instant it was opened at has no meaning yet. -/
def new (cfg : Config) : Breaker where
  state := .closed
  failCount := 0
  successCount := 0
  totalCount := 0
  halfOpenSucc := 0
  openedAt := 0
  config := cfg

/-- Open the breaker and clear its counters. -/
def trip (cb : Breaker) (now : ℤ) : Breaker :=
  { cb with
    state := .opened
    openedAt := now
    failCount := 0
    successCount := 0
    totalCount := 0
    halfOpenSucc := 0 }

/-- Close the breaker and clear its counters. -/
def reset (cb : Breaker) : Breaker :=
  { cb with
    state := .closed
    failCount := 0
    successCount := 0
    totalCount := 0
    halfOpenSucc := 0 }

/-- Whether a request is admitted.  The first request after the open period turns an open
breaker half-open. -/
def allow (cb : Breaker) (now : ℤ) : Bool × Breaker :=
  match cb.state with
  | .closed => (true, cb)
  | .opened =>
    if now - cb.openedAt > cb.config.openDuration then
      (true, { cb with state := .halfOpen, halfOpenSucc := 0 })
    else (false, cb)
  | .halfOpen => (true, cb)

/-- Record that an admitted request succeeded. -/
def recordSuccess (cb : Breaker) : Breaker :=
  let cb := { cb with successCount := cb.successCount + 1, totalCount := cb.totalCount + 1 }
  if cb.state = .halfOpen then
    let cb := { cb with halfOpenSucc := cb.halfOpenSucc + 1 }
    if (cb.halfOpenSucc : ℤ) ≥ cb.config.halfOpenMax then cb.reset else cb
  else cb

/-- Record that an admitted request failed. -/
def recordFailure (cb : Breaker) (now : ℤ) : Breaker :=
  let cb := { cb with failCount := cb.failCount + 1, totalCount := cb.totalCount + 1 }
  match cb.state with
  | .closed =>
    if (cb.totalCount : ℤ) ≥ cb.config.minRequests then
      if (cb.failCount : ℚ) / cb.totalCount ≥ cb.config.errorThreshold then cb.trip now else cb
    else cb
  | .halfOpen => cb.trip now
  | .opened => cb

/-- `State`: the state of the breaker.  Like a request, the question turns an open breaker
half-open after the open period. -/
def currentState (cb : Breaker) (now : ℤ) : State × Breaker :=
  let cb :=
    if cb.state = .opened ∧ now - cb.openedAt > cb.config.openDuration then
      { cb with state := .halfOpen, halfOpenSucc := 0 }
    else cb
  (cb.state, cb)

/-- A request at the given instant is refused: the breaker is open and its open period has not
passed. -/
def Refuses (cb : Breaker) (now : ℤ) : Prop :=
  cb.state = .opened ∧ now - cb.openedAt ≤ cb.config.openDuration

instance (cb : Breaker) (now : ℤ) : Decidable (cb.Refuses now) :=
  inferInstanceAs (Decidable (_ ∧ _))

lemma allow_eq_false_iff (cb : Breaker) (now : ℤ) :
    (cb.allow now).1 = false ↔ cb.Refuses now := by
  rw [allow, Refuses]
  cases hs : cb.state with
  | closed | halfOpen => simp
  | opened =>
    by_cases h : now - cb.openedAt > cb.config.openDuration
    · have hgt : ¬ now - cb.openedAt ≤ cb.config.openDuration := by omega
      simp only [if_pos h, hgt, and_false, Bool.true_eq_false]
    · have hle : now - cb.openedAt ≤ cb.config.openDuration := by omega
      simp only [if_neg h, hle, and_true]

end Breaker

end Dmqtt.CircuitBreaker
