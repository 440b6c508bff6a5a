/-
What a closed breaker judges by.

The configuration has a `WindowSize`, and a failure should open the breaker if the results within
the last `WindowSize` are bad enough.  The breaker keeps two counters, which it clears only when it
opens or closes: it judges by all results since it last became closed.  `window_judged_iff` says
when this makes no difference.
-/
import Dmqtt.BreakerRuns

namespace Dmqtt.CircuitBreaker

/-- The call records a result. -/
def Method.isResult : Method → Bool
  | .recordSuccess => true
  | .recordFailure => true
  | .allow => false
  | .state => false

namespace Breaker

/-- The results among some calls. -/
def results (calls : List (ℤ × Method)) : ℕ := calls.countP fun call => call.2.isResult

/-- The failures among some calls. -/
def failures (calls : List (ℤ × Method)) : ℕ := calls.countP fun call => call.2 = .recordFailure

/-- A breaker with the calls since it last became closed, after one more call. -/
def watch (x : Breaker × List (ℤ × Method)) (call : ℤ × Method) :
    Breaker × List (ℤ × Method) :=
  (x.1.step call,
    if x.1.state ≠ .closed ∧ (x.1.step call).state = .closed then [] else x.2 ++ [call])

/-- The calls since a breaker last became closed. -/
def sinceClosed (cfg : Config) (calls : List (ℤ × Method)) : List (ℤ × Method) :=
  (calls.foldl watch (new cfg, [])).2

/-- The calls within the last `WindowSize`. -/
def recent (cfg : Config) (now : ℤ) (calls : List (ℤ × Method)) : List (ℤ × Method) :=
  calls.filter fun call => now - call.1 ≤ cfg.windowSize

/-- There are enough results, and enough of them are failures. -/
def TooMany (cfg : Config) (calls : List (ℤ × Method)) : Prop :=
  cfg.minRequests ≤ results calls ∧ cfg.errorThreshold ≤ (failures calls : ℚ) / results calls

instance (cfg : Config) (calls : List (ℤ × Method)) : Decidable (TooMany cfg calls) :=
  inferInstanceAs (Decidable (_ ∧ _))

/-! ### The counters -/

variable {cb : Breaker}

lemma counts_step_of_closed (hs : cb.state = .closed) {call : ℤ × Method}
    (hs' : (cb.step call).state = .closed) :
    (cb.step call).totalCount = cb.totalCount + results [call] ∧
      (cb.step call).failCount = cb.failCount + failures [call] := by
  obtain ⟨now, method⟩ := call
  cases method with
  | allow => simp [step, allow, hs, results, failures, Method.isResult]
  | state => simp [step, currentState, hs, results, failures, Method.isResult]
  | recordSuccess => simp [step, recordSuccess, hs, results, failures, Method.isResult]
  | recordFailure =>
    simp only [step, recordFailure, hs] at hs' ⊢
    split_ifs at hs' ⊢
    · cases hs'
    · exact ⟨rfl, rfl⟩
    · exact ⟨rfl, rfl⟩

lemma counts_step_of_not_closed (hs : cb.state ≠ .closed) {call : ℤ × Method}
    (hs' : (cb.step call).state = .closed) :
    (cb.step call).totalCount = 0 ∧ (cb.step call).failCount = 0 := by
  obtain ⟨hcall, hmax, hfrom⟩ : call.2 = .recordSuccess ∧
      (cb.halfOpenSucc + 1 : ℤ) ≥ cb.config.halfOpenMax ∧ cb.state = .halfOpen := by
    cases moves_step cb call with
    | stay hstate _ _ _ _ => exact absurd (hstate.symm.trans hs') hs
    | halfOpen _ _ hto _ | trip _ _ hto _ => cases hto.symm.trans hs'
    | close hfrom hcall hcount _ => exact ⟨hcall, hcount, hfrom⟩
  obtain ⟨now, method⟩ := call
  cases hcall
  have hge : ((cb.halfOpenSucc + 1 : ℕ) : ℤ) ≥ cb.config.halfOpenMax := by exact_mod_cast hmax
  simp only [step, recordSuccess, hfrom, if_true, if_pos hge]
  exact ⟨rfl, rfl⟩

lemma fst_foldl_watch (x : Breaker × List (ℤ × Method)) (calls : List (ℤ × Method)) :
    (calls.foldl watch x).1 = calls.foldl step x.1 := by
  induction calls generalizing x with
  | nil => rfl
  | cons call calls ih => exact ih (watch x call)

variable (cfg : Config) (t : ℤ) (calls : List (ℤ × Method))

/-- While the breaker is closed, its counters are those of the calls since it became closed. -/
lemma counts_run (hs : (run cfg calls).state = .closed) :
    (run cfg calls).totalCount = results (sinceClosed cfg calls) ∧
      (run cfg calls).failCount = failures (sinceClosed cfg calls) := by
  induction calls using List.reverseRecOn with
  | nil => exact ⟨rfl, rfl⟩
  | append_singleton calls call ih =>
    have hfst : (calls.foldl watch (new cfg, [])).1 = run cfg calls := fst_foldl_watch _ calls
    have hsince : sinceClosed cfg (calls ++ [call]) =
        if (run cfg calls).state ≠ .closed then [] else sinceClosed cfg calls ++ [call] := by
      rw [run_concat] at hs
      rw [sinceClosed, List.foldl_append, List.foldl_cons, List.foldl_nil, watch, hfst]
      simp only [hs, and_true]
      rfl
    rw [hsince]
    rw [run_concat] at hs ⊢
    by_cases hclosed : (run cfg calls).state = .closed
    · obtain ⟨htotal, hfail⟩ := counts_step_of_closed hclosed hs
      obtain ⟨ihtotal, ihfail⟩ := ih hclosed
      rw [if_neg (not_not_intro hclosed), htotal, hfail, ihtotal, ihfail, results, results,
        results, failures, failures, failures, List.countP_append, List.countP_append]
      exact ⟨rfl, rfl⟩
    · rw [if_pos hclosed]
      exact counts_step_of_not_closed hclosed hs

/-! ### A failure -/

/-- A failure opens a closed breaker if there are too many failures since it became closed, and
leaves no other breaker closed. -/
lemma closed_step_recordFailure_iff (t : ℤ) :
    (run cfg (calls ++ [(t, .recordFailure)])).state = .closed ↔
      (run cfg calls).state = .closed ∧
        ¬ TooMany cfg (sinceClosed cfg calls ++ [(t, .recordFailure)]) := by
  rw [run_concat, step]
  cases hs : (run cfg calls).state with
  | closed =>
    obtain ⟨htotal, hfail⟩ := counts_run cfg calls hs
    have hresults : results (sinceClosed cfg calls ++ [(t, .recordFailure)]) =
        results (sinceClosed cfg calls) + 1 := by
      simp [results, Method.isResult]
    have hfailures : failures (sinceClosed cfg calls ++ [(t, .recordFailure)]) =
        failures (sinceClosed cfg calls) + 1 := by
      simp [failures]
    simp only [recordFailure, hs, TooMany, hresults, hfailures, htotal, hfail, config_run]
    split_ifs with hmin hrate
    · exact iff_of_false (by simp [trip]) fun h => h.2 ⟨hmin, hrate⟩
    · exact iff_of_true rfl ⟨trivial, fun h => hrate h.2⟩
    · exact iff_of_true rfl ⟨trivial, fun h => hmin h.1⟩
  | opened => simp [recordFailure, hs]
  | halfOpen => simp [recordFailure, hs, trip]

lemma results_recent_le : results (recent cfg t calls) ≤ results calls := by
  rw [results, recent, List.countP_filter]
  exact List.countP_mono_left fun call _ h => (Bool.and_eq_true_iff.1 h).1

/-- **When the window is judged.**  In every run, if a failure makes the results within the last
`WindowSize` and since the breaker became closed too bad, then the breaker is not closed after it
exactly if it was not closed before, or all results since it became closed are bad enough. -/
theorem window_judged_iff (cfg : Config) (calls : List (ℤ × Method)) (t : ℤ)
    (hwindow : TooMany cfg (recent cfg t (sinceClosed cfg calls ++ [(t, .recordFailure)]))) :
    (run cfg (calls ++ [(t, .recordFailure)])).state ≠ .closed ↔
      (run cfg calls).state ≠ .closed ∨
        cfg.errorThreshold ≤
          (failures (sinceClosed cfg calls ++ [(t, .recordFailure)]) : ℚ) /
            results (sinceClosed cfg calls ++ [(t, .recordFailure)]) := by
  rw [ne_eq, closed_step_recordFailure_iff, not_and_or, not_not, TooMany]
  refine or_congr_right (and_iff_right ?_)
  have hle := results_recent_le cfg t (sinceClosed cfg calls ++ [(t, .recordFailure)])
  exact Int.le_trans hwindow.1 (Int.ofNat_le.2 hle)

/-- A breaker that opens when half of at least two results within five seconds are failures. -/
def halfFailing : Config := ⟨1 / 2, 5 * Lib.second, 30 * Lib.second, 1, 2⟩

/-- Some successes at the beginning. -/
def healthyPast (n : ℕ) : List (ℤ × Method) := List.replicate n (0, .recordSuccess)

/-- After one success a failure opens the breaker. -/
theorem window_judged_iff_short :
    (run halfFailing (healthyPast 1 ++ [(1, .recordFailure)])).state ≠ .closed :=
  (window_judged_iff halfFailing (healthyPast 1) 1 (by decide +kernel)).2
    (Or.inr (by decide +kernel))

/-- A minute after ten successes all requests fail, and the breaker stays closed. -/
theorem window_not_judged :
    let calls := healthyPast 10 ++ List.replicate 4 (60 * Lib.second, .recordFailure)
    let t := 61 * Lib.second
    TooMany halfFailing
        (recent halfFailing t (sinceClosed halfFailing calls ++ [(t, .recordFailure)])) ∧
      (run halfFailing (calls ++ [(t, .recordFailure)])).state = .closed := by
  decide +kernel

end Breaker

end Dmqtt.CircuitBreaker
