/-
Runs of a circuit breaker.

The breaker changes its state in four methods, `State` among them, and results of requests that
were admitted before it opened may be recorded at any time.  `Moves` says once what a call can do;
`breaker_safe` follows from it for whole runs: in the open period no request is admitted, a
half-open breaker is closed by successes only, which are all recorded while it is half-open, and a
failure opens it again.
-/
import Dmqtt.CircuitBreaker
import Dmqtt.Lib.Trace
import Mathlib.Data.List.Count
import Mathlib.Data.List.Induction

namespace Dmqtt.CircuitBreaker

/-- A call of a method of the breaker. -/
inductive Method
  | allow
  | state
  | recordSuccess
  | recordFailure
deriving DecidableEq

namespace Breaker

/-- The breaker after a call at an instant. -/
def step (cb : Breaker) (call : ℤ × Method) : Breaker :=
  match call.2 with
  | .allow => (cb.allow call.1).2
  | .state => (cb.currentState call.1).2
  | .recordSuccess => cb.recordSuccess
  | .recordFailure => cb.recordFailure call.1

/-- A new breaker after some calls. -/
def run (cfg : Config) (calls : List (ℤ × Method)) : Breaker := calls.foldl step (new cfg)

/-- The call opens the breaker. -/
def Trips (cb : Breaker) (call : ℤ × Method) : Prop :=
  cb.state ≠ .opened ∧ (cb.step call).state = .opened

/-- The successes that a half-open breaker counts. -/
def successes (calls : List (ℤ × Method)) : ℕ := calls.countP fun call => call.2 = .recordSuccess

/-! ### What a call does -/

/-- What a call does to the state, the instant of opening and the successes that are counted. -/
inductive Moves (cb : Breaker) (call : ℤ × Method) (cb' : Breaker) : Prop
  | stay (hstate : cb'.state = cb.state) (hopened : cb'.openedAt = cb.openedAt)
      (hcall : cb.state = .halfOpen → call.2 ≠ .recordFailure)
      (hcount : cb.state = .halfOpen → cb'.halfOpenSucc = cb.halfOpenSucc + successes [call])
      (hfew : cb.state = .halfOpen → call.2 = .recordSuccess →
        (cb'.halfOpenSucc : ℤ) < cb.config.halfOpenMax)
  | halfOpen (hfrom : cb.state = .opened) (hperiod : call.1 - cb.openedAt > cb.config.openDuration)
      (hto : cb'.state = .halfOpen) (hcount : cb'.halfOpenSucc = 0)
  | trip (hfrom : cb.state ≠ .opened) (hcall : call.2 = .recordFailure)
      (hto : cb'.state = .opened) (hopened : cb'.openedAt = call.1)
  | close (hfrom : cb.state = .halfOpen) (hcall : call.2 = .recordSuccess)
      (hcount : (cb.halfOpenSucc + 1 : ℤ) ≥ cb.config.halfOpenMax) (hto : cb'.state = .closed)

variable (cb : Breaker) (cfg : Config) (calls : List (ℤ × Method)) (call : ℤ × Method) (now : ℤ)

lemma moves_allow : Moves cb (now, .allow) (cb.allow now).2 := by
  rw [allow]
  cases hs : cb.state with
  | closed | halfOpen => exact .stay rfl rfl (by simp) (fun _ => rfl) (by simp)
  | opened =>
    split_ifs with hperiod
    · exact .halfOpen hs hperiod rfl rfl
    · exact .stay rfl rfl (by simp) (fun _ => rfl) (by simp)

lemma moves_currentState : Moves cb (now, .state) (cb.currentState now).2 := by
  rw [currentState]
  split_ifs with hperiod
  · exact .halfOpen hperiod.1 hperiod.2 rfl rfl
  · exact .stay rfl rfl (by simp) (fun _ => rfl) (by simp)

lemma moves_recordSuccess : Moves cb (now, .recordSuccess) cb.recordSuccess := by
  rw [recordSuccess]
  dsimp only
  split_ifs with hs hmax
  · exact .close hs rfl (by exact_mod_cast hmax) rfl
  · refine .stay rfl rfl (by simp) (fun _ => rfl) fun _ _ => ?_
    dsimp only
    omega
  · exact .stay rfl rfl (fun h => absurd h hs) (fun h => absurd h hs) fun h => absurd h hs

lemma moves_recordFailure : Moves cb (now, .recordFailure) (cb.recordFailure now) := by
  have hstay : ∀ cb' : Breaker, cb.state ≠ .halfOpen → cb'.state = cb.state →
      cb'.openedAt = cb.openedAt → Moves cb (now, .recordFailure) cb' :=
    fun cb' hne hstate hopened => .stay hstate hopened (fun h => absurd h hne)
      (fun h => absurd h hne) fun h => absurd h hne
  rw [recordFailure]
  dsimp only
  split
  · rename_i hs
    have hne : cb.state ≠ .halfOpen := by simp [hs]
    split_ifs
    · exact .trip (by simp [hs]) rfl rfl rfl
    · exact hstay _ hne rfl rfl
    · exact hstay _ hne rfl rfl
  · rename_i hs
    exact .trip (by simp [hs]) rfl rfl rfl
  · rename_i hs
    exact hstay _ (by simp [hs]) rfl rfl

lemma moves_step : Moves cb call (cb.step call) := by
  obtain ⟨now, method⟩ := call
  cases method with
  | allow => exact moves_allow cb now
  | state => exact moves_currentState cb now
  | recordSuccess => exact moves_recordSuccess cb now
  | recordFailure => exact moves_recordFailure cb now

lemma config_step : (cb.step call).config = cb.config := by
  obtain ⟨now, method⟩ := call
  cases method with
  | allow =>
    simp only [step, allow]
    split
    · rfl
    · split_ifs <;> rfl
    · rfl
  | state =>
    simp only [step, currentState]
    split_ifs <;> rfl
  | recordSuccess =>
    simp only [step, recordSuccess]
    split_ifs <;> rfl
  | recordFailure =>
    simp only [step, recordFailure]
    split
    · split_ifs <;> rfl
    · rfl
    · rfl

@[simp] lemma config_run : (run cfg calls).config = cfg :=
  Lib.foldl_frame (fun cb : Breaker => cb.config) (fun cb call => config_step cb call) calls
    (new cfg)

lemma run_concat : run cfg (calls ++ [call]) = (run cfg calls).step call := by
  rw [run, List.foldl_append]
  rfl

/-! ### The open period -/

variable {cb}

/-- Opened at an instant, the breaker stays open as long as its open period lasts. -/
lemma opened_of_period {t₀ : ℤ} {calls : List (ℤ × Method)} (hs : cb.state = .opened)
    (hopened : cb.openedAt = t₀)
    (hperiod : ∀ call ∈ calls, call.1 - t₀ ≤ cb.config.openDuration) :
    (calls.foldl step cb).state = .opened ∧ (calls.foldl step cb).openedAt = t₀ := by
  induction calls generalizing cb with
  | nil => exact ⟨hs, hopened⟩
  | cons call calls ih =>
    have hcall := hperiod call List.mem_cons_self
    have hrest : ∀ call' ∈ calls, call'.1 - t₀ ≤ (cb.step call).config.openDuration := by
      intro call' hmem
      rw [config_step]
      exact hperiod call' (List.mem_cons_of_mem _ hmem)
    cases moves_step cb call with
    | stay hstate hopened' _ _ _ => exact ih (hstate.trans hs) (hopened'.trans hopened) hrest
    | halfOpen _ hlate _ _ => omega
    | trip hfrom _ _ _ => exact absurd hs hfrom
    | close hfrom _ _ _ => cases hfrom.symm.trans hs

lemma openedAt_of_trips {call : ℤ × Method} (h : cb.Trips call) :
    (cb.step call).openedAt = call.1 := by
  obtain ⟨hfrom, hto⟩ := h
  cases moves_step cb call with
  | stay hstate _ _ _ _ => exact absurd (hstate.symm.trans hto) hfrom
  | halfOpen hopened _ _ _ => exact absurd hopened hfrom
  | trip _ _ _ hopened => exact hopened
  | close _ _ _ hclosed => cases hclosed.symm.trans hto

/-! ### The half-open period -/

/-- A half-open breaker became half-open at some call, stayed so, and has counted the successes
since then.  The induction is on the last call. -/
lemma since_halfOpen {cfg : Config} (hmax : 1 ≤ cfg.halfOpenMax) (calls : List (ℤ × Method))
    (hs : (run cfg calls).state = .halfOpen) :
    ∃ before call during, calls = before ++ call :: during ∧
      (run cfg before).state ≠ .halfOpen ∧
      (∀ during', during' <+: during →
        (run cfg (before ++ call :: during')).state = .halfOpen) ∧
      (∀ call' ∈ during, call'.2 ≠ .recordFailure) ∧
      (run cfg calls).halfOpenSucc = successes during ∧
      (successes during : ℤ) < cfg.halfOpenMax := by
  induction calls using List.reverseRecOn with
  | nil => cases hs
  | append_singleton calls last ih =>
    rw [run_concat] at hs ⊢
    cases moves_step (run cfg calls) last with
    | stay hstate _ hcall hcount hfew =>
      have hhalf := hstate.symm.trans hs
      obtain ⟨before, call, during, rfl, hbefore, hstay, hfail, hsucc, hlt⟩ := ih hhalf
      have hadd : successes (during ++ [last]) = successes during + successes [last] :=
        List.countP_append
      refine ⟨before, call, during ++ [last], by simp, hbefore, ?_, ?_, ?_, ?_⟩
      · intro during' hpre
        rcases List.prefix_concat_iff.1 hpre with rfl | hpre
        · have hassoc : before ++ call :: (during ++ [last]) =
              (before ++ call :: during) ++ [last] := by simp
          rw [hassoc, run_concat]
          exact hs
        · exact hstay during' hpre
      · intro call' hmem
        rcases List.mem_append.1 hmem with hmem | hmem
        · exact hfail call' hmem
        · rw [List.mem_singleton.1 hmem]
          exact hcall hhalf
      · rw [hcount hhalf, hsucc, hadd]
      · by_cases hlast : last.2 = .recordSuccess
        · have hfew := hfew hhalf hlast
          rwa [hcount hhalf, hsucc, ← hadd, config_run] at hfew
        · have hzero : successes [last] = 0 := by simp [successes, hlast]
          rwa [hadd, hzero]
    | halfOpen hfrom _ _ hcount =>
      refine ⟨calls, last, [], rfl, by simp [hfrom], ?_, by simp, hcount, by simpa [successes]⟩
      intro during' hpre
      rw [List.prefix_nil.1 hpre, run_concat]
      exact hs
    | trip _ _ hto _ | close _ _ _ hto => cases hto.symm.trans hs

/-! ### Safety -/

/-- For every configuration with `HalfOpenMax` at least 1 and every run of calls at instants that
do not decrease: a request is refused as long as the open period lasts after the breaker was
opened; a half-open breaker is closed only by a success, which together with those since the
breaker became half-open makes `HalfOpenMax`, with no failure among them; and a failure opens a
half-open breaker at its own instant. -/
theorem breaker_safe (cfg : Config) (hmax : 1 ≤ cfg.halfOpenMax) (calls : List (ℤ × Method))
    (hclock : calls.Pairwise fun x y => x.1 ≤ y.1) :
    (∀ before call during t after, calls = before ++ call :: during ++ (t, .allow) :: after →
      (run cfg before).Trips call → t - call.1 ≤ cfg.openDuration →
      ((run cfg (before ++ call :: during)).allow t).1 = false) ∧
    (∀ before call after, calls = before ++ call :: after →
      (run cfg before).state = .halfOpen → (run cfg (before ++ [call])).state = .closed →
      call.2 = .recordSuccess ∧
      ∃ before' call' during, before = before' ++ call' :: during ∧
        (run cfg before').state ≠ .halfOpen ∧
        (∀ during', during' <+: during →
          (run cfg (before' ++ call' :: during')).state = .halfOpen) ∧
        (∀ call'' ∈ during, call''.2 ≠ .recordFailure) ∧
        (successes (during ++ [call]) : ℤ) = cfg.halfOpenMax) ∧
    ∀ before t after, calls = before ++ (t, .recordFailure) :: after →
      (run cfg before).state = .halfOpen →
      (run cfg (before ++ [(t, .recordFailure)])).state = .opened ∧
      (run cfg (before ++ [(t, .recordFailure)])).openedAt = t := by
  refine ⟨?_, ?_, ?_⟩
  · rintro before call during t after rfl htrips hperiod
    have hle : ∀ call' ∈ during, call'.1 ≤ t := by
      intro call' hmem
      have hsplit := (List.pairwise_append.1 hclock).2.2
      exact hsplit call' (by simp [hmem]) (t, .allow) List.mem_cons_self
    have hlasts : ∀ call' ∈ during,
        call'.1 - call.1 ≤ ((run cfg before).step call).config.openDuration := by
      intro call' hmem
      rw [config_step, config_run]
      have := hle call' hmem
      omega
    have hopen := opened_of_period htrips.2 (openedAt_of_trips htrips) hlasts
    have hrun : run cfg (before ++ call :: during) =
        during.foldl step ((run cfg before).step call) := by
      rw [run, List.foldl_append]
      rfl
    rw [allow_eq_false_iff, Refuses, config_run, hrun, hopen.2]
    exact ⟨hopen.1, hperiod⟩
  · rintro before call after rfl hhalf hclosed
    rw [run_concat] at hclosed
    obtain ⟨before', call', during, rfl, hbefore, hstay, hfail, hsucc, hlt⟩ :=
      since_halfOpen hmax before hhalf
    cases moves_step (run cfg (before' ++ call' :: during)) call with
    | stay hstate _ _ _ _ => cases hhalf.symm.trans (hstate.symm.trans hclosed)
    | halfOpen _ _ hto _ | trip _ _ hto _ => cases hto.symm.trans hclosed
    | close _ hcall hcount _ =>
      refine ⟨hcall, before', call', during, rfl, hbefore, hstay, hfail, ?_⟩
      have hone : successes (during ++ [call]) = successes during + 1 := by
        simp [successes, hcall]
      rw [hsucc, config_run] at hcount
      omega
  · rintro before t after - hhalf
    rw [run_concat]
    cases moves_step (run cfg before) (t, .recordFailure) with
    | stay _ _ hcall _ _ => exact absurd rfl (hcall hhalf)
    | halfOpen hfrom _ _ _ => cases hfrom.symm.trans hhalf
    | trip _ _ hto hopened => exact ⟨hto, hopened⟩
    | close _ hcall _ _ => cases hcall

/-- A breaker that opens at the first failure, for ten seconds, and closes at the first success
after that. -/
def impatient : Config := ⟨0, 0, 10 * Lib.second, 1, 1⟩

/-- The breaker opens at 0 s and refuses a request at 5 s; a late success does not change this. -/
theorem breaker_safe_impatient :
    ((run impatient [(0, .recordFailure), (Lib.second, .recordSuccess)]).allow
      (5 * Lib.second)).1 = false := by
  refine (breaker_safe impatient (by decide)
    [(0, .recordFailure), (Lib.second, .recordSuccess), (5 * Lib.second, .allow)] (by decide)).1
    [] (0, .recordFailure) [(Lib.second, .recordSuccess)] (5 * Lib.second) [] rfl ?_ (by decide)
  exact ⟨by decide, by decide +kernel⟩

end Breaker

end Dmqtt.CircuitBreaker
