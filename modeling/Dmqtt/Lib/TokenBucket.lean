/-
Token buckets.

A bucket gains `rate` tokens per unit of time, up to `burst` tokens.  `level` is what it holds at an
instant, and `allow` takes one token if there is one.  An instant before the last use of the bucket
counts as that of the last use.

A system may use a bucket, among other things, to decide what it accepts.  If everything it accepts
is paid with a token, `Meters.countP_accepted_foldl_le` bounds what it accepts in a period of time.
-/
import Mathlib.Algebra.Order.Field.Basic
import Mathlib.Tactic.Linarith

namespace Dmqtt.Lib

structure TokenBucket (K : Type*) where
  rate : K
  burst : ℤ
  /-- The tokens at the last use. -/
  tokens : K
  last : K
deriving DecidableEq

namespace TokenBucket

variable {K : Type*} [Field K] [LinearOrder K]

/-- A full bucket. -/
def new (rate : K) (burst : ℤ) : TokenBucket K := ⟨rate, burst, burst, 0⟩

def level (b : TokenBucket K) (t : K) : K :=
  min b.burst (b.tokens + max b.rate 0 * max (t - b.last) 0)

-- Irreducible, as unfolding it leads to the comparison of two elements of `K`.
@[irreducible]
def allow (b : TokenBucket K) (t : K) : Bool × TokenBucket K :=
  if 1 ≤ b.level t then (true, { b with tokens := b.level t - 1, last := t }) else (false, b)

variable {b : TokenBucket K} {t : K}

lemma allow_of_le (h : 1 ≤ b.level t) :
    b.allow t = (true, { b with tokens := b.level t - 1, last := t }) := by
  rw [allow, if_pos h]

lemma allow_of_lt (h : b.level t < 1) : b.allow t = (false, b) := by
  rw [allow, if_neg (not_le.2 h)]

/-- The bucket `b` becomes `b'` at an instant.  Something is accepted only if there is a token, and
it takes one. -/
structure Charged (b b' : TokenBucket K) (t : K) (accepted : Bool) : Prop where
  rate : b'.rate = b.rate
  burst : b'.burst = b.burst
  paid : accepted = true → 1 ≤ b.level t ∧ b'.level t ≤ b.level t - 1
  level : b'.level t ≤ b.level t

lemma Charged.refl {accepted : Bool} (h : accepted = false) : Charged b b t accepted :=
  ⟨rfl, rfl, fun ha => Bool.noConfusion (h.symm.trans ha), le_rfl⟩

lemma level_le_burst (b : TokenBucket K) (t : K) : b.level t ≤ b.burst := min_le_left ..

variable [IsStrictOrderedRing K]

lemma level_allow (h : 1 ≤ b.level t) : (b.allow t).2.level t = b.level t - 1 := by
  rw [allow_of_le h, level]
  simp only [sub_self, max_self, mul_zero, add_zero]
  exact min_eq_right ((sub_le_self _ zero_le_one).trans (b.level_le_burst t))

lemma level_le_add {t' : K} (h : t ≤ t') : b.level t' ≤ b.level t + max b.rate 0 * (t' - t) := by
  have hgain : 0 ≤ max b.rate 0 * (t' - t) := mul_nonneg (le_max_right ..) (sub_nonneg.2 h)
  have htime : max (t' - b.last) 0 ≤ max (t - b.last) 0 + (t' - t) :=
    max_le (by linarith [le_max_left (t - b.last) 0])
      (add_nonneg (le_max_right ..) (sub_nonneg.2 h))
  have htokens := mul_le_mul_of_nonneg_left htime (le_max_right b.rate 0)
  rw [mul_add] at htokens
  rw [level, level, ← min_add_add_right]
  exact min_le_min (by linarith) (by linarith)

/-- A token may be taken for nothing. -/
lemma charged_allow {accepted : Bool} (h : accepted = true → (b.allow t).1 = true) :
    Charged b (b.allow t).2 t accepted := by
  rcases lt_or_ge (b.level t) 1 with hlevel | hlevel
  · rw [allow_of_lt hlevel] at h ⊢
    exact ⟨rfl, rfl, fun ha => Bool.noConfusion (h ha), le_rfl⟩
  · have hless := level_allow hlevel
    refine ⟨?_, ?_, fun _ => ⟨hlevel, hless.le⟩, hless.le.trans (sub_le_self _ zero_le_one)⟩
    · rw [allow_of_le hlevel]
    · rw [allow_of_le hlevel]

end TokenBucket

/-- The calls of a series that a system accepts. -/
def accepted {S P : Type*} (step : S → P → Bool × S) : S → List P → List P
  | _, [] => []
  | s, p :: ps =>
    if (step s p).1 then p :: accepted step (step s p).2 ps else accepted step (step s p).2 ps

namespace TokenBucket

variable {K : Type*} [Field K] [LinearOrder K] {S P : Type*}

/-- What the system accepts of the calls that `q` counts is paid from the bucket in `view`. -/
structure Meters (step : S → P → Bool × S) (I : S → Prop) (view : S → TokenBucket K) (time : P → K)
    (q : P → Bool) : Prop where
  keeps : ∀ s p, I s → I (step s p).2
  charged : ∀ s p, I s → Charged (view s) (view (step s p).2) (time p) ((step s p).1 && q p)

variable {step : S → P → Bool × S} {I : S → Prop} {view : S → TokenBucket K} {time : P → K}
  {q : P → Bool} {s : S}

lemma Meters.foldl (h : Meters step I view time q) (hs : I s) (ps : List P) :
    let s' := ps.foldl (fun s p => (step s p).2) s
    I s' ∧ (view s').rate = (view s).rate ∧ (view s').burst = (view s).burst := by
  induction ps generalizing s with
  | nil => exact ⟨hs, rfl, rfl⟩
  | cons p ps ih =>
    obtain ⟨hinv, hrate, hburst⟩ := ih (h.keeps s p hs)
    have hcharged := h.charged s p hs
    exact ⟨hinv, hrate.trans hcharged.rate, hburst.trans hcharged.burst⟩

variable [IsStrictOrderedRing K]

/-- What is counted is bounded by the tokens that there are and those that come. -/
lemma Meters.countP_accepted_le (h : Meters step I view time q) (hs : I s) {ps : List P}
    (hsorted : ps.Pairwise fun p p' => time p ≤ time p') {t t' : K}
    (hwindow : ∀ p ∈ ps, t ≤ time p ∧ time p ≤ t') :
    (accepted step s ps).countP q = 0 ∨ ((accepted step s ps).countP q : K) ≤
      (view s).level t + max (view s).rate 0 * (t' - t) := by
  induction ps generalizing s t with
  | nil => exact Or.inl rfl
  | cons p ps ih =>
    obtain ⟨hfirst, hsorted⟩ := List.pairwise_cons.1 hsorted
    obtain ⟨hfrom, hto⟩ := hwindow p List.mem_cons_self
    have hrest := ih (h.keeps s p hs) hsorted fun p' hp' =>
      ⟨hfirst p' hp', (hwindow p' (List.mem_cons_of_mem _ hp')).2⟩
    have hnow := level_le_add (b := view s) hfrom
    have hgain : 0 ≤ max (view s).rate 0 * (t' - time p) :=
      mul_nonneg (le_max_right ..) (sub_nonneg.2 hto)
    have hsplit : max (view s).rate 0 * (t' - t) =
        max (view s).rate 0 * (t' - time p) + max (view s).rate 0 * (time p - t) := by
      rw [← mul_add, sub_add_sub_cancel]
    have hcharged := h.charged s p hs
    rw [hcharged.rate] at hrest
    cases hpaid : ((step s p).1 && q p) with
    | true =>
      obtain ⟨hlevel, hless⟩ := hcharged.paid hpaid
      rw [Bool.and_eq_true] at hpaid
      rw [accepted, if_pos hpaid.1, List.countP_cons_of_pos hpaid.2]
      refine Or.inr ?_
      push_cast
      rcases hrest with hzero | hrest
      · rw [hzero, Nat.cast_zero]
        linarith
      · linarith
    | false =>
      have hcount : (accepted step s (p :: ps)).countP q =
          (accepted step (step s p).2 ps).countP q := by
        rw [accepted]
        split_ifs with haccepted
        · rw [haccepted, Bool.true_and] at hpaid
          exact List.countP_cons_of_neg (by simp [hpaid])
        · rfl
      rw [hcount]
      exact hrest.imp_right fun h => by linarith [hcharged.level]

/-- In a period of time no more is accepted than a full bucket and what it gains meanwhile, whatever
was called before. -/
lemma Meters.countP_accepted_foldl_le (h : Meters step I view time q) (hs : I s) (before : List P)
    {ps : List P} (hsorted : ps.Pairwise fun p p' => time p ≤ time p') {t t' : K} (htime : t ≤ t')
    (hwindow : ∀ p ∈ ps, t ≤ time p ∧ time p ≤ t') :
    ((accepted step (before.foldl (fun s p => (step s p).2) s) ps).countP q : K) ≤
      (view s).burst.toNat + max (view s).rate 0 * (t' - t) := by
  obtain ⟨hinv, hrate, hburst⟩ := h.foldl hs before
  have hgain : 0 ≤ max (view s).rate 0 * (t' - t) :=
    mul_nonneg (le_max_right ..) (sub_nonneg.2 htime)
  rcases h.countP_accepted_le hinv hsorted hwindow with hzero | hle
  · rw [hzero, Nat.cast_zero]
    exact add_nonneg (Nat.cast_nonneg _) hgain
  · rw [hrate] at hle
    refine hle.trans (add_le_add_left ?_ _)
    exact (level_le_burst _ t).trans (hburst ▸ mod_cast Int.self_le_toNat _)

end TokenBucket

end Dmqtt.Lib
