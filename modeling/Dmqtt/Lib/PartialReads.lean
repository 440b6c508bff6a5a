/-
Sources that are read part by part, as an `io.Reader` of Go is.

A call is given the size of a buffer.  It returns a part of the items that are left, which may be
empty, and an error or none.  `Yields` says of a source that its calls return these items in order
and then the error `last`, whatever the sizes are: after finitely many calls, and possibly with the
last part.  `Yields.exists_run` is what this means for calls with a given sequence of sizes, and
`Yields.of_calls` the rule by which a source is shown to yield its items.
-/
import Mathlib.Data.List.Basic
import Mathlib.Data.List.Range

namespace Dmqtt.Lib

variable {S α E : Type*}

/-- What a call returns. -/
@[ext]
structure ReadResult (α E : Type*) where
  part : List α
  err : Option E
deriving DecidableEq

/-- The calls return these items and then the error. -/
inductive Yields (read : S → ℕ → ReadResult α E × S) (last : E) : S → List α → Prop
  | intro {s : S} {items : List α}
      (fits : ∀ size, 0 < size → (read s size).1.part.length ≤ size)
      (starts : ∀ size, 0 < size → (read s size).1.part <+: items)
      (ends : ∀ size, 0 < size → ∀ e, (read s size).1.err = some e →
        e = last ∧ (read s size).1.part = items)
      (goesOn : ∀ size, 0 < size → (read s size).1.err = none →
        Yields read last (read s size).2 (items.drop (read s size).1.part.length)) :
      Yields read last s items

section Runs

variable (read : S → ℕ → ReadResult α E × S)

/-- The source after a number of calls with these sizes. -/
def afterCalls : (ℕ → ℕ) → S → ℕ → S
  | _, s, 0 => s
  | sizes, s, n + 1 => afterCalls (fun k => sizes (k + 1)) (read s (sizes 0)).2 n

/-- What the call with this number returns, counted from zero. -/
def nthCall (sizes : ℕ → ℕ) (s : S) (n : ℕ) : ReadResult α E :=
  (read (afterCalls read sizes s n) (sizes n)).1

/-- The items that the first calls return. -/
def received (sizes : ℕ → ℕ) (s : S) (n : ℕ) : List α :=
  (List.range n).flatMap fun k => (nthCall read sizes s k).part

variable (sizes : ℕ → ℕ) (s : S)

lemma afterCalls_succ (n : ℕ) :
    afterCalls read sizes s (n + 1) = (read (afterCalls read sizes s n) (sizes n)).2 := by
  induction n generalizing sizes s with
  | zero => rfl
  | succ n ih => exact ih (fun k => sizes (k + 1)) (read s (sizes 0)).2

lemma received_succ (n : ℕ) : received read sizes s (n + 1) =
    (nthCall read sizes s 0).part ++
      received read (fun k => sizes (k + 1)) (read s (sizes 0)).2 n := by
  rw [received, List.range_succ_eq_map, List.flatMap_cons, List.flatMap_map]
  exact congrArg _ rfl

lemma received_concat (n : ℕ) : received read sizes s (n + 1) =
    received read sizes s n ++ (nthCall read sizes s n).part := by
  rw [received, List.range_succ, List.flatMap_append, List.flatMap_singleton, received]

/-- What every call keeps, as long as the buffer is not empty, holds all the time. -/
lemma afterCalls_invariant {sizes : ℕ → ℕ} (hsizes : ∀ k, 0 < sizes k) {I : S → Prop}
    (hstep : ∀ s size, 0 < size → I s → I (read s size).2) {s : S} (hs : I s) (n : ℕ) :
    I (afterCalls read sizes s n) := by
  induction n with
  | zero => exact hs
  | succ n ih =>
    rw [afterCalls_succ]
    exact hstep _ _ (hsizes n) ih

end Runs

namespace Yields

variable {read : S → ℕ → ReadResult α E × S} {last : E} {s t : S} {items : List α}

/-- The introduction rule.  A call returns all items with the error; or it returns a part, and the
source yields the rest; or it does what another source does that yields the items. -/
lemma of_calls (h : ∀ size, 0 < size →
    (∃ s', read s size = (⟨items, some last⟩, s') ∧ items.length ≤ size) ∨
    (∃ part s' rest, read s size = (⟨part, none⟩, s') ∧ part.length ≤ size ∧ part ++ rest = items ∧
      Yields read last s' rest) ∨
    ∃ t, read s size = read t size ∧ Yields read last t items) : Yields read last s items := by
  have hcall : ∀ size, 0 < size → (read s size).1.part.length ≤ size ∧
      (read s size).1.part <+: items ∧
      (∀ e, (read s size).1.err = some e → e = last ∧ (read s size).1.part = items) ∧
      ((read s size).1.err = none →
        Yields read last (read s size).2 (items.drop (read s size).1.part.length)) := by
    intro size hsize
    rcases h size hsize with ⟨s', hread, hfits⟩ | ⟨part, s', rest, hread, hfits, rfl, hrest⟩ |
        ⟨t, hread, fits, starts, ends, goesOn⟩
    · rw [hread]
      refine ⟨hfits, List.prefix_rfl, fun e he => ⟨(Option.some.inj he).symm, rfl⟩, fun he => ?_⟩
      cases he
    · rw [hread]
      refine ⟨hfits, List.prefix_append part rest, fun e he => ?_, fun _ => ?_⟩
      · cases he
      · rwa [List.drop_left]
    · rw [hread]
      exact ⟨fits size hsize, starts size hsize, ends size hsize, goesOn size hsize⟩
  exact ⟨fun size hsize => (hcall size hsize).1, fun size hsize => (hcall size hsize).2.1,
    fun size hsize => (hcall size hsize).2.2.1, fun size hsize => (hcall size hsize).2.2.2⟩

/-- The calls come to the error, and what they have returned by then is what the source yields. -/
lemma exists_run (h : Yields read last s items) {sizes : ℕ → ℕ} (hsizes : ∀ k, 0 < sizes k) :
    ∃ n, (∀ k < n, (nthCall read sizes s k).err = none) ∧
      (nthCall read sizes s n).err = some last ∧ received read sizes s (n + 1) = items := by
  induction h generalizing sizes with
  | @intro s items fits starts ends goesOn ih =>
    cases herr : (read s (sizes 0)).1.err with
    | some e =>
      obtain ⟨rfl, hpart⟩ := ends (sizes 0) (hsizes 0) e herr
      refine ⟨0, fun k hk => absurd hk (Nat.not_lt_zero k), herr, ?_⟩
      rw [received_concat]
      exact hpart
    | none =>
      obtain ⟨n, hbefore, hlast, hreceived⟩ :=
        ih (sizes 0) (hsizes 0) herr fun k => hsizes (k + 1)
      refine ⟨n + 1, fun k hk => ?_, hlast, ?_⟩
      · cases k with
        | zero => exact herr
        | succ k => exact hbefore k (by omega)
      · rw [received_succ, hreceived]
        exact List.prefix_iff_eq_append.1 (starts (sizes 0) (hsizes 0))

end Yields

/-- A list as a source: the last part comes with the error. -/
def readList (last : E) (items : List α) (size : ℕ) : ReadResult α E × List α :=
  (⟨items.take size, if items.length ≤ size then some last else none⟩, items.drop size)

lemma yields_readList (last : E) (items : List α) : Yields (readList last) last items items := by
  refine Yields.of_calls fun size hsize => ?_
  by_cases hle : items.length ≤ size
  · refine Or.inl ⟨items.drop size, ?_, hle⟩
    rw [readList, if_pos hle, List.take_of_length_le hle]
  · refine Or.inr (Or.inl ⟨items.take size, items.drop size, items.drop size, ?_,
      List.length_take_le .., List.take_append_drop .., yields_readList last (items.drop size)⟩)
    rw [readList, if_neg hle]
termination_by items.length
decreasing_by
  rw [List.length_drop]
  omega

end Dmqtt.Lib
