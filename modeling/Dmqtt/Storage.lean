/-
The persistent key-value storage (`internal/storage/store.go`, `internal/storage/pebble.go`).

A store maps keys to values; its operations succeed.  `scan` visits the keys between two bounds in
the order of their bytes.  `mem_scan` says that the bounds select the keys that start with the
given bytes, and `scan_eq` that a scan is determined by what it visits.  `scan_visits` is about
`Scan` with its callback, over any iterator that keeps to the bounds.
-/
import Dmqtt.Codec.Packets
import Dmqtt.Lib.GoTypes
import Dmqtt.Lib.Trace
import Mathlib.Data.List.Sort
import Mathlib.Data.List.Nodup

namespace Dmqtt.Storage

open Lib

/-- A key with its value. -/
abbrev Row : Type := Bytes × Bytes

/-- The contents of a store. -/
abbrev Store : Type := GoMap Bytes Bytes

/-- A call that changes a store. -/
inductive Call
  | set (key value : Bytes)
  | delete (key : Bytes)
deriving DecidableEq

/-- Execute a call. -/
def exec (m : Store) : Call → Store
  | .set key value => m.insert key value
  | .delete key => m.erase key

/-- The key that a call changes. -/
def Call.key : Call → Bytes
  | .set key _ => key
  | .delete key => key

/-- The loop of `prefixUpperBound`, which goes from the last byte to the first one. -/
def upperBoundLoop : Bytes → Option Bytes
  | [] => none
  | x :: upper => if x < 0xFF then some ((x + 1) :: upper) else upperBoundLoop upper

/-- The least key above all keys that start with `p`, if there is one. -/
def prefixUpperBound (p : Bytes) : Option Bytes := (upperBoundLoop p.reverse).map List.reverse

/-- The key is within the bounds of a scan. -/
def inBounds (p key : Bytes) : Bool :=
  p ≤ key && (prefixUpperBound p).all fun upper => key < upper

/-- The rows that a scan visits. -/
def scan (m : Store) (p : Bytes) : List Row :=
  ((m.entries.map fun e => (e.1, e.2)).filter fun e => inBounds p e.1).insertionSort
    fun x y => x.1 ≤ y.1

/-! ### Calls -/

lemma lookup_exec_of_ne {m : Store} {call : Call} {key : Bytes} (h : call.key ≠ key) :
    (exec m call).lookup key = m.lookup key := by
  cases call with
  | set key' value => exact AList.lookup_insert_ne (Ne.symm h)
  | delete key' => exact AList.lookup_erase_ne (Ne.symm h)

lemma lookup_foldl_exec_of_ne {calls : List Call} {key : Bytes}
    (h : ∀ call ∈ calls, call.key ≠ key) (m : Store) :
    (calls.foldl exec m).lookup key = m.lookup key :=
  foldl_frame_of_mem (fun m : Store => m.lookup key)
    (fun _ call hc => lookup_exec_of_ne (h call hc)) m

/-! ### The bounds -/

lemma upperBoundLoop_concat (l : Bytes) (x : UInt8) :
    upperBoundLoop (l ++ [x]) =
      match upperBoundLoop l with
      | some upper => some (upper ++ [x])
      | none => if x < 0xFF then some [x + 1] else none := by
  induction l with
  | nil => rfl
  | cons y l ih =>
    rw [List.cons_append, upperBoundLoop, upperBoundLoop]
    by_cases hy : y < 0xFF
    · rw [if_pos hy, if_pos hy]
      rfl
    · rw [if_neg hy, if_neg hy, ih]

variable {l : List Row} (x : UInt8) (m : Store) (p key : Bytes)

lemma prefixUpperBound_cons :
    prefixUpperBound (x :: p) =
      match prefixUpperBound p with
      | some upper => some (x :: upper)
      | none => if x < 0xFF then some [x + 1] else none := by
  rw [prefixUpperBound, prefixUpperBound, List.reverse_cons, upperBoundLoop_concat]
  cases upperBoundLoop p.reverse with
  | none =>
    split_ifs <;> rfl
  | some upper => simp

lemma lt_succ_iff {x y : UInt8} (h : x < 0xFF) : y < x + 1 ↔ y ≤ x := by
  have hx : (x + 1).toNat = x.toNat + 1 := by
    rw [UInt8.toNat_add]
    have h' : x.toNat < 255 := UInt8.lt_iff_toNat_lt.1 h
    exact Nat.mod_eq_of_lt (by simp; omega)
  rw [UInt8.lt_iff_toNat_lt, UInt8.le_iff_toNat_le, hx, Nat.lt_succ_iff]

lemma inBounds_iff : inBounds p key = true ↔ p <+: key := by
  induction p generalizing key with
  | nil => simp [inBounds, prefixUpperBound, upperBoundLoop]
  | cons x p ih =>
    cases key with
    | nil => simp [inBounds]
    | cons y key =>
      rw [List.cons_prefix_cons, ← ih key]
      simp only [inBounds, Bool.and_eq_true, decide_eq_true_eq, List.cons_le_cons_iff]
      rw [prefixUpperBound_cons]
      cases prefixUpperBound p with
      | some upper =>
        -- both bounds start with `x`
        simp only [Option.all_some, decide_eq_true_eq, List.cons_lt_cons_iff]
        grind
      | none =>
        split_ifs with hx
        · simp only [Option.all_some, decide_eq_true_eq, List.cons_lt_cons_iff,
            lt_succ_iff hx, List.not_lt_nil, and_false, or_false, Option.all_none, and_true]
          grind
        · -- no byte is above `x`
          simp only [Option.all_none, and_true]
          grind

lemma prefix_iff_bounds : p <+: key ↔ p ≤ key ∧ ∀ u ∈ prefixUpperBound p, key < u := by
  rw [← inBounds_iff, inBounds]
  simp only [Bool.and_eq_true, decide_eq_true_eq, Option.all_eq_true, Option.mem_def]

/-! ### Scans -/

/-- The rows stand in the order of their keys. -/
def InOrder (l : List Row) : Prop := l.Pairwise fun x y => x.1 < y.1

lemma InOrder.nodup (h : InOrder l) : l.Nodup := by
  refine List.Pairwise.imp ?_ h
  rintro x y hxy rfl
  exact List.lt_irrefl _ hxy

lemma InOrder.eq {l' : List Row} (h : InOrder l) (h' : InOrder l')
    (hmem : ∀ row, row ∈ l ↔ row ∈ l') : l = l' := by
  refine List.Perm.eq_of_pairwise ?_ h h' ((List.perm_ext_iff_of_nodup h.nodup h'.nodup).2 hmem)
  intro x y _ _ hxy hyx
  exact absurd (List.lt_trans hxy hyx) (List.lt_irrefl _)

lemma inOrder_scan : InOrder (scan m p) := by
  have hsorted : (scan m p).Pairwise fun x y => x.1 ≤ y.1 := List.pairwise_insertionSort _ _
  have hkeys : ((scan m p).map Prod.fst).Nodup := by
    refine (((List.perm_insertionSort _ _).map Prod.fst).nodup_iff).2 ?_
    refine List.Nodup.sublist (List.filter_sublist.map _) ?_
    rw [List.map_map]
    exact m.nodupKeys
  refine (hsorted.and (List.pairwise_map.1 hkeys)).imp ?_
  rintro x y ⟨hle, hne⟩
  exact List.not_le.1 fun hge => hne (List.le_antisymm hle hge)

lemma mem_scan {m : Store} {p key value : Bytes} :
    (key, value) ∈ scan m p ↔ p <+: key ∧ m.lookup key = some value := by
  rw [scan, List.mem_insertionSort, List.mem_filter, inBounds_iff, and_comm, List.mem_map,
    ← Option.mem_def, AList.mem_lookup_iff]
  refine and_congr_right fun _ => ?_
  constructor
  · rintro ⟨e, he, heq⟩
    cases heq
    exact he
  · exact fun h => ⟨⟨key, value⟩, h, rfl⟩

lemma scan_eq {m : Store} {p : Bytes} (h : InOrder l)
    (hmem : ∀ key value, (key, value) ∈ l ↔ p <+: key ∧ m.lookup key = some value) :
    scan m p = l :=
  (inOrder_scan m p).eq h fun row => mem_scan.trans (hmem row.1 row.2).symm

lemma scan_congr {m m' : Store} {p : Bytes}
    (h : ∀ key, p <+: key → m.lookup key = m'.lookup key) : scan m p = scan m' p := by
  refine scan_eq (inOrder_scan m' p) fun key value => mem_scan.trans ?_
  exact and_congr_right fun hp => by rw [h key hp]

lemma scan_append (q : Bytes) :
    scan m (p ++ q) = (scan m p).filter fun row => (p ++ q).isPrefixOf row.1 := by
  refine scan_eq (List.Pairwise.sublist List.filter_sublist (inOrder_scan m p)) ?_
  intro key value
  rw [List.mem_filter, mem_scan, List.isPrefixOf_iff_prefix]
  constructor
  · exact fun h => ⟨h.2, h.1.2⟩
  · exact fun h => ⟨⟨(List.prefix_append p q).trans h.1, h.2⟩, h.1⟩

/-- A new last row. -/
lemma scan_insert_last {m : Store} {p key value : Bytes} (hp : p <+: key)
    (hlast : ∀ row ∈ scan m p, row.1 < key) :
    scan (m.insert key value) p = scan m p ++ [(key, value)] := by
  refine scan_eq ?_ fun key' value' => ?_
  · refine List.pairwise_append.2 ⟨inOrder_scan m p, List.pairwise_singleton _ _, ?_⟩
    intro x hx y hy
    rw [List.mem_singleton.1 hy]
    exact hlast x hx
  · rw [List.mem_append, mem_scan, List.mem_singleton, Prod.mk.injEq]
    by_cases h : key' = key
    · subst h
      have hnot : ∀ value, m.lookup key' ≠ some value := fun value hl =>
        List.lt_irrefl _ (hlast (key', value) (mem_scan.2 ⟨hp, hl⟩))
      simp [hp, hnot, eq_comm]
    · rw [AList.lookup_insert_ne h]
      simp [h]

/-! ### The callback -/

section Callback

variable {σ ε : Type} (fn : σ → Row → Option ε × σ)

/-- What is assumed of an iterator of the database: it visits the rows between the bounds, in
order. -/
structure Iterates (m : Store) (lower : Bytes) (upper : Option Bytes) (rows : List Row) : Prop where
  inOrder : InOrder rows
  mem_iff : ∀ key value, (key, value) ∈ rows ↔
    m.lookup key = some value ∧ lower ≤ key ∧ ∀ u ∈ upper, key < u

/-- The loop of `Scan` over the rows of its iterator, with a callback that keeps its state in `σ`.
The first error ends it. -/
def scanLoop : List Row → σ → Option ε × σ
  | [], s => (none, s)
  | row :: rows, s =>
    match fn s row with
    | (some err, s) => (some err, s)
    | (none, s) => scanLoop rows s

/-- The rows for which the loop calls the callback. -/
def visited : List Row → σ → List Row
  | [], _ => []
  | row :: rows, s =>
    row :: match fn s row with
      | (some _, _) => []
      | (none, s) => visited rows s

lemma iterates_scan (m : Store) (p : Bytes) : Iterates m p (prefixUpperBound p) (scan m p) where
  inOrder := inOrder_scan m p
  mem_iff key value := by
    rw [mem_scan, and_comm, prefix_iff_bounds]

lemma visited_prefix (rows : List Row) (s : σ) : visited fn rows s <+: rows := by
  induction rows generalizing s with
  | nil => exact List.nil_prefix
  | cons row rows ih =>
    rw [visited]
    refine (List.prefix_cons_inj row).2 ?_
    rcases fn s row with ⟨err | err, s'⟩
    · exact ih s'
    · exact List.nil_prefix

/-- A scan that does not fail has come to its end. -/
lemma visited_eq_of_scanLoop {fn} {rows : List Row} {s : σ}
    (h : (scanLoop (ε := ε) fn rows s).1 = none) : visited fn rows s = rows := by
  induction rows generalizing s with
  | nil => rfl
  | cons row rows ih =>
    rw [scanLoop] at h
    rw [visited]
    rcases hfn : fn s row with ⟨err | err, s'⟩
    · rw [hfn] at h
      exact congrArg (row :: ·) (ih h)
    · rw [hfn] at h
      cases h

/-- **The bounds of a scan** select the keys that start with its bytes.  So the callback is called
for such rows of the store only, in the order of their keys, and for all of them unless it fails. -/
theorem scan_visits :
    (∀ p key : Bytes, p <+: key ↔
      p ≤ key ∧ (prefixUpperBound p = none ∨ ∃ u, prefixUpperBound p = some u ∧ key < u)) ∧
    ∀ (σ ε : Type) (fn : σ → Row → Option ε × σ) (m : Store) (p : Bytes) (rows : List Row) (s : σ),
      Iterates m p (prefixUpperBound p) rows →
        InOrder (visited fn rows s) ∧
        (∀ row ∈ visited fn rows s, p <+: row.1 ∧ m.lookup row.1 = some row.2) ∧
        ((scanLoop fn rows s).1 = none → ∀ key value, p <+: key → m.lookup key = some value →
          (key, value) ∈ visited fn rows s) := by
  constructor
  · intro p key
    rw [prefix_iff_bounds]
    refine and_congr_right fun _ => ?_
    cases prefixUpperBound p with
    | none | some u => simp
  · intro σ ε fn m p rows s h
    have hmem : ∀ key value, (key, value) ∈ rows ↔ m.lookup key = some value ∧ p <+: key := by
      intro key value
      rw [h.mem_iff, prefix_iff_bounds]
    have hvisited := visited_prefix fn rows s
    refine ⟨List.Pairwise.sublist hvisited.sublist h.inOrder, fun row hrow => ?_, ?_⟩
    · exact ((hmem row.1 row.2).1 (hvisited.subset hrow)).symm
    · intro hok key value hp hl
      rw [visited_eq_of_scanLoop hok]
      exact (hmem key value).2 ⟨hl, hp⟩

/-- A scan whose upper bound comes from a carry, with a callback that does not fail. -/
theorem scan_visits_carry :
    let m : Store := (AList.insert [0x61, 0xFF, 0x01] [1] ∅).insert [0x62] [2]
    let fn : ℕ → Row → Option Unit × ℕ := fun n _ => (none, n + 1)
    prefixUpperBound [0x61, 0xFF] = some [0x62] ∧
      Iterates m [0x61, 0xFF] (prefixUpperBound [0x61, 0xFF]) (scan m [0x61, 0xFF]) ∧
      ([0x61, 0xFF, 0x01], [1]) ∈ visited fn (scan m [0x61, 0xFF]) 0 := by
  intro m fn
  have hrows := iterates_scan m [0x61, 0xFF]
  refine ⟨by decide, hrows, ?_⟩
  exact (scan_visits.2 ℕ Unit fn m _ _ 0 hrows).2.2 (by decide) _ _ (by decide) (by decide)

end Callback

/-! ### Loading -/

section Load

variable {S V : Type} {load : S → Row → S} (view : S → Bytes → Option V)
  {read : Bytes → Bytes → Option V} {p : Bytes}

/-- Rows that each set what is seen under their key, if they can be read. -/
lemma view_foldl_rows
    (hload : ∀ s k value k', view (load s (p ++ k, value)) k' =
      if k' = k then (read k value).or (view s k') else view s k')
    {rows : List Row} (hp : ∀ row ∈ rows, p <+: row.1) (hnodup : (rows.map Prod.fst).Nodup) (s : S)
    (k : Bytes) :
    (∀ value, (p ++ k, value) ∈ rows →
      view (rows.foldl load s) k = (read k value).or (view s k)) ∧
    ((∀ value, (p ++ k, value) ∉ rows) → view (rows.foldl load s) k = view s k) := by
  induction rows generalizing s with
  | nil => exact ⟨fun value h => absurd h List.not_mem_nil, fun _ => rfl⟩
  | cons row rows ih =>
    obtain ⟨key, value₀⟩ := row
    obtain ⟨k₀, rfl⟩ := hp (key, value₀) List.mem_cons_self
    obtain ⟨hnot, hnodup⟩ := List.nodup_cons.1 hnodup
    obtain ⟨hmem, hnone⟩ :=
      ih (fun row hrow => hp row (List.mem_cons_of_mem _ hrow)) hnodup (load s (p ++ k₀, value₀))
    rw [List.foldl_cons]
    by_cases hk : k = k₀
    · subst hk
      have hrest : ∀ value, (p ++ k, value) ∉ rows :=
        fun value hrow => hnot (List.mem_map.2 ⟨_, hrow, rfl⟩)
      rw [hnone hrest, hload, if_pos rfl]
      refine ⟨fun value h => ?_, fun h => absurd List.mem_cons_self (h value₀)⟩
      rcases List.mem_cons.1 h with heq | h
      · cases heq
        rfl
      · exact absurd h (hrest value)
    · have hview : view (load s (p ++ k₀, value₀)) k = view s k := by
        rw [hload, if_neg hk]
      refine ⟨fun value h => ?_, fun h => ?_⟩
      · rcases List.mem_cons.1 h with heq | h
        · exact absurd (List.append_cancel_left (congrArg Prod.fst heq)) hk
        · rw [hmem value h, hview]
      · rw [hnone fun value hrow => h value (List.mem_cons_of_mem _ hrow), hview]

/-- What is seen after a scan is loaded into an empty map. -/
lemma view_foldl_scan
    (hload : ∀ s k value k', view (load s (p ++ k, value)) k' =
      if k' = k then (read k value).or (view s k') else view s k')
    (m : Store) {s : S} (hs : ∀ k, view s k = none) (k : Bytes) :
    view ((scan m p).foldl load s) k = (m.lookup (p ++ k)).bind (read k) := by
  have hnodup : ((scan m p).map Prod.fst).Nodup := by
    refine List.pairwise_map.2 ((inOrder_scan m p).imp ?_)
    rintro x y hxy heq
    rw [heq] at hxy
    exact List.lt_irrefl _ hxy
  obtain ⟨hmem, hnone⟩ :=
    view_foldl_rows view hload (fun row hrow => (mem_scan.1 hrow).1) hnodup s k
  cases hl : m.lookup (p ++ k) with
  | none =>
    rw [hnone, hs]
    · rfl
    · intro value hrow
      rw [(mem_scan.1 hrow).2] at hl
      cases hl
  | some value =>
    rw [hmem value (mem_scan.2 ⟨List.prefix_append p k, hl⟩), hs, Option.or_none]
    rfl

end Load

end Dmqtt.Storage
