/-
Requests that are sent again until they are acknowledged.

`Network` holds what is under way between senders and receivers: requests that were written and
not read yet, requests that were read and acknowledged and not handled yet, and acknowledgements.
Messages may overtake each other and may get lost.  `pending` lists the requests of the first two
kinds, each with the sender that wrote it, and the lemmas say what an operation does to them.

`Exchange` is one request: its sender writes a copy and waits; if it waits too long, it may give
the copy up and write another one.  The sender cannot tell a lost copy from one whose
acknowledgement is late, and so the receiver may handle the request twice.  `Exchange.Step` are
the steps of a sender that gives a copy up only after it was lost, and `AtMostOnce` is what they
preserve.
-/
import Mathlib.Data.List.Nodup
import Mathlib.Data.List.Perm.Basic
import Mathlib.Logic.Relation

namespace Dmqtt.Lib

open List

/-! ### Networks -/

/-- Requests in `M` and acknowledgements in `A` under way. -/
structure Network (M A : Type*) where
  outbound : List (ℕ × M)
  handling : List (ℕ × M)
  inbound : List A

namespace Network

variable {M A : Type*} (net : Network M A)

/-- Nothing is under way. -/
def empty : Network M A := ⟨[], [], []⟩

/-- A sender writes a request. -/
def write (k : ℕ) (m : M) : Network M A := { net with outbound := net.outbound ++ [(k, m)] }

/-- A receiver reads a request, and acknowledges it before it handles it. -/
def read (ack : M → Option A) (i : ℕ) : Network M A :=
  match net.outbound[i]? with
  | none => net
  | some p =>
    { outbound := net.outbound.eraseIdx i
      handling := net.handling ++ [p]
      inbound := net.inbound ++ (ack p.2).toList }

/-- A request that was read, to be handled. -/
def take (i : ℕ) : Option (ℕ × M) × Network M A :=
  (net.handling[i]?, { net with handling := net.handling.eraseIdx i })

/-- A request gets lost. -/
def lose (i : ℕ) : Network M A := { net with outbound := net.outbound.eraseIdx i }

/-- A receiver goes down, with the requests that it was sent. -/
def drop (receiver : M → Bool) : Network M A :=
  { net with
    outbound := net.outbound.filter fun p => !receiver p.2
    handling := net.handling.filter fun p => !receiver p.2 }

/-- An acknowledgement arrives. -/
def takeAck (i : ℕ) : Option A × Network M A :=
  (net.inbound[i]?, { net with inbound := net.inbound.eraseIdx i })

/-- An acknowledgement gets lost. -/
def loseAck (i : ℕ) : Network M A := { net with inbound := net.inbound.eraseIdx i }

/-- The requests that may still be handled. -/
def pending : List (ℕ × M) := net.outbound ++ net.handling

variable {net}

lemma perm_cons_eraseIdx {α : Type*} {l : List α} {i : ℕ} {a : α} (h : l[i]? = some a) :
    l ~ a :: l.eraseIdx i := by
  obtain ⟨hi, rfl⟩ := List.getElem?_eq_some_iff.1 h
  exact (List.getElem_cons_eraseIdx_perm hi).symm

lemma pending_write (k : ℕ) (m : M) : (net.write k m).pending ~ (k, m) :: net.pending := by
  rw [pending, write, pending, List.append_assoc]
  exact List.perm_middle

lemma pending_read (ack : M → Option A) (i : ℕ) : (net.read ack i).pending ~ net.pending := by
  rw [read]
  cases hi : net.outbound[i]? with
  | none => exact Perm.refl _
  | some p =>
    calc net.outbound.eraseIdx i ++ (net.handling ++ [p])
      _ ~ p :: (net.outbound.eraseIdx i ++ net.handling) := by
        rw [← List.append_assoc]
        exact List.perm_append_singleton _ _
      _ ~ net.outbound ++ net.handling := (perm_cons_eraseIdx hi).symm.append_right _

lemma pending_take {i : ℕ} {p : ℕ × M} (h : net.handling[i]? = some p) :
    net.pending ~ p :: (net.take i).2.pending :=
  ((perm_cons_eraseIdx h).append_left _).trans List.perm_middle

lemma pending_take_sublist (i : ℕ) : (net.take i).2.pending <+ net.pending :=
  (List.eraseIdx_sublist _ _).append_left _

lemma pending_lose (i : ℕ) : (net.lose i).pending <+ net.pending :=
  (List.eraseIdx_sublist _ _).append_right _

lemma pending_drop (receiver : M → Bool) : (net.drop receiver).pending <+ net.pending :=
  List.filter_sublist.append List.filter_sublist

end Network

/-! ### Exchanges -/

/-- What the sender of a request does next. -/
inductive Phase
  | ready
  | waiting
  | finished
deriving DecidableEq

/-- A request: what its sender does next, how many copies of it may still be handled, and how
often it was handled. -/
structure Exchange where
  phase : Phase
  copies : ℕ
  handled : ℕ

namespace Exchange

/-- The steps of an exchange whose sender gives a copy up only after it was lost. -/
inductive Step : Exchange → Exchange → Prop
  | write (c h : ℕ) : Step ⟨.ready, c, h⟩ ⟨.waiting, c + 1, h⟩
  | handle (p : Phase) (c h : ℕ) : Step ⟨p, c + 1, h⟩ ⟨p, c, h + 1⟩
  | lose (p : Phase) (c h : ℕ) : Step ⟨p, c + 1, h⟩ ⟨p, c, h⟩
  | retry : Step ⟨.waiting, 0, 0⟩ ⟨.ready, 0, 0⟩
  | finish (p : Phase) (c h : ℕ) : Step ⟨p, c, h⟩ ⟨.finished, c, h⟩

/-- Any number of steps. -/
abbrev Steps : Exchange → Exchange → Prop := Relation.ReflTransGen Step

/-- The request is handled at most once, whatever becomes of its copies; and before a sender
writes, there is none. -/
structure AtMostOnce (e : Exchange) : Prop where
  le_one : e.copies + e.handled ≤ 1
  ready : e.phase = .ready → e.copies + e.handled = 0

lemma Step.atMostOnce {e e' : Exchange} (h : Step e e') (he : e.AtMostOnce) : e'.AtMostOnce := by
  obtain ⟨hle, hready⟩ := he
  cases h with
  | write c h =>
    have hzero : c + h = 0 := hready rfl
    refine ⟨?_, fun hp => by cases hp⟩
    show c + 1 + h ≤ 1
    omega
  | handle p c h =>
    have hone : c + 1 + h ≤ 1 := hle
    refine ⟨?_, fun hp => ?_⟩
    · show c + (h + 1) ≤ 1
      omega
    · have hzero : c + 1 + h = 0 := hready hp
      omega
  | lose p c h =>
    have hone : c + 1 + h ≤ 1 := hle
    refine ⟨?_, fun hp => ?_⟩
    · show c + h ≤ 1
      omega
    · have hzero : c + 1 + h = 0 := hready hp
      omega
  | retry => exact ⟨Nat.zero_le 1, fun _ => rfl⟩
  | finish p c h => exact ⟨hle, fun hp => by cases hp⟩

lemma AtMostOnce.steps {e e' : Exchange} (he : e.AtMostOnce) (h : Steps e e') :
    e'.AtMostOnce := by
  induction h with
  | refl => exact he
  | tail _ hstep ih => exact hstep.atMostOnce ih

section Of

variable {M N : Type*}

/-- The exchange of the request with number `i`: the copies that may still be handled and the
requests that were handled are read off lists of numbered requests. -/
def of (p : Phase) (pending : List (ℕ × M)) (handled : List (ℕ × N)) (i : ℕ) : Exchange where
  phase := p
  copies := pending.countP fun q => q.1 = i
  handled := handled.countP fun q => q.1 = i

variable {p : Phase} {pending pending' : List (ℕ × M)} {handled : List (ℕ × N)} {i j : ℕ}

/-- No copy of the request is left, and none was handled. -/
def Lost (pending : List (ℕ × M)) (handled : List (ℕ × N)) (i : ℕ) : Prop :=
  (∀ q ∈ pending, q.1 ≠ i) ∧ ∀ q ∈ handled, q.1 ≠ i

instance : Decidable (Lost pending handled i) := inferInstanceAs (Decidable (_ ∧ _))

lemma of_lost (h : Lost pending handled i) : of p pending handled i = ⟨p, 0, 0⟩ := by
  have hcopies : (pending.countP fun q => q.1 = i) = 0 :=
    List.countP_eq_zero.2 fun q hq => by simpa using h.1 q hq
  have hhandled : (handled.countP fun q => q.1 = i) = 0 :=
    List.countP_eq_zero.2 fun q hq => by simpa using h.2 q hq
  rw [of, hcopies, hhandled]

lemma AtMostOnce.lost (h : (of .ready pending handled i).AtMostOnce) : Lost pending handled i := by
  have hzero : (pending.countP fun q => q.1 = i) + (handled.countP fun q => q.1 = i) = 0 :=
    h.ready rfl
  constructor
  · intro q hq
    simpa using List.countP_eq_zero.1 (Nat.eq_zero_of_add_eq_zero_right hzero) q hq
  · intro q hq
    simpa using List.countP_eq_zero.1 (Nat.eq_zero_of_add_eq_zero_left hzero) q hq

lemma of_write_of_ne {m : M} (h : pending' ~ (j, m) :: pending) (hij : j ≠ i) :
    of p pending' handled i = of p pending handled i := by
  rw [of, of, h.countP_eq, List.countP_cons, if_neg (by simpa using hij)]
  rfl

lemma steps_write {m : M} (h : pending' ~ (i, m) :: pending) :
    Steps (of .ready pending handled i) (of .waiting pending' handled i) := by
  rw [of, of, h.countP_eq, List.countP_cons, if_pos (by simp)]
  exact .single (.write _ _)

lemma steps_handle {m : M} {n : N} (h : pending ~ (j, m) :: pending') :
    Steps (of p pending handled i) (of p pending' (handled ++ [(j, n)]) i) := by
  rw [of, of, h.countP_eq, List.countP_cons, List.countP_append, List.countP_singleton]
  by_cases hij : j = i
  · rw [if_pos (by simpa using hij)]
    exact .single (.handle _ _ _)
  · rw [if_neg (by simpa using hij)]
    exact .refl

lemma steps_lose (h : pending' <+~ pending) :
    Steps (of p pending handled i) (of p pending' handled i) := by
  have hle : (pending'.countP fun q => q.1 = i) ≤ pending.countP fun q => q.1 = i :=
    h.countP_le _
  rw [of, of]
  -- the copies get lost one by one
  generalize (pending'.countP fun q => q.1 = i) = n, (pending.countP fun q => q.1 = i) = k at hle
  induction hle with
  | refl => exact .refl
  | step _ ih => exact .head (.lose _ _ _) ih

lemma steps_retry (h : Lost pending handled i) :
    Steps (of .waiting pending handled i) (of .ready pending handled i) := by
  rw [of_lost h, of_lost h]
  exact .single .retry

lemma steps_finish : Steps (of p pending handled i) (of .finished pending handled i) :=
  .single (.finish _ _ _)

end Of

/-- If each request is handled at most once, then no more requests of a kind are handled than
there are. -/
lemma countP_handled_le {R N : Type*} {requests : List R} {handled : List (ℕ × N)}
    (q : R → Bool) (q' : N → Bool) (hone : ∀ i, (handled.countP fun x => x.1 = i) ≤ 1)
    (h : ∀ x ∈ handled, q' x.2 → ∃ r ∈ requests[x.1]?, q r) :
    (handled.countP fun x => q' x.2) ≤ requests.countP q := by
  have hnodup : ((handled.filter fun x => q' x.2).map Prod.fst).Nodup := by
    refine List.nodup_iff_count_le_one.2 fun i => ?_
    calc ((handled.filter fun x => q' x.2).map Prod.fst).count i
      _ = (handled.filter fun x => q' x.2).countP fun x => x.1 = i := by
        rw [List.count, List.countP_map]
        exact List.countP_congr fun x _ => by simp
      _ ≤ handled.countP fun x => x.1 = i := List.filter_sublist.countP_le
      _ ≤ 1 := hone i
  have hsub : (handled.filter fun x => q' x.2).map Prod.fst ⊆
      (requests.zipIdx.filter fun r => q r.1).map Prod.snd := by
    intro i hi
    obtain ⟨x, hx, rfl⟩ := List.mem_map.1 hi
    obtain ⟨hmem, hq'⟩ := List.mem_filter.1 hx
    obtain ⟨r, hr, hq⟩ := h x hmem hq'
    exact List.mem_map.2 ⟨(r, x.1),
      List.mem_filter.2 ⟨List.mem_zipIdx_iff_getElem?.2 hr, hq⟩, rfl⟩
  calc (handled.countP fun x => q' x.2)
    _ = ((handled.filter fun x => q' x.2).map Prod.fst).length := by
      rw [List.length_map, List.countP_eq_length_filter]
    _ ≤ ((requests.zipIdx.filter fun r => q r.1).map Prod.snd).length :=
      (List.subperm_of_subset hnodup hsub).length_le
    _ = requests.zipIdx.countP fun r => q r.1 := by
      rw [List.length_map, List.countP_eq_length_filter]
    _ = requests.countP q := by
      nth_rewrite 2 [← List.zipIdx_map_fst 0 requests]
      rw [List.countP_map]
      rfl

end Exchange

end Dmqtt.Lib
