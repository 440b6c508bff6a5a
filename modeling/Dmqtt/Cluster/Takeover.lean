/-
Session takeover between the nodes of a cluster (`internal/cluster/takeover.go` and
`conflict.go`).

Two nodes may both have a session for a client.  Each asks the other to give it up, and the node
that is asked compares the epochs and the connect timestamps: it yields to the larger pair.
`takeover_agrees_iff` says when this leaves the session with exactly one of them.
-/
import Dmqtt.Codec.FixedHeader
import Dmqtt.Lib.GoTypes

namespace Dmqtt.Cluster

open Lib Codec

/-! ### Conflicts -/

/-- What is known of a session to resolve conflicts. -/
structure SessionMeta where
  clientID : Str
  epoch : UInt64
  connectTimestamp : Int64
  nodeID : Str
deriving DecidableEq

/-- The resolver under which the last writer wins: whether the remote session wins. -/
def LWWResolver.resolve (localMeta remoteMeta : SessionMeta) : Bool :=
  if remoteMeta.epoch > localMeta.epoch then true
  else if remoteMeta.epoch < localMeta.epoch then false
  else if remoteMeta.connectTimestamp > localMeta.connectTimestamp then true
  else if remoteMeta.connectTimestamp < localMeta.connectTimestamp then false
  -- the same epoch and timestamp: the local session wins
  else false

lemma LWWResolver.resolve_iff {l r : SessionMeta} :
    LWWResolver.resolve l r ↔
      l.epoch < r.epoch ∨ l.epoch = r.epoch ∧ l.connectTimestamp < r.connectTimestamp := by
  rw [resolve]
  split_ifs with hlt hgt hlt' hgt'
  · simp [hlt]
  · have hne : l.epoch ≠ r.epoch := fun h => UInt64.lt_irrefl _ (h ▸ hgt)
    simp [hlt, hne]
  · have heq : l.epoch = r.epoch := UInt64.le_antisymm (UInt64.not_lt.1 hgt) (UInt64.not_lt.1 hlt)
    simp [heq, hlt']
  · simp [hlt, hlt']
  · simp [hlt, hlt']

/-- The two sides come to opposite decisions, except on a tie. -/
lemma LWWResolver.resolve_swap {l r : SessionMeta} :
    LWWResolver.resolve r l = !LWWResolver.resolve l r ↔
      ¬(l.epoch = r.epoch ∧ l.connectTimestamp = r.connectTimestamp) := by
  rw [Bool.eq_not, ne_eq, Bool.eq_iff_iff, resolve_iff, resolve_iff]
  simp only [UInt64.lt_iff_toNat_lt, ← UInt64.toNat_inj, Int64.lt_iff_toInt_lt, ← Int64.toInt_inj]
  omega

/-! ### Requests and responses -/

/-- A node asks for the session of a client. -/
structure TakeoverRequest where
  clientID : Str
  requestNodeID : Str
  connectTimestamp : Int64
  epoch : UInt64
deriving DecidableEq

/-- The answer. -/
structure TakeoverResponse where
  clientID : Str
  success : Bool
  reason : Str := []
deriving DecidableEq

/-- The part of a node that negotiates the takeover of sessions. -/
structure TakeoverManager where
  selfID : Str
  resolver : SessionMeta → SessionMeta → Bool
  sessions : GoMap Str SessionMeta

namespace TakeoverManager

variable (tm : TakeoverManager)

/-- A manager without sessions. -/
def new (selfID : Str) (resolver : SessionMeta → SessionMeta → Bool) : TakeoverManager :=
  ⟨selfID, resolver, ∅⟩

/-- The node got a session of its own for a client. -/
def setLocalSession (clientID : Str) (localMeta : SessionMeta) : TakeoverManager :=
  { tm with sessions := tm.sessions.insert clientID localMeta }

/-- The request that `RequestTakeover` sends. -/
def takeoverRequest (clientID : Str) (epoch : UInt64) (connectTimestamp : Int64) :
    TakeoverRequest where
  clientID := clientID
  requestNodeID := tm.selfID
  connectTimestamp := connectTimestamp
  epoch := epoch

/-- Handle a request: the manager, the device that is disconnected, if any, and the answer with
the node that it is sent to. -/
def handleTakeoverRequest (req : TakeoverRequest) :
    TakeoverManager × Option Str × Str × TakeoverResponse :=
  let remoteMeta : SessionMeta :=
    { clientID := req.clientID
      epoch := req.epoch
      connectTimestamp := req.connectTimestamp
      nodeID := req.requestNodeID }
  let success : TakeoverResponse := { clientID := req.clientID, success := true }
  match tm.sessions.lookup req.clientID with
  | none => (tm, none, req.requestNodeID, success)
  | some localMeta =>
    if tm.resolver localMeta remoteMeta then
      ({ tm with sessions := tm.sessions.erase req.clientID }, some req.clientID,
        req.requestNodeID, success)
    else
      (tm, none, req.requestNodeID,
        { clientID := req.clientID
          success := false
          reason := str "local session wins conflict resolution" })

/-- The node has a session for the client. -/
def Has (clientID : Str) : Prop := (tm.sessions.lookup clientID).isSome

instance (clientID : Str) : Decidable (tm.Has clientID) :=
  inferInstanceAs (Decidable (_ = true))

end TakeoverManager

/-! ### Two nodes with the same client -/

/-- One of two nodes. -/
inductive Side
  | left
  | right
deriving DecidableEq

/-- The other node. -/
def Side.other : Side → Side
  | .left => .right
  | .right => .left

/-- Two nodes, the requests that are under way to each, and the answers they gave. -/
structure Rivals where
  left : TakeoverManager
  right : TakeoverManager
  toLeft : TakeoverRequest
  toRight : TakeoverRequest
  answers : List TakeoverResponse

namespace Rivals

/-- Each node has sent the metadata of its own session to the other. -/
def start (left right : TakeoverManager) (clientID : Str) (l r : SessionMeta) : Rivals where
  left := left
  right := right
  toLeft := right.takeoverRequest clientID r.epoch r.connectTimestamp
  toRight := left.takeoverRequest clientID l.epoch l.connectTimestamp
  answers := []

/-- A node handles the request of the other. -/
def handle (s : Rivals) : Side → Rivals
  | .left =>
    let out := s.left.handleTakeoverRequest s.toLeft
    { s with left := out.1, answers := s.answers ++ [out.2.2.2] }
  | .right =>
    let out := s.right.handleTakeoverRequest s.toRight
    { s with right := out.1, answers := s.answers ++ [out.2.2.2] }

/-- The nodes share nothing, so that the order shows in the order of the answers only. -/
lemma handle_both (s : Rivals) (first : Side) :
    let s' := [first, first.other].foldl handle s
    let outLeft := s.left.handleTakeoverRequest s.toLeft
    let outRight := s.right.handleTakeoverRequest s.toRight
    s'.left = outLeft.1 ∧ s'.right = outRight.1 ∧
      s'.answers.Perm (s.answers ++ [outLeft.2.2.2, outRight.2.2.2]) := by
  cases first with
  | left => exact ⟨rfl, rfl, List.Perm.of_eq (List.append_assoc _ _ _)⟩
  | right =>
    refine ⟨rfl, rfl, ?_⟩
    refine (List.Perm.of_eq (List.append_assoc _ _ _)).trans (List.Perm.append_left _ ?_)
    exact List.Perm.swap _ _ _

end Rivals

/-- A node yields exactly if the resolver says that the other session wins; it gives up its
session then, and the answer tells so. -/
lemma has_handleTakeoverRequest {tm : TakeoverManager} {clientID : Str} {l r : SessionMeta}
    (h : tm.sessions.lookup clientID = some l) (hres : tm.resolver = LWWResolver.resolve)
    (selfID : Str) :
    let out := tm.handleTakeoverRequest ⟨clientID, selfID, r.connectTimestamp, r.epoch⟩
    (out.1.Has clientID ↔ LWWResolver.resolve l r = false) ∧
      out.2.2.2.success = LWWResolver.resolve l r := by
  -- the resolver reads nothing but the epoch and the timestamp
  have heq : tm.resolver l ⟨clientID, r.epoch, r.connectTimestamp, selfID⟩ =
      LWWResolver.resolve l r := by
    rw [hres]
    rfl
  simp only [TakeoverManager.handleTakeoverRequest, h, heq]
  cases LWWResolver.resolve l r with
  | false => simp [TakeoverManager.Has, h]
  | true => simp [TakeoverManager.Has]

/-- **When two nodes agree on a takeover.**  If two nodes both have a session for a client and
each handles the request of the other, in either order, then exactly one of them still has the
session and exactly one request is granted, if and only if the two sessions differ in epoch or
connect timestamp. -/
theorem takeover_agrees_iff {left right : TakeoverManager} {clientID : Str} {l r : SessionMeta}
    (hleft : left.sessions.lookup clientID = some l)
    (hright : right.sessions.lookup clientID = some r)
    (hresLeft : left.resolver = LWWResolver.resolve)
    (hresRight : right.resolver = LWWResolver.resolve) (first : Side) :
    let s := [first, first.other].foldl Rivals.handle (.start left right clientID l r)
    (Xor (s.left.Has clientID) (s.right.Has clientID) ∧ s.answers.countP (·.success) = 1) ↔
      ¬(l.epoch = r.epoch ∧ l.connectTimestamp = r.connectTimestamp) := by
  obtain ⟨hasLeft, ansLeft⟩ := has_handleTakeoverRequest (r := r) hleft hresLeft right.selfID
  obtain ⟨hasRight, ansRight⟩ := has_handleTakeoverRequest (r := l) hright hresRight left.selfID
  obtain ⟨heqLeft, heqRight, hanswers⟩ :=
    Rivals.handle_both (.start left right clientID l r) first
  dsimp only
  rw [← LWWResolver.resolve_swap, heqLeft, heqRight, hanswers.countP_eq]
  simp only [Rivals.start, TakeoverManager.takeoverRequest, hasLeft, hasRight, List.nil_append,
    List.countP_cons, ansLeft, ansRight, List.countP_nil]
  cases LWWResolver.resolve l r <;> cases LWWResolver.resolve r l <;> simp [Xor]

/-- The session of epoch 2 wins against that of epoch 1. -/
theorem takeover_agrees_iff_epochs :
    let l : SessionMeta := ⟨str "c", 1, 70, str "n1"⟩
    let r : SessionMeta := ⟨str "c", 2, 50, str "n2"⟩
    let s := [Side.left, .right].foldl Rivals.handle
      (.start ((TakeoverManager.new (str "n1") LWWResolver.resolve).setLocalSession (str "c") l)
        ((TakeoverManager.new (str "n2") LWWResolver.resolve).setLocalSession (str "c") r)
        (str "c") l r)
    Xor (s.left.Has (str "c")) (s.right.Has (str "c")) ∧ s.answers.countP (·.success) = 1 :=
  (takeover_agrees_iff rfl rfl rfl rfl .left).2 (by decide)

/-- On a tie both nodes keep the session, and both requests are refused. -/
theorem takeover_tie :
    let l : SessionMeta := ⟨str "c", 1, 50, str "n1"⟩
    let r : SessionMeta := ⟨str "c", 1, 50, str "n2"⟩
    let s := [Side.left, .right].foldl Rivals.handle
      (.start ((TakeoverManager.new (str "n1") LWWResolver.resolve).setLocalSession (str "c") l)
        ((TakeoverManager.new (str "n2") LWWResolver.resolve).setLocalSession (str "c") r)
        (str "c") l r)
    s.left.Has (str "c") ∧ s.right.Has (str "c") ∧ s.answers.countP (·.success) = 0 := by
  decide

end Dmqtt.Cluster
