/-
The members of a cluster, and what a node makes of them (`internal/cluster/membership.go`, and
`eventLoop` of `cluster.go`).

The gossip library calls the node back when another one joins, leaves or changes.  The event goes to
a channel, or is dropped if the channel is full.  The loop at the other end adds and removes peers
as the events say, but it does not build the ring from them: after each event it asks for all
members.  So the ring makes up for events that were dropped (`ring_converges`), and the peers do not
(`isPeer_iff`).

The library is left open: its list may change at any time, and it may call back at any time.
-/
import Dmqtt.Cluster.DeadNode
import Dmqtt.Cluster.RemoteSubMap
import Dmqtt.Cluster.Ring

namespace Dmqtt.Cluster

open Lib

/-- A member: its name, and what `UnmarshalNodeInfo` makes of its metadata. -/
structure GossipNode where
  name : Str
  info : Option NodeInfo

inductive EventType
  | nodeJoin
  | nodeLeave
  | nodeUpdate
deriving DecidableEq

/-- A change of the members. -/
structure MemberEvent where
  type : EventType
  node : NodeInfo
deriving DecidableEq

/-- The event that a callback sends.  If the metadata are bad, a node that leaves is known by its
name, and there is no event otherwise. -/
def GossipNode.event (node : GossipNode) (type : EventType) : Option MemberEvent :=
  match node.info with
  | some info => some ⟨type, info⟩
  | none =>
    if type = .nodeLeave then some ⟨type, ⟨node.name, [], 0, 0, 0, 0, []⟩⟩ else none

/-- Forget a peer. -/
def PeerTransport.removePeer (pt : PeerTransport) (nodeID : Str) : PeerTransport :=
  { pt with peers := pt.peers.erase nodeID }

/-- What an event does to the peers. -/
def PeerTransport.handleEvent (selfID : Str) (pt : PeerTransport) (ev : MemberEvent) :
    PeerTransport :=
  match ev.type with
  | .nodeJoin => if ev.node.id ≠ selfID then pt.addPeer ev.node.id else pt
  | .nodeLeave => pt.removePeer ev.node.id
  | .nodeUpdate => pt

/-- The node is a peer. -/
def PeerTransport.IsPeer (id : Str) (pt : PeerTransport) : Prop := (pt.peers.lookup id).isSome

lemma PeerTransport.isPeer_addPeer (pt : PeerTransport) (nodeID id : Str) :
    (pt.addPeer nodeID).IsPeer id ↔ id = nodeID ∨ pt.IsPeer id := by
  rw [addPeer, IsPeer, IsPeer]
  cases hpeer : pt.peers.lookup nodeID with
  | some pc =>
    refine (or_iff_right_of_imp ?_).symm
    rintro rfl
    rw [hpeer]
    rfl
  | none =>
    dsimp only
    rw [GoMap.lookup_insert_eq]
    split_ifs with h <;> simp [h]

lemma PeerTransport.isPeer_removePeer (pt : PeerTransport) (nodeID id : Str) :
    (pt.removePeer nodeID).IsPeer id ↔ id ≠ nodeID ∧ pt.IsPeer id := by
  rw [removePeer, IsPeer, IsPeer, GoMap.lookup_erase_eq]
  split_ifs with h <;> simp [h]

/-- Where the loop is: before an event, after it has handled one, or with the members in hand. -/
inductive LoopStage
  | waiting
  | handled
  | read (nodes : List NodeInfo)

variable {R : Type} {H : Hashring R}

/-- A node with the list of the library and the channel, and the events that the loop has received.
The goroutines that an event starts are left out. -/
structure EventLoop (H : Hashring R) where
  selfID : Str
  list : List GossipNode
  events : List MemberEvent
  stage : LoopStage
  received : List MemberEvent
  transport : PeerTransport
  remoteSubs : RemoteSubIndex
  connections : ConnectionIndex
  ring : Ring H

/-- What happens: the list changes, the library calls back, or the loop goes on. -/
inductive LoopOp
  | change (list : List GossipNode)
  | notify (type : EventType) (node : GossipNode)
  | advance

def LoopOp.isChange : LoopOp → Bool
  | .change _ => true
  | _ => false

namespace EventLoop

variable (s : EventLoop H)

/-- The members whose metadata can be read. -/
def members : List NodeInfo := s.list.filterMap GossipNode.info

/-- `NotifyJoin`, `NotifyLeave` and `NotifyUpdate`. -/
def notify (type : EventType) (node : GossipNode) : EventLoop H :=
  match node.event type with
  | none => s
  | some ev => if s.events.length < 256 then { s with events := s.events ++ [ev] } else s

/-- The next step of `eventLoop`. -/
def advance : EventLoop H :=
  match s.stage with
  | .waiting =>
    match s.events with
    | [] => s
    | ev :: evs =>
      { s with
        events := evs
        stage := .handled
        received := s.received ++ [ev]
        transport := s.transport.handleEvent s.selfID ev
        remoteSubs :=
          if ev.type = .nodeLeave then s.remoteSubs.removeNode ev.node.id else s.remoteSubs
        connections :=
          if ev.type = .nodeLeave then s.connections.removeNode ev.node.id else s.connections }
  | .handled => { s with stage := .read s.members }
  | .read nodes => { s with ring := s.ring.update nodes, stage := .waiting }

def step : LoopOp → EventLoop H
  | .change list => { s with list }
  | .notify type node => s.notify type node
  | .advance => s.advance

/-- The steps that are left to the loop. -/
def pending : ℕ :=
  3 * s.events.length + match s.stage with
    | .waiting => 0
    | .handled => 2
    | .read _ => 1

/-- The ring is that of these members, or the loop will still ask for them. -/
def Current (nodes : List NodeInfo) (s : EventLoop H) : Prop :=
  s.members = nodes ∧ (s.events ≠ [] ∨ match s.stage with
    | .waiting => s.ring = s.ring.update nodes
    | .handled => True
    | .read nodes' => nodes' = nodes)

variable {s} {type : EventType} {node : GossipNode} {nodes : List NodeInfo}

lemma current_notify (h : (node.event type).isSome) (hs : s.members = nodes) :
    (s.notify type node).Current nodes := by
  obtain ⟨ev, hev⟩ := Option.isSome_iff_exists.1 h
  rw [notify, hev]
  dsimp only
  split_ifs with hroom
  · exact ⟨hs, Or.inl (by simp)⟩
  · -- the event is dropped, and there are others
    refine ⟨hs, Or.inl fun hnil => hroom ?_⟩
    rw [hnil]
    decide

lemma Current.step (h : s.Current nodes) (op : LoopOp) (hop : op.isChange = false) :
    (s.step op).Current nodes := by
  cases op with
  | change list => cases hop
  | notify type node =>
    cases hev : node.event type with
    | some ev => exact current_notify (hev ▸ rfl) h.1
    | none => rwa [EventLoop.step, notify, hev]
  | advance =>
    rw [EventLoop.step, advance]
    cases hstage : s.stage with
    | waiting =>
      cases s.events with
      | nil => exact h
      | cons ev evs => exact ⟨h.1, Or.inr trivial⟩
    | handled => exact ⟨h.1, Or.inr h.1⟩
    | read nodes' =>
      rw [Current, hstage] at h
      refine ⟨h.1, h.2.imp_right ?_⟩
      rintro rfl
      rfl

lemma pending_advance (s : EventLoop H) : s.advance.pending = s.pending - 1 := by
  rw [advance]
  cases hstage : s.stage with
  | waiting =>
    cases hevents : s.events with
    | nil =>
      rw [pending, hstage, hevents]
      rfl
    | cons ev evs =>
      rw [pending, pending, hstage, hevents]
      rfl
  | handled | read nodes =>
    rw [pending, pending, hstage]
    rfl

lemma pending_iterate_advance (s : EventLoop H) (n : ℕ) :
    (advance^[n] s).pending = s.pending - n := by
  induction n with
  | zero => rfl
  | succ n ih => rw [Function.iterate_succ_apply', pending_advance, ih, Nat.sub_sub]

/-- **The ring follows the members.**  In every run in which the list of the members no longer
changes after a callback that has an event, also if this event is dropped: once the loop has gone
through what is in the channel, the ring is that of the members. -/
theorem ring_converges (s : EventLoop H) (type : EventType) (node : GossipNode)
    (hevent : (node.event type).isSome) (ops : List LoopOp)
    (hops : ∀ op ∈ ops, op.isChange = false) (n : ℕ)
    (hn : (ops.foldl step (s.notify type node)).pending ≤ n) :
    let t := advance^[n] (ops.foldl step (s.notify type node))
    t.stage = .waiting ∧ t.events = [] ∧ t.ring = t.ring.update s.members := by
  intro t
  have hrun : (ops.foldl step (s.notify type node)).Current s.members :=
    List.foldlRecOn ops _ (current_notify hevent rfl) fun _ h op hop => h.step op (hops op hop)
  have hcurrent : t.Current s.members :=
    Function.Iterate.rec (Current s.members) hrun (fun _ h => h.step .advance rfl) n
  have hpending : t.pending = 0 := (pending_iterate_advance _ n).trans (Nat.sub_eq_zero_of_le hn)
  obtain ⟨hevents, hstage⟩ := Nat.add_eq_zero_iff.1 hpending
  replace hevents : t.events = [] := List.length_eq_zero_iff.1 (by omega)
  replace hcurrent := hcurrent.2.resolve_left (not_not_intro hevents)
  cases hat : t.stage with
  | waiting =>
    rw [hat] at hcurrent
    exact ⟨rfl, hevents, hcurrent⟩
  | handled | read nodes =>
    rw [hat] at hstage
    cases hstage

/-- The node `a`, alone, with these events in the channel. -/
def alone (events : List MemberEvent) : EventLoop Hashring.inNameOrder where
  selfID := str "a"
  list := [⟨str "a", some (sampleNode "a")⟩]
  events
  stage := .waiting
  received := []
  transport := .new
  remoteSubs := .new
  connections := .new
  ring := .newRing _ 0

/-- The node `b` joins when the channel is full, and the event is dropped. -/
theorem ring_converges_full :
    let b : GossipNode := ⟨str "b", some (sampleNode "b")⟩
    let s := (alone (List.replicate 256 ⟨.nodeUpdate, sampleNode "a"⟩)).step
      (.change [b, ⟨str "a", some (sampleNode "a")⟩])
    (s.notify .nodeJoin b).events = s.events ∧ ∀ n ≥ (s.notify .nodeJoin b).pending,
      (advance^[n] (s.notify .nodeJoin b)).ring.nodes.lookup (str "b") = sampleNode "b" := by
  intro b s
  refine ⟨by decide +kernel, fun n hn => ?_⟩
  have hconverges := ring_converges s .nodeJoin b rfl [] nofun n
  rw [List.foldl_nil] at hconverges
  rw [(hconverges hn).2.2]
  change (nodesByID [sampleNode "b", sampleNode "a"]).lookup (str "b") = _
  decide

/-! ### The peers -/

/-- The peers come from the events that the loop has received. -/
def Replays (selfID : Str) (pt : PeerTransport) (s : EventLoop H) : Prop :=
  s.selfID = selfID ∧ s.transport = s.received.foldl (PeerTransport.handleEvent selfID) pt

lemma Replays.step {selfID : Str} {pt : PeerTransport} (h : s.Replays selfID pt) (op : LoopOp) :
    (s.step op).Replays selfID pt := by
  cases op with
  | change list => exact h
  | notify type node =>
    rw [EventLoop.step, notify]
    cases node.event type with
    | none => exact h
    | some ev =>
      dsimp only
      split_ifs <;> exact h
  | advance =>
    rw [EventLoop.step, advance]
    cases s.stage with
    | waiting =>
      cases s.events with
      | nil => exact h
      | cons ev evs =>
        refine ⟨h.1, ?_⟩
        rw [List.foldl_append, ← h.2, h.1]
        rfl
    | handled | read nodes => exact h

/-- **The peers follow the events.**  In every run of a node that begins without peers, another node
is a peer exactly if the loop has received an event that it joins, and none after this that it
leaves. -/
theorem isPeer_iff (s : EventLoop H) (hreceived : s.received = []) (ops : List LoopOp) (id : Str)
    (hid : id ≠ s.selfID) (hpeer : ¬ s.transport.IsPeer id) :
    let t := ops.foldl step s
    t.transport.IsPeer id ↔ ∃ before ev after, t.received = before ++ ev :: after ∧
      (ev.type = .nodeJoin ∧ ev.node.id = id) ∧
      ∀ ev' ∈ after, ¬ (ev'.type = .nodeLeave ∧ ev'.node.id = id) := by
  intro t
  have hreplays : t.Replays s.selfID s.transport :=
    List.foldlRecOn ops _ ⟨rfl, by rw [hreceived]; rfl⟩ fun _ h op _ => h.step op
  rw [hreplays.2]
  refine foldl_flag_iff ?_ ?_ ?_ hpeer _
  · rintro pt ⟨type, node⟩ ⟨rfl, rfl⟩
    rw [PeerTransport.handleEvent, if_pos hid, pt.isPeer_addPeer]
    exact Or.inl rfl
  · rintro pt ⟨type, node⟩ ⟨rfl, rfl⟩ h
    exact ((pt.isPeer_removePeer _ _).1 h).1 rfl
  · rintro pt ⟨type, node⟩ hjoin hleave
    rw [PeerTransport.handleEvent]
    cases type with
    | nodeJoin =>
      dsimp only
      split_ifs
      · rw [pt.isPeer_addPeer, or_iff_right fun heq => hjoin ⟨rfl, heq.symm⟩]
      · rfl
    | nodeLeave =>
      rw [pt.isPeer_removePeer, and_iff_right fun heq => hleave ⟨rfl, heq.symm⟩]
    | nodeUpdate => rfl

theorem isPeer_iff_join :
    let t := [.notify .nodeJoin ⟨str "b", some (sampleNode "b")⟩, .advance].foldl step (alone [])
    t.transport.IsPeer (str "b") :=
  (isPeer_iff (alone []) rfl _ (str "b") (by decide) nofun).2
    ⟨[], ⟨.nodeJoin, sampleNode "b"⟩, [], rfl, by decide, nofun⟩

end EventLoop

end Dmqtt.Cluster
