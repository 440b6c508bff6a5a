/-
The wills of the devices of a node that has left (`eventLoop` and `publishWillsForDeadNode` of
`cluster.go`, `NodeDevices` and `RemoveNode` of `connections.go`, the will publisher and the handler
of `MsgReplicateWill` of `broker.go`).

Each of the other nodes handles `NodeLeave` on its own: it takes the devices of the node from its
connection index, and a goroutine publishes the wills that it has of them.  A node that has
published a will marks and deletes its own copy only.  So a will is routed once for each node that
has a copy, whatever the order (`countP_routed_eq`).
-/
import Dmqtt.Cluster.Connections
import Dmqtt.Cluster.PeerTransport
import Dmqtt.Lib.Counting
import Dmqtt.Lib.NestedMap

namespace Dmqtt

open Lib Codec

namespace Broker.WillStore

variable (ws : WillStore)

/-- The will of a client. -/
def get (clientID : Str) : Option WillMessage := ws.wills.lookup clientID

/-- Mark the will of a client as published. -/
def markPublished (clientID : Str) : WillStore :=
  { ws with published := ws.published.insert clientID () }

/-- The will of a client is marked as published. -/
def isPublished (clientID : Str) : Bool := (ws.published.lookup clientID).isSome

/-- There is a will to publish for a client. -/
def holds (clientID : Str) : Bool := (ws.get clientID).isSome && !ws.isPublished clientID

lemma holds_set_self (clientID : Str) (will : WillMessage) :
    (ws.set clientID will).holds clientID = true := by
  have hmark : (ws.published.erase clientID).lookup clientID = none := AList.lookup_erase _ _
  rw [holds, get, lookup_wills_set, if_pos rfl, isPublished, set, hmark]
  rfl

lemma holds_delete_markPublished (clientID d : Str) :
    ((ws.markPublished clientID).delete clientID).holds d =
      if d = clientID then false else ws.holds d := by
  rw [holds, get, lookup_wills_delete]
  split_ifs with h
  · rfl
  · have hmark : ((ws.published.insert clientID ()).erase clientID).lookup d =
        ws.published.lookup d := by
      rw [AList.lookup_erase_ne h, AList.lookup_insert_ne h]
    rw [holds, isPublished, delete, markPublished, hmark]
    rfl

end Broker.WillStore

namespace Broker.BrokerState

variable {σ ε ρ : Type} (cfg : Config σ ε ρ) (b : BrokerState σ ρ)

/-- The handler of `MsgReplicateWill`. -/
def handleReplicateWill (clientID : Str) (will : WillMessage) : BrokerState σ ρ :=
  { b with willStore := b.willStore.map fun ws => ws.set clientID will }

/-- The will publisher, with the will that it routes. -/
def willPublisher (clientID : Str) (now : ℤ) : Option WillMessage × BrokerState σ ρ :=
  match b.willStore with
  | none => (none, b)
  | some ws =>
    match ws.get clientID with
    | none => (none, b)
    | some will =>
      if ws.isPublished clientID then (none, b)
      else
        let b := { b with willStore := some (ws.markPublished clientID) }
        let b := if will.retain then b.retainSet will.topic will.payload will.qos else b
        let b := b.routeMessage cfg will.topic will.payload will.qos false false now
        (some will, { b with willStore := b.willStore.map fun ws => ws.delete clientID })

/-- The broker has a will to publish for a client. -/
def holdsWill (clientID : Str) : Bool := b.willStore.any fun ws => ws.holds clientID

lemma willStore_routeMessage (topic : Str) (payload : Bytes) (qos : UInt8)
    (retain forwarded : Bool) (now : ℤ) :
    (b.routeMessage cfg topic payload qos retain forwarded now).willStore = b.willStore :=
  congrArg (fun b => b.willStore)
    (b.unrouted_routeMessage cfg topic payload qos retain forwarded now)

/-- The publisher routes the will that the broker has, and no longer has it then. -/
lemma willPublisher_spec (clientID : Str) (now : ℤ) :
    (b.holdsWill clientID = false ∧ b.willPublisher cfg clientID now = (none, b)) ∨
    ∃ ws will, b.willStore = some ws ∧ ws.get clientID = some will ∧
      b.holdsWill clientID = true ∧ (b.willPublisher cfg clientID now).1 = some will ∧
      (b.willPublisher cfg clientID now).2.willStore =
        some ((ws.markPublished clientID).delete clientID) := by
  rw [willPublisher, holdsWill]
  cases hws : b.willStore with
  | none => exact Or.inl ⟨rfl, rfl⟩
  | some ws =>
    dsimp only
    rw [Option.any_some, WillStore.holds]
    cases hget : ws.get clientID with
    | none => exact Or.inl ⟨rfl, rfl⟩
    | some will =>
      dsimp only
      cases hpub : ws.isPublished clientID with
      | true => exact Or.inl ⟨rfl, rfl⟩
      | false =>
        refine Or.inr ⟨ws, will, rfl, hget, rfl, rfl, ?_⟩
        rw [if_neg Bool.false_ne_true, willStore_routeMessage]
        split_ifs <;> rfl

lemma holdsWill_willPublisher (clientID : Str) (now : ℤ) (d : Str) :
    (b.willPublisher cfg clientID now).2.holdsWill d =
      if d = clientID then false else b.holdsWill d := by
  rcases b.willPublisher_spec cfg clientID now with
    ⟨hholds, hout⟩ | ⟨ws, will, hws, -, -, -, hstore⟩
  · rw [hout]
    split_ifs with hd
    · rw [hd, hholds]
    · rfl
  · rw [holdsWill, hstore, holdsWill, hws]
    exact ws.holds_delete_markPublished clientID d

end Broker.BrokerState

namespace Cluster

open Broker

/-! ### The connection index -/

namespace ConnectionIndex

variable (idx : ConnectionIndex)

/-- The devices that are connected to a node. -/
def nodeDevices (nodeID : Str) : List Str := ((idx.byNode.lookup nodeID).getD ∅).keys

/-- Remove all devices of a node. -/
def removeNode (nodeID : Str) : ConnectionIndex :=
  match idx.byNode.lookup nodeID with
  | none => idx
  | some devs =>
    { idx with
      devices := devs.keys.foldl (fun devices deviceID => devices.erase deviceID) idx.devices
      byNode := idx.byNode.erase nodeID }

/-- Every device is listed for the node that it is connected to. -/
def Listed : Prop := ∀ d n, idx.lookup d = some n → d ∈ idx.nodeDevices n

variable {idx}

lemma listed_new : new.Listed := fun d n h => by cases h

lemma takeFrom_eq_delete (byNode : GoMap Str (GoMap Str Unit)) (nodeID deviceID : Str) :
    takeFrom byNode nodeID deviceID = NestedMap.delete byNode nodeID deviceID := by
  rw [takeFrom, NestedMap.delete]
  cases byNode.lookup nodeID with
  | none => rfl
  | some devs => simp only [List.isEmpty_iff]

lemma mem_nodeDevices_iff {n d : Str} :
    d ∈ idx.nodeDevices n ↔ (NestedMap.get idx.byNode n d).isSome := by
  rw [nodeDevices, ← AList.mem_keys, ← AList.lookup_isSome, NestedMap.get_eq_getD]

lemma mem_nodeDevices_takeFrom {d deviceID n prev : Str} (hne : d ≠ deviceID)
    (h : d ∈ idx.nodeDevices n) :
    d ∈ nodeDevices { idx with byNode := takeFrom idx.byNode prev deviceID } n := by
  rw [mem_nodeDevices_iff, takeFrom_eq_delete, NestedMap.get_delete, if_neg fun heq => hne heq.2]
  exact mem_nodeDevices_iff.1 h

/-- The sets of the nodes in `Add`, when the device has been taken from its old node. -/
def withoutOld (idx : ConnectionIndex) (deviceID nodeID : Str) : GoMap Str (GoMap Str Unit) :=
  match idx.devices.lookup deviceID with
  | none => idx.byNode
  | some prev => if prev ≠ nodeID then takeFrom idx.byNode prev deviceID else idx.byNode

lemma byNode_add (deviceID nodeID : Str) :
    (idx.add deviceID nodeID).byNode = (idx.withoutOld deviceID nodeID).insert nodeID
      ((((idx.withoutOld deviceID nodeID).lookup nodeID).getD ∅).insert deviceID ()) := rfl

lemma mem_nodeDevices_withoutOld {d deviceID n : Str} (hne : d ≠ deviceID)
    (h : d ∈ idx.nodeDevices n) (nodeID : Str) :
    d ∈ (((idx.withoutOld deviceID nodeID).lookup n).getD ∅).keys := by
  rw [withoutOld]
  cases idx.devices.lookup deviceID with
  | none => exact h
  | some prev =>
    dsimp only
    split_ifs
    · exact mem_nodeDevices_takeFrom hne h
    · exact h

lemma Listed.add (h : idx.Listed) (deviceID nodeID : Str) : (idx.add deviceID nodeID).Listed := by
  intro d n hd
  rw [lookup_add] at hd
  rw [nodeDevices, byNode_add]
  split_ifs at hd with hdev
  · obtain rfl := Option.some_injective _ hd
    rw [hdev, AList.lookup_insert]
    exact AList.mem_keys.1 ((AList.mem_insert _).2 (Or.inl rfl))
  · have hmem := mem_nodeDevices_withoutOld hdev (h d n hd) nodeID
    by_cases hn : n = nodeID
    · rw [hn] at hmem ⊢
      rw [AList.lookup_insert]
      exact AList.mem_keys.1 ((AList.mem_insert _).2 (Or.inr (AList.mem_keys.2 hmem)))
    · rw [AList.lookup_insert_ne hn]
      exact hmem

lemma Listed.remove (h : idx.Listed) (deviceID : Str) : (idx.remove deviceID).Listed := by
  intro d n hd
  rw [lookup_remove] at hd
  split_ifs at hd with hne
  rw [ConnectionIndex.remove]
  cases idx.devices.lookup deviceID with
  | none => exact h d n hd
  | some nodeID => exact mem_nodeDevices_takeFrom hne (h d n hd)

/-- Every index that the broadcasts lead to lists its devices. -/
lemma listed_foldl_handleConnBroadcast (msgs : List ConnBroadcast) :
    (msgs.foldl handleConnBroadcast new).Listed := by
  refine List.foldlRecOn msgs _ listed_new fun idx h msg _ => ?_
  rw [handleConnBroadcast]
  cases msg.change with
  | conn => exact h.add _ _
  | disconn => exact h.remove _

lemma Listed.removeNode (h : idx.Listed) (nodeID : Str) : (idx.removeNode nodeID).Listed := by
  intro d n hd
  rw [ConnectionIndex.removeNode] at hd ⊢
  cases hdevs : idx.byNode.lookup nodeID with
  | none =>
    rw [hdevs] at hd
    exact h d n hd
  | some devs =>
    rw [hdevs, lookup] at hd
    rw [GoMap.lookup_foldl_erase] at hd
    split_ifs at hd with hmem
    have hlisted := h d n hd
    rw [nodeDevices] at hlisted ⊢
    -- the devices of the node are all gone
    have hn : n ≠ nodeID := by
      rintro rfl
      rw [hdevs] at hlisted
      exact hmem hlisted
    rw [AList.lookup_erase_ne hn]
    exact hlisted

end ConnectionIndex

/-! ### The nodes that are left -/

/-- A node when another one leaves: its connection index and its broker, whether it has handled
`NodeLeave`, and the devices that its goroutine has not come to. -/
structure Survivor (σ ρ : Type) where
  connections : ConnectionIndex
  listed : connections.Listed
  broker : BrokerState σ ρ
  handled : Bool
  devices : List Str

/-- The nodes that are left by `nodeID`, and the wills that they have routed: the node, the client,
and the will. -/
structure DeadNode (σ ρ : Type) where
  nodeID : Str
  survivors : List (Survivor σ ρ)
  routed : List (ℕ × Str × WillMessage)

/-- What happens on one of the nodes: it handles `NodeLeave`, its goroutine goes on to the next
device, or it routes a message that another node has forwarded. -/
inductive DeadNodeOp
  | leave (i : ℕ)
  | publish (i : ℕ) (now : ℤ)
  | forward (i : ℕ) (msg : ForwardMessage) (now : ℤ)

namespace DeadNode

variable {σ ε ρ : Type} (cfg : Config σ ε ρ) (s : DeadNode σ ρ)

/-- The nodes after an operation. -/
def step : DeadNodeOp → DeadNode σ ρ
  | .leave i =>
    match s.survivors[i]? with
    | some ⟨connections, listed, broker, false, _⟩ =>
      let x : Survivor σ ρ :=
        { connections := connections.removeNode s.nodeID
          listed := listed.removeNode s.nodeID
          broker := broker
          handled := true
          devices := connections.nodeDevices s.nodeID }
      { s with survivors := s.survivors.set i x }
    | _ => s
  | .publish i now =>
    match s.survivors[i]? with
    | some ⟨connections, listed, broker, true, deviceID :: devices⟩ =>
      let out := broker.willPublisher cfg deviceID now
      { s with
        survivors := s.survivors.set i ⟨connections, listed, out.2, true, devices⟩
        routed := s.routed ++ out.1.toList.map (i, deviceID, ·) }
    | _ => s
  | .forward i msg now =>
    match s.survivors[i]? with
    | some x =>
      let b := x.broker.routeMessage cfg msg.topic msg.payload msg.qos msg.retain true now
      { s with survivors := s.survivors.set i { x with broker := b } }
    | none => s

/-- All nodes have handled `NodeLeave`, and their goroutines have come to the end. -/
def Finished : Prop := ∀ x ∈ s.survivors, x.handled = true ∧ x.devices = []

instance : Decidable s.Finished :=
  inferInstanceAs (Decidable (∀ x ∈ s.survivors, x.handled = true ∧ x.devices = []))

/-- The node is going to route the will of a client. -/
def pending (d : Str) (x : Survivor σ ρ) : Bool :=
  x.broker.holdsWill d && (!x.handled || x.devices.contains d)

lemma pending_eq (d : Str) (x : Survivor σ ρ) :
    pending d x = (x.broker.holdsWill d && (!x.handled || decide (d ∈ x.devices))) := by
  rw [pending, List.contains_eq_mem]

/-- A node that has not handled `NodeLeave` has the client in its index, and whatever will a node
has for the client, or has routed for it, is `will`. -/
structure Valid (d : Str) (will : WillMessage) (s : DeadNode σ ρ) : Prop where
  connected : ∀ x ∈ s.survivors, x.handled = false → x.connections.lookup d = some s.nodeID
  wills : ∀ x ∈ s.survivors, ∀ ws ∈ x.broker.willStore, ∀ w ∈ ws.get d, w = will
  routed : ∀ r ∈ s.routed, r.2.1 = d → r.2.2 = will

variable {s} {d : Str} {will : WillMessage}

lemma Valid.set (h : s.Valid d will) {i : ℕ} {x : Survivor σ ρ}
    (hconnected : x.handled = false → x.connections.lookup d = some s.nodeID)
    (hwills : ∀ ws ∈ x.broker.willStore, ∀ w ∈ ws.get d, w = will)
    {routed : List (ℕ × Str × WillMessage)} (hrouted : ∀ r ∈ routed, r.2.1 = d → r.2.2 = will) :
    Valid d will { s with survivors := s.survivors.set i x, routed := routed } where
  connected y hy := by
    rcases List.mem_or_eq_of_mem_set hy with hy | rfl
    · exact h.connected y hy
    · exact hconnected
  wills y hy := by
    rcases List.mem_or_eq_of_mem_set hy with hy | rfl
    · exact h.wills y hy
    · exact hwills
  routed := hrouted

/-- What was routed for a client and what is going to be. -/
def total (d : Str) (s : DeadNode σ ρ) : ℕ :=
  s.routed.countP (fun r => r.2.1 = d) + s.survivors.countP (pending d)

lemma total_set {i : ℕ} {x y : Survivor σ ρ} (hi : s.survivors[i]? = some x)
    {routed : List (ℕ × Str × WillMessage)}
    (h : routed.countP (fun r => r.2.1 = d) + (if pending d y then 1 else 0) =
      s.routed.countP (fun r => r.2.1 = d) + if pending d x then 1 else 0) :
    total d { s with survivors := s.survivors.set i y, routed := routed } = s.total d := by
  have hset := countP_set_add (pending d) hi y
  rw [total, total]
  dsimp only
  omega

/-- The goroutine of a node goes on to the next device. -/
lemma Valid.publish (h : s.Valid d will) {i : ℕ} {connections : ConnectionIndex}
    {listed : connections.Listed} {broker : BrokerState σ ρ} {deviceID : Str} {devices : List Str}
    (hi : s.survivors[i]? = some ⟨connections, listed, broker, true, deviceID :: devices⟩)
    (now : ℤ) :
    let out := broker.willPublisher cfg deviceID now
    let s' : DeadNode σ ρ := { s with
      survivors := s.survivors.set i ⟨connections, listed, out.2, true, devices⟩
      routed := s.routed ++ out.1.toList.map (i, deviceID, ·) }
    s'.Valid d will ∧ s'.total d = s.total d := by
  intro out s'
  have hwills := h.wills _ (List.mem_of_getElem? hi)
  have hafter : out.2.holdsWill d = if d = deviceID then false else broker.holdsWill d :=
    broker.holdsWill_willPublisher cfg deviceID now d
  rcases broker.willPublisher_spec cfg deviceID now with
    ⟨hholds, hout⟩ | ⟨ws, w, hws, hget, hholds, hout, hstore⟩
  · have hnone : s.routed ++ out.1.toList.map (i, deviceID, ·) = s.routed := by
      rw [show out.1 = none from congrArg Prod.fst hout, Option.toList_none, List.map_nil,
        List.append_nil]
    refine ⟨h.set ?_ ?_ ?_, total_set hi ?_⟩
    · exact fun hfalse => nomatch hfalse
    · rw [show out.2 = broker from congrArg Prod.snd hout]
      exact hwills
    · rw [hnone]
      exact h.routed
    · rw [hnone, pending_eq, pending_eq]
      rw [hafter]
      by_cases hd : d = deviceID
      · simp [hd, hholds]
      · simp [hd]
  · have hsome : s.routed ++ out.1.toList.map (i, deviceID, ·) =
        s.routed ++ [(i, deviceID, w)] := by
      rw [show out.1 = some w from hout, Option.toList_some, List.map_singleton]
    refine ⟨h.set ?_ ?_ ?_, total_set hi ?_⟩
    · exact fun hfalse => nomatch hfalse
    · intro ws' hws' w' hw'
      obtain rfl : (ws.markPublished deviceID).delete deviceID = ws' :=
        Option.some_injective _ (hstore.symm.trans hws')
      rw [WillStore.get, WillStore.lookup_wills_delete] at hw'
      split_ifs at hw'
      · cases hw'
      · exact hwills ws hws w' hw'
    · rw [hsome]
      intro r hr hd
      rcases List.mem_append.1 hr with hr | hr
      · exact h.routed r hr hd
      · rw [List.mem_singleton.1 hr] at hd ⊢
        exact hwills ws hws w (hd ▸ hget)
    · rw [hsome, List.countP_append, List.countP_singleton, pending_eq, pending_eq]
      rw [hafter]
      by_cases hd : d = deviceID
      · simp [hd, hholds]
      · simp [hd, Ne.symm hd]

/-- Every step keeps the sum of what was routed and what is going to be. -/
lemma Valid.step (h : s.Valid d will) (o : DeadNodeOp) :
    (s.step cfg o).Valid d will ∧ (s.step cfg o).total d = s.total d := by
  cases o with
  | leave i =>
    rw [DeadNode.step]
    split
    next connections listed broker devices hi =>
      have hmem := List.mem_of_getElem? hi
      have hdev : d ∈ connections.nodeDevices s.nodeID :=
        listed d s.nodeID (h.connected _ hmem rfl)
      have hwills := h.wills _ hmem
      refine ⟨h.set ?_ ?_ h.routed, total_set hi ?_⟩
      · exact fun hfalse => nomatch hfalse
      · exact hwills
      · simp [pending_eq, hdev]
    next => exact ⟨h, rfl⟩
  | publish i now =>
    rw [DeadNode.step]
    split
    next hi => exact h.publish cfg hi now
    next => exact ⟨h, rfl⟩
  | forward i msg now =>
    rw [DeadNode.step]
    cases hi : s.survivors[i]? with
    | none => exact ⟨h, rfl⟩
    | some x =>
      have hmem := List.mem_of_getElem? hi
      have hstore := x.broker.willStore_routeMessage cfg msg.topic msg.payload msg.qos
        msg.retain true now
      have hconnected := h.connected x hmem
      refine ⟨h.set ?_ ?_ h.routed, total_set hi ?_⟩
      · exact hconnected
      · rw [hstore]
        exact h.wills x hmem
      · rw [pending_eq, pending_eq, BrokerState.holdsWill, BrokerState.holdsWill, hstore]

lemma Valid.foldl_step (h : s.Valid d will) (os : List DeadNodeOp) :
    (os.foldl (DeadNode.step cfg) s).Valid d will ∧
      (os.foldl (DeadNode.step cfg) s).total d = s.total d := by
  induction os generalizing s with
  | nil => exact ⟨h, rfl⟩
  | cons o os ih =>
    obtain ⟨hstep, htotal⟩ := h.step cfg o
    obtain ⟨hend, htotal'⟩ := ih hstep
    exact ⟨hend, htotal'.trans htotal⟩

/-- At the end the will was routed once for each node that had it. -/
lemma Valid.countP_routed_eq (h : s.Valid d will) {os : List DeadNodeOp}
    (hdone : (os.foldl (DeadNode.step cfg) s).Finished) :
    (os.foldl (DeadNode.step cfg) s).routed.countP (fun r => r.2.1 = d) = s.total d := by
  have hpending : (os.foldl (DeadNode.step cfg) s).survivors.countP (pending d) = 0 := by
    refine List.countP_eq_zero.2 fun x hx => ?_
    obtain ⟨hhandled, hdevices⟩ := hdone x hx
    simp [pending_eq, hhandled, hdevices]
  rw [← (h.foldl_step cfg os).2, total, hpending, Nat.add_zero]

/-! ### The wills are replicated, and the node leaves -/

/-- The nodes that are left, after the will of a client was replicated to some of them. -/
def start (nodeID d : Str) (will : WillMessage) (survivors : List (Survivor σ ρ × Bool)) :
    DeadNode σ ρ where
  nodeID := nodeID
  survivors := survivors.map fun x =>
    if x.2 then { x.1 with broker := x.1.broker.handleReplicateWill d will } else x.1
  routed := []

/-- A node that has the client in its index, and a will store without a will of the client. -/
structure Ready (nodeID d : Str) (x : Survivor σ ρ) : Prop where
  handled : x.handled = false
  connected : x.connections.lookup d = some nodeID
  noWill : ∃ ws, x.broker.willStore = some ws ∧ ws.get d = none

variable {nodeID : Str} {survivors : List (Survivor σ ρ × Bool)}

lemma valid_start (h : ∀ x ∈ survivors, Ready nodeID d x.1) :
    (start nodeID d will survivors).Valid d will where
  connected y hy hhandled := by
    obtain ⟨x, hx, rfl⟩ := List.mem_map.1 hy
    have hready := (h x hx).connected
    split_ifs <;> exact hready
  wills y hy ws hws w hw := by
    obtain ⟨x, hx, rfl⟩ := List.mem_map.1 hy
    obtain ⟨ws₀, hws₀, hnone⟩ := (h x hx).noWill
    split_ifs at hws with hr
    · rw [BrokerState.handleReplicateWill, hws₀] at hws
      obtain rfl := Option.some_injective _ hws
      rw [WillStore.get, WillStore.lookup_wills_set, if_pos rfl] at hw
      exact (Option.some_injective _ hw).symm
    · rw [hws₀] at hws
      obtain rfl := Option.some_injective _ hws
      rw [hnone] at hw
      cases hw
  routed r hr := absurd hr List.not_mem_nil

lemma total_start (h : ∀ x ∈ survivors, Ready nodeID d x.1) :
    (start nodeID d will survivors).total d = survivors.countP Prod.snd := by
  rw [total, start, List.countP_nil, Nat.zero_add, List.countP_map]
  refine List.countP_congr fun x hx => ?_
  obtain ⟨hhandled, -, ws, hws, hnone⟩ := h x hx
  rw [Function.comp_apply, pending_eq]
  cases hr : x.2 with
  | true =>
    simp [hhandled, BrokerState.holdsWill, BrokerState.handleReplicateWill, hws,
      WillStore.holds_set_self]
  | false => simp [BrokerState.holdsWill, hws, WillStore.holds, hnone]

/-- The will of a device of a node that has left, replicated to some of the other nodes, is routed
exactly once, whatever the order, if and only if it was replicated to exactly one of them.  What is
routed for the device is its will. -/
theorem will_routed_once_iff (cfg : Config σ ε ρ) (nodeID d : Str) (will : WillMessage)
    (survivors : List (Survivor σ ρ × Bool)) (h : ∀ x ∈ survivors, Ready nodeID d x.1)
    (os : List DeadNodeOp)
    (hdone : (os.foldl (DeadNode.step cfg) (start nodeID d will survivors)).Finished) :
    let s := os.foldl (DeadNode.step cfg) (start nodeID d will survivors)
    (s.routed.countP (fun r => r.2.1 = d) = 1 ↔ survivors.countP Prod.snd = 1) ∧
      ∀ r ∈ s.routed, r.2.1 = d → r.2.2 = will := by
  have hvalid : (start nodeID d will survivors).Valid d will := valid_start h
  refine ⟨?_, (hvalid.foldl_step cfg os).1.routed⟩
  rw [hvalid.countP_routed_eq cfg hdone, total_start h]

/-- A node that has the device `d` at the node `n`, and a will store. -/
def sampleSurvivor : Survivor Unit Unit where
  connections := ConnectionIndex.new.add (str "d") (str "n")
  listed := ConnectionIndex.listed_new.add _ _
  broker := { BrokerState.new () none with willStore := some ⟨∅, ∅, ∅⟩ }
  handled := false
  devices := []

lemma ready_sampleSurvivor : Ready (str "n") (str "d") sampleSurvivor :=
  ⟨rfl, rfl, _, rfl, rfl⟩

def sampleWill : WillMessage := ⟨str "w", [1], 0, false⟩

/-- Both nodes handle `NodeLeave`, and then their goroutines run. -/
def leavingRun : List DeadNodeOp := [.leave 0, .leave 1, .publish 1 1, .publish 0 1]

/-- Of two nodes, the first one has the will. -/
theorem will_routed_once_iff_one :
    let s := leavingRun.foldl (DeadNode.step BrokerState.plainConfig)
      (start (str "n") (str "d") sampleWill [(sampleSurvivor, true), (sampleSurvivor, false)])
    s.routed.countP (fun r => r.2.1 = str "d") = 1 ∧
      ∀ r ∈ s.routed, r.2.1 = str "d" → r.2.2 = sampleWill := by
  have honce := will_routed_once_iff BrokerState.plainConfig (str "n") (str "d") sampleWill
    [(sampleSurvivor, true), (sampleSurvivor, false)] (by simp [ready_sampleSurvivor]) leavingRun
    (by decide)
  exact ⟨honce.1.2 rfl, honce.2⟩

/-- Two nodes have the will, and both route it. -/
theorem will_routed_twice :
    let survivors := [(sampleSurvivor, true), (sampleSurvivor, true)]
    let s := leavingRun.foldl (DeadNode.step BrokerState.plainConfig)
      (start (str "n") (str "d") sampleWill survivors)
    (∀ x ∈ survivors, Ready (str "n") (str "d") x.1) ∧ s.Finished ∧
      s.routed = [(1, str "d", sampleWill), (0, str "d", sampleWill)] ∧
      s.routed.countP (fun r => r.2.1 = str "d") ≠ 1 := by
  refine ⟨by simp [ready_sampleSurvivor], by decide, by decide, by decide⟩

end DeadNode

end Cluster

end Dmqtt
