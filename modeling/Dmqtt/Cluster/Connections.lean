/-
Which node a device is connected to (`internal/cluster/gossip_broadcast.go`, `connections.go` and
the broadcasts of `cluster.go`).

A node broadcasts the device IDs that connect to it and those whose connections end; when another
node joins, it repeats those that are connected.  A node that handles a `conn` broadcast records the
sender in its index and disconnects the device if it has it; on a `disconn` broadcast it removes
the device from the index, whoever the sender is.  The broadcasts carry no time.

`lookup_eq_some_iff` says when the index of a node names the node of the newest connection of a
device, and `newest_kept_iff` when the broadcasts leave this connection alone.
-/
import Dmqtt.Broker.Simultaneous
import Dmqtt.Cluster.Executor

namespace Dmqtt.Cluster

open Lib Codec Plugin Broker

/-- What a broadcast on a connection says. -/
inductive ConnChange
  | conn
  | disconn
deriving DecidableEq

/-- A gossip message on a connection. -/
structure ConnBroadcast where
  change : ConnChange
  nodeID : Str
  deviceID : Str
deriving DecidableEq

namespace ConnectionIndex

variable (idx : ConnectionIndex)

/-- Take a device from the set of a node, and the set away when it is empty. -/
def takeFrom (byNode : GoMap Str (GoMap Str Unit)) (nodeID deviceID : Str) :
    GoMap Str (GoMap Str Unit) :=
  match byNode.lookup nodeID with
  | none => byNode
  | some devs =>
    if (devs.erase deviceID).entries.isEmpty then byNode.erase nodeID
    else byNode.insert nodeID (devs.erase deviceID)

/-- Record that a device is connected to a node, and no longer to another one. -/
def add (deviceID nodeID : Str) : ConnectionIndex :=
  let byNode := match idx.devices.lookup deviceID with
    | none => idx.byNode
    | some prev => if prev ≠ nodeID then takeFrom idx.byNode prev deviceID else idx.byNode
  { idx with
    devices := idx.devices.insert deviceID nodeID
    byNode := byNode.insert nodeID (((byNode.lookup nodeID).getD ∅).insert deviceID ()) }

/-- The node to which a device is connected. -/
def lookup (deviceID : Str) : Option Str := idx.devices.lookup deviceID

/-- Handle a broadcast. -/
def handleConnBroadcast (msg : ConnBroadcast) : ConnectionIndex :=
  match msg.change with
  | .conn => idx.add msg.deviceID msg.nodeID
  | .disconn => idx.remove msg.deviceID

lemma lookup_add (deviceID nodeID d : Str) :
    (idx.add deviceID nodeID).lookup d = if d = deviceID then some nodeID else idx.lookup d := by
  exact GoMap.lookup_insert_eq ..

lemma lookup_remove (deviceID d : Str) :
    (idx.remove deviceID).lookup d = if d = deviceID then none else idx.lookup d := by
  rw [lookup, remove]
  cases hl : idx.devices.lookup deviceID with
  | none =>
    split_ifs with h
    · rw [h, hl]
    · rfl
  | some nodeID =>
    exact GoMap.lookup_erase_eq ..

/-- A broadcast about another device changes nothing for this one. -/
lemma lookup_handleConnBroadcast (msg : ConnBroadcast) (d : Str) :
    (idx.handleConnBroadcast msg).lookup d =
      if d = msg.deviceID then
        match msg.change with
        | .conn => some msg.nodeID
        | .disconn => none
      else idx.lookup d := by
  rw [handleConnBroadcast]
  cases msg.change with
  | conn => exact lookup_add ..
  | disconn => exact lookup_remove ..

end ConnectionIndex

/-! ### Nodes -/

/-- A broadcast that a node has handled, with its sender and its number there. -/
structure Handled where
  sender : Str
  number : ℕ
  msg : ConnBroadcast
deriving DecidableEq

/-- A node of the cluster: its broker, its index, the broadcasts that it has queued so far, and
those that it has handled. -/
structure Member (σ ρ : Type) where
  broker : BrokerState σ ρ
  connections : ConnectionIndex
  broadcasts : List ConnBroadcast
  handled : List Handled

namespace Member

open BrokerState

variable {σ ε ρ : Type} (cfg : Config σ ε ρ) (selfID : Str) (m : Member σ ρ)

/-- The device ID that an operation makes the broker broadcast: `handleConnect` broadcasts after
`registerClient`, and `close` after `unregisterClient`. -/
def announced : Op → Option (ConnChange × Str)
  | .connect c pkt _ =>
    if admits cfg pkt then some (.conn, effectiveClientID cfg c pkt) else none
  | .close c _ =>
    match m.broker.conns.lookup c with
    | none => none
    | some client =>
      if client.closed ∨ client.clientID = [] then none else some (.disconn, client.clientID)
  | _ => none

/-- The connection of the operation is there, and the one that is accepted is not there yet. -/
def possible : Op → Bool
  | .accept c => (m.broker.conns.lookup c).isNone
  | .connect c _ _ => (m.broker.conns.lookup c).isSome
  | _ => true

/-- An operation of the broker. -/
def perform (op : Op) : Member σ ρ :=
  { m with
    broker := m.broker.step cfg op
    broadcasts := m.broadcasts ++
      ((m.announced cfg op).map fun x => ⟨x.1, selfID, x.2⟩).toList }

/-- Handle a broadcast of another node. -/
def handleBroadcastMsg (msg : ConnBroadcast) : Member σ ρ :=
  { m with
    connections := m.connections.handleConnBroadcast msg
    broker := match msg.change with
      | .conn => m.broker.disconnectExisting msg.deviceID
      | .disconn => m.broker }

/-- Another node has joined: repeat the connections. -/
def rebroadcastLocalConnections : Member σ ρ :=
  { m with broadcasts := m.broadcasts ++ m.broker.clients.keys.map fun d => ⟨.conn, selfID, d⟩ }

end Member

/-- A connection of the device: its node, its number there, and the number of the broadcast that
announced it. -/
structure Newest where
  node : Str
  conn : ℕ
  number : ℕ
deriving DecidableEq

/-- The nodes of the cluster, and the newest connection of the device unless it has ended. -/
structure Members (σ ρ : Type) where
  member : Str → Member σ ρ
  newest : Option Newest

/-- What happens in the cluster: something at a broker, a node handles a broadcast of another one,
or a node learns that another one has joined. -/
inductive ClusterOp
  | op (node : Str) (op : Op)
  | handle (node sender : Str) (number : ℕ)
  | join (node : Str)

/-- A node learns that another one has joined. -/
def ClusterOp.isJoin : ClusterOp → Bool
  | .join _ => true
  | _ => false

namespace Members

open BrokerState

variable {σ ε ρ : Type} (cfg : Config σ ε ρ) (d : Str) (s : Members σ ρ)

/-- The newest connection of the device after an operation at a node. -/
def newestAfter (node : Str) : Op → Option Newest
  | .connect c pkt _ =>
    if admits cfg pkt = true ∧ effectiveClientID cfg c pkt = d then
      some ⟨node, c, (s.member node).broadcasts.length⟩
    else s.newest
  | .close c _ => s.newest.filter fun x => ¬ (x.node = node ∧ x.conn = c)
  | _ => s.newest

/-- Change a node. -/
def modify (node : Str) (m : Member σ ρ) : Members σ ρ :=
  { s with member := Function.update s.member node m }

/-- One step.  A step that is not possible in the state changes nothing, and a node ignores its own
broadcasts. -/
def step : ClusterOp → Members σ ρ
  | .op node op =>
    if (s.member node).possible op then
      { s.modify node ((s.member node).perform cfg node op) with
        newest := s.newestAfter cfg d node op }
    else s
  | .handle node sender number =>
    match (s.member sender).broadcasts[number]? with
    | none => s
    | some msg =>
      if msg.nodeID = node then s
      else
        s.modify node { (s.member node).handleBroadcastMsg msg with
          handled := (s.member node).handled ++ [⟨sender, number, msg⟩] }
  | .join node => s.modify node ((s.member node).rebroadcastLocalConnections node)

/-- The cluster before anything has happened. -/
def init (brokers : Str → BrokerState σ ρ) : Members σ ρ :=
  ⟨fun node => ⟨brokers node, .new, [], []⟩, none⟩

/-- A run. -/
def run (ops : List ClusterOp) : Members σ ρ := ops.foldl (step cfg d) s

variable {s}

lemma member_modify (node node' : Str) (m : Member σ ρ) :
    (s.modify node m).member node' = if node' = node then m else s.member node' :=
  Function.update_apply ..

/-- What a step can do. -/
lemma step_cases (o : ClusterOp) :
    s.step cfg d o = s ∨
    (∃ node op, o = .op node op ∧ (s.member node).possible op = true ∧
      s.step cfg d o = { s.modify node ((s.member node).perform cfg node op) with
        newest := s.newestAfter cfg d node op }) ∨
    (∃ node sender number msg, o = .handle node sender number ∧
      (s.member sender).broadcasts[number]? = some msg ∧ msg.nodeID ≠ node ∧
      s.step cfg d o = s.modify node { (s.member node).handleBroadcastMsg msg with
        handled := (s.member node).handled ++ [⟨sender, number, msg⟩] }) ∨
    ∃ node, o = .join node ∧
      s.step cfg d o = s.modify node ((s.member node).rebroadcastLocalConnections node) := by
  cases o with
  | op node op =>
    rw [step]
    split_ifs with h
    · exact Or.inr (Or.inl ⟨node, op, rfl, h, rfl⟩)
    · exact Or.inl rfl
  | handle node sender number =>
    rw [step]
    cases hmsg : (s.member sender).broadcasts[number]? with
    | none => exact Or.inl rfl
    | some msg =>
      dsimp only
      split_ifs with h
      · exact Or.inl rfl
      · exact Or.inr (Or.inr (Or.inl ⟨node, sender, number, msg, rfl, hmsg, h, rfl⟩))
  | join node => exact Or.inr (Or.inr (Or.inr ⟨node, rfl, rfl⟩))

/-! ### The index and what was handled -/

/-- The node of the device after a broadcast was handled. -/
def note (d : Str) (node : Option Str) (x : Handled) : Option Str :=
  if d = x.msg.deviceID then
    match x.msg.change with
    | .conn => some x.msg.nodeID
    | .disconn => none
  else node

/-- After broadcasts none of which announces the device for `nodeID`, the index names `nodeID`
exactly if it did before and none of them was about the device. -/
lemma foldl_note_eq_some_iff {nodeID : Str} {l : List Handled}
    (h : ∀ x ∈ l, x.msg ≠ ⟨.conn, nodeID, d⟩) (node : Option Str) :
    l.foldl (note d) node = some nodeID ↔ node = some nodeID ∧ ∀ x ∈ l, x.msg.deviceID ≠ d := by
  induction l generalizing node with
  | nil => simp
  | cons x l ih =>
    rw [List.foldl_cons, ih fun y hy => h y (List.mem_cons_of_mem x hy), List.forall_mem_cons,
      ← and_assoc]
    refine and_congr_left fun _ => ?_
    by_cases hd : d = x.msg.deviceID
    · refine iff_of_false (fun heq => h x List.mem_cons_self ?_) fun hx => hx.2 hd.symm
      obtain ⟨sender, number, change, node', device⟩ := x
      rw [note, if_pos hd] at heq
      cases change with
      | conn =>
        cases heq
        cases hd
        rfl
      | disconn => cases heq
    · rw [note, if_neg hd]
      exact (and_iff_left fun heq => hd heq.symm).symm

/-- What holds in every run: the index of a node is what it has handled, and what it has handled
was sent. -/
structure Sound (s : Members σ ρ) : Prop where
  index : ∀ node, (s.member node).connections.lookup d =
    (s.member node).handled.foldl (note d) none
  origin : ∀ node, ∀ x ∈ (s.member node).handled,
    (s.member x.sender).broadcasts[x.number]? = some x.msg
  own : ∀ node, ∀ msg ∈ (s.member node).broadcasts, msg.nodeID = node

variable {node : Str} {m : Member σ ρ}

/-- What was sent stays where it is. -/
lemma getElem?_broadcasts_modify {sender : Str} {l : List ConnBroadcast}
    (hm : m.broadcasts = (s.member node).broadcasts ++ l) {number : ℕ} {msg : ConnBroadcast}
    (h : (s.member sender).broadcasts[number]? = some msg) :
    ((s.modify node m).member sender).broadcasts[number]? = some msg := by
  rw [member_modify]
  split_ifs with heq
  · subst heq
    obtain ⟨hlt, -⟩ := List.getElem?_eq_some_iff.1 h
    rw [hm, List.getElem?_append_left hlt, h]
  · exact h

lemma Sound.modify (h : Sound d s) {l : List ConnBroadcast} (newest : Option Newest)
    (hm : m.broadcasts = (s.member node).broadcasts ++ l) (hown : ∀ msg ∈ l, msg.nodeID = node)
    (hindex : m.connections.lookup d = m.handled.foldl (note d) none)
    (horigin : ∀ x ∈ m.handled, (s.member x.sender).broadcasts[x.number]? = some x.msg) :
    Sound d { s.modify node m with newest } where
  index := (Function.forall_update_iff s.member fun _ (m : Member σ ρ) =>
    m.connections.lookup d = m.handled.foldl (note d) none).2 ⟨hindex, fun node' _ => h.index node'⟩
  origin := (Function.forall_update_iff s.member fun _ (m' : Member σ ρ) =>
    ∀ x ∈ m'.handled, ((s.modify node m).member x.sender).broadcasts[x.number]? = some x.msg).2
      ⟨fun x hx => getElem?_broadcasts_modify hm (horigin x hx),
        fun node' _ x hx => getElem?_broadcasts_modify hm (h.origin node' x hx)⟩
  own := by
    refine (Function.forall_update_iff s.member fun node (m : Member σ ρ) =>
      ∀ msg ∈ m.broadcasts, msg.nodeID = node).2 ⟨fun msg hmsg => ?_, fun node' _ => h.own node'⟩
    rw [hm] at hmsg
    exact (List.mem_append.1 hmsg).elim (h.own node msg) (hown msg)

lemma Sound.step (h : Sound d s) (o : ClusterOp) : Sound d (s.step cfg d o) := by
  rcases s.step_cases cfg d o with heq | ⟨node, op, -, -, heq⟩ |
    ⟨node, sender, number, msg, -, hmsg, -, heq⟩ | ⟨node, -, heq⟩
  · rwa [heq]
  · rw [heq]
    refine h.modify d _ rfl (fun msg hmsg => ?_) (h.index node) (h.origin node)
    obtain ⟨x, -, rfl⟩ := Option.map_eq_some_iff.1 (Option.mem_toList.1 hmsg)
    rfl
  · rw [heq]
    refine h.modify d s.newest (List.append_nil _).symm (fun msg hmsg => nomatch hmsg) ?_ ?_
    · change (ConnectionIndex.handleConnBroadcast _ msg).lookup d =
        List.foldl (note d) none ((s.member node).handled ++ [⟨sender, number, msg⟩])
      rw [List.foldl_append, ← h.index node, ConnectionIndex.lookup_handleConnBroadcast]
      rfl
    · intro x hx
      rcases List.mem_append.1 hx with hx | hx
      · exact h.origin node x hx
      · cases List.mem_singleton.1 hx
        exact hmsg
  · rw [heq]
    refine h.modify d s.newest rfl (fun msg hmsg => ?_) (h.index node) (h.origin node)
    obtain ⟨x, -, rfl⟩ := List.mem_map.1 hmsg
    rfl

lemma sound_run (brokers : Str → BrokerState σ ρ) (ops : List ClusterOp) :
    Sound d ((init brokers).run cfg d ops) :=
  List.foldlRecOn ops _ ⟨fun _ => rfl, nofun, nofun⟩ fun _ h o _ => h.step cfg d o

/-! ### The newest connection -/

/-- The device connects, or its newest connection is the one that it was, if it has not ended. -/
lemma newestAfter_cases (s : Members σ ρ) (node : Str) (op : Op) :
    (∃ c pkt now, op = .connect c pkt now ∧ admits cfg pkt = true ∧
      effectiveClientID cfg c pkt = d ∧
      s.newestAfter cfg d node op = some ⟨node, c, (s.member node).broadcasts.length⟩) ∨
    (s.member node).announced cfg op ≠ some (.conn, d) ∧
      ∀ x ∈ s.newestAfter cfg d node op, x ∈ s.newest ∧
        ∀ c now, op = .close c now → ¬ (x.node = node ∧ x.conn = c) := by
  cases op with
  | connect c pkt now =>
    by_cases h : admits cfg pkt = true ∧ effectiveClientID cfg c pkt = d
    · exact Or.inl ⟨c, pkt, now, rfl, h.1, h.2, if_pos h⟩
    · refine Or.inr ⟨fun heq => h ?_, fun x hx => ⟨?_, nofun⟩⟩
      · rw [Member.announced] at heq
        split_ifs at heq with hadmits
        cases heq
        exact ⟨hadmits, rfl⟩
      · rwa [newestAfter, if_neg h] at hx
  | close c now =>
    refine Or.inr ⟨fun heq => ?_, fun x hx => ?_⟩
    · rw [Member.announced] at heq
      split at heq
      · cases heq
      · split_ifs at heq
        cases heq
    · obtain ⟨hx, hne⟩ := Option.mem_filter_iff.1 hx
      refine ⟨hx, fun c' now' heq => ?_⟩
      cases heq
      exact of_decide_eq_true hne
  | _ => exact Or.inr ⟨nofun, fun x hx => ⟨hx, nofun⟩⟩

/-- The newest connection was announced, and its node has announced no other one of the device
after that. -/
def Announced (s : Members σ ρ) : Prop :=
  ∀ x ∈ s.newest, (s.member x.node).broadcasts[x.number]? = some ⟨.conn, x.node, d⟩ ∧
    ∀ number > x.number, (s.member x.node).broadcasts[number]? ≠ some ⟨.conn, x.node, d⟩

lemma Announced.op (h : Announced d s) (node : Str) (op : Op) :
    Announced d { s.modify node ((s.member node).perform cfg node op) with
      newest := s.newestAfter cfg d node op } := by
  intro x hx
  rw [member_modify]
  rcases s.newestAfter_cases cfg d node op with ⟨c, pkt, now, rfl, hadmits, hid, hnewest⟩ |
    ⟨hannounced, hnewest⟩
  · -- the announcement is the last broadcast
    cases hnewest.symm.trans hx
    have hlast : ((s.member node).perform cfg node (.connect c pkt now)).broadcasts =
        (s.member node).broadcasts ++ [⟨.conn, node, d⟩] := by
      rw [Member.perform, Member.announced, if_pos hadmits, hid]
      rfl
    rw [if_pos rfl, hlast]
    refine ⟨List.getElem?_concat_length, fun number hnumber => ?_⟩
    rw [List.getElem?_eq_none (by simpa using hnumber)]
    exact nofun
  · obtain ⟨hfirst, hlater⟩ := h x (hnewest x hx).1
    split_ifs with hnode
    · subst hnode
      obtain ⟨hlt, -⟩ := List.getElem?_eq_some_iff.1 hfirst
      refine ⟨(List.getElem?_append_left hlt).trans hfirst, fun number hnumber heq => ?_⟩
      rw [Member.perform] at heq
      rcases lt_or_ge number (s.member x.node).broadcasts.length with hlt | hge
      · rw [List.getElem?_append_left hlt] at heq
        exact hlater number hnumber heq
      · rw [List.getElem?_append_right hge] at heq
        obtain ⟨y, hy, hmsg⟩ := Option.map_eq_some_iff.1
          (Option.mem_toList.1 (List.mem_of_getElem? heq))
        cases y
        cases hmsg
        exact hannounced hy
    · exact ⟨hfirst, hlater⟩

lemma Announced.step (h : Announced d s) {o : ClusterOp} (hjoin : o.isJoin = false) :
    Announced d (s.step cfg d o) := by
  rcases s.step_cases cfg d o with heq | ⟨node, op, -, -, heq⟩ |
    ⟨node, sender, number, msg, -, hmsg, -, heq⟩ | ⟨node, rfl, -⟩
  · rwa [heq]
  · rw [heq]
    exact h.op cfg d node op
  · have hbroadcasts : ∀ node', ((s.step cfg d o).member node').broadcasts =
        (s.member node').broadcasts := by
      intro node'
      rw [heq, member_modify]
      split_ifs with hnode
      · rw [hnode]
        rfl
      · rfl
    intro x hx
    rw [hbroadcasts]
    rw [heq] at hx
    exact h x hx
  · cases hjoin

/-- The broadcasts of each sender were handled in the order in which they were sent. -/
def InOrder (l : List Handled) : Prop :=
  l.Pairwise fun x y => x.sender = y.sender → x.number < y.number

instance (l : List Handled) : Decidable (InOrder l) := inferInstanceAs (Decidable (l.Pairwise _))

/-- **When an index names the node of the newest connection.**  In every run of connects, takeovers
and disconnects, with broadcasts that are handled in the order in which their sender sent them: a
node that has handled the broadcast that announced the newest connection of a device finds this
connection in its index exactly if it has handled no broadcast about the device after it. -/
theorem lookup_eq_some_iff (brokers : Str → BrokerState σ ρ) (ops : List ClusterOp)
    (hjoin : ∀ o ∈ ops, o.isJoin = false) (x : Newest)
    (hnewest : ((init brokers).run cfg d ops).newest = some x) (node : Str)
    (before after : List Handled) (msg : ConnBroadcast)
    (hhandled : (((init brokers).run cfg d ops).member node).handled =
      before ++ ⟨x.node, x.number, msg⟩ :: after)
    (horder : InOrder (((init brokers).run cfg d ops).member node).handled) :
    (((init brokers).run cfg d ops).member node).connections.lookup d = some x.node ↔
      ∀ y ∈ after, y.msg.deviceID ≠ d := by
  have hsound := sound_run cfg d brokers ops
  have hannounced : Announced d ((init brokers).run cfg d ops) :=
    List.foldlRecOn ops _ nofun fun s h o ho => h.step cfg d (hjoin o ho)
  generalize (init brokers).run cfg d ops = s at hnewest hhandled horder hsound hannounced ⊢
  obtain ⟨hfirst, hlater⟩ := hannounced x hnewest
  have hmem : ∀ y ∈ ⟨x.node, x.number, msg⟩ :: after, y ∈ (s.member node).handled := fun y hy =>
    hhandled ▸ List.mem_append_right _ hy
  obtain rfl : msg = ⟨.conn, x.node, d⟩ :=
    Option.some_inj.1 ((hsound.origin node _ (hmem _ List.mem_cons_self)).symm.trans hfirst)
  -- no broadcast that was handled later announces the device for the same node
  have hother : ∀ y ∈ after, y.msg ≠ ⟨.conn, x.node, d⟩ := by
    intro y hy heq
    have horigin := hsound.origin node y (hmem y (List.mem_cons_of_mem _ hy))
    rw [heq] at horigin
    have hsender : x.node = y.sender := hsound.own y.sender _ (List.mem_of_getElem? horigin)
    rw [hhandled] at horder
    have hlt : x.number < y.number :=
      List.rel_of_pairwise_cons (List.pairwise_append.1 horder).2.1 hy hsender
    exact hlater y.number hlt (hsender ▸ horigin)
  rw [hsound.index node, hhandled, List.foldl_append, List.foldl_cons,
    foldl_note_eq_some_iff d hother]
  exact and_iff_right (if_pos rfl)

/-- The nodes of a cluster. -/
def nodeA : Str := str "a"
def nodeB : Str := str "b"
def nodeC : Str := str "c"

/-- The device `p` connects to a node, on a new connection. -/
def deviceConnects (node : Str) (c : ℕ) : List ClusterOp :=
  [.op node (.accept c), .op node (.connect c (connectExpiring "p") 0)]

/-- The cluster after a run, and with it what is known of the device `p`. -/
def clusterRun (ops : List ClusterOp) : Members TenantChain Unit :=
  (init fun _ => .new () none).run sampleConfig (str "p") ops

/-- The device moves from `a` to `b`. -/
def moves : List ClusterOp :=
  deviceConnects nodeA 0 ++ deviceConnects nodeB 0 ++
    [.handle nodeA nodeB 0, .op nodeA (.close 0 second)]

/-- The device takes its own place at `b`. -/
def returns : List ClusterOp :=
  deviceConnects nodeB 0 ++ deviceConnects nodeB 1 ++ [.op nodeB (.close 0 second)]

/-- The node `c` hears of the end at `a` before it hears of the connection at `b`. -/
def hearsInTime : List ClusterOp :=
  moves ++ [.handle nodeC nodeA 0, .handle nodeC nodeA 1, .handle nodeC nodeB 0]

theorem lookup_eq_some_iff_inTime :
    ((clusterRun hearsInTime).member nodeC).connections.lookup (str "p") = some nodeB :=
  (lookup_eq_some_iff sampleConfig (str "p") (fun _ => .new () none) hearsInTime (by decide)
    ⟨nodeB, 0, 0⟩ (by decide +kernel) nodeC
    [⟨nodeA, 0, ⟨.conn, nodeA, str "p"⟩⟩, ⟨nodeA, 1, ⟨.disconn, nodeA, str "p"⟩⟩] []
    ⟨.conn, nodeB, str "p"⟩ (by decide +kernel) (by decide +kernel)).2 nofun

/-- The node `c` has handled all broadcasts, in the order in which their senders sent them, and does
not find the device: first, when it hears of the end at `a` last; and then, when a connection takes
the place of another one at `b`, which ends after that. -/
theorem lookup_eq_none_of_connected :
    (let s := clusterRun (moves ++
      [.handle nodeC nodeA 0, .handle nodeC nodeB 0, .handle nodeC nodeA 1])
    s.newest = some ⟨nodeB, 0, 0⟩ ∧
      (s.member nodeB).broker.clients.lookup (str "p") = some 0 ∧
      (s.member nodeA).broadcasts.length = 2 ∧ (s.member nodeB).broadcasts.length = 1 ∧
      InOrder (s.member nodeC).handled ∧ (s.member nodeC).handled.length = 3 ∧
      (s.member nodeC).connections.lookup (str "p") = none) ∧
    let s := clusterRun (returns ++
      [.handle nodeC nodeB 0, .handle nodeC nodeB 1, .handle nodeC nodeB 2])
    s.newest = some ⟨nodeB, 1, 1⟩ ∧
      (s.member nodeB).broker.clients.lookup (str "p") = some 1 ∧
      (s.member nodeB).broadcasts.length = 3 ∧
      InOrder (s.member nodeC).handled ∧ (s.member nodeC).handled.length = 3 ∧
      (s.member nodeC).connections.lookup (str "p") = none := by
  decide +kernel

/-! ### The newest connection and the broadcasts -/

lemma clients_establish {b : BrokerState σ ρ} {c : ℕ} (hc : (b.conns.lookup c).isSome)
    (clientID : Str) (pkt : ConnectPacket) (now : ℤ) :
    (b.establish cfg c clientID pkt now).2.clients.lookup clientID = some c := by
  have hclients := congrArg (fun b => b.clients) (b.unrouted_establish cfg c clientID pkt now)
  refine (congrArg (AList.lookup clientID) hclients).trans ?_
  dsimp only
  rw [if_pos hc]
  exact AList.lookup_insert _

/-- What an operation that does not register the device does to its registration. -/
lemma lookup_clients_step (b : BrokerState σ ρ) (op : Op)
    (h : ∀ c pkt now, op = .connect c pkt now → admits cfg pkt = true →
      effectiveClientID cfg c pkt ≠ d) :
    (b.step cfg op).clients.lookup d = b.clients.lookup d ∨
      ∃ c now, op = .close c now ∧ b.clients.lookup d = some c := by
  cases op with
  | accept c => exact Or.inl rfl
  | connect c pkt now =>
    left
    cases hadmits : admits cfg pkt with
    | true =>
      rw [BrokerState.step, Handshakes.handleConnect_of_admits cfg b c now hadmits]
      exact b.lookup_clients_establish cfg c (h c pkt now rfl hadmits).symm pkt now
    | false =>
      obtain ⟨err, code, heq⟩ := Handshakes.handleConnect_of_not_admits cfg b c now hadmits
      rw [BrokerState.step, heq]
      exact congrArg (fun b => b.clients.lookup d) (b.stores_send c _)
  | publish c fh data now =>
    have hlive := (bystander_liveness cfg).handlePublish b c fh data now
    exact Or.inl (congrArg (fun x => x.1.lookup d) hlive)
  | subscribe c pkt =>
    exact Or.inl (congrArg (AList.lookup d) (b.marks_handleSubscribe cfg c pkt).1)
  | disconnect c data =>
    exact Or.inl (congrArg (fun x => x.1.lookup d) (b.liveness_handleDisconnect c data))
  | close c now =>
    rcases Handshakes.lookup_clients_close cfg b c now d with heq | ⟨heq, -⟩
    · exact Or.inl heq
    · exact Or.inr ⟨c, now, rfl, heq⟩
  | sweep now => exact Or.inl (congrArg (AList.lookup d) (b.clients_sweep now))

/-- The newest connection of the device is registered. -/
def Kept (s : Members σ ρ) : Prop :=
  ∀ x ∈ s.newest, (s.member x.node).broker.clients.lookup d = some x.conn

instance (s : Members σ ρ) : Decidable (Kept d s) := Option.decidableForallMem s.newest

/-- A node that has the newest connection of the device does not handle a broadcast of another node
that announces the device. -/
def Harmless (s : Members σ ρ) : ClusterOp → Prop
  | .handle node sender number =>
    ∀ msg ∈ (s.member sender).broadcasts[number]?, msg.change = .conn → msg.nodeID ≠ node →
      msg.deviceID = d → ∀ x ∈ s.newest, x.node ≠ node
  | _ => True

/-- A `conn` broadcast about the device unregisters it. -/
lemma lookup_clients_handleBroadcastMsg (m : Member σ ρ) (msg : ConnBroadcast) :
    (m.handleBroadcastMsg msg).broker.clients.lookup d =
      if msg.change = .conn ∧ msg.deviceID = d then none else m.broker.clients.lookup d := by
  rw [Member.handleBroadcastMsg]
  cases msg.change with
  | conn =>
    have hclients : (m.broker.disconnectExisting msg.deviceID).clients =
        m.broker.clients.erase msg.deviceID :=
      congrArg (fun b => b.clients) (m.broker.stores_disconnectExisting msg.deviceID)
    rw [hclients]
    split_ifs with hd
    · rw [hd.2, AList.lookup_erase]
    · exact AList.lookup_erase_ne fun heq => hd ⟨rfl, heq.symm⟩
  | disconn => exact (if_neg fun h => nomatch h.1).symm

lemma Kept.modify (h : Kept d s)
    (hm : m.broker.clients.lookup d = (s.member node).broker.clients.lookup d) :
    Kept d (s.modify node m) := by
  intro x hx
  rw [member_modify]
  split_ifs with hnode
  · rw [hm, ← hnode]
    exact h x hx
  · exact h x hx

/-- What happens at the brokers keeps the newest connection. -/
lemma Kept.op (h : Kept d s) {op : Op} (hop : (s.member node).possible op = true) :
    Kept d { s.modify node ((s.member node).perform cfg node op) with
      newest := s.newestAfter cfg d node op } := by
  intro x hx
  rw [member_modify]
  rcases s.newestAfter_cases cfg d node op with ⟨c, pkt, now, rfl, hadmits, rfl, hnewest⟩ |
    ⟨hannounced, hnewest⟩
  · -- the device connects
    cases hnewest.symm.trans hx
    rw [if_pos rfl, Member.perform, BrokerState.step,
      Handshakes.handleConnect_of_admits cfg _ c now hadmits]
    exact clients_establish cfg hop _ pkt now
  · obtain ⟨hx, hclose⟩ := hnewest x hx
    have hreg := h x hx
    split_ifs with hnode
    · subst hnode
      have hconnect : ∀ c pkt now, op = .connect c pkt now → admits cfg pkt = true →
          effectiveClientID cfg c pkt ≠ d := by
        rintro c pkt now rfl hadmits rfl
        exact hannounced (if_pos hadmits)
      rcases lookup_clients_step cfg d (s.member x.node).broker op hconnect with heq |
        ⟨c, now, rfl, heq⟩
      · exact heq.trans hreg
      · -- the newest connection has not ended
        exact absurd ⟨rfl, Option.some_inj.1 (hreg.symm.trans heq)⟩ (hclose c now rfl)
    · exact hreg

lemma kept_step_iff (h : Kept d s) (o : ClusterOp) : Kept d (s.step cfg d o) ↔ Harmless d s o := by
  cases o with
  | op node op =>
    refine iff_of_true ?_ trivial
    rw [step]
    split_ifs with hop
    · exact h.op cfg d hop
    · exact h
  | handle node sender number =>
    rw [step, Harmless]
    cases hmsg : (s.member sender).broadcasts[number]? with
    | none => exact iff_of_true h nofun
    | some msg =>
      simp only [Option.mem_some_iff, forall_eq']
      split_ifs with hown
      · exact iff_of_true h fun _ hne => absurd hown hne
      · have hlookup := lookup_clients_handleBroadcastMsg d (s.member node) msg
        by_cases hconn : msg.change = .conn ∧ msg.deviceID = d
        · rw [if_pos hconn] at hlookup
          constructor
          · rintro hkept - - - x hx rfl
            have hreg := hkept x hx
            rw [member_modify, if_pos rfl] at hreg
            cases hlookup.symm.trans hreg
          · intro hharmless x hx
            rw [member_modify, if_neg (hharmless hconn.1 hown hconn.2 x hx)]
            exact h x hx
        · rw [if_neg hconn] at hlookup
          exact iff_of_true (h.modify d hlookup) fun hc _ hd => absurd ⟨hc, hd⟩ hconn
  | join node =>
    exact iff_of_true (h.modify d rfl) trivial

/-- **When the broadcasts leave the newest connection alone.**  In every run, the newest connection
of a device is registered at its node until it ends, exactly if this node never handles a broadcast
of another node that announces the device. -/
theorem newest_kept_iff (brokers : Str → BrokerState σ ρ) (ops : List ClusterOp) :
    (∀ ops', ops' <+: ops → Kept d ((init brokers).run cfg d ops')) ↔
      ∀ y ∈ trace (step cfg d) (init brokers) ops, Harmless d y.1 y.2 :=
  forall_prefix_iff (fun _ => True) (Kept d) (Harmless d) (fun _ _ _ => trivial)
    (fun _ o _ h => kept_step_iff cfg d h o) trivial (fun x hx => by cases hx) ops

/-- The device connects to `a` and then to `b`.  Each node handles the broadcast of the other one,
and the device is connected to neither. -/
theorem newest_not_kept :
    let s := clusterRun (deviceConnects nodeA 0 ++ deviceConnects nodeB 0 ++
      [.handle nodeB nodeA 0, .handle nodeA nodeB 0])
    s.newest = some ⟨nodeB, 0, 0⟩ ∧ ¬ Kept (str "p") s ∧
      (s.member nodeA).broker.clients.lookup (str "p") = none ∧
      (s.member nodeB).broker.clients.lookup (str "p") = none := by
  decide +kernel

end Members

end Dmqtt.Cluster
