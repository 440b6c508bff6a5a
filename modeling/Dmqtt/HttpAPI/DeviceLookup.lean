/-
Looking up a device in the cluster (`handleDeviceByID` of `internal/httpapi/server.go` with
`proxyDeviceDetail` and `proxyDeviceDisconnect`).

A node that does not have a device asks all the other members, one after the other, and each of
them does the same, since nothing tells it that the request comes from a node.
`lookup_once_iff` says in which clusters the lookup of a device that is nowhere comes to an end.

All members know the same membership, they can all be reached, and requests do not time out.
-/
import Dmqtt.HttpAPI.Devices
import Mathlib.Data.List.TakeWhile
import Mathlib.Logic.Function.Iterate

namespace Dmqtt.HttpAPI

open Lib Codec

/-! ### One node -/

/-- The method of a request. -/
inductive Method
  | get
  | post
  | other
deriving DecidableEq

/-- A request: its method, its path after `/api/v1/devices/`, and its API key. -/
structure DeviceRequest where
  method : Method
  path : Str
  key : Str

/-- What `handleDeviceByID` does with a request: it answers, or it asks the other nodes for the
device. -/
inductive Outcome
  | answered (status : Status) (sv : Server)
  | notHere (disconnect : Bool) (deviceID : Str)

/-- The device is disconnected. -/
def BrokerAPI.disconnectDevice (b : BrokerAPI) (deviceID : Str) : BrokerAPI :=
  { b with clients := b.clients.erase deviceID }

/-- Handle a request for a device, up to the loop over the members. -/
def Server.handleDeviceByID (sv : Server) (r : DeviceRequest) : Outcome :=
  if sv.authorized r.key then
    match sv.brokerAPI with
    | none => .answered .serviceUnavailable sv
    | some b =>
      -- the path is split at the first slash
      let deviceID := r.path.takeWhile (· ≠ 47)
      let rest := r.path.dropWhile (· ≠ 47)
      if deviceID = [] then .answered .ok sv
      else if rest = str "/disconnect" ∧ r.method = .post then
        match b.getClientInfo deviceID with
        | none => .notHere true deviceID
        | some _ => .answered .ok { sv with brokerAPI := some (b.disconnectDevice deviceID) }
      else if r.method ≠ .get then .answered .methodNotAllowed sv
      else match b.getClientInfo deviceID with
        | none => .notHere false deviceID
        | some _ => .answered .ok sv
  else .answered .unauthorized sv

/-- The request that `proxyDeviceDetail` or `proxyDeviceDisconnect` sends; it has no key. -/
def proxyRequest (disconnect : Bool) (deviceID : Str) : DeviceRequest :=
  if disconnect then ⟨.post, deviceID ++ str "/disconnect", []⟩ else ⟨.get, deviceID, []⟩

lemma proxyRequest_key (disconnect : Bool) (deviceID : Str) :
    { proxyRequest disconnect deviceID with key := [] } = proxyRequest disconnect deviceID := by
  cases disconnect <;> rfl

/-! ### The cluster -/

/-- A handler that asks the other nodes: its node, what it asks for, and the members to come. -/
structure Handler where
  nodeID : Str
  disconnect : Bool
  deviceID : Str
  todo : List NodeInfo

/-- A request on its way through the cluster: the handlers that wait for each other, the innermost
first, the nodes at which requests have arrived, and the status that the client gets. -/
structure Lookup where
  servers : Str → Server
  handlers : List Handler
  arrivals : List Str
  status : Option Status

namespace Lookup

variable (members : List NodeInfo) (l : Lookup)

/-- A status is passed on: a handler goes on to the next member if the device was not found, and
copies any other status. -/
def reply : List Handler → Status → List Handler × Option Status
  | [], status => ([], some status)
  | h :: hs, status => if status = .notFound then (h :: hs, none) else reply hs status

/-- The innermost handler returns a status. -/
def respond (status : Status) : Lookup :=
  let out := reply l.handlers status
  { l with handlers := out.1, status := out.2 }

/-- A request arrives at a node. -/
def arrive (nodeID : Str) (r : DeviceRequest) : Lookup :=
  let l := { l with arrivals := l.arrivals ++ [nodeID] }
  match (l.servers nodeID).handleDeviceByID r with
  | .answered status sv => { l with servers := Function.update l.servers nodeID sv }.respond status
  | .notHere disconnect deviceID =>
    { l with handlers := ⟨nodeID, disconnect, deviceID, members⟩ :: l.handlers }

/-- The next step of the innermost handler. -/
def step : Lookup :=
  match l.status, l.handlers with
  | none, ⟨_, _, _, []⟩ :: hs => { l with handlers := hs }.respond .notFound
  | none, ⟨nodeID, disconnect, deviceID, node :: todo⟩ :: hs =>
    let l := { l with handlers := ⟨nodeID, disconnect, deviceID, todo⟩ :: hs }
    if node.id = nodeID ∨ node.httpPort = 0 then l
    else l.arrive members node.id (proxyRequest disconnect deviceID)
  | _, _ => l

/-- A client sends a request to a node. -/
def start (servers : Str → Server) (nodeID : Str) (r : DeviceRequest) : Lookup :=
  arrive members ⟨servers, [], [], none⟩ nodeID r

/-! ### A device that is nowhere -/

/-- The device has an ID without a slash and is connected to no node. -/
structure Nowhere (servers : Str → Server) (deviceID : Str) : Prop where
  ne_nil : deviceID ≠ []
  no_slash : (47 : UInt8) ∉ deviceID
  absent : ∀ nodeID, ∀ b ∈ (servers nodeID).brokerAPI, b.getClientInfo deviceID = none

variable {members} {servers : Str → Server} {deviceID : Str}

/-- The device ID is all that precedes the first slash of the path. -/
lemma split_path (h : Nowhere servers deviceID) (disconnect : Bool) :
    let path := (proxyRequest disconnect deviceID).path
    path.takeWhile (· ≠ 47) = deviceID ∧
      path.dropWhile (· ≠ 47) = if disconnect then str "/disconnect" else [] := by
  have hbytes : ∀ x ∈ deviceID, decide (x ≠ 47) = true := by
    intro x hx
    refine decide_eq_true ?_
    rintro rfl
    exact h.no_slash hx
  cases disconnect with
  | false => exact ⟨List.takeWhile_eq_self_iff.2 hbytes, List.dropWhile_eq_nil_iff.2 hbytes⟩
  | true =>
    refine ⟨(List.takeWhile_append_of_pos hbytes).trans (List.append_nil _), ?_⟩
    exact List.dropWhile_append_of_pos hbytes

/-- Every node refuses the request, or asks the others. -/
lemma handleDeviceByID_of_nowhere (h : Nowhere servers deviceID) (nodeID : Str)
    (disconnect : Bool) (key : Str) :
    (servers nodeID).handleDeviceByID { proxyRequest disconnect deviceID with key } =
      if (servers nodeID).authorized key then
        if (servers nodeID).brokerAPI.isSome then .notHere disconnect deviceID
        else .answered .serviceUnavailable (servers nodeID)
      else .answered .unauthorized (servers nodeID) := by
  obtain ⟨hid, hrest⟩ := split_path h disconnect
  rw [Server.handleDeviceByID]
  refine ite_congr rfl (fun _ => ?_) fun _ => rfl
  cases hb : (servers nodeID).brokerAPI with
  | none => rfl
  | some b =>
    dsimp only
    rw [hid, hrest, h.absent nodeID b hb, if_neg h.ne_nil]
    cases disconnect <;> simp [proxyRequest]

lemma reply_of_ne {status : Status} (h : status ≠ .notFound) (hs : List Handler) :
    reply hs status = ([], some status) := by
  induction hs with
  | nil => rfl
  | cons handler hs ih => rw [reply, if_neg h, ih]

/-! ### Clusters with other members -/

/-- The lookup goes on, or has ended with another status than 404. -/
inductive Endless (members : List NodeInfo) (servers : Str → Server) (disconnect : Bool)
    (deviceID : Str) (l : Lookup) : Prop
  | asking (h : Handler) (hs : List Handler) (hservers : l.servers = servers)
      (hstatus : l.status = none) (hhandlers : l.handlers = h :: hs)
      (hdisconnect : h.disconnect = disconnect) (hdevice : h.deviceID = deviceID)
      (htodo : ∀ node ∈ h.todo, node ∈ members) (hother : ∃ node ∈ h.todo, node.id ≠ h.nodeID)
  | refused (status : Status) (hstatus : l.status = some status) (hne : status ≠ .notFound)

variable {l} {disconnect : Bool}

lemma endless_respond {status : Status} (h : status ≠ .notFound) (l : Lookup) :
    Endless members servers disconnect deviceID (l.respond status) := by
  refine .refused status ?_ h
  rw [respond, reply_of_ne h]

/-- A node that is asked has others to ask, or refuses. -/
lemma endless_arrive (h : Nowhere servers deviceID) (hservers : l.servers = servers)
    (hstatus : l.status = none) {nodeID : Str} (hother : ∃ node ∈ members, node.id ≠ nodeID)
    (key : Str) :
    Endless members servers disconnect deviceID
      (l.arrive members nodeID { proxyRequest disconnect deviceID with key }) := by
  rw [arrive, hservers]
  rw [handleDeviceByID_of_nowhere h]
  split_ifs
  · refine .asking _ _ rfl hstatus rfl rfl rfl ?_ hother
    exact fun _ hnode => hnode
  · exact endless_respond (by decide) _
  · exact endless_respond (by decide) _

lemma endless_step (h : Nowhere servers deviceID)
    (hports : ∀ node ∈ members, node.httpPort ≠ 0)
    (hothers : ∀ nodeID, ∃ node ∈ members, node.id ≠ nodeID)
    (hl : Endless members servers disconnect deviceID l) :
    Endless members servers disconnect deviceID (l.step members) := by
  cases hl with
  | asking handler hs hservers hstatus hhandlers hdisconnect hdevice htodo hother =>
    obtain ⟨nodeID, _, _, todo⟩ := handler
    subst hdisconnect hdevice
    rw [step, hstatus, hhandlers]
    cases todo with
    | nil =>
      obtain ⟨node, hnode, -⟩ := hother
      cases hnode
    | cons node todo =>
      dsimp only
      have hmem := htodo node List.mem_cons_self
      have hrest : ∀ node' ∈ todo, node' ∈ members := fun node' hnode' =>
        htodo node' (List.mem_cons_of_mem _ hnode')
      split_ifs with hskip
      · -- the node itself is skipped, and the other member is still to come
        have hself : node.id = nodeID := hskip.resolve_right (hports node hmem)
        obtain ⟨node', hnode', hne⟩ := hother
        refine .asking _ _ hservers rfl rfl rfl rfl hrest ⟨node', ?_, hne⟩
        rcases List.mem_cons.1 hnode' with rfl | hnode'
        · exact absurd hself hne
        · exact hnode'
      · rw [← proxyRequest_key]
        refine endless_arrive h ?_ ?_ (hothers node.id) []
        · exact hservers
        · rfl
  | refused status hstatus hne =>
    rw [step, hstatus]
    exact .refused status hstatus hne

lemma endless_iterate (h : Nowhere servers deviceID)
    (hports : ∀ node ∈ members, node.httpPort ≠ 0)
    (hothers : ∀ nodeID, ∃ node ∈ members, node.id ≠ nodeID)
    (hl : Endless members servers disconnect deviceID l) (k : ℕ) :
    Endless members servers disconnect deviceID ((step members)^[k] l) :=
  Function.Iterate.rec _ hl (fun _ => endless_step h hports hothers) k

/-! ### A node alone -/

/-- A node that skips itself comes to the end of the members. -/
lemma iterate_step_self {self : Str} {todo : List NodeInfo} (h : ∀ node ∈ todo, node.id = self)
    (arrivals : List Str) :
    ((step members)^[todo.length + 1]
      ⟨servers, [⟨self, disconnect, deviceID, todo⟩], arrivals, none⟩).status = some .notFound := by
  induction todo with
  | nil => rfl
  | cons node todo ih =>
    rw [Function.iterate_succ_apply, step]
    dsimp only
    rw [if_pos (.inl (h node List.mem_cons_self))]
    exact ih fun node' hnode' => h node' (List.mem_cons_of_mem _ hnode')

/-- Meanwhile nobody else is asked. -/
lemma arrivals_iterate_self {self : Str} {todo : List NodeInfo} (h : ∀ node ∈ todo, node.id = self)
    (arrivals : List Str) (k : ℕ) :
    ((step members)^[k]
      ⟨servers, [⟨self, disconnect, deviceID, todo⟩], arrivals, none⟩).arrivals = arrivals := by
  induction k generalizing todo with
  | zero => rfl
  | succ k ih =>
    rw [Function.iterate_succ_apply]
    cases todo with
    | nil =>
      -- the lookup has ended
      have hend : ∀ k, (step members)^[k] ⟨servers, [], arrivals, some .notFound⟩ =
          ⟨servers, [], arrivals, some .notFound⟩ := Function.iterate_fixed rfl
      exact congrArg Lookup.arrivals (hend k)
    | cons node todo =>
      rw [step]
      dsimp only
      rw [if_pos (.inl (h node List.mem_cons_self))]
      exact ih fun node' hnode' => h node' (List.mem_cons_of_mem _ hnode')

/-- **When a lookup visits no node twice.**  A client sends a request for a device that is connected
to no node, to look it up or to disconnect it, to a member that accepts the request.  Then at most
one request arrives at each node and the client gets 404, if and only if there are no other
members. -/
theorem lookup_once_iff {self : Str} (hself : ∃ node ∈ members, node.id = self)
    (hports : ∀ node ∈ members, node.httpPort ≠ 0) (h : Nowhere servers deviceID)
    (disconnect : Bool) {key : Str} (hauth : (servers self).authorized key)
    (hbroker : (servers self).brokerAPI.isSome) :
    let l := start members servers self { proxyRequest disconnect deviceID with key }
    ((∀ k nodeID, ((step members)^[k] l).arrivals.count nodeID ≤ 1) ∧
        ∃ k, ((step members)^[k] l).status = some .notFound) ↔
      ∀ node ∈ members, node.id = self := by
  have hstart : start members servers self { proxyRequest disconnect deviceID with key } =
      ⟨servers, [⟨self, disconnect, deviceID, members⟩], [self], none⟩ := by
    rw [start, arrive]
    rw [handleDeviceByID_of_nowhere h, if_pos hauth, if_pos hbroker]
    rfl
  intro l
  constructor
  · rintro ⟨-, k, hk⟩ node hnode
    by_contra hne
    have hothers : ∀ nodeID, ∃ node ∈ members, node.id ≠ nodeID := by
      intro nodeID
      obtain ⟨node₀, hnode₀, hid⟩ := hself
      by_cases hnodeID : nodeID = self
      · exact ⟨node, hnode, hnodeID ▸ hne⟩
      · exact ⟨node₀, hnode₀, fun heq => hnodeID (heq.symm.trans hid)⟩
    have hl : Endless members servers disconnect deviceID l :=
      endless_arrive h rfl rfl ⟨node, hnode, hne⟩ key
    cases endless_iterate h hports hothers hl k with
    | asking _ _ _ hstatus => cases hstatus.symm.trans hk
    | refused status hstatus hne => exact hne (Option.some.inj (hstatus.symm.trans hk))
  · intro hall
    refine ⟨fun k nodeID => ?_, members.length + 1, ?_⟩
    · rw [show l = _ from hstart, arrivals_iterate_self hall]
      exact List.count_le_length
    · rw [show l = _ from hstart]
      exact iterate_step_self hall _

/-! ### Two nodes -/

/-- A node without devices. -/
def emptyServer : Server := { brokerAPI := some ⟨∅, ∅⟩ }

lemma nowhere_empty : Nowhere (fun _ => emptyServer) (str "d") where
  ne_nil := by decide
  no_slash := by decide
  absent := by
    rintro nodeID b hb
    cases hb
    rfl

/-- A node alone does not find the device. -/
theorem lookup_once_iff_alone :
    let members : List NodeInfo := [⟨str "A", 8080⟩]
    let l := start members (fun _ => emptyServer) (str "A") (proxyRequest false (str "d"))
    (∀ k nodeID, ((step members)^[k] l).arrivals.count nodeID ≤ 1) ∧
      ∃ k, ((step members)^[k] l).status = some .notFound :=
  (lookup_once_iff (by simp) (by simp) nowhere_empty false rfl rfl).2 (by simp)

/-- Two nodes ask each other again and again. -/
theorem lookup_again :
    let members : List NodeInfo := [⟨str "A", 8080⟩, ⟨str "B", 8080⟩]
    let l := start members (fun _ => emptyServer) (str "A") (proxyRequest false (str "d"))
    ((step members)^[8] l).arrivals =
      [str "A", str "B", str "A", str "B", str "A", str "B"] := by
  decide +kernel

end Lookup

end Dmqtt.HttpAPI
