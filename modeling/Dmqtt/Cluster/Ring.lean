/-
The ring of the nodes and the replicas of a device (`internal/cluster/ring.go`, `replicator.go`).

The ring asks the third-party package `hashring`, of which only a contract is known: `GetNodes`
returns as many distinct members as are asked for, and fails when there are fewer
(`Hashring.Lawful`).  `LocateDeviceN` passes its number on as it is.  So it places the replicas if
there are as many nodes as replicas, and otherwise returns nothing: `replica_placement_iff`.
-/
import Dmqtt.Codec.Packets
import Dmqtt.Lib.GoTypes
import Mathlib.Data.List.Sort

namespace Dmqtt.Cluster

open Lib

/-- A node of the cluster. -/
structure NodeInfo where
  id : Str
  host : Str
  gossipPort : ℤ
  transportPort : ℤ
  mqttPort : ℤ
  httpPort : ℤ
  region : Str
deriving DecidableEq

/-! ### The package `hashring` -/

/-- The functions of the package, with its rings in `R`. -/
structure Hashring (R : Type) where
  new : (nodes : List Str) → R
  newWithWeights : (weights : GoMap Str ℤ) → R
  getNode : R → (key : Str) → Option Str
  getNodes : R → (key : Str) → (size : ℤ) → Option (List Str)

namespace Hashring

variable {R : Type}

/-- What is assumed of the answers.  The members of a ring are the keys of its weights. -/
structure Lawful (H : Hashring R) : Prop where
  getNode_mem : ∀ {weights : GoMap Str ℤ}, (∀ id w, weights.lookup id = some w → 0 < w) →
    weights.keys ≠ [] → ∀ key, ∃ id ∈ weights, H.getNode (H.newWithWeights weights) key = some id
  getNodes_of_le : ∀ {weights : GoMap Str ℤ}, (∀ id w, weights.lookup id = some w → 0 < w) →
    ∀ key {size : ℤ}, 1 ≤ size → size ≤ weights.keys.length →
      ∃ ids, H.getNodes (H.newWithWeights weights) key size = some ids ∧
        (ids.length : ℤ) = size ∧ ids.Nodup ∧ (∀ id ∈ ids, id ∈ weights) ∧
        ids.head? = H.getNode (H.newWithWeights weights) key
  getNodes_of_lt : ∀ {weights : GoMap Str ℤ}, (∀ id w, weights.lookup id = some w → 0 < w) →
    ∀ key {size : ℤ}, weights.keys.length < size →
      H.getNodes (H.newWithWeights weights) key size = none

end Hashring

/-! ### The ring -/

variable {R : Type} {H : Hashring R}

/-- The nodes, and a ring over their IDs.  Unless it is new, the ring is made of the IDs of the
nodes, all with the same weight. -/
structure Ring (H : Hashring R) where
  ring : R
  nodes : GoMap Str NodeInfo
  virtualNodes : ℤ
  virtualNodes_pos : 0 < virtualNodes
  keyed : ∀ {id info}, nodes.lookup id = some info → info.id = id
  built : (ring = H.new [] ∧ nodes = ∅) ∨ ∃ weights, ring = H.newWithWeights weights ∧
    ∀ id, weights.lookup id = (nodes.lookup id).map fun _ => virtualNodes

/-- The map of the nodes that `Update` makes. -/
def nodesByID (nodes : List NodeInfo) : GoMap Str NodeInfo :=
  nodes.foldl (fun m n => m.insert n.id n) ∅

/-- The weights that `Update` gives to the names of the nodes. -/
def equalWeights (virtualNodes : ℤ) (names : List Str) : GoMap Str ℤ :=
  names.foldl (fun m name => m.insert name virtualNodes) ∅

lemma lookup_equalWeights (virtualNodes : ℤ) (nodes : List NodeInfo) (id : Str) :
    (equalWeights virtualNodes (nodes.map NodeInfo.id)).lookup id =
      ((nodesByID nodes).lookup id).map fun _ => virtualNodes := by
  rw [equalWeights, nodesByID, List.foldl_map]
  refine GoMap.lookup_foldl_insert_map (f := fun _ : NodeInfo => virtualNodes) ?_ nodes id
  exact fun _ => rfl

lemma id_of_lookup_nodesByID {nodes : List NodeInfo} {id : Str} {info : NodeInfo}
    (h : (nodesByID nodes).lookup id = some info) : info ∈ nodes ∧ info.id = id := by
  rcases GoMap.mem_of_lookup_foldl_insert h with h | ⟨n, hn, hid, rfl⟩
  · simp at h
  · exact ⟨hn, hid⟩

lemma lookup_nodesByID_of_mem {nodes : List NodeInfo} (hids : (nodes.map NodeInfo.id).Nodup)
    {info : NodeInfo} (h : info ∈ nodes) : (nodesByID nodes).lookup info.id = some info :=
  GoMap.lookup_foldl_insert_of_mem (fun n => n) hids h ∅

namespace Ring

/-- An empty ring, with the number of virtual nodes of each node. -/
def newRing (H : Hashring R) (virtualNodes : ℤ) : Ring H where
  ring := H.new []
  nodes := ∅
  virtualNodes := if virtualNodes ≤ 0 then 150 else virtualNodes
  virtualNodes_pos := by split_ifs <;> omega
  keyed h := by simp at h
  built := Or.inl ⟨rfl, rfl⟩

/-- Make the ring anew, of these nodes. -/
def update (r : Ring H) (nodes : List NodeInfo) : Ring H where
  ring := H.newWithWeights (equalWeights r.virtualNodes (nodes.map NodeInfo.id))
  nodes := nodesByID nodes
  virtualNodes := r.virtualNodes
  virtualNodes_pos := r.virtualNodes_pos
  keyed h := (id_of_lookup_nodesByID h).2
  built := Or.inr ⟨_, rfl, lookup_equalWeights r.virtualNodes nodes⟩

/-- The node that is responsible for a device. -/
def locateDevice (r : Ring H) (deviceID : Str) : Option NodeInfo :=
  match H.getNode r.ring deviceID with
  | none => none
  | some nodeID => r.nodes.lookup nodeID

/-- That node and others, `n` nodes in all. -/
def locateDeviceN (r : Ring H) (deviceID : Str) (n : ℤ) : List NodeInfo :=
  match H.getNodes r.ring deviceID n with
  | none => []
  | some nodeIDs => nodeIDs.filterMap fun id => r.nodes.lookup id

end Ring

/-! ### The replicator -/

/-- An offline message in a replica. -/
structure ReplicateOfflineEntry where
  topic : Str
  payload : Bytes
  qos : UInt8
  priority : ℤ
  createdAt : ℤ
  expiresAt : ℤ
deriving DecidableEq

/-- The messages of the replicator. -/
inductive ReplicateMessage
  | replicateOffline (clientID : Str) (messages : List ReplicateOfflineEntry)
  | replicateOfflineAck (clientID : Str) (success : Bool)
  | replicateWill (clientID topic : Str) (payload : Bytes) (qos : UInt8) (retain : Bool)
      (persistedAt : ℤ)
  | deleteWill (clientID : Str)
deriving DecidableEq

/-- The part of a node that keeps copies on others. -/
structure Replicator (H : Hashring R) where
  selfID : Str
  ring : Ring H
  replicaCount : ℤ

namespace Replicator

variable (r : Replicator H)

/-- The nodes that keep the copies for a client. -/
def replicaNodes (clientID : Str) : List NodeInfo :=
  (r.ring.locateDeviceN clientID r.replicaCount).filter fun n => n.id ≠ r.selfID

/-- Send a message to each of them: what is passed to `SendRaw`. -/
def sendToReplicas (clientID : Str) (msg : ReplicateMessage) : List (Str × ReplicateMessage) :=
  (r.replicaNodes clientID).map fun node => (node.id, msg)

def replicateOffline (clientID : Str) (entries : List ReplicateOfflineEntry) :
    List (Str × ReplicateMessage) :=
  r.sendToReplicas clientID (.replicateOffline clientID entries)

def clearOfflineReplica (clientID : Str) : List (Str × ReplicateMessage) :=
  r.sendToReplicas clientID (.replicateOfflineAck clientID true)

def replicateWill (clientID topic : Str) (payload : Bytes) (qos : UInt8) (retain : Bool) (now : ℤ) :
    List (Str × ReplicateMessage) :=
  r.sendToReplicas clientID (.replicateWill clientID topic payload qos retain now)

def deleteWill (clientID : Str) : List (Str × ReplicateMessage) :=
  r.sendToReplicas clientID (.deleteWill clientID)

end Replicator

/-! ### Placement -/

section Weights

variable {virtualNodes : ℤ} {nodes : List NodeInfo}

lemma equalWeights_pos (hpos : 0 < virtualNodes) (nodes : List NodeInfo) (id : Str) (w : ℤ)
    (h : (equalWeights virtualNodes (nodes.map NodeInfo.id)).lookup id = some w) : 0 < w := by
  rw [lookup_equalWeights] at h
  obtain ⟨info, -, rfl⟩ := Option.map_eq_some_iff.1 h
  exact hpos

/-- The members of the ring are the IDs of the nodes. -/
lemma exists_of_mem_equalWeights {id : Str}
    (h : id ∈ equalWeights virtualNodes (nodes.map NodeInfo.id)) :
    ∃ info ∈ nodes, info.id = id ∧ (nodesByID nodes).lookup id = some info := by
  rw [← AList.lookup_isSome, lookup_equalWeights, Option.isSome_map] at h
  obtain ⟨info, hinfo⟩ := Option.isSome_iff_exists.1 h
  obtain ⟨hmem, hid⟩ := id_of_lookup_nodesByID hinfo
  exact ⟨info, hmem, hid, hinfo⟩

lemma perm_keys_equalWeights (hids : (nodes.map NodeInfo.id).Nodup) :
    (equalWeights virtualNodes (nodes.map NodeInfo.id)).keys.Perm (nodes.map NodeInfo.id) := by
  refine (List.perm_ext_iff_of_nodup (AList.keys_nodup _) hids).2 fun id => ?_
  rw [← AList.mem_keys, List.mem_map]
  constructor
  · intro h
    obtain ⟨info, hmem, hid, -⟩ := exists_of_mem_equalWeights h
    exact ⟨info, hmem, hid⟩
  · rintro ⟨info, hmem, rfl⟩
    rw [← AList.lookup_isSome, lookup_equalWeights, lookup_nodesByID_of_mem hids hmem]
    rfl

lemma length_keys_equalWeights (virtualNodes : ℤ) (hids : (nodes.map NodeInfo.id).Nodup) :
    (equalWeights virtualNodes (nodes.map NodeInfo.id)).keys.length = nodes.length := by
  rw [(perm_keys_equalWeights hids).length_eq, List.length_map]

end Weights

namespace Ring

variable {r : Ring H} {nodes : List NodeInfo}

/-- `LocateDeviceN` returns as many of the nodes as it is asked for, or all of them if there are
fewer: distinct ones, and first of all the one that is responsible for the device. -/
structure Placed (r : Ring H) (nodes : List NodeInfo) (deviceID : Str) (n : ℤ) : Prop where
  length_eq : ((r.locateDeviceN deviceID n).length : ℤ) = min n nodes.length
  nodup : (r.locateDeviceN deviceID n).Nodup
  subset : ∀ info ∈ r.locateDeviceN deviceID n, info ∈ nodes
  head_eq : ∃ primary, r.locateDevice deviceID = some primary ∧
    (r.locateDeviceN deviceID n).head? = some primary

lemma locateDevice_update (r : Ring H) (nodes : List NodeInfo) (deviceID : Str) :
    (r.update nodes).locateDevice deviceID =
      (H.getNode (H.newWithWeights (equalWeights r.virtualNodes (nodes.map NodeInfo.id)))
        deviceID).bind fun id => (nodesByID nodes).lookup id := by
  rw [locateDevice, update]
  cases H.getNode (H.newWithWeights (equalWeights r.virtualNodes (nodes.map NodeInfo.id)))
    deviceID <;> rfl

lemma locateDeviceN_update (r : Ring H) (nodes : List NodeInfo) (deviceID : Str) (n : ℤ) :
    (r.update nodes).locateDeviceN deviceID n =
      ((H.getNodes (H.newWithWeights (equalWeights r.virtualNodes (nodes.map NodeInfo.id)))
        deviceID n).getD []).filterMap fun id => (nodesByID nodes).lookup id := by
  rw [locateDeviceN, update]
  cases H.getNodes (H.newWithWeights (equalWeights r.virtualNodes (nodes.map NodeInfo.id)))
    deviceID n <;> rfl

/-- IDs of nodes are looked up one by one, and none is lost. -/
lemma map_id_filterMap {ids : List Str}
    (h : ∀ id ∈ ids, ∃ info ∈ nodes, info.id = id ∧ (nodesByID nodes).lookup id = some info) :
    (ids.filterMap fun id => (nodesByID nodes).lookup id).map NodeInfo.id = ids := by
  induction ids with
  | nil => rfl
  | cons id ids ih =>
    obtain ⟨⟨info, -, hid, hl⟩, hids⟩ := List.forall_mem_cons.1 h
    have hcons := List.filterMap_cons_some (f := fun id => (nodesByID nodes).lookup id)
      (l := ids) hl
    rw [hcons, List.map_cons, hid, ih hids]

lemma placed_of_le (hH : H.Lawful) (r : Ring H) (hids : (nodes.map NodeInfo.id).Nodup)
    (deviceID : Str) {n : ℤ} (hn : 1 ≤ n) (hle : n ≤ nodes.length) :
    Placed (r.update nodes) nodes deviceID n := by
  have hpos := equalWeights_pos r.virtualNodes_pos nodes
  have hkeys := length_keys_equalWeights r.virtualNodes hids
  obtain ⟨ids, hgetNodes, hlen, hnodup, hmem, hhead⟩ :=
    hH.getNodes_of_le hpos deviceID hn (by rwa [hkeys])
  have hfound := fun id hid => exists_of_mem_equalWeights (hmem id hid)
  have hlocate := r.locateDeviceN_update nodes deviceID n
  rw [hgetNodes, Option.getD_some] at hlocate
  have hmap := map_id_filterMap hfound
  refine ⟨?_, ?_, ?_, ?_⟩
  · rw [hlocate, min_eq_left hle, ← hlen, ← List.length_map NodeInfo.id, hmap]
  · rw [hlocate]
    exact List.Nodup.of_map NodeInfo.id (by rwa [hmap])
  · rw [hlocate]
    intro info hinfo
    obtain ⟨id, -, hl⟩ := List.mem_filterMap.1 hinfo
    exact (id_of_lookup_nodesByID hl).1
  · -- the list starts with the member that `GetNode` names
    cases ids with
    | nil =>
      rw [List.length_nil] at hlen
      omega
    | cons id ids =>
      obtain ⟨info, -, -, hl⟩ := hfound id List.mem_cons_self
      refine ⟨info, ?_, ?_⟩
      · rw [locateDevice_update, ← hhead]
        exact hl
      · have hcons := List.filterMap_cons_some (f := fun id => (nodesByID nodes).lookup id)
          (l := ids) hl
        rw [hlocate, hcons, List.head?_cons]

/-- With more replicas than nodes there are none. -/
lemma locateDeviceN_of_lt (hH : H.Lawful) (r : Ring H) (hids : (nodes.map NodeInfo.id).Nodup)
    (deviceID : Str) {n : ℤ} (hlt : nodes.length < n) :
    (r.update nodes).locateDeviceN deviceID n = [] := by
  have hkeys := length_keys_equalWeights r.virtualNodes hids
  have hnone := hH.getNodes_of_lt (equalWeights_pos r.virtualNodes_pos nodes) deviceID
    (by rwa [hkeys] : _ < n)
  rw [locateDeviceN_update, hnone]
  rfl

/-- With as many replicas as nodes every node is one. -/
lemma mem_locateDeviceN (hH : H.Lawful) (r : Ring H) (hne : nodes ≠ [])
    (hids : (nodes.map NodeInfo.id).Nodup) (deviceID : Str) {node : NodeInfo} (h : node ∈ nodes) :
    node ∈ (r.update nodes).locateDeviceN deviceID nodes.length := by
  have hpos := List.length_pos_iff.2 hne
  have hplaced := placed_of_le hH r hids deviceID (n := nodes.length) (by omega) le_rfl
  have hlen := hplaced.length_eq
  rw [min_self, Int.natCast_inj] at hlen
  have hperm := (List.subperm_of_subset hplaced.nodup hplaced.subset).perm_of_length_le hlen.ge
  exact hperm.mem_iff.2 h

end Ring

/-- **Placement of the replicas.**  After `Update` with distinct nodes `LocateDeviceN` places the
replicas of every device exactly if it is not asked for more of them than there are nodes.  With
more of them the replicator does not send to the other nodes, if there are any. -/
theorem replica_placement_iff (hH : H.Lawful) (r : Ring H) {nodes : List NodeInfo}
    (hne : nodes ≠ []) (hids : (nodes.map NodeInfo.id).Nodup) (deviceID : Str) {n : ℤ}
    (hn : 1 ≤ n) :
    (Ring.Placed (r.update nodes) nodes deviceID n ↔ n ≤ nodes.length) ∧
    ∀ selfID msg, nodes.length ≤ n →
      ((∀ node ∈ nodes, node.id ≠ selfID →
        (node.id, msg) ∈ Replicator.sendToReplicas ⟨selfID, r.update nodes, n⟩ deviceID msg) ↔
        n = nodes.length ∨ ∀ node ∈ nodes, node.id = selfID) := by
  have hpos := List.length_pos_iff.2 hne
  refine ⟨⟨fun h => ?_, Ring.placed_of_le hH r hids deviceID hn⟩, fun selfID msg hle => ?_⟩
  · by_contra hlt
    have hlen := h.length_eq
    rw [Ring.locateDeviceN_of_lt hH r hids deviceID (by omega), List.length_nil] at hlen
    omega
  · have hsend : ∀ node : NodeInfo, (node.id, msg) ∈
        Replicator.sendToReplicas ⟨selfID, r.update nodes, n⟩ deviceID msg ↔
          ∃ node' ∈ (r.update nodes).locateDeviceN deviceID n,
            node'.id ≠ selfID ∧ node'.id = node.id := by
      intro node
      simp [Replicator.sendToReplicas, Replicator.replicaNodes, and_assoc]
    simp only [hsend]
    rcases hle.lt_or_eq with hlt | rfl
    · -- there is no replica
      rw [Ring.locateDeviceN_of_lt hH r hids deviceID hlt]
      constructor
      · intro h
        refine Or.inr fun node hnode => ?_
        by_contra hself
        obtain ⟨node', hnode', -⟩ := h node hnode hself
        cases hnode'
      · rintro (heq | hself) node hnode hne'
        · omega
        · exact absurd (hself node hnode) hne'
    · refine iff_of_true (fun node hnode hself => ?_) (Or.inl rfl)
      exact ⟨node, Ring.mem_locateDeviceN hH r hne hids deviceID hnode, hself, rfl⟩

/-! ### A ring that keeps to the contract -/

namespace Hashring

/-- The members in the order of their names, whatever the key is. -/
def inNameOrder : Hashring (GoMap Str ℤ) where
  new nodes := nodes.foldl (fun m name => m.insert name 1) ∅
  newWithWeights weights := weights
  getNode r _ := (r.keys.insertionSort (· ≤ ·)).head?
  getNodes r _ size :=
    if size ≤ r.keys.length then some ((r.keys.insertionSort (· ≤ ·)).take size.toNat) else none

lemma lawful_inNameOrder : inNameOrder.Lawful where
  getNode_mem {weights} _ hne key := by
    have hperm := List.perm_insertionSort (· ≤ ·) weights.keys
    cases hsorted : weights.keys.insertionSort (· ≤ ·) with
    | nil =>
      rw [hsorted] at hperm
      exact absurd (List.nil_perm.1 hperm) hne
    | cons id ids =>
      refine ⟨id, ?_, congrArg List.head? hsorted⟩
      rw [AList.mem_keys, ← hperm.mem_iff, hsorted]
      exact List.mem_cons_self
  getNodes_of_le {weights} _ key size hsize hle := by
    have hperm := List.perm_insertionSort (· ≤ ·) weights.keys
    have htake := List.take_sublist size.toNat (weights.keys.insertionSort (· ≤ ·))
    refine ⟨(weights.keys.insertionSort (· ≤ ·)).take size.toNat, if_pos hle, ?_, ?_,
      fun id hid => ?_, ?_⟩
    · rw [List.length_take, hperm.length_eq]
      omega
    · exact (hperm.nodup_iff.2 (AList.keys_nodup weights)).sublist htake
    · exact AList.mem_keys.2 (hperm.subset (htake.subset hid))
    · rw [List.head?_take, if_neg (by omega)]
      rfl
  getNodes_of_lt {weights} _ key size hlt := if_neg (not_le.2 hlt)

end Hashring

/-- A node with this ID. -/
def sampleNode (id : String) : NodeInfo := ⟨str id, str "host", 7946, 7947, 1883, 8080, []⟩

/-- Two replicas on three nodes. -/
theorem replica_placement_three :
    let nodes := [sampleNode "A", sampleNode "B", sampleNode "C"]
    (nodes.map NodeInfo.id).Nodup ∧
      Ring.Placed ((Ring.newRing Hashring.inNameOrder 150).update nodes) nodes (str "d") 2 := by
  have hids : ([sampleNode "A", sampleNode "B", sampleNode "C"].map NodeInfo.id).Nodup := by decide
  exact ⟨hids, (replica_placement_iff Hashring.lawful_inNameOrder _ (by simp) hids (str "d")
    (by norm_num)).1.2 (by simp)⟩

/-- Three replicas on two nodes: there is none, and the other node is not sent a copy. -/
theorem replica_placement_fails :
    let nodes := [sampleNode "A", sampleNode "B"]
    let ring := (Ring.newRing Hashring.inNameOrder 150).update nodes
    Hashring.inNameOrder.Lawful ∧ (nodes.map NodeInfo.id).Nodup ∧
      ring.locateDeviceN (str "d") 3 = [] ∧ ¬ Ring.Placed ring nodes (str "d") 3 ∧
      Replicator.replicateOffline ⟨str "A", ring, 3⟩ (str "d") [] = [] := by
  have hnil : ((Ring.newRing Hashring.inNameOrder 150).update
      [sampleNode "A", sampleNode "B"]).locateDeviceN (str "d") 3 = [] := by decide
  refine ⟨Hashring.lawful_inNameOrder, by decide, hnil, fun h => ?_, by decide⟩
  have hlen := h.length_eq
  rw [hnil] at hlen
  simp at hlen

end Dmqtt.Cluster
