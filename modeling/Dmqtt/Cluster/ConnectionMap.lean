/-
The connection index as a map from devices to nodes (`internal/cluster/connections.go`).

The index has the node of each device, and the devices of each node.  `Consistent` says that the one
is the inverse of the other; every operation preserves it, and with it the index shows the map that
results from moving and erasing devices (`connectionIndex_refines`).
-/
import Dmqtt.Cluster.DeadNode
import Mathlib.Data.Set.Card

namespace Dmqtt.Cluster

open Lib

/-! ### The abstract map -/

/-- The node of each device. -/
abbrev DeviceMap := Str → Option Str

/-- The operations that change the index. -/
inductive ConnectionOp
  | add (deviceID nodeID : Str)
  | remove (deviceID : Str)
  | removeNode (nodeID : Str)
  | setMigrating (deviceID : Str) (migrating : Bool)
deriving DecidableEq

namespace DeviceMap

/-- The map without devices. -/
def empty : DeviceMap := fun _ => none

/-- Move a device, erase it, or erase all devices at a node. -/
def apply (m : DeviceMap) : ConnectionOp → DeviceMap
  | .add deviceID nodeID => fun d => if d = deviceID then some nodeID else m d
  | .remove deviceID => fun d => if d = deviceID then none else m d
  | .removeNode nodeID => fun d => if m d = some nodeID then none else m d
  | .setMigrating _ _ => m

/-- The devices of the map. -/
def support (m : DeviceMap) : Set Str := {d | (m d).isSome}

end DeviceMap

namespace ConnectionIndex

/-- Execute an operation. -/
def apply (idx : ConnectionIndex) : ConnectionOp → ConnectionIndex
  | .add deviceID nodeID => idx.add deviceID nodeID
  | .remove deviceID => idx.remove deviceID
  | .removeNode nodeID => idx.removeNode nodeID
  | .setMigrating deviceID migrating => idx.setMigrating deviceID migrating

/-- The number of devices. -/
def count (idx : ConnectionIndex) : ℕ := idx.devices.keys.length

/-! ### The two maps -/

/-- A device is in the set of its node, and in no other set; no set is empty. -/
structure Consistent (idx : ConnectionIndex) : Prop where
  mem_iff : ∀ {n d}, (NestedMap.get idx.byNode n d).isSome ↔ idx.lookup d = some n
  noEmpty : NestedMap.NoEmpty idx.byNode

variable {idx : ConnectionIndex}

lemma consistent_new : Consistent new where
  mem_iff := by simp [new, lookup, NestedMap.get_empty]
  noEmpty := NestedMap.noEmpty_empty

/-- The set of the new node loses nothing, the set of the old one the device. -/
lemma Consistent.get_withoutOld (h : idx.Consistent) (deviceID nodeID n d : Str) :
    (NestedMap.get (idx.withoutOld deviceID nodeID) n d).isSome ↔
      idx.lookup d = some n ∧ (d = deviceID → n = nodeID) := by
  rw [withoutOld, ← h.mem_iff]
  cases hl : idx.devices.lookup deviceID with
  | none =>
    refine ⟨fun hget => ⟨hget, ?_⟩, And.left⟩
    rintro rfl
    rw [h.mem_iff, lookup, hl] at hget
    cases hget
  | some prev =>
    dsimp only
    by_cases hprev : prev = nodeID
    · -- the device stays where it is
      subst hprev
      rw [if_neg (not_not.2 rfl)]
      refine ⟨fun hget => ⟨hget, ?_⟩, And.left⟩
      rintro rfl
      rw [h.mem_iff, lookup, hl] at hget
      exact (Option.some.inj hget).symm
    · rw [if_pos hprev, takeFrom_eq_delete, NestedMap.get_delete]
      split_ifs with hkey
      · obtain ⟨rfl, rfl⟩ := hkey
        exact iff_of_false (by simp) fun hget => hprev (hget.2 rfl)
      · refine ⟨fun hget => ⟨hget, ?_⟩, And.left⟩
        rintro rfl
        rw [h.mem_iff, lookup, hl] at hget
        exact absurd ⟨(Option.some.inj hget).symm, rfl⟩ hkey

lemma Consistent.noEmpty_withoutOld (h : idx.Consistent) (deviceID nodeID : Str) :
    NestedMap.NoEmpty (idx.withoutOld deviceID nodeID) := by
  rw [withoutOld]
  cases idx.devices.lookup deviceID with
  | none => exact h.noEmpty
  | some prev =>
    dsimp only
    split_ifs
    · rw [takeFrom_eq_delete]
      exact h.noEmpty.delete prev deviceID
    · exact h.noEmpty

lemma Consistent.add (h : idx.Consistent) (deviceID nodeID : Str) :
    (idx.add deviceID nodeID).Consistent where
  mem_iff {n d} := by
    have hput : (idx.add deviceID nodeID).byNode =
        NestedMap.put (idx.withoutOld deviceID nodeID) nodeID deviceID () := byNode_add ..
    rw [hput, NestedMap.get_put, lookup_add]
    by_cases hd : d = deviceID
    · subst hd
      rw [if_pos rfl, Option.some_inj]
      by_cases hn : n = nodeID
      · simp [hn]
      · rw [if_neg fun heq => hn heq.1, h.get_withoutOld]
        exact iff_of_false (fun hget => hn (hget.2 rfl)) (Ne.symm hn)
    · rw [if_neg fun heq => hd heq.2, if_neg hd, h.get_withoutOld]
      exact and_iff_left fun heq => absurd heq hd
  noEmpty := by
    rw [byNode_add]
    exact (h.noEmpty_withoutOld deviceID nodeID).put nodeID deviceID ()

lemma Consistent.remove (h : idx.Consistent) (deviceID : Str) :
    (idx.remove deviceID).Consistent := by
  cases hl : idx.devices.lookup deviceID with
  | none =>
    have hsame : idx.remove deviceID = idx := by rw [ConnectionIndex.remove, hl]
    rwa [hsame]
  | some nodeID =>
    have hbyNode : (idx.remove deviceID).byNode =
        NestedMap.delete idx.byNode nodeID deviceID := by
      rw [ConnectionIndex.remove, hl, ← takeFrom_eq_delete]
      rfl
    constructor
    · intro n d
      rw [hbyNode, NestedMap.get_delete, lookup_remove]
      by_cases hd : d = deviceID
      · subst hd
        rw [if_pos rfl]
        refine iff_of_false ?_ (by simp)
        split_ifs with hn
        · simp
        · rw [h.mem_iff, lookup, hl, Option.some_inj]
          exact fun heq => hn ⟨heq.symm, rfl⟩
      · rw [if_neg fun heq => hd heq.2, if_neg hd, h.mem_iff]
    · rw [hbyNode]
      exact h.noEmpty.delete nodeID deviceID

lemma Consistent.lookup_removeNode (h : idx.Consistent) (nodeID d : Str) :
    (idx.removeNode nodeID).lookup d =
      if idx.lookup d = some nodeID then none else idx.lookup d := by
  rw [ConnectionIndex.removeNode]
  cases hdevs : idx.byNode.lookup nodeID with
  | none =>
    rw [if_neg]
    rw [← h.mem_iff, NestedMap.get, hdevs]
    simp
  | some devs =>
    have hmem : d ∈ devs.keys ↔ idx.lookup d = some nodeID := by
      rw [← h.mem_iff, NestedMap.get_of_lookup hdevs, AList.lookup_isSome, AList.mem_keys]
    rw [lookup, GoMap.lookup_foldl_erase]
    simp only [hmem]
    rfl

lemma Consistent.removeNode (h : idx.Consistent) (nodeID : Str) :
    (idx.removeNode nodeID).Consistent where
  mem_iff {n d} := by
    have hget : (NestedMap.get (idx.removeNode nodeID).byNode n d).isSome ↔
        n ≠ nodeID ∧ (NestedMap.get idx.byNode n d).isSome := by
      rw [ConnectionIndex.removeNode]
      cases hdevs : idx.byNode.lookup nodeID with
      | none =>
        refine ⟨fun hget => ⟨?_, hget⟩, And.right⟩
        rintro rfl
        rw [NestedMap.get, hdevs] at hget
        cases hget
      | some devs =>
        rw [NestedMap.get_erase]
        by_cases hn : n = nodeID
        · simp [hn]
        · simp [hn]
    rw [hget, h.lookup_removeNode, h.mem_iff]
    split_ifs with hd
    · rw [hd, Option.some_inj]
      exact iff_of_false (fun hn => hn.1 hn.2.symm) (by simp)
    · refine and_iff_right_of_imp fun hl hn => hd ?_
      rw [hl, hn]
  noEmpty := by
    rw [ConnectionIndex.removeNode]
    cases idx.byNode.lookup nodeID with
    | none => exact h.noEmpty
    | some devs => exact h.noEmpty.erase nodeID

/-! ### Refinement -/

/-- The index shows the abstract map: its two maps are inverse to each other without an empty set,
and the queries answer what the map says. -/
structure Refines (idx : ConnectionIndex) (m : DeviceMap) : Prop where
  /-- a device is in the set of the node that is recorded for it -/
  inverse : ∀ d n, idx.devices.lookup d = some n ↔
    ∃ devs, idx.byNode.lookup n = some devs ∧ d ∈ devs
  /-- and in the set of no other node -/
  unique : ∀ d n n' devs devs', idx.byNode.lookup n = some devs → d ∈ devs →
    idx.byNode.lookup n' = some devs' → d ∈ devs' → n = n'
  nonempty : ∀ n devs, idx.byNode.lookup n = some devs → devs.entries ≠ []
  lookup_eq : ∀ d, idx.lookup d = m d
  nodup_nodeDevices : ∀ n, (idx.nodeDevices n).Nodup
  mem_nodeDevices : ∀ n d, d ∈ idx.nodeDevices n ↔ m d = some n
  encard_support : m.support.encard = idx.count

lemma encard_lookup (idx : ConnectionIndex) :
    (DeviceMap.support idx.lookup).encard = idx.count := by
  have hset : DeviceMap.support idx.lookup = (idx.devices.keys.toFinset : Set Str) := by
    ext d
    rw [DeviceMap.support, Set.mem_ofPred_eq, lookup, AList.lookup_isSome, AList.mem_keys]
    simp
  rw [hset, Set.encard_coe_eq_coe_finsetCard,
    List.toFinset_card_of_nodup (AList.keys_nodup idx.devices), count]

lemma Consistent.refines (h : idx.Consistent) : Refines idx idx.lookup where
  inverse d n := by
    rw [← NestedMap.isSome_get_iff]
    exact h.mem_iff.symm
  unique d n n' devs devs' hn hd hn' hd' := by
    rw [← AList.lookup_isSome, ← NestedMap.get_of_lookup hn, h.mem_iff] at hd
    rw [← AList.lookup_isSome, ← NestedMap.get_of_lookup hn', h.mem_iff, hd] at hd'
    exact Option.some.inj hd'
  nonempty := h.noEmpty
  lookup_eq _ := rfl
  nodup_nodeDevices n := AList.keys_nodup _
  mem_nodeDevices n d := by rw [mem_nodeDevices_iff, h.mem_iff]
  encard_support := idx.encard_lookup

/-- One operation on the index is that operation on the map. -/
lemma Consistent.apply (h : idx.Consistent) (op : ConnectionOp) :
    (idx.apply op).Consistent ∧ (idx.apply op).lookup = DeviceMap.apply idx.lookup op := by
  cases op with
  | add deviceID nodeID => exact ⟨h.add .., funext fun d => idx.lookup_add ..⟩
  | remove deviceID => exact ⟨h.remove .., funext fun d => idx.lookup_remove ..⟩
  | removeNode nodeID => exact ⟨h.removeNode .., funext fun d => h.lookup_removeNode ..⟩
  | setMigrating deviceID migrating => exact ⟨⟨h.mem_iff, h.noEmpty⟩, rfl⟩

lemma Consistent.foldl (h : idx.Consistent) (ops : List ConnectionOp) :
    (ops.foldl ConnectionIndex.apply idx).Consistent ∧
      (ops.foldl ConnectionIndex.apply idx).lookup = ops.foldl DeviceMap.apply idx.lookup := by
  induction ops generalizing idx with
  | nil => exact ⟨h, rfl⟩
  | cons op ops ih =>
    obtain ⟨hnext, hlookup⟩ := h.apply op
    rw [List.foldl_cons, List.foldl_cons, ← hlookup]
    exact ih hnext

/-- **The index refines the map.**  After any sequence of `Add`, `Remove`, `RemoveNode` and
`SetMigrating` the two maps of the index are inverse to each other, and `Lookup`, `NodeDevices` and
`Count` answer for the map that results from moving and erasing devices. -/
theorem connectionIndex_refines (ops : List ConnectionOp) :
    Refines (ops.foldl ConnectionIndex.apply new) (ops.foldl DeviceMap.apply DeviceMap.empty) := by
  obtain ⟨h, hlookup⟩ := consistent_new.foldl ops
  have hempty : new.lookup = DeviceMap.empty := rfl
  rw [← hempty, ← hlookup]
  exact h.refines

end ConnectionIndex

end Dmqtt.Cluster
