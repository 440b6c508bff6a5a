/-
Which devices change their owner between two rings (`internal/cluster/diff.go`, and `Snapshot` of
`ring.go`).

`DiffOwnership` sorts the devices that have an owner in both rings, but not the same one, by the old
and the new owner.  Each list is what a filter takes from the devices (`get_diffOwnership`), so
nothing is lost, doubled or put in another order.  A snapshot is built from the nodes in the order
in which `range` happens to visit them; the owners are the same if the answers of `hashring` depend
on the weights only.
-/
import Dmqtt.Cluster.Ring
import Dmqtt.Lib.NestedMap
import Dmqtt.Lib.Trace

namespace Dmqtt.Cluster

open Lib

variable {R : Type} {H : Hashring R}

/-- The answers of the package depend on the weights of a ring only, as a map. -/
structure Hashring.Determined (H : Hashring R) : Prop where
  getNode_congr : ∀ {weights weights' : GoMap Str ℤ},
    (∀ id, weights.lookup id = weights'.lookup id) → ∀ key,
      H.getNode (H.newWithWeights weights) key = H.getNode (H.newWithWeights weights') key

/-- A ring of the nodes of a ring, which are visited in this order. -/
def Ring.snapshot (r : Ring H) (nodes : List NodeInfo) : Ring H :=
  (Ring.newRing H r.virtualNodes).update nodes

/-- The body of the loop of `DiffOwnership`. -/
def diffStep (oldRing newRing : Ring H) (result : GoMap Str (GoMap Str (List Str)))
    (deviceID : Str) : GoMap Str (GoMap Str (List Str)) :=
  match oldRing.locateDevice deviceID, newRing.locateDevice deviceID with
  | some oldOwner, some newOwner =>
    if oldOwner.id = newOwner.id then result
    else
      NestedMap.put result oldOwner.id newOwner.id
        ((NestedMap.get result oldOwner.id newOwner.id).getD [] ++ [deviceID])
  | _, _ => result

/-- The devices whose owner has changed, by the old owner and by the new one. -/
def diffOwnership (oldRing newRing : Ring H) (deviceIDs : List Str) :
    GoMap Str (GoMap Str (List Str)) :=
  deviceIDs.foldl (diffStep oldRing newRing) ∅

/-- Both rings locate the device, at different nodes. -/
def Moved (oldRing newRing : Ring H) (source target deviceID : Str) : Prop :=
  (oldRing.locateDevice deviceID).map NodeInfo.id = some source ∧
    (newRing.locateDevice deviceID).map NodeInfo.id = some target ∧ source ≠ target

instance (oldRing newRing : Ring H) (source target deviceID : Str) :
    Decidable (Moved oldRing newRing source target deviceID) :=
  inferInstanceAs (Decidable (_ ∧ _ ∧ _))

section Diff

variable (oldRing newRing : Ring H) {result : GoMap Str (GoMap Str (List Str))}

/-- A device that has moved is appended to the list of its two owners. -/
lemma diffStep_of_moved {source target deviceID : Str}
    (h : Moved oldRing newRing source target deviceID) :
    diffStep oldRing newRing result deviceID =
      NestedMap.put result source target
        ((NestedMap.get result source target).getD [] ++ [deviceID]) := by
  obtain ⟨hsource, htarget, hne⟩ := h
  obtain ⟨oldOwner, hold, rfl⟩ := Option.map_eq_some_iff.1 hsource
  obtain ⟨newOwner, hnew, rfl⟩ := Option.map_eq_some_iff.1 htarget
  rw [diffStep, hold, hnew]
  exact if_neg hne

lemma diffStep_of_not_moved {deviceID : Str}
    (h : ∀ source target, ¬ Moved oldRing newRing source target deviceID) :
    diffStep oldRing newRing result deviceID = result := by
  rw [diffStep]
  cases hold : oldRing.locateDevice deviceID with
  | none => rfl
  | some oldOwner =>
    cases hnew : newRing.locateDevice deviceID with
    | none => rfl
    | some newOwner =>
      refine if_pos ?_
      by_contra hne
      exact h oldOwner.id newOwner.id ⟨by rw [hold]; rfl, by rw [hnew]; rfl, hne⟩

lemma Moved.unique {oldRing newRing : Ring H} {source target source' target' deviceID : Str}
    (h : Moved oldRing newRing source target deviceID)
    (h' : Moved oldRing newRing source' target' deviceID) :
    source' = source ∧ target' = target := by
  have hsource := h'.1
  have htarget := h'.2.1
  rw [h.1] at hsource
  rw [h.2.1] at htarget
  exact ⟨(Option.some.inj hsource).symm, (Option.some.inj htarget).symm⟩

/-- One device: the list of its owners grows by it, the others stay. -/
lemma get_diffStep (deviceID source target : Str) :
    NestedMap.get (diffStep oldRing newRing result deviceID) source target =
      if Moved oldRing newRing source target deviceID then
        some ((NestedMap.get result source target).getD [] ++ [deviceID])
      else NestedMap.get result source target := by
  by_cases hmoved : ∃ source' target', Moved oldRing newRing source' target' deviceID
  · obtain ⟨source', target', hmoved⟩ := hmoved
    rw [diffStep_of_moved oldRing newRing hmoved, NestedMap.get_put]
    by_cases hkey : source = source' ∧ target = target'
    · obtain ⟨rfl, rfl⟩ := hkey
      rw [if_pos ⟨rfl, rfl⟩, if_pos hmoved]
    · rw [if_neg hkey, if_neg fun h => hkey (hmoved.unique h)]
  · have hnot : ∀ source target, ¬ Moved oldRing newRing source target deviceID :=
      fun source target h => hmoved ⟨source, target, h⟩
    rw [diffStep_of_not_moved oldRing newRing hnot, if_neg (hnot source target)]

lemma noEmpty_diffStep (h : NestedMap.NoEmpty result) (deviceID : Str) :
    NestedMap.NoEmpty (diffStep oldRing newRing result deviceID) := by
  by_cases hmoved : ∃ source target, Moved oldRing newRing source target deviceID
  · obtain ⟨source, target, hmoved⟩ := hmoved
    rw [diffStep_of_moved oldRing newRing hmoved]
    exact h.put source target _
  · rwa [diffStep_of_not_moved oldRing newRing fun source target h => hmoved ⟨source, target, h⟩]

/-- The loop lists what a filter takes from the devices. -/
lemma get_diffOwnership (deviceIDs : List Str) (source target : Str) :
    NestedMap.get (diffOwnership oldRing newRing deviceIDs) source target =
      let moved := deviceIDs.filter fun d => Moved oldRing newRing source target d
      if moved = [] then none else some moved := by
  induction deviceIDs using List.reverseRecOn with
  | nil => rfl
  | append_singleton deviceIDs d ih =>
    have hfold : diffOwnership oldRing newRing (deviceIDs ++ [d]) =
        diffStep oldRing newRing (diffOwnership oldRing newRing deviceIDs) d := by
      rw [diffOwnership, List.foldl_append]
      rfl
    rw [hfold, get_diffStep, ih, List.filter_append]
    by_cases hmoved : Moved oldRing newRing source target d
    · have hlast : [d].filter (fun d => Moved oldRing newRing source target d) = [d] :=
        List.filter_cons_of_pos (by simpa using hmoved)
      rw [if_pos hmoved, hlast]
      dsimp only
      rw [if_neg (List.concat_ne_nil d _)]
      split_ifs with hnil
      · rw [hnil, Option.getD_none]
      · rw [Option.getD_some]
    · have hlast : [d].filter (fun d => Moved oldRing newRing source target d) = [] :=
        List.filter_cons_of_neg (by simpa using hmoved)
      rw [if_neg hmoved, hlast, List.append_nil]

lemma noEmpty_diffOwnership (deviceIDs : List Str) :
    NestedMap.NoEmpty (diffOwnership oldRing newRing deviceIDs) := by
  refine foldl_invariant NestedMap.NoEmpty (fun _ _ => True) ?_ NestedMap.noEmpty_empty ?_
  · exact fun result d h _ => noEmpty_diffStep oldRing newRing h d
  · exact fun _ _ => trivial

end Diff

/-! ### Snapshots -/

lemma Ring.map_id_values (r : Ring H) :
    (r.nodes.entries.map fun e => e.2).map NodeInfo.id = r.nodes.keys := by
  rw [List.map_map, AList.keys, List.keys]
  refine List.map_congr_left fun e he => ?_
  exact r.keyed (AList.mem_lookup_iff.2 he)

lemma Ring.locateDevice_snapshot (hH : H.Determined) (r : Ring H) {nodes : List NodeInfo}
    (hnodes : nodes.Perm (r.nodes.entries.map fun e => e.2)) (deviceID : Str) :
    (r.snapshot nodes).locateDevice deviceID = r.locateDevice deviceID := by
  have hids : (nodes.map NodeInfo.id).Nodup := by
    rw [(hnodes.map NodeInfo.id).nodup_iff, r.map_id_values]
    exact AList.keys_nodup r.nodes
  have hlookup : ∀ id, (nodesByID nodes).lookup id = r.nodes.lookup id := by
    intro id
    refine Option.ext fun info => ?_
    constructor
    · intro h
      obtain ⟨hmem, rfl⟩ := id_of_lookup_nodesByID h
      obtain ⟨e, he, rfl⟩ := List.mem_map.1 (hnodes.subset hmem)
      have hl := AList.mem_lookup_iff.2 he
      rw [r.keyed hl]
      exact hl
    · intro h
      have hmem : info ∈ nodes :=
        hnodes.symm.subset (List.mem_map.2 ⟨⟨id, info⟩, AList.mem_lookup_iff.1 h, rfl⟩)
      rw [← r.keyed h]
      exact lookup_nodesByID_of_mem hids hmem
  rw [Ring.snapshot, Ring.locateDevice_update, Ring.locateDevice]
  simp only [hlookup]
  rcases r.built with ⟨-, hempty⟩ | ⟨weights, hring, hweights⟩
  · -- nothing is found in an empty map
    rw [hempty]
    cases H.getNode r.ring deviceID <;> simp
  · have hvirtual : (Ring.newRing H r.virtualNodes).virtualNodes = r.virtualNodes :=
      if_neg (not_le.2 r.virtualNodes_pos)
    have hsame : ∀ id, (equalWeights r.virtualNodes (nodes.map NodeInfo.id)).lookup id =
        weights.lookup id := by
      intro id
      rw [lookup_equalWeights, hlookup, hweights]
    rw [hring, hvirtual, hH.getNode_congr hsame]
    cases H.getNode (H.newWithWeights weights) deviceID <;> rfl

/-! ### The result -/

/-- The result of `DiffOwnership`: under two nodes the devices that have moved from the one to the
other, as often as they are given and in that order; no map and no list is empty. -/
structure ListsMoved (oldRing newRing : Ring H) (deviceIDs : List Str)
    (result : GoMap Str (GoMap Str (List Str))) : Prop where
  lists_eq : ∀ source target, (NestedMap.get result source target).getD [] =
    deviceIDs.filter fun d => Moved oldRing newRing source target d
  count_eq : ∀ source target d, ((NestedMap.get result source target).getD []).count d =
    if Moved oldRing newRing source target d then deviceIDs.count d else 0
  list_ne_nil : ∀ source target l, NestedMap.get result source target = some l → l ≠ []
  inner_ne_nil : ∀ source inner, result.lookup source = some inner → inner.entries ≠ []

lemma listsMoved_diffOwnership (oldRing newRing : Ring H) (deviceIDs : List Str) :
    ListsMoved oldRing newRing deviceIDs (diffOwnership oldRing newRing deviceIDs) := by
  have hlists : ∀ source target,
      (NestedMap.get (diffOwnership oldRing newRing deviceIDs) source target).getD [] =
        deviceIDs.filter fun d => Moved oldRing newRing source target d := by
    intro source target
    rw [get_diffOwnership]
    dsimp only
    split_ifs with hnil
    · rw [hnil, Option.getD_none]
    · rw [Option.getD_some]
  refine ⟨hlists, fun source target d => ?_, fun source target l hl => ?_,
    noEmpty_diffOwnership oldRing newRing deviceIDs⟩
  · rw [hlists]
    split_ifs with hmoved
    · exact List.count_filter (by simpa using hmoved)
    · refine List.count_eq_zero_of_not_mem fun hmem => hmoved ?_
      simpa using (List.mem_filter.1 hmem).2
  · rw [get_diffOwnership] at hl
    dsimp only at hl
    split_ifs at hl with hnil
    rwa [← Option.some.inj hl]

/-- **Changes of ownership.**  `DiffOwnership` lists the devices that have moved, and no others; and
between a snapshot of a ring and the ring no device has. -/
theorem diffOwnership_spec (H : Hashring R) :
    (∀ (oldRing newRing : Ring H) (deviceIDs : List Str),
      ListsMoved oldRing newRing deviceIDs (diffOwnership oldRing newRing deviceIDs)) ∧
    (H.Determined → ∀ (r : Ring H) (nodes : List NodeInfo),
      nodes.Perm (r.nodes.entries.map fun e => e.2) →
        ∀ deviceIDs, diffOwnership (r.snapshot nodes) r deviceIDs = ∅) := by
  refine ⟨listsMoved_diffOwnership, fun hH r nodes hnodes deviceIDs => ?_⟩
  have hnot : ∀ d source target, ¬ Moved (r.snapshot nodes) r source target d := by
    rintro d source target ⟨hold, hnew, hne⟩
    rw [r.locateDevice_snapshot hH hnodes, hnew] at hold
    exact hne (Option.some.inj hold).symm
  have hstep : ∀ result d, diffStep (r.snapshot nodes) r result d = result :=
    fun result d => diffStep_of_not_moved _ r (hnot d)
  rw [diffOwnership]
  exact foldl_frame (fun result => result) hstep deviceIDs ∅

lemma Hashring.determined_inNameOrder : inNameOrder.Determined where
  getNode_congr {weights weights'} h key := by
    have hperm : weights.keys.Perm weights'.keys := by
      refine (List.perm_ext_iff_of_nodup (AList.keys_nodup _) (AList.keys_nodup _)).2 fun id => ?_
      rw [← AList.mem_keys, ← AList.mem_keys, ← AList.lookup_isSome, ← AList.lookup_isSome, h id]
    have hsorted := List.Perm.eq_of_pairwise (fun a b _ _ => List.le_antisymm)
      (List.pairwise_insertionSort (· ≤ ·) weights.keys)
      (List.pairwise_insertionSort (· ≤ ·) weights'.keys)
      (((List.perm_insertionSort _ _).trans hperm).trans (List.perm_insertionSort _ _).symm)
    exact congrArg List.head? hsorted

/-- A node that comes first takes over the devices, also the one that is given twice; and the
snapshot of the new ring is not changed by the order of the nodes. -/
theorem diffOwnership_node_added :
    let oldRing := (Ring.newRing Hashring.inNameOrder 150).update [sampleNode "B"]
    let newRing := oldRing.update [sampleNode "B", sampleNode "A"]
    NestedMap.get (diffOwnership oldRing newRing [str "d", str "e", str "d"]) (str "B") (str "A") =
        some [str "d", str "e", str "d"] ∧
      diffOwnership (newRing.snapshot [sampleNode "A", sampleNode "B"]) newRing [str "d"] = ∅ := by
  refine ⟨by decide, ?_⟩
  exact (diffOwnership_spec _).2 Hashring.determined_inNameOrder _ _ (by decide) _

end Dmqtt.Cluster
