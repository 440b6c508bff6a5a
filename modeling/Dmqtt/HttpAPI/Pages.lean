/-
The pages of the device list of a node (`handleDevices` of `internal/httpapi/server.go`).

The number of the page and its size come as text.  Whatever the text is, the slice that is taken
lies within the list of the clients, and page after page the slices make up the whole list:
`paging_partitions`.  The clients come in the order of a Go map, another one for each request.
-/
import Dmqtt.HttpAPI.Devices

namespace Dmqtt.HttpAPI

open Lib Codec

/-! ### The query -/

/-- The loop of `strconv.ParseUint` behind digits with the value `n`: the value, or the largest
one if that is out of range, or nothing if there is a character that is not a digit. -/
def parseDigits : ℕ → Str → Option ℕ
  | n, [] => some n
  | n, c :: cs =>
    if c < 0x30 ∨ c > 0x39 then none
    else
      let n := n * 10 + (c.toNat - 0x30)
      -- what is out of range is not read to the end
      if n ≥ 2 ^ 64 then some (2 ^ 64 - 1) else parseDigits n cs

/-- The number that `strconv.Atoi` returns: zero for what is no number, and the nearest number for
what is out of range. -/
def atoi (s : Str) : ℤ :=
  let (neg, digits) := match s with
    | 0x2D :: cs => (true, cs)
    | 0x2B :: cs => (false, cs)
    | cs => (false, cs)
  match if digits = [] then none else parseDigits 0 digits with
  | none => 0
  | some n => if neg then max (-2 ^ 63) (-n) else min (2 ^ 63 - 1) n

example : atoi (str "25") = 25 ∧ atoi (str "-3") = -3 ∧ atoi (str "all") = 0 ∧ atoi [] = 0 ∧
    atoi (str "99999999999999999999x") = 2 ^ 63 - 1 := by decide

/-! ### The slice of a page -/

/-- The bounds of the slice that `handleDevices` takes. -/
def pageBounds (total : ℕ) (page perPage : ℤ) : ℤ × ℤ :=
  let page := if page < 1 then 1 else page
  let page := if page > 10000 then 10000 else page
  let perPage := if perPage < 1 then 20 else perPage
  let perPage := if perPage > 100 then 100 else perPage
  let first := (page - 1) * perPage
  let first := if first < 0 ∨ first > total then (total : ℤ) else first
  let last := if first + perPage > total then (total : ℤ) else first + perPage
  (first, last)

lemma pageBounds_le (total : ℕ) (page perPage : ℤ) :
    0 ≤ (pageBounds total page perPage).1 ∧
      (pageBounds total page perPage).1 ≤ (pageBounds total page perPage).2 ∧
      (pageBounds total page perPage).2 ≤ total := by
  have hsize : 0 < if (if perPage < 1 then 20 else perPage) > 100 then 100
      else if perPage < 1 then 20 else perPage := by
    split_ifs <;> omega
  dsimp only [pageBounds]
  generalize (if (if perPage < 1 then 20 else perPage) > 100 then 100
      else if perPage < 1 then 20 else perPage) = size at hsize ⊢
  generalize ((if (if page < 1 then 1 else page) > 10000 then 10000
      else if page < 1 then 1 else page) - 1) * size = first
  refine ⟨?_, ?_, ?_⟩ <;> split_ifs <;> omega

lemma pageBounds_eq {total i p : ℕ} (hp : 1 ≤ p) (hp' : p ≤ 100) (hi : i < 10000) :
    pageBounds total (i + 1 : ℕ) p =
      (((min (i * p) total : ℕ) : ℤ), ((min (i * p + p) total : ℕ) : ℤ)) := by
  have hpage : ¬ ((i + 1 : ℕ) : ℤ) < 1 ∧ ¬ ((i + 1 : ℕ) : ℤ) > 10000 := by omega
  have hsize : ¬ (p : ℤ) < 1 ∧ ¬ (p : ℤ) > 100 := by omega
  have hfirst : (((i + 1 : ℕ) : ℤ) - 1) * p = (i * p : ℕ) := by push_cast; ring
  simp only [pageBounds, if_neg hpage.1, if_neg hpage.2, if_neg hsize.1, if_neg hsize.2, hfirst]
  generalize i * p = first
  ext <;> dsimp only <;> split_ifs <;> omega

variable (b : BrokerAPI) (nodeID : Str)

/-- The connected clients in the order of their IDs. -/
def BrokerAPI.sortedIDs : List Str := b.connectedClientIDs.mergeSort

lemma BrokerAPI.length_sortedIDs : b.sortedIDs.length = b.clients.keys.length :=
  List.length_mergeSort _

lemma BrokerAPI.mem_sortedIDs {b : BrokerAPI} {id : Str} : id ∈ b.sortedIDs ↔ id ∈ b.clients :=
  List.mem_mergeSort

lemma BrokerAPI.pairwise_sortedIDs : b.sortedIDs.Pairwise (· < ·) := by
  have hle : b.sortedIDs.Pairwise fun x y => decide (x ≤ y) = true :=
    List.pairwise_mergeSort (by simpa using fun x y z => List.le_trans)
      (by simpa using fun x y => List.le_total x y) b.connectedClientIDs
  have hnodup : b.sortedIDs.Nodup := (List.mergeSort_perm _ _).nodup_iff.2 b.clients.nodupKeys
  refine (hle.and hnodup).imp fun {x y} h => ?_
  by_contra hlt
  exact h.2 (List.le_antisymm (of_decide_eq_true h.1) (List.not_lt.1 hlt))

lemma BrokerAPI.sortedIDs_eq {b b' : BrokerAPI}
    (h : ∀ id, b'.clients.lookup id = b.clients.lookup id) : b'.sortedIDs = b.sortedIDs := by
  refine List.Perm.eq_of_pairwise (fun x y _ _ hxy hyx => absurd hxy (List.lt_asymm hyx))
    b'.pairwise_sortedIDs b.pairwise_sortedIDs ?_
  refine (List.perm_ext_iff_of_nodup b'.pairwise_sortedIDs.nodup b.pairwise_sortedIDs.nodup).2 ?_
  intro id
  rw [mem_sortedIDs, mem_sortedIDs, ← AList.lookup_isSome, ← AList.lookup_isSome, h]

/-- A page is a slice of the sorted list. -/
lemma BrokerAPI.exists_slice (page perPage : ℤ) :
    ∃ pageIDs, slice b.sortedIDs (pageBounds b.clients.keys.length page perPage).1.toNat
        (pageBounds b.clients.keys.length page perPage).2.toNat = some pageIDs ∧
      (b.handleDevices nodeID page perPage).devices = pageIDs.filterMap b.summary := by
  have hdevices : (b.handleDevices nodeID page perPage).devices =
      ((b.sortedIDs.take (pageBounds b.sortedIDs.length page perPage).2.toNat).drop
        (pageBounds b.sortedIDs.length page perPage).1.toNat).filterMap b.summary := rfl
  obtain ⟨hfirst, hle, hlast⟩ := pageBounds_le b.clients.keys.length page perPage
  rw [b.length_sortedIDs, List.drop_take] at hdevices
  exact ⟨_, slice_eq_some (by omega) (by rw [b.length_sortedIDs]; omega), hdevices⟩

/-! ### All pages -/

lemma flatMap_take_drop {α : Type*} (l : List α) (p k : ℕ) :
    ((List.range k).flatMap fun i => (l.drop (i * p)).take p) = l.take (k * p) := by
  induction k with
  | zero => simp
  | succ k ih =>
    rw [List.range_succ, List.flatMap_append, ih, List.flatMap_singleton, Nat.succ_mul,
      List.take_add]

lemma BrokerAPI.devices_page {i p : ℕ} (hp : 1 ≤ p) (hp' : p ≤ 100) (hi : i < 10000) :
    (b.handleDevices nodeID (i + 1 : ℕ) p).devices =
      ((b.sortedIDs.drop (i * p)).take p).filterMap b.summary := by
  obtain ⟨pageIDs, hslice, hdevices⟩ := b.exists_slice nodeID (i + 1 : ℕ) p
  rw [pageBounds_eq hp hp' hi, Int.toNat_natCast, Int.toNat_natCast, ← b.length_sortedIDs,
    slice_eq_some (by omega) (by omega)] at hslice
  rw [hdevices, ← Option.some_injective _ hslice]
  congr 1
  rcases le_total (i * p) b.sortedIDs.length with hle | hle
  · rw [min_eq_left hle, List.take_eq_take_iff, List.length_drop]
    omega
  · rw [List.drop_eq_nil_of_le hle, min_eq_right hle, List.drop_length, List.take_nil,
      List.take_nil]

lemma forall₂_filterMap {α β : Type*} {f : α → Option β} {l : List α}
    (h : ∀ a ∈ l, (f a).isSome) : List.Forall₂ (fun d a => f a = some d) (l.filterMap f) l := by
  induction l with
  | nil => exact .nil
  | cons a l ih =>
    obtain ⟨d, hd⟩ := Option.isSome_iff_exists.1 (h a List.mem_cons_self)
    rw [List.filterMap_cons_some hd]
    exact .cons hd (ih fun a' ha' => h a' (List.mem_cons_of_mem _ ha'))

lemma forall₂_flatMap {ι α β : Type*} {R : α → β → Prop} {f : ι → List α} {g : ι → List β}
    {l : List ι} (h : ∀ i ∈ l, List.Forall₂ R (f i) (g i)) :
    List.Forall₂ R (l.flatMap f) (l.flatMap g) := by
  induction l with
  | nil => exact .nil
  | cons i l ih =>
    rw [List.flatMap_cons, List.flatMap_cons]
    exact List.rel_append (h i List.mem_cons_self)
      (ih fun i' hi' => h i' (List.mem_cons_of_mem _ hi'))

/-- **Paging partitions the clients.**  The requests for the pages find the same clients, in any
order.  If pages of the size `p` are asked for and there are enough of them, their devices are
those of the connected clients, each once and in the order of the IDs.  And for every query the
slice is within the list. -/
theorem paging_partitions (requests : ℕ → BrokerAPI)
    (hrequests : ∀ i id, (requests i).clients.lookup id = b.clients.lookup id) (p k : ℕ)
    (hp : 1 ≤ p) (hp' : p ≤ 100) (hk : k ≤ 10000) (henough : b.clients.keys.length ≤ k * p) :
    (∃ ids : List Str, ids.Pairwise (· < ·) ∧ (∀ id, id ∈ ids ↔ id ∈ b.clients) ∧
      List.Forall₂ (fun d id => ∃ i, (requests i).summary id = some d)
        ((List.range k).flatMap fun i =>
          ((requests i).handleDevices nodeID (i + 1 : ℕ) p).devices) ids) ∧
    ∀ page perPage : Str,
      let bounds := pageBounds b.clients.keys.length (atoi page) (atoi perPage)
      0 ≤ bounds.1 ∧ bounds.1 ≤ bounds.2 ∧ bounds.2 ≤ b.clients.keys.length ∧
      ∃ pageIDs, slice b.connectedClientIDs.mergeSort bounds.1.toNat bounds.2.toNat =
          some pageIDs ∧
        (b.handleDevices nodeID (atoi page) (atoi perPage)).devices =
          pageIDs.filterMap b.summary := by
  refine ⟨⟨b.sortedIDs, b.pairwise_sortedIDs, fun _ => BrokerAPI.mem_sortedIDs, ?_⟩, ?_⟩
  · have hall := flatMap_take_drop b.sortedIDs p k
    rw [List.take_of_length_le (by rwa [b.length_sortedIDs])] at hall
    rw [← hall]
    refine forall₂_flatMap fun i hi => ?_
    rw [BrokerAPI.devices_page _ _ hp hp' (by have := List.mem_range.1 hi; omega),
      BrokerAPI.sortedIDs_eq (hrequests i)]
    refine (forall₂_filterMap fun id hid => ?_).imp fun d id hd => ⟨i, hd⟩
    refine BrokerAPI.isSome_summary (AList.mem_keys.1 ?_)
    rw [← AList.lookup_isSome, hrequests i, AList.lookup_isSome]
    exact BrokerAPI.mem_sortedIDs.1 (List.mem_of_mem_drop (List.mem_of_mem_take hid))
  · intro page perPage
    obtain ⟨hfirst, hle, hlast⟩ :=
      pageBounds_le b.clients.keys.length (atoi page) (atoi perPage)
    exact ⟨hfirst, hle, hlast, b.exists_slice nodeID (atoi page) (atoi perPage)⟩

/-- Three clients on two pages. -/
theorem paging_partitions_three :
    (sampleBroker 3).clients.keys.length = 3 ∧
    ∃ ids : List Str, ids.Pairwise (· < ·) ∧ (∀ id, id ∈ ids ↔ id ∈ (sampleBroker 3).clients) ∧
      List.Forall₂ (fun d id => ∃ _ : ℕ, (sampleBroker 3).summary id = some d)
        ((List.range 2).flatMap fun i =>
          ((sampleBroker 3).handleDevices (str "A") (i + 1 : ℕ) (2 : ℕ)).devices) ids :=
  ⟨by decide +kernel, (paging_partitions (sampleBroker 3) (str "A") (fun _ => sampleBroker 3)
    (fun _ _ => rfl) 2 2 (by decide) (by decide) (by decide) (by decide +kernel)).1⟩

end Dmqtt.HttpAPI
