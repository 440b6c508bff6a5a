/-
The offline queues in persistent storage (`internal/broker/offline.go`).

Each change of a queue is written to the store as a sequence of calls: the rows of the client are
deleted and its queue is written again under keys `om/<client>/<number>`.  The sequence is part of
the result of an operation here, since a crash may cut it short.

The JSON encoding of a message is a parameter.  `offline_isolated_iff` says which rows of other
clients an operation deletes, and to which client a row is attributed when it is loaded.
-/
import Dmqtt.Broker.OfflineOrder
import Dmqtt.Broker.TopicMatcher
import Dmqtt.Storage
import Dmqtt.Lib.Decimal
import Mathlib.Data.List.TakeWhile

namespace Dmqtt.Broker

open Lib Storage

/-- The JSON encoding of messages: a message may have no encoding, and bytes need not encode
one. -/
structure MessageCodec where
  marshal : OfflineMessage → Option Bytes
  unmarshal : Bytes → Option OfflineMessage

/-! ### Keys -/

/-- What the keys of the messages of a client start with. -/
def keyRange (clientID : Str) : Bytes := str "om/" ++ clientID ++ str "/"

/-- The key of a message.  A number of 64 bits has at most twenty digits. -/
def messageKey (clientID : Str) (seq : UInt64) : Bytes :=
  keyRange clientID ++ decimal 20 seq.toNat

/-- The key of the next number of a client. -/
def seqKey (clientID : Str) : Bytes := str "om-seq/" ++ clientID

/-- `strings.TrimPrefix` -/
def trimStart (p s : Str) : Str := if p.isPrefixOf s then s.drop p.length else s

/-- The client to which a row is attributed: what stands before the first `/`. -/
def clientOf (key : Bytes) : Option Str :=
  let keyStr := trimStart (str "om/") key
  if slash ∈ keyStr then some (keyStr.takeWhile fun x => x ≠ slash) else none

/-! ### Operations -/

/-- An offline store with its storage. -/
structure OfflineStorage where
  mem : OfflineStore
  store : Store
  seqNums : GoMap Str UInt64

/-- Write a message under the next number of the client. -/
def persistMessage (j : MessageCodec) (clientID : Str) (msg : OfflineMessage)
    (seqNums : GoMap Str UInt64) : List Storage.Call × GoMap Str UInt64 :=
  let seq := (seqNums.lookup clientID).getD 0
  let seqNums := seqNums.insert clientID (seq + 1)
  match j.marshal msg with
  | none => ([], seqNums)
  | some data =>
    ([.set (messageKey clientID seq) data,
      .set (seqKey clientID) (BigEndian.put64 (seq + 1))], seqNums)

/-- Write messages one after the other. -/
def persistAll (j : MessageCodec) (clientID : Str) :
    List OfflineMessage → GoMap Str UInt64 → List Storage.Call × GoMap Str UInt64
  | [], seqNums => ([], seqNums)
  | msg :: queue, seqNums =>
    let out := persistMessage j clientID msg seqNums
    let rest := persistAll j clientID queue out.2
    (out.1 ++ rest.1, rest.2)

/-- Delete rows. -/
def deleteRows (rows : List Row) : List Storage.Call := rows.map fun row => .delete row.1

namespace OfflineStorage

variable (j : MessageCodec) (s : OfflineStorage)

/-- Write the queue of a client in place of what is stored for it. -/
def clearPebbleMessages (clientID : Str) : List Storage.Call × GoMap Str UInt64 :=
  let queue := s.mem.queue clientID
  let deletes := deleteRows (scan s.store (keyRange clientID))
  let sets := persistAll j clientID queue (s.seqNums.insert clientID 0)
  if queue = [] then
    (deletes ++ sets.1 ++ [.delete (seqKey clientID)], sets.2.erase clientID)
  else (deletes ++ sets.1, sets.2)

/-- Delete what is stored for a client. -/
def removeAllPebble (clientID : Str) : List Storage.Call × GoMap Str UInt64 :=
  (deleteRows (scan s.store (keyRange clientID)) ++ [.delete (seqKey clientID)],
    s.seqNums.erase clientID)

/-- Execute the calls of an operation. -/
def commit (x : List Storage.Call × GoMap Str UInt64) : OfflineStorage :=
  { s with store := x.1.foldl exec s.store, seqNums := x.2 }

/-- The calls of an `Enqueue`.  One that fails leaves the storage alone. -/
def enqueueCalls (clientID : Str) (msg : OfflineMessage) (now : ℤ) :
    List Storage.Call × GoMap Str UInt64 :=
  let out := s.mem.enqueue clientID msg now
  match out.1 with
  | .error _ => ([], s.seqNums)
  | .ok () => clearPebbleMessages j { s with mem := out.2 } clientID

/-- Queue a message. -/
def enqueue (clientID : Str) (msg : OfflineMessage) (now : ℤ) :
    Except Str Unit × OfflineStorage :=
  let out := s.mem.enqueue clientID msg now
  (out.1, { s with mem := out.2 }.commit (s.enqueueCalls j clientID msg now))

/-- Take messages off a queue.  There is nothing to write for a client without a queue. -/
def dequeue (clientID : Str) (maxCount : ℕ) (now : ℤ) : List OfflineMessage × OfflineStorage :=
  let out := s.mem.dequeue clientID maxCount now
  match s.mem.queues.lookup clientID with
  | none => (out.1, s)
  | some _ =>
    let s := { s with mem := out.2 }
    (out.1, s.commit (s.clearPebbleMessages j clientID))

/-- Remove a queue. -/
def removeAll (clientID : Str) : OfflineStorage :=
  let s := { s with mem := s.mem.removeAll clientID }
  s.commit (s.removeAllPebble clientID)

/-- Execute an operation at an instant. -/
def apply (x : ℤ × OfflineOp) : OfflineStorage :=
  match x.2 with
  | .enqueue clientID msg => (s.enqueue j clientID msg x.1).2
  | .dequeue clientID maxCount => (s.dequeue j clientID maxCount x.1).2
  | .removeAll clientID => s.removeAll clientID

/-- Load one row: append its message to the queue of its client. -/
def loadRow (queues : GoMap Str (List OfflineMessage)) (row : Row) :
    GoMap Str (List OfflineMessage) :=
  match clientOf row.1, j.unmarshal row.2 with
  | some clientID, some msg =>
    queues.insert clientID ((queues.lookup clientID).getD [] ++ [msg])
  | _, _ => queues

/-- Load one number. -/
def loadSeq (seqNums : GoMap Str UInt64) (row : Row) : GoMap Str UInt64 :=
  if row.2.length = 8 then
    seqNums.insert (trimStart (str "om-seq/") row.1) (BigEndian.get64 row.2)
  else seqNums

/-- Load the queues and the numbers from the store. -/
def loadFromStore : OfflineStorage :=
  { s with
    mem := { s.mem with queues := (scan s.store (str "om/")).foldl (loadRow j) s.mem.queues }
    seqNums := (scan s.store (str "om-seq/")).foldl loadSeq s.seqNums }

end OfflineStorage

/-! ### Whose key it is -/

variable {a : Str} (clientID b : Str) (seq : UInt64)

lemma keyRange_eq : keyRange clientID = str "om/" ++ (clientID ++ [slash]) := by
  rw [keyRange, List.append_assoc]
  rfl

lemma slash_notMem_decimal (w n : ℕ) : slash ∉ decimal w n := by
  intro h
  have hdigit := digit_of_mem_decimal h
  simp [slash] at hdigit

/-- A `/` that ends a prefix is the one behind `b` or one of `b`. -/
lemma append_slash_prefix_iff {b d : Str} (hd : slash ∉ d) :
    a ++ [slash] <+: b ++ slash :: d ↔ a = b ∨ a ++ [slash] <+: b := by
  constructor
  · rintro ⟨t, ht⟩
    rcases List.append_eq_append_iff.1 ht with ⟨c, hb, -⟩ | ⟨c, hac, hdt⟩
    · exact Or.inr ⟨c, hb.symm⟩
    · cases c with
      | nil => exact Or.inr ⟨[], by simpa using hac⟩
      | cons y c =>
        -- the rest of the prefix is `/`, as there is none among the digits
        obtain ⟨rfl, hd'⟩ := List.cons.inj hdt
        rcases List.eq_nil_or_concat c with rfl | ⟨c', z, rfl⟩
        · exact Or.inl (List.append_inj_left' hac rfl)
        · have hlast : a ++ [slash] = (b ++ slash :: c') ++ [z] := by simpa using hac
          have hz : slash = z := List.singleton_inj.1 (List.append_inj_right' hlast rfl)
          exact absurd (by simp [hd', hz]) hd
  · rintro (rfl | h)
    · exact ⟨d, by simp⟩
    · exact h.trans (List.prefix_append _ _)

lemma keyRange_prefix_messageKey {b : Str} {seq : UInt64} :
    keyRange a <+: messageKey b seq ↔ a = b ∨ a ++ [slash] <+: b := by
  have hkey : messageKey b seq = str "om/" ++ (b ++ slash :: decimal 20 seq.toNat) := by
    simp [messageKey, keyRange_eq]
  rw [hkey, keyRange_eq, List.prefix_append_right_inj]
  exact append_slash_prefix_iff (slash_notMem_decimal _ _)

lemma eq_of_messageKey_eq {b : Str} {m n : UInt64} (h : messageKey a m = messageKey b n) :
    a = b := by
  have hrange : keyRange a = keyRange b := List.append_inj_left' h (by simp)
  rw [keyRange_eq, keyRange_eq] at hrange
  exact List.append_inj_left' (List.append_cancel_left hrange) rfl

lemma not_prefix_seqKey : ¬ str "om/" <+: seqKey clientID := by
  intro h
  have hseq : str "om-seq/" = [0x6F, 0x6D, 0x2D, 0x73, 0x65, 0x71, 0x2F] := by decide
  have hom : str "om/" = [0x6F, 0x6D, 0x2F] := by decide
  rw [seqKey, hseq, hom] at h
  simp at h

lemma messageKey_ne_seqKey (a b : Str) (seq : UInt64) : messageKey a seq ≠ seqKey b := by
  intro h
  refine not_prefix_seqKey b ?_
  rw [← h, messageKey, keyRange, List.append_assoc, List.append_assoc]
  exact List.prefix_append _ _

lemma takeWhile_append_slash (d : Str) :
    (b ++ slash :: d).takeWhile (fun x => x ≠ slash) = b.takeWhile fun x => x ≠ slash := by
  rw [List.takeWhile_append]
  split_ifs with hlen
  · rw [List.takeWhile_cons_of_neg (by simp), List.append_nil,
      (List.takeWhile_prefix _).eq_of_length hlen]
  · rfl

lemma takeWhile_eq_self_iff {b : Str} : b.takeWhile (fun x => x ≠ slash) = b ↔ slash ∉ b := by
  rw [List.takeWhile_eq_self_iff]
  simp only [decide_eq_true_eq]
  exact ⟨fun h hmem => h slash hmem rfl, fun h x hx heq => h (heq ▸ hx)⟩

/-- A row is attributed to what stands before the first `/` of its client ID. -/
lemma clientOf_messageKey :
    clientOf (messageKey b seq) = some (b.takeWhile fun x => x ≠ slash) := by
  have htrim : trimStart (str "om/") (messageKey b seq) = b ++ slash :: decimal 20 seq.toNat := by
    simp [trimStart, messageKey, keyRange_eq]
  rw [clientOf, htrim, if_pos (by simp), takeWhile_append_slash]

lemma clientOf_messageKey_eq_iff : clientOf (messageKey b seq) = some b ↔ slash ∉ b := by
  rw [clientOf_messageKey, Option.some_inj, takeWhile_eq_self_iff]

/-! ### What an operation writes -/

lemma lookup_deleteRows (rows : List Row) (m : Store) (key : Bytes) :
    ((deleteRows rows).foldl exec m).lookup key =
      if key ∈ rows.map Prod.fst then none else m.lookup key := by
  induction rows generalizing m with
  | nil => rfl
  | cons row rows ih =>
    rw [deleteRows, List.map_cons, List.foldl_cons, ← deleteRows, ih, exec, List.map_cons]
    by_cases hkey : key = row.1
    · subst hkey
      rw [if_pos List.mem_cons_self, AList.lookup_erase, ite_self]
    · rw [AList.lookup_erase_ne hkey]
      exact if_congr (by rw [List.mem_cons, or_iff_right hkey]) rfl rfl

lemma lookup_deleteRows_scan (m : Store) (p key : Bytes) :
    ((deleteRows (scan m p)).foldl exec m).lookup key =
      if p <+: key then none else m.lookup key := by
  rw [lookup_deleteRows]
  cases hl : m.lookup key with
  | none => simp
  | some value =>
    refine if_congr ?_ rfl rfl
    rw [List.mem_map]
    constructor
    · rintro ⟨⟨key', value'⟩, hrow, rfl⟩
      exact (mem_scan.1 hrow).1
    · exact fun hp => ⟨(key, value), mem_scan.2 ⟨hp, hl⟩, rfl⟩

lemma key_persistAll {j : MessageCodec} {clientID : Str} {queue : List OfflineMessage}
    {seqNums : GoMap Str UInt64} {call : Storage.Call}
    (h : call ∈ (persistAll j clientID queue seqNums).1) :
    call.key = seqKey clientID ∨ ∃ seq, call.key = messageKey clientID seq := by
  induction queue generalizing seqNums with
  | nil => cases h
  | cons msg queue ih =>
    rw [persistAll] at h
    rcases List.mem_append.1 h with h | h
    · rw [persistMessage] at h
      cases hm : j.marshal msg with
      | none => simp [hm] at h
      | some data =>
        simp only [hm, List.mem_cons, List.not_mem_nil, or_false] at h
        rcases h with rfl | rfl
        · exact Or.inr ⟨_, rfl⟩
        · exact Or.inl rfl
    · exact ih h

namespace OfflineStorage

variable {j : MessageCodec} {s : OfflineStorage}

/-- The operation reaches the storage. -/
def Rewrites (s : OfflineStorage) (x : ℤ × OfflineOp) : Prop :=
  match x.2 with
  | .enqueue clientID msg => (s.mem.enqueue clientID msg x.1).1.isOk = true
  | .dequeue clientID _ => (s.mem.queues.lookup clientID).isSome = true
  | .removeAll _ => True

variable {key : Bytes}

/-- Deletions of a client's rows, followed by calls for keys of the client. -/
lemma lookup_foldl_deleteRows_append {clientID : Str} (hseq : key ≠ seqKey clientID)
    (hmsg : ∀ seq, key ≠ messageKey clientID seq) {calls : List Storage.Call} (hcalls : ∀ call ∈
    calls, call.key = seqKey clientID ∨ ∃ seq, call.key = messageKey clientID seq) (m : Store) :
    ((deleteRows (scan m (keyRange clientID)) ++ calls).foldl exec m).lookup key =
      if keyRange clientID <+: key then none else m.lookup key := by
  rw [List.foldl_append, lookup_foldl_exec_of_ne, lookup_deleteRows_scan]
  intro call hcall heq
  rcases hcalls call hcall with h | ⟨seq, h⟩
  · exact hseq (heq.symm.trans h)
  · exact hmsg seq (heq.symm.trans h)

lemma lookup_clearPebbleMessages {clientID : Str} (hseq : key ≠ seqKey clientID)
    (hmsg : ∀ seq, key ≠ messageKey clientID seq) :
    (s.commit (s.clearPebbleMessages j clientID)).store.lookup key =
      if keyRange clientID <+: key then none else s.store.lookup key := by
  rw [commit, clearPebbleMessages]
  by_cases hnil : s.mem.queue clientID = []
  · simp only [if_pos hnil, List.append_assoc]
    refine lookup_foldl_deleteRows_append hseq hmsg (fun call hcall => ?_) s.store
    rcases List.mem_append.1 hcall with hcall | hcall
    · exact key_persistAll hcall
    · rw [List.mem_singleton.1 hcall]
      exact Or.inl rfl
  · simp only [if_neg hnil]
    exact lookup_foldl_deleteRows_append hseq hmsg (fun call => key_persistAll) s.store

/-- An operation deletes the rows that start as those of its client, and changes no row that is
not the client's otherwise. -/
lemma lookup_apply {x : ℤ × OfflineOp} (hseq : key ≠ seqKey x.2.clientID)
    (hmsg : ∀ seq, key ≠ messageKey x.2.clientID seq) :
    (s.Rewrites x → (s.apply j x).store.lookup key =
      if keyRange x.2.clientID <+: key then none else s.store.lookup key) ∧
    (¬ s.Rewrites x → (s.apply j x).store = s.store) := by
  obtain ⟨now, op⟩ := x
  cases op with
  | enqueue clientID msg =>
    rw [Rewrites, apply]
    dsimp only
    rw [enqueue, enqueueCalls]
    cases (s.mem.enqueue clientID msg now).1 with
    | error err => simp [Except.isOk, Except.toBool, commit]
    | ok u => exact ⟨fun _ => lookup_clearPebbleMessages hseq hmsg, fun h => absurd rfl h⟩
  | dequeue clientID maxCount =>
    rw [Rewrites, apply]
    dsimp only
    rw [dequeue]
    cases s.mem.queues.lookup clientID with
    | none => simp
    | some q => exact ⟨fun _ => lookup_clearPebbleMessages hseq hmsg, fun h => absurd rfl h⟩
  | removeAll clientID =>
    refine ⟨fun _ => ?_, fun h => absurd trivial h⟩
    refine lookup_foldl_deleteRows_append hseq hmsg (fun call hcall => ?_) s.store
    rw [List.mem_singleton.1 hcall]
    exact Or.inl rfl

end OfflineStorage

/-! ### Isolation -/

/-- An operation on one client leaves the stored messages of another one alone unless the ID of
the first one, followed by `/`, starts that of the second one: then it deletes them all, if it
reaches the storage.  A stored message is attributed to its client exactly if there is no `/` in
the client ID. -/
theorem offline_isolated_iff (j : MessageCodec) (s : OfflineStorage) (x : ℤ × OfflineOp) (b : Str)
    (h : b ≠ x.2.clientID) :
    ((∀ seq, (s.apply j x).store.lookup (messageKey b seq) = s.store.lookup (messageKey b seq)) ↔
      ¬ s.Rewrites x ∨ ¬ x.2.clientID ++ [slash] <+: b ∨
        ∀ seq, s.store.lookup (messageKey b seq) = none) ∧
    ∀ seq, (clientOf (messageKey b seq) = some b ↔ slash ∉ b) := by
  refine ⟨?_, clientOf_messageKey_eq_iff b⟩
  have hforeign : ∀ seq n, messageKey b seq ≠ messageKey x.2.clientID n := fun seq n heq =>
    h (eq_of_messageKey_eq heq)
  have hstep := fun seq => s.lookup_apply (j := j) (x := x)
    (messageKey_ne_seqKey b x.2.clientID seq) (hforeign seq)
  by_cases hrw : s.Rewrites x
  · have hafter : ∀ seq, (s.apply j x).store.lookup (messageKey b seq) =
        if x.2.clientID ++ [slash] <+: b then none else s.store.lookup (messageKey b seq) := by
      intro seq
      rw [(hstep seq).1 hrw]
      exact if_congr (keyRange_prefix_messageKey.trans (or_iff_right (Ne.symm h))) rfl rfl
    by_cases hp : x.2.clientID ++ [slash] <+: b
    · simp [hafter, hrw, hp, eq_comm]
    · simp [hafter, hp]
  · have hsame := (hstep 0).2 hrw
    simp [hsame, hrw]

/-- An encoding of the messages that the samples below queue. -/
def sampleCodec : MessageCodec where
  marshal m := some m.payload
  unmarshal data :=
    some { topic := str "t", payload := data, qos := 1, createdAt := some 0 }

/-- A message for a topic `t`. -/
def sampleMessage (payload : Bytes) : OfflineMessage := { topic := str "t", payload, qos := 1 }

/-- A store with a message for one client. -/
def storedFor (clientID : Str) : OfflineStorage :=
  OfflineStorage.apply sampleCodec ⟨.new 10 0, ∅, ∅⟩ (0, .enqueue clientID (sampleMessage [1]))

theorem offline_isolated_iff_sample :
    (storedFor (str "y")).store.lookup (messageKey (str "y") 0) = some [1] ∧
    ∀ seq, ((storedFor (str "y")).apply sampleCodec (0, .removeAll (str "x"))).store.lookup
      (messageKey (str "y") seq) = (storedFor (str "y")).store.lookup (messageKey (str "y") seq) :=
  ⟨rfl, (offline_isolated_iff sampleCodec (storedFor (str "y")) (0, .removeAll (str "x")) (str "y")
    (by decide)).1.2 (Or.inr (Or.inl (by decide)))⟩

/-- The message of a client `x/y` is attributed to `x`, and is deleted when a message is queued
for `x`. -/
theorem offline_not_isolated :
    (storedFor (str "x/y")).store.lookup (messageKey (str "x/y") 0) = some [1] ∧
    clientOf (messageKey (str "x/y") 0) = some (str "x") ∧
    ((storedFor (str "x/y")).apply sampleCodec
      (0, .enqueue (str "x") (sampleMessage [2]))).store.lookup (messageKey (str "x/y") 0) =
        none := by
  refine ⟨rfl, by decide, ?_⟩
  have hrange : keyRange (str "x") <+: messageKey (str "x/y") 0 := by decide
  have hdeleted := ((storedFor (str "x/y")).lookup_apply (j := sampleCodec)
    (x := (0, .enqueue (str "x") (sampleMessage [2])))
    (messageKey_ne_seqKey (str "x/y") (str "x") 0)
    (fun seq heq => absurd (eq_of_messageKey_eq heq) (by decide))).1 rfl
  exact hdeleted.trans (if_pos hrange)

end Dmqtt.Broker
