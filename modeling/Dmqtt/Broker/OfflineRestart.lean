/-
Restarting with the offline queues of the store.

`Synced` is the relation between memory and storage: the rows of a client are its queue, under
consecutive numbers.  Every operation on clients without `/` in their IDs keeps it.  An `Enqueue`
that fails is the exception to look at, since it prunes the queue in memory only; but it fails
only when the limit is reached by messages that have not expired, and then there is nothing to
prune.
-/
import Dmqtt.Broker.OfflineStorage
import Dmqtt.Lib.Json

namespace Dmqtt.Broker

open Lib Storage

/-- Every message is encoded, and read back from its encoding. -/
def MessageCodec.Lossless (j : MessageCodec) : Prop :=
  ∀ m, ∃ data, j.marshal m = some data ∧ j.unmarshal data = some m

/-- The rows of a queue. -/
def rowsOf (j : MessageCodec) (clientID : Str) (queue : List OfflineMessage) : List Row :=
  queue.mapIdx fun i m => (messageKey clientID (UInt64.ofNat i), (j.marshal m).getD [])

namespace OfflineStorage

/-- A new process on the same storage, with the same limits. -/
def restart (j : MessageCodec) (s : OfflineStorage) : OfflineStorage :=
  loadFromStore j { s with mem := { s.mem with queues := ∅ }, seqNums := ∅ }

/-! ### Loading -/

/-- What `LoadFromStore` appends to the queue of a client. -/
def loaded (j : MessageCodec) (clientID : Str) (row : Row) : Option OfflineMessage :=
  if clientOf row.1 = some clientID then j.unmarshal row.2 else none

variable {j : MessageCodec} {s : OfflineStorage} {clientID : Str}

lemma lookup_loadRow (queues : GoMap Str (List OfflineMessage)) (row : Row) :
    ((loadRow j queues row).lookup clientID).getD [] =
      (queues.lookup clientID).getD [] ++ (loaded j clientID row).toList := by
  rw [loadRow, loaded]
  cases hc : clientOf row.1 with
  | none => simp
  | some clientID' =>
    cases hm : j.unmarshal row.2 with
    | none => simp
    | some msg =>
      by_cases heq : clientID = clientID'
      · subst heq
        simp
      · rw [AList.lookup_insert_ne heq, if_neg (by simpa using Ne.symm heq)]
        simp

lemma lookup_foldl_loadRow (rows : List Row) (queues : GoMap Str (List OfflineMessage)) :
    ((rows.foldl (loadRow j) queues).lookup clientID).getD [] =
      (queues.lookup clientID).getD [] ++ rows.filterMap (loaded j clientID) := by
  induction rows generalizing queues with
  | nil => simp
  | cons row rows ih =>
    rw [List.foldl_cons, ih, lookup_loadRow, List.filterMap_cons]
    cases loaded j clientID row <;> simp

lemma queue_restart (j : MessageCodec) (s : OfflineStorage) (clientID : Str) :
    (s.restart j).mem.queue clientID =
      (scan s.store (str "om/")).filterMap (loaded j clientID) :=
  lookup_foldl_loadRow _ ∅

lemma takeWhile_slash_prefix {l : Str} (h : slash ∈ l) :
    l.takeWhile (fun x => x ≠ slash) ++ [slash] <+: l := by
  induction l with
  | nil => cases h
  | cons y l ih =>
    by_cases hy : y = slash
    · subst hy
      simp
    · have hmem : slash ∈ l := (List.mem_cons.1 h).resolve_left (Ne.symm hy)
      rw [List.takeWhile_cons_of_pos (by simpa using hy), List.cons_append,
        List.prefix_cons_inj]
      exact ih hmem

/-- A row is attributed to a client without `/` in its ID if its key starts as the client's. -/
lemma clientOf_eq_iff {key : Bytes} (hkey : str "om/" <+: key) (hslash : slash ∉ clientID) :
    clientOf key = some clientID ↔ keyRange clientID <+: key := by
  obtain ⟨keyStr, rfl⟩ := hkey
  have htrim : trimStart (str "om/") (str "om/" ++ keyStr) = keyStr := by simp [trimStart]
  rw [clientOf, htrim, keyRange_eq, List.prefix_append_right_inj]
  constructor
  · intro h
    split_ifs at h with hmem
    rw [← Option.some_injective _ h]
    exact takeWhile_slash_prefix hmem
  · rintro ⟨t, rfl⟩
    rw [List.append_assoc, List.singleton_append, if_pos (by simp), takeWhile_append_slash,
      takeWhile_eq_self_iff.2 hslash]

lemma clientOf_ne_of_slash {key : Bytes} (hslash : slash ∈ clientID) :
    clientOf key ≠ some clientID := by
  intro h
  rw [clientOf] at h
  split_ifs at h
  rw [Option.some_inj] at h
  rw [← h] at hslash
  have hne := List.mem_takeWhile_imp hslash
  simp at hne

lemma queue_restart_eq (j : MessageCodec) (s : OfflineStorage) (hslash : slash ∉ clientID) :
    (s.restart j).mem.queue clientID =
      (scan s.store (keyRange clientID)).filterMap fun row => j.unmarshal row.2 := by
  rw [queue_restart, keyRange_eq, scan_append, ← keyRange_eq, List.filterMap_filter]
  refine List.filterMap_congr ?_
  rintro ⟨key, value⟩ hrow
  rw [loaded]
  refine if_congr ?_ rfl rfl
  rw [clientOf_eq_iff (mem_scan.1 hrow).1 hslash, List.isPrefixOf_iff_prefix]

lemma rowsOf_concat (queue : List OfflineMessage) (msg : OfflineMessage) :
    rowsOf j clientID (queue ++ [msg]) = rowsOf j clientID queue ++
      [(messageKey clientID (UInt64.ofNat queue.length), (j.marshal msg).getD [])] := by
  rw [rowsOf, List.mapIdx_concat, rowsOf]

lemma map_unmarshal_rowsOf (hj : j.Lossless) (queue : List OfflineMessage) :
    (rowsOf j clientID queue).map (fun row => j.unmarshal row.2) = queue.map some := by
  induction queue using List.reverseRecOn with
  | nil => rfl
  | append_singleton queue msg ih =>
    obtain ⟨data, hm, hu⟩ := hj msg
    rw [rowsOf_concat, List.map_append, ih]
    simp [hm, hu]

lemma filterMap_drop_rowsOf (hj : j.Lossless) (queue : List OfflineMessage) (n : ℕ) :
    ((rowsOf j clientID queue).drop n).filterMap (fun row => j.unmarshal row.2) =
      queue.drop n := by
  have hmap : ∀ l : List Row, l.filterMap (fun row => j.unmarshal row.2) =
      (l.map fun row => j.unmarshal row.2).filterMap id := by
    intro l
    rw [List.filterMap_map]
    rfl
  rw [hmap, List.map_drop, map_unmarshal_rowsOf hj, ← List.map_drop, List.filterMap_map]
  exact List.filterMap_some

lemma filterMap_rowsOf (hj : j.Lossless) (queue : List OfflineMessage) :
    (rowsOf j clientID queue).filterMap (fun row => j.unmarshal row.2) = queue :=
  filterMap_drop_rowsOf hj queue 0

/-! ### Writing -/

lemma messageKey_lt {m n : ℕ} (h : m < n) (hn : n < 2 ^ 64) :
    messageKey clientID (UInt64.ofNat m) < messageKey clientID (UInt64.ofNat n) := by
  refine List.append_left_lt ?_
  rw [UInt64.toNat_ofNat_of_lt' (by simpa [UInt64.size] using h.trans hn),
    UInt64.toNat_ofNat_of_lt' (by simpa [UInt64.size] using hn)]
  exact decimal_lt_decimal h (hn.trans (by norm_num))

lemma lt_of_mem_rowsOf {queue : List OfflineMessage} (hlen : queue.length < 2 ^ 64) {row : Row}
    (h : row ∈ rowsOf j clientID queue) :
    row.1 < messageKey clientID (UInt64.ofNat queue.length) := by
  rw [rowsOf, List.mem_mapIdx] at h
  obtain ⟨i, hi, rfl⟩ := h
  exact messageKey_lt hi hlen

lemma keyRange_prefix_self (seq : UInt64) : keyRange clientID <+: messageKey clientID seq :=
  List.prefix_append _ _

lemma not_keyRange_prefix_seqKey (clientID' : Str) : ¬ keyRange clientID <+: seqKey clientID' := by
  intro h
  refine not_prefix_seqKey clientID' (List.IsPrefix.trans ?_ h)
  rw [keyRange_eq]
  exact List.prefix_append _ _

lemma scan_exec_seqKey {call : Storage.Call} {clientID' : Str} (hkey : call.key = seqKey clientID')
    (m : Store) : scan (exec m call) (keyRange clientID) = scan m (keyRange clientID) := by
  refine scan_congr fun key hp => lookup_exec_of_ne ?_
  rintro rfl
  exact not_keyRange_prefix_seqKey clientID' (hkey ▸ hp)

/-- A message is written behind those that are there. -/
lemma scan_set_messageKey {m : Store} {done : List OfflineMessage} {msg : OfflineMessage}
    {data : Bytes} (hm : j.marshal msg = some data)
    (hscan : scan m (keyRange clientID) = rowsOf j clientID done) (hlen : done.length < 2 ^ 64) :
    scan (exec m (.set (messageKey clientID (UInt64.ofNat done.length)) data))
      (keyRange clientID) = rowsOf j clientID (done ++ [msg]) := by
  rw [exec, scan_insert_last (keyRange_prefix_self _), hscan, rowsOf_concat, hm]
  · rfl
  · intro row hrow
    rw [hscan] at hrow
    exact lt_of_mem_rowsOf hlen hrow

/-- The rows after the first `n` calls that write a queue: there are two for each message, of
which the first one writes the row. -/
lemma scan_take_persistAll (hj : j.Lossless) (done : List OfflineMessage) {m : Store}
    {seqNums : GoMap Str UInt64} {queue : List OfflineMessage}
    (hseq : (seqNums.lookup clientID).getD 0 = UInt64.ofNat done.length)
    (hscan : scan m (keyRange clientID) = rowsOf j clientID done)
    (hlen : (done ++ queue).length ≤ 2 ^ 64) (n : ℕ) :
    scan (((persistAll j clientID queue seqNums).1.take n).foldl exec m) (keyRange clientID) =
      rowsOf j clientID (done ++ queue.take ((n + 1) / 2)) := by
  induction queue generalizing m seqNums done n with
  | nil => simpa [persistAll] using hscan
  | cons msg queue ih =>
    obtain ⟨data, hm, -⟩ := hj msg
    have hlt : done.length < 2 ^ 64 := by
      rw [List.length_append, List.length_cons] at hlen
      omega
    have hrow := scan_set_messageKey hm hscan hlt
    have hcalls : (persistAll j clientID (msg :: queue) seqNums).1 =
        .set (messageKey clientID (UInt64.ofNat done.length)) data ::
        .set (seqKey clientID) (BigEndian.put64 (UInt64.ofNat done.length + 1)) ::
        (persistAll j clientID queue
          (seqNums.insert clientID (UInt64.ofNat done.length + 1))).1 := by
      rw [persistAll, persistMessage, hseq, hm]
      rfl
    rw [hcalls]
    rcases n with _ | _ | n
    · simpa using hscan
    · exact hrow
    · have hhalf : (n + 1 + 1 + 1) / 2 = (n + 1) / 2 + 1 := by omega
      rw [List.take_succ_cons, List.take_succ_cons, List.foldl_cons, List.foldl_cons, hhalf,
        List.take_succ_cons, List.append_cons]
      refine ih _ ?_ ?_ ?_ n
      · simp [UInt64.ofNat_add]
      · rw [scan_exec_seqKey rfl, hrow]
      · rwa [← List.append_cons]

lemma length_persistAll_le (queue : List OfflineMessage) (seqNums : GoMap Str UInt64) :
    (persistAll j clientID queue seqNums).1.length ≤ 2 * queue.length := by
  induction queue generalizing seqNums with
  | nil => rfl
  | cons msg queue ih =>
    have hrest := ih (persistMessage j clientID msg seqNums).2
    have hone : (persistMessage j clientID msg seqNums).1.length ≤ 2 := by
      rw [persistMessage]
      cases j.marshal msg <;> simp
    rw [persistAll, List.length_append, List.length_cons]
    omega

lemma scan_persistAll (hj : j.Lossless) {m : Store} {seqNums : GoMap Str UInt64}
    {queue : List OfflineMessage} (hseq : (seqNums.lookup clientID).getD 0 = 0)
    (hscan : scan m (keyRange clientID) = []) (hlen : queue.length ≤ 2 ^ 64) :
    scan ((persistAll j clientID queue seqNums).1.foldl exec m) (keyRange clientID) =
      rowsOf j clientID queue := by
  have hall := scan_take_persistAll hj [] hseq hscan hlen (2 * queue.length)
  have hhalf : (2 * queue.length + 1) / 2 = queue.length := by omega
  rwa [List.take_of_length_le (length_persistAll_le queue seqNums), hhalf, List.take_length] at hall

lemma scan_deleteRows_take (m : Store) (p : Bytes) (n : ℕ) :
    scan ((deleteRows ((scan m p).take n)).foldl exec m) p = (scan m p).drop n := by
  have hsplit : InOrder ((scan m p).take n ++ (scan m p).drop n) := by
    rw [List.take_append_drop]
    exact inOrder_scan m p
  obtain ⟨-, hdrop, hlt⟩ := List.pairwise_append.1 hsplit
  refine scan_eq hdrop fun key value => ?_
  rw [lookup_deleteRows]
  constructor
  · intro hrow
    have hnot : key ∉ ((scan m p).take n).map Prod.fst := by
      intro hmem
      obtain ⟨row, hrow', rfl⟩ := List.mem_map.1 hmem
      exact List.lt_irrefl row.1 (hlt row hrow' (row.1, value) hrow)
    rw [if_neg hnot]
    exact mem_scan.1 (List.mem_of_mem_drop hrow)
  · rintro ⟨hp, hl⟩
    split_ifs at hl with hmem
    have hrow : (key, value) ∈ (scan m p).take n ++ (scan m p).drop n := by
      rw [List.take_append_drop]
      exact mem_scan.2 ⟨hp, hl⟩
    refine (List.mem_append.1 hrow).resolve_left fun hrow => hmem ?_
    exact List.mem_map.2 ⟨(key, value), hrow, rfl⟩

lemma scan_deleteRows (m : Store) (p : Bytes) :
    scan ((deleteRows (scan m p)).foldl exec m) p = [] := by
  have hall := scan_deleteRows_take m p (scan m p).length
  rwa [List.take_length, List.drop_length] at hall

/-- The rows of a client once its queue is written. -/
lemma scan_clearPebbleMessages (hj : j.Lossless)
    (hlen : (s.mem.queue clientID).length ≤ 2 ^ 64) :
    scan (s.commit (s.clearPebbleMessages j clientID)).store (keyRange clientID) =
      rowsOf j clientID (s.mem.queue clientID) := by
  have hsets : scan ((persistAll j clientID (s.mem.queue clientID)
      (s.seqNums.insert clientID 0)).1.foldl exec
        ((deleteRows (scan s.store (keyRange clientID))).foldl exec s.store)) (keyRange clientID) =
      rowsOf j clientID (s.mem.queue clientID) :=
    scan_persistAll hj (by simp) (scan_deleteRows _ _) hlen
  rw [commit, clearPebbleMessages]
  by_cases hnil : s.mem.queue clientID = []
  · simp only [if_pos hnil, List.foldl_append, List.foldl_cons, List.foldl_nil]
    rw [scan_exec_seqKey rfl, hsets]
  · simp only [if_neg hnil, List.foldl_append]
    exact hsets

lemma scan_removeAllPebble :
    scan (s.commit (s.removeAllPebble clientID)).store (keyRange clientID) = [] := by
  rw [commit, removeAllPebble]
  simp only [List.foldl_append, List.foldl_cons, List.foldl_nil]
  rw [scan_exec_seqKey rfl, scan_deleteRows]

lemma prefix_of_keyRange {key : Bytes} (h : keyRange clientID <+: key) : str "om/" <+: key := by
  rw [keyRange_eq] at h
  exact (List.prefix_append ..).trans h

lemma scan_apply_of_ne {x : ℤ × OfflineOp} (hx : slash ∉ x.2.clientID) (hslash : slash ∉ clientID)
    (hne : clientID ≠ x.2.clientID) :
    scan (s.apply j x).store (keyRange clientID) = scan s.store (keyRange clientID) := by
  refine scan_congr fun key hp => ?_
  have hseq : key ≠ seqKey x.2.clientID := by
    rintro rfl
    exact not_keyRange_prefix_seqKey x.2.clientID hp
  have hmsg : ∀ seq, key ≠ messageKey x.2.clientID seq := by
    rintro seq rfl
    rcases keyRange_prefix_messageKey.1 hp with heq | hstart
    · exact hne heq
    · exact hx (hstart.subset (by simp))
  have hforeign : ¬ keyRange x.2.clientID <+: key := by
    intro hp'
    have hc := (clientOf_eq_iff (prefix_of_keyRange hp) hslash).2 hp
    have hc' := (clientOf_eq_iff (prefix_of_keyRange hp') hx).2 hp'
    exact hne (Option.some_injective _ (hc.symm.trans hc'))
  obtain ⟨hrw, hsame⟩ := s.lookup_apply (j := j) hseq hmsg
  by_cases h : s.Rewrites x
  · rw [hrw h, if_neg hforeign]
  · rw [hsame h]

end OfflineStorage

/-! ### Memory and storage -/

namespace OfflineStorage

variable {j : MessageCodec} {s : OfflineStorage}

lemma mem_apply (x : ℤ × OfflineOp) : (s.apply j x).mem = s.mem.apply x := by
  obtain ⟨now, op⟩ := x
  cases op with
  | enqueue clientID msg => rfl
  | dequeue clientID maxCount =>
    rw [apply, OfflineStore.apply]
    dsimp only
    rw [dequeue]
    cases hl : s.mem.queues.lookup clientID with
    | none => simp [OfflineStore.dequeue, hl]
    | some q => rfl
  | removeAll clientID => rfl

/-- The rows of a client without `/` in its ID are its queue, other clients have no queue, and
the numbers of the rows do not wrap around. -/
structure Synced (j : MessageCodec) (s : OfflineStorage) : Prop where
  rows : ∀ clientID, slash ∉ clientID →
    scan s.store (keyRange clientID) = rowsOf j clientID (s.mem.queue clientID)
  queue_eq_nil : ∀ clientID, slash ∈ clientID → s.mem.queue clientID = []
  length_le : ∀ clientID, ((s.mem.queue clientID).length : ℤ) ≤ max 0 s.mem.maxPerClient
  limit_lt : s.mem.maxPerClient < 2 ^ 63

/-- The queue of the client of an operation is written. -/
lemma Synced.rows_apply (h : Synced j s) (hj : j.Lossless) {x : ℤ × OfflineOp}
    (hx : slash ∉ x.2.clientID)
    (hlen : ((s.mem.apply x).queue x.2.clientID).length ≤ 2 ^ 64) :
    scan (s.apply j x).store (keyRange x.2.clientID) =
      rowsOf j x.2.clientID ((s.mem.apply x).queue x.2.clientID) := by
  obtain ⟨now, op⟩ := x
  cases op with
  | enqueue clientID msg =>
    rw [apply, OfflineStore.apply]
    dsimp only [OfflineOp.clientID]
    rw [enqueue, enqueueCalls]
    have hcases := OfflineStore.enqueue_cases (h.length_le clientID) msg now
    cases hres : (s.mem.enqueue clientID msg now).1 with
    | error err =>
      -- memory is not pruned either
      rw [hres] at hcases
      rcases hcases with ⟨-, hq⟩ | ⟨hok, -⟩
      · rw [hq]
        exact h.rows clientID hx
      · cases hok
    | ok u => exact scan_clearPebbleMessages hj hlen
  | dequeue clientID maxCount =>
    rw [apply, OfflineStore.apply]
    dsimp only [OfflineOp.clientID]
    rw [dequeue]
    cases hl : s.mem.queues.lookup clientID with
    | none =>
      simp only [OfflineStore.dequeue, hl]
      exact h.rows clientID hx
    | some q => exact scan_clearPebbleMessages hj hlen
  | removeAll clientID =>
    rw [apply, OfflineStore.apply]
    dsimp only [OfflineOp.clientID]
    rw [OfflineStore.queue_removeAll, if_pos rfl]
    exact scan_removeAllPebble

lemma Synced.apply (h : Synced j s) (hj : j.Lossless) {x : ℤ × OfflineOp}
    (hx : slash ∉ x.2.clientID) : Synced j (s.apply j x) := by
  have hlength := fun clientID => OfflineStore.length_queue_apply_le (h.length_le clientID) x
  obtain ⟨hmax, -, -⟩ := s.mem.params_apply x
  refine ⟨?_, ?_, ?_, ?_⟩
  · intro clientID hslash
    rw [mem_apply]
    by_cases hne : clientID = x.2.clientID
    · subst hne
      refine h.rows_apply hj hx ?_
      have hlimit := h.limit_lt
      have hlen := hlength x.2.clientID
      omega
    · rw [scan_apply_of_ne hx hslash hne, OfflineStore.queue_apply_of_ne hne]
      exact h.rows clientID hslash
  · intro clientID hslash
    have hne : clientID ≠ x.2.clientID := by
      rintro rfl
      exact hx hslash
    rw [mem_apply, OfflineStore.queue_apply_of_ne hne]
    exact h.queue_eq_nil clientID hslash
  · intro clientID
    rw [mem_apply, hmax]
    exact hlength clientID
  · rw [mem_apply, hmax]
    exact h.limit_lt

lemma Synced.foldl (h : Synced j s) (hj : j.Lossless) {ops : List (ℤ × OfflineOp)}
    (hops : ∀ x ∈ ops, slash ∉ x.2.clientID) :
    Synced j (ops.foldl (OfflineStorage.apply j) s) := by
  induction ops generalizing s with
  | nil => exact h
  | cons x ops ih =>
    exact ih (h.apply hj (hops x List.mem_cons_self))
      fun y hy => hops y (List.mem_cons_of_mem _ hy)

lemma Synced.queue_restart (h : Synced j s) (hj : j.Lossless) (clientID : Str) :
    (s.restart j).mem.queue clientID = s.mem.queue clientID := by
  by_cases hslash : slash ∈ clientID
  · rw [h.queue_eq_nil clientID hslash, OfflineStorage.queue_restart]
    refine List.filterMap_eq_nil_iff.2 fun row _ => ?_
    rw [loaded, if_neg (clientOf_ne_of_slash hslash)]
  · rw [queue_restart_eq j s hslash, h.rows clientID hslash, filterMap_rowsOf hj]

/-- A store without messages that was opened on storage without messages. -/
lemma synced_new (mem : OfflineStore) (hqueues : mem.queues = ∅)
    (hlimit : mem.maxPerClient < 2 ^ 63) {store : Store}
    (hstore : ∀ key, str "om/" <+: key → store.lookup key = none) :
    Synced j ⟨mem, store, ∅⟩ := by
  have hqueue : ∀ clientID, mem.queue clientID = [] := by
    intro clientID
    simp [OfflineStore.queue, hqueues]
  refine ⟨?_, fun clientID _ => hqueue clientID, ?_, hlimit⟩
  · intro clientID hslash
    rw [hqueue]
    refine scan_eq List.Pairwise.nil fun key value => iff_of_false List.not_mem_nil ?_
    rintro ⟨hp, hl⟩
    rw [hstore key (prefix_of_keyRange hp)] at hl
    cases hl
  · intro clientID
    rw [hqueue]
    exact le_max_left _ _

end OfflineStorage

/-! ### Restarts -/

/-- After any operations on clients without `/` in their IDs, a restart finds the queue of every
client as it was in memory, provided the encoding of messages is lossless.  The limit of a queue
is a Go integer, and the storage had no messages at the start. -/
theorem restart_keeps_queues (j : MessageCodec) (hj : j.Lossless) (maxPerClient defaultTTL : ℤ)
    (hlimit : maxPerClient < 2 ^ 63) (tierConfig : Option TierConfig) (store : Store)
    (hstore : ∀ key, str "om/" <+: key → store.lookup key = none) (ops : List (ℤ × OfflineOp))
    (hops : ∀ x ∈ ops, slash ∉ x.2.clientID) (clientID : Str) :
    ((ops.foldl (OfflineStorage.apply j)
        ⟨⟨∅, maxPerClient, defaultTTL, tierConfig⟩, store, ∅⟩).restart j).mem.queue clientID =
      (ops.foldl (OfflineStorage.apply j)
        ⟨⟨∅, maxPerClient, defaultTTL, tierConfig⟩, store, ∅⟩).mem.queue clientID :=
  ((OfflineStorage.synced_new _ rfl hlimit hstore).foldl hj hops).queue_restart hj clientID

/-- There is a lossless encoding: messages can be numbered. -/
lemma exists_lossless : ∃ j : MessageCodec, j.Lossless := by
  have hmessage : Countable OfflineMessage := by
    refine Function.Injective.countable
      (f := fun m : OfflineMessage =>
        (m.topic, m.payload, m.qos, m.priority, m.createdAt, m.expiresAt)) ?_
    rintro ⟨⟩ ⟨⟩ heq
    simpa using heq
  have hne : Nonempty OfflineMessage := ⟨sampleMessage []⟩
  obtain ⟨write, read, hread, -⟩ := exists_validText OfflineMessage
  exact ⟨⟨fun m => some (write m), fun data => some (read data)⟩,
    fun m => ⟨_, rfl, congrArg some (hread m)⟩⟩

/-- Two messages, one of which is taken off. -/
def twoMessages : List (ℤ × OfflineOp) :=
  [(1, .enqueue (str "c") (sampleMessage [1])), (1, .enqueue (str "c") (sampleMessage [2])),
    (2, .dequeue (str "c") 1)]

theorem restart_keeps_queues_twoMessages :
    ∃ j : MessageCodec, j.Lossless ∧
      ((twoMessages.foldl (OfflineStorage.apply j) ⟨.new 10 0, ∅, ∅⟩).restart j).mem.queue
        (str "c") = [{ sampleMessage [2] with createdAt := some 1 }] := by
  obtain ⟨j, hj⟩ := exists_lossless
  refine ⟨j, hj, ?_⟩
  refine (restart_keeps_queues j hj 10 0 (by norm_num) none ∅ (fun _ _ => rfl) twoMessages ?_
    (str "c")).trans ?_
  · decide
  · rfl

end Dmqtt.Broker
