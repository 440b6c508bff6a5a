/-
Wills in persistent storage (`internal/broker/will_persist.go`).

A will is written under `wm/<client>`, the mark that it was published under `wm-published/<client>`,
and `Load` scans the keys that start with `wm/`.  It skips the clients whose ID starts with
`-published/`, as if the marks were among the keys; they are not, and the wills of such clients are
lost: `will_reload_iff`.

The operations of all stores that share the storage may come in between.  `lookup_loadWills_eq` ties
the rows to the persistent copies that the broker is modelled with.
-/
import Dmqtt.Broker.Persistence
import Dmqtt.Broker.Wills

namespace Dmqtt.Broker

open Lib Storage

variable (e : Encodings)

/-- A member of type `[]byte`. -/
def readBytes : JsonValue → Option Bytes
  | .null => some []
  | .string s => e.unbase64 s
  | _ => none

/-- Read a stored will; what cannot be read is skipped.  The client ID is that of the key. -/
def readWill (value : Bytes) : Option WillMessage := do
  let w ← e.json.unmarshal value
  let topic ← (JsonObject.get w (str "topic")).asString
  let payload ← readBytes e (JsonObject.get w (str "payload"))
  let qos ← (JsonObject.get w (str "qos")).asNumber 256
  let retain ← (JsonObject.get w (str "retain")).asBool
  let _ ← (JsonObject.get w (str "clientID")).asString
  let _ ← (JsonObject.get w (str "persistedAt")).asInteger (2 ^ 63)
  return ⟨topic, payload, UInt8.ofNat qos, retain⟩

/-- Load one row. -/
def loadWill (wills : GoMap Str WillMessage) (row : Row) : GoMap Str WillMessage :=
  let clientID := trimStart (str "wm/") row.1
  if (str "-published/").isPrefixOf clientID then wills
  else
    match readWill e row.2 with
    | none => wills
    | some w => wills.insert clientID w

/-- The wills after `Load` into a new store. -/
def loadWills (store : Store) : GoMap Str WillMessage :=
  (scan store (str "wm/")).foldl (loadWill e) ∅

/-- The will of a client is marked as published. -/
def Stores.isPublished (st : Stores) (clientID : Str) : Bool :=
  match st.store.lookup (publishedKey clientID) with
  | some val => val.length > 0
  | none => false

/-- What becomes of a will that is written and read back. -/
def rereadWill (w : WillMessage) : WillMessage := { w with topic := e.json.coerce w.topic }

/-- The client whose rows an operation of the store of wills changes. -/
def StoreOp.willClient : StoreOp → Option Str
  | .setWill clientID _ => some clientID
  | .deleteWill clientID => some clientID
  | .markPublished clientID => some clientID
  | _ => none

/-- The operation sets or deletes the will of the client. -/
def StoreOp.Replaces (clientID : Str) (op : StoreOp) : Prop :=
  (∃ w, op = .setWill clientID w) ∨ op = .deleteWill clientID

variable {e}

/-! ### Reading what was written -/

lemma readWill_marshal (he : e.Lossless) (clientID : Str) (w : WillMessage) :
    readWill e (e.json.marshal (willJSON e clientID w)) = some (rereadWill e w) := by
  obtain ⟨o, ho⟩ : ∃ o : JsonObject, o =
      [(str "topic", .string (e.json.coerce w.topic)),
        (str "payload", .string (e.base64 w.payload)), (str "qos", .number w.qos.toNat),
        (str "retain", .bool w.retain)] ++
      (if clientID = [] then [] else [(str "clientID", .string (e.json.coerce clientID))]) :=
    ⟨_, rfl⟩
  have hdoc : e.json.unmarshal (e.json.marshal (willJSON e clientID w)) = some o := by
    rw [he.json.unmarshal_marshal, willJSON, ho]
    split_ifs <;>
      simp [JsonValue.mapStrings, he.coerce_str, he.json.coerce_eq _ (he.validBase64 w.payload)]
  have hnames : (o.map Prod.fst).Nodup ∧ str "persistedAt" ∉ o.map Prod.fst := by
    rw [ho]
    split_ifs <;>
    · simp only [List.map_append, List.map_cons, List.map_nil]
      decide
  have htopic : (JsonObject.get o (str "topic")).asString = some (e.json.coerce w.topic) :=
    JsonObject.asString_of_mem hnames.1 (by simp [ho])
  have hpayload : readBytes e (JsonObject.get o (str "payload")) = some w.payload := by
    rw [JsonObject.get_of_mem hnames.1 (v := .string (e.base64 w.payload)) (by simp [ho])]
    exact he.base64 _
  have hqos : (JsonObject.get o (str "qos")).asNumber 256 = some w.qos.toNat :=
    JsonObject.asNumber_of_mem hnames.1 (by simp [ho]) w.qos.toNat_lt
  have hretain : (JsonObject.get o (str "retain")).asBool = some w.retain :=
    JsonObject.asBool_of_mem hnames.1 (by simp [ho])
  -- the member is left out if the ID is empty
  obtain ⟨id, hid⟩ : ∃ id, (JsonObject.get o (str "clientID")).asString = some id := by
    by_cases hempty : clientID = []
    · refine ⟨[], JsonObject.asString_of_notMem ?_⟩
      rw [ho, if_pos hempty]
      simp only [List.map_append, List.map_cons, List.map_nil]
      decide
    · exact ⟨_, JsonObject.asString_of_mem hnames.1 (s := e.json.coerce clientID)
        (by simp [ho, hempty])⟩
  have htime : (JsonObject.get o (str "persistedAt")).asInteger (2 ^ 63) = some 0 := by
    rw [JsonObject.get_of_notMem hnames.2]
    rfl
  simp only [readWill, hdoc, htopic, hpayload, hqos, hretain, hid, htime, rereadWill,
    Option.bind_eq_bind, Option.bind_some, Option.pure_def, UInt8.ofNat_toNat]

lemma lookup_loadWills (store : Store) (clientID : Str) :
    (loadWills e store).lookup clientID =
      if (str "-published/").isPrefixOf clientID then none
      else (store.lookup (willKey clientID)).bind (readWill e) := by
  let read (k : Str) (value : Bytes) : Option WillMessage :=
    if (str "-published/").isPrefixOf k then none else readWill e value
  have hscan : (loadWills e store).lookup clientID =
      (store.lookup (willKey clientID)).bind (read clientID) := by
    refine view_foldl_scan (fun (wills : GoMap Str WillMessage) k => wills.lookup k)
      (fun wills k value k' => ?_) store (s := ∅) (fun _ => rfl) clientID
    dsimp only [loadWill, read]
    rw [trimStart_append]
    by_cases hskip : (str "-published/").isPrefixOf k
    · simp [hskip]
    · rw [if_neg hskip, if_neg hskip]
      cases readWill e value with
      | none => simp
      | some w =>
        exact GoMap.lookup_insert_eq ..
  rw [hscan]
  dsimp only [read]
  split_ifs
  · exact Option.bind_fun_none _
  · rfl

/-! ### The rows of the wills -/

lemma willKey_injective : Function.Injective willKey := fun _ _ => List.append_cancel_left

lemma publishedKey_injective : Function.Injective publishedKey := fun _ _ => List.append_cancel_left

lemma willKey_ne_publishedKey (c d : Str) : willKey c ≠ publishedKey d := fun h =>
  absurd (congrArg (fun k : Bytes => k[2]?) h) (by decide : some (47 : UInt8) ≠ some 45)

variable {j : MessageCodec} {st : Stores} {c : Str} {op : StoreOp}

lemma lookup_step_of_ne {key : Bytes} (hkey : key.head? = some 119)
    (hne : ∀ c, op.willClient = some c → key ≠ willKey c ∧ key ≠ publishedKey c) :
    (st.step e j op).store.lookup key = st.store.lookup key := by
  have hretain : ∀ topic, retainKey topic ≠ key :=
    fun topic => ne_of_head (head_retainKey topic) hkey (by decide)
  have hsession : ∀ c, sessionKey c ≠ key :=
    fun c => ne_of_head (head_sessionKey c) hkey (by decide)
  cases op with
  | retain topic payload qos =>
    exact lookup_foldl_exec_of_ne
      (fun _ hcall => RetainStore.key_of_mem_setCalls hcall ▸ hretain topic) _
  | create clientID cleanStart expiryInterval | subscriptions clientID addr changes
  | markDisconnected clientID now =>
    exact lookup_foldl_exec_of_ne
      (fun _ hcall => SessionStore.key_of_mem_saveCalls hcall ▸ hsession clientID) _
  | remove clientID =>
    exact lookup_foldl_exec_of_ne
      (fun _ hcall => List.mem_singleton.1 hcall ▸ hsession clientID) _
  | setWill clientID w | deleteWill clientID =>
    obtain ⟨hwill, hmark⟩ := hne clientID rfl
    exact lookup_foldl_exec_of_ne (by simp [Storage.Call.key, hwill.symm, hmark.symm]) _
  | markPublished clientID =>
    exact lookup_foldl_exec_of_ne (by simp [Storage.Call.key, (hne clientID rfl).2.symm]) _
  | offline x =>
    exact OfflineStorage.lookup_apply_of_head (by rw [hkey]; decide)

lemma lookup_step_willKey (h : op.willClient ≠ some c) :
    (st.step e j op).store.lookup (willKey c) = st.store.lookup (willKey c) := by
  refine lookup_step_of_ne rfl fun d hd => ⟨fun heq => ?_, willKey_ne_publishedKey c d⟩
  exact h (willKey_injective heq ▸ hd)

lemma wills_step (op : StoreOp) :
    (st.step e j op).wills =
      match op with
      | .setWill clientID w => st.wills.set clientID w
      | .deleteWill clientID => st.wills.delete clientID
      | _ => st.wills := by
  cases op <;> rfl

variable (e) in
/-- The rows and the persistent copies hold what the map holds. -/
structure WillsThrough (st : Stores) : Prop where
  rows : ∀ c, (st.store.lookup (willKey c)).bind (readWill e) =
    (st.wills.wills.lookup c).map (rereadWill e)
  copies : st.wills.store = st.wills.wills

namespace WillsThrough

lemma setWill (he : e.Lossless) (h : WillsThrough e st) (clientID : Str) (w : WillMessage) :
    WillsThrough e (st.step e j (.setWill clientID w)) := by
  refine ⟨fun c => ?_, by simp only [wills_step, WillStore.set, h.copies]⟩
  rw [wills_step, WillStore.lookup_wills_set]
  split_ifs with hc
  · subst hc
    have hrow : (st.step e j (.setWill c w)).store.lookup (willKey c) =
        some (e.json.marshal (willJSON e c w)) := by
      simp [Stores.step, Stores.exec, Stores.store, exec,
        AList.lookup_erase_ne (willKey_ne_publishedKey c c)]
    rw [hrow, Option.bind_some, readWill_marshal he, Option.map_some]
  · rw [lookup_step_willKey (by simpa [StoreOp.willClient] using Ne.symm hc), h.rows]

lemma deleteWill (h : WillsThrough e st) (clientID : Str) :
    WillsThrough e (st.step e j (.deleteWill clientID)) := by
  refine ⟨fun c => ?_, by simp only [wills_step, WillStore.delete, h.copies]⟩
  rw [wills_step, WillStore.lookup_wills_delete]
  split_ifs with hc
  · subst hc
    have hrow : (st.step e j (.deleteWill c)).store.lookup (willKey c) = none := by
      simp [Stores.step, Stores.exec, Stores.store, exec,
        AList.lookup_erase_ne (willKey_ne_publishedKey c c)]
    rw [hrow, Option.bind_none, Option.map_none]
  · rw [lookup_step_willKey (by simpa [StoreOp.willClient] using Ne.symm hc), h.rows]

lemma step (he : e.Lossless) (h : WillsThrough e st) (op : StoreOp) :
    WillsThrough e (st.step e j op) := by
  -- the mark has a key of its own, and no other store writes a will
  have hother : (∀ c, (st.step e j op).store.lookup (willKey c) = st.store.lookup (willKey c)) →
      (st.step e j op).wills = st.wills → WillsThrough e (st.step e j op) := by
    intro hrows hwills
    exact ⟨fun c => by rw [hrows, hwills, h.rows], by rw [hwills, h.copies]⟩
  cases op with
  | setWill clientID w => exact h.setWill he clientID w
  | deleteWill clientID => exact h.deleteWill clientID
  | markPublished clientID =>
    refine hother (fun c => ?_) rfl
    exact lookup_foldl_exec_of_ne
      (by simp [Storage.Call.key, (willKey_ne_publishedKey c clientID).symm]) _
  | _ => exact hother (fun c => lookup_step_willKey (by simp [StoreOp.willClient])) rfl

lemma foldl (he : e.Lossless) (h : WillsThrough e st) (ops : List StoreOp) :
    WillsThrough e (ops.foldl (Stores.step e j) st) :=
  List.foldlRecOn ops _ h fun _ h op _ => h.step he op

lemma lookup_loadWills (h : WillsThrough e st) (c : Str) :
    (loadWills e st.store).lookup c =
      if (str "-published/").isPrefixOf c then none
      else (st.wills.wills.lookup c).map (rereadWill e) := by
  rw [Broker.lookup_loadWills, h.rows]

/-- `Load` from the rows is what the broker is modelled with. -/
theorem lookup_loadWills_eq (h : WillsThrough e st) (c : Str) :
    (loadWills e st.store).lookup c = (WillStore.load (rereadWill e) st.wills).wills.lookup c := by
  rw [h.lookup_loadWills, WillStore.lookup_load, h.copies]

end WillsThrough

/-- What is in the map was set. -/
lemma setWill_mem_of_lookup {ops : List StoreOp} {w : WillMessage}
    (hst : st.wills.wills.lookup c = none)
    (h : (ops.foldl (Stores.step e j) st).wills.wills.lookup c = some w) :
    .setWill c w ∈ ops := by
  induction ops using List.reverseRecOn generalizing w with
  | nil =>
    rw [List.foldl_nil, hst] at h
    cases h
  | append_singleton ops op ih =>
    rw [List.foldl_append, List.foldl_cons, List.foldl_nil, wills_step] at h
    have hkeep : (ops.foldl (Stores.step e j) st).wills.wills.lookup c = some w →
        .setWill c w ∈ ops ++ [op] := fun h => List.mem_append_left _ (ih h)
    cases op with
    | setWill clientID w' =>
      rw [WillStore.lookup_wills_set] at h
      split_ifs at h with hc
      · cases h
        simp [hc]
      · exact hkeep h
    | deleteWill clientID =>
      rw [WillStore.lookup_wills_delete] at h
      split_ifs at h
      exact hkeep h
    | _ => exact hkeep h

/-! ### The marks -/

lemma isPublished_step_markPublished (c : Str) :
    (st.step e j (.markPublished c)).isPublished c = true := by
  have hrow : (st.step e j (.markPublished c)).store.lookup (publishedKey c) = some (str "1") :=
    AList.lookup_insert _
  rw [Stores.isPublished, hrow]
  rfl

lemma isPublished_step_of_replaces (h : op.Replaces c) :
    (st.step e j op).isPublished c = false := by
  have hrow : (st.step e j op).store.lookup (publishedKey c) = none := by
    rcases h with ⟨w, rfl⟩ | rfl <;> exact AList.lookup_erase _ _
  rw [Stores.isPublished, hrow]

lemma isPublished_step_of_ne (hmark : op ≠ .markPublished c) (h : ¬ op.Replaces c) :
    (st.step e j op).isPublished c = st.isPublished c := by
  have hother : op.willClient ≠ some c := by
    intro hc
    cases op with
    | setWill clientID w => exact h (Or.inl ⟨w, by cases hc; rfl⟩)
    | deleteWill clientID => exact h (Or.inr (by cases hc; rfl))
    | markPublished clientID => exact hmark (by cases hc; rfl)
    | _ => cases hc
  have hrow : (st.step e j op).store.lookup (publishedKey c) =
      st.store.lookup (publishedKey c) := by
    refine lookup_step_of_ne rfl fun d hd => ⟨(willKey_ne_publishedKey d c).symm, fun heq => ?_⟩
    exact hother (publishedKey_injective heq ▸ hd)
  rw [Stores.isPublished, Stores.isPublished, hrow]

lemma isPublished_foldl_iff (h : st.isPublished c = false) (ops : List StoreOp) :
    (ops.foldl (Stores.step e j) st).isPublished c = true ↔
      ∃ before after, ops = before ++ .markPublished c :: after ∧
        ∀ op ∈ after, ¬ op.Replaces c := by
  let flag (st : Stores) : Prop := st.isPublished c = true
  have hflag : flag (ops.foldl (Stores.step e j) st) ↔
      ∃ before op after, ops = before ++ op :: after ∧ op = .markPublished c ∧
        ∀ op' ∈ after, ¬ op'.Replaces c := by
    refine foldl_flag_iff (fun st op hop => ?_) (fun st op hop => ?_)
      (fun st op hmark hop => ?_) ?_ ops
    · rw [hop]
      exact isPublished_step_markPublished c
    · exact ne_true_of_eq_false (isPublished_step_of_replaces hop)
    · exact iff_of_eq (congrArg (· = true) (isPublished_step_of_ne hmark hop))
    · exact ne_true_of_eq_false h
  refine Iff.trans hflag ?_
  constructor
  · rintro ⟨before, op, after, hops, rfl, hafter⟩
    exact ⟨before, after, hops, hafter⟩
  · rintro ⟨before, after, hops, hafter⟩
    exact ⟨before, _, after, hops, rfl, hafter⟩

/-- Operations of the stores in any order, with wills whose topics JSON keeps: `Load` gives the
wills of the map exactly if none of them belongs to a client whose ID starts with `-published/`.  A
will is marked as published exactly if it was marked after it was last set or deleted. -/
theorem will_reload_iff (e : Encodings) (he : e.Lossless) (j : MessageCodec)
    (retained : RetainStore) (sessions : SessionStore) (offline : OfflineStorage)
    (hstore : ∀ c, offline.store.lookup (willKey c) = none ∧
      offline.store.lookup (publishedKey c) = none)
    (ops : List StoreOp)
    (htopics : ∀ c w, .setWill c w ∈ ops → e.json.coerce w.topic = w.topic) :
    let st := ops.foldl (Stores.step e j) ⟨retained, sessions, ⟨∅, ∅, ∅⟩, offline⟩
    ((∀ c, (loadWills e st.store).lookup c = st.wills.wills.lookup c) ↔
      ∀ c w, st.wills.wills.lookup c = some w → ¬ str "-published/" <+: c) ∧
    ∀ c, st.isPublished c = true ↔
      ∃ before after, ops = before ++ .markPublished c :: after ∧
        ∀ op ∈ after, ¬ op.Replaces c := by
  intro st
  have hnew : WillsThrough e ⟨retained, sessions, ⟨∅, ∅, ∅⟩, offline⟩ :=
    ⟨fun c => by rw [Stores.store, (hstore c).1]; rfl, rfl⟩
  have hst : WillsThrough e st := hnew.foldl he ops
  have hload : ∀ c, (loadWills e st.store).lookup c =
      if (str "-published/").isPrefixOf c then none else st.wills.wills.lookup c := by
    intro c
    rw [hst.lookup_loadWills]
    cases hw : st.wills.wills.lookup c with
    | none => rfl
    | some w => rw [Option.map_some, rereadWill, htopics c w (setWill_mem_of_lookup rfl hw)]
  constructor
  · constructor
    · intro hall c w hw hskip
      have hc := hall c
      rw [hload, if_pos (List.isPrefixOf_iff_prefix.2 hskip), hw] at hc
      cases hc
    · intro hnone c
      rw [hload]
      split_ifs with hskip
      · cases hw : st.wills.wills.lookup c with
        | none => rfl
        | some w => exact absurd (List.isPrefixOf_iff_prefix.1 hskip) (hnone c w hw)
      · rfl
  · intro c
    refine isPublished_foldl_iff ?_ ops
    rw [Stores.isPublished, Stores.store, (hstore c).2]

private def sampleWill : WillMessage := ⟨str "t", [1], 1, true⟩

/-- A client ID that contains the separator of the keys, but elsewhere. -/
theorem will_reload_nested :
    ∃ e : Encodings, e.Lossless ∧
      let st := [StoreOp.setWill (str "a/-published/b") sampleWill,
        .markPublished (str "a/-published/b")].foldl (Stores.step e sampleCodec)
          ⟨.new false, .new false, ⟨∅, ∅, ∅⟩, ⟨.new 10 0, ∅, ∅⟩⟩
      (loadWills e st.store).lookup (str "a/-published/b") = some sampleWill ∧
      st.isPublished (str "a/-published/b") = true := by
  obtain ⟨e, he, -⟩ := Encodings.exists_lossless
  obtain ⟨hload, hmark⟩ := will_reload_iff e he sampleCodec (.new false) (.new false)
    ⟨.new 10 0, ∅, ∅⟩ (fun _ => ⟨rfl, rfl⟩)
    [.setWill (str "a/-published/b") sampleWill, .markPublished (str "a/-published/b")] (by
      intro c w hw
      obtain ⟨-, rfl⟩ : c = str "a/-published/b" ∧ w = sampleWill := by simpa using hw
      exact he.coerce_str "t")
  refine ⟨e, he, (hload.2 ?_ _).trans rfl, (hmark _).2 ⟨[_], [], rfl, nofun⟩⟩
  intro c w hw
  have hset := setWill_mem_of_lookup rfl hw
  obtain ⟨rfl, -⟩ : c = str "a/-published/b" ∧ w = sampleWill := by simpa using hset
  decide

/-- A client ID that starts with `-published/`. -/
theorem will_reload_skips :
    ∃ e : Encodings, e.Lossless ∧
      let st := [StoreOp.setWill (str "-published/b") sampleWill].foldl (Stores.step e sampleCodec)
          ⟨.new false, .new false, ⟨∅, ∅, ∅⟩, ⟨.new 10 0, ∅, ∅⟩⟩
      st.wills.wills.lookup (str "-published/b") = some sampleWill ∧
      (loadWills e st.store).lookup (str "-published/b") = none := by
  obtain ⟨e, he, -⟩ := Encodings.exists_lossless
  refine ⟨e, he, rfl, ?_⟩
  rw [lookup_loadWills]
  rfl

end Dmqtt.Broker
