/-
The will store against the wills that the connected clients declared.

The entries are kept by client ID.  A connection sets the entry when its CONNECT has a will, and
deletes it with a DISCONNECT or when it ends with a will, whichever connection the entry belongs to
by then.  A CONNECT without a will leaves the entry that it finds.  `will_store_coherent` is about
the runs in which no connection deletes the will of another one, and a CONNECT without a will finds
an entry only if the end of an older connection is going to delete it.
-/
import Dmqtt.Broker.Presence
import Dmqtt.Broker.Reaper

namespace Dmqtt.Broker

open Lib Codec Plugin

/-- `Load` into a new store.  `reread` is what becomes of a will that is written and read back. -/
def WillStore.load (reread : WillMessage → WillMessage) (ws : WillStore) : WillStore where
  wills := (ws.store.entries.filter fun e => !(str "-published/").isPrefixOf e.1).foldl
    (fun wills e => wills.insert e.1 (reread e.2)) ∅
  store := ws.store
  published := ws.published

/-- The wills of clients whose ID looks like a mark are skipped. -/
lemma WillStore.lookup_load (reread : WillMessage → WillMessage) (ws : WillStore) (c : Str) :
    (ws.load reread).wills.lookup c =
      if (str "-published/").isPrefixOf c then none else (ws.store.lookup c).map reread := by
  let val (x : Σ _ : Str, WillMessage) : WillMessage := reread x.2
  by_cases hskip : (str "-published/").isPrefixOf c
  · rw [if_pos hskip]
    refine GoMap.lookup_foldl_insert_of_notMem val (fun hmem => ?_) ∅
    obtain ⟨x, hx, rfl⟩ := List.mem_map.1 hmem
    simp [hskip] at hx
  · rw [if_neg hskip]
    cases hlookup : ws.store.lookup c with
    | none =>
      refine GoMap.lookup_foldl_insert_of_notMem val (fun hmem => ?_) ∅
      obtain ⟨⟨_, w⟩, hx, rfl⟩ := List.mem_map.1 hmem
      rw [AList.mem_lookup_iff.2 (List.mem_of_mem_filter hx)] at hlookup
      cases hlookup
    | some w =>
      have hmem : ⟨c, w⟩ ∈ ws.store.entries.filter fun x => !(str "-published/").isPrefixOf x.1 :=
        List.mem_filter.2 ⟨AList.mem_lookup_iff.1 hlookup, by simp [hskip]⟩
      exact GoMap.lookup_foldl_insert_of_mem val
        (ws.store.nodupKeys.sublist List.filter_sublist) hmem ∅

/-- What happens to the wills.  A restart comes with everything else that the new process holds. -/
inductive WillOp (σ ρ : Type)
  | accept (c : ℕ)
  | connect (c : ℕ) (pkt : ConnectPacket) (now : ℤ)
  | disconnect (c : ℕ) (data : Bytes)
  | close (c : ℕ) (now : ℤ)
  | restart (rest : BrokerState σ ρ)

namespace BrokerState

variable {σ ε ρ : Type} (cfg : Config σ ε ρ) (reread : WillMessage → WillMessage) (id : Str)
  (b : BrokerState σ ρ)

/-- One operation. -/
def willStep : WillOp σ ρ → BrokerState σ ρ
  | .accept c => b.accept cfg c
  | .connect c pkt now => (b.handleConnect cfg c pkt now).2
  | .disconnect c data => b.handleDisconnect c data
  | .close c now => b.close cfg c now
  | .restart rest => { rest with
      clients := ∅
      conns := ∅
      willStore := b.willStore.map (WillStore.load reread) }

/-- The connection by which the client is connected after an operation, with the will that its
CONNECT declared.  A DISCONNECT takes leave. -/
def declared (w : Option (ℕ × Option WillMessage)) :
    WillOp σ ρ → Option (ℕ × Option WillMessage)
  | .connect c pkt now =>
    if effectiveClientID cfg c pkt = id then
      match (b.handleConnect cfg c pkt now).1 with
      | .ok () => some (c, willOf pkt)
      -- the connection that was there has been told to go
      | .error (.interceptorRejected _) => none
      | .error _ => w
    else w
  | .disconnect c _ => w.filter fun x => x.1 ≠ c
  | .close c _ => w.filter fun x => x.1 ≠ c
  | .restart _ => none
  | .accept _ => w

/-- One operation, watched. -/
def willWatch (x : BrokerState σ ρ × Option (ℕ × Option WillMessage)) (op : WillOp σ ρ) :
    BrokerState σ ρ × Option (ℕ × Option WillMessage) :=
  (x.1.willStep cfg reread op, x.1.declared cfg id x.2 op)

/-- The entry of a client in the will store. -/
def willEntry : Option WillMessage := b.willStore.bind fun ws => ws.wills.lookup id

/-- The end of some connection of the client is going to publish a will. -/
def Promised : Prop :=
  ∃ e ∈ b.conns.entries, e.2.clientID = id ∧ e.2.closed = false ∧ e.2.will ≠ none

instance : Decidable (b.Promised id) := inferInstanceAs (Decidable (∃ e ∈ b.conns.entries, _))

/-- All other connections of the client have ended. -/
def Sole (c : ℕ) : Prop := ∀ e ∈ b.conns.entries, e.2.clientID = id → e.1 ≠ c → e.2.closed = true

instance (c : ℕ) : Decidable (b.Sole id c) :=
  inferInstanceAs (Decidable (∀ e ∈ b.conns.entries, _))

/-- Each connection is new when it is accepted, and sends one CONNECT. -/
def OneConnect (b : BrokerState σ ρ) : WillOp σ ρ → Prop
  | .accept c => b.conns.lookup c = none
  | .connect c _ _ => b.Silent c
  | _ => True

/-- A CONNECT without a will finds no entry, unless an older connection promises to delete it; a
connection deletes the entry only if the client is not connected by another one that declared a
will. -/
def Undisturbed (x : BrokerState σ ρ × Option (ℕ × Option WillMessage)) : WillOp σ ρ → Prop
  | .connect c pkt _ => effectiveClientID cfg c pkt = id → willOf pkt = none →
      x.1.willEntry id = none ∨ x.1.Promised id
  | .disconnect c data => ∀ client ∈ x.1.conns.lookup c, client.clientID = id →
      keepsWill client data = false → ∀ y ∈ x.2, y.1 ≠ c → y.2 = none
  | .close c _ => ∀ client ∈ x.1.conns.lookup c, client.clientID = id → client.closed = false →
      client.will ≠ none → ∀ y ∈ x.2, y.1 ≠ c → y.2 = none
  | _ => True

instance (op : WillOp σ ρ) : Decidable (OneConnect b op) :=
  match op with
  | .accept c => decidable_of_iff ((b.conns.lookup c).isNone = true) Option.isNone_iff_eq_none
  | .connect c _ _ => inferInstanceAs (Decidable (b.Silent c))
  | .disconnect _ _ | .close _ _ | .restart _ => isTrue trivial

instance (x : BrokerState σ ρ × Option (ℕ × Option WillMessage)) (op : WillOp σ ρ) :
    Decidable (Undisturbed cfg id x op) :=
  match op with
  | .connect _ _ _ => inferInstanceAs (Decidable (_ → _ → _ ∨ _))
  | .disconnect c _ => inferInstanceAs (Decidable (∀ client ∈ x.1.conns.lookup c, _))
  | .close c _ => inferInstanceAs (Decidable (∀ client ∈ x.1.conns.lookup c, _))
  | .accept _ | .restart _ => isTrue trivial

/-! ### Promises -/

/-- The end of the connection is going to publish a will of the client. -/
def Promises (c : ℕ) : Prop :=
  ∃ p, b.profile c = some p ∧ p.clientID = id ∧ p.closed = false ∧ p.will ≠ none

lemma promised_iff : b.Promised id ↔ ∃ c, b.Promises id c := by
  constructor
  · rintro ⟨⟨c, client⟩, hmem, h⟩
    exact ⟨c, client.profile, profile_eq_some (AList.mem_lookup_iff.2 hmem), h⟩
  · rintro ⟨c, p, hp, h⟩
    obtain ⟨client, hc, rfl⟩ := Option.map_eq_some_iff.1 hp
    exact ⟨⟨c, client⟩, AList.mem_lookup_iff.1 hc, h⟩

variable {b} {id}

lemma Promises.holds {c : ℕ} (h : b.Promises id c) : b.Holds id c := by
  obtain ⟨p, hp, hid, hopen, -⟩ := h
  exact ⟨p, hp, hid, hopen⟩

variable {b' : BrokerState σ ρ} (c : ℕ)

lemma Promises.congr {c : ℕ} (h : b.Promises id c) (hp : b'.profile c = b.profile c) :
    b'.Promises id c := by
  rw [Promises, hp]
  exact h

/-! ### The entry -/

lemma willEntry_congr (h : b'.willStore = b.willStore) : b'.willEntry id = b.willEntry id := by
  rw [willEntry, h, willEntry]

/-- A CONNECT sets the entry if it has a will. -/
lemma willStore_establish (clientID : Str) (pkt : ConnectPacket) (now : ℤ) :
    (b.establish cfg c clientID pkt now).2.willStore =
      match willOf pkt with
      | none => b.willStore
      | some will => b.willStore.map fun ws => ws.set clientID will :=
  congrArg (fun b => b.willStore) (b.unrouted_establish cfg c clientID pkt now)

/-- A DISCONNECT deletes the entry, unless it asks for the will. -/
lemma willStore_handleDisconnect {c : ℕ} {client : Client} (hc : b.conns.lookup c = some client)
    (data : Bytes) :
    (b.handleDisconnect c data).willStore =
      if keepsWill client data then b.willStore
      else b.willStore.map fun ws => ws.delete client.clientID := by
  rw [handleDisconnect, hc]
  dsimp only
  split_ifs
  · rfl
  · have hmod := congrArg (fun b => b.willStore) (b.stores_modifyClient c
      fun client => { client with will := none })
    exact congrArg (Option.map fun ws => WillStore.delete ws client.clientID) hmod

/-- The end of a connection with a will deletes the entry. -/
lemma willStore_leave (client : Client) (now : ℤ) :
    (b.leave cfg c client now).willStore =
      if client.will = none then b.willStore
      else b.willStore.map fun ws => ws.delete client.clientID := by
  have hstart : (((b.modifyClient c fun client => { client with closed := true }).unregisterClient
      c).notifyDisconnect cfg c client).willStore = b.willStore := by
    obtain ⟨clients, hunreg⟩ :=
      (b.modifyClient c fun client => { client with closed := true }).unregisterClient_eq c
    rw [hunreg]
    exact congrArg (fun b => b.willStore) (b.stores_modifyClient c _)
  rw [leave]
  generalize ((b.modifyClient c fun client => { client with closed := true }).unregisterClient
    c).notifyDisconnect cfg c client = b₁ at hstart ⊢
  rw [publishWill]
  cases client.will with
  | none => exact hstart
  | some will =>
    rw [if_neg (Option.some_ne_none will)]
    have hroute := fun b : BrokerState σ ρ => congrArg (fun b => b.willStore)
      (b.unrouted_routeMessage cfg will.topic will.payload will.qos false false now)
    refine congrArg (Option.map fun ws => WillStore.delete ws client.clientID) ?_
    refine (hroute _).trans ?_
    rw [← hstart]
    split_ifs <;> rfl

lemma willEntry_of_delete {clientID : Str}
    (h : b'.willStore = b.willStore.map fun ws => ws.delete clientID) :
    b'.willEntry id = if id = clientID then none else b.willEntry id := by
  rw [willEntry, h, willEntry]
  cases b.willStore with
  | none => simp
  | some ws => exact ws.lookup_wills_delete clientID id

/-- The end of a connection deletes the entry if the connection promised so. -/
lemma willEntry_close (hid : id ≠ []) (c : ℕ) (now : ℤ) :
    (b.Promises id c → (b.close cfg c now).willEntry id = none) ∧
      (¬ b.Promises id c → (b.close cfg c now).willEntry id = b.willEntry id) := by
  rcases b.close_cases cfg c now with ⟨heq, hclosed⟩ | ⟨client, hc, hopen, ⟨hempty, heq⟩ | ⟨-, heq⟩⟩
  · refine ⟨?_, fun _ => by rw [heq]⟩
    rintro ⟨p, hp, -, hopen, -⟩
    obtain ⟨client, hc, rfl⟩ := Option.map_eq_some_iff.1 hp
    exact (Bool.false_ne_true (hopen.symm.trans (hclosed client hc))).elim
  · refine ⟨?_, fun _ => ?_⟩
    · rintro ⟨p, hp, hpid, -⟩
      rw [profile_eq_some hc] at hp
      cases hp
      exact absurd (hpid.symm.trans hempty) hid
    · rw [heq]
      exact willEntry_congr (congrArg (fun b => b.willStore) (b.stores_modifyClient c _))
  · obtain ⟨_, _, _, hend⟩ := (b.leave cfg c client now).endSession_eq client.clientID now
    have hstore := b.willStore_leave cfg c client now
    have hclose : (b.close cfg c now).willStore = (b.leave cfg c client now).willStore := by
      rw [heq, hend]
    rw [← hclose] at hstore
    split_ifs at hstore with hwill
    · refine ⟨?_, fun _ => willEntry_congr hstore⟩
      rintro ⟨p, hp, -, -, hsome⟩
      rw [profile_eq_some hc] at hp
      cases hp
      exact absurd hwill hsome
    · rw [willEntry_of_delete hstore]
      refine ⟨?_, fun hnot => if_neg fun hsame => ?_⟩
      · rintro ⟨p, hp, hpid, -⟩
        rw [profile_eq_some hc] at hp
        cases hp
        exact if_pos hpid.symm
      · exact hnot ⟨client.profile, profile_eq_some hc, hsame.symm, hopen, hwill⟩

lemma isSome_willStore_close (now : ℤ) :
    (b.close cfg c now).willStore.isSome = b.willStore.isSome := by
  rcases b.close_cases cfg c now with ⟨heq, -⟩ | ⟨client, -, -, ⟨-, heq⟩ | ⟨-, heq⟩⟩
  · rw [heq]
  · rw [heq]
    exact congrArg (fun b => b.willStore.isSome) (b.stores_modifyClient c _)
  · obtain ⟨_, _, _, hend⟩ := (b.leave cfg c client now).endSession_eq client.clientID now
    rw [heq, hend, willStore_leave]
    split_ifs <;> simp

/-! ### Coherence -/

variable (id) in
/-- The entry is the will that the client declared, unless the client declared none and an older
connection is going to delete the entry. -/
structure Coherent (b : BrokerState σ ρ) (w : Option (ℕ × Option WillMessage)) : Prop where
  persistent : b.willStore.isSome = true
  entry : ∀ c will, w = some (c, will) →
    b.willEntry id = will ∨ (will = none ∧ ∃ c', c' ≠ c ∧ b.Promises id c')

namespace Coherent

variable {w : Option (ℕ × Option WillMessage)}

/-- A change that the client does not notice. -/
lemma of_frame {b' : BrokerState σ ρ} (h : b.Coherent id w)
    (hpersistent : b'.willStore.isSome = b.willStore.isSome)
    (hentry : b'.willEntry id = b.willEntry id)
    (hpromises : ∀ c, b.Promises id c → b'.Promises id c) : b'.Coherent id w where
  persistent := hpersistent.trans h.persistent
  entry c will hw := by
    rw [hentry]
    exact (h.entry c will hw).imp_right fun ⟨hnone, c', hne, hc'⟩ =>
      ⟨hnone, c', hne, hpromises c' hc'⟩

lemma of_none (h : b.willStore.isSome = true) : b.Coherent id none :=
  ⟨h, fun _ _ hw => by cases hw⟩

variable {now : ℤ} {pkt : ConnectPacket}

/-- The client is connected by a new connection. -/
lemma establish (hid : id ≠ []) (h : b.Coherent id w) {c : ℕ} (hsilent : b.Silent c)
    (hund : willOf pkt = none → b.willEntry id = none ∨ b.Promised id) :
    (b.establish cfg c id pkt now).2.Coherent id (some (c, willOf pkt)) := by
  have hstore := b.willStore_establish cfg c id pkt now
  obtain ⟨ws, hws⟩ := Option.isSome_iff_exists.1 h.persistent
  cases hwill : willOf pkt with
  | some will =>
    rw [hwill, hws] at hstore
    refine ⟨by rw [hstore]; rfl, fun c' will' hw => Or.inl ?_⟩
    cases hw
    rw [willEntry, hstore]
    exact (ws.lookup_wills_set id id will).trans (if_pos rfl)
  | none =>
    rw [hwill] at hstore
    refine ⟨by rw [hstore, hws]; rfl, fun c' will' hw => ?_⟩
    cases hw
    rcases hund hwill with hnone | hpromised
    · exact Or.inl ((willEntry_congr hstore).trans hnone)
    · obtain ⟨c', hc'⟩ := (b.promised_iff id).1 hpromised
      have hne : c' ≠ c := by
        rintro rfl
        exact hsilent.not_holds hid hc'.holds
      refine Or.inr ⟨rfl, c', hne, hc'.congr ?_⟩
      rw [profile_establish, if_neg hne]

/-- Another client connects. -/
lemma establish_of_ne (hid : id ≠ []) (h : b.Coherent id w) {c : ℕ} {clientID : Str}
    (hne : clientID ≠ id) (hsilent : b.Silent c) :
    (b.establish cfg c clientID pkt now).2.Coherent id w := by
  have hstore := b.willStore_establish cfg c clientID pkt now
  refine h.of_frame ?_ ?_ fun c' hc' => hc'.congr ?_
  · rw [hstore]
    cases willOf pkt <;> simp
  · cases hwill : willOf pkt with
    | none =>
      rw [hwill] at hstore
      exact willEntry_congr hstore
    | some will =>
      rw [hwill] at hstore
      rw [willEntry, hstore, willEntry]
      cases b.willStore with
      | none => rfl
      | some ws => exact (ws.lookup_wills_set clientID id will).trans (if_neg (Ne.symm hne))
  · have hc : c' ≠ c := by
      rintro rfl
      exact hsilent.not_holds hid hc'.holds
    rw [profile_establish, if_neg hc]

lemma connect (hid : id ≠ []) (h : b.Coherent id w) {c : ℕ}
    (hone : OneConnect b (.connect c pkt now))
    (hund : Undisturbed cfg id (b, w) (.connect c pkt now)) :
    (b.handleConnect cfg c pkt now).2.Coherent id (b.declared cfg id w (.connect c pkt now)) := by
  rw [declared]
  rcases b.handleConnect_eq cfg c pkt now with ⟨err, code, heq⟩ | heq
  · -- an error before anything was done
    have hstore : (b.send c (.connack { returnCode := code })).willStore = b.willStore :=
      congrArg (fun b => b.willStore) (b.stores_send c _)
    have hsame : (b.send c (.connack { returnCode := code })).Coherent id w :=
      h.of_frame (by rw [hstore]) (willEntry_congr hstore)
        fun c' hc' => hc'.congr (congrFun (b.profile_send c _) c')
    rw [heq]
    split_ifs
    · split
      · rename_i hok
        cases hok
      · exact of_none hsame.persistent
      · exact hsame
    · exact hsame
  · split_ifs with hid'
    · rw [hid'] at heq
      have hcoh : (b.establish cfg c id pkt now).2.Coherent id (some (c, willOf pkt)) :=
        h.establish cfg hid hone (hund hid')
      rw [heq]
      split
      · exact hcoh
      · exact of_none hcoh.persistent
      · rename_i herr hnot heq'
        rcases b.fst_establish cfg c id pkt now with hok | ⟨err, hrej⟩
        · rw [heq'] at hok
          cases hok
        · exact absurd (heq'.symm.trans hrej) (by simpa using hnot err)
    · rw [heq]
      exact h.establish_of_ne cfg hid hid' hone

lemma eq_of_filter {c c₀ : ℕ} {will : Option WillMessage}
    (h : (w.filter fun x => x.1 ≠ c) = some (c₀, will)) : w = some (c₀, will) ∧ c₀ ≠ c := by
  cases w with
  | none => cases h
  | some x =>
    rw [Option.filter] at h
    split_ifs at h with hne
    cases h
    exact ⟨rfl, by simpa using hne⟩

/-- The connection takes leave, if it is the one of the client; the entry is left alone. -/
lemma filter (h : b.Coherent id w) (c : ℕ) : b.Coherent id (w.filter fun x => x.1 ≠ c) where
  persistent := h.persistent
  entry _ _ hw := h.entry _ _ (eq_of_filter hw).1

/-- The entry is deleted, and the client is not connected by another connection that declared a
will. -/
lemma of_deleted {c : ℕ} (hpersistent : b.willStore.isSome = true) (hentry : b.willEntry id = none)
    (hnone : ∀ y ∈ w, y.1 ≠ c → y.2 = none) : b.Coherent id (w.filter fun x => x.1 ≠ c) where
  persistent := hpersistent
  entry _ _ hw := by
    obtain ⟨hw, hne⟩ := eq_of_filter hw
    exact Or.inl (hentry.trans (hnone _ hw hne).symm)

lemma disconnect (h : b.Coherent id w) {c : ℕ} {data : Bytes}
    (hund : Undisturbed cfg id (b, w) (.disconnect c data)) :
    (b.handleDisconnect c data).Coherent id (w.filter fun x => x.1 ≠ c) := by
  cases hc : b.conns.lookup c with
  | none =>
    rw [handleDisconnect, hc]
    exact h.filter c
  | some client =>
    have hstore := willStore_handleDisconnect hc data
    have hprofile := b.profile_handleDisconnect hc data
    split_ifs at hstore with hkeep
    · refine (h.of_frame (by rw [hstore]) (willEntry_congr hstore) fun c' hc' => ?_).filter c
      exact hc'.congr ((hprofile c').trans (if_neg fun hn => by simp [hkeep] at hn))
    · have hpersistent : (b.handleDisconnect c data).willStore.isSome = b.willStore.isSome := by
        rw [hstore, Option.isSome_map]
      have hentry : (b.handleDisconnect c data).willEntry id = _ := willEntry_of_delete hstore
      split_ifs at hentry with hsame
      · refine of_deleted (hpersistent.trans h.persistent) hentry ?_
        exact hund client hc hsame.symm (by simpa using hkeep)
      · refine (h.of_frame hpersistent hentry fun c' hc' => hc'.congr ?_).filter c
        -- the connection belongs to another client
        have hne : c' ≠ c := by
          rintro rfl
          obtain ⟨p, hp, hpid, -⟩ := hc'
          rw [profile_eq_some hc] at hp
          cases hp
          exact hsame hpid.symm
        exact (hprofile c').trans (if_neg fun hn => hne hn.1)

lemma close (hid : id ≠ []) (h : b.Coherent id w) {c : ℕ}
    (hund : Undisturbed cfg id (b, w) (.close c now)) :
    (b.close cfg c now).Coherent id (w.filter fun x => x.1 ≠ c) := by
  obtain ⟨hdeleted, hkept⟩ := willEntry_close (b := b) cfg hid c now
  have hpersistent := isSome_willStore_close (b := b) cfg c now
  by_cases hpromise : b.Promises id c
  · refine of_deleted (hpersistent.trans h.persistent) (hdeleted hpromise) ?_
    obtain ⟨p, hp, hpid, hopen, hwill⟩ := hpromise
    obtain ⟨client, hc, rfl⟩ := Option.map_eq_some_iff.1 hp
    exact hund client hc hpid hopen hwill
  · refine (h.of_frame hpersistent (hkept hpromise) fun c' hc' => hc'.congr ?_).filter c
    have hne : c' ≠ c := by
      rintro rfl
      exact hpromise hc'
    rw [profile_close, if_neg hne]

lemma step (hid : id ≠ []) (h : b.Coherent id w) {op : WillOp σ ρ} (hone : OneConnect b op)
    (hund : Undisturbed cfg id (b, w) op) :
    (b.willStep cfg reread op).Coherent id (b.declared cfg id w op) := by
  cases op with
  | accept c =>
    refine h.of_frame rfl rfl fun c' hc' => hc'.congr ?_
    have hne : c' ≠ c := by
      rintro rfl
      obtain ⟨p, hp, -⟩ := hc'
      rw [profile, show b.conns.lookup c' = none from hone] at hp
      cases hp
    rw [willStep, profile, accept, AList.lookup_insert_ne hne, profile]
  | connect c pkt now => exact h.connect cfg hid hone hund
  | disconnect c data => exact h.disconnect cfg hund
  | close c now => exact h.close cfg hid hund
  | restart rest =>
    refine of_none ?_
    rw [willStep, Option.isSome_map]
    exact h.persistent

end Coherent

/-- At the end of every run, from any state with a will store, in which connections leave the wills
of others alone: if the client is connected, and its other connections have ended, its entry is the
will that it declared. -/
theorem will_store_coherent (id : Str) (hid : id ≠ []) (b : BrokerState σ ρ)
    (hstore : b.willStore.isSome = true) (ops : List (WillOp σ ρ))
    (hone : ∀ x ∈ trace (willWatch cfg reread id) (b, none) ops, OneConnect x.1.1 x.2)
    (hund : ∀ x ∈ trace (willWatch cfg reread id) (b, none) ops, Undisturbed cfg id x.1 x.2) :
    let x := ops.foldl (willWatch cfg reread id) (b, none)
    ∀ c will, x.2 = some (c, will) → x.1.Sole id c → x.1.willEntry id = will := by
  intro x c will hx hsole
  have hcoh : x.1.Coherent id x.2 :=
    foldl_invariant (fun x => x.1.Coherent id x.2)
      (fun x op => OneConnect x.1 op ∧ Undisturbed cfg id x op)
      (fun x op hx hop => hx.step cfg reread hid hop.1 hop.2) (Coherent.of_none hstore)
      fun x hx => ⟨hone x hx, hund x hx⟩
  rcases hcoh.entry c will hx with h | ⟨-, c', hne, p, hp, hpid, hopen, -⟩
  · exact h
  · obtain ⟨client, hc, rfl⟩ := Option.map_eq_some_iff.1 hp
    have hclosed := hsole ⟨c', client⟩ (AList.mem_lookup_iff.1 hc) hpid hne
    exact (Bool.false_ne_true (hopen.symm.trans hclosed)).elim

/-! ### Runs of one client -/

/-- A CONNECT of the client `p` with a will. -/
def connectWilling (payload : Bytes) : ConnectPacket :=
  { connectExpiring "p" with willFlag := true, willTopic := str "w", willPayload := payload }

/-- A new broker with a will store. -/
def willStoreBroker : BrokerState TenantChain Unit :=
  { new () none with willStore := some ⟨∅, ∅, ∅⟩ }

/-- The broker after a run of the client `p`, and what the client declared. -/
def willWatched (ops : List (WillOp TenantChain Unit)) :
    BrokerState TenantChain Unit × Option (ℕ × Option WillMessage) :=
  ops.foldl (willWatch sampleConfig (fun will => will) (str "p")) (willStoreBroker, none)

/-- A connection with a will is taken over by one without, and ends; the next one has a will. -/
def politeRun : List (WillOp TenantChain Unit) :=
  [.accept 0, .connect 0 (connectWilling [1]) 0, .accept 1, .connect 1 (connectExpiring "p") 1,
    .close 0 2, .close 1 3, .accept 2, .connect 2 (connectWilling [2]) 4]

theorem will_store_coherent_polite :
    (willWatched politeRun).1.willEntry (str "p") = some ⟨str "w", [2], 0, false⟩ :=
  will_store_coherent sampleConfig (fun will => will) (str "p") (by decide) willStoreBroker rfl
    politeRun (by decide) (by decide) 2 _ rfl (by decide)

/-- The broker restarts, and the client comes back without a will. -/
def restartRun : List (WillOp TenantChain Unit) :=
  [.accept 0, .connect 0 (connectWilling [1]) 0, .restart (new () none),
    .accept 1, .connect 1 (connectExpiring "p") 1]

/-- A connection with a will is taken over by another one with a will, and ends. -/
def overtakenRun : List (WillOp TenantChain Unit) :=
  [.accept 0, .connect 0 (connectWilling [1]) 0, .accept 1, .connect 1 (connectWilling [2]) 1,
    .close 0 2]

/-- The client is connected without a will, and there is one in the store, or with a will, and there
is none in the store. -/
theorem will_store_incoherent :
    (∀ ops ∈ [restartRun, overtakenRun],
      ∀ x ∈ trace (willWatch sampleConfig (fun will => will) (str "p")) (willStoreBroker, none) ops,
        OneConnect x.1.1 x.2) ∧
    ((willWatched restartRun).2 = some (1, none) ∧ (willWatched restartRun).1.Sole (str "p") 1 ∧
      (willWatched restartRun).1.willEntry (str "p") = some ⟨str "w", [1], 0, false⟩) ∧
    (willWatched overtakenRun).2 = some (1, some ⟨str "w", [2], 0, false⟩) ∧
      (willWatched overtakenRun).1.Sole (str "p") 1 ∧
      (willWatched overtakenRun).1.willEntry (str "p") = none := by
  decide

end BrokerState

end Dmqtt.Broker
