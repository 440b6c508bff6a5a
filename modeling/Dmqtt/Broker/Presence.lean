/-
The connections of a client.

The handshake gives a connection its client ID and its will (`profile_establish`), and a client
holds the connection from then on until it ends (`holds_establish`, `holds_close`).
-/
import Dmqtt.Broker.Handshake

namespace Dmqtt.Broker

open Lib Codec Plugin

namespace BrokerState

variable {σ ε ρ : Type} (cfg : Config σ ε ρ) (b : BrokerState σ ρ)

/-! ### The handshake -/

/-- The profile that the handshake gives to its connection. -/
def Profile.connected (clientID : Str) (pkt : ConnectPacket) (p : Profile) : Profile :=
  { p with
    username := pkt.username
    clientID := clientID
    protocolVersion := pkt.protocolLevel
    will := (willOf pkt).or p.will }

variable (c : ℕ) (clientID : Str) (pkt : ConnectPacket)

lemma profile_openSession (cleanStart : Bool) (expiry : UInt32) :
    (b.openSession clientID cleanStart expiry).2.profile = b.profile := by
  obtain ⟨_, _, hout⟩ := b.snd_openSession clientID cleanStart expiry
  rw [hout]
  rfl

lemma profile_establish (now : ℤ) (c' : ℕ) :
    (b.establish cfg c clientID pkt now).2.profile c' =
      if c' = c then (b.profile c).map (Profile.connected clientID pkt) else b.profile c' := by
  have hbefore : ∀ c', (b.beforeSession c clientID pkt).profile c' =
      if c' = c then (b.profile c).map fun p => { p with
        username := pkt.username, clientID := clientID, protocolVersion := pkt.protocolLevel }
      else b.profile c' := fun c' =>
    (congrFun (profile_disconnectExisting _ clientID) c').trans
      (b.profile_modifyClient c c' fun _ => rfl)
  rw [establish_eq]
  generalize b.beforeSession c clientID pkt = b₁ at hbefore ⊢
  have hopen := b₁.profile_openSession clientID pkt.cleanSession (expiryInterval pkt)
  generalize b₁.openSession clientID pkt.cleanSession (expiryInterval pkt) = out at hopen ⊢
  have hfinish := (profile_finishConnect cfg ((out.2.setWill c clientID pkt).registerClient c) c
    clientID pkt out.1 now).trans (profile_registerClient _ c)
  refine (congrFun hfinish c').trans ((out.2.profile_setWill c clientID pkt c').trans ?_)
  rw [hopen, hbefore, hbefore, if_pos rfl, Option.map_map]
  split_ifs <;> rfl

/-! ### What is sent during the handshake -/

/-- Whether a connection is closed, what was sent on it and what is in flight. -/
def wire (c : ℕ) : Option (Bool × List Outgoing × InflightStore × UInt16) :=
  (b.conns.lookup c).map fun client =>
    (client.closed, client.sent, client.inflight, client.packetIDs)

lemma wire_modifyClient {f : Client → Client} (hf : ∀ client, ((f client).closed, (f client).sent,
    (f client).inflight, (f client).packetIDs) = (client.closed, client.sent, client.inflight,
    client.packetIDs)) :
    (b.modifyClient c f).wire = b.wire :=
  funext fun c' => b.map_lookup_modifyClient_of_eq
    (fun client => (client.closed, client.sent, client.inflight, client.packetIDs)) c c' hf

lemma wire_setWill : (b.setWill c clientID pkt).wire = b.wire := by
  rw [setWill]
  cases willOf pkt with
  | none => rfl
  | some will => exact (b.wire_modifyClient c fun _ => rfl)

variable {b} in
lemma wire_connecting {c : ℕ} {clientID : Str} (hreg : b.clients.lookup clientID ≠ some c)
    (pkt : ConnectPacket) :
    let out := (b.beforeSession c clientID pkt).openSession clientID pkt.cleanSession
      (expiryInterval pkt)
    ((out.2.setWill c clientID pkt).registerClient c).wire c = b.wire c := by
  have hbefore : (b.beforeSession c clientID pkt).wire c = b.wire c := by
    have hclients := congrArg (fun b => b.clients) (b.stores_modifyClient c fun client =>
      { client with username := pkt.username, clientID := clientID,
                    protocolVersion := pkt.protocolLevel })
    have hwire := b.wire_modifyClient c (f := fun client => { client with
      username := pkt.username, clientID := clientID, protocolVersion := pkt.protocolLevel })
      fun _ => rfl
    rw [beforeSession]
    generalize b.modifyClient c _ = b₁ at hclients hwire ⊢
    rw [wire, b₁.lookup_disconnectExisting_of_ne (hclients ▸ hreg), ← hwire, wire]
  generalize b.beforeSession c clientID pkt = b₁ at hbefore ⊢
  have hopen :
      (b₁.openSession clientID pkt.cleanSession (expiryInterval pkt)).2.wire = b₁.wire := by
    obtain ⟨_, _, hout⟩ := b₁.snd_openSession clientID pkt.cleanSession (expiryInterval pkt)
    rw [hout]
    rfl
  generalize b₁.openSession clientID pkt.cleanSession (expiryInterval pkt) = out at hopen ⊢
  obtain ⟨clients, hclients⟩ := (out.2.setWill c clientID pkt).registerClient_eq c
  dsimp only
  rw [hclients]
  exact (congrFun ((out.2.wire_setWill c clientID pkt).trans hopen) c).trans hbefore

/-! ### The connections of a client -/

variable (id : Str)

/-- Nothing was received or sent on the connection yet. -/
def Silent (c : ℕ) : Prop :=
  (∃ client ∈ b.conns.lookup c, client.clientID = [] ∧ client.will = none ∧
    client.closed = false ∧ client.sent = []) ∧
    ∀ e ∈ b.clients.entries, e.2 ≠ c

instance (c : ℕ) : Decidable (b.Silent c) :=
  @instDecidableAnd _ _ (Option.decidableExistsMem _) inferInstance

/-- All connections of the client have ended. -/
def Away : Prop := ∀ e ∈ b.conns.entries, e.2.clientID = id → e.2.closed = true

instance : Decidable (b.Away id) := inferInstanceAs (Decidable (∀ e ∈ b.conns.entries, _))

/-- The connection is one of the client, and has not ended. -/
def Holds (c : ℕ) : Prop := ∃ p, b.profile c = some p ∧ p.clientID = id ∧ p.closed = false

lemma away_iff : b.Away id ↔ ∀ c, ¬ b.Holds id c := by
  constructor
  · rintro h c ⟨p, hp, hid, hopen⟩
    obtain ⟨client, hc, rfl⟩ := Option.map_eq_some_iff.1 hp
    have hclosed := h ⟨c, client⟩ (AList.mem_lookup_iff.1 hc) hid
    rw [show client.profile.closed = client.closed from rfl, hclosed] at hopen
    cases hopen
  · rintro h ⟨c, client⟩ hmem hid
    by_contra hopen
    have hc : b.conns.lookup c = some client := AList.mem_lookup_iff.2 hmem
    exact h c ⟨client.profile, profile_eq_some hc, hid, Bool.not_eq_true _ ▸ hopen⟩

variable {b} {id}

lemma holds_congr {b' : BrokerState σ ρ} {c : ℕ} (h : b'.profile c = b.profile c) :
    b'.Holds id c ↔ b.Holds id c := by
  rw [Holds, h]
  rfl

lemma Silent.not_holds {c : ℕ} (h : b.Silent c) (hid : id ≠ []) : ¬ b.Holds id c := by
  rintro ⟨p, hp, hpid, -⟩
  obtain ⟨⟨client, hc, hempty, -⟩, -⟩ := h
  rw [profile_eq_some hc] at hp
  cases hp
  exact hid (hpid.symm.trans hempty)

/-! ### The outcome of a CONNECT -/

/-- What is established is accepted, unless the interceptors refuse it. -/
lemma fst_establish (c : ℕ) (clientID : Str) (pkt : ConnectPacket) (now : ℤ) :
    (b.establish cfg c clientID pkt now).1.isOk = true ∨
      ∃ err, (b.establish cfg c clientID pkt now).1 = .error (.interceptorRejected err) := by
  rw [establish_eq]
  rw [afterSession, finishConnect]
  split
  · exact Or.inl rfl
  · dsimp only
    split
    · exact Or.inr ⟨_, rfl⟩
    · exact Or.inl rfl

/-- The connections of a client after a CONNECT on a silent connection. -/
lemma holds_establish {c : ℕ} (hsilent : b.Silent c) (hid : id ≠ []) (clientID : Str)
    (pkt : ConnectPacket) (now : ℤ) (c' : ℕ) :
    (b.establish cfg c clientID pkt now).2.Holds id c' ↔
      b.Holds id c' ∨ (c' = c ∧ clientID = id) := by
  have hprofile := b.profile_establish cfg c clientID pkt now c'
  rcases eq_or_ne c' c with rfl | hne
  · have hnot := hsilent.not_holds hid
    obtain ⟨⟨client, hc, -, -, hopen, -⟩, -⟩ := hsilent
    rw [if_pos rfl, profile_eq_some hc, Option.map_some] at hprofile
    constructor
    · rintro ⟨p, hp, hpid, -⟩
      rw [hprofile] at hp
      cases hp
      exact Or.inr ⟨rfl, hpid⟩
    · rintro (h | ⟨-, rfl⟩)
      · exact absurd h hnot
      · exact ⟨_, hprofile, rfl, hopen⟩
  · rw [if_neg hne] at hprofile
    rw [holds_congr hprofile]
    simp [hne]

lemma holds_accept {c : ℕ} (hnew : b.conns.lookup c = none) (hid : id ≠ []) (c' : ℕ) :
    (b.accept cfg c).Holds id c' ↔ b.Holds id c' := by
  rcases eq_or_ne c' c with rfl | hne
  · refine iff_of_false ?_ ?_
    · rintro ⟨p, hp, hpid, -⟩
      rw [profile, accept, AList.lookup_insert] at hp
      cases hp
      exact hid hpid.symm
    · rintro ⟨p, hp, -⟩
      rw [profile, hnew] at hp
      cases hp
  · refine holds_congr ?_
    rw [profile, accept, AList.lookup_insert_ne hne, profile]

lemma holds_handleDisconnect (c : ℕ) (data : Bytes) (c' : ℕ) :
    (b.handleDisconnect c data).Holds id c' ↔ b.Holds id c' := by
  cases hc : b.conns.lookup c with
  | none => rw [handleDisconnect, hc]
  | some client =>
    have hprofile := b.profile_handleDisconnect hc data c'
    split_ifs at hprofile with h
    · obtain ⟨rfl, -⟩ := h
      simp [Holds, hprofile, profile_eq_some hc]
    · exact holds_congr hprofile

lemma holds_close (c : ℕ) (now : ℤ) (c' : ℕ) :
    (b.close cfg c now).Holds id c' ↔ b.Holds id c' ∧ c' ≠ c := by
  have hprofile := b.profile_close cfg c now c'
  rcases eq_or_ne c' c with rfl | hne
  · rw [if_pos rfl] at hprofile
    refine iff_of_false ?_ fun h => h.2 rfl
    rintro ⟨p, hp, -, hopen⟩
    rw [hprofile] at hp
    obtain ⟨p', -, rfl⟩ := Option.map_eq_some_iff.1 hp
    cases hopen
  · rw [if_neg hne] at hprofile
    rw [holds_congr hprofile]
    simp [hne]

end BrokerState

end Dmqtt.Broker
