/-
The limit on connections (`acceptLoop` in `internal/broker/broker.go`).

An accept loop lets a connection in if fewer clients are registered than the limit allows.  The
connection is registered only at the end of its handshake, which runs by itself, so that any number
of connections may be let in before one of them is counted.  `connection_limit` says when the limit
holds nevertheless.

The refusals of the rate limiter, which `acceptLoop` asks first, are iterations that do not take
place here.
-/
import Dmqtt.Broker.Simultaneous
import Dmqtt.Lib.Admission
import Mathlib.Data.Finset.Card

namespace Dmqtt.Broker

open Lib Codec Plugin

/-- The number of clients that are registered. -/
def BrokerState.clientCount {σ ρ : Type} (b : BrokerState σ ρ) : ℤ := b.clients.keys.length

/-- The handshakes, and the connections that the accept loops have let in. -/
structure AcceptLoops (σ ρ : Type) where
  handshakes : Handshakes σ ρ
  entered : Finset ℕ

/-- An iteration of an accept loop with a new connection, a step of a connection that was let in,
or its loss before it has sent a CONNECT. -/
inductive AcceptStep
  | iteration (c : ℕ) (now : ℤ)
  | serve (s : Handshakes.Step)
  | lose (c : ℕ)

namespace AcceptLoops

variable {σ ε ρ : Type} (cfg : Config σ ε ρ) (pkt : ℕ → ConnectPacket) (maxConnections : ℤ)

/-- The state before anything has happened. -/
def init (b : BrokerState σ ρ) : AcceptLoops σ ρ := ⟨.init b, ∅⟩

/-- One step. -/
def step (a : AcceptLoops σ ρ) : AcceptStep → AcceptLoops σ ρ
  | .iteration c now =>
    if c ∈ a.entered then a
    else if maxConnections > 0 ∧ a.handshakes.broker.clientCount ≥ maxConnections then a
    else ⟨a.handshakes.advance cfg pkt c now, insert c a.entered⟩
  | .serve s =>
    if s.conn ∈ a.entered then { a with handshakes := a.handshakes.step cfg pkt s } else a
  | .lose c =>
    if a.handshakes.pc c = .start then
      { a with handshakes := a.handshakes.goto c a.handshakes.broker .refused }
    else a

/-- The number of clients that are registered. -/
def registered (a : AcceptLoops σ ρ) : ℤ := a.handshakes.broker.clientCount

/-- The connections that were let in and have not got to their registration. -/
def inProgress (a : AcceptLoops σ ρ) : Finset ℕ :=
  a.entered.filter fun c => (a.handshakes.pc c).early = true

/-- The step lets a connection in. -/
def LetsIn (a : AcceptLoops σ ρ) : AcceptStep → Prop
  | .iteration c _ => c ∉ a.entered ∧ a.registered < maxConnections
  | _ => False

instance (a : AcceptLoops σ ρ) (s : AcceptStep) : Decidable (a.LetsIn maxConnections s) :=
  match s with
  | .iteration _ _ => inferInstanceAs (Decidable (_ ∧ _))
  | .serve _ | .lose _ => isFalse id

/-- The connections that are not idle are those that were let in. -/
def Inv (a : AcceptLoops σ ρ) : Prop := ∀ c, c ∈ a.entered ↔ a.handshakes.pc c ≠ .idle

/-! ### One connection goes on -/

variable {cfg pkt maxConnections} {a : AcceptLoops σ ρ} {t : Handshakes σ ρ} {c : ℕ}
  {pc : HandshakePC}

lemma Inv.update (ha : a.Inv) (hpc : t.pc = Function.update a.handshakes.pc c pc)
    (hc : c ∈ a.entered) (hidle : pc ≠ .idle) : Inv ⟨t, a.entered⟩ := by
  intro c'
  rw [hpc]
  by_cases heq : c' = c
  · subst heq
    rw [Function.update_self]
    exact iff_of_true hc hidle
  · rw [Function.update_of_ne heq]
    exact ha c'

lemma inProgress_update_subset (hpc : t.pc = Function.update a.handshakes.pc c pc)
    (hearly : pc.early = true → (a.handshakes.pc c).early = true) :
    inProgress ⟨t, a.entered⟩ ⊆ a.inProgress := by
  intro c' hc'
  obtain ⟨hmem, hearly'⟩ := Finset.mem_filter.1 hc'
  refine Finset.mem_filter.2 ⟨hmem, ?_⟩
  rw [hpc] at hearly'
  by_cases heq : c' = c
  · subst heq
    rw [Function.update_self] at hearly'
    exact hearly hearly'
  · rwa [Function.update_of_ne heq] at hearly'

lemma card_inProgress_update_le (hpc : t.pc = Function.update a.handshakes.pc c pc)
    (hearly : pc.early = true → (a.handshakes.pc c).early = true) :
    (inProgress ⟨t, a.entered⟩).card ≤ a.inProgress.card :=
  Finset.card_le_card (inProgress_update_subset hpc hearly)

lemma card_inProgress_update_lt (hpc : t.pc = Function.update a.handshakes.pc c pc)
    (hc : c ∈ a.entered) (hearly : (a.handshakes.pc c).early = true) (hlate : pc.early = false) :
    (inProgress ⟨t, a.entered⟩).card < a.inProgress.card := by
  refine Finset.card_lt_card ((Finset.ssubset_iff_of_subset ?_).2
    ⟨c, Finset.mem_filter.2 ⟨hc, hearly⟩, fun hmem => ?_⟩)
  · exact inProgress_update_subset hpc fun _ => hearly
  · have hearly' := (Finset.mem_filter.1 hmem).2
    rw [hpc, Function.update_self, hlate] at hearly'
    cases hearly'

lemma card_inProgress_insert (hpc : t.pc = Function.update a.handshakes.pc c pc)
    (hc : c ∉ a.entered) (hearly : pc.early = true) :
    (inProgress ⟨t, insert c a.entered⟩).card = a.inProgress.card + 1 := by
  have hsame : (a.entered.filter fun c => (t.pc c).early = true) = a.inProgress := by
    refine Finset.filter_congr fun c' hc' => ?_
    have hne : c' ≠ c := fun heq => hc (heq ▸ hc')
    rw [hpc, Function.update_of_ne hne]
  have hnew : c ∉ a.inProgress := fun h => hc (Finset.mem_filter.1 h).1
  rw [inProgress, Finset.filter_insert, hsame, if_pos (by rw [hpc, Function.update_self, hearly]),
    Finset.card_insert_of_notMem hnew]

/-! ### What a step does to the registrations -/

lemma clientCount_congr {b b' : BrokerState σ ρ} (h : b'.clients = b.clients) :
    b'.clientCount = b.clientCount := by
  rw [BrokerState.clientCount, BrokerState.clientCount, h]

lemma clientCount_le_of_erase {b b' : BrokerState σ ρ} {i : Str}
    (h : b'.clients = b.clients.erase i) : b'.clientCount ≤ b.clientCount := by
  rw [BrokerState.clientCount, BrokerState.clientCount, h]
  exact Nat.cast_le.2 (GoMap.length_keys_erase_le _ _)

lemma clientCount_registerClient_le (b : BrokerState σ ρ) (c : ℕ) :
    (b.registerClient c).clientCount ≤ b.clientCount + 1 := by
  rw [BrokerState.registerClient]
  cases b.conns.lookup c with
  | none => exact (Int.lt_add_one_iff.2 le_rfl).le
  | some client =>
    have hle := GoMap.length_keys_insert_le b.clients client.clientID c
    rw [BrokerState.clientCount, BrokerState.clientCount]
    exact_mod_cast hle

/-- A connection goes on without being registered. -/
lemma total_update_le (hpc : t.pc = Function.update a.handshakes.pc c pc)
    (hearly : pc.early = true → (a.handshakes.pc c).early = true)
    (hcount : t.broker.clientCount ≤ a.registered) :
    registered ⟨t, a.entered⟩ + (inProgress ⟨t, a.entered⟩).card ≤
      a.registered + a.inProgress.card :=
  add_le_add hcount (Nat.cast_le.2 (card_inProgress_update_le hpc hearly))

/-- A step of a handshake adds a registration only if the connection is no longer in progress. -/
lemma total_move_le (hc : c ∈ a.entered) (hidle : a.handshakes.pc c ≠ .idle)
    (h : Handshakes.Move cfg pkt a.handshakes c t) :
    registered ⟨t, a.entered⟩ + (inProgress ⟨t, a.entered⟩).card ≤
      a.registered + a.inProgress.card := by
  cases h with
  | stay => exact le_rfl
  | accept b hpc hid hclients => exact absurd hpc hidle
  | unregister b hpc hid hclients =>
    refine total_update_le rfl (fun _ => ?_) (clientCount_le_of_erase hclients)
    rw [hpc]
    rfl
  | tell b existing hpc hid hclients =>
    refine total_update_le rfl (fun _ => ?_) (clientCount_congr hclients).le
    rw [hpc]
    rfl
  | register sessionPresent hpc =>
    have hcount := clientCount_registerClient_le a.handshakes.broker c
    have hcard := card_inProgress_update_lt (t := { a.handshakes.goto c
      (a.handshakes.broker.registerClient c) (.registered sessionPresent) with
      overwritten := (a.handshakes.broker.clients.lookup
        (Handshakes.clientID cfg pkt c)).toList ++ a.handshakes.overwritten })
      rfl hc (by rw [hpc]; rfl) rfl
    simp only [registered, Handshakes.goto] at hcount hcard ⊢
    omega
  | quiet b pc hpc hid hclients =>
    refine total_update_le rfl (fun h => ?_) (clientCount_congr hclients).le
    by_contra hlate
    rw [hpc.early (Bool.eq_false_iff.2 hlate)] at h
    cases h

lemma total_hangUp_le (c : ℕ) (now : ℤ) :
    registered ⟨a.handshakes.hangUp cfg c now, a.entered⟩ +
        (inProgress ⟨a.handshakes.hangUp cfg c now, a.entered⟩).card ≤
      a.registered + a.inProgress.card := by
  have hclose : (a.handshakes.broker.close cfg c now).clientCount ≤ a.registered := by
    rcases Handshakes.clients_close cfg a.handshakes.broker c now with heq | ⟨i, -, heq⟩
    · exact (clientCount_congr heq).le
    · exact clientCount_le_of_erase heq
  rw [Handshakes.hangUp]
  split
  on_goal 3 => exact le_rfl
  all_goals exact total_update_le rfl (by simp [HandshakePC.early]) hclose

/-! ### The limit -/

lemma step_iteration (ha : a.Inv) (hmax : 0 < maxConnections) (c : ℕ) (now : ℤ) :
    a.step cfg pkt maxConnections (.iteration c now) =
      if a.LetsIn maxConnections (.iteration c now) then
        ⟨a.handshakes.goto c (a.handshakes.broker.accept cfg c) .start, insert c a.entered⟩
      else a := by
  rw [step]
  by_cases hc : c ∈ a.entered
  · rw [if_pos hc, if_neg fun h => h.1 hc]
  rw [if_neg hc]
  by_cases hfull : a.handshakes.broker.clientCount ≥ maxConnections
  · rw [if_pos ⟨hmax, hfull⟩, if_neg fun h => absurd h.2 (not_lt.2 hfull)]
  · have hidle : a.handshakes.pc c = .idle := by
      by_contra hne
      exact hc ((ha c).2 hne)
    rw [if_neg fun h => hfull h.2, if_pos ⟨hc, not_le.1 hfull⟩, Handshakes.advance, hidle]

lemma Inv.step (ha : a.Inv) (hmax : 0 < maxConnections) (s : AcceptStep) :
    (a.step cfg pkt maxConnections s).Inv := by
  cases s with
  | iteration c now =>
    rw [step_iteration ha hmax]
    split_ifs with hin
    · intro c'
      rw [Finset.mem_insert]
      by_cases heq : c' = c
      · subst heq
        exact iff_of_true (Or.inl rfl) (by rw [Handshakes.pc_goto]; nofun)
      · rw [Handshakes.pc_goto_of_ne heq, ← ha c']
        exact or_iff_right heq
    · exact ha
  | serve s =>
    rw [AcceptLoops.step]
    split_ifs with hc
    · obtain ⟨pc, hpc, hidle⟩ := Handshakes.exists_pc_step cfg pkt a.handshakes s
      exact ha.update hpc hc (hidle ((ha _).1 hc))
    · exact ha
  | lose c =>
    rw [AcceptLoops.step]
    split_ifs with hpc
    · refine ha.update rfl ((ha c).2 ?_) nofun
      rw [hpc]
      nofun
    · exact ha

variable (cfg pkt) in
/-- The limit on connections as something that is checked first and taken later. -/
def admission (hmax : 0 < maxConnections) :
    Admission (step (σ := σ) (ε := ε) (ρ := ρ) cfg pkt maxConnections) where
  Inv := Inv
  used := registered
  pending a := a.inProgress.card
  Passes := LetsIn maxConnections
  inv_step a s ha := ha.step hmax s
  of_passes a s ha hpass := by
    cases s with
    | iteration c now =>
      rw [step_iteration ha hmax, if_pos hpass, card_inProgress_insert rfl hpass.1 rfl]
      push_cast
      exact (add_assoc _ _ _).symm
    | serve s | lose c => exact absurd hpass id
  of_not_passes a s ha hpass := by
    cases s with
    | iteration c now => rw [step_iteration ha hmax, if_neg hpass]
    | serve s =>
      rw [step]
      split_ifs with hc
      · cases s with
        | advance c now =>
          exact total_move_le hc ((ha c).1 hc) (Handshakes.move_advance a.handshakes c now)
        | hangUp c now => exact total_hangUp_le c now
      · exact le_rfl
    | lose c =>
      rw [step]
      split_ifs with hpc
      · exact total_update_le rfl nofun le_rfl
      · exact le_rfl

end AcceptLoops

variable {σ ε ρ : Type}

/-- The limit holds if, whenever a connection is let in, the clients that are registered and the
connections in progress are together fewer than the limit allows. -/
theorem connection_limit (cfg : Config σ ε ρ) (pkt : ℕ → ConnectPacket) {maxConnections : ℤ}
    (hmax : 0 < maxConnections) {b : BrokerState σ ρ} (hb : b.clientCount ≤ maxConnections)
    {steps : List AcceptStep}
    (h : ∀ x ∈ trace (AcceptLoops.step cfg pkt maxConnections) (.init b) steps,
      x.1.LetsIn maxConnections x.2 → x.1.registered + x.1.inProgress.card < maxConnections) :
    ∀ done, done <+: steps →
      (done.foldl (AcceptLoops.step cfg pkt maxConnections) (.init b)).registered ≤
        maxConnections := by
  intro done hdone
  have hinv : (AcceptLoops.admission cfg pkt hmax).Inv (.init b) := fun c =>
    iff_of_false (Finset.notMem_empty c) fun hne => hne rfl
  refine (AcceptLoops.admission cfg pkt hmax).used_le hinv ?_ h hdone
  exact (add_zero b.clientCount).le.trans hb

/-- Two clients connect, one after the other or at the same time. -/
def limitPackets (c : ℕ) : ConnectPacket :=
  BrokerState.connectExpiring (if c = 0 then "p" else "q")

/-- The steps of a connection up to its registration. -/
def toRegistration (c : ℕ) : List AcceptStep := List.replicate 4 (.serve (.advance c 0))

/-- With a limit of one, the second connection is not let in after the first one is registered. -/
theorem connection_limit_sequential :
    let steps := .iteration 0 0 :: toRegistration 0 ++ .iteration 1 0 :: toRegistration 1
    let run (done : List AcceptStep) := done.foldl
      (AcceptLoops.step BrokerState.sampleConfig limitPackets 1) (.init (.new () none))
    (run steps).registered = 1 ∧ ∀ done, done <+: steps → (run done).registered ≤ 1 :=
  ⟨by decide,
    connection_limit BrokerState.sampleConfig limitPackets (by decide) (by decide) (by decide)⟩

/-- Both connections are let in before one of them is registered. -/
theorem connection_limit_exceeded :
    ((.iteration 0 0 :: .iteration 1 0 :: toRegistration 0 ++ toRegistration 1).foldl
      (AcceptLoops.step BrokerState.sampleConfig limitPackets 1)
      (.init (.new () none))).registered = 2 := by
  decide

end Dmqtt.Broker
