/-
How long a session lives.

A client that connects again should be told that its session is present as long as the expiry
interval of its last CONNECT has not passed since that connection ended.  The broker keeps the
expiry interval of the CONNECT that made the session, looks at deadlines in sweeps only, and leaves
the mark of a session that is resumed.  `session_present_of_regular` is about the runs in which
this makes no difference: a CONNECT that finds a session asks for its expiry interval, within its
deadline, and is accepted, and no sweep finds a deadline of a connected client in the past.
-/
import Dmqtt.Broker.Delivery
import Dmqtt.Broker.Presence
import Dmqtt.Broker.Reaper

namespace Dmqtt.Broker

open Lib Codec Plugin

lemma Session.expired_iff {s : Session} {now t : ℤ} (h : s.disconnectedAt = some t) :
    s.expired now = true ↔
      s.expiryInterval ≠ neverExpires ∧ t + s.expiryInterval.toNat * second < now := by
  rw [Session.expired, h]
  simp [Session.deadline]

/-- The instant of an operation. -/
def Op.time : Op → Option ℤ
  | .connect _ _ now => some now
  | .publish _ _ _ now => some now
  | .close _ now => some now
  | .sweep now => some now
  | _ => none

/-- An accepted CONNECT: its connection, the expiry interval that it asked for, and when the
connection ended. -/
structure Contact where
  conn : ℕ
  expiry : UInt32
  ended : Option ℤ

/-- The session of the contact should be there: it outlives the connection, and its expiry interval
has not passed since the end of the connection. -/
def Contact.Lives (k : Contact) (now : ℤ) : Prop :=
  k.expiry ≠ 0 ∧
    (k.expiry = neverExpires ∨ ∃ t ∈ k.ended, now - t ≤ k.expiry.toNat * second)

instance (k : Contact) (now : ℤ) : Decidable (k.Lives now) := inferInstanceAs (Decidable (_ ∧ _))

/-- The last contact of a client and the instant of the last operation. -/
structure Watch where
  last : Option Contact
  clock : ℤ

namespace BrokerState

variable {σ ε ρ : Type} (cfg : Config σ ε ρ) (id : Str) (b : BrokerState σ ρ)

/-- What is known of the client `id` after an operation. -/
def note (w : Watch) (op : Op) : Watch where
  last :=
    match op with
    | .connect c pkt now =>
      if effectiveClientID cfg c pkt = id ∧ (b.handleConnect cfg c pkt now).1.isOk then
        some ⟨c, expiryInterval pkt, none⟩
      else w.last
    | .close c now =>
      w.last.map fun k => if k.conn = c ∧ k.ended = none then { k with ended := some now } else k
    | _ => w.last
  clock := op.time.getD w.clock

/-- One operation, watched. -/
def watch (x : BrokerState σ ρ × Watch) (op : Op) : BrokerState σ ρ × Watch :=
  (x.1.step cfg op, x.1.note cfg id x.2 op)

/-- What the CONNACK, the first packet that is sent on a connection, says about the session. -/
def reported (c : ℕ) : Option Bool :=
  ((b.conns.lookup c).bind fun client => client.sent.head?).bind fun
    | .connack pkt => some pkt.sessionPresent
    | _ => none

/-- The clock does not go back; each connection is new when it is accepted, and sends one CONNECT;
those of the client `id` do not overlap, and ask for a clean start at first only. -/
def Consecutive (x : BrokerState σ ρ × Watch) (op : Op) : Prop :=
  (∀ t ∈ op.time, x.2.clock ≤ t) ∧
  match op with
  | .accept c => x.1.conns.lookup c = none
  | .connect c pkt _ => x.1.Silent c ∧ (effectiveClientID cfg c pkt = id →
      x.1.Away id ∧ (x.2.last.isSome → pkt.cleanSession = false))
  | .close _ _ => x.1.done = false
  | _ => True

/-- `OnConnect` refuses the CONNECT. -/
def refused (c : ℕ) (pkt : ConnectPacket) (now : ℤ) : Bool :=
  match (b.handleConnect cfg c pkt now).1 with
  | .error (.interceptorRejected _) => true
  | _ => false

/-- A CONNECT that finds a session asks for its expiry interval, within its deadline, and is not
refused by the interceptors; no sweep finds the session of a connected client due. -/
def Regular (b : BrokerState σ ρ) : Op → Prop
  | .connect c pkt now => effectiveClientID cfg c pkt = id →
      (∀ s ∈ b.sessions.get id,
        expiryInterval pkt = s.expiryInterval ∧ s.expired now = false) ∧
      b.refused cfg c pkt now = false
  | .sweep now => ¬ b.Away id → ∀ s ∈ b.sessions.get id, s.expired now = false
  | _ => True

instance (x : BrokerState σ ρ × Watch) (op : Op) : Decidable (Consecutive cfg id x op) :=
  @instDecidableAnd _ _ (Option.decidableForallMem _) <|
    match op with
    | .accept c => decidable_of_iff ((x.1.conns.lookup c).isNone = true) Option.isNone_iff_eq_none
    | .connect c _ _ => inferInstanceAs (Decidable (x.1.Silent c ∧ (_ → _ ∧ _)))
    | .close _ _ => inferInstanceAs (Decidable (x.1.done = false))
    | .publish _ _ _ _ | .subscribe _ _ | .disconnect _ _ | .sweep _ => isTrue trivial

instance (op : Op) : Decidable (Regular cfg id b op) :=
  match op with
  | .connect _ _ _ => inferInstanceAs (Decidable (_ → (∀ s ∈ b.sessions.get id, _) ∧ _))
  | .sweep _ => inferInstanceAs (Decidable (_ → ∀ s ∈ b.sessions.get id, _))
  | .accept _ | .publish _ _ _ _ | .subscribe _ _ | .disconnect _ _ | .close _ _ => isTrue trivial

variable {b} {id}

/-! ### The CONNACK -/

/-- What was sent first on a connection. -/
def firstSent (b : BrokerState σ ρ) (c : ℕ) : Option Outgoing :=
  (b.conns.lookup c).bind fun client => client.sent.head?

variable {c : ℕ} {now : ℤ} {w : Watch} {pkt : ConnectPacket}

lemma firstSent_send {p : Outgoing} (h : b.firstSent c = some p) (pkt : Outgoing) :
    (b.send c pkt).firstSent c = some p := by
  obtain ⟨client, hc, hp⟩ := Option.bind_eq_some_iff.1 h
  rw [firstSent, lookup_send_eq hc, Option.bind_some, Client.sent_push]
  rw [List.head?_append, hp]
  rfl

lemma firstSent_deliverMessage {p : Outgoing} (h : b.firstSent c = some p) (topic : Str)
    (payload : Bytes) (qos : UInt8) (now : ℤ) :
    (b.deliverMessage c topic payload qos now).firstSent c = some p := by
  obtain ⟨client, hc, hp⟩ := Option.bind_eq_some_iff.1 h
  have hmod : ∀ packetID inflight, (b.modifyClient c fun client =>
      { client with packetIDs := packetID, inflight := inflight }).firstSent c = some p := by
    intro packetID inflight
    rw [firstSent, lookup_modifyClient hc]
    exact hp
  rw [deliverMessage, hc]
  dsimp only
  split_ifs
  · exact firstSent_send (hmod _ _) _
  · exact hmod _ _
  · exact firstSent_send h _

/-- On a connection that is open and on which nothing was sent, the CONNACK is sent first. -/
lemma firstSent_acceptConnect {client : Client} (hc : b.conns.lookup c = some client)
    (hopen : client.closed = false) (hsent : client.sent = []) (clientID : Str)
    (pkt : ConnectPacket) (sessionPresent : Bool) (now : ℤ) :
    (b.acceptConnect c clientID pkt sessionPresent now).firstSent c = some (.connack
      { sessionPresent, returnCode := connackAccepted, protocolVersion := pkt.protocolLevel }) := by
  rw [acceptConnect]
  generalize hp : Outgoing.connack
    { sessionPresent, returnCode := connackAccepted, protocolVersion := pkt.protocolLevel } = p
  have hfirst : (b.send c p).firstSent c = some p := by
    rw [firstSent, lookup_send_eq hc, Option.bind_some, Client.sent_push, hsent, hopen]
    rfl
  split_ifs
  · rw [drainOffline]
    -- the queued messages come after the CONNACK
    generalize (b.send c p).offlineStore.dequeue clientID 100 now = out
    have hstart : ({ b.send c p with offlineStore := out.2 }).firstSent c = some p := hfirst
    generalize ({ b.send c p with offlineStore := out.2 } : BrokerState σ ρ) = b₁ at hstart ⊢
    generalize out.1 = msgs
    induction msgs generalizing b₁ with
    | nil => exact hstart
    | cons msg msgs ih =>
      exact ih _ (firstSent_deliverMessage hstart msg.topic msg.payload msg.qos now)
  · exact hfirst

/-- The connection is open, and nothing was sent on it. -/
def Blank (b : BrokerState σ ρ) (c : ℕ) : Prop :=
  ∃ client, b.conns.lookup c = some client ∧ client.closed = false ∧ client.sent = []

lemma Blank.congr {b' : BrokerState σ ρ} (h : b.Blank c) (hwire : b'.wire c = b.wire c) :
    b'.Blank c := by
  obtain ⟨client, hc, hopen, hsent⟩ := h
  rw [wire, wire, hc] at hwire
  obtain ⟨client', hc', heq⟩ := Option.map_eq_some_iff.1 hwire
  simp only [Prod.mk.injEq] at heq
  exact ⟨client', hc', heq.1.trans hopen, heq.2.1.trans hsent⟩

/-- What the end of a handshake reports. -/
lemma Blank.reported_finishConnect (h : b.Blank c) {clientID : Str} {sessionPresent : Bool}
    (hok : (b.finishConnect cfg c clientID pkt sessionPresent now).1.isOk = true) :
    (b.finishConnect cfg c clientID pkt sessionPresent now).2.reported c =
      some sessionPresent := by
  obtain ⟨interceptors, heq⟩ := finishConnect_of_ok cfg hok
  obtain ⟨client, hc, hopen, hsent⟩ := h
  have hfirst := firstSent_acceptConnect (b := { b with interceptors }) hc hopen hsent clientID pkt
    sessionPresent now
  rw [firstSent] at hfirst
  rw [heq, reported, hfirst]
  rfl

/-- A CONNECT on a silent connection reports whether a session is resumed. -/
lemma reported_handleConnect (hsilent : b.Silent c)
    (hok : (b.handleConnect cfg c pkt now).1.isOk = true) :
    (b.handleConnect cfg c pkt now).2.reported c = some
      (!pkt.cleanSession && (b.sessions.get (effectiveClientID cfg c pkt)).isSome) := by
  have hest : b.handleConnect cfg c pkt now =
      b.establish cfg c (effectiveClientID cfg c pkt) pkt now := by
    rw [handleConnect] at hok ⊢
    split_ifs at hok ⊢
    all_goals first | rfl | cases hok
  rw [hest] at hok ⊢
  generalize effectiveClientID cfg c pkt = clientID at hok ⊢
  obtain ⟨⟨client, hc, -, -, hopen, hsent⟩, hunreg⟩ := hsilent
  have hreg : b.clients.lookup clientID ≠ some c := fun hl =>
    hunreg ⟨clientID, c⟩ (AList.mem_lookup_iff.1 hl) rfl
  have hblank := Blank.congr ⟨client, hc, hopen, hsent⟩ (wire_connecting hreg pkt)
  have hsess : (b.beforeSession c clientID pkt).sessions = b.sessions :=
    congrArg (fun b => b.sessions) (b.stores_beforeSession c clientID pkt)
  have hfst := (b.beforeSession c clientID pkt).fst_openSession clientID pkt.cleanSession
    (expiryInterval pkt)
  rw [hsess] at hfst
  exact (hblank.reported_finishConnect cfg hok).trans (congrArg some hfst)

/-! ### The session of the client -/

lemma marks_eq_none : b.marks id = none ↔ b.sessions.get id = none := Option.map_eq_none_iff

lemma marks_eq_some {x : Option ℤ × UInt32} :
    b.marks id = some x ↔
      ∃ s, b.sessions.get id = some s ∧ (s.disconnectedAt, s.expiryInterval) = x :=
  Option.map_eq_some_iff

lemma marks_handleConnect_of_ne (hne : effectiveClientID cfg c pkt ≠ id) :
    (b.handleConnect cfg c pkt now).2.marks id = b.marks id := by
  rcases b.handleConnect_cases cfg c pkt now with h | h
  · exact congrArg (fun b => b.marks id) h
  · rw [h]
    rcases b.establish_cases cfg c (effectiveClientID cfg c pkt) pkt now with
      ⟨existing, -, -, hsess⟩ | ⟨-, hsess, -⟩
    · rw [marks, hsess, marks]
    · rw [marks, hsess, SessionStore.get_create, if_neg (Ne.symm hne), marks]

/-- There is a session after the handshake: the one that was there, or a new one. -/
lemma marks_establish (c : ℕ) (pkt : ConnectPacket) (now : ℤ)
    (hexpiry : ∀ s ∈ b.sessions.get id, expiryInterval pkt = s.expiryInterval) :
    ∃ m, (b.establish cfg c id pkt now).2.marks id = some (m, expiryInterval pkt) := by
  rcases b.establish_cases cfg c id pkt now with ⟨existing, hget, -, hsess⟩ | ⟨-, hsess, -⟩
  · refine ⟨existing.disconnectedAt, marks_eq_some.2 ⟨existing, by rw [hsess, hget], ?_⟩⟩
    rw [hexpiry existing hget]
  · exact ⟨none, marks_eq_some.2 ⟨_, by rw [hsess, SessionStore.get_create, if_pos rfl], rfl⟩⟩

lemma marks_close_of_not_holds (h : ¬ b.Holds id c) (now : ℤ) :
    (b.close cfg c now).marks id = b.marks id := by
  rcases b.liveness_close cfg c now with hlive | ⟨client, hc, hopen, b₁, hlive, heq⟩
  · exact congrFun (marks_eq hlive) id
  · have hne : id ≠ client.clientID := fun hid =>
      h ⟨client.profile, profile_eq_some hc, hid.symm, hopen⟩
    have hsess : b₁.sessions = b.sessions := congrArg (fun x => x.2.1) hlive
    rw [heq, marks, marks, ← hsess]
    cases hs : b₁.sessions.get client.clientID with
    | none => rw [endSession, hs]
    | some session =>
      rw [b₁.sessions_endSession hs]
      split_ifs
      · rw [SessionStore.get_remove, if_neg hne]
      · rfl
      · rw [SessionStore.get_markDisconnected, if_neg hne]

/-- The end of a connection of the client removes the session, or marks it. -/
lemma marks_close_of_holds (h : b.Holds id c) (hid : id ≠ []) (hdone : b.done = false)
    {m : Option ℤ} {expiry : UInt32} (hmarks : b.marks id = some (m, expiry)) (now : ℤ) :
    (b.close cfg c now).marks id = if expiry = 0 then none else some (some now, expiry) := by
  obtain ⟨p, hp, hpid, hopen⟩ := h
  obtain ⟨client, hc, rfl⟩ := Option.map_eq_some_iff.1 hp
  obtain ⟨session, hs, heq⟩ := marks_eq_some.1 hmarks
  cases heq
  have hpid : client.clientID = id := hpid
  subst hpid
  have hlive := b.liveness_leave cfg hc now
  have hsess : (b.leave cfg c client now).sessions = b.sessions := congrArg (fun x => x.2.1) hlive
  have hdone' : (b.leave cfg c client now).done = false :=
    (congrArg (fun x => x.2.2) hlive).trans hdone
  rw [close_eq cfg hc hopen hid, marks, sessions_endSession _ (by rw [hsess, hs]), hsess, hdone']
  by_cases hzero : session.expiryInterval = 0
  · rw [if_pos hzero, if_pos hzero, SessionStore.get_remove, if_pos rfl]
    rfl
  · rw [if_neg hzero, if_neg hzero, if_neg Bool.false_ne_true, SessionStore.get_markDisconnected,
      if_pos rfl, hs]
    rfl

lemma get_foldl_reap (ids : List Str) (b : BrokerState σ ρ) :
    (ids.foldl (fun b clientID => b.reap clientID) b).sessions.get id =
      if id ∈ ids then none else b.sessions.get id := by
  induction ids generalizing b with
  | nil => simp
  | cons clientID ids ih =>
    rw [List.foldl_cons, ih, reap]
    rw [SessionStore.get_remove]
    by_cases hmem : id ∈ ids <;> by_cases heq : id = clientID <;> simp [hmem, heq]

lemma marks_sweep (now : ℤ) :
    (b.sweep now).marks id =
      if ∃ s ∈ b.sessions.get id, s.expired now = true then none else b.marks id := by
  have hiff : id ∈ b.sessions.expiredSessions now ↔
      ∃ s ∈ b.sessions.get id, s.expired now = true := b.sessions.mem_expiredSessions
  rw [marks, sweep, get_foldl_reap]
  split_ifs with h h' h'
  · rfl
  · exact absurd (hiff.1 h) h'
  · exact absurd (hiff.2 h') h
  · rfl

/-! ### What is known of the client tells what the broker holds -/

variable (id) in
/-- What the broker holds, in agreement with the last contact. -/
inductive Tracks (b : BrokerState σ ρ) : Watch → Prop
  | unknown {clock : ℤ} (hmarks : b.marks id = none) (haway : ∀ c, ¬ b.Holds id c) :
    Tracks b ⟨none, clock⟩
  | connected {c : ℕ} {m : Option ℤ} {expiry : UInt32} {clock : ℤ}
    (hmarks : b.marks id = some (m, expiry)) (hholds : ∀ c', b.Holds id c' ↔ c' = c) :
    Tracks b ⟨some ⟨c, expiry, none⟩, clock⟩
  | away {c : ℕ} {expiry : UInt32} {t clock : ℤ} (hmarks : b.marks id = some (some t, expiry))
    (hexpiry : expiry ≠ 0) (haway : ∀ c, ¬ b.Holds id c) :
    Tracks b ⟨some ⟨c, expiry, some t⟩, clock⟩
  | gone {c : ℕ} {expiry : UInt32} {t clock : ℤ} (hmarks : b.marks id = none)
    (hexpiry : expiry = 0 ∨ expiry ≠ neverExpires ∧ t + expiry.toNat * second < clock)
    (haway : ∀ c, ¬ b.Holds id c) :
    Tracks b ⟨some ⟨c, expiry, some t⟩, clock⟩

/-- Time passes, and nothing happens to the client. -/
lemma Tracks.of_frame {b' : BrokerState σ ρ} {clock : ℤ} (h : b.Tracks id w)
    (hmarks : b'.marks id = b.marks id) (hholds : ∀ c, b'.Holds id c ↔ b.Holds id c)
    (hclock : w.clock ≤ clock) : b'.Tracks id ⟨w.last, clock⟩ := by
  cases h with
  | unknown hm haway => exact .unknown (hmarks.trans hm) fun c hc => haway c ((hholds c).1 hc)
  | connected hm hc => exact .connected (hmarks.trans hm) fun c' => (hholds c').trans (hc c')
  | away hm hexp haway =>
    exact .away (hmarks.trans hm) hexp fun c hc => haway c ((hholds c).1 hc)
  | gone hm hexp haway =>
    refine .gone (hmarks.trans hm) (hexp.imp_right fun hlate => ⟨hlate.1, ?_⟩)
      fun c hc => haway c ((hholds c).1 hc)
    exact hlate.2.trans_le hclock

lemma Tracks.connect (hid : id ≠ []) (h : b.Tracks id w)
    (hcons : Consecutive cfg id (b, w) (.connect c pkt now))
    (hreg : Regular cfg id b (.connect c pkt now)) :
    (b.step cfg (.connect c pkt now)).Tracks id (b.note cfg id w (.connect c pkt now)) := by
  obtain ⟨hclock, hsilent, hown⟩ := hcons
  have hclock : w.clock ≤ now := hclock now rfl
  rw [note]
  dsimp only [Op.time, Option.getD_some, step]
  rcases b.handleConnect_eq cfg c pkt now with ⟨err, code, heq⟩ | heq
  · -- an error before anything was done
    rw [heq, if_neg fun h => by simp [Except.isOk, Except.toBool] at h]
    refine h.of_frame (congrArg (fun b => b.marks id) (b.stores_send c _)) (fun c' => ?_) hclock
    exact holds_congr (congrFun (b.profile_send c _) c')
  rcases eq_or_ne (effectiveClientID cfg c pkt) id with hsame | hother
  · -- the client connects; all its connections have ended
    obtain ⟨haway, -⟩ := hown hsame
    obtain ⟨hsession, hrefused⟩ := hreg hsame
    have hok : (b.handleConnect cfg c pkt now).1.isOk = true := by
      rw [refused] at hrefused
      rw [heq] at hrefused ⊢
      rcases b.fst_establish cfg c (effectiveClientID cfg c pkt) pkt now with hok | ⟨err, herr⟩
      · exact hok
      · rw [herr] at hrefused
        cases hrefused
    rw [if_pos ⟨hsame, hok⟩, heq, hsame]
    obtain ⟨m, hm⟩ := b.marks_establish cfg c pkt now fun s hs => (hsession s hs).1
    refine .connected hm fun c' => (holds_establish cfg hsilent hid id pkt now c').trans ?_
    simp [(b.away_iff id).1 haway c']
  · -- another client
    rw [if_neg fun h => hother h.1]
    refine h.of_frame (marks_handleConnect_of_ne cfg hother) (fun c' => ?_) hclock
    rw [heq, holds_establish cfg hsilent hid]
    simp [hother]

lemma Tracks.close (hid : id ≠ []) (h : b.Tracks id w)
    (hcons : Consecutive cfg id (b, w) (.close c now)) :
    (b.step cfg (.close c now)).Tracks id (b.note cfg id w (.close c now)) := by
  obtain ⟨hclock, hdone⟩ := hcons
  have hclock : w.clock ≤ now := hclock now rfl
  rw [note]
  dsimp only [Op.time, Option.getD_some, step]
  by_cases hholds : b.Holds id c
  · -- the client is connected, by this connection
    cases h with
    | connected hm hc =>
      obtain rfl := (hc c).1 hholds
      have hend := marks_close_of_holds cfg hholds hid hdone hm now
      have haway : ∀ c', ¬ (b.close cfg c now).Holds id c' := fun c' hc' =>
        ((holds_close cfg c now c').1 hc').2 ((hc c').1 ((holds_close cfg c now c').1 hc').1)
      dsimp only [Option.map_some]
      rw [if_pos ⟨rfl, rfl⟩]
      split_ifs at hend with hzero
      · exact .gone hend (Or.inl hzero) haway
      · exact .away hend hzero haway
    | unknown _ haway | away _ _ haway | gone _ _ haway => exact absurd hholds (haway c)
  · have hlast : w.last.map (fun k =>
        if k.conn = c ∧ k.ended = none then { k with ended := some now } else k) = w.last := by
      cases h with
      | unknown _ _ => rfl
      | connected hm hc =>
        rw [Option.map_some, if_neg]
        rintro ⟨rfl, -⟩
        exact hholds ((hc _).2 rfl)
      | away _ _ _ | gone _ _ _ => simp
    rw [hlast]
    refine h.of_frame (marks_close_of_not_holds cfg hholds now) (fun c' => ?_) hclock
    rw [holds_close]
    refine and_iff_left_of_imp ?_
    rintro hc' rfl
    exact hholds hc'

lemma Tracks.sweep (h : b.Tracks id w) (hcons : Consecutive cfg id (b, w) (.sweep now))
    (hreg : Regular cfg id b (.sweep now)) :
    (b.step cfg (.sweep now)).Tracks id (b.note cfg id w (.sweep now)) := by
  obtain ⟨hclock, -⟩ := hcons
  have hclock : w.clock ≤ now := hclock now rfl
  have hholds : ∀ c, (b.sweep now).Holds id c ↔ b.Holds id c :=
    fun c => holds_congr (congrFun (b.profile_sweep now) c)
  change (b.sweep now).Tracks id ⟨w.last, now⟩
  by_cases hdue : ∃ s ∈ b.sessions.get id, s.expired now = true
  · -- the session is removed, which its client can tell from the clock
    have hnone : (b.sweep now).marks id = none := by rw [marks_sweep, if_pos hdue]
    obtain ⟨s, hs, hexp⟩ := hdue
    cases h with
    | unknown hm _ =>
      rw [marks_eq_none.1 hm] at hs
      cases hs
    | connected hm hc =>
      have hnot := hreg (fun haway => (b.away_iff id).1 haway _ ((hc _).2 rfl)) s hs
      rw [hnot] at hexp
      cases hexp
    | away hm hzero haway =>
      obtain ⟨s', hs', heq⟩ := marks_eq_some.1 hm
      cases hs.symm.trans hs'
      obtain ⟨hmarked, hexpiry⟩ := Prod.mk.injEq .. ▸ heq
      rw [Session.expired_iff hmarked, hexpiry] at hexp
      exact .gone hnone (Or.inr hexp) fun c hc => haway c ((hholds c).1 hc)
    | gone hm _ _ =>
      rw [marks_eq_none.1 hm] at hs
      cases hs
  · exact h.of_frame (by rw [marks_sweep, if_neg hdue]) hholds hclock

lemma Tracks.step (hid : id ≠ []) (h : b.Tracks id w) {op : Op}
    (hcons : Consecutive cfg id (b, w) op) (hreg : Regular cfg id b op) :
    (b.step cfg op).Tracks id (b.note cfg id w op) := by
  cases op with
  | connect c pkt now => exact h.connect cfg hid hcons hreg
  | close c now => exact h.close cfg hid hcons
  | sweep now => exact h.sweep cfg hcons hreg
  | accept c =>
    exact h.of_frame rfl (fun c' => holds_accept cfg hcons.2 hid c') le_rfl
  | publish c fh data now =>
    have hmarks := marks_eq ((bystander_liveness cfg).handlePublish b c fh data now)
    have hprofile := (bystander_profile cfg).handlePublish b c fh data now
    exact h.of_frame (congrFun hmarks id) (fun c' => holds_congr (congrFun hprofile c'))
      (hcons.1 now rfl)
  | subscribe c pkt =>
    refine h.of_frame (congrFun (b.marks_handleSubscribe cfg c pkt).2 id) (fun c' => ?_) le_rfl
    exact holds_congr (congrFun (b.profile_handleSubscribe cfg c pkt) c')
  | disconnect c data =>
    have hmarks := marks_eq (b.liveness_handleDisconnect c data)
    exact h.of_frame (congrFun hmarks id) (fun c' => holds_handleDisconnect c data c') le_rfl

/-- What the broker holds tells whether the session should be there. -/
lemma Tracks.isSome_iff (h : b.Tracks id w) (haway : b.Away id) (hclock : w.clock ≤ now)
    (hdue : ∀ s ∈ b.sessions.get id, s.expired now = false) :
    (b.sessions.get id).isSome = true ↔ ∃ k ∈ w.last, k.Lives now := by
  cases h with
  | unknown hm _ => simp [marks_eq_none.1 hm]
  | connected hm hc => exact absurd ((hc _).2 rfl) ((b.away_iff id).1 haway _)
  | away hm hzero _ =>
    obtain ⟨s, hs, heq⟩ := marks_eq_some.1 hm
    obtain ⟨hmarked, hexpiry⟩ := Prod.mk.injEq .. ▸ heq
    have hnot : ¬ s.expired now = true := by simp [hdue s hs]
    rw [Session.expired_iff hmarked, hexpiry, not_and] at hnot
    refine iff_of_true (by rw [hs]; rfl) ⟨_, rfl, hzero, ?_⟩
    refine or_iff_not_imp_left.2 fun hnever => ⟨_, rfl, ?_⟩
    have hintime := hnot hnever
    dsimp only
    omega
  | gone hm hexp _ =>
    refine iff_of_false (by simp [marks_eq_none.1 hm]) ?_
    rintro ⟨k, hk, hzero, hlive⟩
    cases hk
    rcases hexp with hexp | ⟨hnever, hlate⟩
    · exact hzero hexp
    · rcases hlive with hlive | ⟨t, ht, hlive⟩
      · exact hnever hlive
      · cases ht
        dsimp only at hlive hclock
        omega

/-- In every regular run, from any state in which there is no session and no connection of the
client, an accepted CONNECT of the client reports its session exactly if the session should be
there. -/
theorem session_present_of_regular (id : Str) (hid : id ≠ []) (b : BrokerState σ ρ)
    (hnew : b.sessions.get id = none) (haway : b.Away id) (start : ℤ) (ops : List Op)
    (hcons : ∀ x ∈ trace (watch cfg id) (b, ⟨none, start⟩) ops, Consecutive cfg id x.1 x.2)
    (hreg : ∀ x ∈ trace (watch cfg id) (b, ⟨none, start⟩) ops, Regular cfg id x.1.1 x.2) :
    ∀ (b' : BrokerState σ ρ) w c pkt now,
      ((b', w), Op.connect c pkt now) ∈ trace (watch cfg id) (b, ⟨none, start⟩) ops →
      effectiveClientID cfg c pkt = id → (b'.handleConnect cfg c pkt now).1.isOk = true →
      ∃ present, (b'.step cfg (.connect c pkt now)).reported c = some present ∧
        (present = true ↔ ∃ k ∈ w.last, k.Lives now) := by
  intro b' w c pkt now hmem hsame hok
  have hinit : b.Tracks id ⟨none, start⟩ :=
    .unknown (marks_eq_none.2 hnew) ((b.away_iff id).1 haway)
  have htracks : b'.Tracks id w :=
    trace_invariant (fun x : BrokerState σ ρ × Watch => x.1.Tracks id x.2)
      (fun x op => Consecutive cfg id x op ∧ Regular cfg id x.1 op)
      (fun x op hx hop => hx.step cfg hid hop.1 hop.2) hinit
      (fun x hx => ⟨hcons x hx, hreg x hx⟩) _ hmem
  obtain ⟨hclock, hsilent, hown⟩ := hcons _ hmem
  obtain ⟨haway', hclean⟩ := hown hsame
  obtain ⟨hsession, -⟩ := hreg _ hmem hsame
  refine ⟨_, reported_handleConnect cfg hsilent hok, ?_⟩
  have hiff := htracks.isSome_iff haway' (hclock now rfl) fun s hs => (hsession s hs).2
  rw [hsame, Bool.and_eq_true, hiff]
  -- a clean start is the first contact
  refine and_iff_right_of_imp ?_
  rintro ⟨k, hk, -⟩
  rw [hclean (by rw [show w.last = some k from hk]; rfl)]
  rfl

/-! ### Runs of one client -/

/-- The broker and what is known of the client `p` after a run. -/
def watched (ops : List Op) : BrokerState TenantChain Unit × Watch :=
  ops.foldl (watch sampleConfig (str "p")) (new () none, ⟨none, 0⟩)

/-- The client `p` connects, leaves and is away for five seconds; a sweep finds its session in
time. -/
def punctualRun : List Op :=
  [.accept 0, .connect 0 (connectExpiring "p") 0, .close 0 second, .sweep (5 * second), .accept 1]

theorem session_present_of_regular_punctual :
    (watched punctualRun).2.last.map (fun k => (k.expiry, k.ended)) = some (10, some second) ∧
    ∃ present, ((watched punctualRun).1.step sampleConfig
        (.connect 1 (connectExpiring "p") (6 * second))).reported 1 = some present ∧
      (present = true ↔ ∃ k ∈ (watched punctualRun).2.last, k.Lives (6 * second)) := by
  refine ⟨by decide, ?_⟩
  exact session_present_of_regular sampleConfig (str "p") (by decide) (new () none) rfl (by decide)
    0 (punctualRun ++ [.connect 1 (connectExpiring "p") (6 * second)]) (by decide) (by decide)
    _ _ 1 _ _ mem_trace_concat rfl rfl

/-- The client `p` comes back when its session is due. -/
def overdueRun : List Op :=
  [.accept 0, .connect 0 (connectExpiring "p") 0, .close 0 second, .accept 1]

/-- The client `p` comes back in time, and asks for a session that ends with its connection. -/
def renouncingRun : List Op :=
  [.accept 0, .connect 0 (connectExpiring "p") 0, .close 0 second,
    .accept 1, .connect 1 { connectExpiring "p" with properties := none } (2 * second),
    .close 1 (3 * second), .accept 2]

/-- The client `p` comes back in time; a sweep removes its session after that. -/
def sweptRun : List Op :=
  [.accept 0, .connect 0 (connectExpiring "p") 0, .close 0 second,
    .accept 1, .connect 1 (connectExpiring "p") (2 * second), .sweep (60 * second),
    .close 1 (61 * second), .accept 2]

/-- All operations of the run and a CONNECT after it are consecutive, and the CONNECT is
accepted. -/
def AcceptedAfter (ops : List Op) (c : ℕ) (now : ℤ) : Prop :=
  (∀ x ∈ trace (watch sampleConfig (str "p")) (new () none, ⟨none, 0⟩)
    (ops ++ [.connect c (connectExpiring "p") now]),
      Consecutive sampleConfig (str "p") x.1 x.2) ∧
  ((watched ops).1.handleConnect sampleConfig c (connectExpiring "p") now).1.isOk = true

/-- The session is reported when it should not be there, twice, and is not reported when it
should. -/
theorem session_present_wrong :
    (AcceptedAfter overdueRun 1 (60 * second) ∧
      ((watched overdueRun).1.step sampleConfig
        (.connect 1 (connectExpiring "p") (60 * second))).reported 1 = some true ∧
      ¬ ∃ k ∈ (watched overdueRun).2.last, k.Lives (60 * second)) ∧
    (AcceptedAfter renouncingRun 2 (4 * second) ∧
      ((watched renouncingRun).1.step sampleConfig
        (.connect 2 (connectExpiring "p") (4 * second))).reported 2 = some true ∧
      ¬ ∃ k ∈ (watched renouncingRun).2.last, k.Lives (4 * second)) ∧
    AcceptedAfter sweptRun 2 (62 * second) ∧
      ((watched sweptRun).1.step sampleConfig
        (.connect 2 (connectExpiring "p") (62 * second))).reported 2 = some false ∧
      ∃ k ∈ (watched sweptRun).2.last, k.Lives (62 * second) := by
  unfold AcceptedAfter
  decide

end BrokerState

end Dmqtt.Broker
