/-
Sessions across restarts.

A restart loads the sessions as they were written last (`loadFromStorage`).  A session is marked
disconnected at the end of a connection of its client, unless the broker has been stopped before;
a crash marks nothing.  A session that is not marked then is not marked after the restart, and the
reaper never removes it while its client stays away.  `sessions_expire` is about the runs in which
no process leaves such a session in the storage: there no session outlives its expiry interval.
-/
import Dmqtt.Broker.Lifetime

namespace Dmqtt.Broker

open Lib Codec Plugin

/-- When the session was marked disconnected, and its expiry interval. -/
def Session.mark (s : Session) : Option ℤ × UInt32 := (s.disconnectedAt, s.expiryInterval)

/-! ### The persistent copies -/

namespace SessionStore

variable (ss : SessionStore)

/-- The persistent copy of the session of a client. -/
def row (clientID : Str) : Option Session := ss.store.bind fun store => store.lookup clientID

/-- What is left of the sessions when the process ends. -/
def disk : SessionStore := { ss with sessions := ∅ }

/-- `Load` into a new store.  Addresses are only compared with each other, so the objects may have
those of the objects that they were copied from. -/
def reload : SessionStore := { ss with sessions := ss.store.getD ∅ }

/-- The persistent copy of each session is marked as the session is. -/
def Backed : Prop := ∀ clientID, ∀ s ∈ ss.row clientID, (ss.get clientID).map Session.mark = s.mark

lemma backed_new (persistent : Bool) : (new persistent).Backed := by
  intro clientID s hs
  cases persistent <;> cases hs

variable (clientID clientID' : Str)

lemma row_persist (s : Session) :
    (ss.persist clientID s).row clientID' =
      if clientID' = clientID then ss.store.map fun _ => s else ss.row clientID' := by
  rw [row, row, persist]
  cases ss.store with
  | none => simp
  | some store =>
    exact GoMap.lookup_insert_eq ..

lemma row_remove :
    (ss.remove clientID).row clientID' =
      if clientID' = clientID then none else ss.row clientID' := by
  rw [row, row, remove]
  cases ss.store with
  | none => simp
  | some store =>
    exact GoMap.lookup_erase_eq ..

lemma get_reload : ss.reload.get clientID = ss.row clientID := by
  rw [get, reload, row]
  cases ss.store <;> rfl

lemma backed_reload : ss.reload.Backed := by
  intro clientID s hs
  rw [get_reload, show ss.row clientID = some s from hs]
  rfl

variable {ss}

lemma Backed.persist (h : ss.Backed) {clientID : Str} {s : Session}
    (hs : (ss.get clientID).map Session.mark = s.mark) : (ss.persist clientID s).Backed := by
  intro clientID' s' hs'
  rw [row_persist] at hs'
  split_ifs at hs' with heq
  · subst heq
    obtain ⟨_, _, rfl⟩ := Option.map_eq_some_iff.1 hs'
    exact hs
  · exact h clientID' s' hs'

lemma Backed.put (h : ss.Backed) (clientID : Str) (s : Session) : (ss.put clientID s).Backed := by
  intro clientID' s' hs'
  rw [get_put]
  rw [SessionStore.put, row_persist] at hs'
  split_ifs at hs' ⊢ with heq
  · obtain ⟨_, _, rfl⟩ := Option.map_eq_some_iff.1 hs'
    rfl
  · exact h clientID' s' hs'

lemma Backed.create (h : ss.Backed) (clientID : Str) (cleanStart : Bool) (expiry : UInt32) :
    (ss.create clientID cleanStart expiry).Backed := by
  have hnext : SessionStore.Backed { ss with next := ss.next + 1 } := h
  exact hnext.put clientID _

lemma Backed.markDisconnected (h : ss.Backed) (clientID : Str) (now : ℤ) :
    (ss.markDisconnected clientID now).Backed := by
  rw [SessionStore.markDisconnected]
  cases ss.get clientID with
  | none => exact h
  | some s => exact h.put clientID _

lemma Backed.remove (h : ss.Backed) (clientID : Str) : (ss.remove clientID).Backed := by
  intro clientID' s hs
  rw [row_remove] at hs
  split_ifs at hs with heq
  · cases hs
  · rw [get_remove, if_neg heq]
    exact h clientID' s hs

lemma row_setSubscription (addr : ℕ) (topic : Str) (qos : UInt8) :
    (ss.setSubscription clientID addr topic qos).row = ss.row := by
  rw [setSubscription]
  cases ss.get clientID with
  | none => rfl
  | some s =>
    dsimp only
    split_ifs <;> rfl

lemma Backed.setSubscription (h : ss.Backed) (clientID : Str) (addr : ℕ) (topic : Str)
    (qos : UInt8) : (ss.setSubscription clientID addr topic qos).Backed := by
  intro clientID' s hs
  rw [row_setSubscription] at hs
  rw [map_get_setSubscription ss (fun _ _ => rfl) clientID addr topic qos clientID']
  exact h clientID' s hs

lemma Backed.save (h : ss.Backed) (clientID : Str) : (ss.save clientID).Backed := by
  rw [SessionStore.save]
  cases hs : ss.get clientID with
  | none => exact h
  | some s => exact h.persist (by rw [hs]; rfl)

end SessionStore

/-! ### The process and its storage -/

/-- A broker that runs, or the storage of one that does not. -/
inductive Host (σ ρ : Type)
  | running (b : BrokerState σ ρ)
  | down (disk : SessionStore)

/-- What happens at a host: the broker does something or is stopped, the process ends, whether the
broker was stopped before or not, and another one is started. -/
inductive HostOp (σ ρ : Type)
  | serve (op : Op)
  | stop (now : ℤ)
  | crash (now : ℤ) (reaped : ℕ)
  | restart (blank : BrokerState σ ρ) (now : ℤ)

/-- The instant of an operation. -/
def HostOp.time {σ ρ : Type} : HostOp σ ρ → Option ℤ
  | .serve op => op.time
  | .stop now => some now
  | .crash now _ => some now
  | .restart _ now => some now

namespace BrokerState

variable {σ ε ρ : Type} (b : BrokerState σ ρ)

/-- The storage when the process ends.  A sweep that is under way has reaped the first sessions
that are due. -/
def crash (now : ℤ) (reaped : ℕ) : SessionStore :=
  (((b.sessions.expiredSessions now).take reaped).foldl
    (fun b clientID => b.reap clientID) b).sessions.disk

/-- `loadFromStorage` in a new broker.  Besides the sessions and their subscriptions it loads
retained messages, wills and offline queues; here they are those of `b`. -/
def loadFromStorage (disk : SessionStore) : BrokerState σ ρ :=
  { b with
    sessions := disk.reload
    subscriptions := disk.reload.sessions.entries.foldl (fun idx e =>
      if e.2.expiryInterval ≠ 0 then
        e.2.subscriptions.entries.foldl (fun idx sub => idx.add e.1 sub.1 sub.2) idx
      else idx) b.subscriptions
    clients := ∅
    conns := ∅
    done := false }

/-- A connection is new when it is accepted, and sends one CONNECT. -/
def SingleConnect : Op → Prop
  | .accept c => b.conns.lookup c = none
  | .connect c _ _ => b.Silent c
  | _ => True

instance (op : Op) : Decidable (b.SingleConnect op) :=
  match op with
  | .accept c => inferInstanceAs (Decidable (b.conns.lookup c = none))
  | .connect c _ _ => inferInstanceAs (Decidable (b.Silent c))
  | .publish _ _ _ _ | .subscribe _ _ | .disconnect _ _ | .close _ _ | .sweep _ => isTrue trivial

end BrokerState

/-- Since when a client has been without a connection, and the instant of the last operation. -/
structure Absence where
  since : Option ℤ
  clock : ℤ

namespace Host

variable {σ ε ρ : Type} (cfg : Config σ ε ρ) (id : Str)

/-- One operation.  What a host cannot do is ignored. -/
def step : Host σ ρ → HostOp σ ρ → Host σ ρ
  | .running b, .serve op => .running (b.step cfg op)
  | .running b, .stop _ => .running { b with done := true }
  | .running b, .crash now reaped => .down (b.crash now reaped)
  | .down disk, .restart blank _ => .running (blank.loadFromStorage disk)
  | h, _ => h

/-- The client has a connection, to a broker that has not been stopped. -/
def Serves : Host σ ρ → Prop
  | .running b => b.done = false ∧ ¬ b.Away id
  | .down _ => False

instance : DecidablePred (Serves id : Host σ ρ → Prop) := fun h =>
  match h with
  | .running b => inferInstanceAs (Decidable (b.done = false ∧ ¬ b.Away id))
  | .down _ => inferInstanceAs (Decidable False)

/-- One operation, with what a client notices of it. -/
def track (x : Host σ ρ × Absence) (op : HostOp σ ρ) : Host σ ρ × Absence :=
  let h := x.1.step cfg op
  let now := op.time.getD x.2.clock
  (h, ⟨if h.Serves id then none else some (x.2.since.getD now), now⟩)

/-- The clock does not go back, and each connection is new when it is accepted, and sends one
CONNECT. -/
def Timed (x : Host σ ρ × Absence) (op : HostOp σ ρ) : Prop :=
  (∀ t ∈ op.time, x.2.clock ≤ t) ∧
  match x.1, op with
  | .running b, .serve op => b.SingleConnect op
  | _, _ => True

instance (x : Host σ ρ × Absence) (op : HostOp σ ρ) : Decidable (Timed x op) :=
  @instDecidableAnd _ _ inferInstance
    (match x.1, op with
    | .running b, .serve op => inferInstanceAs (Decidable (b.SingleConnect op))
    | .running _, .stop _ | .running _, .crash _ _ | .running _, .restart _ _
    | .down _, _ => isTrue trivial)

/-- No process leaves a session of the client in the storage that can expire and is not marked
disconnected. -/
def Settled : Host σ ρ → HostOp σ ρ → Prop
  | .running b, .crash now reaped => ∀ s ∈ (b.crash now reaped).row id,
      s.disconnectedAt = none → s.expiryInterval = neverExpires
  | _, _ => True

instance (h : Host σ ρ) (op : HostOp σ ρ) : Decidable (Settled id h op) :=
  match h, op with
  | .running b, .crash now reaped =>
    inferInstanceAs (Decidable (∀ s ∈ (b.crash now reaped).row id, _))
  | .running _, .serve _ | .running _, .stop _ | .running _, .restart _ _
  | .down _, _ => isTrue trivial

/-- The mark of the session of the client, in the memory or in the storage. -/
def mark : Host σ ρ → Option (Option ℤ × UInt32)
  | .running b => b.marks id
  | .down disk => (disk.row id).map Session.mark

/-- The persistent copies agree with the sessions. -/
def Backed : Host σ ρ → Prop
  | .running b => b.sessions.Backed
  | .down _ => True

/-- The broker has been stopped and is still there. -/
def Stopped : Host σ ρ → Prop
  | .running b => b.done = true
  | .down _ => False

end Host

/-! ### What the operations of the broker do -/

namespace BrokerState

variable {σ ε ρ : Type} (cfg : Config σ ε ρ) {b : BrokerState σ ρ} {id : Str}

lemma done_establish (c : ℕ) (clientID : Str) (pkt : ConnectPacket) (now : ℤ) :
    (b.establish cfg c clientID pkt now).2.done = b.done := by
  obtain ⟨_, _, hopen⟩ := b.snd_openSession clientID pkt.cleanSession (expiryInterval pkt)
  refine (congrArg (fun b => b.done) (b.unrouted_establish cfg c clientID pkt now)).trans ?_
  rw [hopen]
  rfl

lemma backed_of_liveness {b' : BrokerState σ ρ} (h : b.sessions.Backed)
    (hlive : b'.liveness.2 = b.liveness.2) : b'.sessions.Backed ∧ b'.done = b.done := by
  have hsess : b'.sessions = b.sessions := congrArg Prod.fst hlive
  exact ⟨hsess ▸ h, congrArg Prod.snd hlive⟩

lemma backed_handleSubscribe (h : b.sessions.Backed) (c : ℕ) (pkt : SubscribePacket) :
    (b.handleSubscribe cfg c pkt).sessions.Backed ∧
      (b.handleSubscribe cfg c pkt).done = b.done := by
  rcases b.liveness_handleSubscribe_cases cfg c pkt with heq | ⟨id, granted, hlive⟩
  · rw [heq]
    exact ⟨h, rfl⟩
  · have hgranted := List.foldlRecOn granted (fun (ss : SessionStore) g =>
      ss.setSubscription id g.1 g.2.1 g.2.2) h fun _ h g _ => h.setSubscription id g.1 g.2.1 g.2.2
    have hsaved : (b.handleSubscribe cfg c pkt).sessions = _ := congrArg (fun x => x.2.1) hlive
    exact ⟨hsaved ▸ hgranted.save id, congrArg (fun x => x.2.2) hlive⟩

lemma backed_handleConnect (h : b.sessions.Backed) (c : ℕ) (pkt : ConnectPacket) (now : ℤ) :
    (b.handleConnect cfg c pkt now).2.sessions.Backed ∧
      (b.handleConnect cfg c pkt now).2.done = b.done := by
  rcases b.handleConnect_cases cfg c pkt now with heq | heq
  · exact backed_of_liveness h (congrArg Prod.snd (liveness_eq heq))
  · rw [heq]
    refine ⟨?_, done_establish cfg c _ pkt now⟩
    rcases b.establish_cases cfg c (effectiveClientID cfg c pkt) pkt now with
      ⟨_, -, -, hsess⟩ | ⟨-, hsess, -⟩
    · exact hsess ▸ h
    · exact hsess ▸ h.create _ _ _

lemma backed_close (h : b.sessions.Backed) (c : ℕ) (now : ℤ) :
    (b.close cfg c now).sessions.Backed ∧ (b.close cfg c now).done = b.done := by
  rcases b.liveness_close cfg c now with hlive | ⟨client, -, -, b₁, hlive, heq⟩
  · exact backed_of_liveness h (congrArg Prod.snd hlive)
  · have hsess : b₁.sessions = b.sessions := congrArg (fun x => x.2.1) hlive
    rw [heq]
    refine ⟨?_, ?_⟩
    · rw [← hsess] at h
      cases hs : b₁.sessions.get client.clientID with
      | none => rwa [endSession, hs]
      | some session =>
        rw [b₁.sessions_endSession hs]
        split_ifs
        · exact h.remove _
        · exact h
        · exact h.markDisconnected _ _
    · obtain ⟨_, _, _, hend⟩ := b₁.endSession_eq client.clientID now
      rw [hend]
      exact congrArg (fun x => x.2.2) hlive

lemma done_foldl_reap (ids : List Str) :
    (ids.foldl (fun b clientID => b.reap clientID) b).done = b.done :=
  foldl_frame BrokerState.done (fun _ _ => by rfl) ids b

lemma backed_foldl_reap (h : b.sessions.Backed) (ids : List Str) :
    (ids.foldl (fun b clientID => b.reap clientID) b).sessions.Backed :=
  List.foldlRecOn (motive := fun b : BrokerState σ ρ => b.sessions.Backed) ids _ h
    fun _ hb clientID _ => hb.remove clientID

lemma backed_step (h : b.sessions.Backed) (op : Op) :
    (b.step cfg op).sessions.Backed ∧ (b.step cfg op).done = b.done := by
  cases op with
  | accept c => exact ⟨h, rfl⟩
  | connect c pkt now => exact backed_handleConnect cfg h c pkt now
  | publish c fh data now =>
    exact backed_of_liveness h
      (congrArg Prod.snd ((bystander_liveness cfg).handlePublish b c fh data now))
  | subscribe c pkt => exact backed_handleSubscribe cfg h c pkt
  | disconnect c data =>
    exact backed_of_liveness h (congrArg Prod.snd (b.liveness_handleDisconnect c data))
  | close c now => exact backed_close cfg h c now
  | sweep now => exact ⟨backed_foldl_reap h _, done_foldl_reap _⟩

/-- The copy that a process leaves of a session is marked as the session. -/
lemma marks_of_row_crash (h : b.sessions.Backed) {now : ℤ} {reaped : ℕ} {s : Session}
    (hs : s ∈ (b.crash now reaped).row id) : b.marks id = some s.mark := by
  have hget := backed_foldl_reap h ((b.sessions.expiredSessions now).take reaped) id s hs
  rw [get_foldl_reap] at hget
  split_ifs at hget
  · cases hget
  · exact hget

/-- What the end of a connection does to the mark of a session. -/
lemma marks_close (c : ℕ) (now : ℤ) :
    (b.close cfg c now).marks id = none ∨ (b.close cfg c now).marks id = b.marks id ∨
      b.Holds id c ∧ b.done = false ∧ ∃ m expiry, b.marks id = some (m, expiry) ∧
        (b.close cfg c now).marks id = some (some now, expiry) := by
  by_cases hholds : b.Holds id c
  · rcases b.liveness_close cfg c now with hlive | ⟨client, hc, -, b₁, hlive, heq⟩
    · exact Or.inr (Or.inl (congrFun (marks_eq hlive) id))
    · have hclient : client.clientID = id := by
        obtain ⟨p, hp, hpid, -⟩ := hholds
        rw [profile_eq_some hc] at hp
        cases hp
        exact hpid
      have hsess : b₁.sessions = b.sessions := congrArg (fun x => x.2.1) hlive
      have hdone : b₁.done = b.done := congrArg (fun x => x.2.2) hlive
      rw [hclient] at heq
      cases hs : b₁.sessions.get id with
      | none =>
        refine Or.inl ?_
        rw [heq, endSession, hs]
        exact marks_eq_none.2 hs
      | some session =>
        rw [heq, marks, b₁.sessions_endSession hs]
        split_ifs with hzero hstop
        · refine Or.inl ?_
          rw [SessionStore.get_remove, if_pos rfl]
          rfl
        · refine Or.inr (Or.inl ?_)
          rw [hsess]
          rfl
        · refine Or.inr (Or.inr ⟨hholds, ?_, session.disconnectedAt,
            session.expiryInterval, ?_, ?_⟩)
          · rw [← hdone, Bool.eq_false_iff]
            exact hstop
          · exact marks_eq_some.2 ⟨session, hsess ▸ hs, rfl⟩
          · rw [SessionStore.get_markDisconnected, if_pos rfl, hs]
            rfl
  · exact Or.inr (Or.inl (marks_close_of_not_holds cfg hholds now))

/-- What an operation does to the mark of the session of a client: it may remove the session, make a
new one, or mark it. -/
lemma marks_step (op : Op) :
    (b.step cfg op).marks id = none ∨ (b.step cfg op).marks id = b.marks id ∨
    (∃ c pkt now, op = .connect c pkt now ∧ effectiveClientID cfg c pkt = id ∧
      b.handleConnect cfg c pkt now = b.establish cfg c id pkt now ∧
      (b.step cfg op).marks id = some (none, expiryInterval pkt)) ∨
    ∃ c now, op = .close c now ∧ b.Holds id c ∧ b.done = false ∧
      ∃ m expiry, b.marks id = some (m, expiry) ∧
        (b.step cfg op).marks id = some (some now, expiry) := by
  cases op with
  | accept c => exact Or.inr (Or.inl rfl)
  | connect c pkt now =>
    rcases eq_or_ne (effectiveClientID cfg c pkt) id with rfl | hne
    · rcases b.handleConnect_cases cfg c pkt now with heq | heq
      · exact Or.inr (Or.inl (congrFun (marks_eq (liveness_eq heq)) _))
      · rcases b.establish_cases cfg c (effectiveClientID cfg c pkt) pkt now with
          ⟨_, -, -, hsess⟩ | ⟨-, hsess, -⟩
        · refine Or.inr (Or.inl ?_)
          rw [step, heq, marks, hsess, marks]
        · refine Or.inr (Or.inr (Or.inl ⟨c, pkt, now, rfl, rfl, heq, ?_⟩))
          rw [step, heq, marks, hsess, SessionStore.get_create, if_pos rfl]
          rfl
    · exact Or.inr (Or.inl (marks_handleConnect_of_ne cfg hne))
  | publish c fh data now =>
    have hmarks := marks_eq ((bystander_liveness cfg).handlePublish b c fh data now)
    exact Or.inr (Or.inl (congrFun hmarks id))
  | subscribe c pkt => exact Or.inr (Or.inl (congrFun (b.marks_handleSubscribe cfg c pkt).2 id))
  | disconnect c data =>
    exact Or.inr (Or.inl (congrFun (marks_eq (b.liveness_handleDisconnect c data)) id))
  | close c now =>
    rcases b.marks_close cfg c now with h | h | ⟨hholds, hdone, hmarks⟩
    · exact Or.inl h
    · exact Or.inr (Or.inl h)
    · exact Or.inr (Or.inr (Or.inr ⟨c, now, rfl, hholds, hdone, hmarks⟩))
  | sweep now =>
    rw [step, marks_sweep]
    split_ifs
    · exact Or.inl rfl
    · exact Or.inr (Or.inl rfl)

lemma Holds.step {c : ℕ} (h : b.Holds id c) (hid : id ≠ []) {op : Op}
    (hsingle : b.SingleConnect op) :
    (b.step cfg op).Holds id c ∨ ∃ now, op = .close c now := by
  cases op with
  | accept c' => exact Or.inl ((holds_accept cfg hsingle hid c).2 h)
  | connect c' pkt now =>
    refine Or.inl ?_
    rw [BrokerState.step]
    rcases b.handleConnect_eq cfg c' pkt now with ⟨err, code, heq⟩ | heq
    · rw [heq]
      exact (holds_congr (congrFun (b.profile_send c' _) c)).2 h
    · rw [heq]
      exact (holds_establish cfg hsingle hid _ pkt now c).2 (Or.inl h)
  | publish c' fh data now =>
    exact Or.inl ((holds_congr
      (congrFun ((bystander_profile cfg).handlePublish b c' fh data now) c)).2 h)
  | subscribe c' pkt =>
    exact Or.inl ((holds_congr (congrFun (b.profile_handleSubscribe cfg c' pkt) c)).2 h)
  | disconnect c' data => exact Or.inl ((holds_handleDisconnect c' data c).2 h)
  | close c' now =>
    rcases eq_or_ne c c' with rfl | hne
    · exact Or.inr ⟨now, rfl⟩
    · exact Or.inl ((holds_close cfg c' now c).2 ⟨h, hne⟩)
  | sweep now => exact Or.inl ((holds_congr (congrFun (b.profile_sweep now) c)).2 h)

/-- While the broker runs, a client that has no connection and whose session is not marked was
without a connection before, and its session was not marked. -/
lemma unmarked_step (hid : id ≠ []) (hdone : b.done = false) {op : Op}
    (hsingle : b.SingleConnect op) (haway : (b.step cfg op).Away id) {expiry : UInt32}
    (hmark : (b.step cfg op).marks id = some (none, expiry)) :
    b.Away id ∧ b.marks id = some (none, expiry) := by
  rw [away_iff] at haway
  by_cases hbefore : b.Away id
  · refine ⟨hbefore, ?_⟩
    rcases b.marks_step cfg op with h | h | ⟨c, pkt, now, rfl, -, heq, -⟩ |
      ⟨c, now, -, -, -, m, expiry', -, h⟩
    · cases h.symm.trans hmark
    · exact h.symm.trans hmark
    · -- it connects
      refine absurd ?_ (haway c)
      rw [step, heq]
      exact (holds_establish cfg hsingle hid id pkt now c).2 (Or.inr ⟨rfl, rfl⟩)
    · cases h.symm.trans hmark
  · -- its last connection ends, and the session is marked or removed
    rw [b.away_iff, not_forall_not] at hbefore
    obtain ⟨c, hholds⟩ := hbefore
    obtain h | ⟨now, rfl⟩ := hholds.step cfg hid hsingle
    · exact absurd h (haway c)
    · rcases b.marks_close cfg c now with h | h | ⟨-, -, m, expiry', -, h⟩
      · cases h.symm.trans hmark
      · have hend := marks_close_of_holds cfg hholds hid hdone (h.symm.trans hmark) now
        rw [show (b.close cfg c now).marks id = some (none, expiry) from hmark] at hend
        split_ifs at hend
        cases hend
      · cases h.symm.trans hmark

end BrokerState

/-! ### Marks are as early as the absence -/

namespace Host

variable {σ ε ρ : Type} (cfg : Config σ ε ρ) {id : Str}

lemma Backed.step {h : Host σ ρ} (hb : h.Backed) (op : HostOp σ ρ) : (h.step cfg op).Backed := by
  cases h with
  | running b =>
    cases op with
    | serve op => exact (BrokerState.backed_step cfg hb op).1
    | stop now => exact hb
    | crash now reaped => trivial
    | restart blank now => exact hb
  | down disk =>
    cases op with
    | restart blank now => exact disk.backed_reload
    | serve op | stop now | crash now reaped => trivial

variable {b : BrokerState σ ρ}

lemma mark_crash (hb : b.sessions.Backed) (now : ℤ) (reaped : ℕ) :
    (Host.down (b.crash now reaped) : Host σ ρ).mark id = none ∨
      (Host.down (b.crash now reaped) : Host σ ρ).mark id = b.marks id := by
  rw [mark]
  cases hs : (b.crash now reaped).row id with
  | none => exact Or.inl rfl
  | some s => exact Or.inr (BrokerState.marks_of_row_crash hb hs).symm

lemma mark_restart (disk : SessionStore) (blank : BrokerState σ ρ) :
    (running (blank.loadFromStorage disk)).mark id = (down disk : Host σ ρ).mark id :=
  congrArg (Option.map Session.mark) (disk.get_reload id)

variable (id) in
/-- What is known of the absence of a client tells about the mark of its session: the mark is no
later than the absence, and while a broker runs that has not been stopped, the session of a client
without a connection is marked if it can expire. -/
structure Sound (h : Host σ ρ) (w : Absence) : Prop where
  serves : w.since = none ↔ h.Serves id
  early : ∀ t expiry, h.mark id = some (some t, expiry) → t ≤ w.clock ∧ ∀ u ∈ w.since, t ≤ u
  marked : ¬ h.Stopped → ¬ h.Serves id → ∀ expiry, h.mark id = some (none, expiry) →
    expiry = neverExpires

/-- An operation that marks a session marks it with the current instant, and only while the client
has a connection. -/
lemma Sound.track {x : Host σ ρ × Absence} (hx : Sound id x.1 x.2) {op : HostOp σ ρ}
    (hclock : ∀ t ∈ op.time, x.2.clock ≤ t)
    (hearly : ∀ t expiry, (x.1.step cfg op).mark id = some (some t, expiry) →
      x.1.mark id = some (some t, expiry) ∨ op.time = some t ∧ x.1.Serves id)
    (hmarked : ¬ (x.1.step cfg op).Stopped → ¬ (x.1.step cfg op).Serves id →
      ∀ expiry, (x.1.step cfg op).mark id = some (none, expiry) → expiry = neverExpires) :
    Sound id (track cfg id x op).1 (track cfg id x op).2 := by
  have hnow : x.2.clock ≤ op.time.getD x.2.clock := by
    cases ht : op.time with
    | none => exact le_rfl
    | some t => exact hclock t ht
  refine ⟨?_, fun t expiry ht => ?_, hmarked⟩
  · dsimp only [Host.track]
    split_ifs with hserves <;> simp [hserves]
  · dsimp only [Host.track] at ht ⊢
    have hle : t ≤ op.time.getD x.2.clock ∧
        t ≤ x.2.since.getD (op.time.getD x.2.clock) := by
      rcases hearly t expiry ht with hsame | ⟨htime, hserves⟩
      · obtain ⟨hle, hsince⟩ := hx.early t expiry hsame
        refine ⟨hle.trans hnow, ?_⟩
        cases hu : x.2.since with
        | none => exact hle.trans hnow
        | some u => exact hsince u hu
      · rw [htime, hx.serves.2 hserves]
        exact ⟨le_rfl, le_rfl⟩
    refine ⟨hle.1, fun u hu => ?_⟩
    split_ifs at hu
    · cases hu
    · cases hu
      exact hle.2

lemma Sound.serve {w : Absence} (hid : id ≠ []) (hx : Sound id (.running b) w)
    (hb : b.sessions.Backed) {op : Op} (htimed : Timed (.running b, w) (.serve op)) :
    Sound id (Host.track cfg id (.running b, w) (.serve op)).1
      (Host.track cfg id (.running b, w) (.serve op)).2 := by
  obtain ⟨hclock, hsingle⟩ := htimed
  refine Sound.track cfg hx hclock (fun t expiry ht => ?_) fun hgoing hleft expiry hmark => ?_
  · -- the sessions that are marked now, or were marked before
    rcases b.marks_step cfg op with h | h | ⟨c, pkt, now, -, -, -, h⟩ |
      ⟨c, now, rfl, hholds, hdone, m, expiry', -, h⟩
    · cases h.symm.trans ht
    · exact Or.inl (h.symm.trans ht)
    · cases h.symm.trans ht
    · cases h.symm.trans ht
      exact Or.inr ⟨rfl, hdone, fun haway => (b.away_iff id).1 haway c hholds⟩
  · have hdone : b.done = false := by
      rw [← (BrokerState.backed_step cfg hb op).2, Bool.eq_false_iff]
      exact hgoing
    have haway : (b.step cfg op).Away id := by
      refine not_not.1 fun haway => hleft ⟨?_, haway⟩
      rw [(BrokerState.backed_step cfg hb op).2, hdone]
    obtain ⟨hbefore, hold⟩ := BrokerState.unmarked_step cfg hid hdone hsingle haway hmark
    exact hx.marked (by simp [Stopped, hdone]) (fun h => h.2 hbefore) expiry hold

lemma Sound.step {x : Host σ ρ × Absence} (hid : id ≠ []) (hx : Sound id x.1 x.2)
    (hb : x.1.Backed) {op : HostOp σ ρ} (htimed : Timed x op) (hsettled : Settled id x.1 op) :
    Sound id (Host.track cfg id x op).1 (Host.track cfg id x op).2 := by
  obtain ⟨h, w⟩ := x
  have hclock := htimed.1
  -- an operation that leaves the session alone and does not end a connection
  have of_same : ∀ {op : HostOp σ ρ}, (∀ t ∈ op.time, w.clock ≤ t) →
      (h.step cfg op).mark id = h.mark id →
      (¬ (h.step cfg op).Stopped → ¬ (h.step cfg op).Serves id →
        ¬ h.Stopped ∧ ¬ h.Serves id) →
      Sound id (Host.track cfg id (h, w) op).1 (Host.track cfg id (h, w) op).2 := by
    intro op hclock hmark hstill
    refine Sound.track cfg hx hclock (fun t expiry ht => Or.inl (hmark.symm.trans ht)) ?_
    intro hgoing hleft expiry hnone
    obtain ⟨hgoing, hleft⟩ := hstill hgoing hleft
    exact hx.marked hgoing hleft expiry (hmark.symm.trans hnone)
  cases h with
  | running b =>
    cases op with
    | serve op => exact hx.serve cfg hid hb htimed
    | stop now => exact of_same hclock rfl fun hgoing => absurd rfl hgoing
    | crash now reaped =>
      refine Sound.track cfg hx hclock (fun t expiry ht => ?_) fun _ _ expiry hnone => ?_
      · rcases mark_crash hb now reaped with h | h
        · cases h.symm.trans ht
        · exact Or.inl (h.symm.trans ht)
      · obtain ⟨s, hs, heq⟩ := Option.map_eq_some_iff.1 hnone
        obtain ⟨hunmarked, rfl⟩ := Prod.mk.inj heq
        exact hsettled s hs hunmarked
    | restart blank now => exact of_same hclock rfl fun h h' => ⟨h, h'⟩
  | down disk =>
    cases op with
    | restart blank now =>
      exact of_same hclock (mark_restart disk blank) fun _ _ => ⟨not_false, not_false⟩
    | serve op | stop now | crash now reaped => exact of_same hclock rfl fun h h' => ⟨h, h'⟩

lemma mark_eq_none_step {h : Host σ ρ} (hb : h.Backed)
    (hnobody : ∀ c pkt, BrokerState.effectiveClientID cfg c pkt ≠ id) (hnone : h.mark id = none)
    (op : HostOp σ ρ) : (h.step cfg op).mark id = none := by
  cases h with
  | running b =>
    cases op with
    | serve op =>
      rcases b.marks_step cfg op with h | h | ⟨c, pkt, -, -, hsame, -⟩ |
        ⟨c, now, -, -, -, m, expiry, h, -⟩
      · exact h
      · exact h.trans hnone
      · exact absurd hsame (hnobody c pkt)
      · cases h.symm.trans hnone
    | stop now => exact hnone
    | crash now reaped =>
      rcases mark_crash hb now reaped with h | h
      · exact h
      · exact h.trans hnone
    | restart blank now => exact hnone
  | down disk =>
    cases op with
    | restart blank now => exact (mark_restart disk blank).trans hnone
    | serve op | stop now | crash now reaped => exact hnone

/-- What a sweep leaves is marked, no earlier than the expiry interval allows. -/
lemma Sound.sweep {w : Absence} {now : ℤ} (hx : Sound id (.running (b.sweep now)) w)
    (hdone : b.done = false) {s : Session} (hs : s ∈ (b.sweep now).sessions.get id)
    (hfinite : s.expiryInterval ≠ neverExpires) {u : ℤ} (hu : u ∈ w.since) :
    now - u ≤ s.expiryInterval.toNat * second := by
  have hmark : (b.sweep now).marks id = some s.mark := congrArg (Option.map Session.mark) hs
  have hleft : ¬ (running (b.sweep now)).Serves id := fun hserves => by
    rw [hx.serves.2 hserves] at hu
    cases hu
  have hgoing : ¬ (running (b.sweep now)).Stopped := by
    rw [Stopped, BrokerState.sweep, BrokerState.done_foldl_reap, hdone]
    exact Bool.false_ne_true
  rw [BrokerState.sweep, BrokerState.get_foldl_reap] at hs
  split_ifs at hs with hdue
  · cases hs
  cases ht : s.disconnectedAt with
  | none => exact absurd (hx.marked hgoing hleft _ (hmark.trans (by rw [Session.mark, ht]))) hfinite
  | some t =>
    have hearly := (hx.early t _ (hmark.trans (by rw [Session.mark, ht]))).2 u hu
    have hnot : ¬ s.expired now = true := fun hexp =>
      hdue (b.sessions.mem_expiredSessions.2 ⟨s, hs, hexp⟩)
    rw [Session.expired_iff ht, not_and] at hnot
    have hintime := hnot hfinite
    omega

end Host

open Host in
/-- In every timed run, from a broker without a session and without a connection of the client, in
which no process leaves a session of the client behind that can expire and is not marked: after a
sweep there is no session of the client that can expire and whose expiry interval has passed since
the client has been without a connection.  A broker that has been stopped does not sweep. -/
theorem sessions_expire {σ ε ρ : Type} (cfg : Config σ ε ρ) (hauto : ∀ c, cfg.autoID c ≠ [])
    (id : Str) (b : BrokerState σ ρ) (hnew : b.sessions.get id = none)
    (hb : b.sessions.Backed) (haway : b.Away id) (start : ℤ) (ops : List (HostOp σ ρ))
    (htimed : ∀ x ∈ trace (track cfg id) (.running b, ⟨some start, start⟩) ops, Timed x.1 x.2)
    (hsettled : ∀ x ∈ trace (track cfg id) (.running b, ⟨some start, start⟩) ops,
      Settled id x.1.1 x.2) :
    ∀ b' w now, ((.running b', w), .serve (.sweep now)) ∈
        trace (track cfg id) (.running b, ⟨some start, start⟩) ops → b'.done = false →
      ∀ s ∈ (b'.sweep now).sessions.get id, s.expiryInterval ≠ neverExpires →
        ∀ u ∈ (track cfg id (.running b', w) (.serve (.sweep now))).2.since,
          now - u ≤ s.expiryInterval.toNat * second := by
  intro b' w now hmem hdone s hs hfinite u hu
  rcases eq_or_ne id [] with rfl | hid
  · -- nobody has the empty client ID
    have hnobody : ∀ c pkt, BrokerState.effectiveClientID cfg c pkt ≠ [] := fun c pkt =>
      BrokerState.effectiveClientID_ne_nil cfg (hauto c) pkt
    have hinit : (running b).Backed ∧ (running b).mark [] = none :=
      ⟨hb, BrokerState.marks_eq_none.2 hnew⟩
    obtain ⟨hb', hnone⟩ := trace_invariant
      (fun x : Host σ ρ × Absence => x.1.Backed ∧ x.1.mark [] = none) (fun _ _ => True)
      (fun x op hx _ => ⟨hx.1.step cfg op, mark_eq_none_step cfg hx.1 hnobody hx.2 op⟩)
      hinit (fun _ _ => trivial) _ hmem
    have hgone := mark_eq_none_step cfg hb' hnobody hnone (.serve (.sweep now))
    cases (BrokerState.marks_eq_none.1 hgone).symm.trans hs
  · have hinit : (running b).Backed ∧ Sound id (running b) ⟨some start, start⟩ := by
      have hnone : (running b).mark id = none := BrokerState.marks_eq_none.2 hnew
      refine ⟨hb, ⟨nofun, fun hserves => absurd haway hserves.2⟩, ?_, ?_⟩
      · intro t expiry ht
        cases hnone.symm.trans ht
      · intro _ _ expiry hmark
        cases hnone.symm.trans hmark
    obtain ⟨hb', hsound⟩ := trace_invariant
      (fun x : Host σ ρ × Absence => x.1.Backed ∧ Sound id x.1 x.2)
      (fun x op => Timed x op ∧ Settled id x.1 op)
      (fun x op hx hop => ⟨hx.1.step cfg op, hx.2.step cfg hid hx.1 hop.1 hop.2⟩)
      hinit (fun x hx => ⟨htimed x hx, hsettled x hx⟩) _ hmem
    have hafter := hsound.step cfg hid hb' (htimed _ hmem) (hsettled _ hmem)
    exact hafter.sweep hdone hs hfinite hu

/-! ### A client that is connected when the process ends -/

namespace Host

open BrokerState

/-- A new broker with a persistent store. -/
def persistentBroker : BrokerState TenantChain Unit :=
  { BrokerState.new () none with sessions := .new true }

/-- The host after a run, with what the client `p` notices. -/
def hosted (ops : List (HostOp TenantChain Unit)) : Host TenantChain Unit × Absence :=
  ops.foldl (track sampleConfig (str "p")) (.running persistentBroker, ⟨some 0, 0⟩)

/-- The client `p` leaves a second before the process ends. -/
def leavingRun : List (HostOp TenantChain Unit) :=
  [.serve (.accept 0), .serve (.connect 0 (connectExpiring "p") 0), .serve (.close 0 second),
    .crash (2 * second) 0, .restart persistentBroker (3 * second)]

theorem sessions_expire_leaving :
    ∃ b w, hosted leavingRun = (.running b, w) ∧
      (∃ s ∈ (b.sweep (5 * second)).sessions.get (str "p"), s.expiryInterval = 10) ∧
      w.since = some second ∧
      ∀ s ∈ (b.sweep (5 * second)).sessions.get (str "p"), s.expiryInterval ≠ neverExpires →
        ∀ u ∈ (track sampleConfig (str "p") (.running b, w)
            (.serve (.sweep (5 * second)))).2.since,
          5 * second - u ≤ s.expiryInterval.toNat * second := by
  refine ⟨_, _, rfl, ⟨_, rfl, rfl⟩, rfl, ?_⟩
  exact sessions_expire sampleConfig (fun _ => show str "auto" ≠ [] by decide) (str "p")
    persistentBroker rfl (SessionStore.backed_new true) (by decide) 0
    (leavingRun ++ [.serve (.sweep (5 * second))]) (by decide) (by decide) _ _ _
    mem_trace_concat rfl

/-- The process ends while `p` is connected. -/
def crashingRun : List (HostOp TenantChain Unit) :=
  [.serve (.accept 0), .serve (.connect 0 (connectExpiring "p") 0), .crash second 0,
    .restart persistentBroker (3 * second)]

/-- The broker is stopped while `p` is connected, and ends in good order. -/
def stoppingRun : List (HostOp TenantChain Unit) :=
  [.serve (.accept 0), .serve (.connect 0 (connectExpiring "p") 0), .stop second,
    .serve (.close 0 second), .crash (2 * second) 0, .restart persistentBroker (3 * second)]

/-- After a timed run and a sweep there is a session of `p` whose expiry interval has passed since
`p` has been without a connection. -/
def Outlives (ops : List (HostOp TenantChain Unit)) (now : ℤ) : Prop :=
  (∀ x ∈ trace (track sampleConfig (str "p")) (.running persistentBroker, ⟨some 0, 0⟩)
    (ops ++ [.serve (.sweep now)]), Timed x.1 x.2) ∧
  ∃ b w, hosted ops = (.running b, w) ∧ b.done = false ∧
    ∃ s ∈ (b.sweep now).sessions.get (str "p"), s.expiryInterval ≠ neverExpires ∧
      ∃ u ∈ (track sampleConfig (str "p") (.running b, w) (.serve (.sweep now))).2.since,
        s.expiryInterval.toNat * second < now - u

/-- The session of ten seconds is there after a minute. -/
theorem sessions_outlive :
    Outlives crashingRun (60 * second) ∧ Outlives stoppingRun (60 * second) :=
  ⟨⟨by decide, _, _, rfl, rfl, _, rfl, by decide, _, rfl, by decide⟩,
    ⟨by decide, _, _, rfl, rfl, _, rfl, by decide, _, rfl, by decide⟩⟩

end Host

end Dmqtt.Broker
