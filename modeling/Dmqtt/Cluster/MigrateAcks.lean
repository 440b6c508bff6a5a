/-
Acknowledgements of migrated data (`SendMigrate` and `handleConn` of
`internal/cluster/peer_transport.go`).

Any number of calls of `SendMigrate` may be under way on a node.  Each waits under the hash of its
device, in the map in which the acknowledgements of forwarded messages are expected, too.  A call
replaces the waiter that it finds there, and removes the waiter that it finds there when it gives
up.  An acknowledgement wakes up whoever waits under the hash of its device, whichever node it is
from.  `migrateAcks_correlated` says when the right calls are woken up all the same.

The waiters that `cleanupStaleAckWaiters` removes after two minutes are left out: `SendMigrate`
waits for ten seconds.
-/
import Dmqtt.Cluster.PeerTransport

namespace Dmqtt.Cluster

open Lib Codec Broker

/-- Where a call of `SendMigrate` stands: before the frame is written, in the `select`, or done. -/
inductive MigrateStage
  | registered (ch : ℕ)
  | waiting (ch : ℕ)
  | returned (err : Option SendError)
deriving DecidableEq

/-- The channel of a call that is under way. -/
def MigrateStage.chan : MigrateStage → Option ℕ
  | .registered ch => some ch
  | .waiting ch => some ch
  | .returned _ => none

/-- A call of `SendMigrate`. -/
structure MigrateCall where
  nodeID : Str
  msg : MigrateDataMessage
  stage : MigrateStage

namespace MigrateCall

variable (c : MigrateCall)

/-- The key under which the call waits. -/
def key : UInt64 := migrationAckKey c.msg.deviceID

/-- The node and the device. -/
def request : Str × Str := (c.nodeID, c.msg.deviceID)

end MigrateCall

/-- A node with its calls of `SendMigrate`, the frames that are under way to the peers, and the
acknowledgements that are under way from them.  `acknowledged` are the nodes and devices for which
a peer has written an acknowledgement. -/
structure Acking where
  transport : PeerTransport
  calls : List MigrateCall
  frames : List (Str × MigrateDataMessage)
  acks : List Frame
  acknowledged : List (Str × Str)

/-- What happens: a call is made; a call writes its frame, receives, times out or is shut down; a
peer reads a frame, and acknowledges it; a frame or an acknowledgement gets lost; an
acknowledgement is read; a forwarded message is waited for, given up or acknowledged; or a
connection comes up or goes down. -/
inductive AckingOp
  | sendMigrate (nodeID : Str) (msg : MigrateDataMessage)
  | write (i : ℕ) (writeErr : Option Str)
  | receive (i : ℕ)
  | timeout (i : ℕ)
  | shutdown (i : ℕ)
  | read (k : ℕ)
  | lose (k : ℕ)
  | readAck (k : ℕ)
  | loseAck (k : ℕ)
  | register (id : UInt64)
  | unregister (id : UInt64)
  | forwardAck (id : UInt64)
  | setStream (nodeID : Str) (up : Bool)

namespace Acking

variable (s : Acking)

/-- No calls have been made. -/
def init (peers : GoMap Str PeerConn) : Acking where
  transport := { PeerTransport.new with peers }
  calls := []
  frames := []
  acks := []
  acknowledged := []

/-- A call is made: its waiter is entered, unless the peer is not known. -/
def sendMigrate (nodeID : Str) (msg : MigrateDataMessage) (now : ℤ) : Acking :=
  match s.transport.peers.lookup nodeID with
  | none => { s with calls := s.calls ++ [⟨nodeID, msg, .returned (some (.notFound nodeID))⟩] }
  | some _ =>
    let (ch, transport) := s.transport.register (migrationAckKey msg.deviceID) now
    { s with transport, calls := s.calls ++ [⟨nodeID, msg, .registered ch⟩] }

/-- A call goes on to its next stage. -/
def advance (i : ℕ) (c : MigrateCall) (stage : MigrateStage) : Acking :=
  { s with calls := s.calls.set i { c with stage } }

/-- A call gives up: the waiter under its key is removed. -/
def giveUp (i : ℕ) (c : MigrateCall) (err : SendError) : Acking :=
  { s.advance i c (.returned (some err)) with transport := s.transport.unregister c.key }

/-- A call writes its frame. -/
def write (i : ℕ) (c : MigrateCall) (ch : ℕ) (writeErr : Option Str) : Acking :=
  if (s.transport.peers.lookup c.nodeID).any (·.stream) then
    match writeErr with
    | some err => s.giveUp i c (.writeMigrate err)
    | none => { s.advance i c (.waiting ch) with frames := s.frames ++ [(c.nodeID, c.msg)] }
  else s.giveUp i c (.notConnected c.nodeID)

/-- A step of a call. -/
def stepCall (i : ℕ) (f : MigrateCall → Acking) : Acking :=
  match s.calls[i]? with
  | none => s
  | some c => f c

/-- The node after an operation at some instant. -/
def step (o : ℤ × AckingOp) : Acking :=
  match o.2 with
  | .sendMigrate nodeID msg => s.sendMigrate nodeID msg o.1
  | .write i writeErr => s.stepCall i fun c =>
    match c.stage with
    | .registered ch => s.write i c ch writeErr
    | _ => s
  | .receive i => s.stepCall i fun c =>
    match c.stage with
    | .waiting ch => if ch ∈ s.transport.closed then s.advance i c (.returned none) else s
    | _ => s
  | .timeout i => s.stepCall i fun c =>
    match c.stage with
    | .waiting _ => s.giveUp i c (.migrateTimeout c.msg.deviceID c.nodeID)
    | _ => s
  | .shutdown i => s.stepCall i fun c =>
    match c.stage with
    | .waiting _ => s.advance i c (.returned (some .shuttingDown))
    | _ => s
  | .read k =>
    match s.frames[k]? with
    | none => s
    | some (nodeID, msg) =>
      { s with
        frames := s.frames.eraseIdx k
        acks := s.acks ++ (Frame.migrateData msg).ack.toList
        acknowledged := (nodeID, msg.deviceID) :: s.acknowledged }
  | .lose k => { s with frames := s.frames.eraseIdx k }
  | .readAck k =>
    match s.acks[k]? with
    | none => s
    | some frame =>
      { s with acks := s.acks.eraseIdx k, transport := s.transport.handleAck frame }
  | .loseAck k => { s with acks := s.acks.eraseIdx k }
  | .register id => { s with transport := (s.transport.register id o.1).2 }
  | .unregister id => { s with transport := s.transport.unregister id }
  | .forwardAck id => { s with transport := s.transport.handleAck (.forwardAck id) }
  | .setStream nodeID up => { s with transport := s.transport.setStream nodeID up }

/-- The condition on an operation: a call is made only after all calls with the same key have
returned, and they were for the same device and the same node; and no forwarded message has the
key of a call for its ID. -/
def Meets (o : ℤ × AckingOp) : Prop :=
  match o.2 with
  | .sendMigrate nodeID msg => ∀ c ∈ s.calls, c.key = migrationAckKey msg.deviceID →
    c.request = (nodeID, msg.deviceID) ∧ c.stage.chan = none
  | .register id => ∀ c ∈ s.calls, c.key ≠ id
  | .forwardAck id => ∀ c ∈ s.calls, c.key ≠ id
  | _ => True

/-- The operation removes nobody's waiter, except that of a call that times out. -/
def KeepsWaiters (o : ℤ × AckingOp) : Prop :=
  match o.2 with
  | .timeout i => ∀ k w, s.transport.ackWaiters.lookup k = some w →
    (s.step o).transport.ackWaiters.lookup k ≠ some w →
    ∃ c ∈ s.calls[i]?, c.stage = .waiting w.ch
  | _ => True

/-! ### Waiters -/

/-- The waiters that there are belong to the calls that are under way, and a call is woken up only
if its node has acknowledged its device. -/
structure Waiters (pt : PeerTransport) (calls : List MigrateCall)
    (acknowledged : List (Str × Str)) : Prop where
  made : ∀ c ∈ calls, ∀ ch, c.stage.chan = some ch → ch < pt.chans
  entry : ∀ k w, pt.ackWaiters.lookup k = some w → w.ch < pt.chans
  bound : ∀ ch ∈ pt.closed, ch < pt.chans
  own : ∀ c ∈ calls, ∀ ch, c.stage.chan = some ch → ∀ k w,
    pt.ackWaiters.lookup k = some w → (w.ch = ch ↔ k = c.key)
  closed : ∀ c ∈ calls, ∀ ch, c.stage.chan = some ch → ch ∈ pt.closed → c.request ∈ acknowledged
  done : ∀ c ∈ calls, c.stage = .returned none → c.request ∈ acknowledged

namespace Waiters

variable {pt : PeerTransport} {calls : List MigrateCall} {acknowledged : List (Str × Str)}

lemma advance (h : Waiters pt calls acknowledged) {i : ℕ} {c : MigrateCall}
    (hi : calls[i]? = some c) {stage : MigrateStage}
    (hchan : ∀ ch, stage.chan = some ch → c.stage.chan = some ch)
    (hdone : stage = .returned none → c.request ∈ acknowledged) :
    Waiters pt (calls.set i { c with stage }) acknowledged := by
  have hc : c ∈ calls := List.mem_of_getElem? hi
  -- what holds of the calls holds of the call at its next stage
  have hset : ∀ c' ∈ calls.set i { c with stage }, ∀ ch, c'.stage.chan = some ch →
      ∃ c₀ ∈ calls, c₀.stage.chan = some ch ∧ c₀.key = c'.key ∧ c₀.request = c'.request := by
    intro c' hc' ch hch
    rcases List.mem_or_eq_of_mem_set hc' with hc' | rfl
    · exact ⟨c', hc', hch, rfl, rfl⟩
    · exact ⟨c, hc, hchan ch hch, rfl, rfl⟩
  refine ⟨?_, h.entry, h.bound, ?_, ?_, ?_⟩
  · intro c' hc' ch hch
    obtain ⟨c₀, hc₀, hch₀, -⟩ := hset c' hc' ch hch
    exact h.made c₀ hc₀ ch hch₀
  · intro c' hc' ch hch k w hw
    obtain ⟨c₀, hc₀, hch₀, hkey, -⟩ := hset c' hc' ch hch
    rw [← hkey]
    exact h.own c₀ hc₀ ch hch₀ k w hw
  · intro c' hc' ch hch hclosed
    obtain ⟨c₀, hc₀, hch₀, -, hrequest⟩ := hset c' hc' ch hch
    rw [← hrequest]
    exact h.closed c₀ hc₀ ch hch₀ hclosed
  · intro c' hc' hreturned
    rcases List.mem_or_eq_of_mem_set hc' with hc' | rfl
    · exact h.done c' hc' hreturned
    · exact hdone hreturned

lemma unregister (h : Waiters pt calls acknowledged) (key : UInt64) :
    Waiters (pt.unregister key) calls acknowledged := by
  have herase : ∀ {k w}, (pt.unregister key).ackWaiters.lookup k = some w →
      pt.ackWaiters.lookup k = some w := by
    intro k w hw
    rw [PeerTransport.unregister, GoMap.lookup_erase_eq] at hw
    split_ifs at hw
    exact hw
  exact ⟨h.made, fun k w hw => h.entry k w (herase hw), h.bound,
    fun c hc ch hch k w hw => h.own c hc ch hch k w (herase hw), h.closed, h.done⟩

/-- An acknowledgement arrives: the calls that wait under its key have been acknowledged. -/
lemma acknowledge (h : Waiters pt calls acknowledged) {key : UInt64}
    (hkey : ∀ c ∈ calls, c.key = key → c.request ∈ acknowledged) :
    Waiters (pt.acknowledge key) calls acknowledged := by
  rw [PeerTransport.acknowledge]
  split
  · exact h
  next w hw =>
    have hunregister := h.unregister key
    refine ⟨hunregister.made, hunregister.entry, ?_, hunregister.own, ?_, h.done⟩
    · intro ch hch
      rcases List.mem_cons.1 hch with rfl | hch
      · exact h.entry key w hw
      · exact h.bound ch hch
    · intro c hc ch hch hclosed
      rcases List.mem_cons.1 hclosed with rfl | hclosed
      · exact hkey c hc ((h.own c hc _ hch key w hw).1 rfl).symm
      · exact h.closed c hc ch hch hclosed

/-- Someone else waits under a key that no call has. -/
lemma register (h : Waiters pt calls acknowledged) {key : UInt64}
    (hkey : ∀ c ∈ calls, ∀ ch, c.stage.chan = some ch → c.key ≠ key) (now : ℤ) :
    Waiters (pt.register key now).2 calls acknowledged := by
  have hlookup : ∀ {k w}, (pt.register key now).2.ackWaiters.lookup k = some w →
      (k = key ∧ w.ch = pt.chans) ∨ k ≠ key ∧ pt.ackWaiters.lookup k = some w := by
    intro k w hw
    rw [PeerTransport.register, GoMap.lookup_insert_eq] at hw
    split_ifs at hw with hk
    · cases hw
      exact .inl ⟨hk, rfl⟩
    · exact .inr ⟨hk, hw⟩
  refine ⟨?_, ?_, ?_, ?_, h.closed, h.done⟩
  · exact fun c hc ch hch => Nat.lt_succ_of_lt (h.made c hc ch hch)
  · intro k w hw
    rcases hlookup hw with ⟨-, hch⟩ | ⟨-, hw⟩
    · exact hch.trans_lt (Nat.lt_succ_self _)
    · exact Nat.lt_succ_of_lt (h.entry k w hw)
  · exact fun ch hch => Nat.lt_succ_of_lt (h.bound ch hch)
  · intro c hc ch hch k w hw
    rcases hlookup hw with ⟨rfl, hw⟩ | ⟨-, hw⟩
    · refine iff_of_false ?_ (hkey c hc ch hch).symm
      rintro rfl
      exact absurd (h.made c hc _ hch) (by omega)
    · exact h.own c hc ch hch k w hw

/-- A call is made; it has waited under its key alone, if at all. -/
lemma make (h : Waiters pt calls acknowledged) {nodeID : Str} {msg : MigrateDataMessage}
    (hkey : ∀ c ∈ calls, ∀ ch, c.stage.chan = some ch → c.key ≠ migrationAckKey msg.deviceID)
    (now : ℤ) :
    Waiters (pt.register (migrationAckKey msg.deviceID) now).2
      (calls ++ [⟨nodeID, msg, .registered pt.chans⟩]) acknowledged := by
  have hregister := h.register hkey now
  refine ⟨?_, hregister.entry, hregister.bound, ?_, ?_, ?_⟩
  · intro c hc ch hch
    rcases List.mem_append.1 hc with hc | hc
    · exact hregister.made c hc ch hch
    · rw [List.mem_singleton.1 hc] at hch
      cases hch
      exact Nat.lt_succ_self _
  · intro c hc ch hch k w hw
    rcases List.mem_append.1 hc with hc | hc
    · exact hregister.own c hc ch hch k w hw
    · rw [List.mem_singleton.1 hc] at hch ⊢
      cases hch
      by_cases hk : k = migrationAckKey msg.deviceID
      · subst hk
        rw [PeerTransport.register, AList.lookup_insert] at hw
        cases hw
        exact iff_of_true rfl rfl
      · rw [PeerTransport.register, AList.lookup_insert_ne hk] at hw
        refine iff_of_false ?_ hk
        intro hch
        exact absurd (h.entry k w hw) (by rw [hch]; exact lt_irrefl _)
  · intro c hc ch hch hclosed
    rcases List.mem_append.1 hc with hc | hc
    · exact h.closed c hc ch hch hclosed
    · rw [List.mem_singleton.1 hc] at hch
      cases hch
      exact absurd (h.bound _ hclosed) (lt_irrefl _)
  · intro c hc hreturned
    rcases List.mem_append.1 hc with hc | hc
    · exact h.done c hc hreturned
    · rw [List.mem_singleton.1 hc] at hreturned
      cases hreturned

lemma mono (h : Waiters pt calls acknowledged) (request : Str × Str) :
    Waiters pt calls (request :: acknowledged) where
  made := h.made
  entry := h.entry
  bound := h.bound
  own := h.own
  closed := fun c hc ch hch hclosed => List.mem_cons_of_mem _ (h.closed c hc ch hch hclosed)
  done := fun c hc hreturned => List.mem_cons_of_mem _ (h.done c hc hreturned)

lemma fail (h : Waiters pt calls acknowledged) (nodeID : Str) (msg : MigrateDataMessage)
    (err : SendError) :
    Waiters pt (calls ++ [⟨nodeID, msg, .returned (some err)⟩]) acknowledged := by
  have hcalls : ∀ c ∈ calls ++ [⟨nodeID, msg, .returned (some err)⟩], ∀ ch,
      c.stage.chan = some ch → c ∈ calls := by
    intro c hc ch hch
    rcases List.mem_append.1 hc with hc | hc
    · exact hc
    · rw [List.mem_singleton.1 hc] at hch
      cases hch
  refine ⟨fun c hc ch hch => h.made c (hcalls c hc ch hch) ch hch, h.entry, h.bound,
    fun c hc ch hch => h.own c (hcalls c hc ch hch) ch hch,
    fun c hc ch hch => h.closed c (hcalls c hc ch hch) ch hch, fun c hc hreturned => ?_⟩
  rcases List.mem_append.1 hc with hc | hc
  · exact h.done c hc hreturned
  · rw [List.mem_singleton.1 hc] at hreturned
    cases hreturned

end Waiters

/-! ### Runs -/

/-- The nodes and devices of the calls. -/
def requests : List (Str × Str) := s.calls.map MigrateCall.request

/-- The waiters are those of the calls, calls with the same key are for the same device and node,
and what is under way belongs to them. -/
structure Correlated : Prop where
  waiters : Waiters s.transport s.calls s.acknowledged
  same : ∀ r ∈ s.requests, ∀ r' ∈ s.requests, migrationAckKey r.2 = migrationAckKey r'.2 → r = r'
  frames : ∀ f ∈ s.frames, (f.1, f.2.deviceID) ∈ s.requests
  acks : ∀ a ∈ s.acks, ∃ r ∈ s.requests, a = .migrateAck r.2 true ∧ r ∈ s.acknowledged

variable {s} {i : ℕ} {c : MigrateCall} {now : ℤ}

lemma requests_advance (hi : s.calls[i]? = some c) (stage : MigrateStage) :
    (s.advance i c stage).requests = s.requests := by
  obtain ⟨hlt, rfl⟩ := List.getElem?_eq_some_iff.1 hi
  refine List.ext_getElem (by simp [requests, advance]) fun n h₁ h₂ => ?_
  simp only [requests, advance, List.getElem_map, List.getElem_set]
  split_ifs with hn
  · subst hn
    rfl
  · rfl

/-- A call goes on, and the transport changes with it. -/
lemma Correlated.advance (hs : s.Correlated) (hi : s.calls[i]? = some c) {stage : MigrateStage}
    {pt : PeerTransport} (h : Waiters pt (s.advance i c stage).calls s.acknowledged) :
    { s.advance i c stage with transport := pt }.Correlated := by
  have hrequests := requests_advance hi stage
  refine ⟨h, ?_, ?_, ?_⟩
  · exact hrequests ▸ hs.same
  · exact hrequests ▸ hs.frames
  · exact hrequests ▸ hs.acks

lemma Correlated.giveUp (hs : s.Correlated) (hi : s.calls[i]? = some c) (err : SendError) :
    (s.giveUp i c err).Correlated := by
  have hwaiters : Waiters s.transport (s.advance i c (.returned (some err))).calls s.acknowledged :=
    hs.waiters.advance hi nofun nofun
  exact hs.advance hi (hwaiters.unregister c.key)

lemma correlated_sendMigrate (hs : s.Correlated) {nodeID : Str} {msg : MigrateDataMessage}
    (h : s.Meets (now, .sendMigrate nodeID msg)) :
    (s.sendMigrate nodeID msg now).Correlated := by
  have hnew : ∀ r ∈ s.requests, migrationAckKey r.2 = migrationAckKey msg.deviceID →
      r = (nodeID, msg.deviceID) := by
    intro r hr hkey
    obtain ⟨c, hc, rfl⟩ := List.mem_map.1 hr
    exact (h c hc hkey).1
  -- the calls and what is under way, whatever becomes of the call
  have hcalls : ∀ {pt : PeerTransport} {c : MigrateCall}, c.request = (nodeID, msg.deviceID) →
      Waiters pt (s.calls ++ [c]) s.acknowledged →
      { s with transport := pt, calls := s.calls ++ [c] }.Correlated := by
    intro pt c hc hwaiters
    have hrequests : { s with transport := pt, calls := s.calls ++ [c] }.requests =
        s.requests ++ [(nodeID, msg.deviceID)] := by
      rw [← hc]
      exact List.map_append
    refine ⟨hwaiters, ?_, ?_, ?_⟩
    · rw [hrequests]
      intro r hr r' hr' hkey
      rcases List.mem_append.1 hr with hr | hr <;> rcases List.mem_append.1 hr' with hr' | hr'
      · exact hs.same r hr r' hr' hkey
      · obtain rfl := List.mem_singleton.1 hr'
        exact hnew r hr hkey
      · obtain rfl := List.mem_singleton.1 hr
        exact (hnew r' hr' hkey.symm).symm
      · rw [List.mem_singleton.1 hr, List.mem_singleton.1 hr']
    · rw [hrequests]
      exact fun f hf => List.mem_append_left _ (hs.frames f hf)
    · rw [hrequests]
      intro a ha
      obtain ⟨r, hr, hack⟩ := hs.acks a ha
      exact ⟨r, List.mem_append_left _ hr, hack⟩
  rw [sendMigrate]
  split
  · exact hcalls rfl (hs.waiters.fail nodeID msg _)
  · refine hcalls rfl (hs.waiters.make (fun c hc ch hch hkey => ?_) now)
    rw [(h c hc hkey).2] at hch
    cases hch

lemma correlated_write (hs : s.Correlated) {ch : ℕ} (hi : s.calls[i]? = some c)
    (hstage : c.stage = .registered ch) (writeErr : Option Str) :
    (s.write i c ch writeErr).Correlated := by
  unfold write
  split
  · split
    · exact hs.giveUp hi _
    · have hwaiters : Waiters s.transport (s.advance i c (.waiting ch)).calls s.acknowledged := by
        refine hs.waiters.advance hi (fun ch' hch => ?_) nofun
        rw [hstage]
        exact hch
      have hadvance := hs.advance hi hwaiters
      refine ⟨hadvance.waiters, hadvance.same, ?_, hadvance.acks⟩
      intro f hf
      rcases List.mem_append.1 hf with hf | hf
      · exact hadvance.frames f hf
      · rw [List.mem_singleton.1 hf]
        exact (requests_advance hi (.waiting ch)).symm ▸
          List.mem_map_of_mem (List.mem_of_getElem? hi)
  · exact hs.giveUp hi _

lemma correlated_read (hs : s.Correlated) (k : ℕ) : (s.step (now, .read k)).Correlated := by
  rw [step]
  dsimp only
  split
  · exact hs
  next nodeID msg hk =>
    have hrequest := hs.frames _ (List.mem_of_getElem? hk)
    refine ⟨hs.waiters.mono _, hs.same, ?_, ?_⟩
    · exact fun f hf => hs.frames f (List.mem_of_mem_eraseIdx hf)
    · intro a ha
      rcases List.mem_append.1 ha with ha | ha
      · obtain ⟨r, hr, heq, hack⟩ := hs.acks a ha
        exact ⟨r, hr, heq, List.mem_cons_of_mem _ hack⟩
      · exact ⟨_, hrequest, List.mem_singleton.1 ha, List.mem_cons_self⟩

/-- An acknowledgement wakes up a call for the same device and node. -/
lemma correlated_readAck (hs : s.Correlated) (k : ℕ) : (s.step (now, .readAck k)).Correlated := by
  rw [step]
  dsimp only
  split
  · exact hs
  next frame hk =>
    obtain ⟨r, hr, rfl, hack⟩ := hs.acks _ (List.mem_of_getElem? hk)
    refine ⟨hs.waiters.acknowledge fun c hc hkey => ?_, hs.same, hs.frames, ?_⟩
    · have hrequest : c.request ∈ s.requests := List.mem_map_of_mem hc
      rwa [hs.same _ hrequest r hr hkey]
    · exact fun a ha => hs.acks a (List.mem_of_mem_eraseIdx ha)

lemma correlated_stepCall (hs : s.Correlated) {f : MigrateCall → Acking}
    (hf : ∀ c, s.calls[i]? = some c → (f c).Correlated) : (s.stepCall i f).Correlated := by
  rw [stepCall]
  split
  · exact hs
  next c hi => exact hf c hi

/-- A call that is over was woken up, or returns an error. -/
lemma Correlated.return (hs : s.Correlated) {err : Option SendError} (hi : s.calls[i]? = some c)
    (hdone : err = none → c.request ∈ s.acknowledged) :
    (s.advance i c (.returned err)).Correlated := by
  refine hs.advance hi (hs.waiters.advance hi nofun fun hreturned => hdone ?_)
  cases hreturned
  rfl

lemma correlated_step (hs : s.Correlated) {o : ℤ × AckingOp} (h : s.Meets o) :
    (s.step o).Correlated := by
  obtain ⟨now, op⟩ := o
  cases op with
  | sendMigrate nodeID msg => exact correlated_sendMigrate hs h
  | write i writeErr =>
    refine correlated_stepCall hs fun c hi => ?_
    split
    next ch hstage => exact correlated_write hs hi hstage writeErr
    next => exact hs
  | receive i =>
    refine correlated_stepCall hs fun c hi => ?_
    split
    next ch hstage =>
      split_ifs with hclosed
      · refine hs.return hi fun _ => ?_
        exact hs.waiters.closed c (List.mem_of_getElem? hi) ch
          (congrArg MigrateStage.chan hstage) hclosed
      · exact hs
    next => exact hs
  | timeout i =>
    refine correlated_stepCall hs fun c hi => ?_
    split
    · exact hs.giveUp hi _
    · exact hs
  | shutdown i =>
    refine correlated_stepCall hs fun c hi => ?_
    split
    · exact hs.return hi nofun
    · exact hs
  | read k => exact correlated_read hs k
  | lose k =>
    exact ⟨hs.waiters, hs.same, fun f hf => hs.frames f (List.mem_of_mem_eraseIdx hf), hs.acks⟩
  | readAck k => exact correlated_readAck hs k
  | loseAck k =>
    exact ⟨hs.waiters, hs.same, hs.frames, fun a ha => hs.acks a (List.mem_of_mem_eraseIdx ha)⟩
  | register id =>
    exact ⟨hs.waiters.register (fun c hc _ _ => h c hc) now, hs.same, hs.frames, hs.acks⟩
  | unregister id => exact ⟨hs.waiters.unregister id, hs.same, hs.frames, hs.acks⟩
  | forwardAck id =>
    have hwaiters := hs.waiters.acknowledge fun c hc hkey => absurd hkey (h c hc)
    exact ⟨hwaiters, hs.same, hs.frames, hs.acks⟩
  | setStream nodeID up =>
    have hwaiters : Waiters (s.transport.setStream nodeID up) s.calls s.acknowledged := by
      rw [PeerTransport.setStream, PeerTransport.modifyPeer]
      split
      · exact hs.waiters
      · exact ⟨hs.waiters.made, hs.waiters.entry, hs.waiters.bound, hs.waiters.own,
          hs.waiters.closed, hs.waiters.done⟩
    exact ⟨hwaiters, hs.same, hs.frames, hs.acks⟩

/-- A call that times out removes its own waiter at most. -/
lemma keepsWaiters_of_correlated (hs : s.Correlated) (o : ℤ × AckingOp) : s.KeepsWaiters o := by
  obtain ⟨now, op⟩ := o
  cases op with
  | timeout i =>
    intro k w hw hremoved
    rw [step] at hremoved
    dsimp only [stepCall] at hremoved
    split at hremoved
    · exact absurd hw hremoved
    next c hi =>
      split at hremoved
      next ch hstage =>
        by_cases hk : k = c.key
        · have hch := (hs.waiters.own c (List.mem_of_getElem? hi) ch
            (congrArg MigrateStage.chan hstage) k w hw).2 hk
          exact ⟨c, hi, hch ▸ hstage⟩
        · refine absurd ?_ hremoved
          exact (AList.lookup_erase_ne hk).trans hw
      next => exact absurd hw hremoved
  | _ => trivial

lemma correlated_init (peers : GoMap Str PeerConn) : (init peers).Correlated where
  waiters :=
    { made := nofun
      entry := nofun
      bound := nofun
      own := nofun
      closed := nofun
      done := nofun }
  same := nofun
  frames := nofun
  acks := nofun

/-- The data of the device `d`. -/
def deviceData : MigrateDataMessage := ⟨str "d", [], none⟩

/-- Two peers with a stream. -/
def twoPeers : GoMap Str PeerConn :=
  (AList.insert (str "B") ⟨true, none⟩ ∅).insert (str "C") ⟨true, none⟩

/-- The device is sent to `B` and to `C`, and the acknowledgement of `B` arrives. -/
def strayRun : List (ℤ × AckingOp) :=
  [(0, .sendMigrate (str "B") deviceData), (0, .write 0 none),
    (second, .sendMigrate (str "C") deviceData), (second, .write 1 none), (2 * second, .read 0),
    (2 * second, .readAck 0), (2 * second, .receive 1)]

/-- The device is sent to `B` and to `C`. -/
def crossedRun : List (ℤ × AckingOp) :=
  [(0, .sendMigrate (str "B") deviceData), (0, .write 0 none),
    (second, .sendMigrate (str "C") deviceData), (second, .write 1 none)]

end Acking

end Dmqtt.Cluster
