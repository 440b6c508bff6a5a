/-
Reliable forwarding between nodes (`SendReliable` and the forward callback).

A node has any number of calls of `SendReliable` under way, to any peers.  Each call makes up to
`maxRetries + 1` attempts to send its message, with the same ID, and waits for an acknowledgement
after each.  A peer acknowledges and handles each frame that it reads; it does not look whether
it has seen the ID before.  `sendReliable_atMostOnce` says when a message is handled at most once
all the same.
-/
import Dmqtt.Broker.Mediation
import Dmqtt.Cluster.PeerTransport

namespace Dmqtt.Cluster

open Lib Codec Broker

/-! ### `SendReliable` -/

/-- Where a call of `SendReliable` stands: before its first check, before an attempt, waiting for
an acknowledgement, or done. -/
inductive CallStage
  | called
  | ready (attempt : ℕ)
  | waiting (attempt ch : ℕ)
  | returned (err : Option SendError)
deriving DecidableEq

/-- A call of `SendReliable`. -/
structure SendCall where
  nodeID : Str
  msg : ForwardMessage
  maxRetries : ℤ
  stage : CallStage := .called

namespace SendCall

variable (c : SendCall)

/-- The check of the breaker before the first attempt. -/
def start (pt : PeerTransport) (now : ℤ) : CallStage × PeerTransport :=
  match pt.allowOrError c.nodeID now with
  | (some err, pt) => (.returned (some err), pt)
  | (none, pt) => (.ready 0, pt)

/-- An attempt, until the frame is written. -/
def attempt (attempt : ℕ) (pt : PeerTransport) (writeErr : Option Str) (now : ℤ) :
    CallStage × PeerTransport :=
  if (attempt : ℤ) ≤ c.maxRetries then
    let (ch, pt) := pt.register c.msg.id now
    match pt.send c.nodeID writeErr now with
    | (none, pt) => (.waiting attempt ch, pt)
    | (some err, pt) =>
      let pt := pt.unregister c.msg.id
      if err = .circuitOpen then (.returned (some err), pt)
      else if (attempt : ℤ) < c.maxRetries then (.ready (attempt + 1), pt)
      else (.returned (some (.failed c.nodeID (attempt + 1) err)), pt)
  else (.returned none, pt)

/-- The acknowledgement of an attempt does not arrive in time. -/
def timeout (attempt : ℕ) (pt : PeerTransport) : CallStage × PeerTransport :=
  (if (attempt : ℤ) < c.maxRetries then .ready (attempt + 1)
    else .returned (some (.ackTimeout c.msg.id c.nodeID (c.maxRetries + 1))),
    pt.unregister c.msg.id)

/-- The arguments of the call. -/
def request : Str × ForwardMessage × ℤ := (c.nodeID, c.msg, c.maxRetries)

/-- `Cluster.Forward` of a message above QoS 0. -/
def forward (pt : PeerTransport) (nodeID : Str) (msg : ForwardMessage) : SendCall × PeerTransport :=
  let (id, pt) := if msg.id = 0 then pt.nextID else (msg.id, pt)
  ({ nodeID, msg := { msg with id, forwarded := true }, maxRetries := 3 }, pt)

end SendCall

/-- The phase of a call as a sender. -/
def CallStage.phase : CallStage → Phase
  | .called => .ready
  | .ready _ => .ready
  | .waiting _ _ => .waiting
  | .returned _ => .finished

/-- The call makes another attempt if the acknowledgement that it waits for does not come. -/
def CallStage.Repeats (maxRetries : ℤ) : CallStage → Prop
  | .waiting n _ => (n : ℤ) < maxRetries
  | _ => False

instance (maxRetries : ℤ) : (stage : CallStage) → Decidable (stage.Repeats maxRetries)
  | .called | .ready _ => isFalse id
  | .waiting n _ => inferInstanceAs (Decidable ((n : ℤ) < maxRetries))
  | .returned _ => isFalse id

/-! ### Runs -/

/-- A node with its calls of `SendReliable`, what is under way, the brokers of the peers, and the
messages that their forward callbacks were run with, each with the call that it is from. -/
structure Forwarding (σ ρ : Type) where
  transport : PeerTransport
  calls : List SendCall
  network : Network (Str × ForwardMessage) Frame
  brokers : Str → BrokerState σ ρ
  handled : List (ℕ × Str × ForwardMessage)

/-- What happens: a call takes a step; a peer reads a frame or runs its callback; a frame gets
lost; a peer goes down and comes up with another broker; an acknowledgement is read or lost; old
waiters are cleaned up; a connection comes up or goes down; or a broker does something else. -/
inductive ForwardingOp (σ ρ : Type)
  | start (i : ℕ)
  | attempt (i : ℕ) (writeErr : Option Str)
  | receive (i : ℕ)
  | timeout (i : ℕ)
  | shutdown (i : ℕ)
  | read (k : ℕ)
  | handle (k : ℕ)
  | lose (k : ℕ)
  | restart (nodeID : Str) (b : BrokerState σ ρ)
  | readAck (k : ℕ)
  | loseAck (k : ℕ)
  | cleanup
  | setStream (nodeID : Str) (up : Bool)
  | other (nodeID : Str) (f : BrokerState σ ρ → BrokerState σ ρ)

namespace Forwarding

variable {σ ε ρ : Type} (cfg : Config σ ε ρ) (s : Forwarding σ ρ)

/-- No call has begun. -/
def init (transport : PeerTransport) (calls : List (Str × ForwardMessage × ℤ))
    (brokers : Str → BrokerState σ ρ) : Forwarding σ ρ where
  transport := transport
  calls := calls.map fun c => { nodeID := c.1, msg := c.2.1, maxRetries := c.2.2 }
  network := .empty
  brokers := brokers
  handled := []

/-- A call goes on to its next stage. -/
def advance (i : ℕ) (c : SendCall) (out : CallStage × PeerTransport) : Forwarding σ ρ :=
  { s with calls := s.calls.set i { c with stage := out.1 }, transport := out.2 }

/-- An attempt of a call; if it succeeds, then the frame is under way. -/
def attempt (i : ℕ) (c : SendCall) (n : ℕ) (writeErr : Option Str) (now : ℤ) : Forwarding σ ρ :=
  let out := c.attempt n s.transport writeErr now
  let s := s.advance i c out
  match out.1 with
  | .waiting _ _ => { s with network := s.network.write i (c.nodeID, c.msg) }
  | _ => s

/-- A step of a call, which depends on its stage. -/
def stepCall (i : ℕ) (f : SendCall → CallStage → Forwarding σ ρ) : Forwarding σ ρ :=
  match s.calls[i]? with
  | none => s
  | some c => f c c.stage

/-- A peer runs its callback with a message that it has read: its broker routes the message. -/
def handle (k : ℕ) (now : ℤ) : Forwarding σ ρ :=
  let (parcel, network) := s.network.take k
  let s := { s with network }
  match parcel with
  | none => s
  | some (i, nodeID, msg) =>
    { s with
      brokers := Function.update s.brokers nodeID
        ((s.brokers nodeID).routeMessage cfg msg.topic msg.payload msg.qos msg.retain true now)
      handled := s.handled ++ [(i, nodeID, msg)] }

/-- The node and its peers after an operation at some instant. -/
def step (o : ℤ × ForwardingOp σ ρ) : Forwarding σ ρ :=
  match o.2 with
  | .start i => s.stepCall i fun c stage =>
    match stage with
    | .called => s.advance i c (c.start s.transport o.1)
    | _ => s
  | .attempt i writeErr => s.stepCall i fun c stage =>
    match stage with
    | .ready n => s.attempt i c n writeErr o.1
    | _ => s
  | .receive i => s.stepCall i fun c stage =>
    match stage with
    | .waiting _ ch =>
      if ch ∈ s.transport.closed then s.advance i c (.returned none, s.transport) else s
    | _ => s
  | .timeout i => s.stepCall i fun c stage =>
    match stage with
    | .waiting n _ => s.advance i c (c.timeout n s.transport)
    | _ => s
  | .shutdown i => s.stepCall i fun c stage =>
    match stage with
    | .waiting _ _ => s.advance i c (.returned (some .shuttingDown), s.transport)
    | _ => s
  | .read k => { s with network := s.network.read (fun m => (Frame.forward m.2).ack) k }
  | .handle k => s.handle cfg k o.1
  | .lose k => { s with network := s.network.lose k }
  | .restart nodeID b =>
    { s with
      network := s.network.drop fun m => m.1 = nodeID
      brokers := Function.update s.brokers nodeID b }
  | .readAck k =>
    let (frame, network) := s.network.takeAck k
    { s with
      network
      transport := match frame with
        | none => s.transport
        | some frame => s.transport.handleAck frame }
  | .loseAck k => { s with network := s.network.loseAck k }
  | .cleanup => { s with transport := s.transport.cleanupStaleAckWaiters o.1 }
  | .setStream nodeID up => { s with transport := s.transport.setStream nodeID up }
  | .other nodeID f =>
    { s with brokers := Function.update s.brokers nodeID (f (s.brokers nodeID)) }

/-- The condition on an operation: a call that makes another attempt after a timeout does so
only after the frame was lost. -/
def Meets (o : ℤ × ForwardingOp σ ρ) : Prop :=
  match o.2 with
  | .timeout i => (∃ c ∈ s.calls[i]?, c.stage.Repeats c.maxRetries) →
    Exchange.Lost s.network.pending s.handled i
  | _ => True

/-! ### What an operation does -/

/-- What an operation does to the calls, to what is under way and to what was handled. -/
inductive Effect (o : ℤ × ForwardingOp σ ρ) (s' : Forwarding σ ρ) : Prop
  | call (j : ℕ) (c : SendCall) (stage : CallStage) (hc : s.calls[j]? = some c)
      (hcalls : s'.calls = s.calls.set j { c with stage })
      (hpending : s'.network.pending = s.network.pending) (hhandled : s'.handled = s.handled)
      (hphase : stage.phase = .finished ∨ stage.phase = c.stage.phase ∨
        o.2 = .timeout j ∧ c.stage.Repeats c.maxRetries ∧ stage.phase = .ready)
  | write (j : ℕ) (c : SendCall) (stage : CallStage) (hc : s.calls[j]? = some c)
      (hcalls : s'.calls = s.calls.set j { c with stage })
      (hpending : s'.network.pending.Perm ((j, c.nodeID, c.msg) :: s.network.pending))
      (hhandled : s'.handled = s.handled) (hready : c.stage.phase = .ready)
      (hwaiting : stage.phase = .waiting)
  | handle (j : ℕ) (nodeID : Str) (msg : ForwardMessage) (hcalls : s'.calls = s.calls)
      (hpending : s.network.pending.Perm ((j, nodeID, msg) :: s'.network.pending))
      (hhandled : s'.handled = s.handled ++ [(j, nodeID, msg)])
  | lose (hcalls : s'.calls = s.calls) (hpending : s'.network.pending.Subperm s.network.pending)
      (hhandled : s'.handled = s.handled)

variable {s} {o : ℤ × ForwardingOp σ ρ}

lemma effect_refl : s.Effect o s := .lose rfl (List.Subperm.refl _) rfl

variable {c : SendCall} {i : ℕ}

lemma effect_stepCall {f : SendCall → CallStage → Forwarding σ ρ}
    (h : ∀ c, s.calls[i]? = some c → s.Effect o (f c c.stage)) : s.Effect o (s.stepCall i f) := by
  rw [stepCall]
  cases hc : s.calls[i]? with
  | none => exact effect_refl
  | some c => exact h c hc

lemma effect_advance (hc : s.calls[i]? = some c) {out : CallStage × PeerTransport} (h : out.1.phase
    = .finished ∨ out.1.phase = c.stage.phase ∨ o.2 = .timeout i ∧ c.stage.Repeats c.maxRetries ∧
    out.1.phase = .ready) :
    s.Effect o (s.advance i c out) :=
  .call i c out.1 hc rfl rfl rfl h

lemma effect_attempt (hc : s.calls[i]? = some c) {n : ℕ} (hstage : c.stage = .ready n)
    (writeErr : Option Str) (now : ℤ) :
    s.Effect o (s.attempt i c n writeErr now) := by
  have hready : c.stage.phase = .ready := by rw [hstage]; rfl
  rw [attempt]
  cases hout : (c.attempt n s.transport writeErr now).1 with
  | called | ready m => exact effect_advance hc (Or.inr (Or.inl (by rw [hout, hready]; rfl)))
  | waiting m ch =>
    refine .write i c _ hc rfl (Network.pending_write i _) rfl hready ?_
    rw [hout]
    rfl
  | returned err => exact effect_advance hc (Or.inl (by rw [hout]; rfl))

lemma effect_handle (k : ℕ) (now : ℤ) : s.Effect o (s.handle cfg k now) := by
  have hlose : s.Effect o { s with network := (s.network.take k).2 } :=
    .lose rfl (Network.pending_take_sublist k).subperm rfl
  rw [handle]
  dsimp only [Network.take] at hlose ⊢
  cases hk : s.network.handling[k]? with
  | none => exact hlose
  | some p =>
    obtain ⟨i, nodeID, msg⟩ := p
    exact .handle i nodeID msg rfl (Network.pending_take hk) rfl

lemma effect_step : s.Effect o (s.step cfg o) := by
  obtain ⟨now, op⟩ := o
  cases op with
  | start i =>
    rw [step]
    refine effect_stepCall fun c hc => ?_
    cases hstage : c.stage with
    | called =>
      refine effect_advance hc ?_
      rw [SendCall.start, hstage]
      rcases s.transport.allowOrError c.nodeID now with ⟨_ | err, pt⟩
      · exact Or.inr (Or.inl rfl)
      · exact Or.inl rfl
    | _ => exact effect_refl
  | attempt i writeErr =>
    rw [step]
    refine effect_stepCall fun c hc => ?_
    cases hstage : c.stage with
    | ready n => exact effect_attempt hc hstage writeErr now
    | _ => exact effect_refl
  | receive i =>
    rw [step]
    refine effect_stepCall fun c hc => ?_
    cases hstage : c.stage with
    | waiting n ch =>
      dsimp only
      split_ifs
      · exact effect_advance hc (Or.inl rfl)
      · exact effect_refl
    | _ => exact effect_refl
  | timeout i =>
    rw [step]
    refine effect_stepCall fun c hc => ?_
    cases hstage : c.stage with
    | waiting n ch =>
      refine effect_advance hc ?_
      rw [SendCall.timeout, hstage]
      by_cases hn : (n : ℤ) < c.maxRetries
      · rw [if_pos hn]
        exact Or.inr (Or.inr ⟨rfl, hn, rfl⟩)
      · rw [if_neg hn]
        exact Or.inl rfl
    | _ => exact effect_refl
  | shutdown i =>
    rw [step]
    refine effect_stepCall fun c hc => ?_
    cases hstage : c.stage with
    | waiting n ch => exact effect_advance hc (Or.inl rfl)
    | _ => exact effect_refl
  | read k => exact .lose rfl (Network.pending_read _ k).subperm rfl
  | handle k => exact effect_handle cfg k now
  | lose k => exact .lose rfl (Network.pending_lose k).subperm rfl
  | restart nodeID b => exact .lose rfl (Network.pending_drop _).subperm rfl
  | readAck k | loseAck k | cleanup | setStream nodeID up | other nodeID f =>
    exact .lose rfl (List.Subperm.refl _) rfl

/-! ### Each call is an exchange -/

/-- What a call does next. -/
def phase (s : Forwarding σ ρ) (i : ℕ) : Phase :=
  (s.calls[i]?.map fun c => c.stage.phase).getD .finished

/-- A call as an exchange. -/
def exchange (s : Forwarding σ ρ) (i : ℕ) : Exchange :=
  .of (s.phase i) s.network.pending s.handled i

lemma phase_eq (hc : s.calls[i]? = some c) : s.phase i = c.stage.phase := by
  rw [phase, hc]
  rfl

lemma phase_set {s' : Forwarding σ ρ} {j : ℕ} {stage : CallStage} (hc : s.calls[j]? = some c)
    (hcalls : s'.calls = s.calls.set j { c with stage }) (i : ℕ) :
    s'.phase i = if j = i then stage.phase else s.phase i := by
  have hj : j < s.calls.length := (List.getElem?_eq_some_iff.1 hc).1
  rw [phase, phase, hcalls, List.getElem?_set]
  by_cases hij : j = i
  · simp [hij, hij ▸ hj]
  · simp [hij]

lemma phase_of_repeats (h : c.stage.Repeats c.maxRetries) : c.stage.phase = .waiting := by
  cases hstage : c.stage with
  | waiting n ch => rfl
  | _ =>
    rw [hstage] at h
    exact h.elim

/-- The code refines the exchange: if an operation meets the condition, then it is a sequence of
steps of each call. -/
lemma steps_exchange (h : s.Meets o) (i : ℕ) :
    Exchange.Steps (s.exchange i) ((s.step cfg o).exchange i) := by
  generalize hs' : s.step cfg o = s'
  have heffect : s.Effect o s' := hs' ▸ effect_step cfg
  rw [exchange, exchange]
  cases heffect with
  | call j c stage hc hcalls hpending hhandled hphase =>
    rw [hpending, hhandled, phase_set hc hcalls]
    split_ifs with hij
    · subst hij
      rcases hphase with hfin | hsame | ⟨hop, hrep, hready⟩
      · rw [hfin]
        exact Exchange.steps_finish
      · rw [hsame, ← phase_eq hc]
      · rw [Meets, hop] at h
        rw [phase_eq hc, phase_of_repeats hrep, hready]
        exact Exchange.steps_retry (h ⟨c, hc, hrep⟩)
    · exact .refl
  | write j c stage hc hcalls hpending hhandled hready hwaiting =>
    rw [hhandled, phase_set hc hcalls]
    split_ifs with hij
    · subst hij
      rw [phase_eq hc, hready, hwaiting]
      exact Exchange.steps_write hpending
    · rw [Exchange.of_write_of_ne hpending hij]
  | handle j nodeID msg hcalls hpending hhandled =>
    rw [hhandled, phase, phase, hcalls]
    exact Exchange.steps_handle hpending
  | lose hcalls hpending hhandled =>
    rw [hhandled, phase, phase, hcalls]
    exact Exchange.steps_lose hpending

/-! ### Messages are handled at most once -/

/-- What holds in every run: the calls keep their arguments, and each frame and each handled
message is the one of its call. -/
structure Traced (calls : List (Str × ForwardMessage × ℤ)) (s : Forwarding σ ρ) : Prop where
  calls_eq : s.calls.map SendCall.request = calls
  pending : ∀ p ∈ s.network.pending, ∃ r ∈ calls[p.1]?, p.2 = (r.1, r.2.1)
  handled : ∀ p ∈ s.handled, ∃ r ∈ calls[p.1]?, p.2 = (r.1, r.2.1)

variable {calls : List (Str × ForwardMessage × ℤ)}

lemma Traced.set (h : s.Traced calls) {j : ℕ} {c : SendCall} (hc : s.calls[j]? = some c)
    (stage : CallStage) : (s.calls.set j { c with stage }).map SendCall.request = calls := by
  have hget : (s.calls.map SendCall.request)[j]? = some c.request := by
    rw [List.getElem?_map, hc]
    rfl
  obtain ⟨hj, heq⟩ := List.getElem?_eq_some_iff.1 hget
  rw [List.map_set]
  show (s.calls.map SendCall.request).set j c.request = calls
  rw [← heq, List.set_getElem_self, h.calls_eq]

lemma traced_step (h : s.Traced calls) : (s.step cfg o).Traced calls := by
  generalize hs' : s.step cfg o = s'
  have heffect : s.Effect o s' := hs' ▸ effect_step cfg
  cases heffect with
  | call j c stage hc hcalls hpending hhandled hphase =>
    refine ⟨?_, hpending ▸ h.pending, hhandled ▸ h.handled⟩
    rw [hcalls]
    exact h.set hc stage
  | write j c stage hc hcalls hpending hhandled hready hwaiting =>
    refine ⟨?_, fun p hp => ?_, hhandled ▸ h.handled⟩
    · rw [hcalls]
      exact h.set hc stage
    · rcases List.mem_cons.1 (hpending.mem_iff.1 hp) with rfl | hp
      · refine ⟨c.request, ?_, rfl⟩
        rw [← h.calls_eq, List.getElem?_map, hc]
        rfl
      · exact h.pending p hp
  | handle j nodeID msg hcalls hpending hhandled =>
    refine ⟨hcalls ▸ h.calls_eq, fun p hp => ?_, fun p hp => ?_⟩
    · exact h.pending p (hpending.mem_iff.2 (List.mem_cons_of_mem _ hp))
    · rw [hhandled] at hp
      rcases List.mem_append.1 hp with hp | hp
      · exact h.handled p hp
      · rw [List.mem_singleton.1 hp]
        exact h.pending _ (hpending.mem_iff.2 List.mem_cons_self)
  | lose hcalls hpending hhandled =>
    exact ⟨hcalls ▸ h.calls_eq, fun p hp => h.pending p (hpending.subset hp),
      hhandled ▸ h.handled⟩

/-- **Forwarding at most once.**  Any number of calls of `SendReliable`, in every run in which a
call makes another attempt after a timeout only if the frame of the last one was lost: the
forward callback of a node is run with a message ID no more often than `SendReliable` was called
with it for that node. -/
theorem sendReliable_atMostOnce (cfg : Config σ ε ρ) (transport : PeerTransport)
    (calls : List (Str × ForwardMessage × ℤ)) (brokers : Str → BrokerState σ ρ)
    (os : List (ℤ × ForwardingOp σ ρ))
    (h : ∀ x ∈ trace (step cfg) (init transport calls brokers) os, x.1.Meets x.2)
    (nodeID : Str) (id : UInt64) :
    ((os.foldl (step cfg) (init transport calls brokers)).handled.countP fun p =>
        p.2.1 = nodeID ∧ p.2.2.id = id) ≤
      calls.countP fun c => c.1 = nodeID ∧ c.2.1.id = id := by
  have hinv : ∀ s : Forwarding σ ρ, s = os.foldl (step cfg) (init transport calls brokers) →
      s.Traced calls ∧ ∀ i, (s.exchange i).AtMostOnce := by
    rintro s rfl
    refine foldl_invariant (fun s : Forwarding σ ρ =>
      s.Traced calls ∧ ∀ i, (s.exchange i).AtMostOnce) Meets ?_ ?_ h
    · rintro s o ⟨htraced, hone⟩ hmeets
      exact ⟨traced_step cfg htraced, fun i => (hone i).steps (steps_exchange cfg hmeets i)⟩
    · refine ⟨⟨?_, ?_, ?_⟩, fun i => ⟨Nat.zero_le 1, fun _ => rfl⟩⟩
      · rw [init, List.map_map]
        exact List.map_id _
      · intro p hp
        cases hp
      · intro p hp
        cases hp
  obtain ⟨htraced, hone⟩ := hinv _ rfl
  refine Exchange.countP_handled_le
    (fun c : Str × ForwardMessage × ℤ => c.1 = nodeID ∧ c.2.1.id = id)
    (fun p : Str × ForwardMessage => p.1 = nodeID ∧ p.2.id = id) (fun i => ?_) fun p hp hkey => ?_
  · exact (Nat.le_add_left _ _).trans (hone i).le_one
  · obtain ⟨r, hr, heq⟩ := htraced.handled p hp
    refine ⟨r, hr, ?_⟩
    rw [heq] at hkey
    exact hkey

instance decidableMeets (s : Forwarding σ ρ) : (o : ℤ × ForwardingOp σ ρ) → Decidable (s.Meets o)
  | (_, .timeout i) => inferInstanceAs (Decidable
      ((∃ c ∈ s.calls[i]?, c.stage.Repeats c.maxRetries) →
        Exchange.Lost s.network.pending s.handled i))
  | (_, .start _) | (_, .attempt _ _) | (_, .receive _) | (_, .shutdown _) | (_, .read _)
  | (_, .handle _) | (_, .lose _) | (_, .restart _ _) | (_, .readAck _) | (_, .loseAck _)
  | (_, .cleanup) | (_, .setStream _ _) | (_, .other _ _) => isTrue trivial

/-! ### One message to one peer -/

/-- A transport with a connection to the node `B`. -/
def peerTransport : PeerTransport := (PeerTransport.new.addPeer (str "B")).setStream (str "B") true

/-- A message at QoS 2. -/
def exactlyOnce : ForwardMessage := ⟨0, str "t", [], 2, false, false⟩

/-- The message is forwarded to `B`. -/
def forwardRun (os : List (ℤ × ForwardingOp BrokerState.TenantChain Unit)) :
    Forwarding BrokerState.TenantChain Unit :=
  os.foldl (step BrokerState.sampleConfig)
    (init peerTransport [(SendCall.forward peerTransport (str "B") exactlyOnce).1.request]
      fun _ => .new () none)

/-- The first frame is lost, the second one arrives. -/
def lossyRun : List (ℤ × ForwardingOp BrokerState.TenantChain Unit) :=
  [(0, .start 0), (0, .attempt 0 none), (second, .lose 0), (5 * second, .timeout 0),
    (5 * second, .attempt 0 none), (6 * second, .read 0), (6 * second, .handle 0),
    (7 * second, .readAck 0), (7 * second, .receive 0)]

theorem sendReliable_atMostOnce_sample :
    ((forwardRun lossyRun).handled.countP fun p => p.2.1 = str "B" ∧ p.2.2.id = 1) ≤ 1 ∧
      (forwardRun lossyRun).handled.length = 1 ∧
      (forwardRun lossyRun).calls.map SendCall.stage = [.returned none] :=
  ⟨sendReliable_atMostOnce BrokerState.sampleConfig peerTransport _ _ lossyRun (by decide +kernel)
    (str "B") 1, by decide +kernel, by decide +kernel⟩

/-- The frame arrives, but its acknowledgement is lost. -/
def lostAckRun : List (ℤ × ForwardingOp BrokerState.TenantChain Unit) :=
  [(0, .start 0), (0, .attempt 0 none), (second, .read 0), (second, .handle 0),
    (2 * second, .loseAck 0), (5 * second, .timeout 0), (5 * second, .attempt 0 none),
    (6 * second, .read 0), (6 * second, .handle 0), (7 * second, .readAck 0),
    (7 * second, .receive 0)]

/-- Then the message is sent again, and routed twice. -/
theorem sendReliable_twice :
    ((forwardRun lostAckRun).handled.countP fun p => p.2.1 = str "B" ∧ p.2.2.id = 1) = 2 ∧
    ((forwardRun lostAckRun).brokers (str "B")).calls =
      [.routeMessage (str "t") [] 2 false true, .routeMessage (str "t") [] 2 false true] ∧
    (forwardRun lostAckRun).calls.map SendCall.stage = [.returned none] := by
  refine ⟨?_, ?_, ?_⟩ <;> decide +kernel

end Forwarding

end Dmqtt.Cluster
