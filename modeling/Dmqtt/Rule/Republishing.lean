/-
What becomes of a PUBLISH on the nodes of a cluster with rule engines.

A node has a broker, rules and a pool for their actions.  A PUBLISH may lead to `Evaluate`, which
hands actions to the pool; an action of type `publish` calls `RouteMessage`, and `routeMessage`
forwards to other nodes, whose callbacks route the message again.  Whatever is caused carries the
number of its cause, the `origin`.

After each operation of a broker, all new calls of `Evaluate` are followed up, wherever they come
from.  That only a PUBLISH makes such calls is what `republishing_bounded` rests on: the actions
that are still to be run and those that were run for one origin are never more than what the first
`Evaluate` found.
-/
import Dmqtt.Cluster.PeerTransport
import Dmqtt.Cluster.RemoteSubs
import Dmqtt.Rule.ActionPool
import Dmqtt.Rule.Interceptor

namespace Dmqtt.Rule

open Lib Plugin Broker Codec Cluster

/-- An action with the message that it is for, as the goroutine gets them. -/
structure Job where
  origin : ℕ
  ruleID : Str
  topic : Str
  payload : Bytes
  qos : UInt8
  clientID : Str
  action : Action
deriving DecidableEq

/-- The action is one of type `publish`. -/
def Action.publishes (a : Action) : Bool := a.type = str "publish"

/-- A node with its rule engine. -/
structure RuleNode (τ ε ρ : Type) where
  broker : BrokerState (RuleChain τ ε) ρ
  rules : List CompiledRule
  remoteSubs : RemoteSubIndex
  pool : ActionExecutor Job

/-- The nodes, the frames that were forwarded, each with its origin and the node that it is for,
the number of operations that had a cause of their own, and the actions of type `publish` that
were executed, each with its node. -/
structure Republishing (τ ε ρ : Type) where
  nodes : Str → RuleNode τ ε ρ
  frames : List (ℕ × Str × ForwardMessage)
  served : ℕ
  executed : List (Str × Job)

/-- What happens on a node: a PUBLISH; something else that its broker does; a step of a call of
`Execute` or of a goroutine; a frame is handled, which may happen again; the rules are loaded; or
the subscriptions of the other nodes change.  `depth` is the number of calls of `Evaluate` that
are under way. -/
inductive RepublishingOp (τ ε ρ : Type)
  | publish (node : Str) (c : ℕ) (fh : FixedHeader) (data : Bytes) (now depth : ℤ)
  | other (node : Str) (f : BrokerState (RuleChain τ ε) ρ → BrokerState (RuleChain τ ε) ρ)
      (depth : ℤ)
  | work (node : Str) (o : PoolOp Job) (now depth : ℤ)
  | handle (k : ℕ) (now depth : ℤ)
  | loadRules (node : Str) (rules : List CompiledRule)
  | gossip (node : Str) (remoteSubs : RemoteSubIndex)

variable {τ ε ρ : Type}

namespace RuleNode

variable (n : RuleNode τ ε ρ)

/-- The calls of `Execute` that `Evaluate` makes. -/
def executes (origin : ℕ) (depth : ℤ) (evt : PublishEvent) : List (List Job) :=
  (evaluate n.rules depth evt.topic evt.payload evt.qos evt.clientID).map fun r =>
    r.actions.map (Job.mk origin r.id evt.topic evt.payload evt.qos evt.clientID)

/-- The calls of `Execute` begin. -/
def begin (calls : List (List Job)) : RuleNode τ ε ρ :=
  { n with pool := calls.foldl (fun pool jobs => pool.step (.execute jobs)) n.pool }

/-- Where `routeMessage` forwards a message, unless it was forwarded. -/
def forwarded : Call → List (Str × ForwardMessage)
  | .routeMessage topic payload qos retain false =>
    (n.remoteSubs.forwards topic qos).map fun f =>
      (f.1, { id := 0, topic, payload, qos := f.2, retain, forwarded := true })
  | _ => []

end RuleNode

namespace Republishing

variable (cfg : Str → Config (RuleChain τ ε) (Plugin.Err ε) ρ) (s : Republishing τ ε ρ)

/-- Change a node. -/
def modify (node : Str) (f : RuleNode τ ε ρ → RuleNode τ ε ρ) : Republishing τ ε ρ :=
  { s with nodes := Function.update s.nodes node (f (s.nodes node)) }

/-- The broker of a node goes on to `b`; what it has called is followed up. -/
def follow (node : Str) (origin : ℕ) (depth : ℤ) (b : BrokerState (RuleChain τ ε) ρ) :
    Republishing τ ε ρ :=
  let n := s.nodes node
  let evts := (evaluations b).drop (evaluations n.broker).length
  let frames := (n.broker.callsSince b).flatMap n.forwarded
  let s := s.modify node fun n =>
    { n with broker := b }.begin (evts.flatMap (n.executes origin depth))
  { s with frames := s.frames ++ frames.map (origin, ·) }

/-- `executeOne`; webhooks are not part of the model. -/
def executeOne (node : Str) (job : Job) (now depth : ℤ) : Republishing τ ε ρ :=
  if job.action.publishes then
    let s := { s with executed := s.executed ++ [(node, job)] }
    s.follow node job.origin depth ((s.nodes node).broker.routeMessage (cfg node)
      job.action.targetTopic job.payload job.qos false false now)
  else s

/-- The nodes after an operation. -/
def step : RepublishingOp τ ε ρ → Republishing τ ε ρ
  | .publish node c fh data now depth =>
    let b := (s.nodes node).broker.handlePublish (cfg node) c fh data now
    { s.follow node s.served depth b with served := s.served + 1 }
  | .other node f depth =>
    { s.follow node s.served depth (f (s.nodes node).broker) with served := s.served + 1 }
  | .work node o now depth =>
    -- calls of `Execute` begin in `follow` only
    if o.isExecute then s
    else
      let pool := (s.nodes node).pool
      let s := s.modify node fun n => { n with pool := pool.step o }
      match pool.starting o with
      | none => s
      | some job => s.executeOne cfg node job now depth
  | .handle k now depth =>
    match s.frames[k]? with
    | none => s
    | some (origin, node, msg) =>
      s.follow node origin depth ((s.nodes node).broker.routeMessage (cfg node) msg.topic
        msg.payload msg.qos msg.retain true now)
  | .loadRules node rules => s.modify node fun n => { n with rules := rules }
  | .gossip node remoteSubs => s.modify node fun n => { n with remoteSubs := remoteSubs }

/-- The nodes before the first operation. -/
def init (nodes : Str → BrokerState (RuleChain τ ε) ρ × List CompiledRule × RemoteSubIndex × ℤ) :
    Republishing τ ε ρ where
  nodes node :=
    let (broker, rules, remoteSubs, workerPoolSize) := nodes node
    { broker, rules, remoteSubs, pool := .new workerPoolSize }
  frames := []
  served := 0
  executed := []

end Republishing

/-- The job is one of type `publish` with the origin. -/
def Job.counts (origin : ℕ) (job : Job) : Bool := job.origin = origin && job.action.publishes

/-- The number of actions of type `publish` in the rules whose source topic matches a topic. -/
def publishActions (rules : List CompiledRule) (topic : Str) : ℕ :=
  ((rules.filter fun r => topicMatch r.source.topic topic).flatMap fun r => r.actions).countP
    Action.publishes

/-! ### What `Evaluate` finds -/

namespace RuleNode

variable {n : RuleNode τ ε ρ}

lemma origin_of_mem_executes {origin : ℕ} {depth : ℤ} {evt : PublishEvent} {jobs : List Job}
    (hjobs : jobs ∈ n.executes origin depth evt) {job : Job} (hjob : job ∈ jobs) :
    job.origin = origin := by
  obtain ⟨r, -, rfl⟩ := List.mem_map.1 hjobs
  obtain ⟨a, -, rfl⟩ := List.mem_map.1 hjob
  rfl

/-- The rules that `Evaluate` finds are among those whose source topic matches. -/
lemma countP_executes_le (origin : ℕ) (depth : ℤ) (evt : PublishEvent) :
    (n.executes origin depth evt).flatten.countP (Job.counts origin) ≤
      publishActions n.rules evt.topic := by
  have hsub : (evaluate n.rules depth evt.topic evt.payload evt.qos evt.clientID).Sublist
      (n.rules.filter fun r => topicMatch r.source.topic evt.topic) := by
    rw [evaluate]
    split_ifs
    · exact List.nil_sublist _
    · refine List.monotone_filter_right _ fun r hr => ?_
      exact (Bool.and_eq_true_iff.1 hr).1
  have hjobs : (n.executes origin depth evt).flatten.countP (Job.counts origin) =
      ((evaluate n.rules depth evt.topic evt.payload evt.qos evt.clientID).flatMap
        fun r => r.actions).countP Action.publishes := by
    rw [executes]
    generalize evaluate n.rules depth evt.topic evt.payload evt.qos evt.clientID = matched
    induction matched with
    | nil => rfl
    | cons r matched ih =>
      rw [List.map_cons, List.flatten_cons, List.flatMap_cons, List.countP_append,
        List.countP_append, ih, List.countP_map]
      simp [Job.counts, Function.comp_def]
  rw [hjobs]
  exact (hsub.flatMap _).countP_le

lemma load_begin (p : Job → Bool) (calls : List (List Job)) :
    (n.begin calls).pool.load p = n.pool.load p + calls.flatten.countP p := by
  induction calls generalizing n with
  | nil => rfl
  | cons jobs calls ih =>
    refine (ih (n := { n with pool := n.pool.step (.execute jobs) })).trans ?_
    rw [ActionExecutor.load_execute, List.flatten_cons, List.countP_append, Nat.add_assoc]

end RuleNode

namespace Republishing

variable {cfg : Str → Config (RuleChain τ ε) (Plugin.Err ε) ρ} {s : Republishing τ ε ρ}

/-- How many actions for an origin were executed. -/
def done (origin : ℕ) (s : Republishing τ ε ρ) : ℕ :=
  s.executed.countP fun x => x.2.origin = origin

/-- How many actions of type `publish` for an origin are still to be executed on a node. -/
def left (origin : ℕ) (node : Str) (s : Republishing τ ε ρ) : ℕ :=
  (s.nodes node).pool.load (Job.counts origin)

variable {i : ℕ} {node : Str}

lemma left_follow_of_ne {node' : Str} (h : node' ≠ node) (i origin : ℕ) (depth : ℤ)
    (b : BrokerState (RuleChain τ ε) ρ) :
    (s.follow node origin depth b).left i node' = s.left i node' := by
  rw [left, follow, left]
  dsimp only [modify]
  rw [Function.update_of_ne h]

lemma left_follow_self (i : ℕ) (node : Str) (origin : ℕ) (depth : ℤ)
    (b : BrokerState (RuleChain τ ε) ρ) :
    (s.follow node origin depth b).left i node = s.left i node +
      (((evaluations b).drop (evaluations (s.nodes node).broker).length).flatMap
        ((s.nodes node).executes origin depth)).flatten.countP (Job.counts i) := by
  rw [left, follow, left]
  dsimp only [modify]
  rw [Function.update_self, RuleNode.load_begin]

/-- What is followed up adds nothing for other origins. -/
lemma left_follow_self_of_ne {origin : ℕ} (h : i ≠ origin) (node : Str) (depth : ℤ)
    (b : BrokerState (RuleChain τ ε) ρ) :
    (s.follow node origin depth b).left i node = s.left i node := by
  rw [left_follow_self, List.countP_eq_zero.2, Nat.add_zero]
  intro job hjob
  obtain ⟨jobs, hjobs, hjob⟩ := List.mem_flatten.1 hjob
  obtain ⟨evt, -, hjobs⟩ := List.mem_flatMap.1 hjobs
  have horigin := RuleNode.origin_of_mem_executes hjobs hjob
  simp [Job.counts, horigin, h.symm]

lemma left_follow_of_evaluations_eq {b : BrokerState (RuleChain τ ε) ρ}
    (h : evaluations b = evaluations (s.nodes node).broker) (i origin : ℕ) (depth : ℤ) (node' : Str)
    : (s.follow node origin depth b).left i node' = s.left i node' := by
  by_cases hnode : node' = node
  · rw [hnode, left_follow_self, h, List.drop_length]
    rfl
  · exact left_follow_of_ne hnode i origin depth b

/-- Actions for an origin are executed on one node only if they were to be executed there, and
none are added. -/
def Settles (i : ℕ) (s s' : Republishing τ ε ρ) : Prop :=
  ∃ node, (∀ node' ≠ node, s'.left i node' = s.left i node') ∧ s.done i ≤ s'.done i ∧
    s'.done i + s'.left i node ≤ s.done i + s.left i node

lemma settles_of_eq {s' : Republishing τ ε ρ} (hdone : s'.done i = s.done i)
    (hleft : ∀ node, s'.left i node = s.left i node) : Settles i s s' :=
  ⟨[], fun node' _ => hleft node', hdone.ge, by rw [hdone, hleft]⟩

lemma settles_modify {f : RuleNode τ ε ρ → RuleNode τ ε ρ}
    (hf : (f (s.nodes node)).pool = (s.nodes node).pool) (i : ℕ) :
    Settles i s (s.modify node f) := by
  refine settles_of_eq rfl fun node' => ?_
  rw [left, modify, left]
  dsimp only
  by_cases h : node' = node
  · rw [h, Function.update_self, hf]
  · rw [Function.update_of_ne h]

/-- A goroutine or a call of `Execute` goes on.  An action that is executed routes a message, and
that does not lead to `Evaluate`. -/
lemma settles_work (hcfg : ∀ node, (cfg node).hooks = RuleChain.hooks τ ε) (node : Str)
    (o : PoolOp Job) (now depth : ℤ) (i : ℕ) :
    Settles i s (s.step cfg (.work node o now depth)) := by
  rw [step]
  split_ifs with ho
  · exact settles_of_eq rfl fun _ => rfl
  dsimp only
  set s₁ := s.modify node fun n => { n with pool := (s.nodes node).pool.step o } with hs₁
  have hle := (s.nodes node).pool.load_step_le (Job.counts i) (Bool.not_eq_true _ ▸ ho)
  have hself : s₁.left i node = ((s.nodes node).pool.step o).load (Job.counts i) := by
    rw [left, hs₁, modify]
    dsimp only
    rw [Function.update_self]
  have hother : ∀ node' ≠ node, s₁.left i node' = s.left i node' := fun node' h => by
    rw [left, hs₁, modify, left]
    dsimp only
    rw [Function.update_of_ne h]
  cases hjob : (s.nodes node).pool.starting o with
  | none =>
    rw [hjob, Option.elim_none] at hle
    refine ⟨node, hother, le_rfl, Nat.add_le_add_left ?_ _⟩
    rw [hself]
    exact hle
  | some job =>
    rw [hjob, Option.elim_some, ← hself] at hle
    dsimp only
    rw [executeOne]
    split_ifs with hpub
    · set s₂ := follow { s₁ with executed := s₁.executed ++ [(node, job)] } node job.origin depth
        ((s₁.nodes node).broker.routeMessage (cfg node) job.action.targetTopic job.payload
          job.qos false false now)
      have hleft : ∀ node', s₂.left i node' = s₁.left i node' :=
        left_follow_of_evaluations_eq (evaluations_routeMessage (hcfg node) _ _ _ _ _ _) _ _ _
      have hdone : s₂.done i = s.done i + if Job.counts i job then 1 else 0 := by
        have hexecuted : s₂.executed = s.executed ++ [(node, job)] := rfl
        rw [done, hexecuted, List.countP_append, List.countP_singleton, Job.counts, hpub,
          Bool.and_true]
        rfl
      refine ⟨node, fun node' h => (hleft node').trans (hother node' h), ?_, ?_⟩
      · rw [hdone]
        exact Nat.le_add_right _ _
      · rw [hdone, hleft, Nat.add_assoc, Nat.add_comm _ (s₁.left i node)]
        exact Nat.add_le_add_left hle _
    · refine ⟨node, hother, le_rfl, Nat.add_le_add_left ?_ _⟩
      exact (Nat.le_add_right _ _).trans hle

/-- An operation with a cause of its own adds nothing for other origins. -/
lemma settles_follow_served (h : i ≠ s.served) (node : Str) (depth : ℤ)
    (b : BrokerState (RuleChain τ ε) ρ) :
    Settles i s { s.follow node s.served depth b with served := s.served + 1 } :=
  settles_of_eq rfl fun node' => by
    by_cases hnode : node' = node
    · rw [hnode]
      exact left_follow_self_of_ne h node depth b
    · exact left_follow_of_ne hnode i _ depth b

/-- Every operation settles every origin, except its own if it is a cause. -/
lemma settles_step (hcfg : ∀ node, (cfg node).hooks = RuleChain.hooks τ ε)
    (o : RepublishingOp τ ε ρ) (h : i ≠ s.served ∨ (s.step cfg o).served = s.served) :
    Settles i s (s.step cfg o) := by
  have hcause : (s.step cfg o).served = s.served + 1 → i ≠ s.served := fun hserved =>
    h.resolve_right (by omega)
  cases o with
  | publish node c fh data now depth | other node f depth =>
    exact settles_follow_served (hcause rfl) node depth _
  | work node o now depth => exact settles_work hcfg node o now depth i
  | handle k now depth =>
    rw [step]
    cases s.frames[k]? with
    | none => exact settles_of_eq rfl fun _ => rfl
    | some frame =>
      exact settles_of_eq rfl (left_follow_of_evaluations_eq
        (evaluations_routeMessage (hcfg _) _ _ _ _ _ _) i _ depth)
  | loadRules node rules | gossip node remoteSubs =>
    rw [step]
    refine settles_modify ?_ i
    rfl

lemma served_step (cfg : Str → Config (RuleChain τ ε) (Plugin.Err ε) ρ) (s : Republishing τ ε ρ)
    (o : RepublishingOp τ ε ρ) :
    (s.step cfg o).served = s.served ∨ (s.step cfg o).served = s.served + 1 := by
  cases o with
  | publish node c fh data now depth | other node f depth => exact Or.inr rfl
  | work node o now depth =>
    left
    rw [step]
    split_ifs
    · rfl
    · dsimp only
      cases (s.nodes node).pool.starting o with
      | none => rfl
      | some job =>
        dsimp only
        rw [executeOne]
        split_ifs <;> rfl
  | handle k now depth =>
    left
    rw [step]
    cases s.frames[k]? <;> rfl
  | loadRules node rules | gossip node remoteSubs => exact Or.inl rfl

/-! ### Runs -/

/-- Nothing was executed or is to be executed for origins to come. -/
def Fresh (s : Republishing τ ε ρ) : Prop :=
  ∀ i, s.served ≤ i → s.done i = 0 ∧ ∀ node, s.left i node = 0

/-- All that is to be executed for an origin is on one node, and with what was executed it does
not exceed a bound. -/
structure Bounded (i : ℕ) (node : Str) (bound : ℕ) (s : Republishing τ ε ρ) : Prop where
  served : i < s.served
  le : s.done i + s.left i node ≤ bound
  other : ∀ node' ≠ node, s.left i node' = 0

lemma Settles.eq_zero {s' : Republishing τ ε ρ} (h : Settles i s s') (hdone : s.done i = 0)
    (hleft : ∀ node, s.left i node = 0) : s'.done i = 0 ∧ ∀ node, s'.left i node = 0 := by
  obtain ⟨node, hother, hle, hsum⟩ := h
  rw [hdone, hleft] at hsum
  refine ⟨by omega, fun node' => ?_⟩
  by_cases hnode : node' = node
  · rw [hnode]
    omega
  · rw [hother node' hnode, hleft]

lemma Fresh.step (h : s.Fresh) (hcfg : ∀ node, (cfg node).hooks = RuleChain.hooks τ ε)
    (o : RepublishingOp τ ε ρ) : (s.step cfg o).Fresh := by
  intro i hi
  have hserved := served_step cfg s o
  obtain ⟨hdone, hleft⟩ := h i (by omega)
  exact (settles_step hcfg o (by omega)).eq_zero hdone hleft

lemma Bounded.step {bound : ℕ} (h : Bounded i node bound s)
    (hcfg : ∀ node, (cfg node).hooks = RuleChain.hooks τ ε) (o : RepublishingOp τ ε ρ) :
    Bounded i node bound (s.step cfg o) := by
  have hserved := served_step cfg s o
  obtain ⟨hlt, hle, hzero⟩ := h
  obtain ⟨node', hother, hdone, hsum⟩ := settles_step hcfg o (Or.inl hlt.ne)
  by_cases hnode : node' = node
  · rw [hnode] at hother hsum
    exact ⟨by omega, hsum.trans hle, fun n hn => (hother n hn).trans (hzero n hn)⟩
  · have hzero' := hzero node' hnode
    have hself := hother node (Ne.symm hnode)
    refine ⟨by omega, by omega, fun n hn => ?_⟩
    by_cases hn' : n = node'
    · rw [hn']
      omega
    · rw [hother n hn']
      exact hzero n hn

lemma fresh_init (nodes : Str →
    BrokerState (RuleChain τ ε) ρ × List CompiledRule × RemoteSubIndex × ℤ) :
    (init nodes).Fresh := fun _ _ => ⟨rfl, fun _ => rfl⟩

/-- The PUBLISH itself. -/
lemma Fresh.publish (h : s.Fresh) (hcfg : ∀ node, (cfg node).hooks = RuleChain.hooks τ ε)
    (node : Str) (c : ℕ) (fh : FixedHeader) (data : Bytes) (now depth : ℤ) :
    ∃ seen : Option PublishEvent,
      evaluations ((s.nodes node).broker.handlePublish (cfg node) c fh data now) =
        evaluations (s.nodes node).broker ++ seen.toList ∧
      Bounded s.served node (seen.elim 0 fun evt => publishActions (s.nodes node).rules evt.topic)
        (s.step cfg (.publish node c fh data now depth)) := by
  obtain ⟨seen, hseen⟩ := evaluations_handlePublish (b := (s.nodes node).broker) (hcfg node) c fh
    data now
  obtain ⟨hdone, hleft⟩ := h s.served le_rfl
  refine ⟨seen, hseen, Nat.lt_succ_self _, ?_, ?_⟩
  · have hself := left_follow_self (s := s) s.served node s.served depth
      ((s.nodes node).broker.handlePublish (cfg node) c fh data now)
    rw [hseen, List.drop_left, hleft, Nat.zero_add] at hself
    have hdone' : (s.step cfg (.publish node c fh data now depth)).done s.served = 0 := hdone
    rw [hdone', Nat.zero_add]
    refine hself.trans_le ?_
    cases seen with
    | none => exact Nat.zero_le _
    | some evt =>
      rw [Option.toList_some, List.flatMap_singleton]
      exact RuleNode.countP_executes_le s.served depth evt
  · intro node' hnode
    exact (left_follow_of_ne hnode s.served _ depth _).trans (hleft node')

/-- The actions of type `publish` that are executed in consequence of a PUBLISH, on all nodes
together, are at most as many as there are in the rules whose source topic matches the topic that
the rule interceptor sees. -/
theorem republishing_bounded (cfg : Str → Config (RuleChain τ ε) (Plugin.Err ε) ρ)
    (hcfg : ∀ node, (cfg node).hooks = RuleChain.hooks τ ε)
    (nodes : Str → BrokerState (RuleChain τ ε) ρ × List CompiledRule × RemoteSubIndex × ℤ)
    (before after : List (RepublishingOp τ ε ρ)) (node : Str) (c : ℕ) (fh : FixedHeader)
    (data : Bytes) (now depth : ℤ) :
    let s := before.foldl (step cfg) (init nodes)
    let s' := after.foldl (step cfg) (s.step cfg (.publish node c fh data now depth))
    ∃ seen : Option PublishEvent,
      evaluations ((s.nodes node).broker.handlePublish (cfg node) c fh data now) =
        evaluations (s.nodes node).broker ++ seen.toList ∧
      s'.executed.countP (fun x => x.2.origin = s.served) ≤
        seen.elim 0 fun evt => publishActions (s.nodes node).rules evt.topic := by
  intro s s'
  have hfresh : s.Fresh :=
    foldl_invariant Fresh (fun _ _ => True) (fun s o hs _ => hs.step hcfg o) (fresh_init nodes)
      fun _ _ => trivial
  obtain ⟨seen, hseen, hbounded⟩ := hfresh.publish hcfg node c fh data now depth
  have hend : Bounded s.served node _ s' :=
    foldl_invariant _ (fun _ _ => True) (fun s o hs _ => hs.step hcfg o) hbounded fun _ _ => trivial
  exact ⟨seen, hseen, (Nat.le_add_right _ _).trans hend.le⟩

/-! ### A rule that matches its own target -/

/-- A broker with the rule interceptor and a connected client. -/
def ruleBroker : BrokerState (RuleChain Unit Empty) Unit :=
  let chain : RuleChain Unit Empty :=
    { chain := [⟨ruleInterceptor, ⟨.new defaultBreakerConfig⟩⟩]
      state := ((), [])
      envs := fun _ _ => ⟨0, 0, 0, .done⟩
      registered := ⟨[], [], fun _ h => absurd h List.not_mem_nil, rfl⟩ }
  { BrokerState.new () (some chain) with
    conns := AList.insert 0 { Client.new 20 with clientID := str "c" } ∅ }

/-- Everything is allowed. -/
def ruleConfig : Config (RuleChain Unit Empty) (Plugin.Err Empty) Unit where
  hooks := RuleChain.hooks _ _
  limiter := ⟨fun r _ _ _ => (.ok (), r), fun r _ _ => (.ok (), r)⟩
  authenticate _ _ := true
  authorize _ _ _ := true
  inflightLimit := 20
  autoID _ := str "auto"
  remoteAddr _ := []

/-- What is published on `t` is published on `t`. -/
def loopRule : CompiledRule where
  id := str "loop"
  source := ⟨str "t"⟩
  actions := [{ type := str "publish", targetTopic := str "t" }]
  evaluate _ _ _ _ := .ok true

/-- Nodes that all have this rule. -/
def loopNodes (_ : Str) :
    BrokerState (RuleChain Unit Empty) Unit × List CompiledRule × RemoteSubIndex × ℤ :=
  (ruleBroker, [loopRule], .new, 1)

/-- The pool executes the action of the rule. -/
def loopWork : List (RepublishingOp Unit Empty Unit) :=
  [PoolOp.select 0, .add 0, .spawn 0, .start 0, .finish 0, .release 0, .done 0].map
    fun o => .work (str "n") o 1 0

theorem republishing_bounded_loop :
    let fh : FixedHeader := { packetType := PUBLISH, remainingLength := 4 }
    let s := loopWork.foldl (step fun _ => ruleConfig)
      ((init loopNodes).step (fun _ => ruleConfig) (.publish (str "n") 0 fh [0, 1, 0x74, 0x2A] 1 1))
    s.executed.map (fun x => (x.1, x.2.action.targetTopic)) = [(str "n", str "t")] ∧
    ∃ seen : Option PublishEvent,
      evaluations (ruleBroker.handlePublish ruleConfig 0 fh [0, 1, 0x74, 0x2A] 1) =
        evaluations ruleBroker ++ seen.toList ∧
      s.executed.countP (fun x => x.2.origin = 0) ≤
        seen.elim 0 fun evt => publishActions [loopRule] evt.topic :=
  ⟨by decide +kernel, republishing_bounded (fun _ => ruleConfig) (fun _ => rfl) loopNodes []
    loopWork (str "n") 0 _ _ 1 1⟩

end Republishing

end Dmqtt.Rule
