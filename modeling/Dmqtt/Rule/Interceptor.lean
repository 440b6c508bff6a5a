/-
The rule engine in the interceptor chain (`internal/rule/interceptor.go`).

The rule interceptor has one hook, `OnPublish`, which calls `Evaluate`, and it accepts every
message.  The events that `Evaluate` was called with are recorded in the state of the chain.  The
chains of this module, `RuleChain`, have the rule interceptor among others that leave this record
alone.

`evaluations_routeMessage` is what bounds the effects of rules: to route a message does not lead
to `Evaluate`.
-/
import Dmqtt.Broker.Mediation
import Dmqtt.Rule.Engine

namespace Dmqtt.Rule

open Lib Plugin Broker Codec

variable {τ ε : Type}

/-- The rule interceptor. -/
def ruleInterceptor : Interceptor (τ × List PublishEvent) ε where
  onPublish := some fun _ x => (.ok (), x.1, x.2.1, x.2.2 ++ [x.1])

/-- The hooks of an interceptor do not call `Evaluate` when a message is published or delivered. -/
structure Silent (i : Interceptor (τ × List PublishEvent) ε) : Prop where
  onPublish : ∀ fn, i.onPublish = some fn → ∀ t x, (fn t x).2.2.2 = x.2.2
  onDelivery : ∀ fn, i.onDelivery = some fn → ∀ t x, (fn t x).2.2.2 = x.2.2

/-- The interceptors are the rule interceptor and silent ones. -/
def Registered (interceptors : List (Interceptor (τ × List PublishEvent) ε)) : Prop :=
  ∃ before after, (∀ i ∈ before ++ after, Silent i) ∧
    interceptors = before ++ ruleInterceptor :: after

/-- A chain with the rule interceptor, the state of its interceptors, and what the calls from now
on meet. -/
structure RuleChain (τ ε : Type) where
  chain : InterceptorChain (τ × List PublishEvent) ε
  state : τ × List PublishEvent
  envs : ℕ → ℕ → RunEnv
  registered : Registered (chain.map RegisteredInterceptor.interceptor)

namespace RuleChain

/-- A dispatch method, which leaves the interceptors as they are registered. -/
def hook {α : Type} (fn : Interceptor (τ × List PublishEvent) ε →
    Option (Hook (τ × List PublishEvent) ε α)) (x : α × RuleChain τ ε) :
    Except (Plugin.Err ε) Unit × (α × RuleChain τ ε) :=
  let out := dispatch fn (x.2.envs 0) x.2.chain (x.1, x.2.state)
  (out.1, out.2.1.1,
    { chain := out.2.2
      state := out.2.1.2
      envs := fun n => x.2.envs (n + 1)
      registered := by rw [map_interceptor_dispatch]; exact x.2.registered })

/-- The chain as the broker uses it. -/
def hooks (τ ε : Type) : Hooks (RuleChain τ ε) (Plugin.Err ε) where
  onConnect := hook Interceptor.onConnect
  onPublish := hook Interceptor.onPublish
  onSubscribe := hook Interceptor.onSubscribe
  onDelivery := hook Interceptor.onDelivery
  onUnsubscribe := hook Interceptor.onUnsubscribe
  onDisconnect evt x := { x with state := x.chain.onDisconnect evt x.state }

lemma log_onDelivery (x : DeliveryEvent × RuleChain τ ε) :
    ((hooks τ ε).onDelivery x).2.2.state.2 = x.2.state.2 := by
  obtain ⟨before, after, hsilent, hreg⟩ := x.2.registered
  refine dispatch_frame (fun y : DeliveryEvent × τ × List PublishEvent => y.2.2) ?_ _ _
  intro ri hri fn hfn
  have hmem : ri.interceptor ∈ before ++ ruleInterceptor :: after :=
    hreg ▸ List.mem_map_of_mem hri
  rcases List.mem_append.1 hmem with h | h
  · exact (hsilent _ (List.mem_append_left _ h)).onDelivery fn hfn
  rcases List.mem_cons.1 h with h | h
  · rw [h] at hfn
    cases hfn
  · exact (hsilent _ (List.mem_append_right _ h)).onDelivery fn hfn

/-- The rule interceptor is called once, unless the dispatch does not get that far. -/
lemma log_dispatch {before after : List (Interceptor (τ × List PublishEvent) ε)}
    (hsilent : ∀ i ∈ before ++ after, Silent i)
    {chain : InterceptorChain (τ × List PublishEvent) ε}
    (hreg : chain.map RegisteredInterceptor.interceptor = before ++ ruleInterceptor :: after)
    (env : ℕ → RunEnv) (x : PublishEvent × τ × List PublishEvent) :
    ∃ seen : Option PublishEvent,
      (dispatch Interceptor.onPublish env chain x).2.1.2.2 = x.2.2 ++ seen.toList := by
  induction before generalizing chain env x with
  | nil =>
    obtain ⟨ri, c, rfl, hri, hc⟩ := List.map_eq_cons_iff.1 hreg
    obtain ⟨x', hx', hout⟩ := @dispatch_cons_state _ _ _ Interceptor.onPublish env ri c x
    have hafter : (dispatch Interceptor.onPublish (fun i => env (i + 1)) c x').2.1.2.2 =
        x'.2.2 := by
      refine dispatch_frame (fun y : PublishEvent × τ × List PublishEvent => y.2.2) ?_ _ _
      intro rj hrj fn hfn
      refine (hsilent rj.interceptor ?_).onPublish fn hfn
      rw [List.nil_append, ← hc]
      exact List.mem_map_of_mem hrj
    have hlog : ∃ seen : Option PublishEvent, x'.2.2 = x.2.2 ++ seen.toList := by
      rcases hx' with rfl | ⟨fn, t, hfn, rfl⟩
      · exact ⟨none, (List.append_nil _).symm⟩
      · rw [hri] at hfn
        obtain rfl := Option.some_injective _ hfn
        exact ⟨some x.1, rfl⟩
    rcases hout with h | h
    · rw [h]
      exact hlog
    · rw [h, hafter]
      exact hlog
  | cons i before ih =>
    obtain ⟨ri, c, rfl, hri, hc⟩ := List.map_eq_cons_iff.1 hreg
    obtain ⟨x', hx', hout⟩ := @dispatch_cons_state _ _ _ Interceptor.onPublish env ri c x
    have hlog : x'.2.2 = x.2.2 := by
      rcases hx' with rfl | ⟨fn, t, hfn, rfl⟩
      · rfl
      · rw [hri] at hfn
        exact (hsilent i List.mem_cons_self).onPublish fn hfn t x
    rcases hout with h | h
    · rw [h, hlog]
      exact ⟨none, (List.append_nil _).symm⟩
    · rw [h, ← hlog]
      exact ih (fun j hj => hsilent j (List.mem_cons_of_mem _ hj)) hc _ _

lemma log_onPublish (x : PublishEvent × RuleChain τ ε) :
    ∃ seen : Option PublishEvent,
      ((hooks τ ε).onPublish x).2.2.state.2 = x.2.state.2 ++ seen.toList := by
  obtain ⟨before, after, hsilent, hreg⟩ := x.2.registered
  exact log_dispatch hsilent hreg _ _

end RuleChain

/-! ### The calls of `Evaluate` that a broker makes -/

section Broker

variable {ρ : Type} {cfg : Config (RuleChain τ ε) (Plugin.Err ε) ρ}
  {b : BrokerState (RuleChain τ ε) ρ}

/-- The events that `Evaluate` was called with. -/
def evaluations (b : BrokerState (RuleChain τ ε) ρ) : List PublishEvent :=
  b.interceptors.elim [] fun x => x.state.2

lemma evaluations_congr {b b' : BrokerState (RuleChain τ ε) ρ}
    (h : b'.interceptors = b.interceptors) : evaluations b' = evaluations b := by
  rw [evaluations, h, evaluations]

lemma evaluations_deliverMessage (c : ℕ) (topic : Str) (payload : Bytes) (qos : UInt8) (now : ℤ) :
    evaluations (b.deliverMessage c topic payload qos now) = evaluations b :=
  evaluations_congr (congrArg (fun b => b.interceptors)
    (b.stores_deliverMessage c topic payload qos now))

lemma evaluations_deliver (hcfg : cfg.hooks = RuleChain.hooks τ ε) (topic : Str) (payload : Bytes)
    (now : ℤ) (d : ℕ × Str × UInt8) :
    evaluations (b.deliver cfg topic payload now d) = evaluations b := by
  rw [BrokerState.deliver]
  cases hint : b.interceptors with
  | none => exact evaluations_deliverMessage _ _ _ _ _
  | some x =>
    dsimp only
    have hlog : ((cfg.hooks.onDelivery (⟨d.2.1, topic, payload, d.2.2⟩, x)).2.2).state.2 =
        evaluations b := by
      rw [hcfg, RuleChain.log_onDelivery, evaluations, hint]
      rfl
    cases (cfg.hooks.onDelivery (⟨d.2.1, topic, payload, d.2.2⟩, x)).1 with
    | error err => exact hlog
    | ok u => exact (evaluations_deliverMessage _ _ _ _ _).trans hlog

/-- To route a message, from a client, a rule or a peer, does not lead to `Evaluate`. -/
lemma evaluations_routeMessage (hcfg : cfg.hooks = RuleChain.hooks τ ε) (topic : Str)
    (payload : Bytes) (qos : UInt8) (retain forwarded : Bool) (now : ℤ) :
    evaluations (b.routeMessage cfg topic payload qos retain forwarded now) = evaluations b := by
  rw [BrokerState.routeMessage]
  refine (foldl_frame evaluations (fun _ _ => ?_) _ _).trans (foldl_frame evaluations ?_ _ _)
  · rfl
  · exact fun _ d => evaluations_deliver hcfg topic payload now d

/-- A PUBLISH leads to at most one call of `Evaluate`. -/
lemma evaluations_handlePublish (hcfg : cfg.hooks = RuleChain.hooks τ ε) (c : ℕ)
    (fh : FixedHeader) (data : Bytes) (now : ℤ) :
    ∃ seen : Option PublishEvent,
      evaluations (b.handlePublish cfg c fh data now) = evaluations b ++ seen.toList := by
  rcases b.handlePublish_cases cfg c fh data now with ⟨-, -, hint, -⟩ | h
  · exact ⟨none, by rw [evaluations_congr hint]; exact (List.append_nil _).symm⟩
  obtain ⟨client, pkt, b₁, -, -, -, hint, heq⟩ := h
  rw [heq, BrokerState.storeAndRoute, ← evaluations_congr hint]
  generalize hb₂ : (if fh.retain = true then b₁.retainSet pkt.topic pkt.payload fh.qos else b₁) = b₂
  have hint₂ : b₂.interceptors = b₁.interceptors := by
    rw [← hb₂]
    split_ifs <;> rfl
  rw [← evaluations_congr hint₂, BrokerState.interceptAndRoute]
  cases hs : b₂.interceptors with
  | none =>
    exact ⟨none, by rw [evaluations_routeMessage hcfg]; exact (List.append_nil _).symm⟩
  | some x =>
    dsimp only
    obtain ⟨seen, hseen⟩ := RuleChain.log_onPublish (BrokerState.publishEvent client fh pkt, x)
    have hlog : evaluations b₂ = x.state.2 := by
      rw [evaluations, hs]
      rfl
    refine ⟨seen, ?_⟩
    rw [hlog, ← hseen, ← hcfg]
    cases (cfg.hooks.onPublish (BrokerState.publishEvent client fh pkt, x)).1 with
    | error err => rfl
    | ok u => exact evaluations_routeMessage hcfg _ _ _ _ _ _

end Broker

end Dmqtt.Rule
