/-
Tenants: the manager of their quotas and topic prefixes, and the interceptor that keeps
their topics apart (`internal/tenant`).

The rate limiter of `golang.org/x/time/rate` is a parameter `RateLib`.  The state of the chain
is the tenant manager together with a state `τ` of the other interceptors; the errors of the
other interceptors are `δ`.

The interceptor puts the topics of a client under the prefix of its tenant, but it runs behind
the breaker of its executor, and every rejection, be it for a quota, a message size or a
message rate, counts as a failure of the interceptor.  While the breaker is open the chain
passes the interceptor over: `chain_isolates` has to exclude this at every call, and
`chain_leaks` is a run in which too large publishes of one tenant let a publish of another
through without its prefix.
-/
import Dmqtt.Plugin
import Dmqtt.Broker.TopicMatcher
import Dmqtt.Lib.Trace

namespace Dmqtt.Tenants

open Lib Plugin CircuitBreaker

/-- A tenant's limits and namespace. -/
structure Tenant where
  id : Str
  maxConnections : ℤ
  maxMessageRate : ℤ
  maxMessageSize : ℤ
  topicPrefix : Str
deriving DecidableEq

/-- The errors of the tenant manager, with the tenant and the numbers that their texts
mention. -/
inductive TenantErr
  | quotaExhausted (tenant : Str) (current max : ℤ)
  | messageSize (tenant : Str) (size limit : ℤ)
  | rateLimit (tenant : Str)
deriving DecidableEq

/-- What is used of `golang.org/x/time/rate`. -/
structure RateLib (ρ : Type) where
  /-- `rate.NewLimiter(rate.Limit(n), n)` -/
  newLimiter : ℤ → ρ
  /-- `rate.NewLimiter(rate.Inf, 0)` -/
  inf : ρ
  /-- `Allow`, at an instant. -/
  allow : ρ → ℤ → Bool × ρ

/-- The runtime state of a tenant. -/
structure TenantState (ρ : Type) where
  config : Tenant
  connections : ℤ
  rateLimiter : ρ

/-- The tenants and the tenant of each client.  `defaultTenant`, a global of the source, is
the tenant of users without one. -/
structure TenantManager (ρ : Type) where
  tenants : GoMap Str (TenantState ρ)
  clients : GoMap Str Str
  defaultTenant : TenantState ρ

/-- The text for a tenant ID in errors. -/
def effectiveTenantID (tenantID : Str) : Str := if tenantID = [] then str "default" else tenantID

variable {ρ τ δ : Type} (rate : RateLib ρ)

/-- `ParseTenants` after the YAML is read: IDs must be present and distinct, and the topic
prefix defaults to the ID.  `seen` are the IDs before. -/
def parseTenants (seen : List Str) : List Tenant → Except Str (List Tenant)
  | [] => .ok []
  | t :: ts =>
    if t.id = [] then .error (str "tenant_id cannot be empty")
    else if t.id ∈ seen then .error (str "duplicate tenant_id: " ++ t.id)
    else do
      let ts ← parseTenants (t.id :: seen) ts
      return (if t.topicPrefix = [] then { t with topicPrefix := t.id } else t) :: ts

/-- The tenants that are accepted have distinct IDs, and all have a prefix. -/
lemma parseTenants_ok {seen : List Str} {ts parsed : List Tenant}
    (h : parseTenants seen ts = .ok parsed) : (parsed.map Tenant.id).Nodup ∧
      ∀ t ∈ parsed, t.id ≠ [] ∧ t.id ∉ seen ∧ t.topicPrefix ≠ [] := by
  induction ts generalizing seen parsed with
  | nil =>
    cases h
    simp
  | cons t ts ih =>
    rw [parseTenants] at h
    by_cases hnil : t.id = []
    · rw [if_pos hnil] at h
      cases h
    by_cases hseen : t.id ∈ seen
    · rw [if_neg hnil, if_pos hseen] at h
      cases h
    rw [if_neg hnil, if_neg hseen] at h
    cases hrest : parseTenants (t.id :: seen) ts with
    | error err =>
      rw [hrest] at h
      cases h
    | ok rest =>
      rw [hrest] at h
      cases h
      obtain ⟨hnodup, hall⟩ := ih hrest
      generalize ht₀ : (if t.topicPrefix = [] then { t with topicPrefix := t.id } else t) = t₀
      have hid : t₀.id = t.id := by
        rw [← ht₀]
        split_ifs <;> rfl
      have hpfx : t₀.topicPrefix ≠ [] := by
        rw [← ht₀]
        split_ifs with hp
        · exact hnil
        · exact hp
      refine ⟨List.nodup_cons.2 ⟨?_, hnodup⟩, ?_⟩
      · rw [hid]
        intro hmem
        obtain ⟨t', ht', heq⟩ := List.mem_map.1 hmem
        exact (hall t' ht').2.1 (heq ▸ List.mem_cons_self)
      · intro t' ht'
        rcases List.mem_cons.1 ht' with rfl | ht'
        · rw [hid]
          exact ⟨hnil, hseen, hpfx⟩
        · obtain ⟨hne, hnot, hp⟩ := hall t' ht'
          exact ⟨hne, fun hmem => hnot (List.mem_cons_of_mem _ hmem), hp⟩

namespace TenantManager

/-- A manager without tenants. -/
def new : TenantManager ρ where
  tenants := ∅
  clients := ∅
  defaultTenant :=
    { config := ⟨[], 0, 0, 0, []⟩, connections := 0, rateLimiter := rate.inf }

/-- The limiter for a configured message rate. -/
def limiterFor (t : Tenant) : ρ :=
  if t.maxMessageRate > 0 then rate.newLimiter t.maxMessageRate else rate.inf

/-- `LoadTenantsFromBytes` after the YAML is read.  A tenant that was there before keeps its
number of connections. -/
def loadTenants (m : TenantManager ρ) (ts : List Tenant) : Except Str (TenantManager ρ) := do
  let parsed ← parseTenants [] ts
  return { m with
    tenants := parsed.foldl (fun new t => new.insert t.id
      { config := t
        connections := ((m.tenants.lookup t.id).map TenantState.connections).getD 0
        rateLimiter := limiterFor rate t }) ∅ }

/-- The state of a tenant; unknown tenants share the state of the default tenant. -/
def getState (m : TenantManager ρ) (tenantID : Str) : TenantState ρ :=
  if tenantID = [] then m.defaultTenant
  else
    match m.tenants.lookup tenantID with
    | some state => state
    | none => m.defaultTenant

/-- Change the state that `getState` returns. -/
def modifyState (m : TenantManager ρ) (tenantID : Str) (f : TenantState ρ → TenantState ρ) :
    TenantManager ρ :=
  if tenantID = [] then { m with defaultTenant := f m.defaultTenant }
  else
    match m.tenants.lookup tenantID with
    | some state => { m with tenants := m.tenants.insert tenantID (f state) }
    | none => { m with defaultTenant := f m.defaultTenant }

/-- Check the connection quota and record the tenant of the client. -/
def tryConnect (m : TenantManager ρ) (clientID tenantID : Str) :
    Except TenantErr Unit × TenantManager ρ :=
  let state := m.getState tenantID
  if state.config.maxConnections > 0 ∧ state.connections ≥ state.config.maxConnections then
    (.error (.quotaExhausted (effectiveTenantID tenantID) state.connections
      state.config.maxConnections), m)
  else
    let m := m.modifyState tenantID fun state =>
      { state with connections := state.connections + 1 }
    (.ok (), { m with clients := m.clients.insert clientID tenantID })

/-- Release the connection of a client. -/
def onDisconnect (m : TenantManager ρ) (clientID : Str) : TenantManager ρ :=
  match m.clients.lookup clientID with
  | none => m
  | some tenantID =>
    { m with clients := m.clients.erase clientID }.modifyState tenantID fun state =>
      { state with connections := state.connections - 1 }

/-- Check the message size and rate of the client's tenant. -/
def checkPublish (m : TenantManager ρ) (clientID : Str) (payloadSize : ℤ) (now : ℤ) :
    Except TenantErr Unit × TenantManager ρ :=
  match m.clients.lookup clientID with
  | none => (.ok (), m)
  | some tenantID =>
    let state := m.getState tenantID
    if state.config.maxMessageSize > 0 ∧ payloadSize > state.config.maxMessageSize then
      (.error (.messageSize (effectiveTenantID tenantID) payloadSize
        state.config.maxMessageSize), m)
    else
      let (allowed, limiter) := rate.allow state.rateLimiter now
      let m := m.modifyState tenantID fun state => { state with rateLimiter := limiter }
      if !allowed then (.error (.rateLimit (effectiveTenantID tenantID)), m) else (.ok (), m)

/-- The topic prefix of the client's tenant. -/
def getTopicPrefix (m : TenantManager ρ) (clientID : Str) : Str :=
  match m.clients.lookup clientID with
  | none => []
  | some tenantID => (m.getState tenantID).config.topicPrefix

end TenantManager

/-- Put a topic or filter under the prefix of a tenant, unless it starts with `$`. -/
def addPrefix (pfx topic : Str) : Str :=
  if pfx ≠ [] ∧ topic.head? ≠ some dollar then pfx ++ slash :: topic else topic

/-- Take the prefix of a tenant off a topic. -/
def stripPrefix (pfx topic : Str) : Str :=
  if pfx ≠ [] ∧ (pfx ++ [slash]).isPrefixOf topic then topic.drop (pfx.length + 1) else topic

/-- The result of a hook from that of the tenant manager. -/
def hookResult (r : Except TenantErr Unit) : Except (Err (TenantErr ⊕ δ)) Unit :=
  match r with
  | .ok () => .ok ()
  | .error e => .error (.hook (.inl e))

/-- The hooks of `TenantInterceptor`; `resolver` gives the tenant ID of a user. -/
def tenantInterceptor (resolver : Str → Str) :
    Interceptor (TenantManager ρ × τ) (TenantErr ⊕ δ) where
  onConnect := some fun _ (evt, m, s) =>
    let (r, m) := m.tryConnect evt.clientID (resolver evt.username)
    (hookResult r, evt, m, s)
  onPublish := some fun now (evt, m, s) =>
    match m.checkPublish rate evt.clientID evt.payload.length now with
    | (.error e, m) => (hookResult (.error e), evt, m, s)
    | (.ok (), m) =>
      (.ok (), { evt with topic := addPrefix (m.getTopicPrefix evt.clientID) evt.topic }, m, s)
  onSubscribe := some fun _ (evt, m, s) =>
    (.ok (), { evt with
      topicFilter := addPrefix (m.getTopicPrefix evt.clientID) evt.topicFilter }, m, s)
  onDelivery := some fun _ (evt, m, s) =>
    (.ok (), { evt with topic := stripPrefix (m.getTopicPrefix evt.clientID) evt.topic }, m, s)
  onUnsubscribe := some fun _ (evt, m, s) =>
    (.ok (), { evt with
      topicFilter := addPrefix (m.getTopicPrefix evt.clientID) evt.topicFilter }, m, s)
  onDisconnect := some fun evt (m, s) => (m.onDisconnect evt.clientID, s)

/-! ### The prefix a client's topics get -/

/-- The topic begins with the prefix and a `/`. -/
def InNamespace (pfx topic : Str) : Prop := (pfx ++ [slash]) <+: topic

instance (pfx topic : Str) : Decidable (InNamespace pfx topic) :=
  inferInstanceAs (Decidable (_ <+: _))

lemma inNamespace_addPrefix {pfx topic : Str} (hp : pfx ≠ []) (ht : topic.head? ≠ some dollar) :
    InNamespace pfx (addPrefix pfx topic) := by
  rw [addPrefix, if_pos ⟨hp, ht⟩]
  exact ⟨topic, by simp⟩

namespace TenantManager

variable (m : TenantManager ρ) (tenantID : Str)

lemma clients_modifyState (f : TenantState ρ → TenantState ρ) :
    (m.modifyState tenantID f).clients = m.clients := by
  rw [modifyState]
  split_ifs
  · rfl
  · split <;> rfl

/-- A change of a tenant's state that keeps its configuration keeps all configurations. -/
lemma config_getState_modifyState {f : TenantState ρ → TenantState ρ}
    (hf : ∀ state, (f state).config = state.config) (tenantID' : Str) :
    ((m.modifyState tenantID f).getState tenantID').config = (m.getState tenantID').config := by
  rw [modifyState, getState, getState]
  split_ifs with hnil hnil' hnil'
  · exact hf _
  · cases m.tenants.lookup tenantID with
    | none => exact hf _
    | some state => rfl
  · cases m.tenants.lookup tenantID' <;> simp [hf]
  · cases hl : m.tenants.lookup tenantID with
    | none => cases m.tenants.lookup tenantID' <;> simp [hf]
    | some state =>
      by_cases heq : tenantID' = tenantID
      · subst heq
        simp [hl, hf]
      · simp [AList.lookup_insert_ne heq]

lemma getTopicPrefix_modifyState {f : TenantState ρ → TenantState ρ}
    (hf : ∀ state, (f state).config = state.config) (clientID : Str) :
    (m.modifyState tenantID f).getTopicPrefix clientID = m.getTopicPrefix clientID := by
  rw [getTopicPrefix, getTopicPrefix, clients_modifyState]
  cases m.clients.lookup clientID with
  | none => rfl
  | some tenantID' =>
    exact congrArg Tenant.topicPrefix (config_getState_modifyState m tenantID hf tenantID')

lemma getTopicPrefix_checkPublish (clientID : Str) (size now : ℤ) (clientID' : Str) :
    (m.checkPublish rate clientID size now).2.getTopicPrefix clientID' =
      m.getTopicPrefix clientID' := by
  rw [checkPublish]
  cases m.clients.lookup clientID with
  | none => rfl
  | some tenantID =>
    dsimp only
    split_ifs
    · rfl
    all_goals
      refine getTopicPrefix_modifyState m tenantID ?_ clientID'
      intro state
      rfl

end TenantManager

/-! ### Calls of a chain with a tenant interceptor -/

/-- A chain and the state of its interceptors. -/
structure System (ρ τ δ : Type) where
  chain : InterceptorChain (TenantManager ρ × τ) (TenantErr ⊕ δ)
  state : TenantManager ρ × τ

/-- A call of the chain, with what the calls of its interceptors meet. -/
inductive Call
  | connect (evt : ConnectEvent) (env : ℕ → RunEnv)
  | publish (evt : PublishEvent) (env : ℕ → RunEnv)
  | subscribe (evt : SubscribeEvent) (env : ℕ → RunEnv)

namespace System

/-- The chain after a call. -/
def step (s : System ρ τ δ) : Call → System ρ τ δ
  | .connect evt env =>
    let (_, (_, state), chain) := s.chain.onConnect env (evt, s.state)
    ⟨chain, state⟩
  | .publish evt env =>
    let (_, (_, state), chain) := s.chain.onPublish env (evt, s.state)
    ⟨chain, state⟩
  | .subscribe evt env =>
    let (_, (_, state), chain) := s.chain.onSubscribe env (evt, s.state)
    ⟨chain, state⟩

/-- If the call is accepted for a client whose tenant has a prefix, and its topic or filter
does not start with `$`, then it is put under the prefix. -/
def Isolated (s : System ρ τ δ) : Call → Prop
  | .connect _ _ => True
  | .publish evt env =>
    (s.chain.onPublish env (evt, s.state)).1 = .ok () →
      s.state.1.getTopicPrefix evt.clientID ≠ [] → evt.topic.head? ≠ some dollar →
      InNamespace (s.state.1.getTopicPrefix evt.clientID)
        (s.chain.onPublish env (evt, s.state)).2.1.1.topic
  | .subscribe evt env =>
    (s.chain.onSubscribe env (evt, s.state)).1 = .ok () →
      s.state.1.getTopicPrefix evt.clientID ≠ [] → evt.topicFilter.head? ≠ some dollar →
      InNamespace (s.state.1.getTopicPrefix evt.clientID)
        (s.chain.onSubscribe env (evt, s.state)).2.1.1.topicFilter

/-- At a publish or subscribe call, the breaker of the interceptor at position `k` is not open,
or has been open for longer than its open period. -/
def Admitted (k : ℕ) (s : System ρ τ δ) : Call → Prop
  | .connect _ _ => True
  | .publish _ env | .subscribe _ env =>
    ∀ ri, s.chain[k]? = some ri → ¬ ri.executor.breaker.Refuses (env k).allowAt

end System

/-- A hook leaves the tenants alone, and the client and the namespace of its event: no prefix
is taken off, and no topic is turned into one that starts with `$`. -/
def HookKeepsNamespace {α ε : Type} (clientID topic : α → Str)
    (fn : Hook (TenantManager ρ × τ) ε α) : Prop :=
  ∀ t x, Continues (fn t x).1 →
    (fn t x).2.2.1 = x.2.1 ∧ clientID (fn t x).2.1 = clientID x.1 ∧
    ((topic x.1).head? ≠ some dollar → (topic (fn t x).2.1).head? ≠ some dollar) ∧
    ∀ pfx, InNamespace pfx (topic x.1) → InNamespace pfx (topic (fn t x).2.1)

/-- The publish and subscribe hooks of an interceptor keep the namespace of their events. -/
structure KeepsNamespace {ε : Type} (i : Interceptor (TenantManager ρ × τ) ε) : Prop where
  onPublish : ∀ fn, i.onPublish = some fn →
    HookKeepsNamespace PublishEvent.clientID PublishEvent.topic fn
  onSubscribe : ∀ fn, i.onSubscribe = some fn →
    HookKeepsNamespace SubscribeEvent.clientID SubscribeEvent.topicFilter fn

section Isolation

variable {α ε : Type} {clientID topic : α → Str}
  {hook : Interceptor (TenantManager ρ × τ) ε → Option (Hook (TenantManager ρ × τ) ε α)}

/-- One call: if the hook at position `k` puts topics under the prefix and is not skipped, and
the other hooks keep namespaces, then an accepted event is under the prefix. -/
lemma dispatch_isolates {chain : InterceptorChain (TenantManager ρ × τ) ε} {k : ℕ}
    {ri : RegisteredInterceptor (TenantManager ρ × τ) ε} {fn : Hook (TenantManager ρ × τ) ε α}
    (hk : chain[k]? = some ri) (hfn : hook ri.interceptor = some fn)
    (hothers : ∀ j rj, j ≠ k → chain[j]? = some rj → ∀ gn, hook rj.interceptor = some gn →
      HookKeepsNamespace clientID topic gn)
    (hadd : ∀ t x, Continues (fn t x).1 →
      topic (fn t x).2.1 = addPrefix (x.2.1.getTopicPrefix (clientID x.1)) (topic x.1))
    {env : ℕ → RunEnv} {x : α × (TenantManager ρ × τ)}
    (hadm : ¬ ri.executor.breaker.Refuses (env k).allowAt)
    (hpfx : x.2.1.getTopicPrefix (clientID x.1) ≠ []) (hdollar : (topic x.1).head? ≠ some dollar)
    (hok : (dispatch hook env chain x).1 = .ok ()) :
    InNamespace (x.2.1.getTopicPrefix (clientID x.1))
      (topic (dispatch hook env chain x).2.1.1) := by
  set pfx := x.2.1.getTopicPrefix (clientID x.1) with hdef
  refine dispatch_through
    (fun y => y.2.1.getTopicPrefix (clientID y.1) = pfx ∧ (topic y.1).head? ≠ some dollar)
    (fun y => InNamespace pfx (topic y.1)) hk hfn ?_ ?_ hadm ⟨rfl, hdollar⟩ hok
  · intro j rj hjk hj gn hgn t y hcont
    obtain ⟨hm, hc, hd, hn⟩ := hothers j rj hjk hj gn hgn t y hcont
    refine ⟨?_, hn pfx⟩
    rintro ⟨hy, hyd⟩
    exact ⟨by rw [hm, hc, hy], hd hyd⟩
  · rintro t y ⟨hy, hyd⟩ hcont
    rw [hadd t y hcont, hy]
    exact inNamespace_addPrefix hpfx hyd

end Isolation

section Run

variable (resolver : Str → Str)

lemma onPublish_adds {fn : Hook (TenantManager ρ × τ) (TenantErr ⊕ δ) PublishEvent}
    (hfn : (tenantInterceptor rate resolver).onPublish = some fn) (t : ℤ)
    (x : PublishEvent × (TenantManager ρ × τ)) (h : Continues (fn t x).1) :
    (fn t x).2.1.topic = addPrefix (x.2.1.getTopicPrefix x.1.clientID) x.1.topic := by
  obtain rfl := Option.some_injective _ hfn
  obtain ⟨evt, m, s⟩ := x
  have hpfx := m.getTopicPrefix_checkPublish rate evt.clientID evt.payload.length t evt.clientID
  dsimp only at h ⊢
  rcases hc : m.checkPublish rate evt.clientID evt.payload.length t with ⟨e | ⟨⟨⟩⟩, m'⟩
  · rw [hc] at h
    rcases h with h | h <;> simp [hookResult] at h
  · rw [hc] at hpfx
    simp only [hpfx]

lemma System.map_interceptor_step (s : System ρ τ δ) (call : Call) :
    (s.step call).chain.map RegisteredInterceptor.interceptor =
      s.chain.map RegisteredInterceptor.interceptor := by
  cases call <;> exact map_interceptor_dispatch _ _ _

/-- For every run of calls, of any clients of any tenants, on a chain with a tenant interceptor
whose other interceptors keep namespaces: if the breaker of the tenant interceptor refuses none
of the publish and subscribe calls, then all calls are isolated. -/
theorem chain_isolates (s : System ρ τ δ) (k : ℕ)
    (hk : (s.chain[k]?).map RegisteredInterceptor.interceptor =
      some (tenantInterceptor rate resolver))
    (hothers : ∀ j ri, j ≠ k → s.chain[j]? = some ri → KeepsNamespace ri.interceptor)
    (calls : List Call)
    (hadm : ∀ x ∈ trace System.step s calls, System.Admitted k x.1 x.2) :
    ∀ x ∈ trace System.step s calls, System.Isolated x.1 x.2 := by
  -- the interceptors stay the same along the run
  have hchain : ∀ x ∈ trace System.step s calls,
      x.1.chain.map RegisteredInterceptor.interceptor =
        s.chain.map RegisteredInterceptor.interceptor := by
    refine trace_invariant (fun s' : System ρ τ δ =>
      s'.chain.map RegisteredInterceptor.interceptor =
        s.chain.map RegisteredInterceptor.interceptor) (fun _ _ => True) ?_ rfl
      (fun _ _ => trivial)
    rintro s' call h -
    rw [System.map_interceptor_step, h]
  rintro ⟨s', call⟩ hx
  have hget : ∀ j : ℕ, (s'.chain[j]?).map RegisteredInterceptor.interceptor =
      (s.chain[j]?).map RegisteredInterceptor.interceptor := by
    intro j
    rw [← List.getElem?_map, ← List.getElem?_map, hchain _ hx]
  obtain ⟨ri, hri, hi⟩ := Option.map_eq_some_iff.1 ((hget k).trans hk)
  have hother : ∀ j rj, j ≠ k → s'.chain[j]? = some rj → KeepsNamespace rj.interceptor := by
    intro j rj hjk hj
    have h := hget j
    rw [hj, Option.map_some, eq_comm, Option.map_eq_some_iff] at h
    obtain ⟨rj', hj', heq⟩ := h
    exact heq ▸ hothers j rj' hjk hj'
  have hadm := hadm _ hx
  cases call with
  | connect evt env => trivial
  | publish evt env =>
    intro hok hpfx hdollar
    exact dispatch_isolates hri (by rw [hi]; rfl)
      (fun j rj hjk hj => (hother j rj hjk hj).onPublish) (onPublish_adds rate resolver rfl)
      (hadm ri hri) hpfx hdollar hok
  | subscribe evt env =>
    intro hok hpfx hdollar
    exact dispatch_isolates hri (by rw [hi]; rfl)
      (fun j rj hjk hj => (hother j rj hjk hj).onSubscribe) (fun _ _ _ => rfl)
      (hadm ri hri) hpfx hdollar hok

end Run

/-! ### A run that leaks -/

/-- Limiters without a limit, which is what tenants without a message rate get. -/
def unlimited : RateLib Unit where
  newLimiter _ := ()
  inf := ()
  allow _ _ := (true, ())

/-- Two tenants, the first with a limit on the size of messages. -/
def sampleTenants : List Tenant :=
  [⟨str "a", 0, 0, 1, []⟩, ⟨str "b", 0, 0, 0, []⟩]

/-- A chain with the tenant interceptor only; users have the ID of their tenant as name. -/
def sampleSystem : System Unit Unit Empty where
  chain := InterceptorChain.register [] (tenantInterceptor unlimited id) defaultBreakerConfig
  state := (((TenantManager.new unlimited).loadTenants unlimited sampleTenants).toOption.getD
    (TenantManager.new unlimited), ())

/-- A call at the instant `n` seconds that ends in time. -/
def callAt (n : ℤ) : ℕ → RunEnv := fun _ => ⟨n * second, n * second, n * second, .done⟩

def connectA : Call := .connect ⟨str "ca", str "a", true, []⟩ (callAt 1)
def connectB : Call := .connect ⟨str "cb", str "b", true, []⟩ (callAt 1)
def publishTooLarge : Call := .publish ⟨str "ca", str "t", [0, 0], 0, false⟩ (callAt 2)
def publishB : PublishEvent := ⟨str "cb", str "t", [0], 0, false⟩

theorem chain_isolates_sample :
    ((sampleSystem.step connectB).chain.onPublish (callAt 2)
      (publishB, (sampleSystem.step connectB).state)).1 = .ok () ∧
    InNamespace (str "b") ((sampleSystem.step connectB).chain.onPublish (callAt 2)
      (publishB, (sampleSystem.step connectB).state)).2.1.1.topic := by
  have hok : ((sampleSystem.step connectB).chain.onPublish (callAt 2)
      (publishB, (sampleSystem.step connectB).state)).1 = .ok () := by decide
  refine ⟨hok, ?_⟩
  refine chain_isolates unlimited id sampleSystem 0 rfl ?_
    [connectB, .publish publishB (callAt 2)] ?_ (_, .publish publishB (callAt 2))
    (List.mem_cons_of_mem _ List.mem_cons_self) hok (by decide) (by decide)
  · intro j ri hj hri
    cases j with
    | zero => exact absurd rfl hj
    | succ j => cases hri
  · intro x hx
    rcases List.mem_cons.1 hx with rfl | hx
    · trivial
    · obtain rfl := List.mem_singleton.1 hx
      intro ri hri
      obtain rfl := Option.some_injective _ hri
      decide

/-- The system after three publishes of tenant `a` that are too large. -/
def leakySystem : System Unit Unit Empty :=
  [connectA, connectB, publishTooLarge, publishTooLarge, publishTooLarge].foldl System.step
    sampleSystem

/-- After too large publishes of tenant `a`, a publish of tenant `b` is accepted without the
prefix of `b`. -/
theorem chain_leaks :
    (leakySystem.chain.onPublish (callAt 3) (publishB, leakySystem.state)).1 = .ok () ∧
    leakySystem.state.1.getTopicPrefix (str "cb") = str "b" ∧
    (leakySystem.chain.onPublish (callAt 3) (publishB, leakySystem.state)).2.1.1.topic = str "t" ∧
    ¬ System.Isolated leakySystem (.publish publishB (callAt 3)) := by
  refine ⟨by decide +kernel, by decide +kernel, by decide +kernel, ?_⟩
  intro h
  exact absurd (h (by decide +kernel) (by decide +kernel) (by decide)) (by decide +kernel)

end Dmqtt.Tenants
