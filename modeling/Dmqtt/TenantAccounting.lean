/-
The connection counters of the tenants.

The tenant manager counts connections per tenant, and knows the tenant of a connection by its
client ID only.  `OnDisconnect` is called for every connection that ends, also for one that was
replaced by another with the same client ID and for one that `OnConnect` has refused, and it
releases whatever is recorded under the client ID.  A tenant that is loaded again starts to count
from zero.  `accounting_iff` says which runs this leaves right.

A connection is live from the call of `OnConnect` that accepts it to its call of `OnDisconnect`.
The calls of the manager are taken to be atomic.
-/
import Dmqtt.Tenant

namespace Dmqtt.Tenants

open Lib Plugin

variable {ρ : Type} (rate : RateLib ρ)

/-- A connection that `OnConnect` has accepted. -/
structure LiveConn where
  clientID : Str
  tenantID : Str
deriving DecidableEq

/-- The tenant manager, and the connections that are live.  Live connections with the same client
ID and tenant are not told apart. -/
structure Accounts (ρ : Type) where
  manager : TenantManager ρ
  live : List LiveConn

/-- What happens at the tenant manager: `OnConnect`, `OnDisconnect` for a live connection,
`OnDisconnect` for a connection that is none, and loading tenants. -/
inductive AccountOp
  | connect (clientID tenantID : Str)
  | disconnect (conn : LiveConn)
  | stray (clientID : Str)
  | reload (ts : List Tenant)

namespace Accounts

variable (a : Accounts ρ)

/-- A manager without tenants. -/
def new : Accounts ρ := ⟨.new rate, []⟩

/-- One call. -/
def step : AccountOp → Accounts ρ
  | .connect clientID tenantID =>
    match a.manager.tryConnect clientID tenantID with
    | (.error _, m) => { a with manager := m }
    | (.ok (), m) => ⟨m, ⟨clientID, tenantID⟩ :: a.live⟩
  | .disconnect conn =>
    if conn ∈ a.live then ⟨a.manager.onDisconnect conn.clientID, a.live.erase conn⟩ else a
  | .stray clientID => { a with manager := a.manager.onDisconnect clientID }
  | .reload ts =>
    match a.manager.loadTenants rate ts with
    | .error _ => a
    | .ok m => { a with manager := m }

/-- The number of live connections of a tenant. -/
def liveCount (tenantID : Str) : ℕ := a.live.countP fun conn => conn.tenantID = tenantID

/-- For every loaded tenant, the counter is the number of its live connections, and these are
mapped to the tenant and have its prefix. -/
structure Balanced : Prop where
  counter : ∀ t state, a.manager.tenants.lookup t = some state →
    state.connections = a.liveCount t ∧ 0 ≤ state.connections
  mapping : ∀ conn ∈ a.live, ∀ state, a.manager.tenants.lookup conn.tenantID = some state →
    a.manager.clients.lookup conn.clientID = some conn.tenantID ∧
      a.manager.getTopicPrefix conn.clientID = state.config.topicPrefix

/-- The client ID has no live connection of a loaded tenant among the given ones. -/
def Unheld (clientID : Str) (conns : List LiveConn) : Prop :=
  ∀ conn ∈ conns, conn.clientID = clientID → a.manager.tenants.lookup conn.tenantID = none

/-- When a call keeps the accounts balanced: a connection is accepted while those with its client
ID belong to its tenant or to tenants that are not loaded, a connection ends while it is the only
one with its client ID, apart from tenants that are not loaded, and no tenant is added while it has
live connections. -/
def Careful : AccountOp → Prop
  | .connect clientID tenantID => (a.manager.tryConnect clientID tenantID).1 = .ok () →
      ∀ conn ∈ a.live, conn.clientID = clientID →
        a.manager.tenants.lookup conn.tenantID = none ∨ conn.tenantID = tenantID
  | .disconnect conn => conn ∈ a.live → a.Unheld conn.clientID (a.live.erase conn)
  | .stray clientID => a.Unheld clientID a.live
  | .reload ts => ∀ m, a.manager.loadTenants rate ts = .ok m → ∀ conn ∈ a.live,
      a.manager.tenants.lookup conn.tenantID = none → m.tenants.lookup conn.tenantID = none

end Accounts

/-! ### The calls of the manager -/

namespace TenantManager

variable {m : TenantManager ρ}

/-- A change of a state changes that of its tenant, if it is loaded. -/
lemma lookup_modifyState (hnil : m.tenants.lookup [] = none) (t : Str)
    (f : TenantState ρ → TenantState ρ) (t' : Str) :
    (m.modifyState t f).tenants.lookup t' =
      if t' = t then (m.tenants.lookup t).map f else m.tenants.lookup t' := by
  rw [modifyState]
  split_ifs with ht heq heq
  · rw [heq, ht, hnil]
    rfl
  · rfl
  · subst heq
    cases hl : m.tenants.lookup t' with
    | none => exact hl
    | some state => exact AList.lookup_insert _
  · cases m.tenants.lookup t with
    | none => rfl
    | some state => exact AList.lookup_insert_ne heq

lemma tryConnect_cases (hnil : m.tenants.lookup [] = none) (clientID t : Str) :
    (∃ err, m.tryConnect clientID t = (.error err, m)) ∨
    ∃ m', m.tryConnect clientID t = (.ok (), m') ∧ m'.clients = m.clients.insert clientID t ∧
      ∀ t', m'.tenants.lookup t' = if t' = t then (m.tenants.lookup t).map fun state =>
        { state with connections := state.connections + 1 } else m.tenants.lookup t' := by
  rw [tryConnect]
  split_ifs
  · exact Or.inl ⟨_, rfl⟩
  · refine Or.inr ⟨_, rfl, ?_, fun t' => lookup_modifyState hnil t _ t'⟩
    exact congrArg (fun clients : GoMap Str Str => clients.insert clientID t)
      (clients_modifyState m t _)

lemma onDisconnect_of_none {clientID : Str} (h : m.clients.lookup clientID = none) :
    m.onDisconnect clientID = m := by
  rw [onDisconnect, h]

lemma onDisconnect_of_some (hnil : m.tenants.lookup [] = none) {clientID t : Str}
    (h : m.clients.lookup clientID = some t) :
    (m.onDisconnect clientID).clients = m.clients.erase clientID ∧
      ∀ t', (m.onDisconnect clientID).tenants.lookup t' =
        if t' = t then (m.tenants.lookup t).map fun state =>
          { state with connections := state.connections - 1 } else m.tenants.lookup t' := by
  rw [onDisconnect, h]
  refine ⟨clients_modifyState _ t _, fun t' => ?_⟩
  exact lookup_modifyState (m := { m with clients := m.clients.erase clientID }) hnil t _ t'

end TenantManager

/-- A tenant that was there keeps its counter, a new one starts from zero. -/
lemma TenantManager.loadTenants_ok {m m' : TenantManager ρ} {ts : List Tenant}
    (h : m.loadTenants rate ts = .ok m') :
    m'.clients = m.clients ∧ ∀ t state, m'.tenants.lookup t = some state → t ≠ [] ∧
      state.connections = ((m.tenants.lookup t).map TenantState.connections).getD 0 := by
  rw [loadTenants] at h
  cases hparsed : parseTenants [] ts with
  | error err =>
    rw [hparsed] at h
    cases h
  | ok parsed =>
    rw [hparsed] at h
    cases h
    refine ⟨rfl, fun t state ht => ?_⟩
    rcases GoMap.mem_of_lookup_foldl_insert ht with hnone | ⟨t', ht', rfl, rfl⟩
    · cases hnone
    · exact ⟨((parseTenants_ok hparsed).2 t' ht').1, rfl⟩

/-! ### What the manager knows of the live connections -/

namespace Accounts

variable {a : Accounts ρ}

/-- A change of the state of one tenant loads and drops none. -/
lemma eq_none_iff_of_update {tenants tenants' : GoMap Str (TenantState ρ)} {t : Str}
    {f : TenantState ρ → TenantState ρ} (h : ∀ t', tenants'.lookup t' =
      if t' = t then (tenants.lookup t).map f else tenants.lookup t') (t' : Str) :
    tenants'.lookup t' = none ↔ tenants.lookup t' = none := by
  rw [h]
  split_ifs with heq
  · rw [heq, Option.map_eq_none_iff]
  · rfl

/-- No tenant has the empty ID, and the clients that are mapped have a live connection. -/
structure Sound (a : Accounts ρ) : Prop where
  nil : a.manager.tenants.lookup [] = none
  held : ∀ clientID t, a.manager.clients.lookup clientID = some t → ⟨clientID, t⟩ ∈ a.live

lemma Sound.onDisconnect (ha : a.Sound) (clientID : Str) {live : List LiveConn}
    (hlive : ∀ conn ∈ a.live, conn.clientID ≠ clientID → conn ∈ live) :
    Sound ⟨a.manager.onDisconnect clientID, live⟩ := by
  cases h : a.manager.clients.lookup clientID with
  | none =>
    rw [TenantManager.onDisconnect_of_none h]
    refine ⟨ha.nil, fun clientID' t ht => hlive _ (ha.held clientID' t ht) ?_⟩
    rintro rfl
    cases h.symm.trans ht
  | some t₀ =>
    obtain ⟨hclients, htenants⟩ := TenantManager.onDisconnect_of_some ha.nil h
    constructor
    · exact (eq_none_iff_of_update htenants []).2 ha.nil
    · intro clientID' t ht
      rw [hclients, GoMap.lookup_erase_eq] at ht
      split_ifs at ht with hne
      exact hlive _ (ha.held clientID' t ht) hne

lemma Sound.connect (ha : a.Sound) {clientID t : Str} {m' : TenantManager ρ}
    {f : TenantState ρ → TenantState ρ}
    (hclients : m'.clients = a.manager.clients.insert clientID t)
    (htenants : ∀ t', m'.tenants.lookup t' =
      if t' = t then (a.manager.tenants.lookup t).map f else a.manager.tenants.lookup t') :
    Sound ⟨m', ⟨clientID, t⟩ :: a.live⟩ := by
  refine ⟨(eq_none_iff_of_update htenants []).2 ha.nil, fun clientID' t' ht' => ?_⟩
  rw [hclients, GoMap.lookup_insert_eq] at ht'
  split_ifs at ht' with heq
  · cases ht'
    rw [heq]
    exact List.mem_cons_self
  · exact List.mem_cons_of_mem _ (ha.held clientID' t' ht')

lemma Sound.reload (ha : a.Sound) {ts : List Tenant} {m' : TenantManager ρ}
    (hload : a.manager.loadTenants rate ts = .ok m') : Sound ⟨m', a.live⟩ := by
  obtain ⟨hclients, htenants⟩ := TenantManager.loadTenants_ok rate hload
  constructor
  · cases hnil : m'.tenants.lookup [] with
    | none => rfl
    | some state => exact absurd rfl (htenants [] state hnil).1
  · intro clientID t ht
    rw [hclients] at ht
    exact ha.held clientID t ht

lemma Sound.step (ha : a.Sound) (op : AccountOp) : (a.step rate op).Sound := by
  cases op with
  | connect clientID t =>
    rcases TenantManager.tryConnect_cases ha.nil clientID t with
      ⟨err, herr⟩ | ⟨m', hok, hclients, htenants⟩
    · rw [Accounts.step, herr]
      exact ha
    · rw [Accounts.step, hok]
      exact ha.connect hclients htenants
  | disconnect conn =>
    rw [Accounts.step]
    split_ifs
    · refine ha.onDisconnect conn.clientID fun conn' hconn' hne => ?_
      refine (List.mem_erase_of_ne ?_).2 hconn'
      rintro rfl
      exact hne rfl
    · exact ha
  | stray clientID => exact ha.onDisconnect clientID fun conn hconn _ => hconn
  | reload ts =>
    rw [Accounts.step]
    cases hload : a.manager.loadTenants rate ts with
    | error err => exact ha
    | ok m' => exact ha.reload rate hload

/-- The two facts that make up the balance. -/
structure Facts (a : Accounts ρ) : Prop where
  counter : ∀ t state, a.manager.tenants.lookup t = some state → state.connections = a.liveCount t
  mapping : ∀ conn ∈ a.live, a.manager.tenants.lookup conn.tenantID ≠ none →
    a.manager.clients.lookup conn.clientID = some conn.tenantID

lemma balanced_iff (ha : a.Sound) : a.Balanced ↔ a.Facts := by
  constructor
  · intro h
    refine ⟨fun t state ht => (h.counter t state ht).1, fun conn hconn hloaded => ?_⟩
    obtain ⟨state, hstate⟩ := Option.ne_none_iff_exists'.1 hloaded
    exact (h.mapping conn hconn state hstate).1
  · rintro ⟨hcounter, hmapping⟩
    constructor
    · intro t state ht
      rw [hcounter t state ht]
      exact ⟨rfl, Int.natCast_nonneg _⟩
    · intro conn hconn state hstate
      have hmap := hmapping conn hconn (by rw [hstate]; exact Option.some_ne_none _)
      refine ⟨hmap, ?_⟩
      have hne : conn.tenantID ≠ [] := by
        intro hnil
        rw [hnil, ha.nil] at hstate
        cases hstate
      rw [TenantManager.getTopicPrefix, hmap]
      dsimp only
      rw [TenantManager.getState, if_neg hne, hstate]

/-! ### What keeps the accounts balanced -/

section Disconnect

/-! `OnDisconnect` is called for `clientID`, and of the live connections those in `gone`, at most
one, cease to be live. -/

variable {clientID : Str} {gone live : List LiveConn}

lemma liveCount_eq_add (hperm : a.live.Perm (gone ++ live)) (t : Str) :
    a.liveCount t = gone.countP (fun conn => conn.tenantID = t) +
      live.countP fun conn => conn.tenantID = t := by
  rw [liveCount, hperm.countP_eq, List.countP_append]

/-- What is gone belongs to the tenant of the mapping, or to tenants that are not loaded. -/
lemma liveCount_eq_of_ne (hf : a.Facts) (hperm : a.live.Perm (gone ++ live))
    (hgone : ∀ conn ∈ gone, conn.clientID = clientID) {t : Str}
    (hloaded : a.manager.tenants.lookup t ≠ none)
    (hother : a.manager.clients.lookup clientID ≠ some t) :
    a.liveCount t = live.countP fun conn => conn.tenantID = t := by
  have hzero : gone.countP (fun conn => conn.tenantID = t) = 0 := by
    refine List.countP_eq_zero.2 fun conn hconn heq => hother ?_
    obtain rfl := of_decide_eq_true heq
    rw [← hgone conn hconn]
    exact hf.mapping conn (hperm.mem_iff.2 (List.mem_append_left _ hconn)) hloaded
  rw [liveCount_eq_add hperm, hzero, Nat.zero_add]

lemma facts_of_unmapped (hf : a.Facts) (hperm : a.live.Perm (gone ++ live))
    (hgone : ∀ conn ∈ gone, conn.clientID = clientID)
    (h : a.manager.clients.lookup clientID = none) :
    Facts { a with live := live } ∧ a.Unheld clientID live := by
  have hsub : ∀ conn ∈ live, conn ∈ a.live := fun conn hconn =>
    hperm.mem_iff.2 (List.mem_append_right _ hconn)
  refine ⟨⟨fun t state ht => ?_, fun conn hconn => hf.mapping conn (hsub conn hconn)⟩,
    fun conn hconn heq => ?_⟩
  · rw [hf.counter t state ht, liveCount_eq_of_ne hf hperm hgone (by simp [show
      a.manager.tenants.lookup t = some state from ht]) (by simp [h])]
    rfl
  · by_contra hloaded
    have hmap := hf.mapping conn (hsub conn hconn) hloaded
    rw [heq, h] at hmap
    cases hmap

/-- The counter of the tenant that is released. -/
lemma liveCount_eq_succ (ha : a.Sound) (hperm : a.live.Perm (gone ++ live))
    (hone : gone.length ≤ 1) (hunheld : a.Unheld clientID live) {t : Str}
    (hloaded : a.manager.tenants.lookup t ≠ none)
    (h : a.manager.clients.lookup clientID = some t) :
    a.liveCount t = live.countP (fun conn => conn.tenantID = t) + 1 := by
  rcases List.mem_append.1 (hperm.mem_iff.1 (ha.held clientID t h)) with hheld | hheld
  · -- the connection of the mapping is the one that is gone
    obtain ⟨conn, rfl⟩ : ∃ conn, gone = [conn] :=
      List.length_eq_one_iff.1 (le_antisymm hone (List.length_pos_of_mem hheld))
    obtain rfl := List.mem_singleton.1 hheld
    rw [liveCount_eq_add hperm, List.countP_singleton, Nat.add_comm]
    simp
  · exact absurd (hunheld _ hheld rfl) hloaded

lemma facts_onDisconnect_iff (ha : a.Sound) (hf : a.Facts) (hperm : a.live.Perm (gone ++ live))
    (hone : gone.length ≤ 1) (hgone : ∀ conn ∈ gone, conn.clientID = clientID) :
    Facts ⟨a.manager.onDisconnect clientID, live⟩ ↔ a.Unheld clientID live := by
  cases h : a.manager.clients.lookup clientID with
  | none =>
    rw [TenantManager.onDisconnect_of_none h]
    obtain ⟨hf', hunheld⟩ := facts_of_unmapped hf hperm hgone h
    exact iff_of_true hf' hunheld
  | some t₀ =>
    obtain ⟨hclients, htenants⟩ := TenantManager.onDisconnect_of_some ha.nil h
    have hloaded_iff := fun t => (eq_none_iff_of_update htenants t).not
    constructor
    · -- the mapping is gone, so nothing may be left that needs it
      intro hf' conn hconn heq
      by_contra hloaded
      have hmap := hf'.mapping conn hconn ((hloaded_iff conn.tenantID).2 hloaded)
      rw [hclients, heq, AList.lookup_erase] at hmap
      cases hmap
    · intro hunheld
      constructor
      · intro t state' ht
        have hloaded := (hloaded_iff t).1 (by simp [ht])
        rw [htenants] at ht
        split_ifs at ht with heq
        · subst heq
          obtain ⟨state, hstate, rfl⟩ := Option.map_eq_some_iff.1 ht
          have hrel := liveCount_eq_succ ha hperm hone hunheld hloaded h
          rw [hf.counter t state hstate, hrel, liveCount, Nat.cast_succ, add_sub_cancel_right]
        · rw [hf.counter t state' ht, liveCount_eq_of_ne hf hperm hgone hloaded ?_]
          · rfl
          · rw [h]
            exact fun h => heq (Option.some_injective _ h).symm
      · intro conn hconn hloaded
        have hloaded := (hloaded_iff conn.tenantID).1 hloaded
        have hne : conn.clientID ≠ clientID := fun heq => hloaded (hunheld conn hconn heq)
        rw [hclients, AList.lookup_erase_ne hne]
        exact hf.mapping conn (hperm.mem_iff.2 (List.mem_append_right _ hconn)) hloaded

end Disconnect

/-- `OnConnect` that accepts. -/
lemma facts_connect_iff (hf : a.Facts) {clientID t : Str} {m : TenantManager ρ}
    (hclients : m.clients = a.manager.clients.insert clientID t)
    (htenants : ∀ t', m.tenants.lookup t' =
      if t' = t then (a.manager.tenants.lookup t).map fun state =>
        { state with connections := state.connections + 1 } else a.manager.tenants.lookup t') :
    Facts ⟨m, ⟨clientID, t⟩ :: a.live⟩ ↔ ∀ conn ∈ a.live, conn.clientID = clientID →
      a.manager.tenants.lookup conn.tenantID = none ∨ conn.tenantID = t := by
  have hloaded_iff := fun t => (eq_none_iff_of_update htenants t).not
  constructor
  · intro hf' conn hconn heq
    rw [or_iff_not_imp_left]
    intro hloaded
    have hmap := hf'.mapping conn (List.mem_cons_of_mem _ hconn)
      ((hloaded_iff conn.tenantID).2 hloaded)
    rw [hclients, heq, AList.lookup_insert] at hmap
    exact (Option.some_injective _ hmap).symm
  · intro hcareful
    constructor
    · intro t' state' ht'
      rw [liveCount, List.countP_cons]
      rw [htenants] at ht'
      split_ifs at ht' with heq
      · subst heq
        obtain ⟨state, hstate, rfl⟩ := Option.map_eq_some_iff.1 ht'
        simp [hf.counter t' state hstate, liveCount]
      · simp [hf.counter t' state' ht', liveCount, Ne.symm heq]
    · intro conn hconn hloaded
      have hloaded := (hloaded_iff conn.tenantID).1 hloaded
      rw [hclients]
      rcases List.mem_cons.1 hconn with rfl | hconn
      · exact AList.lookup_insert _
      · rcases eq_or_ne conn.clientID clientID with heq | hne
        · rw [heq, AList.lookup_insert]
          rw [(hcareful conn hconn heq).resolve_left hloaded]
        · rw [AList.lookup_insert_ne hne]
          exact hf.mapping conn hconn hloaded

/-- `LoadTenantsFromBytes` that succeeds. -/
lemma facts_reload_iff (hf : a.Facts) {m : TenantManager ρ}
    (hclients : m.clients = a.manager.clients)
    (htenants : ∀ t state, m.tenants.lookup t = some state → t ≠ [] ∧ state.connections =
      ((a.manager.tenants.lookup t).map TenantState.connections).getD 0) :
    Facts { a with manager := m } ↔ ∀ conn ∈ a.live,
      a.manager.tenants.lookup conn.tenantID = none → m.tenants.lookup conn.tenantID = none := by
  constructor
  · intro hf' conn hconn hnone
    by_contra hloaded
    obtain ⟨state, hstate⟩ := Option.ne_none_iff_exists'.1 hloaded
    -- the tenant counts from zero, but has a live connection
    have hcounter := hf'.counter conn.tenantID state hstate
    rw [(htenants _ _ hstate).2, hnone, Option.map_none, Option.getD_none] at hcounter
    have hzero : a.live.countP (fun conn' => conn'.tenantID = conn.tenantID) = 0 :=
      (Int.natCast_eq_zero.1 hcounter.symm)
    exact List.countP_eq_zero.1 hzero conn hconn (by simp)
  · intro hcareful
    constructor
    · intro t state' ht
      rw [(htenants t state' ht).2]
      cases hold : a.manager.tenants.lookup t with
      | some state => exact hf.counter t state hold
      | none =>
        have hzero : a.live.countP (fun conn => conn.tenantID = t) = 0 := by
          refine List.countP_eq_zero.2 fun conn hconn heq => ?_
          obtain rfl := of_decide_eq_true heq
          rw [hcareful conn hconn hold] at ht
          cases ht
        exact congrArg Nat.cast hzero.symm
    · intro conn hconn hloaded
      rw [hclients]
      exact hf.mapping conn hconn fun hnone => hloaded (hcareful conn hconn hnone)

lemma balanced_step_iff (ha : a.Sound) (hb : a.Balanced) (op : AccountOp) :
    (a.step rate op).Balanced ↔ a.Careful rate op := by
  have hf := (balanced_iff ha).1 hb
  rw [balanced_iff (ha.step rate op)]
  cases op with
  | connect clientID t =>
    rcases TenantManager.tryConnect_cases ha.nil clientID t with
      ⟨err, herr⟩ | ⟨m', hok, hclients, htenants⟩
    · rw [step, Careful, herr]
      exact iff_of_true hf fun h => by cases h
    · rw [step, Careful, hok]
      exact (facts_connect_iff hf hclients htenants).trans ⟨fun h _ => h, fun h => h rfl⟩
  | disconnect conn =>
    rw [step, Careful]
    split_ifs with hmem
    · have hperm : a.live.Perm ([conn] ++ a.live.erase conn) := List.perm_cons_erase hmem
      have h := facts_onDisconnect_iff ha hf hperm le_rfl fun conn' hconn' =>
        congrArg LiveConn.clientID (List.mem_singleton.1 hconn')
      exact h.trans ⟨fun h _ => h, fun h => h hmem⟩
    · exact iff_of_true hf fun h => absurd h hmem
  | stray clientID =>
    exact facts_onDisconnect_iff ha hf (List.Perm.refl ([] ++ a.live)) (by simp) (by simp)
  | reload ts =>
    rw [step, Careful]
    cases hload : a.manager.loadTenants rate ts with
    | error err => exact iff_of_true hf fun m h => by cases h
    | ok m' =>
      obtain ⟨hclients, htenants⟩ := TenantManager.loadTenants_ok rate hload
      refine (facts_reload_iff hf hclients htenants).trans ⟨?_, fun h => h m' rfl⟩
      intro h m hm
      cases hm
      exact h

/-- In every run of calls: for every loaded tenant, the counter is all along the number of live
connections and not negative, and every live connection has its mapping and its prefix, if all
calls are careful; and only then. -/
theorem accounting_iff (ops : List AccountOp) :
    (∀ ops', ops' <+: ops → (ops'.foldl (step rate) (new rate)).Balanced) ↔
      ∀ x ∈ trace (step rate) (new rate) ops, x.1.Careful rate x.2 := by
  have hsound : (new rate).Sound := ⟨rfl, fun clientID t h => by cases h⟩
  have hbalanced : (new rate).Balanced := by
    constructor
    · intro t state h
      cases h
    · intro conn h
      cases h
  exact forall_prefix_iff Sound Balanced (Careful rate) (fun a op ha => ha.step rate op)
    (fun a op ha hb => balanced_step_iff rate ha hb op) hsound hbalanced ops

/-! ### Connections that share a client ID, and a tenant that comes back -/

/-- The calls from a manager without tenants. -/
def afterCalls (ops : List AccountOp) : Accounts Unit :=
  ops.foldl (step unlimited) (new unlimited)

/-- The tenant `a`, and a connection of the client `c`. -/
def tenantA : Tenant := ⟨str "a", 0, 0, 0, []⟩
def connA : LiveConn := ⟨str "c", str "a"⟩

/-- The client connects again, and the `OnDisconnect` of its first connection comes after that. -/
def replacedRun : List AccountOp :=
  [.reload [tenantA], .connect (str "c") (str "a"), .connect (str "c") (str "a"), .disconnect connA]

/-- The tenant is dropped and added again while the client is connected. -/
def readdedRun : List AccountOp :=
  [.reload [tenantA], .connect (str "c") (str "a"), .reload [], .reload [tenantA]]

/-- The connection that is left of `replacedRun` has no mapping and no prefix, and when it ends the
counter remains at one.  In `readdedRun` the counter is zero with a live connection, and when it
ends the counter is negative. -/
theorem accounting_fails :
    (afterCalls replacedRun).live = [connA] ∧
    (afterCalls replacedRun).manager.clients.lookup (str "c") = none ∧
    (afterCalls replacedRun).manager.getTopicPrefix (str "c") = [] ∧
    (afterCalls (replacedRun ++ [.disconnect connA])).live = [] ∧
    ((afterCalls (replacedRun ++ [.disconnect connA])).manager.tenants.lookup (str "a")).map
      TenantState.connections = some 1 ∧
    (afterCalls readdedRun).live = [connA] ∧
    ((afterCalls readdedRun).manager.tenants.lookup (str "a")).map
      TenantState.connections = some 0 ∧
    ((afterCalls (readdedRun ++ [.disconnect connA])).manager.tenants.lookup (str "a")).map
      TenantState.connections = some (-1) ∧
    ¬ (afterCalls replacedRun).Balanced ∧ ¬ (afterCalls readdedRun).Balanced := by
  have hlive : (afterCalls replacedRun).live = [connA] := by decide +kernel
  have hunmapped : (afterCalls replacedRun).manager.clients.lookup (str "c") = none := rfl
  refine ⟨hlive, hunmapped, rfl, by decide +kernel, rfl, by decide +kernel, rfl, rfl, ?_, ?_⟩
  · intro h
    have hmap := (h.mapping connA (by rw [hlive]; exact List.mem_singleton_self _) _ rfl).1
    cases hunmapped.symm.trans hmap
  · intro h
    have hcounter := (h.counter (str "a") _ rfl).1
    exact absurd hcounter (by decide +kernel)

end Accounts

end Dmqtt.Tenants
