/-
Which tenants are kept apart by their prefixes.

The interceptor puts the topics that a client publishes and the filters that it subscribes to under
the prefix of its tenant.  The configuration only has to have distinct tenant IDs: two tenants may
have the same prefix, the prefix of one may continue that of the other, and a prefix may have
wildcards in it.  `tenants_isolated_iff` says between which prefixes no message can pass.
-/
import Dmqtt.Tenant

namespace Dmqtt.Tenants

open Lib Plugin Broker

variable {ρ : Type} (rate : RateLib ρ) (resolver : Str → Str)

/-- `OnPublish` accepts a message that a client publishes on `topic`, and puts it on `out`. -/
def PublishesAs (m : TenantManager ρ) (clientID topic out : Str) : Prop :=
  ∃ (fn : Hook (TenantManager ρ × Unit) (TenantErr ⊕ Empty) PublishEvent) (evt : PublishEvent)
    (now : ℤ), (tenantInterceptor rate resolver).onPublish = some fn ∧
      evt.clientID = clientID ∧ evt.topic = topic ∧
      (fn now (evt, m, ())).1 = .ok () ∧ (fn now (evt, m, ())).2.1.topic = out

/-- `OnSubscribe` accepts a filter of a client, and turns it into `out`. -/
def SubscribesAs (m : TenantManager ρ) (clientID filter out : Str) : Prop :=
  ∃ (fn : Hook (TenantManager ρ × Unit) (TenantErr ⊕ Empty) SubscribeEvent) (evt : SubscribeEvent)
    (now : ℤ), (tenantInterceptor rate resolver).onSubscribe = some fn ∧
      evt.clientID = clientID ∧ evt.topicFilter = filter ∧
      (fn now (evt, m, ())).1 = .ok () ∧ (fn now (evt, m, ())).2.1.topicFilter = out

/-- When the tenants are loaded, nothing that a client of `A` publishes is matched by what a
client of `B` subscribes to, apart from topics and filters that start with `$`. -/
def Isolated (ts : List Tenant) (A B : Tenant) : Prop :=
  ∀ (ρ : Type) (rate : RateLib ρ) (resolver : Str → Str) (m₀ m : TenantManager ρ),
    m₀.loadTenants rate ts = .ok m →
    ∀ a b, m.clients.lookup a = some A.id → m.clients.lookup b = some B.id →
    ∀ t f, t.head? ≠ some dollar → f.head? ≠ some dollar →
    ∀ topic filter,
      PublishesAs rate resolver m a t topic → SubscribesAs rate resolver m b f filter →
      topicMatch filter topic = false

/-! ### Prefixes -/

/-- Filters below the levels `fs` can match topics below the levels `ts`.  If `fs` is longer, a
topic has to go on with the next level of `fs`, and may not start with `$`. -/
def overlap : List Str → List Str → Bool
  | [], _ => true
  | f :: fs, ts =>
    if f = hashLevel then true
    else
      match ts with
      | [] => f.head? ≠ some dollar
      | t :: ts => (f = plusLevel || f = t) && overlap fs ts

/-- Filters below the first prefix can match topics below the second one. -/
def PrefixesOverlap (filterPrefix topicPrefix : Str) : Prop :=
  ¬ Hidden (levels filterPrefix) (levels topicPrefix) ∧
    overlap (levels filterPrefix) (levels topicPrefix) = true

instance (filterPrefix topicPrefix : Str) : Decidable (PrefixesOverlap filterPrefix topicPrefix) :=
  inferInstanceAs (Decidable (¬ (_ ∧ _) ∧ _))

lemma overlap_hash (fs ts : List Str) : overlap (hashLevel :: fs) ts = true := by
  simp [overlap]

lemma overlap_cons_nil {f : Str} (hf : f ≠ hashLevel) (fs : List Str) :
    overlap (f :: fs) [] = true ↔ f.head? ≠ some dollar := by
  simp [overlap, hf]

lemma overlap_cons {f : Str} (hf : f ≠ hashLevel) (t : Str) (fs ts : List Str) :
    overlap (f :: fs) (t :: ts) = true ↔ (f = plusLevel ∨ f = t) ∧ overlap fs ts = true := by
  simp [overlap, hf]

lemma levels_append_slash (p s : Str) : levels (p ++ slash :: s) = levels p ++ levels s := by
  induction p with
  | nil =>
    rw [List.nil_append, levels_cons, if_pos rfl]
    rfl
  | cons c p ih =>
    rw [List.cons_append, levels_cons, levels_cons, ih]
    obtain ⟨l, ls, hls⟩ := List.exists_cons_of_ne_nil (levels_ne_nil p)
    split_ifs
    · rfl
    · rw [hls]
      rfl

lemma firstChar_append {ls : List Str} (h : ls ≠ []) (ls' : List Str) :
    firstChar (ls ++ ls') = firstChar ls := by
  obtain ⟨l, ls, rfl⟩ := List.exists_cons_of_ne_nil h
  rfl

lemma matchLevels_self (ls : List Str) : matchLevels (ls ++ [hashLevel]) ls = true := by
  induction ls with
  | nil => exact matchLevels_hash [] []
  | cons l ls ih =>
    by_cases hhash : l = hashLevel
    · rw [hhash]
      exact matchLevels_hash _ _
    · exact (matchLevels_cons_iff hhash _ _).2 ⟨l, ls, rfl, Or.inr rfl, ih⟩

lemma overlap_of_matchLevels {fs ts lf : List Str} {t : Str} (ht : t.head? ≠ some dollar)
    (h : matchLevels (fs ++ lf) (ts ++ levels t) = true) : overlap fs ts = true := by
  induction fs generalizing ts with
  | nil => rfl
  | cons f fs ih =>
    by_cases hhash : f = hashLevel
    · rw [hhash]
      exact overlap_hash fs ts
    obtain ⟨t₀, rest, hts, hf, hrest⟩ := (matchLevels_cons_iff hhash _ _).1 h
    cases ts with
    | nil =>
      rw [overlap_cons_nil hhash]
      -- the topic goes on with the level `f`
      rcases hf with rfl | rfl
      · decide
      · intro hdollar
        refine ht ((firstChar_levels t (by decide)).1 ?_)
        rw [List.nil_append] at hts
        rw [hts]
        exact hdollar
    | cons t₁ ts =>
      cases hts
      exact (overlap_cons hhash _ _ _).2 ⟨hf, ih hrest⟩

lemma exists_topic_of_overlap {fs ts : List Str} (hslash : ∀ l ∈ fs, slash ∉ l)
    (h : overlap fs ts = true) : ∃ t : Str, t.head? ≠ some dollar ∧
      matchLevels (fs ++ [hashLevel]) (ts ++ levels t) = true := by
  induction fs generalizing ts with
  | nil => exact ⟨[], by simp, matchLevels_hash [] _⟩
  | cons f fs ih =>
    by_cases hhash : f = hashLevel
    · rw [hhash]
      exact ⟨[], by simp, matchLevels_hash _ _⟩
    cases ts with
    | nil =>
      have hlevels : levels (joinLevels (f :: fs)) = f :: fs :=
        levels_joinLevels (List.cons_ne_nil _ _) hslash
      refine ⟨joinLevels (f :: fs), ?_, ?_⟩
      · rw [Ne, ← firstChar_levels _ (show dollar ≠ slash by decide), hlevels]
        exact (overlap_cons_nil hhash fs).1 h
      · rw [hlevels]
        exact matchLevels_self _
    | cons t₁ ts =>
      obtain ⟨hf, hrest⟩ := (overlap_cons hhash _ _ _).1 h
      obtain ⟨t, ht, hmatch⟩ := ih (fun l hl => hslash l (List.mem_cons_of_mem _ hl)) hrest
      exact ⟨t, ht, (matchLevels_cons_iff hhash _ _).2 ⟨t₁, _, rfl, hf, hmatch⟩⟩

/-- The prefixes overlap exactly if some filter below the one matches some topic below the other. -/
lemma prefixesOverlap_iff (p q : Str) :
    PrefixesOverlap p q ↔ ∃ t f : Str, t.head? ≠ some dollar ∧ f.head? ≠ some dollar ∧
      topicMatch (p ++ slash :: f) (q ++ slash :: t) = true := by
  have hmatch : ∀ t f : Str, topicMatch (p ++ slash :: f) (q ++ slash :: t) = true ↔
      ¬ Hidden (levels p) (levels q) ∧
        matchLevels (levels p ++ levels f) (levels q ++ levels t) = true := by
    intro t f
    rw [topicMatch, matchTopic_iff, levels_append_slash, levels_append_slash, Matches, Hidden,
      Hidden, firstChar_append (levels_ne_nil p), firstChar_append (levels_ne_nil q)]
  constructor
  · rintro ⟨hvisible, hoverlap⟩
    obtain ⟨t, ht, hlevels⟩ :=
      exists_topic_of_overlap (fun l hl => slash_notMem_levels hl) hoverlap
    exact ⟨t, hashLevel, ht, by decide, (hmatch t hashLevel).2 ⟨hvisible, hlevels⟩⟩
  · rintro ⟨t, f, ht, -, h⟩
    obtain ⟨hvisible, hlevels⟩ := (hmatch t f).1 h
    exact ⟨hvisible, overlap_of_matchLevels ht hlevels⟩

/-! ### The interceptor -/

lemma PublishesAs.eq_addPrefix {m : TenantManager ρ} {clientID topic out : Str}
    (h : PublishesAs rate resolver m clientID topic out) :
    out = addPrefix (m.getTopicPrefix clientID) topic := by
  obtain ⟨fn, evt, now, hfn, rfl, rfl, hok, rfl⟩ := h
  exact onPublish_adds rate resolver hfn now (evt, m, ()) (Or.inl hok)

lemma SubscribesAs.eq_addPrefix {m : TenantManager ρ} {clientID filter out : Str}
    (h : SubscribesAs rate resolver m clientID filter out) :
    out = addPrefix (m.getTopicPrefix clientID) filter := by
  obtain ⟨fn, evt, now, hfn, rfl, rfl, -, rfl⟩ := h
  obtain rfl := Option.some_injective _ hfn
  rfl

/-- An empty message is never too large, and without limits on the rate it is accepted. -/
lemma publishesAs_unlimited (m : TenantManager Unit) (clientID topic : Str) :
    PublishesAs unlimited id m clientID topic (addPrefix (m.getTopicPrefix clientID) topic) := by
  obtain ⟨m', hcheck⟩ : ∃ m',
      m.checkPublish unlimited clientID ([] : Bytes).length 0 = (.ok (), m') := by
    rw [TenantManager.checkPublish]
    cases m.clients.lookup clientID with
    | none => exact ⟨_, rfl⟩
    | some tenantID =>
      dsimp only
      rw [if_neg fun h => absurd (h.1.trans h.2) (by simp)]
      exact ⟨_, rfl⟩
  have hpfx := m.getTopicPrefix_checkPublish unlimited clientID ([] : Bytes).length 0 clientID
  rw [hcheck] at hpfx
  refine ⟨_, ⟨clientID, topic, [], 0, false⟩, 0, rfl, rfl, rfl, ?_, ?_⟩
  all_goals
    dsimp only
    rw [hcheck]
  exact congrArg (fun pfx => addPrefix pfx topic) hpfx

lemma subscribesAs (m : TenantManager ρ) (clientID filter : Str) :
    SubscribesAs rate resolver m clientID filter
      (addPrefix (m.getTopicPrefix clientID) filter) :=
  ⟨_, ⟨clientID, filter, 0⟩, 0, rfl, rfl, rfl, rfl, rfl⟩

/-- A client of a tenant that is loaded has the prefix of the tenant. -/
lemma getTopicPrefix_of_loaded {m₀ m : TenantManager ρ} {ts parsed : List Tenant} {A : Tenant}
    {clientID : Str} (hparse : parseTenants [] ts = .ok parsed) (hA : A ∈ parsed)
    (hload : m₀.loadTenants rate ts = .ok m) (hclient : m.clients.lookup clientID = some A.id) :
    m.getTopicPrefix clientID = A.topicPrefix := by
  obtain ⟨hnodup, hall⟩ := parseTenants_ok hparse
  rw [TenantManager.getTopicPrefix, hclient]
  dsimp only
  rw [TenantManager.getState, if_neg (hall A hA).1]
  rw [TenantManager.loadTenants, hparse] at hload
  cases hload
  have hlookup := GoMap.lookup_foldl_insert_of_mem (fun t =>
    { config := t
      connections := ((m₀.tenants.lookup t.id).map TenantState.connections).getD 0
      rateLimiter := TenantManager.limiterFor rate t : TenantState ρ }) hnodup hA ∅
  rw [hlookup]

/-- For every list of tenants that is accepted and any two tenants in it, the one cannot publish
anything that the other one's filters match exactly if their prefixes do not overlap. -/
theorem tenants_isolated_iff {ts parsed : List Tenant} (hparse : parseTenants [] ts = .ok parsed)
    {A B : Tenant} (hA : A ∈ parsed) (hB : B ∈ parsed) :
    Isolated ts A B ↔ ¬ PrefixesOverlap B.topicPrefix A.topicPrefix := by
  obtain ⟨-, hall⟩ := parseTenants_ok hparse
  have hadd : ∀ C ∈ parsed, ∀ s : Str, s.head? ≠ some dollar →
      addPrefix C.topicPrefix s = C.topicPrefix ++ slash :: s :=
    fun C hC s hs => if_pos ⟨(hall C hC).2.2, hs⟩
  rw [prefixesOverlap_iff]
  constructor
  · rintro hiso ⟨t, f, ht, hf, hmatch⟩
    -- a manager with a client of each tenant
    let m₀ : TenantManager Unit :=
      { TenantManager.new unlimited with
        clients := ((∅ : GoMap Str Str).insert (str "a") A.id).insert (str "b") B.id }
    obtain ⟨m, hload, hclients⟩ : ∃ m, m₀.loadTenants unlimited ts = .ok m ∧
        m.clients = m₀.clients := by
      rw [TenantManager.loadTenants, hparse]
      exact ⟨_, rfl, rfl⟩
    have ha : m.clients.lookup (str "a") = some A.id := by
      rw [hclients]
      exact (AList.lookup_insert_ne (by decide)).trans (AList.lookup_insert _)
    have hb : m.clients.lookup (str "b") = some B.id := by
      rw [hclients]
      exact AList.lookup_insert _
    have hpub := publishesAs_unlimited m (str "a") t
    have hsub := subscribesAs unlimited id m (str "b") f
    rw [getTopicPrefix_of_loaded unlimited hparse hA hload ha, hadd A hA t ht] at hpub
    rw [getTopicPrefix_of_loaded unlimited hparse hB hload hb, hadd B hB f hf] at hsub
    have hnot := hiso Unit unlimited id m₀ m hload _ _ ha hb t f ht hf _ _ hpub hsub
    rw [hnot] at hmatch
    cases hmatch
  · intro hno ρ rate resolver m₀ m hload a b ha hb t f ht hf topic filter hpub hsub
    rw [Bool.eq_false_iff]
    intro hmatch
    rw [hpub.eq_addPrefix, hsub.eq_addPrefix, getTopicPrefix_of_loaded rate hparse hA hload ha,
      getTopicPrefix_of_loaded rate hparse hB hload hb, hadd A hA t ht, hadd B hB f hf] at hmatch
    exact hno ⟨t, f, ht, hf, hmatch⟩

/-- Tenants whose prefixes are their IDs, and one whose prefix continues that of the first. -/
def nestedTenants : List Tenant :=
  [⟨str "a", 0, 0, 0, []⟩, ⟨str "b", 0, 0, 0, []⟩, ⟨str "c", 0, 0, 0, str "a/c"⟩]

def tenantA : Tenant := ⟨str "a", 0, 0, 0, str "a"⟩
def tenantB : Tenant := ⟨str "b", 0, 0, 0, str "b"⟩
def tenantC : Tenant := ⟨str "c", 0, 0, 0, str "a/c"⟩

/-- The first two tenants are kept apart. -/
theorem tenants_isolated_iff_nested : Isolated nestedTenants tenantA tenantB := by
  have hparse : parseTenants [] nestedTenants = .ok [tenantA, tenantB, tenantC] := rfl
  exact (tenants_isolated_iff hparse (by decide) (by decide)).2 (by decide)

/-- The tenants are loaded, and a client of the first tenant and one of the third connect. -/
def nestedClients : TenantManager Unit :=
  let m := (((TenantManager.new unlimited).loadTenants unlimited nestedTenants).toOption).getD
    (TenantManager.new unlimited)
  ((m.tryConnect (str "p") (str "a")).2.tryConnect (str "q") (str "c")).2

/-- The same when the tenants are loaded again. -/
def nestedManager : TenantManager Unit :=
  ((nestedClients.loadTenants unlimited nestedTenants).toOption).getD nestedClients

/-- What a client of the third tenant publishes on `t` is matched by the filter `#` of a client
of the first one. -/
theorem tenants_not_isolated :
    PublishesAs unlimited id nestedManager (str "q") (str "t") (str "a/c/t") ∧
    SubscribesAs unlimited id nestedManager (str "p") (str "#") (str "a/#") ∧
    topicMatch (str "a/#") (str "a/c/t") = true ∧
    ¬ Isolated nestedTenants tenantC tenantA := by
  have hpub : PublishesAs unlimited id nestedManager (str "q") (str "t") (str "a/c/t") :=
    publishesAs_unlimited nestedManager (str "q") (str "t")
  have hsub : SubscribesAs unlimited id nestedManager (str "p") (str "#") (str "a/#") :=
    subscribesAs unlimited id nestedManager (str "p") (str "#")
  have hmatch : topicMatch (str "a/#") (str "a/c/t") = true := by decide
  refine ⟨hpub, hsub, hmatch, fun hiso => ?_⟩
  have hnot := hiso Unit unlimited id nestedClients nestedManager rfl (str "q") (str "p") rfl rfl
    (str "t") (str "#") (by decide) (by decide) _ _ hpub hsub
  rw [hmatch] at hnot
  cases hnot

end Dmqtt.Tenants
