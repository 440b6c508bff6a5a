/-
Within a tenant, the rewriting of topics cannot be noticed.

Topics and filters of a tenant get the same prefix.  As long as there is no wildcard in it, its
levels match themselves and nothing else, so that they may be cut off on both sides
(`topicMatch_prefixed`).  Only the first character needs care: a topic that starts with `$` is
hidden from filters that start with a wildcard, and behind a prefix neither can be seen any more.
-/
import Dmqtt.TenantIsolation

namespace Dmqtt.Tenants

open Lib Plugin Broker

variable {ρ : Type} (rate : RateLib ρ) (resolver : Str → Str)

/-- `OnDelivery` turns the topic of a message for a client into `out`. -/
def DeliversAs (m : TenantManager ρ) (clientID topic out : Str) : Prop :=
  ∃ (fn : Hook (TenantManager ρ × Unit) (TenantErr ⊕ Empty) DeliveryEvent) (evt : DeliveryEvent)
    (now : ℤ), (tenantInterceptor rate resolver).onDelivery = some fn ∧
      evt.clientID = clientID ∧ evt.topic = topic ∧
      (fn now (evt, m, ())).1 = .ok () ∧ (fn now (evt, m, ())).2.1.topic = out

/-- `OnUnsubscribe` turns a filter of a client into `out`. -/
def UnsubscribesAs (m : TenantManager ρ) (clientID filter out : Str) : Prop :=
  ∃ (fn : Hook (TenantManager ρ × Unit) (TenantErr ⊕ Empty) UnsubscribeEvent)
    (evt : UnsubscribeEvent) (now : ℤ), (tenantInterceptor rate resolver).onUnsubscribe = some fn ∧
      evt.clientID = clientID ∧ evt.topicFilter = filter ∧
      (fn now (evt, m, ())).1 = .ok () ∧ (fn now (evt, m, ())).2.1.topicFilter = out

/-! ### Matching below a prefix -/

lemma matchLevels_append_left {ls : List Str} (hhash : hashLevel ∉ ls) (hplus : plusLevel ∉ ls)
    (fs ts : List Str) : matchLevels (ls ++ fs) (ls ++ ts) = matchLevels fs ts := by
  induction ls with
  | nil => rfl
  | cons l ls ih =>
    rw [List.mem_cons, not_or] at hhash hplus
    rw [← ih hhash.2 hplus.2, List.cons_append, List.cons_append, Bool.eq_iff_iff,
      matchLevels_cons (Ne.symm hhash.1) (Ne.symm hplus.1)]
    exact and_iff_right rfl

variable {t : Str} (m : TenantManager ρ) (clientID filter out : Str)

lemma topicMatch_prefixed {p : Str} (hplus : plus ∉ p) (hhash : hash ∉ p)
    (ht : t.head? ≠ some dollar) (f : Str) :
    topicMatch (p ++ slash :: f) (p ++ slash :: t) = topicMatch f t := by
  have hlevel : ∀ c, c ∉ p → [c] ∉ levels p := fun c hc hmem =>
    hc ((mem_levels_iff p c).1 ⟨[c], hmem, List.mem_singleton_self c⟩).1
  have hfirst : ∀ c, c ≠ slash → c ∉ p → firstChar (levels p) ≠ some c := by
    intro c hslash hc hfirst
    exact hc (List.mem_of_mem_head? ((firstChar_levels p hslash).1 hfirst))
  -- neither of the two topics is hidden from its filter
  have hbelow : ¬ Hidden (levels p ++ levels f) (levels p ++ levels t) := by
    rw [Hidden, firstChar_append (levels_ne_nil p), firstChar_append (levels_ne_nil p)]
    rintro ⟨-, hc | hc⟩
    · exact hfirst plus (by decide) hplus hc
    · exact hfirst hash (by decide) hhash hc
  have habove : ¬ Hidden (levels f) (levels t) := fun h =>
    ht ((firstChar_levels t (by decide)).1 h.1)
  rw [Bool.eq_iff_iff, topicMatch, topicMatch, matchTopic_iff, matchTopic_iff,
    levels_append_slash, levels_append_slash, Matches, Matches,
    matchLevels_append_left (hlevel hash hhash) (hlevel plus hplus)]
  exact and_congr_left fun _ => iff_of_true hbelow habove

lemma topicMatch_of_dollar {f : Str} (hf : f.head? = some dollar) (ht : t.head? ≠ some dollar) :
    topicMatch f t = false := by
  rw [Bool.eq_false_iff, topicMatch, Ne, matchTopic_iff]
  rintro ⟨-, hmatch⟩
  have hfirst := (firstChar_levels f (show dollar ≠ slash by decide)).2 hf
  obtain ⟨l, ls, hls⟩ := List.exists_cons_of_ne_nil (levels_ne_nil f)
  rw [hls] at hfirst hmatch
  have hl : l.head? = some dollar := hfirst
  have hne : ∀ c : UInt8, c ≠ dollar → l ≠ [c] := by
    rintro c hc rfl
    exact hc (Option.some_injective _ hl)
  obtain ⟨t₀, ts, hts, hplus | rfl, -⟩ :=
    (matchLevels_cons_iff (hne hash (by decide)) ls (levels t)).1 hmatch
  · exact hne plus (by decide) hplus
  · refine ht ((firstChar_levels t (by decide)).1 ?_)
    rw [hts]
    exact hl

/-! ### The interceptor -/

lemma stripPrefix_addPrefix {p : Str} (hp : p ≠ []) (ht : t.head? ≠ some dollar) :
    stripPrefix p (addPrefix p t) = t := by
  have hpre : (p ++ [slash]).isPrefixOf (p ++ slash :: t) :=
    List.isPrefixOf_iff_prefix.2 ⟨t, by simp⟩
  rw [addPrefix, if_pos ⟨hp, ht⟩, stripPrefix, if_pos ⟨hp, hpre⟩, List.drop_append]
  simp

lemma deliversAs_iff (topic out : Str) :
    DeliversAs rate resolver m clientID topic out ↔
      stripPrefix (m.getTopicPrefix clientID) topic = out := by
  constructor
  · rintro ⟨fn, evt, now, hfn, rfl, rfl, -, rfl⟩
    obtain rfl := Option.some_injective _ hfn
    rfl
  · rintro rfl
    exact ⟨_, ⟨clientID, topic, [], 0⟩, 0, rfl, rfl, rfl, rfl, rfl⟩

lemma subscribesAs_iff :
    SubscribesAs rate resolver m clientID filter out ↔
      addPrefix (m.getTopicPrefix clientID) filter = out := by
  constructor
  · intro h
    exact h.eq_addPrefix.symm
  · rintro rfl
    exact subscribesAs rate resolver m clientID filter

lemma unsubscribesAs_iff :
    UnsubscribesAs rate resolver m clientID filter out ↔
      addPrefix (m.getTopicPrefix clientID) filter = out := by
  constructor
  · rintro ⟨fn, evt, now, hfn, rfl, rfl, -, rfl⟩
    obtain rfl := Option.some_injective _ hfn
    rfl
  · rintro rfl
    exact ⟨_, ⟨clientID, filter⟩, 0, rfl, rfl, rfl, rfl, rfl⟩

/-- For clients with the same prefix, a filter that is stored matches a topic that is published
exactly if the client's filter matches the client's topic.  What is delivered has the topic that was
published, and a filter is cancelled as it was stored. -/
theorem tenant_transparent {p : Str} (hp : p ≠ []) (hplus : plus ∉ p) (hhash : hash ∉ p)
    {m₁ m₂ m₃ m₄ : TenantManager ρ} {a b : Str} (h₁ : m₁.getTopicPrefix a = p)
    (h₂ : m₂.getTopicPrefix b = p) (h₃ : m₃.getTopicPrefix b = p) (h₄ : m₄.getTopicPrefix b = p)
    {f t topic : Str} (hf : f.head? ≠ some dollar ∨ p.head? ≠ some dollar)
    (ht : t.head? ≠ some dollar) (hpub : PublishesAs rate resolver m₁ a t topic) :
    (∀ out, DeliversAs rate resolver m₂ b topic out ↔ out = t) ∧
      ∃ filter, (∀ out, SubscribesAs rate resolver m₃ b f out ↔ out = filter) ∧
        (∀ out, UnsubscribesAs rate resolver m₄ b f out ↔ out = filter) ∧
        (topicMatch filter topic = true ↔ topicMatch f t = true) := by
  have htopic : topic = addPrefix p t := h₁ ▸ hpub.eq_addPrefix
  have htopic' : topic = p ++ slash :: t := htopic.trans (if_pos ⟨hp, ht⟩)
  refine ⟨fun out => ?_, addPrefix p f, fun out => ?_, fun out => ?_, ?_⟩
  · rw [deliversAs_iff, h₂, htopic, stripPrefix_addPrefix hp ht]
    exact eq_comm
  · rw [subscribesAs_iff, h₃]
    exact eq_comm
  · rw [unsubscribesAs_iff, h₄]
    exact eq_comm
  · by_cases hdollar : f.head? = some dollar
    · -- the filter is stored as it is, and matches neither of the topics
      have hstored : addPrefix p f = f := if_neg fun h => h.2 hdollar
      have htopic₀ : topic.head? ≠ some dollar := by
        rw [htopic', List.head?_append_of_ne_nil p hp]
        exact hf.resolve_left fun h => h hdollar
      rw [hstored, topicMatch_of_dollar hdollar ht, topicMatch_of_dollar hdollar htopic₀]
    · have hstored : addPrefix p f = p ++ slash :: f := if_pos ⟨hp, hdollar⟩
      rw [hstored, htopic', topicMatch_prefixed hplus hhash ht]

/-- A prefix of two levels, and a filter that matches an empty level. -/
theorem tenant_transparent_nested :
    (∀ out, DeliversAs unlimited id nestedManager (str "q") (str "a/c//t") out ↔ out = str "/t") ∧
      ∃ filter, (∀ out, SubscribesAs unlimited id nestedManager (str "q") (str "+/#") out ↔
          out = filter) ∧
        (∀ out, UnsubscribesAs unlimited id nestedManager (str "q") (str "+/#") out ↔
          out = filter) ∧
        (topicMatch filter (str "a/c//t") = true ↔ topicMatch (str "+/#") (str "/t") = true) :=
  have hp : nestedManager.getTopicPrefix (str "q") = str "a/c" := rfl
  tenant_transparent unlimited id (by decide) (by decide) (by decide) hp hp hp hp
    (Or.inl (by decide)) (by decide) (publishesAs_unlimited nestedManager (str "q") (str "/t"))

end Dmqtt.Tenants
