/-
Users, their ACL rules, and what a granted subscription filter lets through
(`internal/auth/auth.go`).

`Authorize` compares a rule with a subscription filter as if the filter were a topic name.
For a filter without `#` this is sound: a rule that matches the filter matches every topic
the filter matches (`Matches.trans`).  A filter `p/#` stands for the filters `p/+/…/+` with any
number of `+`, and one rule that matches `p/#` need not match all of these.  Replacing every
`+` of such a filter by a level that occurs in no rule gives a topic that a rule matches only
if it matches the filter (`Matches.of_instantiate`), and a rule with fewer levels than what it
matches matches all extensions (`Matches.append`), so finitely many of these filters decide
which topics are covered.
-/
import Dmqtt.Broker.TopicMatcher
import Dmqtt.Lib.GoTypes

namespace Dmqtt

open Lib Broker

/-! ### Inclusion of filters -/

variable {rs fs ts : List Str} (w : Str)

/-- A rule that matches a filter without `#`, level by level, matches what the filter
matches. -/
lemma matchLevels_trans (hr : matchLevels rs fs = true) (hf : matchLevels fs ts = true)
    (hh : hashLevel ∉ fs) : matchLevels rs ts = true := by
  induction fs generalizing rs ts with
  | nil =>
    rw [(matchLevels_nil ts).1 hf]
    exact hr
  | cons f fs ih =>
    rw [List.mem_cons, not_or] at hh
    obtain ⟨t, ts, rfl, hft, hf⟩ := (matchLevels_cons_iff (Ne.symm hh.1) _ _).1 hf
    cases rs with
    | nil => simp at hr
    | cons r rs =>
      by_cases hrh : r = hashLevel
      · subst hrh
        exact matchLevels_hash _ _
      obtain ⟨_, _, heq, hrf, hr⟩ := (matchLevels_cons_iff hrh _ _).1 hr
      obtain ⟨rfl, rfl⟩ := List.cons.inj heq
      refine (matchLevels_cons_iff hrh _ _).2 ⟨t, ts, rfl, ?_, ih hr hf hh.2⟩
      rcases hrf with h | rfl
      · exact Or.inl h
      · exact hft

lemma Matches.trans (hr : Matches rs fs) (hf : Matches fs ts) (hh : hashLevel ∉ fs) (hne : fs ≠ [])
    : Matches rs ts := by
  refine ⟨?_, matchLevels_trans hr.2 hf.2 hh⟩
  rintro ⟨hdollar, hwild⟩
  obtain ⟨f, fs, rfl⟩ := List.exists_cons_of_ne_nil hne
  rw [List.mem_cons, not_or] at hh
  obtain ⟨t, ts, rfl, rfl | rfl, -⟩ := (matchLevels_cons_iff (Ne.symm hh.1) _ _).1 hf.2
  · exact hf.1 ⟨hdollar, Or.inl rfl⟩
  · exact hr.1 ⟨hdollar, hwild⟩

/-- A rule with fewer levels than what it matches ends its match in `#`. -/
lemma matchLevels_append (h : matchLevels rs ts = true) (hlen : rs.length < ts.length)
    (us : List Str) : matchLevels rs (ts ++ us) = true := by
  induction rs generalizing ts with
  | nil =>
    rw [(matchLevels_nil ts).1 h] at hlen
    simp at hlen
  | cons r rs ih =>
    by_cases hr : r = hashLevel
    · subst hr
      exact matchLevels_hash _ _
    obtain ⟨t, ts, rfl, hrt, h⟩ := (matchLevels_cons_iff hr _ _).1 h
    refine (matchLevels_cons_iff hr _ _).2 ⟨t, ts ++ us, rfl, hrt, ih h ?_⟩
    simpa using hlen

lemma Matches.append (h : Matches rs ts) (hlen : rs.length < ts.length) (us : List Str) :
    Matches rs (ts ++ us) := by
  refine ⟨?_, matchLevels_append h.2 hlen us⟩
  obtain ⟨t, ts, rfl⟩ := List.exists_cons_of_length_pos (Nat.zero_lt_of_lt hlen)
  exact h.1

/-- `#` at the end stands for any number of `+`, also for topics that start with `$`. -/
lemma matches_append_hash (hh : hashLevel ∉ fs) (hne : ts ≠ []) :
    Matches (fs ++ [hashLevel]) ts ↔
      ∃ k, Matches (fs ++ List.replicate k plusLevel) ts := by
  simp only [Matches, matchLevels_append_hash hh, ← exists_and_left]
  refine exists_congr fun k => and_congr_left fun hm => not_congr ?_
  cases fs with
  | cons f fs => rfl
  | nil =>
    cases k with
    | zero => exact absurd ((matchLevels_nil ts).1 hm) hne
    | succ k => exact and_congr_right fun _ => iff_of_true (Or.inr rfl) (Or.inl rfl)

/-! ### Instances of a filter -/

/-- The levels with `w` in the place of every `+`. -/
def instantiate (w : Str) (fs : List Str) : List Str :=
  fs.map fun f => if f = plusLevel then w else f

@[simp] lemma instantiate_cons (f : Str) (fs : List Str) :
    instantiate w (f :: fs) = (if f = plusLevel then w else f) :: instantiate w fs := rfl

lemma eq_of_instantiate_eq {w : Str} (hw : w ≠ []) (h : instantiate w fs = [[]]) : fs = [[]] := by
  obtain ⟨f, rfl, hf⟩ := List.map_eq_singleton_iff.1 h
  split_ifs at hf with hp
  · exact absurd hf hw
  · rw [hf]

lemma matchLevels_instantiate (fs : List Str) : matchLevels fs (instantiate w fs) = true := by
  induction fs with
  | nil => rfl
  | cons f fs ih =>
    by_cases hf : f = hashLevel
    · subst hf
      exact matchLevels_hash _ _
    refine (matchLevels_cons_iff hf _ _).2 ⟨_, _, instantiate_cons w f fs, ?_, ih⟩
    split_ifs with hp
    · exact Or.inl hp
    · exact Or.inr rfl

lemma matches_instantiate {w : Str} (hw : w.head? ≠ some dollar) (fs : List Str) :
    Matches fs (instantiate w fs) := by
  refine ⟨?_, matchLevels_instantiate w fs⟩
  rintro ⟨hdollar, hwild⟩
  cases fs with
  | nil => simp [instantiate, firstChar] at hdollar
  | cons f fs =>
    simp only [instantiate_cons, firstChar, List.head?_cons, Option.bind_some]
      at hdollar hwild
    split_ifs at hdollar with hp
    · exact hw hdollar
    · rw [hdollar] at hwild
      rcases hwild with h | h <;> exact absurd h (by decide)

/-- A rule without the level `w` cannot tell `w` from `+`. -/
lemma matchLevels_of_instantiate {w : Str} (hw : w ∉ rs)
    (h : matchLevels rs (instantiate w fs) = true) : matchLevels rs fs = true := by
  induction fs generalizing rs with
  | nil => exact h
  | cons f fs ih =>
    cases rs with
    | nil => simp [instantiate] at h
    | cons r rs =>
      rw [List.mem_cons, not_or] at hw
      by_cases hr : r = hashLevel
      · subst hr
        exact matchLevels_hash _ _
      rw [instantiate_cons] at h
      obtain ⟨_, _, heq, hrt, h⟩ := (matchLevels_cons_iff hr _ _).1 h
      obtain ⟨rfl, rfl⟩ := List.cons.inj heq
      refine (matchLevels_cons_iff hr _ _).2 ⟨f, fs, rfl, ?_, ih hw.2 h⟩
      split_ifs at hrt with hp
      · exact Or.inl (hrt.resolve_right (Ne.symm hw.1))
      · exact hrt

lemma Matches.of_instantiate {w : Str} (hw : w ∉ rs) (h : Matches rs (instantiate w fs)) :
    Matches rs fs := by
  refine ⟨?_, matchLevels_of_instantiate hw h.2⟩
  rintro ⟨hdollar, hwild⟩
  refine h.1 ⟨?_, hwild⟩
  cases fs with
  | nil => exact hdollar
  | cons f fs =>
    have hp : f ≠ plusLevel := by
      rintro rfl
      exact absurd (Option.some_injective _ hdollar) (by decide)
    simpa [firstChar, hp] using hdollar

namespace Auth

/-- The value of `ACLRule.Access`; `LoadCredentials` accepts no other. -/
inductive Access
  | publish
  | subscribe
deriving DecidableEq, Repr

/-- An access control rule. -/
structure ACLRule where
  topic : Str
  access : Access
deriving DecidableEq

/-- A user with credentials and ACL rules. -/
structure User where
  username : Str
  passwordHash : Str
  tenantID : Str
  acl : List ACLRule

/-- The users of the credentials file, by name. -/
structure CredentialStore where
  users : GoMap Str User

/-- The private copy of `TopicMatch` of the package `auth`. -/
def topicMatch (filter topic : Str) : Bool := matchTopic filter topic

/-- Whether some rule of the user allows the action on the topic; the default is to deny. -/
def CredentialStore.authorize (cs : CredentialStore) (username topic : Str) (action : Access) :
    Bool :=
  match cs.users.lookup username with
  | none => false
  | some user => user.acl.any fun rule => rule.access = action && topicMatch rule.topic topic

/-- The rules of a user; an unknown user has none. -/
def CredentialStore.rules (cs : CredentialStore) (username : Str) : List ACLRule :=
  ((cs.users.lookup username).map User.acl).getD []

/-- Some rule of the user with the given access matches the topic. -/
def CredentialStore.Covers (cs : CredentialStore) (username : Str) (action : Access)
    (topic : Str) : Prop :=
  ∃ rule ∈ cs.rules username, rule.access = action ∧ topicMatch rule.topic topic = true

lemma CredentialStore.authorize_iff (cs : CredentialStore) (username topic : Str)
    (action : Access) : cs.authorize username topic action = true ↔
      cs.Covers username action topic := by
  simp only [authorize, Covers, rules]
  cases cs.users.lookup username <;> simp

/-! ### What a granted filter lets through -/

/-- The levels of the filter with `k` levels `+` in the place of the last one. -/
def expandLevels (filter : Str) (k : ℕ) : List Str :=
  (levels filter).dropLast ++ List.replicate k plusLevel

/-- The filter with its last level replaced by `k` levels `+`. -/
def expand (filter : Str) (k : ℕ) : Str := joinLevels (expandLevels filter k)

/-- The largest number of levels of a rule. -/
def longestRule (rules : List ACLRule) : ℕ :=
  (rules.map fun rule => (levels rule.topic).length).foldr max 0

/-- A level that is longer than every rule. -/
def freshLevel (rules : List ACLRule) : Str :=
  List.replicate ((rules.map fun rule => rule.topic.length).foldr max 0 + 1) 0x78

lemma le_foldr_max {n : ℕ} {ns : List ℕ} (h : n ∈ ns) : n ≤ ns.foldr max 0 := by
  induction ns with
  | nil => simp at h
  | cons m ns ih =>
    rcases List.mem_cons.1 h with rfl | h
    · exact le_max_left _ _
    · exact (ih h).trans (le_max_right _ _)

lemma length_levels_le_longestRule {rules : List ACLRule} {rule : ACLRule} (h : rule ∈ rules) :
    (levels rule.topic).length ≤ longestRule rules :=
  le_foldr_max (List.mem_map.2 ⟨rule, h, rfl⟩)

lemma freshLevel_notMem {rules : List ACLRule} {rule : ACLRule} (h : rule ∈ rules) :
    freshLevel rules ∉ levels rule.topic := by
  intro hmem
  have hlen := length_le_of_mem_levels hmem
  have hle : rule.topic.length ≤ (rules.map fun rule => rule.topic.length).foldr max 0 :=
    le_foldr_max (List.mem_map.2 ⟨rule, h, rfl⟩)
  rw [freshLevel, List.length_replicate] at hlen
  omega

lemma freshLevel_head (rules : List ACLRule) : (freshLevel rules).head? = some 0x78 := by
  rw [freshLevel, List.replicate_succ]
  rfl

lemma notMem_freshLevel (rules : List ACLRule) {c : UInt8} (hc : c ≠ 0x78) :
    c ∉ freshLevel rules := fun h => hc (List.eq_of_mem_replicate h)

section Expand

variable {filter : Str} {k : ℕ}

lemma slash_notMem_expandLevels {l : Str} (h : l ∈ expandLevels filter k) : slash ∉ l := by
  rcases List.mem_append.1 h with h | h
  · exact slash_notMem_levels (List.mem_of_mem_dropLast h)
  · rw [List.eq_of_mem_replicate h]
    decide

lemma levels_expand (h : expand filter k ≠ []) :
    levels (expand filter k) = expandLevels filter k := by
  refine levels_joinLevels ?_ fun l hl => slash_notMem_expandLevels hl
  intro hnil
  rw [expand, hnil] at h
  exact h rfl

lemma expand_succ_ne_nil : expand filter (k + 1) ≠ [] := by
  intro h
  have hmem : plusLevel ∈ expandLevels filter (k + 1) := by simp [expandLevels]
  rcases eq_of_joinLevels_eq_nil (fun l hl => slash_notMem_expandLevels hl) h with h | h <;>
    rw [h] at hmem <;> exact absurd hmem (by decide)

lemma expand_ne_nil_of_matches {topic : Str} (ht : topic ≠ [])
    (h : Matches (expandLevels filter k) (levels topic)) : expand filter k ≠ [] := by
  intro hnil
  have hm := h.2
  rcases eq_of_joinLevels_eq_nil (fun l hl => slash_notMem_expandLevels hl) hnil with hls | hls
  · rw [hls, matchLevels_nil] at hm
    exact levels_ne_nil topic hm
  · rw [hls, matchLevels_cons_iff (by decide)] at hm
    obtain ⟨t, ts, hts, hl, hm⟩ := hm
    rw [matchLevels_nil] at hm
    subst hm
    have : t = [] := (hl.resolve_left (by decide)).symm
    refine ht ?_
    rw [← joinLevels_levels topic, hts, this]
    rfl

end Expand

/-! ### The topic that tells an expansion from the rules -/

/-- The levels of the expansion with a fresh level for every `+`. -/
def freshLevels (rules : List ACLRule) (filter : Str) (k : ℕ) : List Str :=
  instantiate (freshLevel rules) (expandLevels filter k)

section Fresh

variable (rules : List ACLRule) {filter : Str} {p : List Str} {k : ℕ}

/-- A level of the topic is the fresh level or a level of the filter without wildcards. -/
lemma mem_freshLevels (hp : levels filter = p ++ [hashLevel]) (hvalid : ∀ l ∈ p, LevelValid l)
    {l : Str} (hl : l ∈ freshLevels rules filter k) :
    l = freshLevel rules ∨ (l ∈ levels filter ∧ plus ∉ l ∧ hash ∉ l) := by
  obtain ⟨f, hf, rfl⟩ := List.mem_map.1 hl
  split_ifs with hplus
  · exact Or.inl rfl
  · rw [expandLevels, hp, List.dropLast_concat, List.mem_append] at hf
    have hmem := hf.resolve_right fun hf => hplus (List.eq_of_mem_replicate hf)
    refine Or.inr ⟨?_, fun hc => hplus ((hvalid f hmem).2 hc), (hvalid f hmem).1⟩
    rw [hp]
    exact List.mem_append_left _ hmem

lemma levels_joinLevels_freshLevels (hp : levels filter = p ++ [hashLevel])
    (hvalid : ∀ l ∈ p, LevelValid l) (hne : expand filter k ≠ []) :
    levels (joinLevels (freshLevels rules filter k)) = freshLevels rules filter k := by
  refine levels_joinLevels ?_ ?_
  · intro hnil
    rw [expand, List.map_eq_nil_iff.1 hnil] at hne
    exact hne rfl
  · intro l hl
    rcases mem_freshLevels rules hp hvalid hl with rfl | ⟨hl, -⟩
    · exact notMem_freshLevel _ (by decide)
    · exact slash_notMem_levels hl

lemma topicValid_freshLevels (hp : levels filter = p ++ [hashLevel])
    (hvalid : ∀ l ∈ p, LevelValid l) (hne : expand filter k ≠ []) :
    topicValid (joinLevels (freshLevels rules filter k)) = true := by
  have hlevels := levels_joinLevels_freshLevels rules hp hvalid hne
  have hfree : ∀ c, c ≠ slash → c ≠ 0x78 → (∀ l ∈ levels filter, plus ∉ l → hash ∉ l → c ∉ l) →
      c ∉ joinLevels (freshLevels rules filter k) := by
    intro c hslash hx hc hmem
    obtain ⟨l, hl, hcl⟩ := (mem_levels_iff _ c).2 ⟨hmem, hslash⟩
    rw [hlevels] at hl
    rcases mem_freshLevels rules hp hvalid hl with rfl | ⟨hl, hplus, hhash⟩
    · exact notMem_freshLevel rules hx hcl
    · exact hc l hl hplus hhash hcl
  refine (topicValid_iff _).2 ⟨?_, hfree plus (by decide) (by decide) fun l _ h _ => h,
    hfree hash (by decide) (by decide) fun l _ _ h => h⟩
  -- an empty topic has one empty level, and so would the expansion
  intro hnil
  rw [hnil] at hlevels
  have hw : freshLevel rules ≠ [] := by simp [freshLevel]
  exact hne (by rw [expand, eq_of_instantiate_eq hw hlevels.symm]; rfl)

end Fresh

section Soundness

variable {cs : CredentialStore} {username filter : Str} {action : Access}

lemma CredentialStore.covers_iff (topic : Str) :
    cs.Covers username action topic ↔ ∃ rule ∈ cs.rules username, rule.access = action ∧
      Matches (levels rule.topic) (levels topic) := by
  simp only [Covers, topicMatch, matchTopic_iff]

/-- A rule that matches a filter without `#` matches what the filter matches. -/
lemma CredentialStore.Covers.of_matches {topic topic' : Str}
    (h : cs.Covers username action topic) (hm : Matches (levels topic) (levels topic'))
    (hh : hashLevel ∉ levels topic) : cs.Covers username action topic' := by
  obtain ⟨rule, hmem, hacc, hr⟩ := (covers_iff _).1 h
  exact (covers_iff _).2 ⟨rule, hmem, hacc, hr.trans hm hh (levels_ne_nil _)⟩

/-- Expansions beyond the length of the rules are covered with the first one. -/
lemma CredentialStore.covers_expand
    (h : ∀ k ≤ longestRule (cs.rules username) + 1, expand filter k ≠ [] →
      cs.Covers username action (expand filter k)) (k : ℕ) (hne : expand filter k ≠ []) :
    cs.Covers username action (expand filter k) := by
  rcases le_or_gt k (longestRule (cs.rules username) + 1) with hk | hk
  · exact h k hk hne
  set n := longestRule (cs.rules username) with hn
  -- a rule that covers more levels than it has itself ends in `#`
  obtain ⟨rule, hmem, hacc, hr⟩ := (covers_iff _).1 (h (n + 1) le_rfl expand_succ_ne_nil)
  refine (covers_iff _).2 ⟨rule, hmem, hacc, ?_⟩
  rw [levels_expand expand_succ_ne_nil] at hr
  have hlen : (levels rule.topic).length < (expandLevels filter (n + 1)).length := by
    have := length_levels_le_longestRule hmem
    simp only [expandLevels, List.length_append, List.length_replicate]
    omega
  have hsplit : expandLevels filter k =
      expandLevels filter (n + 1) ++ List.replicate (k - (n + 1)) plusLevel := by
    rw [expandLevels, expandLevels, List.append_assoc, ← List.replicate_add,
      Nat.add_sub_cancel' hk.le]
  rw [levels_expand hne, hsplit]
  exact hr.append hlen _

/-- If every topic that the filter matches is covered, then so is every expansion: the rule
for the topic with a fresh level for `+` matches the expansion. -/
lemma CredentialStore.covers_expand_of_sound {p : List Str}
    (hp : levels filter = p ++ [hashLevel]) (hvalid : ∀ l ∈ p, LevelValid l)
    (h : ∀ topic, topicValid topic = true → Broker.topicMatch filter topic = true →
      cs.Covers username action topic) (k : ℕ) (hne : expand filter k ≠ []) :
    cs.Covers username action (expand filter k) := by
  have hlevels := levels_joinLevels_freshLevels (cs.rules username) hp hvalid hne
  have hhash : hashLevel ∉ p := fun hmem => (hvalid _ hmem).ne_hashLevel rfl
  have hmatch : Matches (expandLevels filter k) (freshLevels (cs.rules username) filter k) :=
    matches_instantiate (by rw [freshLevel_head]; decide) _
  have hfilter : Broker.topicMatch filter (joinLevels (freshLevels (cs.rules username) filter k))
      = true := by
    rw [Broker.topicMatch, matchTopic_iff, hp, matches_append_hash hhash (levels_ne_nil _), hlevels]
    refine ⟨k, ?_⟩
    rwa [expandLevels, hp, List.dropLast_concat] at hmatch
  -- no rule has the fresh level, so what matches it in a rule is a wildcard
  obtain ⟨rule, hmem, hacc, hr⟩ :=
    (covers_iff _).1 (h _ (topicValid_freshLevels _ hp hvalid hne) hfilter)
  refine (covers_iff _).2 ⟨rule, hmem, hacc, ?_⟩
  rw [hlevels] at hr
  rw [levels_expand hne]
  exact hr.of_instantiate (freshLevel_notMem hmem)

/-- A granted filter lets only topics through that a rule of the user covers exactly if the
filter has no `#`, or each filter with some `+` levels in the place of its `#` is matched by a
rule, up to one level more than the rules have. -/
theorem authorize_subscribe_sound_iff (cs : CredentialStore) (username filter : Str)
    (hvalid : topicFilterValid filter = true)
    (hauth : cs.authorize username filter .subscribe = true) :
    (∀ topic, topicValid topic = true → Broker.topicMatch filter topic = true →
      ∃ rule ∈ cs.rules username, rule.access = .subscribe ∧ topicMatch rule.topic topic = true) ↔
    (hashLevel ∉ levels filter ∨
      ∀ k ≤ longestRule (cs.rules username) + 1, expand filter k ≠ [] →
        ∃ rule ∈ cs.rules username, rule.access = .subscribe ∧
          topicMatch rule.topic (expand filter k) = true) := by
  rw [CredentialStore.authorize_iff] at hauth
  obtain ⟨p, hp | hp, hlevels⟩ := topicFilterValid_spec hvalid
  · -- without `#` the rule that grants the filter covers its topics
    have hhash : hashLevel ∉ levels filter := fun hmem =>
      (hlevels _ (hp ▸ hmem)).ne_hashLevel rfl
    refine iff_of_true (fun topic _ hm => ?_) (Or.inl hhash)
    exact hauth.of_matches ((matchTopic_iff _ _).1 hm) hhash
  have hhash : hashLevel ∉ p := fun hmem => (hlevels _ hmem).ne_hashLevel rfl
  constructor
  · intro h
    exact Or.inr fun k _ hne => CredentialStore.covers_expand_of_sound hp hlevels h k hne
  · rintro (h | h) topic htopic hm
    · exact absurd (hp ▸ List.mem_append_right _ List.mem_cons_self) h
    -- the topic has some number of levels in the place of `#`
    rw [Broker.topicMatch, matchTopic_iff, hp,
      matches_append_hash hhash (levels_ne_nil _)] at hm
    obtain ⟨k, hk⟩ := hm
    have hls : expandLevels filter k = p ++ List.replicate k plusLevel := by
      rw [expandLevels, hp, List.dropLast_concat]
    rw [← hls] at hk
    have hne := expand_ne_nil_of_matches ((topicValid_iff _).1 htopic).1 hk
    refine (CredentialStore.covers_expand h k hne).of_matches ?_ ?_
    · rwa [levels_expand hne]
    · rw [levels_expand hne, hls, List.mem_append, not_or]
      exact ⟨hhash, fun hmem => absurd (List.eq_of_mem_replicate hmem) (by decide)⟩

/-- A user who may subscribe to the levels below `a`, and to `a` itself. -/
def sampleStore : CredentialStore where
  users := (∅ : GoMap Str User).insert (str "u")
    { username := str "u", passwordHash := str "h", tenantID := [],
      acl := [⟨str "a", .subscribe⟩, ⟨str "a/+/#", .subscribe⟩] }

theorem authorize_subscribe_sound_iff_sample :
    topicFilterValid (str "a/#") = true ∧
    sampleStore.authorize (str "u") (str "a/#") .subscribe = true ∧
    ∀ topic, topicValid topic = true → Broker.topicMatch (str "a/#") topic = true →
      ∃ rule ∈ sampleStore.rules (str "u"), rule.access = .subscribe ∧
        topicMatch rule.topic topic = true :=
  ⟨by decide, by decide,
    (authorize_subscribe_sound_iff sampleStore (str "u") (str "a/#") (by decide) (by decide)).2
      (Or.inr (by decide))⟩

/-- A user who may subscribe to the topics of one level. -/
def oneLevelStore : CredentialStore where
  users := (∅ : GoMap Str User).insert (str "u")
    { username := str "u", passwordHash := str "h", tenantID := [],
      acl := [⟨str "+", .subscribe⟩] }

/-- The rule `+` grants the filter `#`, which lets the topic `a/b` through. -/
theorem authorize_subscribe_unsound :
    topicFilterValid (str "#") = true ∧
    oneLevelStore.authorize (str "u") (str "#") .subscribe = true ∧
    topicValid (str "a/b") = true ∧ Broker.topicMatch (str "#") (str "a/b") = true ∧
    ¬ ∃ rule ∈ oneLevelStore.rules (str "u"), rule.access = .subscribe ∧
      topicMatch rule.topic (str "a/b") = true := by
  decide

end Soundness

end Auth

end Dmqtt
