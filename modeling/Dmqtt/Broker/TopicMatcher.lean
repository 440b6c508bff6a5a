/-
Topic names, topic filters and their matching (`internal/broker/topic_matcher.go`).

The package `auth` has a private copy of the matcher; both are `matchTopic` here.  All
reasoning about matching is done on the levels of the strings: `matchTopic_iff` translates
the test on the first character of the two strings into a test on their first levels.
-/
import Dmqtt.Codec.Packets

namespace Dmqtt

/-- The level separator `/`. -/
def slash : UInt8 := 0x2F
/-- The single-level wildcard `+`. -/
def plus : UInt8 := 0x2B
/-- The multi-level wildcard `#`. -/
def hash : UInt8 := 0x23
/-- The first character `$` of system topics. -/
def dollar : UInt8 := 0x24

/-- `strings.Split(s, "/")`. -/
def levels (s : Str) : List Str := s.splitOn slash

/-- The level that is the wildcard `+`. -/
def plusLevel : Str := [plus]
/-- The level that is the wildcard `#`. -/
def hashLevel : Str := [hash]

/-- The loop over the levels of filter and topic in step.  When the levels of the filter are
used up, the two have the same number of levels exactly if those of the topic are used up
too. -/
def matchLevels : List Str → List Str → Bool
  | [], topicParts => topicParts.isEmpty
  | f :: filterParts, topicParts =>
    if f = hashLevel then true
    else
      match topicParts with
      | [] => false
      | t :: topicParts =>
        if f = plusLevel then matchLevels filterParts topicParts
        else if f ≠ t then false
        else matchLevels filterParts topicParts

/-- The body of `TopicMatch` and of its copy `topicMatch` in the package `auth`. -/
def matchTopic (filter topic : Str) : Bool :=
  if topic.head? = some dollar ∧ (filter.head? = some plus ∨ filter.head? = some hash) then false
  else matchLevels (levels filter) (levels topic)

namespace Broker

/-- Whether a topic name matches a subscription filter. -/
def topicMatch (filter topic : Str) : Bool := matchTopic filter topic

/-- Whether a topic name is valid for PUBLISH. -/
def topicValid (topic : Str) : Bool :=
  if topic = [] then false else !topic.contains plus && !topic.contains hash

/-- The loop of `TopicFilterValid` over the parts from index `i` on; `n` is their number. -/
def filterPartsValid (n : ℕ) : ℕ → List Str → Bool
  | _, [] => true
  | i, part :: parts =>
    if part.contains hash ∧ (part ≠ hashLevel ∨ i ≠ n - 1) then false
    else if part.contains plus ∧ part ≠ plusLevel then false
    else filterPartsValid n (i + 1) parts

/-- Whether a subscription filter is syntactically valid. -/
def topicFilterValid (filter : Str) : Bool :=
  if filter = [] then false
  else filterPartsValid (levels filter).length 0 (levels filter)

end Broker

/-! ### Strings and their levels -/

/-- The string with the given levels. -/
def joinLevels (ls : List Str) : Str := [slash].intercalate ls

variable {f : Str} (t s : Str) (c : UInt8) (fs ts : List Str)

@[simp] lemma joinLevels_levels : joinLevels (levels s) = s :=
  List.intercalate_splitOn slash

lemma levels_joinLevels {ls : List Str} (hne : ls ≠ []) (h : ∀ l ∈ ls, slash ∉ l) :
    levels (joinLevels ls) = ls :=
  List.splitOn_intercalate slash h hne

lemma levels_ne_nil : levels s ≠ [] := List.splitOn_ne_nil slash s

lemma levels_cons (s : Str) :
    levels (c :: s) =
      if c = slash then [] :: levels s else (levels s).modifyHead (List.cons c) := by
  rw [levels, List.splitOn_cons_eq_if_modifyHead]
  simp [levels]

lemma eq_of_joinLevels_eq_nil {ls : List Str} (h : ∀ l ∈ ls, slash ∉ l)
    (hnil : joinLevels ls = []) : ls = [] ∨ ls = [[]] := by
  rcases eq_or_ne ls [] with hls | hls
  · exact Or.inl hls
  · refine Or.inr ?_
    rw [← levels_joinLevels hls h, hnil]
    rfl

lemma mem_levels_iff : (∃ l ∈ levels s, c ∈ l) ↔ c ∈ s ∧ c ≠ slash := by
  induction s with
  | nil => simp [levels]
  | cons d s ih =>
    rw [levels_cons]
    obtain ⟨l, ls, hls⟩ := List.exists_cons_of_ne_nil (levels_ne_nil s)
    rw [hls] at ih ⊢
    by_cases hd : d = slash
    · subst hd
      simp only [if_true, List.mem_cons, exists_eq_or_imp, List.not_mem_nil, false_or] at ih ⊢
      rw [ih]
      constructor
      · rintro ⟨h, hc⟩
        exact ⟨Or.inr h, hc⟩
      · rintro ⟨rfl | h, hc⟩
        · exact absurd rfl hc
        · exact ⟨h, hc⟩
    · simp only [hd, if_false, List.modifyHead_cons, List.mem_cons, exists_eq_or_imp] at ih ⊢
      rw [or_assoc, ih]
      constructor
      · rintro (rfl | ⟨h, hc⟩)
        · exact ⟨Or.inl rfl, hd⟩
        · exact ⟨Or.inr h, hc⟩
      · rintro ⟨rfl | h, hc⟩
        · exact Or.inl rfl
        · exact Or.inr ⟨h, hc⟩

lemma slash_notMem_levels {s l : Str} (h : l ∈ levels s) : slash ∉ l := fun hc =>
  ((mem_levels_iff s slash).1 ⟨l, h, hc⟩).2 rfl

lemma length_le_of_mem_levels {s l : Str} (h : l ∈ levels s) : l.length ≤ s.length := by
  induction s generalizing l with
  | nil =>
    have : l = [] := by simpa [levels] using h
    simp [this]
  | cons c s ih =>
    rw [levels_cons] at h
    obtain ⟨l₀, ls, hls⟩ := List.exists_cons_of_ne_nil (levels_ne_nil s)
    rw [hls] at h ih
    split_ifs at h with hc
    · rcases List.mem_cons.1 h with rfl | h
      · simp
      · exact (ih h).trans (Nat.le_succ _)
    · rw [List.modifyHead_cons] at h
      rcases List.mem_cons.1 h with rfl | h
      · exact Nat.succ_le_succ (ih List.mem_cons_self)
      · exact (ih (List.mem_cons_of_mem _ h)).trans (Nat.le_succ _)

/-- The first character of the first level of a list of levels. -/
def firstChar (ls : List Str) : Option UInt8 := ls.head?.bind List.head?

lemma firstChar_levels {c : UInt8} (hc : c ≠ slash) :
    firstChar (levels s) = some c ↔ s.head? = some c := by
  cases s with
  | nil => simp [levels, firstChar]
  | cons d s =>
    rw [levels_cons]
    obtain ⟨l, ls, hls⟩ := List.exists_cons_of_ne_nil (levels_ne_nil s)
    by_cases hd : d = slash
    · subst hd
      simpa [firstChar] using hc.symm
    · simp [hd, hls, firstChar]

/-- The test on the first characters, on levels: a wildcard at the beginning of the filter
does not match a topic that starts with `$`. -/
def Hidden (filterParts topicParts : List Str) : Prop :=
  firstChar topicParts = some dollar ∧
    (firstChar filterParts = some plus ∨ firstChar filterParts = some hash)

/-- Matching, on levels. -/
def Matches (filterParts topicParts : List Str) : Prop :=
  ¬ Hidden filterParts topicParts ∧ matchLevels filterParts topicParts = true

lemma matchTopic_iff (filter topic : Str) :
    matchTopic filter topic = true ↔ Matches (levels filter) (levels topic) := by
  have h₁ := firstChar_levels topic (show dollar ≠ slash by decide)
  have h₂ := firstChar_levels filter (show plus ≠ slash by decide)
  have h₃ := firstChar_levels filter (show hash ≠ slash by decide)
  simp only [matchTopic, Matches, Hidden, h₁, h₂, h₃]
  split_ifs with h <;> simp [h]

/-! ### One level of a filter at a time -/

@[simp] lemma matchLevels_nil : matchLevels [] ts = true ↔ ts = [] := by
  simp [matchLevels]

@[simp] lemma matchLevels_hash : matchLevels (hashLevel :: fs) ts = true := by
  simp [matchLevels]

lemma matchLevels_cons_nil (hf : f ≠ hashLevel) (fs : List Str) :
    matchLevels (f :: fs) [] = false := by
  simp [matchLevels, hf]

@[simp] lemma matchLevels_plus : matchLevels (plusLevel :: fs) (t :: ts) = matchLevels fs ts := by
  have h : plusLevel ≠ hashLevel := by decide
  simp [matchLevels, h]

lemma matchLevels_cons (hf : f ≠ hashLevel) (hf' : f ≠ plusLevel) (t : Str) (fs ts : List Str) :
    matchLevels (f :: fs) (t :: ts) = true ↔ f = t ∧ matchLevels fs ts = true := by
  by_cases h : f = t
  · simp [matchLevels, hf, hf']
  · simp [matchLevels, hf, hf', h]

/-- What one level of a filter that is not `#` does. -/
lemma matchLevels_cons_iff (hf : f ≠ hashLevel) (fs ts : List Str) :
    matchLevels (f :: fs) ts = true ↔
      ∃ t ts', ts = t :: ts' ∧ (f = plusLevel ∨ f = t) ∧ matchLevels fs ts' = true := by
  cases ts with
  | nil => simp [matchLevels_cons_nil hf]
  | cons t ts =>
    by_cases hp : f = plusLevel
    · subst hp
      simp
    · rw [matchLevels_cons hf hp]
      simp [hp]

/-- `#` at the end stands for any number of `+`. -/
lemma matchLevels_append_hash {fs : List Str} (hh : hashLevel ∉ fs) (ts : List Str) :
    matchLevels (fs ++ [hashLevel]) ts = true ↔
      ∃ k, matchLevels (fs ++ List.replicate k plusLevel) ts = true := by
  induction fs generalizing ts with
  | nil =>
    simp only [List.nil_append, matchLevels_hash, true_iff]
    refine ⟨ts.length, ?_⟩
    induction ts with
    | nil => rfl
    | cons t ts ih => rwa [List.length_cons, List.replicate_succ, matchLevels_plus]
  | cons f fs ih =>
    rw [List.mem_cons, not_or] at hh
    simp only [List.cons_append, matchLevels_cons_iff (Ne.symm hh.1), ih hh.2]
    constructor
    · rintro ⟨t, ts', hts, hf, k, hk⟩
      exact ⟨k, t, ts', hts, hf, hk⟩
    · rintro ⟨k, t, ts', hts, hf, hk⟩
      exact ⟨t, ts', hts, hf, k, hk⟩

/-! ### Valid filters -/

namespace Broker

/-- A level of a valid filter before the last: `+`, or free of wildcards. -/
def LevelValid (l : Str) : Prop := hash ∉ l ∧ (plus ∈ l → l = plusLevel)

lemma filterPartsValid_spec {n i : ℕ} {parts : List Str} (h : filterPartsValid n i parts = true)
    (hn : i + parts.length = n) :
    ∃ p, (parts = p ∨ parts = p ++ [hashLevel]) ∧ ∀ l ∈ p, LevelValid l := by
  induction parts generalizing i with
  | nil => exact ⟨[], Or.inl rfl, by simp⟩
  | cons part parts ih =>
    rw [filterPartsValid] at h
    split_ifs at h with hhash hplus
    rw [List.length_cons] at hn
    obtain ⟨p, hp, hval⟩ := ih h (by omega)
    by_cases hc : hash ∈ part
    · -- only the last part may contain `#`
      have hlast : part = hashLevel ∧ i = n - 1 := by
        constructor <;> by_contra hne <;> exact hhash ⟨by simpa using hc, by tauto⟩
      have hnil : parts = [] := List.length_eq_zero_iff.1 (by omega)
      exact ⟨[], Or.inr (by simp [hlast.1, hnil]), by simp⟩
    · have hpart : LevelValid part := by
        refine ⟨hc, fun hp => ?_⟩
        by_contra hne
        exact hplus ⟨by simpa using hp, hne⟩
      refine ⟨part :: p, ?_, ?_⟩
      · rcases hp with rfl | rfl
        · exact Or.inl rfl
        · exact Or.inr rfl
      · intro l hl
        rcases List.mem_cons.1 hl with rfl | hl
        · exact hpart
        · exact hval l hl

/-- The levels of a valid filter are valid, but for a `#` at the end. -/
lemma topicFilterValid_spec {filter : Str} (h : topicFilterValid filter = true) :
    ∃ p, (levels filter = p ∨ levels filter = p ++ [hashLevel]) ∧ ∀ l ∈ p, LevelValid l := by
  rw [topicFilterValid] at h
  split_ifs at h
  exact filterPartsValid_spec h (Nat.zero_add _)

lemma LevelValid.ne_hashLevel {l : Str} (h : LevelValid l) : l ≠ hashLevel := by
  rintro rfl
  exact h.1 (by decide)

lemma topicValid_iff (topic : Str) :
    topicValid topic = true ↔ topic ≠ [] ∧ plus ∉ topic ∧ hash ∉ topic := by
  simp [topicValid]

end Broker

end Dmqtt
