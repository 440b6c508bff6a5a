/-
The MQTT rules for matching, and the copies of the matcher.

`LevelsMatch` states the rules on the levels of a filter and of a topic.  The matcher stands in
four packages, with the same text: in `broker` and in `auth`, and in `cluster`
(`internal/cluster/remote_subs.go`) and `rule` (`internal/rule/engine.go`), where the loop is
modelled here with its index.  `topicMatch_iff` relates them all.
-/
import Dmqtt.Auth

namespace Dmqtt

open Broker

/-! ### The rules -/

/-- The levels of a topic match those of a filter. -/
inductive LevelsMatch : List Str → List Str → Prop
  | nil : LevelsMatch [] []
  | literal {l : Str} {fs ts : List Str} (hplus : l ≠ plusLevel) (hhash : l ≠ hashLevel)
      (h : LevelsMatch fs ts) : LevelsMatch (l :: fs) (l :: ts)
  | plus (t : Str) {fs ts : List Str} (h : LevelsMatch fs ts) :
      LevelsMatch (plusLevel :: fs) (t :: ts)
  | hash (ts : List Str) : LevelsMatch [hashLevel] ts

/-- The topic starts with `$` and the filter with a wildcard. -/
def WildcardOnSystemTopic (filter topic : Str) : Prop :=
  topic.head? = some dollar ∧ (filter.head? = some plus ∨ filter.head? = some hash)

lemma LevelsMatch.matchLevels {fs ts : List Str} (h : LevelsMatch fs ts) :
    matchLevels fs ts = true := by
  induction h with
  | nil => rfl
  | literal hplus hhash h ih => exact (matchLevels_cons hhash hplus _ _ _).2 ⟨rfl, ih⟩
  | plus t h ih => rwa [matchLevels_plus]
  | hash ts => exact matchLevels_hash [] ts

/-- The loop finds a match by the rules if the filter has no `#` before its end. -/
lemma levelsMatch_of_matchLevels {p ts : List Str} (hvalid : ∀ l ∈ p, LevelValid l)
    {fs : List Str} (hfs : fs = p ∨ fs = p ++ [hashLevel]) (h : matchLevels fs ts = true) :
    LevelsMatch fs ts := by
  induction p generalizing fs ts with
  | nil =>
    rcases hfs with rfl | rfl
    · rw [(matchLevels_nil ts).1 h]
      exact .nil
    · exact .hash ts
  | cons f p ih =>
    obtain ⟨fs', rfl, hfs'⟩ : ∃ fs', fs = f :: fs' ∧ (fs' = p ∨ fs' = p ++ [hashLevel]) := by
      rcases hfs with rfl | rfl
      · exact ⟨p, rfl, Or.inl rfl⟩
      · exact ⟨p ++ [hashLevel], rfl, Or.inr rfl⟩
    have hhash : f ≠ hashLevel := (hvalid f List.mem_cons_self).ne_hashLevel
    obtain ⟨t, ts', rfl, hft, hrest⟩ := (matchLevels_cons_iff hhash fs' ts).1 h
    have hmatch : LevelsMatch fs' ts' :=
      ih (fun l hl => hvalid l (List.mem_cons_of_mem _ hl)) hfs' hrest
    by_cases hplus : f = plusLevel
    · subst hplus
      exact .plus t hmatch
    · obtain rfl : f = t := hft.resolve_left hplus
      exact .literal hplus hhash hmatch

lemma levelsMatch_iff {filter : Str} (hvalid : topicFilterValid filter = true) (ts : List Str) :
    LevelsMatch (levels filter) ts ↔ matchLevels (levels filter) ts = true := by
  obtain ⟨p, hp, hlevels⟩ := topicFilterValid_spec hvalid
  exact ⟨LevelsMatch.matchLevels, levelsMatch_of_matchLevels hlevels hp⟩

/-! ### The copies in `cluster` and `rule` -/

/-- The loop of the matcher from the index `i` on. -/
def matchFrom (filterParts topicParts : List Str) (i : ℕ) : Bool :=
  if _ : i < filterParts.length then
    if filterParts[i] = hashLevel then true
    else if _ : i ≥ topicParts.length then false
    else if filterParts[i] = plusLevel then matchFrom filterParts topicParts (i + 1)
    else if filterParts[i] ≠ topicParts[i] then false
    else matchFrom filterParts topicParts (i + 1)
  else filterParts.length = topicParts.length
termination_by filterParts.length - i

/-- The body of the copies. -/
def matchIndexed (filter topic : Str) : Bool :=
  if topic.head? = some dollar ∧ (filter.head? = some plus ∨ filter.head? = some hash) then false
  else matchFrom (levels filter) (levels topic) 0

/-- The private copy of `TopicMatch` of the package `cluster`. -/
def RemoteSubs.topicMatch (filter topic : Str) : Bool := matchIndexed filter topic

/-- The private copy of `TopicMatch` of the package `rule`. -/
def Rule.topicMatch (filter topic : Str) : Bool := matchIndexed filter topic

/-- The loop compares what is left of the two lists.  It gets to an index only if both lists
reach that far. -/
lemma matchFrom_eq {fs ts : List Str} {i : ℕ} (hfs : i ≤ fs.length) (hts : i ≤ ts.length) :
    matchFrom fs ts i = matchLevels (fs.drop i) (ts.drop i) := by
  fun_induction matchFrom fs ts i with
  | case1 i hi hhash =>
    rw [List.drop_eq_getElem_cons hi, hhash]
    exact (matchLevels_hash _ _).symm
  | case2 i hi hhash hend =>
    rw [List.drop_eq_getElem_cons hi, List.drop_eq_nil_of_le hend, matchLevels_cons_nil hhash]
  | case3 i hi hhash hend hplus ih =>
    rw [ih hi (by omega), List.drop_eq_getElem_cons hi,
      List.drop_eq_getElem_cons (show i < ts.length by omega), hplus, matchLevels_plus]
  | case4 i hi hhash hend hplus hne =>
    rw [List.drop_eq_getElem_cons hi,
      List.drop_eq_getElem_cons (show i < ts.length by omega), eq_comm, Bool.eq_false_iff]
    intro h
    exact hne ((matchLevels_cons hhash hplus _ _ _).1 h).1
  | case5 i hi hhash hend hplus heq ih =>
    rw [ih hi (by omega), List.drop_eq_getElem_cons hi,
      List.drop_eq_getElem_cons (show i < ts.length by omega), Bool.eq_iff_iff,
      matchLevels_cons hhash hplus]
    exact ⟨fun h => ⟨not_not.1 heq, h⟩, And.right⟩
  | case6 i hi =>
    have hlen : fs.length = i := by omega
    rw [hlen, List.drop_eq_nil_of_le hlen.le, Bool.eq_iff_iff, matchLevels_nil,
      List.drop_eq_nil_iff, decide_eq_true_iff]
    omega

lemma matchIndexed_eq (filter topic : Str) :
    matchIndexed filter topic = matchTopic filter topic := by
  rw [matchIndexed, matchTopic, matchFrom_eq (Nat.zero_le _) (Nat.zero_le _)]
  rfl

/-! ### Topic matching -/

/-- For every valid filter and every topic, `TopicMatch` decides the rules and the exception for
topics that start with `$`, and the copies agree with it on all pairs of strings. -/
theorem topicMatch_iff :
    (∀ filter topic : Str, topicFilterValid filter = true →
      (Broker.topicMatch filter topic = true ↔
        LevelsMatch (levels filter) (levels topic) ∧ ¬ WildcardOnSystemTopic filter topic)) ∧
    ∀ filter topic : Str,
      RemoteSubs.topicMatch filter topic = Broker.topicMatch filter topic ∧
      Auth.topicMatch filter topic = Broker.topicMatch filter topic ∧
      Rule.topicMatch filter topic = Broker.topicMatch filter topic := by
  refine ⟨?_, fun filter topic => ⟨matchIndexed_eq filter topic, rfl, matchIndexed_eq filter topic⟩⟩
  intro filter topic hvalid
  rw [levelsMatch_iff hvalid, Broker.topicMatch, matchTopic, WildcardOnSystemTopic]
  split_ifs with hwild
  · simp [hwild]
  · simp [hwild]

/-- A filter with both wildcards on a topic with an empty level. -/
theorem topicMatch_iff_sample :
    topicFilterValid (str "a/+/#") = true ∧
      LevelsMatch (levels (str "a/+/#")) (levels (str "a/")) := by
  have hvalid : topicFilterValid (str "a/+/#") = true := by decide
  exact ⟨hvalid, ((topicMatch_iff.1 (str "a/+/#") (str "a/") hvalid).1 (by decide)).1⟩

end Dmqtt
