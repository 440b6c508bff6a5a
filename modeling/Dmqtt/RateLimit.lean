/-
The rate limiter (`internal/ratelimit`): the layers of `AllowPublish`.

A publish passes a chain of checks.  The first ones look at the state only; then come three kinds of
token buckets, one for the whole broker, one for each client and one for each topic.  A layer that
lets the message through has taken its token, and no later layer gives it back:
`refused_publish_iff` says that a publish that is refused costs the other clients nothing exactly if
it does not get past the bucket of the broker.  What is let through in a period of time is bounded
by the configuration, in every run of calls (`accepted_publishes_le`).

`rate.Limiter` is a token bucket over the rationals.  A call of `AllowPublish` reads the clock once.
-/
import Dmqtt.Codec.Packets
import Dmqtt.Lib.GoTypes
import Dmqtt.Lib.TokenBucket

namespace Dmqtt.RateLimit

open Lib

inductive BackpressureLevel
  | none
  | mild
  | moderate
  | severe
  | critical
deriving DecidableEq

/-- The number of a level, as the constants are declared. -/
def BackpressureLevel.toNat : BackpressureLevel → ℕ
  | none => 0
  | mild => 1
  | moderate => 2
  | severe => 3
  | critical => 4

/-- The errors of `AllowPublish`. -/
inductive Err
  | globalIngressLimit
  | clientRateLimit
  | clientBlacklisted
  | topicRateLimit
  | messageTooLarge
  | backpressure
deriving DecidableEq

structure GlobalConfig where
  ingressRate : ℚ
  ingressBurst : ℤ

structure ClientConfig where
  msgRate : ℚ
  msgBurst : ℤ

structure TopicLimitEntry where
  maxPublishRate : ℚ
  maxBurst : ℤ

structure TopicConfig where
  defaultRate : ℚ
  defaultBurst : ℤ
  hotspotWindow : ℤ
  topicConfigs : GoMap Str TopicLimitEntry

structure DetectorConfig where
  enabled : Bool
  scoreThreshold : ℚ

structure Config where
  enabled : Bool
  global : GlobalConfig
  client : ClientConfig
  topic : TopicConfig
  detector : DetectorConfig
  maxMessageSize : ℤ

/-- An instant in seconds, the unit of the rates. -/
def seconds (now : ℤ) : ℚ := now / second

/-- `Allow` of the bucket with the given key, which is made if it is not there. -/
def allowKey (limiters : GoMap Str (TokenBucket ℚ)) (now : ℤ) (key : Str) (rate : ℚ) (burst : ℤ) :
    Bool × GoMap Str (TokenBucket ℚ) :=
  let r := ((limiters.lookup key).getD (.new rate burst)).allow (seconds now)
  (r.1, limiters.insert key r.2)

/-! ### The layers -/

structure GlobalLimiter where
  ingress : TokenBucket ℚ

def GlobalLimiter.allowIngress (gl : GlobalLimiter) (now : ℤ) : Except Err Unit × GlobalLimiter :=
  let r := gl.ingress.allow (seconds now)
  (if r.1 then .ok () else .error .globalIngressLimit, ⟨r.2⟩)

structure ClientLimiter where
  limiters : GoMap Str (TokenBucket ℚ)
  /-- Until when a client is on the blacklist. -/
  blacklist : GoMap Str ℤ
  config : ClientConfig

/-- An entry that has expired is removed. -/
def ClientLimiter.isBlacklisted (cl : ClientLimiter) (now : ℤ) (clientID : Str) :
    Bool × ClientLimiter :=
  match cl.blacklist.lookup clientID with
  | none => (false, cl)
  | some expiry =>
    if now > expiry then (false, { cl with blacklist := cl.blacklist.erase clientID })
    else (true, cl)

def ClientLimiter.allowMessage (cl : ClientLimiter) (now : ℤ) (clientID : Str) :
    Except Err Unit × ClientLimiter :=
  let r := cl.isBlacklisted now clientID
  if r.1 then (.error .clientBlacklisted, r.2)
  else
    let x := allowKey r.2.limiters now clientID r.2.config.msgRate r.2.config.msgBurst
    (if x.1 then .ok () else .error .clientRateLimit, { r.2 with limiters := x.2 })

/-- The publishes to a topic in a window of time. -/
structure TopicCounter where
  count : ℤ
  windowEnd : ℤ

structure TopicLimiter where
  limiters : GoMap Str (TokenBucket ℚ)
  counters : GoMap Str TopicCounter
  config : TopicConfig

/-- The bucket of a topic decides. -/
def TopicLimiter.allowTopic (tl : TopicLimiter) (now : ℤ) (topic : Str) (rate : ℚ) (burst : ℤ) :
    Except Err Unit × TopicLimiter :=
  let x := allowKey tl.limiters now topic rate burst
  (if x.1 then .ok () else .error .topicRateLimit, { tl with limiters := x.2 })

def TopicLimiter.allowPublish (tl : TopicLimiter) (now : ℤ) (topic : Str) :
    Except Err Unit × TopicLimiter :=
  match tl.config.topicConfigs.lookup topic with
  | some entry => tl.allowTopic now topic entry.maxPublishRate entry.maxBurst
  | none =>
    if tl.config.defaultRate > 0 then
      tl.allowTopic now topic tl.config.defaultRate tl.config.defaultBurst
    else (.ok (), tl)

def TopicLimiter.recordPublish (tl : TopicLimiter) (now : ℤ) (topic : Str) : TopicLimiter :=
  let windowEnd := now + tl.config.hotspotWindow
  let counter := (tl.counters.lookup topic).getD ⟨0, windowEnd⟩
  let counter := if now > counter.windowEnd then ⟨0, windowEnd⟩ else counter
  { tl with counters := tl.counters.insert topic ⟨counter.count + 1, counter.windowEnd⟩ }

/-- What the detector keeps of a client's behaviour. -/
structure ClientStats where
  messageCount : ℤ
  score : ℚ

structure MaliciousDetector where
  stats : GoMap Str ClientStats
  config : DetectorConfig

def MaliciousDetector.score (d : MaliciousDetector) (clientID : Str) : ℚ :=
  match d.stats.lookup clientID with
  | none => 0
  | some stats => stats.score

def MaliciousDetector.isMalicious (d : MaliciousDetector) (clientID : Str) : Bool :=
  if !d.config.enabled then false else d.score clientID ≥ d.config.scoreThreshold

def MaliciousDetector.recordMessage (d : MaliciousDetector) (clientID : Str) : MaliciousDetector :=
  let stats := (d.stats.lookup clientID).getD ⟨0, 0⟩
  { d with stats := d.stats.insert clientID { stats with messageCount := stats.messageCount + 1 } }

structure BackpressureController where
  level : BackpressureLevel

/-! ### The chain -/

structure AggregateRateLimiter where
  global : GlobalLimiter
  client : ClientLimiter
  topic : TopicLimiter
  bp : BackpressureController
  detector : MaliciousDetector
  config : Config

namespace AggregateRateLimiter

def new (cfg : Config) : AggregateRateLimiter where
  global := ⟨.new cfg.global.ingressRate cfg.global.ingressBurst⟩
  client := ⟨∅, ∅, cfg.client⟩
  topic := ⟨∅, ∅, cfg.topic⟩
  bp := ⟨.none⟩
  detector := ⟨∅, cfg.detector⟩
  config := cfg

/-- The checks of `AllowPublish` that take tokens. -/
def takeTokens (a : AggregateRateLimiter) (now : ℤ) (clientID topic : Str) :
    Except Err Unit × AggregateRateLimiter :=
  match a.global.allowIngress now with
  | (.error e, global) => (.error e, { a with global := global })
  | (.ok (), global) =>
    match a.client.allowMessage now clientID with
    | (.error e, client) => (.error e, { a with global := global, client := client })
    | (.ok (), client) =>
      match a.topic.allowPublish now topic with
      | (.error e, topics) =>
        (.error e, { a with global := global, client := client, topic := topics })
      | (.ok (), topics) =>
        (.ok (), { a with
          global := global
          client := client
          topic := topics.recordPublish now topic
          detector := a.detector.recordMessage clientID })

def allowPublish (a : AggregateRateLimiter) (now : ℤ) (clientID topic : Str) (payloadSize : ℤ) :
    Except Err Unit × AggregateRateLimiter :=
  if !a.config.enabled then (.ok (), a)
  else if a.bp.level.toNat ≥ BackpressureLevel.severe.toNat then (.error .backpressure, a)
  else if a.detector.isMalicious clientID then (.error .clientBlacklisted, a)
  else if payloadSize > a.config.maxMessageSize then (.error .messageTooLarge, a)
  else a.takeTokens now clientID topic

/-- One of the checks that look at the state only stops the message. -/
def Screened (a : AggregateRateLimiter) (clientID : Str) (payloadSize : ℤ) : Prop :=
  a.bp.level.toNat ≥ BackpressureLevel.severe.toNat ∨ a.detector.isMalicious clientID = true ∨
    payloadSize > a.config.maxMessageSize

/-- The tokens for the broker as a whole. -/
def ingressLevel (a : AggregateRateLimiter) (now : ℤ) : ℚ := a.global.ingress.level (seconds now)

end AggregateRateLimiter

variable {now : ℤ}

/-! ### Frames of the layers -/

lemma lookup_allowKey_ne {limiters : GoMap Str (TokenBucket ℚ)} {key key' : Str} (h : key' ≠ key)
    (rate : ℚ) (burst : ℤ) :
    (allowKey limiters now key rate burst).2.lookup key' = limiters.lookup key' :=
  AList.lookup_insert_ne h

lemma charged_allowKey {limiters : GoMap Str (TokenBucket ℚ)} {key : Str} {rate : ℚ} {burst : ℤ}
    {passed : Bool} (h : passed = true → (allowKey limiters now key rate burst).1 = true)
    (key' : Str) :
    TokenBucket.Charged ((limiters.lookup key').getD (.new rate burst))
      (((allowKey limiters now key rate burst).2.lookup key').getD (.new rate burst)) (seconds now)
      (passed && decide (key = key')) := by
  rcases eq_or_ne key' key with rfl | hne
  · rw [allowKey, AList.lookup_insert, decide_eq_true rfl, Bool.and_true]
    exact TokenBucket.charged_allow h
  · rw [lookup_allowKey_ne hne, decide_eq_false hne.symm, Bool.and_false]
    exact .refl rfl

namespace ClientLimiter

variable {cl : ClientLimiter} {clientID : Str}

lemma isBlacklisted_cases (cl : ClientLimiter) (now : ℤ) (clientID : Str) :
    cl.isBlacklisted now clientID = (true, cl) ∨
      ∃ blacklist : GoMap Str ℤ, blacklist.lookup clientID = none ∧
        cl.isBlacklisted now clientID = (false, { cl with blacklist := blacklist }) := by
  cases hlookup : cl.blacklist.lookup clientID with
  | none => exact Or.inr ⟨cl.blacklist, hlookup, by rw [isBlacklisted, hlookup]⟩
  | some expiry =>
    by_cases hexpired : now > expiry
    · refine Or.inr ⟨cl.blacklist.erase clientID, AList.lookup_erase _ _, ?_⟩
      simp only [isBlacklisted, hlookup, if_pos hexpired]
    · exact Or.inl (by simp only [isBlacklisted, hlookup, if_neg hexpired])

/-- The blacklist decides, or the bucket of the client does. -/
lemma allowMessage_cases (cl : ClientLimiter) (now : ℤ) (clientID : Str) :
    cl.allowMessage now clientID = (.error .clientBlacklisted, cl) ∨
      ∃ blacklist : GoMap Str ℤ, blacklist.lookup clientID = none ∧
        cl.allowMessage now clientID =
          let x := allowKey cl.limiters now clientID cl.config.msgRate cl.config.msgBurst
          (if x.1 then .ok () else .error .clientRateLimit,
            { cl with blacklist := blacklist, limiters := x.2 }) := by
  rcases isBlacklisted_cases cl now clientID with hlisted | ⟨blacklist, hnone, hlisted⟩
  · exact Or.inl (by simp only [allowMessage, hlisted, if_true])
  · refine Or.inr ⟨blacklist, hnone, ?_⟩
    simp only [allowMessage, hlisted, Bool.false_eq_true, if_false]

lemma lookup_limiters_allowMessage_ne {c : Str} (h : c ≠ clientID) :
    (cl.allowMessage now clientID).2.limiters.lookup c = cl.limiters.lookup c := by
  rcases cl.allowMessage_cases now clientID with hmsg | ⟨_, -, hmsg⟩
  · rw [hmsg]
  · rw [hmsg]
    exact lookup_allowKey_ne h _ _

end ClientLimiter

/-- The rate and the burst of a topic, if it has a limit. -/
def TopicConfig.limit (cfg : TopicConfig) (topic : Str) : Option (ℚ × ℤ) :=
  match cfg.topicConfigs.lookup topic with
  | some entry => some (entry.maxPublishRate, entry.maxBurst)
  | none => if cfg.defaultRate > 0 then some (cfg.defaultRate, cfg.defaultBurst) else none

lemma TopicLimiter.allowPublish_eq (tl : TopicLimiter) (now : ℤ) (topic : Str) :
    tl.allowPublish now topic = (tl.config.limit topic).elim (.ok (), tl)
      fun limit => tl.allowTopic now topic limit.1 limit.2 := by
  rw [allowPublish, TopicConfig.limit]
  cases tl.config.topicConfigs.lookup topic with
  | some entry => rfl
  | none =>
    dsimp only
    split_ifs <;> rfl

lemma TopicLimiter.lookup_limiters_allowPublish_ne {tl : TopicLimiter} {topic t : Str}
    (h : t ≠ topic) :
    (tl.allowPublish now topic).2.limiters.lookup t = tl.limiters.lookup t := by
  rw [allowPublish_eq]
  cases tl.config.limit topic with
  | none => rfl
  | some limit => exact lookup_allowKey_ne h _ _

namespace AggregateRateLimiter

variable {a : AggregateRateLimiter} {clientID topic : Str} {payloadSize : ℤ}

/-! ### Where a publish is refused -/

lemma allowPublish_of_screened (henabled : a.config.enabled = true)
    (h : a.Screened clientID payloadSize) (now : ℤ) (topic : Str) :
    ∃ e, a.allowPublish now clientID topic payloadSize = (.error e, a) := by
  unfold allowPublish
  rw [henabled, Bool.not_true, if_neg Bool.false_ne_true]
  split_ifs with hbp hmalicious hsize
  · exact ⟨_, rfl⟩
  · exact ⟨_, rfl⟩
  · exact ⟨_, rfl⟩
  · exact absurd h (not_or.2 ⟨hbp, not_or.2 ⟨hmalicious, hsize⟩⟩)

lemma allowPublish_of_not_screened (henabled : a.config.enabled = true)
    (h : ¬ a.Screened clientID payloadSize) :
    a.allowPublish now clientID topic payloadSize = a.takeTokens now clientID topic := by
  obtain ⟨hbp, hrest⟩ := not_or.1 h
  obtain ⟨hmalicious, hsize⟩ := not_or.1 hrest
  rw [allowPublish, henabled, Bool.not_true, if_neg Bool.false_ne_true, if_neg hbp,
    if_neg hmalicious, if_neg hsize]

lemma takeTokens_of_lt (h : a.ingressLevel now < 1) :
    a.takeTokens now clientID topic = (.error .globalIngressLimit, a) := by
  rw [takeTokens, GlobalLimiter.allowIngress, TokenBucket.allow_of_lt h]
  rfl

/-- The limiter after the bucket of the broker and that of the client have been asked. -/
def afterClient (a : AggregateRateLimiter) (now : ℤ) (clientID : Str) : AggregateRateLimiter :=
  { a with
    global := ⟨(a.global.ingress.allow (seconds now)).2⟩
    client := (a.client.allowMessage now clientID).2 }

lemma allowIngress_of_le (h : 1 ≤ a.ingressLevel now) (clientID : Str) :
    a.global.allowIngress now = (.ok (), (a.afterClient now clientID).global) := by
  rw [GlobalLimiter.allowIngress, afterClient, TokenBucket.allow_of_le h]
  rfl

/-- The token for the broker is gone when the client is refused. -/
lemma takeTokens_of_client {e : Err} (h : 1 ≤ a.ingressLevel now)
    (hclient : (a.client.allowMessage now clientID).1 = .error e) :
    a.takeTokens now clientID topic = (.error e, a.afterClient now clientID) := by
  have hpair : a.client.allowMessage now clientID =
      (.error e, (a.afterClient now clientID).client) := Prod.ext hclient rfl
  rw [takeTokens, allowIngress_of_le h clientID, hpair]
  rfl

/-- It is gone, too, when the topic is. -/
lemma takeTokens_snd {e : Err} (h : 1 ≤ a.ingressLevel now)
    (hrefused : (a.takeTokens now clientID topic).1 = .error e) :
    (a.takeTokens now clientID topic).2 = a.afterClient now clientID ∨
      (a.takeTokens now clientID topic).2 =
        { a.afterClient now clientID with topic := (a.topic.allowPublish now topic).2 } := by
  cases hclient : (a.client.allowMessage now clientID).1 with
  | error e' => exact Or.inl (by rw [takeTokens_of_client h hclient])
  | ok u =>
    have hpair : a.client.allowMessage now clientID =
        (.ok (), (a.afterClient now clientID).client) := Prod.ext hclient rfl
    rw [takeTokens, allowIngress_of_le h clientID, hpair] at hrefused ⊢
    cases htopic : a.topic.allowPublish now topic with
    | mk r topics =>
      cases r with
      | error e' => exact Or.inr rfl
      | ok u =>
        rw [htopic] at hrefused
        cases hrefused

lemma ingressLevel_afterClient (h : 1 ≤ a.ingressLevel now) :
    (a.afterClient now clientID).ingressLevel now = a.ingressLevel now - 1 :=
  TokenBucket.level_allow h

lemma enabled_of_refused {e : Err}
    (h : (a.allowPublish now clientID topic payloadSize).1 = .error e) :
    a.config.enabled = true := by
  cases henabled : a.config.enabled with
  | true => rfl
  | false =>
    rw [allowPublish, henabled, Bool.not_false, if_pos rfl] at h
    cases h

lemma allowPublish_of_empty (henabled : a.config.enabled = true)
    (hscreened : ¬ a.Screened clientID payloadSize) (h : a.ingressLevel now < 1) (topic : Str) :
    a.allowPublish now clientID topic payloadSize = (.error .globalIngressLimit, a) := by
  rw [allowPublish_of_not_screened henabled hscreened, takeTokens_of_lt h]

/-- A publish that is stopped before it gets a token of the broker leaves everything as it is. -/
lemma allowPublish_of_stopped (henabled : a.config.enabled = true)
    (h : a.Screened clientID payloadSize ∨ a.ingressLevel now < 1) (topic : Str) :
    (a.allowPublish now clientID topic payloadSize).2 = a := by
  by_cases hscreened : a.Screened clientID payloadSize
  · obtain ⟨e, he⟩ := allowPublish_of_screened henabled hscreened now topic
    rw [he]
  · rw [allowPublish_of_empty henabled hscreened (h.resolve_left hscreened)]

/-! ### The cost of a refused publish -/

/-- A publish that is refused takes no token of another client or topic.  It leaves the tokens for
the broker alone, and makes no publish of another client fail for the lack of one, exactly if it is
stopped before it gets one itself. -/
theorem refused_publish_iff (a : AggregateRateLimiter) (now : ℤ) (clientID topic : Str)
    (payloadSize : ℤ) {e : Err}
    (h : (a.allowPublish now clientID topic payloadSize).1 = .error e) :
    let a' := (a.allowPublish now clientID topic payloadSize).2
    (∀ c, c ≠ clientID → a'.client.limiters.lookup c = a.client.limiters.lookup c) ∧
      (∀ t, t ≠ topic → a'.topic.limiters.lookup t = a.topic.limiters.lookup t) ∧
      ((∀ t, now ≤ t → a'.ingressLevel t = a.ingressLevel t) ∧
          (∀ t, now ≤ t → ∀ c, c ≠ clientID → ∀ topic size,
            (a'.allowPublish t c topic size).1 = .error .globalIngressLimit →
              (a.allowPublish t c topic size).1 = .error .globalIngressLimit) ↔
        a.Screened clientID payloadSize ∨ a.ingressLevel now < 1) := by
  have henabled := enabled_of_refused h
  by_cases hstopped : a.Screened clientID payloadSize ∨ a.ingressLevel now < 1
  · rw [allowPublish_of_stopped henabled hstopped topic]
    refine ⟨fun _ _ => rfl, fun _ _ => rfl, iff_of_true ?_ hstopped⟩
    exact ⟨fun _ _ => rfl, fun _ _ _ _ _ _ => id⟩
  · obtain ⟨hscreened, hlevel⟩ := not_or.1 hstopped
    rw [not_lt] at hlevel
    rw [allowPublish_of_not_screened henabled hscreened] at h ⊢
    have hclient : ∀ c, c ≠ clientID →
        (a.afterClient now clientID).client.limiters.lookup c = a.client.limiters.lookup c :=
      fun c hc => ClientLimiter.lookup_limiters_allowMessage_ne hc
    have htopic : ∀ t, t ≠ topic →
        (a.topic.allowPublish now topic).2.limiters.lookup t = a.topic.limiters.lookup t :=
      fun t ht => TopicLimiter.lookup_limiters_allowPublish_ne ht
    have hcost : (a.afterClient now clientID).ingressLevel now ≠ a.ingressLevel now := by
      rw [ingressLevel_afterClient hlevel]
      exact (sub_one_lt _).ne
    rcases takeTokens_snd hlevel h with ha' | ha' <;> rw [ha']
    · refine ⟨hclient, fun _ _ => rfl, iff_of_false ?_ hstopped⟩
      exact fun hsame => hcost (hsame.1 now le_rfl)
    · refine ⟨hclient, htopic, iff_of_false ?_ hstopped⟩
      exact fun hsame => hcost (hsame.1 now le_rfl)

/-- Two messages a second for the broker and one for each client. -/
private def slowConfig : Config where
  enabled := true
  global := ⟨2, 2⟩
  client := ⟨1, 1⟩
  topic := ⟨0, 0, 0, ∅⟩
  detector := ⟨false, 0⟩
  maxMessageSize := 10

/-- A message that is too large. -/
theorem refused_publish_large :
    let a := new slowConfig
    let r := a.allowPublish 0 (str "c") (str "t") 11
    r.1 = .error .messageTooLarge ∧ ∀ t, 0 ≤ t → r.2.ingressLevel t = a.ingressLevel t := by
  have hrefused : ((new slowConfig).allowPublish 0 (str "c") (str "t") 11).1 =
      .error .messageTooLarge := rfl
  have hscreened : (new slowConfig).Screened (str "c") 11 := Or.inr (Or.inr (by decide))
  exact ⟨hrefused, ((refused_publish_iff _ _ _ _ _ hrefused).2.2.2 (Or.inl hscreened)).1⟩

/-- The client `c` publishes twice.  Its second message is refused, and the first one of `d` then
finds no token. -/
theorem refused_publish_costs :
    let a := ((new slowConfig).allowPublish 0 (str "c") (str "t") 0).2
    let r := a.allowPublish 0 (str "c") (str "t") 0
    r.1 = .error .clientRateLimit ∧ a.ingressLevel 0 = 1 ∧ r.2.ingressLevel 0 = 0 ∧
      (a.allowPublish 0 (str "d") (str "t") 0).1 = .ok () ∧
      (r.2.allowPublish 0 (str "d") (str "t") 0).1 = .error .globalIngressLimit := by
  decide +kernel

/-! ### The rate of what is let through -/

/-- A call of `AllowPublish`. -/
structure Publish where
  now : ℤ
  clientID : Str
  topic : Str
  payloadSize : ℤ

/-- Whether a message is let through, and the limiter after that. -/
def call (a : AggregateRateLimiter) (p : Publish) : Bool × AggregateRateLimiter :=
  let r := a.allowPublish p.now p.clientID p.topic p.payloadSize
  (r.1.isOk, r.2)

/-- A layer is left alone by a message that is refused, or asked.  It allows what passes. -/
inductive Asked {L : Type} (layer : L) (ask : Except Err Unit × L) : Bool → L → Prop
  | skipped : Asked layer ask false layer
  | refused : Asked layer ask false ask.2
  | passed (h : ask.1.isOk = true) : Asked layer ask true ask.2

lemma Asked.charged {L : Type} {layer layer' : L} {ask : Except Err Unit × L} {passed : Bool}
    (h : Asked layer ask passed layer') (view : L → TokenBucket ℚ) {t : ℚ} {q : Bool}
    (hask : ∀ passed', (passed' = true → ask.1.isOk = true) →
      TokenBucket.Charged (view layer) (view ask.2) t (passed' && q)) :
    TokenBucket.Charged (view layer) (view layer') t (passed && q) := by
  cases h with
  | skipped => exact .refl rfl
  | refused => exact hask false nofun
  | passed h => exact hask true fun _ => h

@[simp] lemma isOk_ite (allowed : Bool) (e : Err) :
    (if allowed = true then .ok () else .error e : Except Err Unit).isOk = allowed := by
  cases allowed <;> rfl

variable {cfg : Config}

/-- The limiter is on, and its configuration is `cfg`. -/
def Configured (cfg : Config) (a : AggregateRateLimiter) : Prop :=
  a.config.enabled = true ∧ a.client.config = cfg.client ∧ a.topic.config = cfg.topic

/-- The layers are asked one after the other, until one of them refuses. -/
lemma Configured.asked (h : a.Configured cfg) (p : Publish) :
    (a.call p).2.Configured cfg ∧
      Asked a.global (a.global.allowIngress p.now) (a.call p).1 (a.call p).2.global ∧
      Asked a.client (a.client.allowMessage p.now p.clientID) (a.call p).1 (a.call p).2.client ∧
      Asked a.topic.limiters ((a.topic.allowPublish p.now p.topic).map id TopicLimiter.limiters)
        (a.call p).1 (a.call p).2.topic.limiters := by
  obtain ⟨henabled, hclient, htopic⟩ := h
  by_cases hscreened : a.Screened p.clientID p.payloadSize
  · obtain ⟨e, he⟩ := allowPublish_of_screened henabled hscreened p.now p.topic
    rw [call, he]
    exact ⟨⟨henabled, hclient, htopic⟩, .skipped, .skipped, .skipped⟩
  have hclient' : (a.client.allowMessage p.now p.clientID).2.config = cfg.client := by
    rcases a.client.allowMessage_cases p.now p.clientID with h | ⟨_, -, h⟩ <;> rw [h, ← hclient]
  have htopic' : (a.topic.allowPublish p.now p.topic).2.config = cfg.topic := by
    rw [TopicLimiter.allowPublish_eq, ← htopic]
    cases a.topic.config.limit p.topic <;> rfl
  rw [call, allowPublish_of_not_screened henabled hscreened, takeTokens]
  rcases a.global.allowIngress p.now with ⟨_ | _, global⟩
  · exact ⟨⟨henabled, hclient, htopic⟩, .refused, .skipped, .skipped⟩
  rcases hask : a.client.allowMessage p.now p.clientID with ⟨_ | _, client⟩ <;>
    rw [hask] at hclient'
  · exact ⟨⟨henabled, hclient', htopic⟩, .refused, .refused, .skipped⟩
  rcases hask : a.topic.allowPublish p.now p.topic with ⟨_ | _, topics⟩ <;> rw [hask] at htopic'
  · exact ⟨⟨henabled, hclient', htopic'⟩, .refused, .refused, .refused⟩
  · exact ⟨⟨henabled, hclient', htopic'⟩, .passed rfl, .passed rfl, .passed rfl⟩

lemma meters_ingress : TokenBucket.Meters call (Configured cfg) (fun a => a.global.ingress)
    (fun p => seconds p.now) fun _ => true where
  keeps _ p h := (h.asked p).1
  charged a p h := (h.asked p).2.1.charged GlobalLimiter.ingress fun _ hok =>
    TokenBucket.charged_allow fun hpassed => by
      simpa [GlobalLimiter.allowIngress] using hok (by simpa using hpassed)

lemma meters_client (c : Str) : TokenBucket.Meters call (Configured cfg)
    (fun a => (a.client.limiters.lookup c).getD (.new cfg.client.msgRate cfg.client.msgBurst))
    (fun p => seconds p.now) fun p => p.clientID = c where
  keeps _ p h := (h.asked p).1
  charged a p h := by
    refine (h.asked p).2.2.1.charged (fun cl => (cl.limiters.lookup c).getD
      (.new cfg.client.msgRate cfg.client.msgBurst)) fun passed hok => ?_
    rcases a.client.allowMessage_cases p.now p.clientID with hmsg | ⟨_, -, hmsg⟩
    · rw [hmsg] at hok ⊢
      refine .refl ?_
      cases passed with
      | false => rfl
      | true => cases hok rfl
    · rw [hmsg, h.2.1] at hok ⊢
      exact charged_allowKey (by simpa using hok) c

lemma meters_topic {topic : Str} {rate : ℚ} {burst : ℤ}
    (hlimit : cfg.topic.limit topic = some (rate, burst)) :
    TokenBucket.Meters call (Configured cfg)
      (fun a => (a.topic.limiters.lookup topic).getD (.new rate burst))
      (fun p => seconds p.now) fun p => p.topic = topic where
  keeps _ p h := (h.asked p).1
  charged a p h := by
    refine (h.asked p).2.2.2.charged
      (fun limiters => (limiters.lookup topic).getD (.new rate burst)) fun passed hok => ?_
    rcases eq_or_ne p.topic topic with heq | hne
    · rw [TopicLimiter.allowPublish_eq, heq, h.2.2, hlimit] at hok ⊢
      exact charged_allowKey (by simpa [TopicLimiter.allowTopic] using hok) topic
    · dsimp only [Prod.map]
      rw [TopicLimiter.lookup_limiters_allowPublish_ne hne.symm]
      exact .refl (by simp [hne])

lemma seconds_mono : Monotone seconds := fun t t' h =>
  div_le_div_of_nonneg_right (by exact_mod_cast h) (by norm_num [second])

/-- In a period of time, and whatever was called before, the messages that are let through are
bounded by the burst and the rate of the configuration: all of them, those of each client, and those
on each topic with a limit. -/
theorem accepted_publishes_le (cfg : Config) (henabled : cfg.enabled = true)
    (before calls : List Publish) (hsorted : calls.Pairwise fun p p' => p.now ≤ p'.now)
    (start stop : ℤ) (horder : start ≤ stop)
    (hwindow : ∀ p ∈ calls, start ≤ p.now ∧ p.now ≤ stop) :
    let passed := accepted call (before.foldl (fun a p => (a.call p).2) (new cfg)) calls
    let elapsed := seconds stop - seconds start
    (passed.length : ℚ) ≤ cfg.global.ingressBurst.toNat + max cfg.global.ingressRate 0 * elapsed ∧
      (∀ c, (passed.countP (·.clientID = c) : ℚ) ≤
        cfg.client.msgBurst.toNat + max cfg.client.msgRate 0 * elapsed) ∧
      ∀ topic rate burst, cfg.topic.limit topic = some (rate, burst) →
        (passed.countP (·.topic = topic) : ℚ) ≤ burst.toNat + max rate 0 * elapsed := by
  have hnew : (new cfg).Configured cfg := ⟨henabled, rfl, rfl⟩
  have hle : seconds start ≤ seconds stop := seconds_mono horder
  have htimes : ∀ p ∈ calls, seconds start ≤ seconds p.now ∧ seconds p.now ≤ seconds stop :=
    fun p hp => ⟨seconds_mono (hwindow p hp).1, seconds_mono (hwindow p hp).2⟩
  have hsorted := hsorted.imp fun h => seconds_mono h
  refine ⟨?_, fun c => ?_, fun topic rate burst hlimit => ?_⟩
  · rw [← List.countP_true]
    exact meters_ingress.countP_accepted_foldl_le hnew before hsorted hle htimes
  · exact (meters_client c).countP_accepted_foldl_le hnew before hsorted hle htimes
  · exact (meters_topic hlimit).countP_accepted_foldl_le hnew before hsorted hle htimes

/-- Three messages of one client in a second; the first and the last pass. -/
theorem accepted_publishes_slow :
    let passed := accepted call (new slowConfig) [⟨0, str "c", str "t", 0⟩,
      ⟨0, str "c", str "t", 0⟩, ⟨second, str "c", str "t", 0⟩]
    passed.length = 2 ∧ (passed.countP (·.clientID = str "c") : ℚ) ≤
      1 + 1 * (seconds second - seconds 0) :=
  ⟨by decide +kernel, (accepted_publishes_le slowConfig rfl [] _ (by decide +kernel) 0 second
    (by decide) (by decide +kernel)).2.1 (str "c")⟩

end AggregateRateLimiter

end Dmqtt.RateLimit
