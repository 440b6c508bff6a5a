/-
How the response to a takeover request gets back to it (`RequestTakeover` and
`HandleTakeoverResponse` of `internal/cluster/takeover.go`).

Any number of requests for one client may be under way on a node.  Each makes a channel and
enters it under the client ID; a request that finds a channel there closes it.  At its end a
request deletes the entry of the client, whoever made it.  A response takes the channel from the
entry under the lock and sends to it later.  `responses_reach_request` says when this works.

The entries of other clients are left out, and so are the requests themselves: the responses are
arbitrary.
-/
import Dmqtt.Cluster.Takeover
import Dmqtt.Lib.Trace
import Mathlib.Logic.Function.Basic

namespace Dmqtt.Cluster

open Lib Codec

/-- A channel for one response. -/
structure ResponseChan where
  buf : Option TakeoverResponse := none
  closed : Bool := false
deriving DecidableEq

/-- Where a call of `RequestTakeover` stands: before it is entered; before `SendRaw`; in the
`select`; before the deferred delete, with its result; or done. -/
inductive RequestStage
  | called
  | registered (ch : ℕ)
  | waiting (ch : ℕ)
  | leaving (ch : ℕ) (ok : Bool)
  | returned (ok : Bool)
deriving DecidableEq

/-- Where a call of `HandleTakeoverResponse` stands: before the lookup; before the send, with the
channel that was found, and with the most recent request at that moment; or done. -/
inductive HandlerStage
  | called
  | sending (resp : TakeoverResponse) (ch : Option ℕ) (latest : Option ℕ)
  | returned
deriving DecidableEq

/-- The requests for a client and the handlers of responses, all the channels, how many of them
were made, and the entry of the client in `ackChans`.  `latest` and `arrived` only watch: the most
recent request, and the responses that were sent while the request that was the most recent when
they were looked up was still waiting. -/
structure Takeovers where
  requests : ℕ → RequestStage := fun _ => .called
  handlers : ℕ → HandlerStage := fun _ => .called
  chans : ℕ → ResponseChan := fun _ => {}
  made : ℕ := 0
  ackChan : Option ℕ := none
  panicked : Bool := false
  latest : Option ℕ := none
  arrived : List (ℕ × TakeoverResponse) := []

/-- What happens: a request is entered, its message is sent or not, it receives from its channel,
it times out, or it deletes the entry; a response looks up the channel, or is sent to it. -/
inductive TakeoverOp
  | register (i : ℕ)
  | sendRaw (i : ℕ) (ok : Bool)
  | receive (i : ℕ)
  | timeout (i : ℕ)
  | release (i : ℕ)
  | lookUp (j : ℕ) (resp : TakeoverResponse)
  | send (j : ℕ)

/-- The channel of a request that has not got its result. -/
def RequestStage.pending : RequestStage → Option ℕ
  | .registered ch => some ch
  | .waiting ch => some ch
  | _ => none

/-- The channel of a request whose deferred delete is ahead. -/
def RequestStage.entered : RequestStage → Option ℕ
  | .registered ch => some ch
  | .waiting ch => some ch
  | .leaving ch _ => some ch
  | _ => none

namespace Takeovers

variable (s : Takeovers)

/-- A request goes on to its next stage. -/
def setRequest (i : ℕ) (stage : RequestStage) : Takeovers :=
  { s with requests := Function.update s.requests i stage }

/-- Change a channel. -/
def setChan (ch : ℕ) (c : ResponseChan) : Takeovers :=
  { s with chans := Function.update s.chans ch c }

@[simp] lemma setRequest_self (i : ℕ) (stage : RequestStage) :
    (s.setRequest i stage).requests i = stage := by
  simp [setRequest]

variable {i ch i' : ℕ} {ok : Bool}

lemma setRequest_of_ne (h : i' ≠ i) (stage : RequestStage) :
    (s.setRequest i stage).requests i' = s.requests i' := by
  simp [setRequest, h]

@[simp] lemma setChan_self (ch : ℕ) (c : ResponseChan) : (s.setChan ch c).chans ch = c := by
  simp [setChan]

lemma setChan_of_ne {ch' : ℕ} (h : ch' ≠ ch) (c : ResponseChan) :
    (s.setChan ch c).chans ch' = s.chans ch' := by
  simp [setChan, h]

/-- Close a channel; this panics if it is closed. -/
def close (ch : ℕ) : Takeovers :=
  if (s.chans ch).closed then { s with panicked := true }
  else s.setChan ch { s.chans ch with closed := true }

/-- A request makes a channel and enters it; the channel that it finds is closed. -/
def register (i : ℕ) : Takeovers :=
  let s := match s.ackChan with
    | none => s
    | some old => s.close old
  { s.setRequest i (.registered s.made) with
    made := s.made + 1
    ackChan := some s.made
    latest := some i }

/-- A response is sent to a channel without waiting; this panics if the channel is closed. -/
def sendTo (resp : TakeoverResponse) : Option ℕ → Takeovers
  | none => s
  | some ch =>
    if (s.chans ch).closed then { s with panicked := true }
    else match (s.chans ch).buf with
      | none => s.setChan ch { s.chans ch with buf := some resp }
      | some _ => s

/-- Take down that a response was sent in time for a request. -/
def arrive (resp : TakeoverResponse) : Option ℕ → Takeovers
  | none => s
  | some i =>
    if (s.requests i).pending.isSome then { s with arrived := s.arrived ++ [(i, resp)] } else s

/-- A step of a node that has not panicked. -/
def stepOp : TakeoverOp → Takeovers
  | .register i =>
    match s.requests i with
    | .called => s.register i
    | _ => s
  | .sendRaw i ok =>
    match s.requests i with
    | .registered ch => s.setRequest i (if ok then .waiting ch else .leaving ch true)
    | _ => s
  | .receive i =>
    match s.requests i with
    | .waiting ch =>
      match (s.chans ch).buf with
      | some resp =>
        (s.setChan ch { s.chans ch with buf := none }).setRequest i (.leaving ch resp.success)
      | none => if (s.chans ch).closed then s.setRequest i (.leaving ch true) else s
    | _ => s
  | .timeout i =>
    match s.requests i with
    -- what is sent to a waiting request, or closed under it, decides its `select` at once
    | .waiting ch => if s.chans ch = {} then s.setRequest i (.leaving ch true) else s
    | _ => s
  | .release i =>
    match s.requests i with
    | .leaving _ ok => { s.setRequest i (.returned ok) with ackChan := none }
    | _ => s
  | .lookUp j resp =>
    match s.handlers j with
    | .called =>
      { s with handlers := Function.update s.handlers j (.sending resp s.ackChan s.latest) }
    | _ => s
  | .send j =>
    match s.handlers j with
    | .sending resp ch latest =>
      let s := (s.sendTo resp ch).arrive resp latest
      { s with handlers := Function.update s.handlers j .returned }
    | _ => s

/-- The node after an operation; nothing happens after a panic. -/
def step (o : TakeoverOp) : Takeovers := if s.panicked then s else s.stepOp o

/-- If the request is left to finish, then it returns the result. -/
def Returns (i : ℕ) (ok : Bool) : Prop :=
  ([TakeoverOp.sendRaw i true, .receive i, .release i].foldl step s).requests i = .returned ok

/-- The condition on an operation: a request is entered only if no other one is, and `SendRaw`
does not fail if there is a response already. -/
def Meets : TakeoverOp → Prop
  | .register _ => s.ackChan = none
  | .sendRaw i false => ∀ ch, s.requests i = .registered ch → (s.chans ch).buf = none
  | _ => True

/-! ### Requests that do not overlap -/

/-- What holds as long as requests do not overlap. -/
structure Tidy : Prop where
  calm : s.panicked = false
  opened : ∀ ch, (s.chans ch).closed = false
  fresh : ∀ ch, s.made ≤ ch → (s.chans ch).buf = none
  entered : ∀ i ch, (s.requests i).entered = some ch →
    s.ackChan = some ch ∧ s.latest = some i
  bound : ∀ ch, s.ackChan = some ch → ch < s.made
  latest : ∀ i, s.latest = some i → s.requests i ≠ .called
  found : ∀ j resp ch latest, s.handlers j = .sending resp ch latest →
    (∀ i, latest = some i → s.requests i ≠ .called) ∧ (∀ c, ch = some c → c < s.made) ∧
      ∀ i c, (s.requests i).pending = some c → (latest = some i ↔ ch = some c)
  answered : ∀ i resp, s.arrived.lookup i = some resp → s.requests i ≠ .called ∧
    (∀ ok, s.requests i = .returned ok → ok = resp.success) ∧
    (∀ ch ok, s.requests i = .leaving ch ok → ok = resp.success)
  kept : ∀ i ch, (s.requests i).pending = some ch → (s.chans ch).buf = s.arrived.lookup i

variable {s}

lemma RequestStage.entered_of_pending {stage : RequestStage} (h : stage.pending = some ch) :
    stage.entered = some ch := by
  cases stage with
  | registered c | waiting c => exact h
  | called | leaving c ok | returned ok => cases h

lemma Tidy.eq_of_entered (hs : s.Tidy) {ch' : ℕ} (h : (s.requests i).entered = some ch)
    (h' : (s.requests i').entered = some ch') : i' = i := by
  have hlatest := (hs.entered i ch h).2
  rw [(hs.entered i' ch' h').2] at hlatest
  exact Option.some.inj hlatest

/-- A request that is entered goes on. -/
lemma Tidy.setRequest (hs : s.Tidy) {stage : RequestStage} (hi : (s.requests i).entered = some ch)
    (hcalled : stage ≠ .called) (hentered : ∀ c, stage.entered = some c → c = ch)
    (hpending : ∀ c, stage.pending = some c → (s.requests i).pending = some c) (hok : ∀ resp,
    s.arrived.lookup i = some resp → (∀ ok, stage = .returned ok → ok = resp.success) ∧ ∀ c ok,
    stage = .leaving c ok → ok = resp.success) :
    (s.setRequest i stage).Tidy := by
  have hne : ∀ i', s.requests i' ≠ .called → (s.setRequest i stage).requests i' ≠ .called := by
    intro i' h
    rcases eq_or_ne i' i with rfl | hii
    · rwa [setRequest_self]
    · rwa [setRequest_of_ne _ hii]
  have hpending' : ∀ i' c, ((s.setRequest i stage).requests i').pending = some c →
      (s.requests i').pending = some c := by
    intro i' c h
    rcases eq_or_ne i' i with rfl | hii
    · rw [setRequest_self] at h
      exact hpending c h
    · rwa [setRequest_of_ne _ hii] at h
  refine ⟨hs.calm, hs.opened, hs.fresh, ?_, hs.bound, ?_, ?_, ?_, ?_⟩
  · intro i' c h
    rcases eq_or_ne i' i with rfl | hii
    · rw [setRequest_self] at h
      obtain rfl := hentered c h
      exact hs.entered i' c hi
    · rw [setRequest_of_ne _ hii] at h
      exact hs.entered i' c h
  · exact fun i' h => hne i' (hs.latest i' h)
  · intro j resp c latest h
    obtain ⟨hlatest, hc, hiff⟩ := hs.found j resp c latest h
    exact ⟨fun i' h' => hne i' (hlatest i' h'), hc, fun i' c' h' => hiff i' c' (hpending' i' c' h')⟩
  · intro i' resp h
    obtain ⟨hcalled', hresult⟩ := hs.answered i' resp h
    refine ⟨hne i' hcalled', ?_⟩
    rcases eq_or_ne i' i with rfl | hii
    · rw [setRequest_self]
      exact hok resp h
    · rw [setRequest_of_ne _ hii]
      exact hresult
  · exact fun i' c h => hs.kept i' c (hpending' i' c h)

lemma Tidy.delete (hs : s.Tidy) (h : ∀ i ch, (s.requests i).entered ≠ some ch) :
    { s with ackChan := none }.Tidy where
  calm := hs.calm
  opened := hs.opened
  fresh := hs.fresh
  entered := fun i ch hi => absurd hi (h i ch)
  bound := nofun
  latest := hs.latest
  found := hs.found
  answered := hs.answered
  kept := hs.kept

/-- The buffer of a channel that was made changes, and with it the response that has arrived for
the request that waits for it. -/
lemma Tidy.setBuf (hs : s.Tidy) {buf : Option TakeoverResponse}
    {arrived : List (ℕ × TakeoverResponse)} (hmade : ch < s.made)
    (hch : ∀ i, (s.requests i).pending = some ch → buf = arrived.lookup i)
    (hother : ∀ i, (s.requests i).pending ≠ some ch → arrived.lookup i = s.arrived.lookup i) :
    { s.setChan ch { s.chans ch with buf } with arrived }.Tidy := by
  refine ⟨hs.calm, ?_, ?_, hs.entered, hs.bound, hs.latest, hs.found, ?_, ?_⟩
  · intro ch'
    rcases eq_or_ne ch' ch with rfl | hne
    · exact (congrArg ResponseChan.closed (s.setChan_self ch' _)).trans (hs.opened ch')
    · exact (congrArg ResponseChan.closed (s.setChan_of_ne hne _)).trans (hs.opened ch')
  · intro ch' hle
    have hne : ch' ≠ ch := by
      rintro rfl
      exact absurd hmade (Nat.not_lt.2 hle)
    exact (congrArg ResponseChan.buf (s.setChan_of_ne hne _)).trans (hs.fresh ch' hle)
  · intro i resp h
    by_cases hi : (s.requests i).pending = some ch
    · -- a request that waits has no result yet
      dsimp only [Takeovers.setChan]
      revert hi
      cases s.requests i <;> simp [RequestStage.pending]
    · exact hs.answered i resp ((hother i hi).symm.trans h)
  · intro i ch' hi
    rcases eq_or_ne ch' ch with rfl | hne
    · exact (congrArg ResponseChan.buf (s.setChan_self ch' _)).trans (hch i hi)
    · have hi' : (s.requests i).pending ≠ some ch := by
        rw [show (s.requests i).pending = some ch' from hi]
        exact fun h => hne (Option.some.inj h)
      rw [hother i hi']
      exact (congrArg ResponseChan.buf (s.setChan_of_ne hne _)).trans (hs.kept i ch' hi)

/-- A handler goes on; what it holds is what is entered now. -/
lemma Tidy.setHandler (hs : s.Tidy) {j : ℕ} {stage : HandlerStage}
    (h : ∀ resp ch latest, stage = .sending resp ch latest → ch = s.ackChan ∧ latest = s.latest) :
    { s with handlers := Function.update s.handlers j stage }.Tidy := by
  refine ⟨hs.calm, hs.opened, hs.fresh, hs.entered, hs.bound, hs.latest, ?_, hs.answered, hs.kept⟩
  intro j' resp ch latest hj
  dsimp only at hj
  rcases eq_or_ne j' j with rfl | hne
  · rw [Function.update_self] at hj
    obtain ⟨rfl, rfl⟩ := h resp ch latest hj
    refine ⟨hs.latest, hs.bound, fun i c hi => ?_⟩
    exact iff_of_true (hs.entered i c (RequestStage.entered_of_pending hi)).2
      (hs.entered i c (RequestStage.entered_of_pending hi)).1
  · rw [Function.update_of_ne hne] at hj
    exact hs.found j' resp ch latest hj

/-! ### Steps -/

/-- A request that is entered while no other one is gets a new channel. -/
lemma register_of_none (hnone : s.ackChan = none) (i : ℕ) :
    s.register i = { s.setRequest i (.registered s.made) with
      made := s.made + 1, ackChan := some s.made, latest := some i } := by
  simp only [register, hnone]

lemma Tidy.not_entered (hs : s.Tidy) (hnone : s.ackChan = none) (hne : i' ≠ i)
    (stage : RequestStage) (ch : ℕ) : ((s.setRequest i stage).requests i').entered ≠ some ch := by
  intro h
  rw [setRequest_of_ne _ hne] at h
  have hsome := (hs.entered i' ch h).1
  rw [hnone] at hsome
  cases hsome

/-- The request that is entered is the only one that is pending. -/
lemma Tidy.eq_of_pending (hs : s.Tidy) (hnone : s.ackChan = none)
    (h : ((s.setRequest i (.registered s.made)).requests i').pending = some ch) :
    i' = i ∧ ch = s.made := by
  by_cases hii : i' = i
  · subst hii
    rw [setRequest_self] at h
    exact ⟨rfl, (Option.some.inj h).symm⟩
  · exact absurd (RequestStage.entered_of_pending h) (hs.not_entered hnone hii _ ch)

lemma tidy_register (hs : s.Tidy) (hi : s.requests i = .called) (hnone : s.ackChan = none) :
    (s.register i).Tidy := by
  have hne : ∀ i', s.requests i' ≠ .called →
      (s.setRequest i (.registered s.made)).requests i' ≠ .called := by
    intro i' h
    have hii : i' ≠ i := by
      rintro rfl
      exact h hi
    rwa [setRequest_of_ne _ hii]
  rw [register_of_none hnone]
  refine ⟨hs.calm, hs.opened, ?_, ?_, ?_, ?_, ?_, ?_, ?_⟩
  · exact fun ch hch => hs.fresh ch (Nat.le_of_succ_le hch)
  · intro i' ch h
    by_cases hii : i' = i
    · subst hii
      have hch : s.made = ch := by
        have h' := (congrArg RequestStage.entered (s.setRequest_self i' _)).symm.trans h
        exact Option.some.inj h'
      exact ⟨congrArg some hch, rfl⟩
    · exact absurd h (hs.not_entered hnone hii _ ch)
  · rintro ch h
    cases h
    exact Nat.lt_succ_self _
  · rintro i' h
    cases h
    rw [setRequest_self]
    exact nofun
  · intro j resp ch latest h
    obtain ⟨hlatest, hch, -⟩ := hs.found j resp ch latest h
    refine ⟨fun i' h' => hne i' (hlatest i' h'), fun c hc => Nat.lt_succ_of_lt (hch c hc), ?_⟩
    intro i' c hpend
    obtain ⟨rfl, rfl⟩ := hs.eq_of_pending hnone hpend
    -- a handler that is under way knows neither the request nor its channel
    refine iff_of_false (fun h' => hlatest i' h' hi) fun h' => ?_
    exact Nat.lt_irrefl _ (hch _ h')
  · intro i' resp h
    obtain ⟨hcalled, hresult⟩ := hs.answered i' resp h
    refine ⟨hne i' hcalled, ?_⟩
    have hii : i' ≠ i := by
      rintro rfl
      exact hcalled hi
    rw [setRequest_of_ne _ hii]
    exact hresult
  · intro i' ch h
    obtain ⟨rfl, rfl⟩ := hs.eq_of_pending hnone h
    refine (hs.fresh s.made le_rfl).trans ?_
    cases harr : s.arrived.lookup i' with
    | none => exact harr.symm
    | some resp => exact absurd hi (hs.answered i' resp harr).1

lemma tidy_sendRaw (hs : s.Tidy) (hi : s.requests i = .registered ch)
    (h : s.Meets (.sendRaw i ok)) :
    (s.setRequest i (if ok then .waiting ch else .leaving ch true)).Tidy := by
  have hentered : (s.requests i).entered = some ch := congrArg RequestStage.entered hi
  have hpending : (s.requests i).pending = some ch := congrArg RequestStage.pending hi
  cases ok with
  | true =>
    refine hs.setRequest hentered nofun (fun c hc => (Option.some.inj hc).symm) ?_ ?_
    · exact fun c hc => hpending.trans hc
    · exact fun resp _ => ⟨nofun, nofun⟩
  | false =>
    refine hs.setRequest hentered nofun (fun c hc => (Option.some.inj hc).symm) nofun ?_
    intro resp harr
    have hbuf := hs.kept i ch hpending
    rw [h ch hi, harr] at hbuf
    cases hbuf

/-- A request that waits gets its result: the response that has arrived, if any. -/
lemma tidy_leave (hs : s.Tidy) (hi : s.requests i = .waiting ch)
    (hok : ∀ resp, (s.chans ch).buf = some resp → ok = resp.success) :
    (s.setRequest i (.leaving ch ok)).Tidy := by
  refine hs.setRequest (congrArg RequestStage.entered hi) nofun
    (fun c hc => (Option.some.inj hc).symm) nofun fun resp harr => ⟨nofun, ?_⟩
  rintro c ok' heq
  cases heq
  exact hok resp ((hs.kept i ch (congrArg RequestStage.pending hi)).trans harr)

/-- Once a request has its result, nobody waits. -/
lemma not_pending_of_leaving (hs : s.Tidy) (hi : s.requests i = .leaving ch ok) (i' c : ℕ) :
    (s.requests i').pending ≠ some c := by
  intro h
  have hii := hs.eq_of_entered (congrArg RequestStage.entered hi)
    (RequestStage.entered_of_pending h)
  rw [hii, hi] at h
  cases h

lemma tidy_receive (hs : s.Tidy) (i : ℕ) : (s.stepOp (.receive i)).Tidy := by
  rw [stepOp]
  split
  next ch hi =>
    have hmade : ch < s.made := hs.bound ch (hs.entered i ch (congrArg RequestStage.entered hi)).1
    split
    next resp hbuf =>
      have hleave : (s.setRequest i (.leaving ch resp.success)).Tidy := by
        refine tidy_leave hs hi fun resp' h => ?_
        rw [hbuf] at h
        cases h
        rfl
      have hnot := not_pending_of_leaving hleave (setRequest_self s i _)
      exact hleave.setBuf hmade (fun i' h => absurd h (hnot i' ch)) fun _ _ => rfl
    next hbuf =>
      rw [hs.opened ch]
      exact hs
  all_goals exact hs

lemma tidy_timeout (hs : s.Tidy) (i : ℕ) : (s.stepOp (.timeout i)).Tidy := by
  rw [stepOp]
  split
  next ch hi =>
    split_ifs with hempty
    · refine tidy_leave hs hi fun resp h => ?_
      rw [hempty] at h
      cases h
    · exact hs
  all_goals exact hs

lemma tidy_release (hs : s.Tidy) (i : ℕ) : (s.stepOp (.release i)).Tidy := by
  rw [stepOp]
  split
  next ch ok hi =>
    have hentered : (s.requests i).entered = some ch := congrArg RequestStage.entered hi
    have hreturned : (s.setRequest i (.returned ok)).Tidy := by
      refine hs.setRequest hentered nofun nofun nofun fun resp harr => ⟨?_, nofun⟩
      rintro ok' heq
      cases heq
      exact (hs.answered i resp harr).2.2 ch ok hi
    refine hreturned.delete fun i' c h => ?_
    by_cases hii : i' = i
    · rw [hii, setRequest_self] at h
      cases h
    · rw [setRequest_of_ne _ hii] at h
      exact hii (hs.eq_of_entered hentered h)
  all_goals exact hs

lemma sendTo_some {resp : TakeoverResponse} (h : (s.chans ch).closed = false) :
    s.sendTo resp (some ch) =
      s.setChan ch { s.chans ch with buf := (s.chans ch).buf.or (some resp) } := by
  rw [sendTo, if_neg (by rw [h]; exact Bool.false_ne_true)]
  split
  next hbuf => rw [hbuf, Option.none_or]
  next hbuf =>
    -- the response is dropped
    rw [hbuf, Option.some_or, ← hbuf, setChan, Function.update_eq_self]

lemma arrive_eq (s : Takeovers) (resp : TakeoverResponse) (latest : Option ℕ) :
    s.arrive resp latest = { s with arrived := s.arrived ++ match latest with
      | none => []
      | some i => if (s.requests i).pending.isSome then [(i, resp)] else [] } := by
  cases latest with
  | none => rw [arrive, List.append_nil]
  | some i =>
    rw [arrive]
    dsimp only
    split_ifs with h
    · rfl
    · rw [List.append_nil]

lemma tidy_send (hs : s.Tidy) (j : ℕ) : (s.stepOp (.send j)).Tidy := by
  rw [stepOp]
  split
  next resp ch latest hj =>
    obtain ⟨-, hbound, hiff⟩ := hs.found j resp ch latest hj
    refine Tidy.setHandler ?_ nofun
    cases ch with
    | none =>
      -- the request that was the most recent one is over
      have harrive : s.arrive resp latest = s := by
        cases latest with
        | none => rfl
        | some i =>
          refine if_neg fun hsome => ?_
          obtain ⟨c, hc⟩ := Option.isSome_iff_exists.1 hsome
          cases (hiff i c hc).1 rfl
      rwa [sendTo, harrive]
    | some c =>
      rw [sendTo_some (hs.opened c), arrive_eq]
      refine hs.setBuf (hbound c rfl) (fun i hi => ?_) fun i hi => ?_
      · -- the request that waits for the channel was the most recent one
        obtain rfl := (hiff i c hi).2 rfl
        have hsome : ((s.setChan c { s.chans c with
            buf := (s.chans c).buf.or (some resp) }).requests i).pending.isSome := by
          exact Option.isSome_iff_exists.2 ⟨c, hi⟩
        dsimp only
        rw [if_pos hsome, List.lookup_append, hs.kept i c hi]
        simp [Takeovers.setChan]
      · rw [List.lookup_append]
        refine (congrArg _ ?_).trans Option.or_none
        cases latest with
        | none => rfl
        | some i' =>
          dsimp only
          split_ifs with hsome
          · obtain ⟨c', hc'⟩ := Option.isSome_iff_exists.1 hsome
            obtain rfl := Option.some.inj ((hiff i' c' hc').1 rfl)
            have hne : (i == i') = false := by
              rw [beq_eq_false_iff_ne]
              rintro rfl
              exact hi hc'
            rw [List.lookup_cons, hne]
            rfl
          · rfl
  all_goals exact hs

lemma tidy_step (hs : s.Tidy) {o : TakeoverOp} (h : s.Meets o) : (s.step o).Tidy := by
  rw [step, hs.calm, if_neg Bool.false_ne_true]
  cases o with
  | register i =>
    rw [stepOp]
    split
    next hi => exact tidy_register hs hi h
    all_goals exact hs
  | sendRaw i ok =>
    rw [stepOp]
    split
    next ch hi => exact tidy_sendRaw hs hi h
    all_goals exact hs
  | receive i => exact tidy_receive hs i
  | timeout i => exact tidy_timeout hs i
  | release i => exact tidy_release hs i
  | lookUp j resp =>
    rw [stepOp]
    split
    · refine hs.setHandler fun resp' ch latest heq => ?_
      cases heq
      exact ⟨rfl, rfl⟩
    all_goals exact hs
  | send j => exact tidy_send hs j

lemma tidy_init : ({} : Takeovers).Tidy where
  calm := rfl
  opened := fun _ => rfl
  fresh := fun _ _ => rfl
  entered := nofun
  bound := nofun
  latest := nofun
  found := nofun
  answered := nofun
  kept := nofun

lemma Tidy.returns (hs : s.Tidy) {resp : TakeoverResponse} (h : s.arrived.lookup i = some resp) :
    s.Returns i resp.success := by
  have hcalm := hs.calm
  obtain ⟨hcalled, hreturned, hleaving⟩ := hs.answered i resp h
  rw [Returns]
  cases hi : s.requests i with
  | called => exact absurd hi hcalled
  | registered ch | waiting ch =>
    have hbuf : (s.chans ch).buf = some resp :=
      (hs.kept i ch (congrArg RequestStage.pending hi)).trans h
    simp [step, stepOp, Takeovers.setRequest, Takeovers.setChan, hcalm, hi, hbuf]
  | leaving ch ok => simp [step, stepOp, Takeovers.setRequest, hcalm, hi, hleaving ch ok hi]
  | returned ok => simp [step, stepOp, hcalm, hi, hreturned ok hi]

/-- **When responses reach their request.**  In every run in which a request is entered only while
no other one is (and no `SendRaw` fails with a response at hand), no response is sent on a closed
channel, and a request returns what the first response says that was looked up after it was
entered and sent before it had a result. -/
theorem responses_reach_request (ops : List TakeoverOp)
    (h : ∀ x ∈ trace step {} ops, x.1.Meets x.2) :
    let s := ops.foldl step {}
    s.panicked = false ∧
      ∀ i resp, s.arrived.lookup i = some resp → s.Returns i resp.success := by
  have hs : (ops.foldl step {}).Tidy :=
    foldl_invariant Tidy Meets (fun _ _ hs ho => tidy_step hs ho) tidy_init h
  exact ⟨hs.calm, fun i resp harr => hs.returns harr⟩

/-- A refusal. -/
def refusal : TakeoverResponse where
  clientID := str "c"
  success := false
  reason := str "local session wins conflict resolution"

/-- A request that is refused returns false, and so does the next one. -/
theorem responses_reach_request_twice :
    let ops : List TakeoverOp :=
      [.register 0, .sendRaw 0 true, .lookUp 0 refusal, .send 0, .receive 0, .release 0,
        .register 1, .lookUp 1 refusal, .send 1]
    (ops.foldl step {}).panicked = false ∧ (ops.foldl step {}).Returns 0 false ∧
      (ops.foldl step {}).Returns 1 false := by
  intro ops
  have h := responses_reach_request ops (by simp [ops, trace, Meets]; decide)
  exact ⟨h.1, h.2 0 refusal rfl, h.2 1 refusal rfl⟩

/-- A request that is entered between the lookup and the send of a response makes it panic.  And
an older request that is replaced deletes the entry of the newer one, so that this does not get
its refusal, times out, and returns true. -/
theorem responses_miss_request :
    ([.register 0, .lookUp 0 refusal, .register 1, .send 0].foldl step {}).panicked = true ∧
      let s := [.register 0, .sendRaw 0 true, .register 1, .sendRaw 1 true, .receive 0, .release 0,
        .lookUp 0 refusal, .send 0, .timeout 1, .release 1].foldl step {}
      s.latest = some 1 ∧ s.arrived.lookup 1 = some refusal ∧ s.requests 1 = .returned true := by
  decide

end Takeovers

end Dmqtt.Cluster
