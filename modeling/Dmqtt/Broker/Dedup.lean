/-
The duplicate check for PUBLISH packets of QoS 2.

`DedupStore` keeps, under a key made of the client ID and the packet ID, when a received packet
expires.  Seen abstractly there is, for each pair of a client and a packet ID, the instant at
which the PUBLISH was received that a PUBREL has yet to release; it depends on the packets of
this pair alone.  The store agrees with it up to entries that have expired (`Agree`), and
`dedup_run` draws the conclusions for runs of the broker.
-/
import Dmqtt.Broker.Handshake

namespace Dmqtt.Broker

open Lib Codec Plugin

/-! ### Keys -/

lemma str_ofList (l : List Char) : str (String.ofList l) = l.flatMap String.utf8EncodeChar := by
  rw [str, String.toUTF8_eq_toByteArray, String.toByteArray_ofList, List.utf8Encode,
    List.toList_data_toByteArray]

lemma str_injective : Function.Injective str := by
  intro s t h
  exact String.toByteArray_inj.1 (ByteArray.ext (Array.toList_inj.1 h))

lemma toString_nat_injective {m n : ℕ} (h : toString m = toString n) : m = n := by
  rw [Nat.toString_eq_ofList_toDigits, Nat.toString_eq_ofList_toDigits, String.ofList_inj] at h
  rw [← Nat.ofDigitChars_toDigits (b := 10) (n := m) (by decide) le_rfl, h,
    Nat.ofDigitChars_toDigits (by decide) le_rfl]

lemma toNat_of_isDigit {ch : Char} (h : ch.isDigit = true) :
    48 ≤ ch.val.toNat ∧ ch.val.toNat ≤ 57 := by
  simpa [Char.isDigit, UInt32.le_iff_toNat_le] using h

lemma colon_notMem_digits (n : ℕ) : (0x3A : UInt8) ∉ str (toString n) := by
  rw [Nat.toString_eq_ofList_toDigits, str_ofList, List.mem_flatMap]
  rintro ⟨ch, hch, hmem⟩
  have hd := toNat_of_isDigit (Nat.isDigit_of_mem_toDigits (by decide) (by decide) hch)
  rw [String.utf8EncodeChar] at hmem
  simp only [if_pos (show ch.val.toNat ≤ 127 by omega), List.mem_singleton] at hmem
  have h := congrArg UInt8.toNat hmem
  rw [UInt8.toNat_ofNat', Nat.mod_eq_of_lt (by omega)] at h
  change 58 = _ at h
  omega

/-- What follows the last separator of a list can be read off it. -/
lemma append_cons_inj {α : Type} {sep : α} {l l' d d' : List α}
    (hd : sep ∉ d) (hd' : sep ∉ d') (h : l ++ sep :: d = l' ++ sep :: d') : l = l' ∧ d = d' := by
  rcases List.append_eq_append_iff.1 h with ⟨mid, rfl, hmid⟩ | ⟨mid, rfl, hmid⟩ <;>
    rcases mid with _ | ⟨x, mid⟩ <;> simp_all

lemma dedupKey_inj {clientID clientID' : Str} {packetID packetID' : UInt16} :
    dedupKey clientID packetID = dedupKey clientID' packetID' ↔
      clientID = clientID' ∧ packetID = packetID' := by
  constructor
  · intro h
    have hcolon : str ":" = [0x3A] := by decide
    simp only [dedupKey, hcolon, List.append_assoc, List.singleton_append] at h
    obtain ⟨hid, hdigits⟩ :=
      append_cons_inj (colon_notMem_digits _) (colon_notMem_digits _) h
    exact ⟨hid, UInt16.toNat_inj.1 (toString_nat_injective (str_injective hdigits))⟩
  · rintro ⟨rfl, rfl⟩
    rfl

/-! ### The packets that matter -/

/-- A pair of a client ID and a packet ID. -/
abbrev Pair : Type := Str × UInt16

/-- What the duplicate check sees: a PUBLISH of QoS 2, a PUBREL or a run of `cleanup`. -/
inductive DedupEvent
  | publish (k : Pair)
  | pubrel (k : Pair)
  | cleanup
deriving DecidableEq

/-- The pair of a packet. -/
def DedupEvent.pair : DedupEvent → Option Pair
  | publish k => some k
  | pubrel k => some k
  | cleanup => none

/-- The instant at which the open PUBLISH of the pair was received, after one more event. -/
def openStep (ttl : ℤ) (k : Pair) (o : Option ℤ) (e : ℤ × DedupEvent) : Option ℤ :=
  match e.2 with
  | .publish k' =>
    if k' = k then
      match o with
      | some t₁ => if e.1 ≤ t₁ + ttl then some t₁ else some e.1
      | none => some e.1
    else o
  | .pubrel k' => if k' = k then none else o
  | .cleanup => o

/-- The instant at which the open PUBLISH of the pair was received. -/
def opened (ttl : ℤ) (k : Pair) (es : List (ℤ × DedupEvent)) : Option ℤ :=
  es.foldl (openStep ttl k) none

variable {k : Pair} (ttl : ℤ)

lemma openStep_of_ne (o : Option ℤ) {e : ℤ × DedupEvent} (he : e.2.pair ≠ some k) :
    openStep ttl k o e = o := by
  obtain ⟨now, e⟩ := e
  cases e with
  | publish k' | pubrel k' => exact if_neg fun h => he (congrArg some h)
  | cleanup => rfl

/-- The events of a pair. -/
def eventsOf (k : Pair) (es : List (ℤ × DedupEvent)) : List (ℤ × DedupEvent) :=
  es.filter fun e => e.2.pair = some k

lemma opened_eventsOf (k : Pair) (es : List (ℤ × DedupEvent)) :
    opened ttl k (eventsOf k es) = opened ttl k es := by
  rw [opened, opened, eventsOf, List.foldl_filter]
  congr 1
  funext o e
  split_ifs with he
  · rfl
  · exact (openStep_of_ne ttl o (by simpa using he)).symm

/-- No PUBLISH of the pair was received since the last PUBREL of it, if there was one. -/
def Released (k : Pair) (es : List (ℤ × DedupEvent)) : Prop :=
  ∀ e ∈ (eventsOf k es).getLast?, e.2 = .pubrel k

instance decidableReleased (k : Pair) (es : List (ℤ × DedupEvent)) : Decidable (Released k es) :=
  Option.decidableForallMem _

lemma opened_of_released {es : List (ℤ × DedupEvent)} (h : Released k es) :
    opened ttl k es = none := by
  rw [← opened_eventsOf]
  rw [Released] at h
  rcases List.eq_nil_or_concat (eventsOf k es) with hnil | ⟨es', e, hcons⟩
  · rw [hnil]
    rfl
  · rw [hcons] at h ⊢
    have hrel : e.2 = .pubrel k := h e (by simp)
    simp [opened, openStep, hrel]

/-- The PUBLISH of the pair stays open as long as there is no PUBREL of it, until it expires. -/
lemma foldl_openStep_some {t₁ : ℤ} {es : List (ℤ × DedupEvent)} (hrel : ∀ e ∈ es, e.2 ≠ .pubrel k)
    (htime : ∀ e ∈ es, e.1 ≤ t₁ + ttl) :
    es.foldl (openStep ttl k) (some t₁) = some t₁ := by
  induction es with
  | nil => rfl
  | cons e es ih =>
    have hstep : openStep ttl k (some t₁) e = some t₁ := by
      by_cases he : e.2.pair = some k
      · obtain ⟨now, e⟩ := e
        cases e with
        | publish k' =>
          have hle : now ≤ t₁ + ttl := htime _ List.mem_cons_self
          simp [openStep, hle]
        | pubrel k' =>
          obtain rfl : k' = k := Option.some_injective _ he
          exact absurd rfl (hrel _ List.mem_cons_self)
        | cleanup => cases he
      · exact openStep_of_ne ttl _ he
    rw [List.foldl_cons, hstep]
    exact ih (fun e he => hrel e (List.mem_cons_of_mem _ he))
      fun e he => htime e (List.mem_cons_of_mem _ he)

/-! ### The store -/

namespace DedupStore

variable {d : DedupStore} {k : Pair} {o : Option ℤ} {now now' : ℤ}

/-- The expiry of the entry of a pair. -/
def entry (d : DedupStore) (k : Pair) : Option ℤ := d.entries.lookup (dedupKey k.1 k.2)

/-- What an event does to the store; a PUBLISH may pass the duplicate check. -/
def handle (d : DedupStore) (now : ℤ) : DedupEvent → Bool × DedupStore
  | .publish k =>
    let (duplicate, d) := d.isDuplicate k.1 k.2 now
    if duplicate then (false, d) else (true, d.markReceived k.1 k.2 now)
  | .pubrel k => (true, d.remove k.1 k.2)
  | .cleanup => (true, d.cleanup now)

/-- The store after an event. -/
def after (d : DedupStore) (e : ℤ × DedupEvent) : DedupStore := (d.handle e.1 e.2).2

variable {k' : Pair}

lemma key_ne {k : Pair} (h : k ≠ k') : dedupKey k.1 k.2 ≠ dedupKey k'.1 k'.2 := fun heq =>
  h (Prod.ext (dedupKey_inj.1 heq).1 (dedupKey_inj.1 heq).2)

lemma entry_isDuplicate_of_ne (h : k ≠ k') (now : ℤ) :
    (d.isDuplicate k'.1 k'.2 now).2.entry k = d.entry k := by
  rw [isDuplicate]
  cases d.entries.lookup (dedupKey k'.1 k'.2) with
  | none => rfl
  | some expiresAt =>
    dsimp only
    split_ifs
    · exact AList.lookup_erase_ne (key_ne h)
    · rfl

lemma fst_isDuplicate (d : DedupStore) (k : Pair) (now : ℤ) :
    (d.isDuplicate k.1 k.2 now).1 = true ↔ ∃ expiresAt ∈ d.entry k, now ≤ expiresAt := by
  rw [isDuplicate, entry]
  cases d.entries.lookup (dedupKey k.1 k.2) with
  | none => simp
  | some expiresAt =>
    dsimp only
    split_ifs with h
    · simpa using h
    · simpa using h

lemma snd_isDuplicate_of_duplicate {clientID : Str} {packetID : UInt16}
    (h : (d.isDuplicate clientID packetID now).1 = true) :
    (d.isDuplicate clientID packetID now).2 = d := by
  rw [isDuplicate] at h ⊢
  cases hl : d.entries.lookup (dedupKey clientID packetID) with
  | none => rfl
  | some expiresAt =>
    simp only [hl] at h ⊢
    split_ifs at h ⊢
    rfl

lemma ttl_isDuplicate (d : DedupStore) (clientID : Str) (packetID : UInt16) (now : ℤ) :
    (d.isDuplicate clientID packetID now).2.ttl = d.ttl := by
  rw [isDuplicate]
  cases d.entries.lookup (dedupKey clientID packetID) with
  | none => rfl
  | some expiresAt =>
    dsimp only
    split_ifs <;> rfl

lemma entry_markReceived (d : DedupStore) (k : Pair) (now : ℤ) :
    (d.markReceived k.1 k.2 now).entry k = some (now + d.ttl) := AList.lookup_insert _

lemma entry_markReceived_of_ne (h : k ≠ k') (now : ℤ) :
    (d.markReceived k'.1 k'.2 now).entry k = d.entry k := AList.lookup_insert_ne (key_ne h)

lemma entry_remove (d : DedupStore) (k : Pair) : (d.remove k.1 k.2).entry k = none :=
  AList.lookup_erase _ _

lemma entry_remove_of_ne (h : k ≠ k') : (d.remove k'.1 k'.2).entry k = d.entry k :=
  AList.lookup_erase_ne (key_ne h)

/-- A loop that deletes some of the entries. -/
lemma lookup_foldl_erase {K V : Type} [DecidableEq K] (p : V → Prop) [DecidablePred p]
    (m : GoMap K V) (key : K) (l : List (Sigma fun _ : K => V)) :
    (l.foldl (fun m e => if p e.2 then m.erase e.1 else m) m).lookup key =
      if ∃ e ∈ l, e.1 = key ∧ p e.2 then none else m.lookup key := by
  have hkeys : l.foldl (fun m e => if p e.2 then m.erase e.1 else m) m =
      ((l.filter fun e => p e.2).map Sigma.fst).foldl (fun m k => m.erase k) m := by
    simp [List.foldl_map, List.foldl_filter]
  rw [hkeys, GoMap.lookup_foldl_erase]
  refine if_congr ?_ rfl rfl
  simp only [List.mem_map, List.mem_filter, decide_eq_true_eq]
  exact exists_congr fun e => by rw [and_assoc, and_comm (a := p e.2)]

/-- `cleanup` deletes the entries that have expired, and no others. -/
lemma entry_cleanup (d : DedupStore) (k : Pair) (now : ℤ) :
    (d.cleanup now).entry k = (d.entry k).filter fun expiresAt => now ≤ expiresAt := by
  rw [entry, cleanup, lookup_foldl_erase (fun expiresAt => now > expiresAt), entry]
  cases hl : d.entries.lookup (dedupKey k.1 k.2) with
  | none =>
    rw [ite_self]
    rfl
  | some expiresAt =>
    have hmem : ∀ t, (⟨dedupKey k.1 k.2, t⟩ : Sigma fun _ : Str => ℤ) ∈ d.entries.entries ↔
        t = expiresAt := fun t => by
      rw [← AList.mem_lookup_iff, hl, Option.mem_some_iff, eq_comm]
    have hex : (∃ e ∈ d.entries.entries, e.1 = dedupKey k.1 k.2 ∧ now > e.2) ↔
        now > expiresAt := by
      constructor
      · rintro ⟨⟨key, t⟩, he, rfl, hlt⟩
        rwa [← (hmem t).1 he]
      · intro hlt
        exact ⟨⟨_, expiresAt⟩, (hmem expiresAt).2 rfl, rfl, hlt⟩
    simp only [hex]
    by_cases hlt : now > expiresAt
    · simp [hlt, Option.filter]
    · simp [hlt, Option.filter, not_lt.1 hlt]

lemma ttl_after (d : DedupStore) (e : ℤ × DedupEvent) : (d.after e).ttl = d.ttl := by
  obtain ⟨now, e⟩ := e
  cases e with
  | publish k =>
    rw [after, handle]
    dsimp only
    split_ifs <;> exact d.ttl_isDuplicate k.1 k.2 now
  | pubrel k | cleanup => rfl

/-! ### The store and the open packets -/

/-- The entry of the pair is that of the open PUBLISH; it may be missing once it has expired. -/
def Agree (k : Pair) (now : ℤ) (d : DedupStore) (o : Option ℤ) : Prop :=
  (∀ expiresAt ∈ d.entry k, ∃ t₁ ∈ o, expiresAt = t₁ + d.ttl) ∧
    (d.entry k = none → ∀ t₁ ∈ o, t₁ + d.ttl < now)

lemma fst_handle_publish (d : DedupStore) (k : Pair) (now : ℤ) :
    (d.handle now (.publish k)).1 = !(d.isDuplicate k.1 k.2 now).1 := by
  rw [handle]
  dsimp only
  cases (d.isDuplicate k.1 k.2 now).1 <;> rfl

lemma after_publish_of_duplicate (h : (d.isDuplicate k.1 k.2 now).1 = true) :
    d.after (now, .publish k) = d := by
  rw [DedupStore.after, handle]
  dsimp only
  rw [if_pos h, snd_isDuplicate_of_duplicate h]

lemma entry_after_publish_of_not_duplicate (h : (d.isDuplicate k.1 k.2 now).1 = false) :
    (d.after (now, .publish k)).entry k = some (now + d.ttl) := by
  rw [DedupStore.after, handle]
  dsimp only
  rw [if_neg (by simp [h]), entry_markReceived, ttl_isDuplicate]

/-- A PUBLISH of the pair passes the duplicate check if the open one has expired, or there is
none. -/
lemma Agree.fst_handle (h : Agree k now d o) (hle : now ≤ now') :
    (d.handle now' (.publish k)).1 = true ↔ ∀ t₁ ∈ o, t₁ + d.ttl < now' := by
  rw [fst_handle_publish, Bool.not_eq_true', ← Bool.not_eq_true, fst_isDuplicate]
  cases hl : d.entry k with
  | none =>
    refine iff_of_true (by simp) fun t₁ ht₁ => ?_
    have := h.2 hl t₁ ht₁
    omega
  | some expiresAt =>
    obtain ⟨t₁, ht₁, heq⟩ := h.1 expiresAt hl
    obtain rfl : o = some t₁ := ht₁
    simp only [Option.mem_some_iff, exists_eq_left', forall_eq']
    omega

lemma Agree.after_publish (h : Agree k now d o) (hle : now ≤ now') :
    Agree k now' (d.after (now', .publish k)) (openStep d.ttl k o (now', .publish k)) := by
  cases hdup : (d.isDuplicate k.1 k.2 now').1 with
  | true =>
    -- the open PUBLISH has not expired
    obtain ⟨expiresAt, hl, hlt⟩ := (fst_isDuplicate d k now').1 hdup
    obtain ⟨t₁, ht₁, rfl⟩ := h.1 expiresAt hl
    obtain rfl : o = some t₁ := ht₁
    have hopen : openStep d.ttl k (some t₁) (now', .publish k) = some t₁ := by
      simp [openStep, hlt]
    rw [after_publish_of_duplicate hdup, hopen]
    exact ⟨h.1, fun hnone => absurd (hnone.symm.trans hl) (by simp)⟩
  | false =>
    have hpass := h.fst_handle hle
    have hopen : openStep d.ttl k o (now', .publish k) = some now' := by
      cases o with
      | none => simp [openStep]
      | some t₁ =>
        have hlt := hpass.1 (by rw [fst_handle_publish, hdup, Bool.not_false]) t₁ rfl
        simp [openStep, hlt]
    rw [hopen, Agree, entry_after_publish_of_not_duplicate hdup, ttl_after]
    refine ⟨fun expiresAt hexp => ⟨now', rfl, ?_⟩, fun hnone => by cases hnone⟩
    exact (Option.some_injective _ hexp).symm

lemma Agree.after (h : Agree k now d o) (hle : now ≤ now') (e : DedupEvent) :
    Agree k now' (d.after (now', e)) (openStep d.ttl k o (now', e)) := by
  have hmono : Agree k now' d o := ⟨h.1, fun hl t₁ ht₁ => lt_of_lt_of_le (h.2 hl t₁ ht₁) hle⟩
  -- an event of another pair leaves the entry alone
  have hkeep : (d.after (now', e)).entry k = d.entry k → e.pair ≠ some k →
      Agree k now' (d.after (now', e)) (openStep d.ttl k o (now', e)) := by
    intro hentry hne
    rw [Agree, hentry, openStep_of_ne _ _ hne, ttl_after]
    exact hmono
  cases e with
  | publish k' =>
    by_cases hk : k' = k
    · subst hk
      exact h.after_publish hle
    · refine hkeep ?_ fun heq => hk (Option.some_injective _ heq)
      rw [DedupStore.after, handle]
      dsimp only
      split_ifs
      · exact entry_isDuplicate_of_ne (Ne.symm hk) now'
      · exact (entry_markReceived_of_ne (Ne.symm hk) now').trans
          (entry_isDuplicate_of_ne (Ne.symm hk) now')
  | pubrel k' =>
    by_cases hk : k' = k
    · subst hk
      have hentry : (d.after (now', .pubrel k')).entry k' = none := d.entry_remove k'
      rw [Agree, hentry]
      simp [openStep]
    · exact hkeep (entry_remove_of_ne (Ne.symm hk)) fun heq => hk (Option.some_injective _ heq)
  | cleanup =>
    have hentry : (d.after (now', .cleanup)).entry k = _ := d.entry_cleanup k now'
    rw [Agree, hentry, ttl_after]
    refine ⟨fun expiresAt hexp => h.1 expiresAt (Option.mem_filter_iff.1 hexp).1, ?_⟩
    intro hnone t₁ ht₁
    cases hl : d.entry k with
    | none => exact hmono.2 hl t₁ ht₁
    | some expiresAt =>
      -- the entry was there and has been deleted
      obtain ⟨t, ht, rfl⟩ := h.1 expiresAt hl
      obtain rfl : t₁ = t := Option.mem_unique ht₁ ht
      rw [hl] at hnone
      simpa using hnone

/-- The store and the open PUBLISH of a pair agree after every run. -/
lemma agree_foldl {d : DedupStore} {k : Pair} (hd : d.entry k = none)
    {es : List (ℤ × DedupEvent)} {now : ℤ} (hsort : es.Pairwise fun e e' => e.1 ≤ e'.1)
    (hnow : ∀ e ∈ es, e.1 ≤ now) :
    Agree k now (es.foldl after d) (opened d.ttl k es) ∧ (es.foldl after d).ttl = d.ttl := by
  induction es using List.reverseRecOn generalizing now with
  | nil => exact ⟨⟨by simp [hd], by simp [opened]⟩, rfl⟩
  | append_singleton es e ih =>
    obtain ⟨hsort', -, hlast⟩ := List.pairwise_append.1 hsort
    obtain ⟨hag, httl⟩ := ih hsort' fun e' he' => hlast e' he' e (List.mem_singleton_self _)
    have hag' := hag.after le_rfl e.2
    have hle : e.1 ≤ now := hnow e (by simp)
    rw [httl] at hag'
    simp only [opened, List.foldl_append, List.foldl_cons, List.foldl_nil]
    refine ⟨⟨hag'.1, fun hl t₁ ht₁ => lt_of_lt_of_le (hag'.2 hl t₁ ht₁) hle⟩, ?_⟩
    rw [ttl_after, httl]

end DedupStore

/-! ### Runs of the broker -/

/-- A step of the broker: a PUBLISH or a PUBREL of a client, a run of `cleanup`, or something
that leaves the received packets alone. -/
inductive Inbound (σ ρ : Type)
  | publish (c : ℕ) (fh : FixedHeader) (data : Bytes)
  | pubrel (c : ℕ) (data : Bytes)
  | cleanup
  | other (f : BrokerState σ ρ → BrokerState σ ρ) (hf : ∀ b, (f b).dedupStore = b.dedupStore)

/-- A packet that met the duplicate check, or a run of `cleanup`, and for a PUBLISH whether it
passed the check. -/
structure Receipt where
  now : ℤ
  event : DedupEvent
  passed : Bool
deriving DecidableEq

/-- The receipt without its outcome. -/
def Receipt.timed (r : Receipt) : ℤ × DedupEvent := (r.now, r.event)

namespace BrokerState

variable {σ ε ρ : Type} (cfg : Config σ ε ρ) (b : BrokerState σ ρ)

/-- The state after a step. -/
def inbound (o : ℤ × Inbound σ ρ) : BrokerState σ ρ :=
  match o.2 with
  | .publish c fh data => b.handlePublish cfg c fh data o.1
  | .pubrel c data => b.handlePubrel c data
  | .cleanup => { b with dedupStore := b.dedupStore.cleanup o.1 }
  | .other f _ => f b

/-- What a step contributes to the log.  A PUBLISH passes the check if `handlePublish` goes on
after the acknowledgement. -/
def receipt (o : ℤ × Inbound σ ρ) : Option Receipt :=
  match o.2 with
  | .publish c fh data =>
    match b.conns.lookup c, decodePublishPacket data fh.qos 4 with
    | some client, .ok pkt =>
      if fh.qos = 2 then
        some ⟨o.1, .publish (client.clientID, pkt.packetID),
          (b.acknowledge c client.clientID fh.qos pkt.packetID o.1).1⟩
      else none
    | _, _ => none
  | .pubrel c data =>
    match b.conns.lookup c, decodePubrelPacket data 4 with
    | some client, .ok pkt => some ⟨o.1, .pubrel (client.clientID, pkt.packetID), true⟩
    | _, _ => none
  | .cleanup => some ⟨o.1, .cleanup, true⟩
  | .other _ _ => none

/-- The log of a run. -/
def receipts : BrokerState σ ρ → List (ℤ × Inbound σ ρ) → List Receipt
  | _, [] => []
  | b, o :: os => (b.receipt o).toList ++ receipts (b.inbound cfg o) os

variable {b}

lemma dedupStore_checkPublish (client : Client) (fh : FixedHeader) (pkt : PublishPacket)
    (now : ℤ) : (b.checkPublish cfg client fh pkt now).dedupStore = b.dedupStore := by
  have hroute : ∀ (b : BrokerState σ ρ) topic payload qos retain,
      (b.routeMessage cfg topic payload qos retain false now).dedupStore = b.dedupStore :=
    fun b topic payload qos retain =>
      congrArg (fun b => b.dedupStore)
        (b.unrouted_routeMessage cfg topic payload qos retain false now)
  have hstore : ∀ b : BrokerState σ ρ,
      (b.storeAndRoute cfg client fh pkt now).dedupStore = b.dedupStore := by
    intro b
    have hevt : ∀ (b : BrokerState σ ρ) evt,
        (b.interceptAndRoute cfg evt now).dedupStore = b.dedupStore := by
      intro b evt
      rw [interceptAndRoute]
      cases b.interceptors with
      | none => exact hroute b _ _ _ _
      | some s =>
        dsimp only
        split
        · rfl
        · exact hroute _ _ _ _ _
    rw [storeAndRoute, hevt]
    split_ifs <;> rfl
  rw [checkPublish]
  split_ifs
  · rfl
  · dsimp only
    split
    · rfl
    · exact hstore _

lemma dedupStore_send (b : BrokerState σ ρ) (c : ℕ) (pkt : Outgoing) :
    (b.send c pkt).dedupStore = b.dedupStore :=
  congrArg (fun b => b.dedupStore) (b.stores_send c pkt)

/-- The acknowledgement of a PUBLISH does what the store does, at QoS 2. -/
lemma acknowledge_spec (c : ℕ) (clientID : Str) (qos : UInt8) (packetID : UInt16) (now : ℤ) :
    (qos = 2 →
      (b.acknowledge c clientID qos packetID now).1 =
        (b.dedupStore.handle now (.publish (clientID, packetID))).1 ∧
      (b.acknowledge c clientID qos packetID now).2.dedupStore =
        (b.dedupStore.handle now (.publish (clientID, packetID))).2) ∧
    (qos ≠ 2 → (b.acknowledge c clientID qos packetID now).2.dedupStore = b.dedupStore) := by
  constructor
  · rintro rfl
    rw [acknowledge, if_neg (by decide), if_pos rfl, DedupStore.handle]
    dsimp only
    split_ifs <;> exact ⟨rfl, dedupStore_send ..⟩
  · intro hq
    rw [acknowledge]
    split_ifs
    · exact dedupStore_send ..
    · rfl

/-- A step with a receipt does what the store does, and reports its outcome; the others leave
the store alone. -/
lemma inbound_spec (o : ℤ × Inbound σ ρ) :
    (b.receipt o = none ∧ (b.inbound cfg o).dedupStore = b.dedupStore) ∨
    ∃ r, b.receipt o = some r ∧ r.now = o.1 ∧
      r.passed = (b.dedupStore.handle r.now r.event).1 ∧
      (b.inbound cfg o).dedupStore = b.dedupStore.after r.timed := by
  obtain ⟨now, op⟩ := o
  cases op with
  | publish c fh data =>
    simp only [receipt, inbound, handlePublish]
    rcases hc : b.conns.lookup c with _ | client
    · exact Or.inl ⟨rfl, rfl⟩
    rcases hd : decodePublishPacket data fh.qos 4 with err | pkt
    · exact Or.inl ⟨rfl, rfl⟩
    have hack := acknowledge_spec (b := b) c client.clientID fh.qos pkt.packetID now
    dsimp only
    generalize b.acknowledge c client.clientID fh.qos pkt.packetID now = out at hack ⊢
    have hstore : (if out.1 = true then out.2.checkPublish cfg client fh pkt now
        else out.2).dedupStore = out.2.dedupStore := by
      split_ifs
      · exact dedupStore_checkPublish cfg client fh pkt now
      · rfl
    by_cases hq : fh.qos = 2
    · rw [if_pos hq]
      exact Or.inr ⟨_, rfl, rfl, (hack.1 hq).1, hstore.trans (hack.1 hq).2⟩
    · rw [if_neg hq]
      exact Or.inl ⟨rfl, hstore.trans (hack.2 hq)⟩
  | pubrel c data =>
    simp only [receipt, inbound, handlePubrel]
    rcases hc : b.conns.lookup c with _ | client
    · exact Or.inl ⟨rfl, rfl⟩
    rcases hd : decodePubrelPacket data 4 with err | pkt
    · exact Or.inl ⟨rfl, rfl⟩
    exact Or.inr ⟨_, rfl, rfl, rfl, dedupStore_send ..⟩
  | cleanup => exact Or.inr ⟨_, rfl, rfl, rfl, rfl⟩
  | other f hf => exact Or.inl ⟨rfl, hf b⟩

variable {os : List (ℤ × Inbound σ ρ)}

/-- Each outcome in the log is that of the store after the events before it. -/
lemma passed_of_receipts {pre post : List Receipt} {r : Receipt}
    (h : receipts cfg b os = pre ++ r :: post) :
    r.passed = (((pre.map Receipt.timed).foldl DedupStore.after b.dedupStore).handle
      r.now r.event).1 := by
  induction os generalizing b pre with
  | nil => simp [receipts] at h
  | cons o os ih =>
    rw [receipts] at h
    rcases b.inbound_spec cfg o with ⟨hnone, hstore⟩ | ⟨r₀, hsome, -, hpassed, hstore⟩
    · rw [hnone, Option.toList_none, List.nil_append] at h
      rw [ih h, hstore]
    · rw [hsome, Option.toList_some, List.singleton_append] at h
      cases pre with
      | nil =>
        obtain rfl : r₀ = r := (List.cons.inj h).1
        exact hpassed
      | cons r₁ pre =>
        obtain rfl : r₀ = r₁ := (List.cons.inj h).1
        rw [ih (List.cons.inj h).2, hstore]
        rfl

lemma sublist_receipts (os : List (ℤ × Inbound σ ρ)) :
    ((receipts cfg b os).map Receipt.now).Sublist (os.map Prod.fst) := by
  induction os generalizing b with
  | nil => exact .slnil
  | cons o os ih =>
    rw [receipts]
    rcases b.inbound_spec cfg o with ⟨hnone, -⟩ | ⟨r, hsome, hnow, -⟩
    · rw [hnone]
      exact ih.cons _
    · rw [hsome, Option.toList_some, List.singleton_append, List.map_cons, List.map_cons, hnow]
      exact ih.cons_cons _

lemma pairwise_receipts (hclock : os.Pairwise fun o o' => o.1 ≤ o'.1) :
    (receipts cfg b os).Pairwise fun r r' => r.now ≤ r'.now :=
  List.pairwise_map.1 ((List.pairwise_map.2 hclock).sublist (sublist_receipts cfg os))

/-- A PUBLISH in the log passed the check if the open one had expired, or there was none. -/
lemma passed_iff (hclock : os.Pairwise fun o o' => o.1 ≤ o'.1) {k : Pair}
    (hk : b.dedupStore.entry k = none) {pre post : List Receipt} {t : ℤ} {p : Bool}
    (h : receipts cfg b os = pre ++ ⟨t, .publish k, p⟩ :: post) :
    p = true ↔ ∀ t₁ ∈ opened b.dedupStore.ttl k (pre.map Receipt.timed),
      t₁ + b.dedupStore.ttl < t := by
  have hsort := pairwise_receipts cfg (b := b) hclock
  rw [h, List.pairwise_append] at hsort
  have hnow : ∀ e ∈ pre.map Receipt.timed, e.1 ≤ t := by
    intro e he
    obtain ⟨r, hr, rfl⟩ := List.mem_map.1 he
    exact hsort.2.2 r hr _ List.mem_cons_self
  obtain ⟨hag, httl⟩ := DedupStore.agree_foldl hk (List.pairwise_map.2 hsort.1) hnow
  have hpassed : p = _ := passed_of_receipts cfg h
  rw [hpassed, hag.fst_handle le_rfl, httl]

/-- **Inbound QoS 2.**  In every run of a broker with any number of clients, whose clock does not
go back, and for every client and packet ID of which no packet was received before: a PUBLISH
passes the duplicate check if no other was received since the last PUBREL; one that is received
after it, before the next PUBREL and within the TTL, does not; the outcome depends on the
packets of this client and packet ID alone; and no other pair has the same key. -/
theorem dedup_run (b : BrokerState σ ρ) (os : List (ℤ × Inbound σ ρ))
    (hclock : os.Pairwise fun o o' => o.1 ≤ o'.1) (k : Pair) (hk : b.dedupStore.entry k = none) :
    (∀ pre post t p, receipts cfg b os = pre ++ ⟨t, .publish k, p⟩ :: post →
      Released k (pre.map Receipt.timed) → p = true) ∧
    (∀ pre mid post t₁ p₁ t p, receipts cfg b os =
        pre ++ ⟨t₁, .publish k, p₁⟩ :: (mid ++ ⟨t, .publish k, p⟩ :: post) →
      Released k (pre.map Receipt.timed) → (∀ r ∈ mid, r.event ≠ .pubrel k) →
      t ≤ t₁ + b.dedupStore.ttl → p = false) ∧
    (∀ (cfg' : Config σ ε ρ) (b' : BrokerState σ ρ) (os' : List (ℤ × Inbound σ ρ)),
      os'.Pairwise (fun o o' => o.1 ≤ o'.1) → b'.dedupStore.entry k = none →
      b'.dedupStore.ttl = b.dedupStore.ttl →
      ∀ pre post pre' post' t p p', receipts cfg b os = pre ++ ⟨t, .publish k, p⟩ :: post →
        receipts cfg' b' os' = pre' ++ ⟨t, .publish k, p'⟩ :: post' →
        eventsOf k (pre.map Receipt.timed) = eventsOf k (pre'.map Receipt.timed) → p = p') ∧
    ∀ k' : Pair, dedupKey k'.1 k'.2 = dedupKey k.1 k.2 → k' = k := by
  refine ⟨?_, ?_, ?_, ?_⟩
  · intro pre post t p h hrel
    rw [passed_iff cfg hclock hk h, opened_of_released _ hrel]
    simp
  · intro pre mid post t₁ p₁ t p h hrel hmid hle
    have hsort := pairwise_receipts cfg (b := b) hclock
    rw [h] at hsort
    -- all that was received in between was received within the TTL
    have htime : ∀ e ∈ mid.map Receipt.timed, e.1 ≤ t₁ + b.dedupStore.ttl := by
      intro e he
      obtain ⟨r, hr, rfl⟩ := List.mem_map.1 he
      have hsort' := (List.pairwise_cons.1 (List.pairwise_append.1 hsort).2.1).2
      exact le_trans ((List.pairwise_append.1 hsort').2.2 r hr _ List.mem_cons_self) hle
    have hopen : opened b.dedupStore.ttl k
        ((pre ++ ⟨t₁, .publish k, p₁⟩ :: mid).map Receipt.timed) = some t₁ := by
      have hpre := opened_of_released b.dedupStore.ttl hrel
      rw [opened] at hpre ⊢
      rw [List.map_append, List.foldl_append, hpre, List.map_cons, List.foldl_cons]
      have hfirst : openStep b.dedupStore.ttl k none
          (Receipt.timed ⟨t₁, .publish k, p₁⟩) = some t₁ := if_pos rfl
      rw [hfirst]
      refine foldl_openStep_some _ (fun e he => ?_) htime
      obtain ⟨r, hr, rfl⟩ := List.mem_map.1 he
      exact hmid r hr
    have h' : receipts cfg b os =
        (pre ++ ⟨t₁, .publish k, p₁⟩ :: mid) ++ ⟨t, .publish k, p⟩ :: post := by
      rw [h, List.append_assoc, List.cons_append]
    have hpassed := passed_iff cfg hclock hk h'
    rw [hopen] at hpassed
    rw [← Bool.not_eq_true, hpassed]
    simpa using hle
  · intro cfg' b' os' hclock' hk' httl pre post pre' post' t p p' h h' hevents
    have hp := passed_iff cfg hclock hk h
    have hp' := passed_iff cfg' hclock' hk' h'
    rw [httl, ← opened_eventsOf, ← hevents, opened_eventsOf, ← hp] at hp'
    exact Bool.eq_iff_iff.2 hp'.symm
  · intro k' h
    exact Prod.ext (dedupKey_inj.1 h).1 (dedupKey_inj.1 h).2

/-- A client that sends a PUBLISH twice, releases it and uses the packet ID again. -/
def sampleInbound : List (ℤ × Inbound TenantChain Unit) :=
  let fh : FixedHeader := { packetType := PUBLISH, qos := 2, remainingLength := 6 }
  let data : Bytes := [0, 1, 0x74, 0, 1, 0x2A]
  [(1, .publish 0 fh data), (2, .publish 0 fh data), (3, .pubrel 0 [0, 1]), (4, .cleanup),
    (5, .publish 0 fh data)]

theorem dedup_run_sample :
    ∃ p₁ p₂ p₃, receipts sampleConfig (connectedBroker false) sampleInbound =
      [⟨1, .publish (str "cb", 1), p₁⟩, ⟨2, .publish (str "cb", 1), p₂⟩,
        ⟨3, .pubrel (str "cb", 1), true⟩, ⟨4, .cleanup, true⟩,
        ⟨5, .publish (str "cb", 1), p₃⟩] ∧ p₁ = true ∧ p₂ = false ∧ p₃ = true := by
  have hlog : receipts sampleConfig (connectedBroker false) sampleInbound =
      [⟨1, .publish (str "cb", 1), true⟩, ⟨2, .publish (str "cb", 1), false⟩,
        ⟨3, .pubrel (str "cb", 1), true⟩, ⟨4, .cleanup, true⟩,
        ⟨5, .publish (str "cb", 1), true⟩] := by decide +kernel
  obtain ⟨hfirst, hsecond, -⟩ := dedup_run sampleConfig (connectedBroker false) sampleInbound
    (by decide) (str "cb", 1) rfl
  refine ⟨true, false, true, hlog, ?_, ?_, ?_⟩
  · exact hfirst [] _ 1 true hlog (by decide)
  · exact hsecond [] [] _ 1 true 2 false hlog (by decide) (by decide) (by decide)
  · exact hfirst [⟨1, .publish (str "cb", 1), true⟩, ⟨2, .publish (str "cb", 1), false⟩,
      ⟨3, .pubrel (str "cb", 1), true⟩, ⟨4, .cleanup, true⟩] [] 5 true hlog (by decide)

end BrokerState

end Dmqtt.Broker
