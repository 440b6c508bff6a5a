/-
The property section and the bytes behind it.

`DecodeProperties(data, L)` is given the rest of a packet and the length of the property
section.  Every arm of its switch is told where the section ends, except the one for the
subscription identifier, which reads a variable byte integer from the whole of `data`.
`decodeProperties_confined_iff` says for which sections this matters: those that end inside
such an integer.
-/
import Dmqtt.Codec.Bounds

namespace Dmqtt.Codec

open Lib Lib.Base128 Lib.BigEndian

variable {s : Bytes}

/-! ### Readers that are told where the section ends -/

lemma index_append_left {i : ℕ} (h : i < s.length) (t : Bytes) :
    index (s ++ t) i = index s i := by
  rw [index, index, List.getElem?_append_left h]

lemma slice_append_left {lo hi : ℕ} (h : hi ≤ s.length) (t : Bytes) :
    slice (s ++ t) lo hi = slice s lo hi := by
  have hlen : hi ≤ (s ++ t).length := by
    rw [List.length_append]
    omega
  by_cases hlo : lo ≤ hi
  · rw [slice, slice, slice_eq_some hlo hlen, slice_eq_some hlo h,
      List.drop_append_of_le_length (by omega), List.take_append_of_le_length]
    rw [List.length_drop]
    omega
  · rw [slice, slice, Lib.slice, Lib.slice, if_neg (by omega), if_neg (by omega)]

lemma outside_append_iff (n : ℕ) (t : Bytes) :
    (s.length < n ∨ (s ++ t).length < n) ↔ (s.length < n ∨ s.length < n) := by
  rw [List.length_append]
  omega

variable {rest items pre : Bytes} {k stop : ℕ} (offset : ℕ) (t : Bytes)

lemma readByte_append_left : readByte (s ++ t) offset s.length = readByte s offset s.length := by
  rw [readByte, readByte]
  by_cases h : s.length ≤ offset
  · rw [if_pos (Or.inl h), if_pos (Or.inl h)]
  · rw [if_neg (by rw [List.length_append]; omega), if_neg (by omega),
      index_append_left (by omega)]

lemma readUint16_append_left :
    readUint16 (s ++ t) offset s.length = readUint16 s offset s.length := by
  rw [readUint16, readUint16]
  simp only [outside_append_iff]
  split_ifs with h
  · rfl
  · rw [slice_append_left (by omega)]

lemma readUint32_append_left :
    readUint32 (s ++ t) offset s.length = readUint32 s offset s.length := by
  rw [readUint32, readUint32]
  simp only [outside_append_iff]
  split_ifs with h
  · rfl
  · rw [slice_append_left (by omega)]

lemma readLengthPrefixed_append_left (noLength noContent : String) (offset : ℕ) (t : Bytes) :
    readLengthPrefixed noLength noContent (s ++ t) offset s.length =
      readLengthPrefixed noLength noContent s offset s.length := by
  rw [readLengthPrefixed, readLengthPrefixed]
  simp only [outside_append_iff]
  split_ifs with h
  · rfl
  rw [slice_append_left (by omega)]
  congr 1
  funext b
  congr 1
  funext length
  split_ifs with h'
  · rfl
  · rw [slice_append_left (by omega)]

lemma readUserProperty_append_left :
    readUserProperty (s ++ t) offset s.length = readUserProperty s offset s.length := by
  simp only [readUserProperty, readPropString, readLengthPrefixed_append_left]

/-! ### Variable byte integers -/

/-- The bytes are fewer than a variable byte integer may have, and none of them is its last. -/
def Unterminated (bytes : Bytes) : Prop := bytes.length < 4 ∧ ∀ b ∈ bytes, ¬ Last b

lemma decodeVarIntLoop_append_left {offset i multiplier value : ℕ} (hi : offset + i = pre.length)
    (h : k ≤ rest.length ∨ ∃ b ∈ rest, Last b) (t : Bytes) :
    decodeVarIntLoop (pre ++ rest ++ t) offset k i multiplier value =
      decodeVarIntLoop (pre ++ rest) offset k i multiplier value := by
  induction k generalizing pre rest i multiplier value with
  | zero => rfl
  | succ k ih =>
    cases rest with
    | nil => simp at h
    | cons b rest =>
      have happ : pre ++ b :: rest ++ t = pre ++ b :: (rest ++ t) := by simp
      rw [happ, decodeVarIntLoop_cons hi, decodeVarIntLoop_cons hi]
      split_ifs with hb
      · rfl
      -- the byte goes on, so the end is among the bytes behind it
      have hrest : k ≤ rest.length ∨ ∃ b ∈ rest, Last b := by
        rcases h with h | ⟨b', hmem, hlast⟩
        · exact Or.inl (by simpa using h)
        · rcases List.mem_cons.1 hmem with rfl | hmem
          · exact absurd hlast hb
          · exact Or.inr ⟨b', hmem, hlast⟩
      have hi' : offset + (i + 1) = (pre ++ [b]).length := by
        rw [List.length_append, List.length_singleton]
        omega
      have hstep : decodeVarIntLoop (pre ++ [b] ++ rest ++ t) offset k (i + 1)
          (multiplier * 128) (value + digit b * multiplier) = _ := ih hi' hrest
      simpa using hstep

lemma decodeVarInt_append_left (h : ¬ Unterminated rest) (t : Bytes) :
    decodeVarInt (pre ++ rest ++ t) pre.length = decodeVarInt (pre ++ rest) pre.length := by
  refine decodeVarIntLoop_append_left rfl ?_ t
  rw [Unterminated, not_and_or] at h
  push Not at h
  exact h

/-! ### The form of a property section -/

/-- The bytes are a length and that many bytes. -/
def Prefixed (value : Bytes) : Prop :=
  ∃ b₀ b₁ content, value = [b₀, b₁] ++ content ∧ (get16 b₀ b₁).toNat = content.length

/-- The bytes are a complete value of the form. -/
def Form.Value (value : Bytes) : Form → Prop
  | .byte => value.length = 1
  | .uint16 => value.length = 2
  | .uint32 => value.length = 4
  | .varInt => ∃ v, Decodes 4 value v
  | .string => Prefixed value
  | .binary => Prefixed value
  | .pair => ∃ key val, value = key ++ val ∧ Prefixed key ∧ Prefixed val

/-- The bytes are a sequence of complete properties. -/
inductive Complete : Bytes → Prop
  | nil : Complete []
  | snoc {items value : Bytes} {propID : UInt8} {f : Form} (h : Complete items)
      (hf : form propID = some f) (hv : f.Value value) : Complete (items ++ propID :: value)

/-- Outside an unterminated subscription identifier a property does not depend on what follows
the section. -/
lemma decodeProperty_append_left {propID : UInt8}
    (h : propID = propSubscriptionIdentifier → ¬ Unterminated rest) (t : Bytes) (p : Properties) :
    decodeProperty propID (pre ++ rest ++ t) pre.length (pre ++ rest).length p =
      decodeProperty propID (pre ++ rest) pre.length (pre ++ rest).length p := by
  unfold decodeProperty
  split
  all_goals first
    | rw [readByte_append_left]
    | rw [readUint16_append_left]
    | rw [readUint32_append_left]
    | rw [readPropString, readLengthPrefixed_append_left, readPropString]
    | rw [readPropBinaryData, readLengthPrefixed_append_left, readPropBinaryData]
    | rw [readUserProperty_append_left]
    | rw [decodeVarInt_append_left (h rfl)]
    | rfl

/-! ### Complete values -/

section Values

variable {pre post : Bytes} {stop : ℕ}

lemma readLengthPrefixed_of_prefixed {noLength noContent : String} {value : Bytes}
    (h : Prefixed value) (hstop : pre.length + value.length ≤ stop) :
    ∃ content, readLengthPrefixed noLength noContent (pre ++ (value ++ post)) pre.length stop
      = .ok (content, value.length) := by
  obtain ⟨b₀, b₁, content, rfl, hlen⟩ := h
  have hsize : ([b₀, b₁] ++ content).length = 2 + content.length := by
    simp only [List.length_append, List.length_cons, List.length_nil]
  rw [hsize] at hstop ⊢
  exact ⟨content, readLengthPrefixed_cons hlen hstop⟩

lemma skip_of_value {f : Form} {value : Bytes} (hv : f.Value value)
    (hstop : pre.length + value.length ≤ stop) :
    f.skip (pre ++ (value ++ post)) pre.length stop = .ok value.length := by
  cases f with
  | byte =>
    obtain ⟨b, rfl⟩ := List.length_eq_one_iff.1 hv
    rw [Form.skip, readByte_append b hstop]
    rfl
  | uint16 =>
    obtain ⟨b₀, b₁, rfl⟩ := List.length_eq_two.1 hv
    rw [Form.skip, ← put16_get16, readUint16_append _ hstop]
    rfl
  | uint32 =>
    obtain ⟨b₀, b₁, b₂, b₃, rfl⟩ : ∃ b₀ b₁ b₂ b₃, value = [b₀, b₁, b₂, b₃] := by
      match value, hv with
      | [b₀, b₁, b₂, b₃], _ => exact ⟨b₀, b₁, b₂, b₃, rfl⟩
    have hword : slice (pre ++ ([b₀, b₁, b₂, b₃] ++ post)) pre.length (pre.length + 4)
        = .ok [b₀, b₁, b₂, b₃] := slice_middle rfl rfl
    rw [Form.skip, readUint32, if_neg (by simp at hstop ⊢; omega), hword]
    rfl
  | varInt =>
    obtain ⟨v, hv⟩ := hv
    rw [Form.skip, decodeVarInt, decodeVarIntLoop_append hv pre post pre.length 0 1 0 rfl]
    exact congrArg Except.ok (Nat.zero_add _)
  | string | binary =>
    obtain ⟨content, hread⟩ := readLengthPrefixed_of_prefixed hv hstop
    exact congrArg (Except.map Prod.snd) hread
  | pair =>
    obtain ⟨key, val, rfl, hkey, hval⟩ := hv
    rw [List.length_append] at hstop
    obtain ⟨k, hreadKey⟩ : ∃ k, readPropString (pre ++ (key ++ (val ++ post))) pre.length stop
        = .ok (k, key.length) := readLengthPrefixed_of_prefixed hkey (by omega)
    -- the second string is read where the first ended
    obtain ⟨v, hreadVal⟩ : ∃ v, readPropString (pre ++ key ++ (val ++ post)) (pre ++ key).length
        stop = .ok (v, val.length) :=
      readLengthPrefixed_of_prefixed hval (by rw [List.length_append]; omega)
    rw [List.length_append, List.append_assoc] at hreadVal
    rw [Form.skip, readUserProperty, List.append_assoc, hreadKey]
    simp only [bind, Except.bind, hreadVal, List.length_append]
    rfl

lemma exists_append_of_length_le {rest : Bytes} {n : ℕ} (h : n ≤ rest.length) :
    ∃ value post, rest = value ++ post ∧ value.length = n :=
  ⟨rest.take n, rest.drop n, (List.take_append_drop n rest).symm, List.length_take_of_le h⟩

lemma prefixed_of_readLengthPrefixed {noLength noContent : String} {rest content : Bytes} {n : ℕ}
    (h : readLengthPrefixed noLength noContent (pre ++ rest) pre.length stop = .ok (content, n)) :
    ∃ value post, rest = value ++ post ∧ value.length = n ∧ Prefixed value := by
  have hends := (reads_readLengthPrefixed noLength noContent).of_eq_ok h
  rw [List.length_append] at hends
  obtain ⟨word, tail, rfl, hword⟩ :=
    exists_append_of_length_le (n := 2) (by omega : 2 ≤ rest.length)
  obtain ⟨b₀, b₁, rfl⟩ := List.length_eq_two.1 hword
  have hslice : slice (pre ++ ([b₀, b₁] ++ tail)) pre.length (pre.length + 2) = .ok [b₀, b₁] :=
    slice_middle rfl rfl
  rw [readLengthPrefixed] at h
  split_ifs at h with hshort
  rw [hslice] at h
  simp only [bind, Except.bind, uint16] at h
  split_ifs at h with hlong
  have hcontent : (get16 b₀ b₁).toNat ≤ tail.length := by
    simp only [List.length_append, List.length_cons, List.length_nil] at hlong
    omega
  obtain ⟨content', post, rfl, hlen⟩ := exists_append_of_length_le hcontent
  refine ⟨[b₀, b₁] ++ content', post, by simp, ?_, b₀, b₁, content', rfl, hlen.symm⟩
  split at h
  · cases h
  · cases h
    simp only [List.length_append, List.length_cons, List.length_nil]
    omega

lemma decodes_of_decodeVarIntLoop {k offset i multiplier value v n : ℕ} {rest : Bytes}
    (hi : offset + i = pre.length)
    (h : decodeVarIntLoop (pre ++ rest) offset k i multiplier value = .ok (v, n)) :
    ∃ ds post w, rest = ds ++ post ∧ i + ds.length = n ∧ Decodes k ds w := by
  induction k generalizing pre rest i multiplier value with
  | zero => cases h
  | succ k ih =>
    cases rest with
    | nil =>
      rw [decodeVarIntLoop, if_pos (by simp [hi])] at h
      cases h
    | cons b rest =>
      rw [decodeVarIntLoop_cons hi] at h
      split_ifs at h with hb
      · cases h
        exact ⟨[b], rest, _, rfl, rfl, .last hb⟩
      · have hi' : offset + (i + 1) = (pre ++ [b]).length := by
          rw [List.length_append, List.length_singleton]
          omega
        rw [List.append_cons] at h
        obtain ⟨ds, post, w, rfl, hlen, hdec⟩ := ih hi' h
        exact ⟨b :: ds, post, _, rfl, by rw [List.length_cons]; omega, .more hb hdec⟩

lemma value_of_skip {f : Form} {rest : Bytes} {n : ℕ}
    (h : f.skip (pre ++ rest) pre.length stop = .ok n) :
    ∃ value post, rest = value ++ post ∧ value.length = n ∧ f.Value value := by
  have hmap : ∀ {α : Type} {r : Except Err (α × ℕ)}, r.map Prod.snd = .ok n →
      ∃ a, r = .ok (a, n) := by
    rintro α (err | ⟨a, m⟩) hr
    · cases hr
    · cases hr
      exact ⟨a, rfl⟩
  -- the values of a fixed length
  have hfixed : ∀ {α : Type} {r : Except Err (α × ℕ)} {k : ℕ},
      Reads (fun x => x.2 = k ∧ pre.length + x.2 ≤ stop ∧ pre.length + x.2 ≤ (pre ++ rest).length)
        r → r.map Prod.snd = .ok n →
      ∃ value post, rest = value ++ post ∧ value.length = n ∧ value.length = k := by
    intro α r k hr h
    obtain ⟨a, ha⟩ := hmap h
    obtain ⟨rfl, -, hends⟩ := hr.of_eq_ok ha
    rw [List.length_append] at hends
    obtain ⟨value, post, heq, hval⟩ := exists_append_of_length_le (Nat.le_of_add_le_add_left hends)
    exact ⟨value, post, heq, hval, hval⟩
  cases f with
  | byte => exact hfixed reads_readByte h
  | uint16 => exact hfixed reads_readUint16 h
  | uint32 => exact hfixed reads_readUint32 h
  | varInt =>
    obtain ⟨v, hv⟩ := hmap h
    obtain ⟨ds, post, w, heq, hds, hdec⟩ := decodes_of_decodeVarIntLoop rfl hv
    exact ⟨ds, post, heq, by omega, w, hdec⟩
  | string | binary =>
    obtain ⟨content, hread⟩ := hmap h
    exact prefixed_of_readLengthPrefixed hread
  | pair =>
    obtain ⟨v, hv⟩ := hmap h
    rw [readUserProperty] at hv
    rcases hkey : readPropString (pre ++ rest) pre.length stop with err | ⟨k, n₁⟩
    · simp [hkey, bind, Except.bind] at hv
    obtain ⟨key, rest', rfl, rfl, hprefKey⟩ := prefixed_of_readLengthPrefixed hkey
    rw [← List.append_assoc] at hv hkey
    rcases hval : readPropString (pre ++ key ++ rest') (pre.length + key.length) stop with
      err | ⟨w, n₂⟩
    · simp only [hkey, hval, bind, Except.bind, reduceCtorEq] at hv
    simp only [hkey, hval, bind, Except.bind, pure, Except.pure, Except.ok.injEq,
      Prod.mk.injEq] at hv
    rw [← List.length_append] at hval
    obtain ⟨val, post, rfl, hn₂, hprefVal⟩ := prefixed_of_readLengthPrefixed hval
    refine ⟨key ++ val, post, by simp, ?_, key, val, rfl, hprefKey, hprefVal⟩
    rw [List.length_append]
    omega

end Values

/-! ### The loop over a section -/

/-- The loop of `DecodeProperties`, with the offset at which it ends. -/
def decodePropertiesEnd (data : Bytes) (stop offset : ℕ) (p : Properties) :
    Except Err (Properties × ℕ) :=
  if offset < stop then
    if data.length ≤ offset then .error (.malformed "truncated property")
    else do
      let propID ← index data offset
      let (p, n) ← decodeProperty propID data (offset + 1) stop p
      decodePropertiesEnd data stop (offset + 1 + n) p
  else
    .ok (p, offset)
termination_by stop - offset
decreasing_by omega

lemma decodePropertiesLoop_eq_map (data : Bytes) (stop offset : ℕ) (p : Properties) :
    decodePropertiesLoop data stop offset p =
      (decodePropertiesEnd data stop offset p).map Prod.fst := by
  fun_induction decodePropertiesEnd data stop offset p with
  | case1 offset p h₁ h₂ =>
    rw [decodePropertiesLoop, if_pos h₁, if_pos h₂]
    rfl
  | case2 offset p h₁ h₂ ih =>
    rw [decodePropertiesLoop, if_pos h₁, if_neg h₂]
    cases index data offset with
    | error err => rfl
    | ok propID =>
      simp only [bind, Except.bind]
      cases decodeProperty propID data (offset + 1) stop p with
      | error err => rfl
      | ok r => exact ih r.1 r.2
  | case3 offset p h =>
    rw [decodePropertiesLoop, if_neg h]
    rfl

/-- One turn of the loop, at the identifier `propID`. -/
lemma decodePropertiesEnd_cons {propID : UInt8} (h : pre.length < stop) (p : Properties) :
    decodePropertiesEnd (pre ++ propID :: rest) stop pre.length p =
      decodeProperty propID (pre ++ propID :: rest) (pre.length + 1) stop p >>= fun r =>
        decodePropertiesEnd (pre ++ propID :: rest) stop (pre.length + 1 + r.2) r.1 := by
  have hdata : ¬ (pre ++ propID :: rest).length ≤ pre.length := by simp
  rw [decodePropertiesEnd, if_pos h, if_neg hdata, index_append]
  rfl

/-- The section ends inside a subscription identifier: behind complete properties come its
identifier and bytes that all announce a further one, fewer than four. -/
def EndsInside (s : Bytes) : Prop :=
  ∃ items rest, s = items ++ propSubscriptionIdentifier :: rest ∧ Complete items ∧
    Unterminated rest

/-- Decoding depends on the section only, and ends where the section ends. -/
structure Confined (s : Bytes) : Prop where
  same : ∀ data data', s <+: data → s <+: data' →
    (decodeProperties data s.length).toOption = (decodeProperties data' s.length).toOption
  ends : ∀ data p n, s <+: data → decodePropertiesEnd data s.length 0 {} = .ok (p, n) →
    n = s.length

/-- From the end of complete properties on, the loop reads the section as if nothing followed
it, and ends at its end. -/
lemma decodePropertiesEnd_append_left (hs : ¬ EndsInside s) (t : Bytes) (heq : s = items ++ rest)
    (hitems : Complete items) (p : Properties) :
    decodePropertiesEnd (s ++ t) s.length items.length p =
        decodePropertiesEnd s s.length items.length p ∧
      ∀ r, decodePropertiesEnd s s.length items.length p = .ok r → r.2 = s.length := by
  induction h : rest.length using Nat.strong_induction_on generalizing items rest p with
  | _ m ih =>
    cases rest with
    | nil =>
      rw [List.append_nil] at heq
      subst heq
      rw [decodePropertiesEnd, if_neg (lt_irrefl _), decodePropertiesEnd,
        if_neg (lt_irrefl _)]
      refine ⟨rfl, ?_⟩
      rintro r hr
      cases hr
      rfl
    | cons propID rest =>
      have hlt : items.length < s.length := by simp [heq]
      -- the arm that is not told the end of the section is not in its bad case
      have hterm : propID = propSubscriptionIdentifier → ¬ Unterminated rest := by
        rintro rfl hun
        exact hs ⟨items, rest, heq, hitems, hun⟩
      have happ : s = (items ++ [propID]) ++ rest := by simp [heq]
      have hone : items.length + 1 = (items ++ [propID]).length := by simp
      have hprop : decodeProperty propID (s ++ t) (items.length + 1) s.length p =
          decodeProperty propID s (items.length + 1) s.length p := by
        rw [happ, hone]
        exact decodeProperty_append_left hterm t p
      have hturn : decodePropertiesEnd (items ++ propID :: rest) s.length items.length p = _ :=
        decodePropertiesEnd_cons hlt p
      have hturn' : decodePropertiesEnd (items ++ propID :: (rest ++ t)) s.length items.length p
          = _ := decodePropertiesEnd_cons hlt p
      have hst : items ++ propID :: (rest ++ t) = s ++ t := by simp [heq]
      rw [← heq] at hturn
      rw [hst, hprop] at hturn'
      rw [hturn, hturn']
      rcases hread : decodeProperty propID s (items.length + 1) s.length p with err | r
      · exact ⟨rfl, fun r hr => by cases hr⟩
      -- what was read is a complete property
      have hskip := map_snd_decodeProperty propID s (items.length + 1) s.length p
      rw [hread] at hskip
      cases hform : form propID with
      | none =>
        rw [hform] at hskip
        cases hskip
      | some f =>
        simp only [hform] at hskip
        rw [happ, hone] at hskip
        obtain ⟨value, post, rfl, hlen, hval⟩ := value_of_skip hskip.symm
        have hnext : items.length + 1 + r.2 = (items ++ propID :: value).length := by
          rw [← hlen, List.length_append, List.length_cons]
          omega
        have hless : post.length < m := by
          rw [← h, List.length_cons, List.length_append]
          omega
        simp only [bind, Except.bind, hnext]
        exact ih post.length hless (by simp [heq]) (hitems.snoc hform hval) r.1 rfl

/-- The loop gets past complete properties. -/
lemma exists_decodePropertiesEnd_eq (hitems : Complete items) (hstop : items.length ≤ stop)
    (post : Bytes) :
    ∃ p, decodePropertiesEnd (items ++ post) stop 0 {} =
      decodePropertiesEnd (items ++ post) stop items.length p := by
  induction hitems generalizing post with
  | nil => exact ⟨{}, rfl⟩
  | @snoc items value propID f _ hf hv ih =>
    have hsize : (items ++ propID :: value).length = items.length + 1 + value.length := by
      rw [List.length_append, List.length_cons]
      omega
    rw [hsize] at hstop
    obtain ⟨p, hp⟩ := ih (by omega) (propID :: (value ++ post))
    -- the next turn reads the last property
    have hskip := map_snd_decodeProperty propID (items ++ propID :: (value ++ post))
      (items.length + 1) stop p
    have happ : items ++ propID :: (value ++ post) = (items ++ [propID]) ++ (value ++ post) := by
      simp
    have hone : items.length + 1 = (items ++ [propID]).length := by simp
    have hval : f.skip (items ++ propID :: (value ++ post)) (items.length + 1) stop =
        .ok value.length := by
      rw [happ, hone]
      exact skip_of_value hv (by rw [← hone]; exact hstop)
    simp only [hf, hval] at hskip
    rcases hread : decodeProperty propID (items ++ propID :: (value ++ post))
      (items.length + 1) stop p with err | r
    · rw [hread] at hskip
      cases hskip
    rw [hread] at hskip
    have hr : r.2 = value.length := Except.ok.inj hskip
    refine ⟨r.1, ?_⟩
    rw [List.append_assoc, List.cons_append, hp, decodePropertiesEnd_cons (by omega), hread,
      hsize, ← hr]
    rfl

lemma exists_last_of_decodes {v : ℕ} {ds : Bytes} (h : Decodes k ds v) : ∃ b ∈ ds, Last b := by
  induction h with
  | last hb => exact ⟨_, List.mem_singleton_self _, hb⟩
  | more _ _ ih =>
    obtain ⟨b, hmem, hb⟩ := ih
    exact ⟨b, List.mem_cons_of_mem _ hmem, hb⟩

lemma exists_decodes_append_zero (hlen : rest.length < k) (h : ∀ b ∈ rest, ¬ Last b) :
    ∃ v, Decodes k (rest ++ [0]) v := by
  induction rest generalizing k with
  | nil =>
    obtain ⟨k, rfl⟩ := Nat.exists_eq_succ_of_ne_zero (by omega : k ≠ 0)
    exact ⟨_, .last (by decide)⟩
  | cons b rest ih =>
    rw [List.length_cons] at hlen
    obtain ⟨k, rfl⟩ := Nat.exists_eq_succ_of_ne_zero (by omega : k ≠ 0)
    obtain ⟨v, hv⟩ := ih (by omega : rest.length < k) fun b hb => h b (List.mem_cons_of_mem _ hb)
    exact ⟨_, .more (h b List.mem_cons_self) hv⟩

lemma decodeProperties_eq_map {data : Bytes} {n : ℕ} (h₀ : n ≠ 0) (h : n ≤ data.length) :
    decodeProperties data n = (decodePropertiesEnd data n 0 {}).map Prod.fst := by
  rw [decodeProperties, if_neg h₀, if_neg (by omega), decodePropertiesLoop_eq_map]

/-- Behind complete properties, the loop reads the variable byte integer of a subscription
identifier. -/
lemma exists_decodePropertiesEnd_identifier (hitems : Complete items) (hlt : items.length < stop)
    (rest : Bytes) :
    ∃ set : ℕ → Properties,
      decodePropertiesEnd (items ++ propSubscriptionIdentifier :: rest) stop 0 {} =
        decodeVarInt (items ++ [propSubscriptionIdentifier] ++ rest)
            (items ++ [propSubscriptionIdentifier]).length >>= fun r =>
          decodePropertiesEnd (items ++ propSubscriptionIdentifier :: rest) stop
            ((items ++ [propSubscriptionIdentifier]).length + r.2) (set r.1) := by
  obtain ⟨p, hp⟩ := exists_decodePropertiesEnd_eq hitems hlt.le
    (propSubscriptionIdentifier :: rest)
  refine ⟨fun v => { p with subscriptionIdentifier := some v.toUInt32 }, ?_⟩
  have happ : items ++ [propSubscriptionIdentifier] ++ rest =
      items ++ propSubscriptionIdentifier :: rest := by simp
  have hone : (items ++ [propSubscriptionIdentifier]).length = items.length + 1 := by simp
  rw [hp, decodePropertiesEnd_cons hlt, happ, hone]
  change (decodeVarInt _ _).map _ >>= _ = _
  cases decodeVarInt (items ++ propSubscriptionIdentifier :: rest) (items.length + 1) <;> rfl

/-- A section that ends inside a subscription identifier is refused if nothing follows it. -/
lemma exists_decodePropertiesEnd_eq_error (hitems : Complete items) (hrest : Unterminated rest) :
    ∃ err, decodePropertiesEnd (items ++ propSubscriptionIdentifier :: rest)
      (items ++ propSubscriptionIdentifier :: rest).length 0 {} = .error err := by
  have hlt : items.length < (items ++ propSubscriptionIdentifier :: rest).length := by simp
  obtain ⟨set, hset⟩ := exists_decodePropertiesEnd_identifier hitems hlt rest
  rw [hset]
  rcases hread : decodeVarInt (items ++ [propSubscriptionIdentifier] ++ rest)
    (items ++ [propSubscriptionIdentifier]).length with err | ⟨v, n⟩
  · exact ⟨err, rfl⟩
  · -- none of the bytes could end the integer
    obtain ⟨ds, post, w, rfl, -, hdec⟩ := decodes_of_decodeVarIntLoop rfl hread
    obtain ⟨b, hmem, hb⟩ := exists_last_of_decodes hdec
    exact absurd hb (hrest.2 b (List.mem_append_left _ hmem))

/-- It is accepted if the byte that follows it ends the identifier. -/
lemma exists_decodePropertiesEnd_eq_ok (hitems : Complete items) (hrest : Unterminated rest) :
    ∃ r, decodePropertiesEnd (items ++ propSubscriptionIdentifier :: (rest ++ [0]))
      (items ++ propSubscriptionIdentifier :: rest).length 0 {} = .ok r := by
  have hlt : items.length < (items ++ propSubscriptionIdentifier :: rest).length := by simp
  obtain ⟨set, hset⟩ := exists_decodePropertiesEnd_identifier hitems hlt (rest ++ [0])
  obtain ⟨v, hv⟩ := exists_decodes_append_zero hrest.1 hrest.2
  have hread := decodeVarIntLoop_append hv (items ++ [propSubscriptionIdentifier]) []
    (items ++ [propSubscriptionIdentifier]).length 0 1 0 rfl
  rw [List.append_nil] at hread
  -- the loop ends one byte behind the section
  have hend : ¬ (items ++ [propSubscriptionIdentifier]).length + (0 + (rest ++ [0]).length) <
      (items ++ propSubscriptionIdentifier :: rest).length := by
    simp only [List.length_append, List.length_cons, List.length_nil]
    omega
  rw [hset, decodeVarInt, hread]
  simp only [bind, Except.bind]
  rw [decodePropertiesEnd, if_neg hend]
  exact ⟨_, rfl⟩

lemma decodeProperties_append_left (h : ¬ EndsInside s) (t : Bytes) :
    decodeProperties (s ++ t) s.length = decodeProperties s s.length := by
  rcases eq_or_ne s.length 0 with h₀ | h₀
  · rw [decodeProperties, if_pos h₀, decodeProperties, if_pos h₀]
  · rw [decodeProperties_eq_map h₀ (by simp), decodeProperties_eq_map h₀ le_rfl]
    exact congrArg _ (decodePropertiesEnd_append_left h t rfl .nil {}).1

lemma not_endsInside_of_eq_ok {p : Properties} (h : decodeProperties s s.length = .ok p) :
    ¬ EndsInside s := by
  rintro ⟨items, rest, rfl, hitems, hrest⟩
  obtain ⟨err, herr⟩ := exists_decodePropertiesEnd_eq_error hitems hrest
  rw [decodeProperties_eq_map (by simp) le_rfl, herr] at h
  cases h

lemma not_confined_of_endsInside (h : EndsInside s) : ¬ Confined s := by
  obtain ⟨items, rest, rfl, hitems, hrest⟩ := h
  intro hconf
  obtain ⟨err, herr⟩ := exists_decodePropertiesEnd_eq_error hitems hrest
  obtain ⟨r, hr⟩ := exists_decodePropertiesEnd_eq_ok hitems hrest
  have hlong : (items ++ propSubscriptionIdentifier :: rest).length ≤
      (items ++ propSubscriptionIdentifier :: (rest ++ [0])).length := by
    simp only [List.length_append, List.length_cons, List.length_nil]
    omega
  have hsame := hconf.same _ (items ++ propSubscriptionIdentifier :: (rest ++ [0]))
    List.prefix_rfl ⟨[0], by simp⟩
  rw [decodeProperties_eq_map (by simp) le_rfl, herr, decodeProperties_eq_map (by simp) hlong,
    hr] at hsame
  cases hsame

/-- **When decoding is confined to the property section**: exactly when the section does not
end inside a subscription identifier. -/
theorem decodeProperties_confined_iff (s : Bytes) : Confined s ↔ ¬ EndsInside s := by
  refine ⟨fun h h' => not_confined_of_endsInside h' h, fun h => ?_⟩
  constructor
  · rintro _ _ ⟨t, rfl⟩ ⟨t', rfl⟩
    rw [decodeProperties_append_left h, decodeProperties_append_left h]
  · rintro _ p n ⟨t, rfl⟩ hend
    obtain ⟨hsame, hends⟩ := decodePropertiesEnd_append_left h t rfl .nil {}
    exact hends (p, n) (hsame.symm.trans hend)

/-- The section `0B 80` is refused at the end of a packet, and read as the subscription
identifier 128 when the next byte of the packet is `01`. -/
theorem decodeProperties_not_confined :
    decodeProperties [0x0B, 0x80] 2 =
      .error (.malformed "truncated variable byte integer") ∧
    decodeProperties [0x0B, 0x80, 0x01] 2 = .ok { subscriptionIdentifier := some 128 } ∧
    ¬ Confined [0x0B, 0x80] := by
  have hcut : decodeProperties [0x0B, 0x80] 2 =
      .error (.malformed "truncated variable byte integer") := by
    rw [decodeProperties, decodePropertiesLoop]
    rfl
  have hpast : decodeProperties [0x0B, 0x80, 0x01] 2 =
      .ok { subscriptionIdentifier := some 128 } := by
    rw [decodeProperties, decodePropertiesLoop]
    change decodePropertiesLoop _ _ 3 _ = _
    rw [decodePropertiesLoop]
    rfl
  refine ⟨hcut, hpast, fun h => ?_⟩
  have hsame := h.same [0x0B, 0x80] [0x0B, 0x80, 0x01] List.prefix_rfl ⟨[0x01], rfl⟩
  rw [show ([0x0B, 0x80] : Bytes).length = 2 from rfl, hcut, hpast] at hsame
  cases hsame

end Dmqtt.Codec
