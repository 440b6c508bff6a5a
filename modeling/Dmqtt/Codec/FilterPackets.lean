/-
What SUBSCRIBE and UNSUBSCRIBE packets are.

`Parts` is a packet cut in pieces: the packet ID, in version 5 the length of the property section
and the section, and the entries.  A packet can be cut in one way, and the decoders accept those
that can be cut.  In version 5 they accept others as well: a section that ends inside a subscription
identifier is refused if it stands alone, but `DecodeProperties` may find the rest of the identifier
in the entries behind it.  `filterPackets_iff` says that there are no more exceptions.
-/
import Dmqtt.Codec.Confined
import Dmqtt.Lib.Reader

namespace Dmqtt.Codec

open Lib Lib.Base128 Lib.BigEndian

/-! ### Strings and variable byte integers -/

lemma lengthPrefixed_of_get16 {b₀ b₁ : UInt8} {content : Bytes}
    (h : (get16 b₀ b₁).toNat = content.length) :
    lengthPrefixed content = [b₀, b₁] ++ content ∧ content.length ≤ 65535 := by
  have hlen := toNat_get16 b₀ b₁
  have h₀ := b₀.toNat_lt
  have h₁ := b₁.toNat_lt
  rw [h] at hlen
  have hfst : (content.length >>> 8).toUInt8 = b₀ := by
    apply UInt8.toNat_inj.1
    simp only [Nat.toUInt8_eq, UInt8.toNat_ofNat', Nat.shiftRight_eq_div_pow]
    omega
  have hsnd : content.length.toUInt8 = b₁ := by
    apply UInt8.toNat_inj.1
    simp only [Nat.toUInt8_eq, UInt8.toNat_ofNat']
    omega
  exact ⟨by rw [lengthPrefixed, hfst, hsnd], by omega⟩

/-- The bytes of a string behind its length. -/
def StringItem (item : Bytes) (s : Str) : Prop := item = lengthPrefixed s ∧ s.length ≤ 65535

lemma recognizes_readLengthPrefixed (noLength noContent : String) :
    Reader.Recognizes (fun data offset => readLengthPrefixed noLength noContent data offset
      data.length) StringItem := by
  intro pre rest s n
  constructor
  · intro h
    obtain ⟨value, post, rfl, rfl, b₀, b₁, content, rfl, hlen⟩ := prefixed_of_readLengthPrefixed h
    have hread : readLengthPrefixed noLength noContent (pre ++ (([b₀, b₁] ++ content) ++ post))
        pre.length (pre ++ (([b₀, b₁] ++ content) ++ post)).length = .ok (content, _) :=
      readLengthPrefixed_cons hlen
        (by simp only [List.length_append, List.length_cons, List.length_nil]; omega)
    dsimp only at h
    rw [hread] at h
    obtain ⟨rfl, -⟩ := Prod.mk.inj (Except.ok.inj h)
    obtain ⟨heq, hle⟩ := lengthPrefixed_of_get16 hlen
    exact ⟨_, post, rfl, rfl, heq.symm, hle⟩
  · rintro ⟨_, post, rfl, rfl, rfl, hle⟩
    rw [length_lengthPrefixed]
    exact readLengthPrefixed_append hle (by simp)

lemma recognizes_readUTF8String : Reader.Recognizes readUTF8String StringItem :=
  recognizes_readLengthPrefixed _ _

lemma recognizes_decodeVarInt : Reader.Recognizes decodeVarInt (Decodes 4) := by
  intro pre rest v n
  constructor
  · intro h
    obtain ⟨ds, post, w, rfl, hlen, hdec⟩ := decodes_of_decodeVarIntLoop rfl h
    rw [decodeVarInt, decodeVarIntLoop_append hdec pre post pre.length 0 1 0 rfl] at h
    obtain ⟨rfl, -⟩ := Prod.mk.inj (Except.ok.inj h)
    exact ⟨ds, post, rfl, by omega, by simpa using hdec⟩
  · rintro ⟨ds, post, rfl, rfl, hdec⟩
    rw [decodeVarInt, decodeVarIntLoop_append hdec pre post pre.length 0 1 0 rfl]
    simp

lemma decodeVarInt_eq_iff {len : Bytes} {v : ℕ} :
    decodeVarInt len 0 = .ok (v, len.length) ↔ Decodes 4 len v := by
  constructor
  · intro h
    obtain ⟨ds, post, heq, hlen, hdec⟩ := (recognizes_decodeVarInt [] len v len.length).1 h
    have hpost := congrArg List.length heq
    rw [List.length_append] at hpost
    obtain rfl : post = [] := List.eq_nil_of_length_eq_zero (by omega)
    rwa [heq, List.append_nil]
  · intro h
    have hread := recognizes_decodeVarInt.append h [] []
    rwa [List.append_nil] at hread

/-! ### The packets -/

/-- A packet cut in pieces. -/
structure Parts (α : Type) where
  packetID : UInt16
  /-- the length of the property section -/
  length : Bytes
  sect : Bytes
  properties : Option Properties
  entries : List α

namespace Parts

variable {α : Type}

/-- The pieces put together. -/
def bytes (entry : α → Bytes) (p : Parts α) : Bytes :=
  put16 p.packetID ++ (p.length ++ (p.sect ++ p.entries.flatMap entry))

/-- There is a property section in version 5 only: its length, and that many bytes that
`DecodeProperties` accepts. -/
inductive Section : UInt8 → Bytes → Bytes → Option Properties → Prop
  | absent {version : UInt8} (h : version ≠ 5) : Section version [] [] none
  | present {len sect : Bytes} {props : Properties}
      (hlen : decodeVarInt len 0 = .ok (sect.length, len.length))
      (hprops : decodeProperties sect sect.length = .ok props) : Section 5 len sect (some props)

/-- The pieces are those of a packet: the section of the version, and at least one entry. -/
structure WellFormed (Fits : α → Prop) (version : UInt8) (p : Parts α) : Prop where
  sect : Section version p.length p.sect p.properties
  entries_ne : p.entries ≠ []
  fits : ∀ x ∈ p.entries, Fits x

end Parts

/-- The bytes of a filter with its options. -/
def Subscription.entry (s : Subscription) : Bytes := lengthPrefixed s.topicFilter ++ [s.qos]

/-- The length of the filter is a 16-bit number. -/
def Subscription.Fits (s : Subscription) : Prop := s.topicFilter.length ≤ 65535

/-- The length of the filter is a 16-bit number. -/
def FilterFits (filter : Str) : Prop := filter.length ≤ 65535

/-- In version 5, the property section ends inside a subscription identifier. -/
def Overruns (data : Bytes) (version : UInt8) : Prop :=
  version = 5 ∧ ∃ packetID len sect rest, data = put16 packetID ++ (len ++ (sect ++ rest)) ∧
    decodeVarInt len 0 = .ok (sect.length, len.length) ∧ EndsInside sect

/-! ### Entries -/

lemma repeats_readSubscriptions :
    Reader.Repeats readSubscriptions Subscription.entry Subscription.Fits where
  item_ne s := by simp [Subscription.entry]
  stop pre := by rw [readSubscriptions, if_neg (lt_irrefl _)]
  step pre s post hs := by
    have hread : readUTF8String (pre ++ (s.entry ++ post)) pre.length =
        .ok (s.topicFilter, 2 + s.topicFilter.length) := by
      rw [Subscription.entry, List.append_assoc]
      exact readUTF8String_append hs pre _
    have hlen : (pre ++ (s.entry ++ post)).length =
        pre.length + (2 + s.topicFilter.length) + 1 + post.length := by
      simp [Subscription.entry]
      omega
    have hqos : index (pre ++ (s.entry ++ post)) (pre.length + (2 + s.topicFilter.length)) =
        .ok s.qos := by
      have hindex := index_append (pre ++ lengthPrefixed s.topicFilter) s.qos post
      rw [List.length_append, length_lengthPrefixed] at hindex
      simpa [Subscription.entry] using hindex
    have hnext : pre.length + (2 + s.topicFilter.length) + 1 = (pre ++ s.entry).length := by
      simp [Subscription.entry]
      omega
    rw [readSubscriptions, if_pos (by omega), hread]
    simp only [bind, Except.bind]
    rw [if_neg (by omega), hqos, hnext, ← List.append_assoc]
    cases readSubscriptions (pre ++ s.entry ++ post) (pre ++ s.entry).length <;> rfl
  starts pre rest subs hne h := by
    have hpos := List.length_pos_iff.2 hne
    rw [readSubscriptions, if_pos (by rw [List.length_append]; omega)] at h
    rcases hread : readUTF8String (pre ++ rest) pre.length with err | ⟨filter, n⟩
    · rw [hread] at h
      cases h
    rw [hread] at h
    simp only [bind, Except.bind] at h
    obtain ⟨_, post, rfl, rfl, rfl, hfits⟩ :=
      (recognizes_readUTF8String pre rest filter n).1 hread
    split_ifs at h with hend
    obtain ⟨qos, post, rfl⟩ : ∃ qos post', post = qos :: post' := by
      refine List.exists_cons_of_length_pos ?_
      simp only [List.length_append] at hend
      omega
    exact ⟨⟨filter, qos⟩, post, by simp [Subscription.entry], hfits⟩

lemma repeats_readTopicFilters : Reader.Repeats readTopicFilters lengthPrefixed FilterFits where
  item_ne filter := by simp [lengthPrefixed]
  stop pre := by rw [readTopicFilters, if_neg (lt_irrefl _)]
  step pre filter post hfits := by
    have hread := readUTF8String_append hfits pre post
    have hlen : pre.length < (pre ++ (lengthPrefixed filter ++ post)).length := by
      simp [lengthPrefixed]
    have hnext : pre.length + (2 + filter.length) = (pre ++ lengthPrefixed filter).length := by
      simp
    rw [readTopicFilters, if_pos hlen]
    split
    · rename_i err herr
      rw [hread] at herr
      cases herr
    · rename_i filter' n hok
      rw [hread] at hok
      cases hok
      rw [hnext, ← List.append_assoc]
      cases readTopicFilters (pre ++ lengthPrefixed filter ++ post)
        (pre ++ lengthPrefixed filter).length <;> rfl
  starts pre rest filters hne h := by
    have hpos := List.length_pos_iff.2 hne
    rw [readTopicFilters, if_pos (by rw [List.length_append]; omega)] at h
    split at h
    · cases h
    · rename_i filter n hread
      obtain ⟨_, post, rfl, rfl, rfl, hfits⟩ :=
        (recognizes_readUTF8String pre rest filter n).1 hread
      exact ⟨filter, post, rfl, hfits⟩

/-! ### Property sections -/

/-- A section is read wherever it stands. -/
lemma Parts.Section.read {version : UInt8} {len sect : Bytes} {props : Option Properties}
    (h : Section version len sect props) (pre post : Bytes) :
    readPropertiesV5 (pre ++ (len ++ (sect ++ post))) pre.length version =
      .ok (props, len.length + sect.length) := by
  cases h with
  | absent hversion =>
    rw [readPropertiesV5, if_neg hversion]
    rfl
  | @present len sect props hlen hprops =>
    have hread := recognizes_decodeVarInt.append (decodeVarInt_eq_iff.1 hlen) pre (sect ++ post)
    have hrest : sliceFrom (pre ++ (len ++ (sect ++ post))) (pre.length + len.length) =
        .ok (sect ++ post) := by
      rw [← List.append_assoc, ← List.length_append]
      exact sliceFrom_append (pre ++ len) (sect ++ post)
    have hsect := decodeProperties_append_left (not_endsInside_of_eq_ok hprops) post
    rw [readPropertiesV5, if_pos rfl, readProperties, hread]
    simp only [bind, Except.bind, hrest, hsect, hprops]
    rfl

/-- What is read as a section is one, unless it ends inside a subscription identifier. -/
lemma section_of_readPropertiesV5 {pre rest : Bytes} {version : UInt8}
    {props : Option Properties} {n : ℕ}
    (h : readPropertiesV5 (pre ++ rest) pre.length version = .ok (props, n))
    (hinside : ∀ len sect post, rest = len ++ (sect ++ post) → version = 5 →
      decodeVarInt len 0 = .ok (sect.length, len.length) → ¬ EndsInside sect) :
    ∃ len sect post, rest = len ++ (sect ++ post) ∧ n = len.length + sect.length ∧
      Parts.Section version len sect props := by
  rw [readPropertiesV5] at h
  split_ifs at h with hversion
  · subst hversion
    rw [readProperties] at h
    rcases hread : decodeVarInt (pre ++ rest) pre.length with err | ⟨propLen, pn⟩
    · simp [hread, bind, Except.bind] at h
    obtain ⟨len, tail, rfl, rfl, hlen⟩ := (recognizes_decodeVarInt pre rest propLen pn).1 hread
    have hrest : sliceFrom (pre ++ (len ++ tail)) (pre.length + len.length) = .ok tail := by
      rw [← List.append_assoc, ← List.length_append]
      exact sliceFrom_append (pre ++ len) tail
    simp only [hread, hrest, bind, Except.bind] at h
    rcases hprops : decodeProperties tail propLen with err | p
    · simp [hprops] at h
    simp only [hprops, pure, Except.pure, Except.ok.injEq, Prod.mk.injEq] at h
    obtain ⟨rfl, rfl⟩ := h
    -- the bytes of the section are there
    have hle : propLen ≤ tail.length := by
      rw [decodeProperties] at hprops
      split_ifs at hprops with h₀ hshort
      · omega
      · omega
    obtain ⟨sect, post, rfl, rfl⟩ := exists_append_of_length_le hle
    have hdec := decodeVarInt_eq_iff.2 hlen
    have hend := hinside len sect post rfl rfl hdec
    rw [decodeProperties_append_left hend] at hprops
    exact ⟨len, sect, post, rfl, rfl, .present hdec hprops⟩
  · cases h
    exact ⟨[], [], rest, rfl, rfl, .absent hversion⟩

/-! ### The decoders -/

/-- What both decoders do: read the packet ID, the property section and the entries. -/
def decodeEntries {α : Type} [DecidableEq α] (least : ℕ) (tooShort noEntry : Err)
    (loop : Bytes → ℕ → Except Err (List α)) (data : Bytes) (version : UInt8) :
    Except Err (UInt16 × Option Properties × List α) :=
  if data.length < least then .error tooShort
  else do
    let packetID ← uint16 (← slice data 0 2)
    let (properties, n) ← readPropertiesV5 data 2 version
    let entries ← loop data (2 + n)
    if entries = [] then .error noEntry else return (packetID, properties, entries)

lemma map_decodeEntries {α β : Type} [DecidableEq α] (f : UInt16 × Option Properties × List α → β)
    (least : ℕ) (tooShort noEntry : Err) (loop : Bytes → ℕ → Except Err (List α)) (data : Bytes)
    (version : UInt8) :
    (decodeEntries least tooShort noEntry loop data version).map f =
      if data.length < least then .error tooShort
      else do
        let packetID ← uint16 (← slice data 0 2)
        let (properties, n) ← readPropertiesV5 data 2 version
        let entries ← loop data (2 + n)
        if entries = [] then .error noEntry else return f (packetID, properties, entries) := by
  rw [decodeEntries]
  split_ifs
  · rfl
  simp only [bind, Except.bind, pure, Except.pure]
  rcases slice data 0 2 with err | word
  · rfl
  dsimp only
  rcases uint16 word with err | packetID
  · rfl
  rcases readPropertiesV5 data 2 version with err | ⟨properties, n⟩
  · rfl
  dsimp only
  rcases loop data (2 + n) with err | entries
  · rfl
  dsimp only
  split_ifs <;> rfl

lemma decodeSubscribePacket_eq (data : Bytes) (version : UInt8) :
    decodeSubscribePacket data version =
      (decodeEntries 5 (.malformed "SUBSCRIBE packet too short")
        (.malformed "SUBSCRIBE must contain at least one topic filter") readSubscriptions data
        version).map fun x => ⟨x.1, x.2.2, x.2.1⟩ := by
  rw [map_decodeEntries]
  rfl

lemma decodeUnsubscribePacket_eq (data : Bytes) (version : UInt8) :
    decodeUnsubscribePacket data version =
      (decodeEntries 4 (.malformed "UNSUBSCRIBE packet too short")
        (.malformed "UNSUBSCRIBE must contain at least one topic filter") readTopicFilters data
        version).map fun x => ⟨x.1, x.2.2, x.2.1⟩ := by
  rw [map_decodeEntries]
  rfl

section Decoding

variable {α : Type} [DecidableEq α] {least : ℕ} {tooShort noEntry : Err}
  {loop : Bytes → ℕ → Except Err (List α)} {entry : α → Bytes} {Fits : α → Prop}
  {version : UInt8} {p p' : Parts α}

lemma exists_put16 {data : Bytes} (h : 2 ≤ data.length) :
    ∃ packetID rest, data = put16 packetID ++ rest := by
  match data, h with
  | b₀ :: b₁ :: rest, _ => exact ⟨get16 b₀ b₁, rest, by rw [put16_get16]; rfl⟩

lemma decodeEntries_of_wellFormed (hloop : Reader.Repeats loop entry Fits)
    (hp : p.WellFormed Fits version) (hleast : least ≤ (p.bytes entry).length) :
    decodeEntries least tooShort noEntry loop (p.bytes entry) version =
      .ok (p.packetID, p.properties, p.entries) := by
  have hword : slice (p.bytes entry) 0 2 = .ok (put16 p.packetID) := slice_put16 p.packetID _
  have hsect : readPropertiesV5 (p.bytes entry) 2 version = _ :=
    hp.sect.read (put16 p.packetID) (p.entries.flatMap entry)
  have hentries := (hloop.eq_ok_iff (put16 p.packetID ++ (p.length ++ p.sect))
    (p.entries.flatMap entry) p.entries).2 ⟨rfl, hp.fits⟩
  have hbytes : put16 p.packetID ++ (p.length ++ p.sect) ++ p.entries.flatMap entry =
      p.bytes entry := by simp [Parts.bytes]
  have hoffset : (put16 p.packetID ++ (p.length ++ p.sect)).length =
      2 + (p.length.length + p.sect.length) := by simp
  have hid : uint16 (put16 p.packetID) = .ok p.packetID := uint16_put16 p.packetID []
  rw [hbytes, hoffset] at hentries
  rw [decodeEntries, if_neg (by omega), hword]
  simp only [bind, Except.bind, hid, hsect, hentries, if_neg hp.entries_ne]
  rfl

lemma exists_wellFormed_of_decodeEntries (hloop : Reader.Repeats loop entry Fits) {data : Bytes}
    {x : UInt16 × Option Properties × List α} (hleast : 2 ≤ least)
    (h : decodeEntries least tooShort noEntry loop data version = .ok x)
    (hover : ¬ Overruns data version) :
    ∃ p : Parts α, p.WellFormed Fits version ∧ p.bytes entry = data ∧
      x = (p.packetID, p.properties, p.entries) := by
  rw [decodeEntries] at h
  split_ifs at h with hshort
  obtain ⟨packetID, rest, rfl⟩ := exists_put16 (by omega : 2 ≤ data.length)
  have hid : uint16 (put16 packetID) = .ok packetID := uint16_put16 packetID []
  simp only [bind, Except.bind, slice_put16, hid] at h
  rcases hread : readPropertiesV5 (put16 packetID ++ rest) 2 version with err | ⟨props, n⟩
  · simp [hread] at h
  obtain ⟨len, sect, post, rfl, rfl, hsect⟩ := section_of_readPropertiesV5 hread
    fun len sect post heq hversion hlen hinside =>
      hover ⟨hversion, packetID, len, sect, post, by rw [heq], hlen, hinside⟩
  simp only [hread] at h
  -- the entries begin behind the section
  have hdata : put16 packetID ++ (len ++ (sect ++ post)) =
      (put16 packetID ++ (len ++ sect)) ++ post := by simp
  have hoffset : 2 + (len.length + sect.length) = (put16 packetID ++ (len ++ sect)).length := by
    simp
  rw [hdata, hoffset] at h
  rcases hentries : loop ((put16 packetID ++ (len ++ sect)) ++ post)
    (put16 packetID ++ (len ++ sect)).length with err | entries
  · rw [hentries] at h
    cases h
  rw [hentries] at h
  dsimp only at h
  split_ifs at h with hnil
  cases h
  obtain ⟨rfl, hfits⟩ := (hloop.eq_ok_iff _ _ _).1 hentries
  exact ⟨⟨packetID, len, sect, props, entries⟩, ⟨hsect, hnil, hfits⟩, rfl, rfl⟩

end Decoding

/-! ### Cutting a packet -/

section Cutting

variable {α : Type} {entry : α → Bytes} {Fits : α → Prop} {version : UInt8} {p p' : Parts α}

/-- Where the section begins and ends is determined by the bytes. -/
lemma section_unique {len len' sect sect' rest rest' : Bytes}
    (hlen : decodeVarInt len 0 = .ok (sect.length, len.length))
    (hlen' : decodeVarInt len' 0 = .ok (sect'.length, len'.length))
    (heq : len ++ (sect ++ rest) = len' ++ (sect' ++ rest')) :
    len = len' ∧ sect = sect' ∧ rest = rest' := by
  obtain ⟨rfl, hsize, htail⟩ := recognizes_decodeVarInt.unique (decodeVarInt_eq_iff.1 hlen)
    (decodeVarInt_eq_iff.1 hlen') heq
  obtain ⟨rfl, rfl⟩ := List.append_inj htail hsize
  exact ⟨rfl, rfl, rfl⟩

lemma put16_injective {id id' : UInt16} {rest rest' : Bytes}
    (h : put16 id ++ rest = put16 id' ++ rest') : id = id' ∧ rest = rest' := by
  obtain ⟨hword, rfl⟩ := List.append_inj h rfl
  have hread := uint16_put16 id []
  rw [hword, uint16_put16] at hread
  exact ⟨(Except.ok.inj hread).symm, rfl⟩

lemma wellFormed_unique {loop : Bytes → ℕ → Except Err (List α)}
    (hloop : Reader.Repeats loop entry Fits) (hp : p.WellFormed Fits version)
    (hp' : p'.WellFormed Fits version) (heq : p.bytes entry = p'.bytes entry) : p = p' := by
  obtain ⟨id, len, sect, props, entries⟩ := p
  obtain ⟨id', len', sect', props', entries'⟩ := p'
  obtain ⟨hsect, -, hfits⟩ := hp
  obtain ⟨hsect', -, hfits'⟩ := hp'
  obtain ⟨rfl, htail⟩ := put16_injective heq
  have hparts : len = len' ∧ sect = sect' ∧ props = props' ∧
      entries.flatMap entry = entries'.flatMap entry := by
    cases hsect with
    | absent hversion =>
      cases hsect' with
      | absent => exact ⟨rfl, rfl, rfl, htail⟩
      | present => exact absurd rfl hversion
    | present hlen hprops =>
      cases hsect' with
      | absent hversion => exact absurd rfl hversion
      | present hlen' hprops' =>
        obtain ⟨rfl, rfl, hrest⟩ := section_unique hlen hlen' htail
        rw [hprops] at hprops'
        exact ⟨rfl, rfl, congrArg some (Except.ok.inj hprops'), hrest⟩
  obtain ⟨rfl, rfl, rfl, hentries⟩ := hparts
  -- the loop reads both lists from the same bytes
  have hread := (hloop.eq_ok_iff [] _ entries).2 ⟨rfl, hfits⟩
  have hread' := (hloop.eq_ok_iff [] _ entries').2 ⟨hentries, hfits'⟩
  rw [hread] at hread'
  rw [Except.ok.inj hread']

lemma not_overruns_of_wellFormed (hp : p.WellFormed Fits version) :
    ¬ Overruns (p.bytes entry) version := by
  rintro ⟨rfl, packetID, len, sect, rest, heq, hlen, hinside⟩
  obtain ⟨-, htail⟩ := put16_injective heq
  have hsect := hp.sect
  obtain ⟨_, len', sect', props, entries⟩ := p
  cases hsect with
  | absent hversion => exact hversion rfl
  | present hlen' hprops =>
    obtain ⟨-, rfl, -⟩ := section_unique hlen' hlen htail
    exact not_endsInside_of_eq_ok hprops hinside

/-- The decoder accepts what can be cut, unless it accepts a section that ends too early. -/
lemma accepts_iff [DecidableEq α] {β : Type} {least : ℕ} {tooShort noEntry : Err}
    {loop : Bytes → ℕ → Except Err (List α)} (hloop : Reader.Repeats loop entry Fits)
    (hleast : 2 ≤ least) (hbytes : ∀ p : Parts α, p.entries ≠ [] → least ≤ (p.bytes entry).length)
    (f : UInt16 × Option Properties × List α → β) (data : Bytes) :
    let decoded := (decodeEntries least tooShort noEntry loop data version).map f
    (∀ pkt, decoded = .ok pkt ↔ ∃ p : Parts α, p.WellFormed Fits version ∧
        p.bytes entry = data ∧ pkt = f (p.packetID, p.properties, p.entries)) ↔
      ¬ (Overruns data version ∧ ∃ pkt, decoded = .ok pkt) := by
  constructor
  · rintro h ⟨hover, pkt, hpkt⟩
    obtain ⟨p, hp, rfl, -⟩ := (h pkt).1 hpkt
    exact not_overruns_of_wellFormed hp hover
  · intro h pkt
    constructor
    · intro hpkt
      have hover : ¬ Overruns data version := fun hover => h ⟨hover, pkt, hpkt⟩
      rcases hx : decodeEntries least tooShort noEntry loop data version with err | x
      · rw [hx] at hpkt
        cases hpkt
      · rw [hx] at hpkt
        obtain ⟨p, hp, hdata, rfl⟩ := exists_wellFormed_of_decodeEntries hloop hleast hx hover
        exact ⟨p, hp, hdata, (Except.ok.inj hpkt).symm⟩
    · rintro ⟨p, hp, rfl, rfl⟩
      rw [decodeEntries_of_wellFormed hloop hp (hbytes p hp.entries_ne)]
      rfl

end Cutting

lemma five_le_length_bytes {p : Parts Subscription} (h : p.entries ≠ []) :
    5 ≤ (p.bytes Subscription.entry).length := by
  obtain ⟨s, entries, heq⟩ := List.exists_cons_of_ne_nil h
  simp only [Parts.bytes, heq, List.flatMap_cons, Subscription.entry, List.length_append,
    length_lengthPrefixed, length_put16, List.length_singleton]
  omega

lemma four_le_length_bytes {p : Parts Str} (h : p.entries ≠ []) :
    4 ≤ (p.bytes lengthPrefixed).length := by
  obtain ⟨s, entries, heq⟩ := List.exists_cons_of_ne_nil h
  simp only [Parts.bytes, heq, List.flatMap_cons, List.length_append, length_lengthPrefixed,
    length_put16]
  omega

/-- A property section ends behind the first byte of a subscription identifier; the byte behind the
section is the first one of the length of the filter `a`. -/
def earlyEnd (entry : Bytes) : Bytes := [0, 1, 2, 0x0B, 0x80] ++ entry

lemma overruns_earlyEnd (entry : Bytes) : Overruns (earlyEnd entry) 5 := by
  have hbyte : ¬ Last 0x80 := by decide
  exact ⟨rfl, 1, [2], [0x0B, 0x80], entry, rfl, rfl, [], [0x80], rfl, .nil, by decide,
    by simpa using hbyte⟩

lemma readPropertiesV5_earlyEnd {entry : Bytes} (hentry : entry.head? = some 0) :
    readPropertiesV5 (earlyEnd entry) 2 5 =
      .ok (some { subscriptionIdentifier := some 0 }, 3) := by
  obtain ⟨entry, rfl⟩ : ∃ entry', entry = 0 :: entry' := by
    cases entry with
    | nil => cases hentry
    | cons b entry =>
      cases hentry
      exact ⟨entry, rfl⟩
  have hprops : decodeProperties ([0x0B, 0x80, 0] ++ entry) 2 =
      .ok { subscriptionIdentifier := some 0 } := by
    rw [decodeProperties, decodePropertiesLoop]
    change decodePropertiesLoop _ _ 3 _ = _
    rw [decodePropertiesLoop]
    rfl
  have hrest : sliceFrom (earlyEnd (0 :: entry)) 3 = .ok ([0x0B, 0x80, 0] ++ entry) :=
    sliceFrom_append [0, 1, 2] _
  have hlen : decodeVarInt (earlyEnd (0 :: entry)) 2 = .ok (2, 1) := rfl
  rw [readPropertiesV5, if_pos rfl, readProperties, hlen]
  simp only [bind, Except.bind, hrest, hprops]
  rfl

end Dmqtt.Codec
