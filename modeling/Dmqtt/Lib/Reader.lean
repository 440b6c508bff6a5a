/-
Readers that walk along a list.

A reader is given the whole input and an offset, and returns a value and how much it has taken.
`Recognizes` ties it to what may stand at the offset: then two ways to cut one input into items are
the same, and an input that ends inside an item is refused.  `Exact` is what is left of this for one
item, and `Exact.andThen` puts it together along a sequence of items.
-/
import Mathlib.Data.List.Basic

namespace Dmqtt.Lib

/-- A reader of values from a list, with the errors `ε`. -/
abbrev Reader (ε β α : Type*) := List β → ℕ → Except ε (α × ℕ)

namespace Reader

variable {ε β : Type*} {α γ : Type} {read : Reader ε β α}

/-- The reader succeeds where an item stands, takes the item and returns its value. -/
def Recognizes (read : Reader ε β α) (Item : List β → α → Prop) : Prop :=
  ∀ pre rest a n, read (pre ++ rest) pre.length = .ok (a, n) ↔
    ∃ item post, rest = item ++ post ∧ item.length = n ∧ Item item a

/-- The reader takes this item wherever it stands, and refuses an input that ends inside it. -/
structure Exact (read : Reader ε β α) (item : List β) (a : α) : Prop where
  append : ∀ pre post, read (pre ++ (item ++ post)) pre.length = .ok (a, item.length)
  cut : ∀ pre part, part <+: item → part ≠ item →
    ∃ err, read (pre ++ part) pre.length = .error err

/-- What reads the rest of the input accepts these items, and refuses an input that ends inside
them. -/
structure Final (last : List β → ℕ → Except ε γ) (items : List β) (c : γ) : Prop where
  whole : ∀ pre, last (pre ++ items) pre.length = .ok c
  cut : ∀ pre part, part <+: items → part ≠ items →
    ∃ err, last (pre ++ part) pre.length = .error err

namespace Recognizes

variable {Item : List β → α → Prop} {item item' post post' : List β} {a a' : α}

lemma append (h : read.Recognizes Item) (hitem : Item item a) (pre post : List β) :
    read (pre ++ (item ++ post)) pre.length = .ok (a, item.length) :=
  (h pre (item ++ post) a item.length).2 ⟨item, post, rfl, rfl, hitem⟩

/-- An input starts with at most one item. -/
lemma unique (h : read.Recognizes Item) (hitem : Item item a) (hitem' : Item item' a')
    (heq : item ++ post = item' ++ post') : item = item' ∧ a = a' ∧ post = post' := by
  have hread := h.append hitem [] post
  rw [heq, h.append hitem' [] post'] at hread
  obtain ⟨rfl, hlen⟩ := Prod.mk.inj (Except.ok.inj hread)
  obtain ⟨rfl, rfl⟩ := List.append_inj heq hlen.symm
  exact ⟨rfl, rfl, rfl⟩

lemma exact (h : read.Recognizes Item) (hitem : Item item a) : read.Exact item a where
  append := h.append hitem
  cut := by
    rintro pre part ⟨t, rfl⟩ hne
    rcases hread : read (pre ++ part) pre.length with err | ⟨a', n⟩
    · exact ⟨err, rfl⟩
    · -- what was read is the whole item
      obtain ⟨item', post, rfl, -, hitem'⟩ := (h pre part a' n).1 hread
      have heq : (item' ++ post ++ t) ++ [] = item' ++ (post ++ t) := by simp
      obtain ⟨hall, -, -⟩ := h.unique hitem hitem' heq
      have hlen := congrArg List.length hall
      simp only [List.length_append] at hlen
      obtain rfl : t = [] := List.eq_nil_of_length_eq_zero (by omega)
      exact absurd (List.append_nil _).symm hne

end Recognizes

/-- An input that ends inside two pieces ends inside the first or inside the second. -/
lemma cut_append {part first second : List β} (h : part <+: first ++ second)
    (hne : part ≠ first ++ second) :
    (part <+: first ∧ part ≠ first) ∨
      ∃ part', part = first ++ part' ∧ part' <+: second ∧ part' ≠ second := by
  rcases List.prefix_or_prefix_of_prefix h (List.prefix_append first second) with hp | ⟨t, rfl⟩
  · rcases eq_or_ne part first with rfl | hpart
    · exact Or.inr ⟨[], by simp, List.nil_prefix, by rintro rfl; simp at hne⟩
    · exact Or.inl ⟨hp, hpart⟩
  · exact Or.inr ⟨t, rfl, (List.prefix_append_right_inj first).1 h, fun heq => hne (heq ▸ rfl)⟩

/-- Read an item, and go on behind it. -/
lemma Exact.andThen {item items : List β} {a : α} {c : γ} (h : read.Exact item a)
    (last : α → List β → ℕ → Except ε γ) (hlast : Final (last a) items c) :
    Final (fun data offset => read data offset >>= fun r => last r.1 data (offset + r.2))
      (item ++ items) c where
  whole pre := by
    have hwhole := hlast.whole (pre ++ item)
    rw [List.length_append, List.append_assoc] at hwhole
    rw [h.append]
    exact hwhole
  cut := by
    intro pre part hp hne
    rcases cut_append hp hne with ⟨hp, hne⟩ | ⟨part', rfl, hp, hne⟩
    · obtain ⟨err, herr⟩ := h.cut pre part hp hne
      exact ⟨err, by rw [herr]; rfl⟩
    · obtain ⟨err, herr⟩ := hlast.cut (pre ++ item) part' hp hne
      rw [List.length_append, List.append_assoc] at herr
      refine ⟨err, ?_⟩
      rw [h.append]
      exact herr

lemma final_ok (c : γ) : Final (fun _ _ => (.ok c : Except ε γ)) ([] : List β) c where
  whole _ := rfl
  cut _ _ hp hne := absurd (List.prefix_nil.1 hp) hne

/-! ### Records -/

/-- The value of an item is changed by `f`. -/
lemma Exact.map {item : List β} {a : α} (h : read.Exact item a) (f : α → γ) :
    Exact (fun data offset => (read data offset).map fun r => (f r.1, r.2)) item (f a) where
  append pre post := by
    rw [h.append]
    rfl
  cut pre part hp hne := by
    obtain ⟨err, herr⟩ := h.cut pre part hp hne
    exact ⟨err, by rw [herr]; rfl⟩

lemma exact_nil (a : α) : Exact (fun _ _ => (.ok (a, 0) : Except ε (α × ℕ))) ([] : List β) a where
  append _ _ := rfl
  cut _ _ hp hne := absurd (List.prefix_nil.1 hp) hne

/-- A field of a record `γ`: how it is read, the bytes of its value, and the record with the
value. -/
structure Field (ε β : Type*) (γ : Type) where
  read : Reader ε β (γ → γ)
  item : List β
  set : γ → γ
  exact : read.Exact item set

/-- The field that `update` sets. -/
def Exact.field {item : List β} {a : α} (h : read.Exact item a) (update : α → γ → γ) :
    Field ε β γ :=
  ⟨_, item, update a, h.map update⟩

/-- Read fields one after the other. -/
def readAll : List (Field ε β γ) → γ → List β → ℕ → Except ε γ
  | [], c, _, _ => .ok c
  | field :: fields, c, data, offset =>
    field.read data offset >>= fun r => readAll fields (r.1 c) data (offset + r.2)

lemma readAll_nil (c : γ) (data : List β) (offset : ℕ) :
    readAll ([] : List (Field ε β γ)) c data offset = .ok c := rfl

lemma readAll_field {item : List β} {a : α} (h : read.Exact item a) (update : α → γ → γ)
    (fields : List (Field ε β γ)) (c : γ) (data : List β) (offset : ℕ) :
    readAll (h.field update :: fields) c data offset =
      read data offset >>= fun r => readAll fields (update r.1 c) data (offset + r.2) := by
  rw [readAll, Exact.field]
  dsimp only
  cases read data offset <;> rfl

lemma final_readAll (fields : List (Field ε β γ)) (c : γ) :
    Final (readAll fields c) (fields.flatMap Field.item)
      (fields.foldl (fun c field => field.set c) c) := by
  induction fields generalizing c with
  | nil => exact final_ok c
  | cons field fields ih =>
    exact field.exact.andThen (fun set => readAll fields (set c)) (ih (field.set c))

/-! ### Items up to the end of the input -/

/-- The loop `loop` reads items up to the end of the input: it stops there, takes an item that
stands in front, and does not go on if there is none. -/
structure Repeats (loop : List β → ℕ → Except ε (List α)) (item : α → List β) (Fits : α → Prop) :
    Prop where
  item_ne : ∀ a, item a ≠ []
  stop : ∀ pre, loop pre pre.length = .ok []
  step : ∀ pre a post, Fits a → loop (pre ++ (item a ++ post)) pre.length =
    (loop ((pre ++ item a) ++ post) (pre ++ item a).length).map (a :: ·)
  starts : ∀ pre rest l, rest ≠ [] → loop (pre ++ rest) pre.length = .ok l →
    ∃ a post, rest = item a ++ post ∧ Fits a

/-- The loop accepts the sequences of items. -/
lemma Repeats.eq_ok_iff {loop : List β → ℕ → Except ε (List α)} {item : α → List β}
    {Fits : α → Prop} (h : Repeats loop item Fits) (pre rest : List β) (l : List α) :
    loop (pre ++ rest) pre.length = .ok l ↔ rest = l.flatMap item ∧ ∀ a ∈ l, Fits a := by
  induction hn : rest.length using Nat.strongRecOn generalizing pre rest l with
  | ind n ih =>
    rcases eq_or_ne rest [] with rfl | hne
    · rw [List.append_nil, h.stop, Except.ok.injEq]
      constructor
      · rintro rfl
        simp
      · rintro ⟨hnil, -⟩
        -- a sequence of items without bytes has no items
        cases l with
        | nil => rfl
        | cons a l => exact absurd (List.append_eq_nil_iff.1 hnil.symm).1 (h.item_ne a)
    · have hless : ∀ a post, rest = item a ++ post → post.length < n := by
        rintro a post rfl
        have hpos := List.length_pos_iff.2 (h.item_ne a)
        rw [List.length_append] at hn
        omega
      constructor
      · intro hloop
        obtain ⟨a, post, rfl, ha⟩ := h.starts pre rest l hne hloop
        rw [h.step pre a post ha] at hloop
        rcases hrest : loop ((pre ++ item a) ++ post) (pre ++ item a).length with err | l'
        · rw [hrest] at hloop
          cases hloop
        · rw [hrest] at hloop
          obtain rfl : a :: l' = l := Except.ok.inj hloop
          obtain ⟨rfl, hfits⟩ := (ih _ (hless a post rfl) _ _ _ rfl).1 hrest
          exact ⟨rfl, List.forall_mem_cons.2 ⟨ha, hfits⟩⟩
      · rintro ⟨rfl, hfits⟩
        cases l with
        | nil => exact absurd rfl hne
        | cons a l =>
          obtain ⟨ha, hl⟩ := List.forall_mem_cons.1 hfits
          rw [List.flatMap_cons, h.step pre a _ ha,
            (ih _ (hless a _ rfl) (pre ++ item a) (l.flatMap item) l rfl).2 ⟨rfl, hl⟩]
          rfl

end Reader

end Dmqtt.Lib
