/-
JSON objects, as far as records with flat fields and maps to numbers need them.

The text is a parameter.  As the encoder of Go does, `marshal` may replace strings that are not
valid UTF-8; a text is lossless if it replaces no others.
-/
import Dmqtt.Lib.GoTypes
import Mathlib.Data.Countable.Basic
import Mathlib.Logic.Equiv.List

namespace Dmqtt.Lib

/-- A JSON value: `numbers` is an object whose members are integers, `other` is any value that no
reader here accepts. -/
inductive JsonValue
  | null
  | bool (b : Bool)
  | number (n : ℤ)
  | string (s : List UInt8)
  | numbers (members : List (List UInt8 × ℤ))
  | other

/-- The members of a JSON object in their order. -/
abbrev JsonObject : Type := List (List UInt8 × JsonValue)

/-- The bytes are valid UTF-8. -/
def ValidUTF8 (s : List UInt8) : Prop := (ByteArray.mk s.toArray).IsValidUTF8

lemma validUTF8_toUTF8 (s : String) : ValidUTF8 s.toUTF8.data.toList := s.isValidUTF8

/-- Apply a function to the strings in a value. -/
def JsonValue.mapStrings (f : List UInt8 → List UInt8) : JsonValue → JsonValue
  | .string s => .string (f s)
  | .numbers members => .numbers (members.map fun x => (f x.1, x.2))
  | v => v

/-- The text of JSON objects. -/
structure JsonText where
  marshal : JsonObject → List UInt8
  unmarshal : List UInt8 → Option JsonObject
  /-- What becomes of a string that is written and read back. -/
  coerce : List UInt8 → List UInt8

/-- What is written is read back, but for strings that are not valid UTF-8. -/
structure JsonText.Lossless (text : JsonText) : Prop where
  coerce_eq : ∀ s, ValidUTF8 s → text.coerce s = s
  unmarshal_marshal : ∀ o, text.unmarshal (text.marshal o) =
    some (o.map fun x => (text.coerce x.1, x.2.mapStrings text.coerce))

/-- What is written is valid UTF-8: other strings are replaced. -/
def JsonText.Replacing (text : JsonText) : Prop := ∀ s, ValidUTF8 (text.coerce s)

/-! ### Members -/

/-- The members of an object as a map; a repeated name stands for its last value. -/
def JsonObject.members (o : JsonObject) : GoMap (List UInt8) JsonValue :=
  o.foldl (fun m x => m.insert x.1 x.2) ∅

/-- The value of a member; one that is missing is read as `null`. -/
def JsonObject.get (o : JsonObject) (name : List UInt8) : JsonValue :=
  (JsonObject.members o).lookup name |>.getD .null

/-- The object has a member of this name. -/
def JsonObject.has (o : JsonObject) (name : List UInt8) : Bool :=
  ((JsonObject.members o).lookup name).isSome

namespace JsonValue

/-! A reader gives nothing if the value has another type; `null` leaves the zero value. -/

def asBool : JsonValue → Option Bool
  | .null => some false
  | .bool b => some b
  | _ => none

def asString : JsonValue → Option (List UInt8)
  | .null => some []
  | .string s => some s
  | _ => none

/-- A number below `bound`. -/
def asNumber (bound : ℕ) : JsonValue → Option ℕ
  | .null => some 0
  | .number n => if 0 ≤ n ∧ n < bound then some n.toNat else none
  | _ => none

/-- A number of absolute value below `bound`, or `-bound`. -/
def asInteger (bound : ℕ) : JsonValue → Option ℤ
  | .null => some 0
  | .number n => if -bound ≤ n ∧ n < bound then some n else none
  | _ => none

/-- A map to numbers below `bound`. -/
def asNumbers (bound : ℕ) : JsonValue → Option (List (List UInt8 × ℕ))
  | .null => some []
  | .numbers members => members.mapM fun x => (asNumber bound (.number x.2)).map fun n => (x.1, n)
  | _ => none

lemma asNumber_natCast {bound n : ℕ} (h : n < bound) : asNumber bound (.number n) = some n := by
  rw [asNumber, if_pos ⟨Int.natCast_nonneg n, by exact_mod_cast h⟩, Int.toNat_natCast]

lemma asNumbers_natCast {bound : ℕ} {l : List (List UInt8 × ℕ)} (h : ∀ x ∈ l, x.2 < bound) :
    asNumbers bound (.numbers (l.map fun x => (x.1, (x.2 : ℤ)))) = some l := by
  rw [asNumbers]
  induction l with
  | nil => rfl
  | cons x l ih =>
    rw [List.map_cons, List.mapM_cons, ih fun y hy => h y (List.mem_cons_of_mem _ hy),
      asNumber_natCast (h x List.mem_cons_self)]
    rfl

/-- The members that are read are members of the value. -/
lemma mem_asNumbers {bound : ℕ} {α : Type*} {name : α → List UInt8} {number : α → ℤ} {l : List α}
    {members : List (List UInt8 × ℕ)}
    (h : asNumbers bound (.numbers (l.map fun a => (name a, number a))) = some members)
    {x : List UInt8 × ℕ} (hx : x ∈ members) : ∃ a ∈ l, name a = x.1 := by
  rw [asNumbers] at h
  induction l generalizing members with
  | nil =>
    obtain rfl := Option.some_injective _ h
    cases hx
  | cons a l ih =>
    rw [List.map_cons, List.mapM_cons] at h
    simp only [Option.bind_eq_bind, Option.bind_eq_some_iff, Option.map_eq_some_iff,
      Option.pure_def, Option.some.injEq] at h
    obtain ⟨_, ⟨n, -, rfl⟩, members', hrest, rfl⟩ := h
    rcases List.mem_cons.1 hx with rfl | hx
    · exact ⟨a, List.mem_cons_self, rfl⟩
    · obtain ⟨b, hb, hname⟩ := ih hrest hx
      exact ⟨b, List.mem_cons_of_mem _ hb, hname⟩

end JsonValue

namespace JsonObject

variable {o : JsonObject} {name : List UInt8}

lemma lookup_members_of_mem (hnodup : (o.map Prod.fst).Nodup) {v : JsonValue}
    (h : (name, v) ∈ o) : (members o).lookup name = some v :=
  GoMap.lookup_foldl_insert_of_mem Prod.snd hnodup h ∅

lemma get_of_mem (hnodup : (o.map Prod.fst).Nodup) {v : JsonValue} (h : (name, v) ∈ o) :
    get o name = v := by
  rw [get, lookup_members_of_mem hnodup h]
  rfl

lemma has_of_mem (hnodup : (o.map Prod.fst).Nodup) {v : JsonValue} (h : (name, v) ∈ o) :
    has o name = true := by
  rw [has, lookup_members_of_mem hnodup h]
  rfl

lemma get_of_notMem (h : name ∉ o.map Prod.fst) : get o name = .null := by
  rw [get, members, GoMap.lookup_foldl_insert_of_notMem Prod.snd h ∅]
  rfl

/-! What is read from the members of an object. -/

lemma asString_of_mem (hnodup : (o.map Prod.fst).Nodup) {s : List UInt8}
    (h : (name, .string s) ∈ o) : (get o name).asString = some s := by
  rw [get_of_mem hnodup h]
  rfl

lemma asBool_of_mem (hnodup : (o.map Prod.fst).Nodup) {b : Bool} (h : (name, .bool b) ∈ o) :
    (get o name).asBool = some b := by
  rw [get_of_mem hnodup h]
  rfl

lemma asNumber_of_mem (hnodup : (o.map Prod.fst).Nodup) {n bound : ℕ}
    (h : (name, .number n) ∈ o) (hn : n < bound) : (get o name).asNumber bound = some n := by
  rw [get_of_mem hnodup h]
  exact JsonValue.asNumber_natCast hn

lemma asString_of_notMem (h : name ∉ o.map Prod.fst) : (get o name).asString = some [] := by
  rw [get_of_notMem h]
  rfl

end JsonObject

/-! ### Lossless texts -/

/-- What can be numbered can be written as valid UTF-8. -/
lemma exists_validText (α : Type) [Countable α] [Nonempty α] :
    ∃ (write : α → List UInt8) (read : List UInt8 → α),
      (∀ a, read (write a) = a) ∧ ∀ a, ValidUTF8 (write a) := by
  obtain ⟨number, hnumber⟩ := exists_injective_nat α
  -- the text of the number `n` is `n` times the same letter
  let write (a : α) : List UInt8 :=
    (String.ofList (List.replicate (number a) 'a')).toUTF8.data.toList
  have hwrite : Function.Injective write := by
    intro a b h
    have hstring := String.toByteArray_inj.1 (ByteArray.ext (Array.toList_inj.1 h))
    have hlength := congrArg List.length (String.ofList_inj.1 hstring)
    rw [List.length_replicate, List.length_replicate] at hlength
    exact hnumber hlength
  exact ⟨write, Function.invFun write, Function.leftInverse_invFun hwrite,
    fun a => validUTF8_toUTF8 _⟩

instance countableUInt8 : Countable UInt8 :=
  Function.Injective.countable fun _ _ => UInt8.toNat_inj.1

instance : Countable JsonValue := by
  refine Function.Injective.countable
    (f := fun v : JsonValue => match v with
      | .null => ((0, 0, [], []) : ℕ × ℤ × List UInt8 × List (List UInt8 × ℤ))
      | .bool b => (1, if b then 1 else 0, [], [])
      | .number n => (2, n, [], [])
      | .string s => (3, 0, s, [])
      | .numbers members => (4, 0, [], members)
      | .other => (5, 0, [], [])) ?_
  intro v w h
  cases v <;> cases w <;> simp_all
  split_ifs at h <;> simp_all

/-- There is a lossless text. -/
lemma JsonText.exists_lossless : ∃ text : JsonText, text.Lossless ∧ text.Replacing := by
  classical
  obtain ⟨write, read, hread, -⟩ := exists_validText JsonObject
  let coerce (s : List UInt8) : List UInt8 := if ValidUTF8 s then s else []
  let marshal (o : JsonObject) : List UInt8 :=
    write (o.map fun x => (coerce x.1, x.2.mapStrings coerce))
  refine ⟨⟨marshal, fun data => some (read data), coerce⟩,
    ⟨fun s hs => if_pos hs, fun o => congrArg some (hread _)⟩, fun s => ?_⟩
  change ValidUTF8 (if ValidUTF8 s then s else [])
  split_ifs with hs
  · exact hs
  · exact validUTF8_toUTF8 ""

end Dmqtt.Lib
