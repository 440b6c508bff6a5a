/-
Postconditions of computations that may fail.

`Ensures E Q r` says that `r` is a value with the property `Q` or an error with the property
`E`.  The rules follow the way computations are put together, so that a reader is followed from
one step to the next with what the earlier steps have ensured.
-/
import Mathlib.Tactic

namespace Dmqtt.Lib

universe u

variable {ε : Type*} {α β : Type u} {E : ε → Prop} {P : α → Prop} {Q : β → Prop}

/-- The computation returns a value with the property `P` or fails with an error with the
property `E`. -/
def Ensures (E : ε → Prop) (P : α → Prop) : Except ε α → Prop
  | .ok a => P a
  | .error e => E e

namespace Ensures

variable {r : Except ε α}

lemma mono {P' : α → Prop} (h : Ensures E P r) (hP : ∀ a, P a → P' a) : Ensures E P' r := by
  cases r with
  | ok a => exact hP a h
  | error e => exact h

lemma bind {f : α → Except ε β} (h : Ensures E P r) (hf : ∀ a, P a → Ensures E Q (f a)) :
    Ensures E Q (r >>= f) := by
  cases r with
  | ok a => exact hf a h
  | error e => exact h

lemma map {f : α → β} (h : Ensures E P r) (hf : ∀ a, P a → Q (f a)) : Ensures E Q (r.map f) := by
  cases r with
  | ok a => exact hf a h
  | error e => exact h

lemma of_map {f : α → β} (h : Ensures E Q (r.map f)) : Ensures E (fun a => Q (f a)) r := by
  cases r with
  | ok a | error e => exact h

lemma of_eq_ok {a : α} (h : Ensures E P r) (hr : r = .ok a) : P a := by
  rwa [hr] at h

end Ensures

end Dmqtt.Lib
