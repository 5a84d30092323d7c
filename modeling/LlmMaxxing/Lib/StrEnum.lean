import Mathlib.Data.List.Nodup
import Mathlib.Tactic.Common

/-!
# Closed string enumerations

An enumeration whose members have pairwise distinct spellings. Reading a spelling back is
total on the spellings of members and fails on every other string.
-/

/-- A closed vocabulary: the members in declaration order and the spelling of each. -/
class StrEnum (α : Type*) where
  value : α → String
  members : List α
  mem_members : ∀ a, a ∈ members := by intro a; cases a <;> decide
  values_nodup : (members.map value).Nodup := by decide

namespace StrEnum

variable {α : Type*} [StrEnum α]

theorem value_injective : Function.Injective (value : α → String) := fun a b h =>
  List.inj_on_of_nodup_map values_nodup (mem_members a) (mem_members b) h

/-- Read a spelling; unknown spellings are rejected. -/
def ofValue? (s : String) : Option α := members.find? fun a => decide (value a = s)

theorem ofValue?_eq_some_iff {s : String} {a : α} : ofValue? s = some a ↔ value a = s := by
  constructor
  · intro h
    have hfound := List.find?_some h
    exact of_decide_eq_true hfound
  · intro h
    cases hf : (ofValue? s : Option α) with
    | none =>
      have hnone := List.find?_eq_none.mp hf a (mem_members a)
      simp [h] at hnone
    | some b =>
      have hfound := List.find?_some hf
      have hb : value b = s := of_decide_eq_true hfound
      rw [value_injective (hb.trans h.symm)]

@[simp] theorem ofValue?_value (a : α) : ofValue? (value a) = some a :=
  ofValue?_eq_some_iff.mpr rfl

end StrEnum
