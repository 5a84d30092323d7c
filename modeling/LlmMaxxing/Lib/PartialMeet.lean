import Mathlib.Data.List.Perm.Basic
import Mathlib.Tactic.Common

/-!
# Meets that may come out empty

`meet a b` keeps the part of `a` that `b` has too, in the order of `a`. Such a meet is associative
and absorbs its left argument, and later arguments commute, but `meet a b` and `meet b a` differ in
order. A result that is not `live` counts as empty: `restrict` is the meet with the empty results
taken out. `b` contracts `a` when meeting `a` with `b` gives `b` back.
-/

/-- The laws of a meet that keeps the order of its left argument. -/
structure LeftMeet {α : Type*} (meet : α → α → α) : Prop where
  assoc : ∀ a b c, meet (meet a b) c = meet a (meet b c)
  right_comm : ∀ a b c, meet (meet a b) c = meet (meet a c) b
  absorb : ∀ a b, meet a (meet a b) = meet a b
  again : ∀ a b, meet (meet a b) b = meet a b

namespace LeftMeet

variable {α : Type*} {meet : α → α → α} {live : α → Prop} [DecidablePred live] {a b c : α}

/-- The meet, when it is not empty. -/
def restrict (meet : α → α → α) (live : α → Prop) [DecidablePred live] (a b : α) : Option α :=
  if live (meet a b) then some (meet a b) else none

theorem restrict_eq_some_iff : restrict meet live a b = some c ↔ live c ∧ meet a b = c := by
  rw [restrict]
  split
  · next hlive =>
    rw [Option.some.injEq]
    exact ⟨fun h => ⟨h ▸ hlive, h⟩, And.right⟩
  · next hlive => exact ⟨nofun, fun ⟨hc, heq⟩ => absurd (heq ▸ hc) hlive⟩

/-- Two restrictions in a row are one restriction of two meets, if an empty meet stays empty. -/
theorem restrict_bind (hlive : ∀ a b, live (meet a b) → live a) (a b c : α) :
    ((restrict meet live a b).bind fun d => restrict meet live d c) =
      if live (meet (meet a b) c) then some (meet (meet a b) c) else none := by
  by_cases hb : live (meet a b)
  · rw [restrict, if_pos hb, Option.bind_some, restrict]
  · rw [restrict, if_neg hb, Option.bind_none, if_neg fun h => hb (hlive _ _ h)]

/-- **Later arguments commute.** -/
theorem restrict_right_comm (h : LeftMeet meet) (hlive : ∀ a b, live (meet a b) → live a)
    (a b c : α) :
    ((restrict meet live a b).bind fun d => restrict meet live d c) =
      (restrict meet live a c).bind fun d => restrict meet live d b := by
  rw [restrict_bind hlive, restrict_bind hlive, h.right_comm]

/-- Restricting again by the same argument changes nothing. -/
theorem restrict_again (h : LeftMeet meet) (hlive : ∀ a b, live (meet a b) → live a) (a b : α) :
    ((restrict meet live a b).bind fun d => restrict meet live d b) = restrict meet live a b := by
  rw [restrict_bind hlive, h.again, restrict]

/-- A restriction contracts its left argument. -/
theorem restrict_contracts (h : LeftMeet meet) (hb : restrict meet live a b = some c) :
    restrict meet live a c = some c := by
  obtain ⟨hlive, rfl⟩ := restrict_eq_some_iff.mp hb
  exact restrict_eq_some_iff.mpr ⟨hlive, h.absorb a b⟩

/-- Contracting is transitive. -/
theorem contracts_trans (h : LeftMeet meet) (hab : restrict meet live a b = some b)
    (hbc : restrict meet live b c = some c) : restrict meet live a c = some c := by
  obtain ⟨-, hb⟩ := restrict_eq_some_iff.mp hab
  obtain ⟨hlive, hc⟩ := restrict_eq_some_iff.mp hbc
  refine restrict_eq_some_iff.mpr ⟨hlive, ?_⟩
  calc
    meet a c = meet a (meet b c) := by rw [hc]
    _ = meet (meet a b) c := (h.assoc a b c).symm
    _ = c := by rw [hb, hc]

end LeftMeet

/-- Keeping the members of a list that another list has. -/
theorem leftMeet_filter {α : Type*} [DecidableEq α] :
    LeftMeet fun l l' : List α => l.filter (· ∈ l') where
  assoc a b c := by
    simp only [List.filter_filter]
    refine List.filter_congr fun x hx => ?_
    simp only [List.mem_filter, decide_eq_true_eq, Bool.decide_and, Bool.and_comm]
  right_comm a b c := List.filter_comm _ _ _
  absorb a b := by
    refine List.filter_congr fun x hx => ?_
    simp only [List.mem_filter, hx, true_and, decide_eq_true_eq]
  again a b := by rw [List.filter_filter]; simp only [Bool.and_self]
