import Mathlib.Algebra.Ring.Nat
import Mathlib.Algebra.BigOperators.Group.List.Basic
import Mathlib.Algebra.Order.BigOperators.Group.List
import Mathlib.Algebra.Order.Group.Nat
import Mathlib.Data.List.Perm.Subperm
import Mathlib.Tactic.Common

/-!
# Weights inside a sliding window

A log of stamped, weighted entries. `total w t log` is the weight of the entries stamped in
`(t - w, t]`. A limiter that admits an entry only when the window ending now has room for it,
and whose clock does not run backwards, keeps every window under the limit, also the windows
that end between or after the admissions. Weights that shrink later do no harm.
-/

namespace SlidingWindow

variable {α : Type*} (stamp weight : α → Nat)

/-- Whether a stamp lies in `(t - w, t]`. -/
def Within (w : Nat) (t : Int) (s : Nat) : Prop := t - w < s ∧ (s : Int) ≤ t

instance (w : Nat) (t : Int) (s : Nat) : Decidable (Within w t s) :=
  inferInstanceAs (Decidable (_ ∧ _))

/-- The weight inside the window of length `w` that ends at `t`. -/
def total (w : Nat) (t : Int) (log : List α) : Nat :=
  ((log.filter fun a => decide (Within w t (stamp a))).map weight).sum

@[simp] theorem total_nil (w : Nat) (t : Int) : total stamp weight w t [] = 0 := rfl

theorem total_cons (w : Nat) (t : Int) (a : α) (log : List α) :
    total stamp weight w t (a :: log) =
      (if Within w t (stamp a) then weight a else 0) + total stamp weight w t log := by
  by_cases h : Within w t (stamp a) <;> simp [total, h]

/-- Fewer entries in the window and smaller weights weigh less. -/
theorem total_le_total_of_forall₂ {log log' : List α} {w : Nat} {t : Int}
    (h : List.Forall₂ (fun a b => stamp a = stamp b ∧ weight a ≤ weight b) log log') :
    total stamp weight w t log ≤ total stamp weight w t log' := by
  induction h with
  | nil => exact le_rfl
  | cons hab _ ih =>
    rw [total_cons, total_cons, hab.1]
    split
    · exact Nat.add_le_add hab.2 ih
    · exact Nat.add_le_add (le_refl 0) ih

/-- A window that ends after `now` holds no more of an old log than the one ending at `now`. -/
theorem total_le_total_of_le {log : List α} {w : Nat} {now t : Int} (hle : now ≤ t)
    (hpast : ∀ a ∈ log, (stamp a : Int) ≤ now) :
    total stamp weight w t log ≤ total stamp weight w now log := by
  induction log with
  | nil => exact le_rfl
  | cons a log ih =>
    rw [List.forall_mem_cons] at hpast
    rw [total_cons, total_cons]
    refine Nat.add_le_add ?_ (ih hpast.2)
    by_cases hin : Within w t (stamp a)
    · have hnow : Within w now (stamp a) := ⟨by have := hin.1; omega, hpast.1⟩
      rw [if_pos hin, if_pos hnow]
    · rw [if_neg hin]
      exact Nat.zero_le _

/-- **One admission.** An entry stamped now, with room in the window that ends now, leaves every
window under the limit. -/
theorem total_cons_le {log : List α} {a : α} {w limit : Nat}
    (hold : ∀ t, total stamp weight w t log ≤ limit)
    (hpast : ∀ b ∈ log, stamp b ≤ stamp a)
    (hroom : total stamp weight w (stamp a) log + weight a ≤ limit) (t : Int) :
    total stamp weight w t (a :: log) ≤ limit := by
  rw [total_cons]
  by_cases hin : Within w t (stamp a)
  · -- the window holds the new entry: what it holds of the log was in the window at admission
    have hlog : total stamp weight w t log ≤ total stamp weight w (stamp a) log :=
      total_le_total_of_le stamp weight hin.2 fun b hb => by exact_mod_cast hpast b hb
    rw [if_pos hin]
    omega
  · rw [if_neg hin, Nat.zero_add]
    exact hold t

/-- The weight of members that all occur, without repetition, in another list. -/
theorem sum_le_sum_of_subset {β : Type*} {l₁ l₂ : List β} (f : β → Nat) (hnd : l₁.Nodup)
    (hsub : ∀ b ∈ l₁, b ∈ l₂) : (l₁.map f).sum ≤ (l₂.map f).sum := by
  obtain ⟨l, hperm, hsublist⟩ := hnd.subperm hsub
  rw [← (hperm.map f).sum_eq]
  exact (hsublist.map f).sum_le_sum fun _ _ => Nat.zero_le _

end SlidingWindow
