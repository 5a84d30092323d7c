import Mathlib.Data.List.Sort
import Mathlib.Data.Prod.Lex
import Mathlib.Data.String.Basic
import Mathlib.Tactic.Common

/-!
# Stable sorting by a key

`sortOn key l` is the stable sort of `l` by `key`. Where the key tells the members of `l`
apart, the result does not depend on the order in which `l` was given.
-/

variable {α β : Type*} [LinearOrder β]

/-- Stable sort by `key`. -/
def sortOn (key : α → β) (l : List α) : List α := l.insertionSort fun a b => key a ≤ key b

namespace SortOn

variable (key : α → β)

instance instTotal : Std.Total fun a b : α => key a ≤ key b := ⟨fun a b => le_total (key a) (key b)⟩

instance instIsTrans : IsTrans α fun a b : α => key a ≤ key b := ⟨fun _ _ _ => le_trans⟩

theorem perm (l : List α) : (sortOn key l).Perm l := List.perm_insertionSort _ l

theorem pairwise (l : List α) : (sortOn key l).Pairwise fun a b => key a ≤ key b :=
  List.pairwise_insertionSort _ l

@[simp] theorem mem_iff {l : List α} {a : α} : a ∈ sortOn key l ↔ a ∈ l := (perm key l).mem_iff

@[simp] theorem length_eq (l : List α) : (sortOn key l).length = l.length := (perm key l).length_eq

/-- Sorting a mapped list sorts by the composed key. -/
theorem map_eq {γ : Type*} (f : γ → α) (l : List γ) :
    sortOn key (l.map f) = (sortOn (fun c => key (f c)) l).map f :=
  (List.map_insertionSort (fun a b => key (f a) ≤ key (f b)) (fun a b => key a ≤ key b) f l
    (fun _ _ _ _ => Iff.rfl)).symm

/-- Two keys that order the members alike sort alike. -/
theorem congr {γ : Type*} [LinearOrder γ] {key : α → β} {key' : α → γ}
    (h : ∀ a b, key a ≤ key b ↔ key' a ≤ key' b) (l : List α) : sortOn key l = sortOn key' l := by
  have hrel : ∀ (r s : α → α → Prop) [DecidableRel r] [DecidableRel s], r = s →
      l.insertionSort r = l.insertionSort s := by
    intro r s _ _ hrs
    subst hrs
    congr!
  exact hrel _ _ (by funext a b; exact propext (h a b))

theorem eq_self {l : List α} (h : l.Pairwise fun a b => key a ≤ key b) : sortOn key l = l :=
  h.insertionSort_eq

/-- The sorted keys depend on the members only. -/
theorem map_key_eq_of_perm {l₁ l₂ : List α} (h : l₁.Perm l₂) :
    (sortOn key l₁).map key = (sortOn key l₂).map key := by
  have hperm : ((sortOn key l₁).map key).Perm ((sortOn key l₂).map key) :=
    ((perm key l₁).trans (h.trans (perm key l₂).symm)).map key
  exact List.Perm.eq_of_pairwise (fun a b _ _ => le_antisymm)
    (List.pairwise_map.mpr (pairwise key l₁)) (List.pairwise_map.mpr (pairwise key l₂)) hperm

/-- Where the key separates the members, the sorted list depends on the members only. -/
theorem eq_of_perm {l₁ l₂ : List α} (h : l₁.Perm l₂)
    (hinj : ∀ a ∈ l₁, ∀ b ∈ l₁, key a = key b → a = b) : sortOn key l₁ = sortOn key l₂ := by
  have hperm : (sortOn key l₁).Perm (sortOn key l₂) :=
    (perm key l₁).trans (h.trans (perm key l₂).symm)
  refine List.Perm.eq_of_pairwise ?_ (pairwise key l₁) (pairwise key l₂) hperm
  intro a b ha hb hab hba
  have hb' : b ∈ l₁ := h.mem_iff.mpr ((mem_iff key).mp hb)
  exact hinj a ((mem_iff key).mp ha) b hb' (le_antisymm hab hba)

end SortOn
