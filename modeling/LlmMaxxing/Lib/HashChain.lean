import Mathlib.Data.List.Basic
import Mathlib.Data.List.Induction
import Mathlib.Tactic.Common

/-!
# Hash chains

An entry holds a digest and a record; the next entry holds the digest that `link` makes of the two.
`Linked c l d` says that the entries lead from digest `c` to digest `d`. Without collisions, a digest
determines the entries that lead to it from the first one.
-/

namespace HashChain

variable {δ ρ : Type*} (link : δ → ρ → Option δ)

/-- The entries lead from one digest to another. -/
def Linked (c : δ) : List (δ × ρ) → δ → Prop
  | [], d => d = c
  | q :: rest, d => q.1 = c ∧ ∃ e, link c q.2 = some e ∧ Linked e rest d

variable {link} {c d : δ} {l l' : List (δ × ρ)} {q : δ × ρ}

theorem linked_append {a b : List (δ × ρ)} :
    Linked link c (a ++ b) d ↔ ∃ e, Linked link c a e ∧ Linked link e b d := by
  induction a generalizing c with
  | nil => simp [Linked]
  | cons q rest ih =>
    simp only [List.cons_append, Linked, ih]
    constructor
    · rintro ⟨hq, e, hlink, f, hrest, hb⟩
      exact ⟨f, ⟨hq, e, hlink, hrest⟩, hb⟩
    · rintro ⟨f, ⟨hq, e, hlink, hrest⟩, hb⟩
      exact ⟨hq, e, hlink, f, hrest, hb⟩

/-- The last entry holds the digest before it, and its link is the last digest. -/
theorem linked_concat : Linked link c (l ++ [q]) d ↔
    Linked link c l q.1 ∧ link q.1 q.2 = some d := by
  rw [linked_append]
  simp only [Linked]
  constructor
  · rintro ⟨e, hl, rfl, f, hlink, rfl⟩
    exact ⟨hl, hlink⟩
  · rintro ⟨hl, hlink⟩
    exact ⟨q.1, hl, rfl, d, hlink, rfl⟩

/-- The entries lead to one digest only. -/
theorem Linked.unique {d' : δ} (h : Linked link c l d) (h' : Linked link c l d') : d = d' := by
  induction l generalizing c with
  | nil => exact Eq.trans h (Eq.symm h')
  | cons q rest ih =>
    obtain ⟨-, e, hlink, hrest⟩ := h
    obtain ⟨-, e', hlink', hrest'⟩ := h'
    rw [hlink, Option.some.injEq] at hlink'
    subst hlink'
    exact ih hrest hrest'

/-- No two entries have one link, and no entry links back to the first digest. -/
structure CollisionFree (link : δ → ρ → Option δ) (c : δ) (l l' : List (δ × ρ)) : Prop where
  injective : ∀ q ∈ l, ∀ q' ∈ l', link q.1 q.2 = link q'.1 q'.2 → q = q'
  fresh : ∀ q, q ∈ l ∨ q ∈ l' → link q.1 q.2 ≠ some c

/-- **A digest determines the entries that lead to it.** By induction from the last entry: one link,
one entry, and so one digest before it. -/
theorem Linked.eq_of_collisionFree (h : Linked link c l d) (h' : Linked link c l' d)
    (hfree : CollisionFree link c l l') : l = l' := by
  induction l using List.reverseRecOn generalizing l' d with
  | nil =>
    rcases List.eq_nil_or_concat' l' with rfl | ⟨rest, q, rfl⟩
    · rfl
    · have hlink := (linked_concat.mp h').2
      rw [show d = c from h] at hlink
      exact absurd hlink (hfree.fresh q (Or.inr (by simp)))
  | append_singleton rest q ih =>
    obtain ⟨hrest, hlink⟩ := linked_concat.mp h
    rcases List.eq_nil_or_concat' l' with rfl | ⟨rest', q', rfl⟩
    · rw [show d = c from h'] at hlink
      exact absurd hlink (hfree.fresh q (Or.inl (by simp)))
    · obtain ⟨hrest', hlink'⟩ := linked_concat.mp h'
      have hq : q = q' := hfree.injective q (by simp) q' (by simp) (hlink.trans hlink'.symm)
      subst hq
      have hfree' : CollisionFree link c rest rest' :=
        ⟨fun q hq q' hq' => hfree.injective q (by simp [hq]) q' (by simp [hq']),
          fun q hq => hfree.fresh q (by simpa using hq.imp Or.inl Or.inl)⟩
      rw [ih hrest hrest' hfree']

end HashChain
