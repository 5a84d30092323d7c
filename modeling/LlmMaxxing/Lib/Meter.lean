import Mathlib.Algebra.Ring.Nat
import LlmMaxxing.Lib.Dict

/-!
# Metered holdings

A meter counts what its owners hold, in total and by key. `Holds` ties the two counts to the list
of holdings: an owner that takes more or gives back keeps them exact, and a holding can always be
given back.
-/

universe u

/-- A total and its share by key; a key without a share has no entry. -/
structure Meter (κ : Type u) [DecidableEq κ] where
  total : Nat
  byKey : Dict κ Nat

namespace Meter

variable {κ : Type u} [DecidableEq κ]

/-- Nothing is held. -/
def empty : Meter κ := ⟨0, .empty⟩

/-- The share of a key. -/
def count (m : Meter κ) (k : κ) : Nat := (m.byKey.get? k).getD 0

/-- Take `n` more for a key. -/
def add (m : Meter κ) (k : κ) (n : Nat) : Meter κ :=
  ⟨m.total + n, m.byKey.insert k (m.count k + n)⟩

/-- Give `n` back for a key, when there is as much. -/
def release (m : Meter κ) (k : κ) (n : Nat) : Option (Meter κ) :=
  if m.total < n ∨ m.count k < n then none
  else some ⟨m.total - n,
    if m.count k - n = 0 then m.byKey.erase k else m.byKey.insert k (m.count k - n)⟩

/-- What the holdings of a key come to. -/
def share (k : κ) (l : List (κ × Nat)) : Nat := (l.map fun q => if q.1 = k then q.2 else 0).sum

/-- A change of one member changes the sum by as much. -/
theorem sum_map_set {α : Type*} (f : α → Nat) {l : List α} {i : Nat} {a : α} (a' : α)
    (h : l[i]? = some a) : ((l.set i a').map f).sum + f a = (l.map f).sum + f a' := by
  induction l generalizing i with
  | nil => cases h
  | cons b rest ih =>
    cases i with
    | zero =>
      obtain rfl : b = a := Option.some.inj h
      simp only [List.set_cons_zero, List.map_cons, List.sum_cons]
      omega
    | succ i =>
      have hrest := ih (i := i) h
      simp only [List.set_cons_succ, List.map_cons, List.sum_cons]
      omega

theorem set_eq_self {α : Type*} {l : List α} {i : Nat} {a : α} (h : l[i]? = some a) :
    l.set i a = l := by
  obtain ⟨hlt, rfl⟩ := List.getElem?_eq_some_iff.mp h
  exact List.set_getElem_self hlt

/-- A member is at most the sum. -/
theorem le_sum_map {α : Type*} (f : α → Nat) {l : List α} {i : Nat} {a : α}
    (h : l[i]? = some a) : f a ≤ (l.map f).sum := by
  induction l generalizing i with
  | nil => cases h
  | cons b rest ih =>
    rw [List.map_cons, List.sum_cons]
    cases i with
    | zero =>
      obtain rfl : b = a := Option.some.inj h
      exact Nat.le_add_right _ _
    | succ i => exact (ih (i := i) h).trans (Nat.le_add_left _ _)

/-! ## The counts are those of the holdings -/

/-- The meter counts the holdings. -/
structure Holds (m : Meter κ) (l : List (κ × Nat)) : Prop where
  total : m.total = (l.map Prod.snd).sum
  count : ∀ k, m.count k = share k l

variable {m : Meter κ} {l : List (κ × Nat)} {k : κ} {n a : Nat}

theorem holds_empty : (empty : Meter κ).Holds [] := ⟨rfl, fun _ => rfl⟩

theorem count_insert (t : Nat) (d : Dict κ Nat) (k k' : κ) (n : Nat) :
    (⟨t, d.insert k n⟩ : Meter κ).count k' = if k = k' then n else (⟨t, d⟩ : Meter κ).count k' := by
  unfold count
  rw [Dict.get?_insert]
  by_cases h : k' = k
  · rw [if_pos h, if_pos h.symm]
    rfl
  · rw [if_neg h, if_neg (Ne.symm h)]

theorem count_erase (t : Nat) (d : Dict κ Nat) (k k' : κ) :
    (⟨t, d.erase k⟩ : Meter κ).count k' = if k = k' then 0 else (⟨t, d⟩ : Meter κ).count k' := by
  unfold count
  rw [Dict.get?_erase]
  by_cases h : k' = k
  · rw [if_pos h, if_pos h.symm]
    rfl
  · rw [if_neg h, if_neg (Ne.symm h)]

/-- A new owner without a holding. -/
theorem Holds.append_none (h : m.Holds l) (k : κ) : m.Holds (l ++ [(k, 0)]) := by
  refine ⟨?_, fun k' => ?_⟩
  · rw [h.total, List.map_append, List.sum_append]
    rfl
  · rw [h.count k', share, share, List.map_append, List.sum_append]
    show _ = _ + ((if k = k' then 0 else 0) + 0)
    split <;> rfl

/-- An owner takes more. -/
theorem Holds.add (h : m.Holds l) {i : Nat} (hi : l[i]? = some (k, n)) (a : Nat) :
    (m.add k a).Holds (l.set i (k, n + a)) := by
  refine ⟨?_, fun k' => ?_⟩
  · have hsum := sum_map_set Prod.snd (k, n + a) hi
    have htotal := h.total
    show m.total + a = _
    omega
  · have hsum := sum_map_set (fun q : κ × Nat => if q.1 = k' then q.2 else 0) (k, n + a) hi
    have hcount := h.count k'
    show (⟨m.total + a, m.byKey.insert k (m.count k + a)⟩ : Meter κ).count k' = share k' _
    rw [count_insert]
    change m.count k' = ((l.map fun q => if q.1 = k' then q.2 else 0).sum) at hcount
    show (if k = k' then m.count k + a else m.count k') =
      ((l.set i (k, n + a)).map fun q => if q.1 = k' then q.2 else 0).sum
    by_cases hk : k = k'
    · subst hk
      simp only [if_true] at hsum ⊢
      omega
    · simp only [if_neg hk] at hsum ⊢
      omega

/-- An owner gives back some of its holding. -/
theorem Holds.release (h : m.Holds l) {i : Nat} (hi : l[i]? = some (k, n)) (ha : a ≤ n) :
    ∃ m', m.release k a = some m' ∧ m'.Holds (l.set i (k, n - a)) := by
  have htotal := h.total
  have hle := le_sum_map Prod.snd hi
  have hshare := le_sum_map (fun q : κ × Nat => if q.1 = k then q.2 else 0) hi
  simp only [if_true] at hle hshare
  have hcount : m.count k = ((l.map fun q => if q.1 = k then q.2 else 0).sum) := h.count k
  refine ⟨_, if_neg (by omega), ?_, fun k' => ?_⟩
  · have hsum := sum_map_set Prod.snd (k, n - a) hi
    show m.total - a = _
    simp only at hsum
    omega
  · have hsum := sum_map_set (fun q : κ × Nat => if q.1 = k' then q.2 else 0) (k, n - a) hi
    have hcount' : m.count k' = ((l.map fun q => if q.1 = k' then q.2 else 0).sum) := h.count k'
    -- an emptied share has no entry, which counts as nothing
    have hafter : (⟨m.total - a, if m.count k - a = 0 then m.byKey.erase k
        else m.byKey.insert k (m.count k - a)⟩ : Meter κ).count k' =
        if k = k' then m.count k - a else m.count k' := by
      by_cases hzero : m.count k - a = 0
      · rw [if_pos hzero, count_erase, hzero]
        rfl
      · rw [if_neg hzero, count_insert]
        rfl
    rw [hafter]
    show _ = ((l.set i (k, n - a)).map fun q => if q.1 = k' then q.2 else 0).sum
    by_cases hk : k = k'
    · subst hk
      simp only [if_true] at hsum ⊢
      omega
    · simp only [if_neg hk] at hsum ⊢
      omega

end Meter
