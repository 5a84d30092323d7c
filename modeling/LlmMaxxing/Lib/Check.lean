import Mathlib.Data.List.Forall2
import Mathlib.Data.List.Perm.Basic
import Mathlib.Tactic.Common

/-!
# Checks that can fail

A validator is a sequence of checks in `Except ε`; the first failing check is the error.
The lemmas turn "the validator accepts" into the conjunction of what it checks, so that a
proof about an accepted value never steps through the sequence.
-/

namespace Check

universe u v

variable {ε : Type v} {α β : Type u}

/-- Pass when `p` holds, else fail with `e`. -/
def require (p : Prop) [Decidable p] (e : ε) : Except ε Unit :=
  if p then .ok () else .error e

/-- Run a check on every member, in order. -/
def forEach (f : α → Except ε Unit) : List α → Except ε Unit
  | [] => .ok ()
  | a :: rest => do f a; forEach f rest

@[simp] theorem require_eq_ok_iff {p : Prop} [Decidable p] {e : ε} {u : Unit} :
    require p e = .ok u ↔ p := by
  by_cases h : p <;> simp [require, h]

@[simp] theorem bind_eq_ok_iff {x : Except ε α} {f : α → Except ε β} {b : β} :
    (x >>= f) = .ok b ↔ ∃ a, x = .ok a ∧ f a = .ok b := by
  cases x with
  | error e => simp [Bind.bind, Except.bind]
  | ok a => simp [Bind.bind, Except.bind]

@[simp] theorem ok_bind {a : α} {f : α → Except ε β} : (Except.ok a >>= f) = f a := rfl

@[simp] theorem pure_eq_ok {a : α} : (pure a : Except ε α) = .ok a := rfl

theorem bind_error {e : ε} {f : α → Except ε β} : (Except.error e >>= f) = .error e := rfl

@[simp] theorem mapError_eq_ok_iff {ε' : Type*} {x : Except ε α} {f : ε → ε'} {a : α} :
    x.mapError f = .ok a ↔ x = .ok a := by
  cases x with
  | error e => simp [Except.mapError]
  | ok b => simp [Except.mapError]

theorem toOption_eq_some_iff {x : Except ε α} {a : α} : x.toOption = some a ↔ x = .ok a := by
  cases x with
  | error e => exact ⟨fun h => (by cases h), fun h => (by cases h)⟩
  | ok b => exact ⟨fun h => (by cases h; rfl), fun h => (by cases h; rfl)⟩

@[simp] theorem exists_unit_and_iff {p : Unit → Prop} {q : Prop} :
    (∃ u : Unit, p u ∧ q) ↔ p () ∧ q :=
  ⟨fun ⟨(), h⟩ => h, fun h => ⟨(), h⟩⟩

@[simp] theorem exists_unit_eq_ok_iff {x : Except ε Unit} : (∃ u, x = .ok u) ↔ x = .ok () :=
  ⟨fun ⟨(), h⟩ => h, fun h => ⟨(), h⟩⟩

theorem forEach_eq_ok_iff {l : List α} {f : α → Except ε Unit} {u : Unit} :
    forEach f l = .ok u ↔ ∀ a ∈ l, f a = .ok () := by
  induction l with
  | nil => simp [forEach]
  | cons a rest ih =>
    rw [forEach, bind_eq_ok_iff, List.forall_mem_cons, ← ih]
    exact ⟨fun ⟨(), h⟩ => h, fun h => ⟨(), h⟩⟩

theorem mapM_eq_ok_iff {f : α → Except ε β} {l : List α} {l' : List β} :
    l.mapM f = .ok l' ↔ List.Forall₂ (fun a b => f a = .ok b) l l' := by
  induction l generalizing l' with
  | nil => simp [eq_comm]
  | cons a rest ih =>
    simp only [List.mapM_cons, bind_eq_ok_iff, ih, pure_eq_ok, Except.ok.injEq,
      List.forall₂_cons_left_iff]
    constructor
    · rintro ⟨b, hb, tail, htail, rfl⟩
      exact ⟨b, tail, hb, htail, rfl⟩
    · rintro ⟨b, tail, hb, htail, rfl⟩
      exact ⟨b, hb, tail, htail, rfl⟩

/-- Every result comes from a member. -/
theorem exists_of_mem_mapM {f : α → Except ε β} {l : List α} {l' : List β}
    (h : l.mapM f = .ok l') {b : β} (hb : b ∈ l') : ∃ a ∈ l, f a = .ok b := by
  rw [mapM_eq_ok_iff] at h
  induction h with
  | nil => cases hb
  | cons hfirst _ ih =>
    rcases List.mem_cons.mp hb with rfl | hrest
    · exact ⟨_, List.mem_cons_self, hfirst⟩
    · obtain ⟨a, ha, hfa⟩ := ih hrest
      exact ⟨a, List.mem_cons_of_mem _ ha, hfa⟩

/-- Every member of an argument list gives a member of the result. -/
theorem exists_mem_mapM {f : α → Except ε β} {l : List α} {l' : List β}
    (h : l.mapM f = .ok l') {a : α} (ha : a ∈ l) : ∃ b ∈ l', f a = .ok b := by
  rw [mapM_eq_ok_iff] at h
  induction h with
  | nil => cases ha
  | cons hb _ ih =>
    rcases List.mem_cons.mp ha with rfl | ha
    · exact ⟨_, List.mem_cons_self, hb⟩
    · obtain ⟨b, hmem, hfb⟩ := ih ha
      exact ⟨b, List.mem_cons_of_mem _ hmem, hfb⟩

/-- Two maps of a list with the same result agree on each member. -/
theorem exists_common_of_mapM {f g : α → Except ε β} {l : List α} {l' : List β}
    (hf : l.mapM f = .ok l') (hg : l.mapM g = .ok l') {a : α} (ha : a ∈ l) :
    ∃ b, f a = .ok b ∧ g a = .ok b := by
  rw [mapM_eq_ok_iff] at hf hg
  induction hf with
  | nil => cases ha
  | cons hfirst _ ih =>
    obtain ⟨hfirst', hrest'⟩ := List.forall₂_cons.mp hg
    rcases List.mem_cons.mp ha with rfl | ha
    · exact ⟨_, hfirst, hfirst'⟩
    · exact ih hrest' ha

/-- A permuted list has the permuted results. -/
theorem exists_mapM_of_perm {f : α → Except ε β} {l l' : List α} {out : List β}
    (h : l.mapM f = .ok out) (hperm : l'.Perm l) : ∃ out', l'.mapM f = .ok out' ∧ out'.Perm out := by
  obtain ⟨out', hout', hp⟩ := List.perm_comp_forall₂ hperm (mapM_eq_ok_iff.mp h)
  exact ⟨out', mapM_eq_ok_iff.mpr hout', hp⟩

/-- A list is mapped to itself when each member is. -/
theorem mapM_eq_ok_self_iff {f : α → Except ε α} {l : List α} :
    l.mapM f = .ok l ↔ ∀ a ∈ l, f a = .ok a :=
  mapM_eq_ok_iff.trans List.forall₂_same

/-- What every member keeps, a fold keeps; the invariant knows which members have been taken. -/
theorem foldlM_invariant {σ : Type u} {α : Type*} {f : σ → α → Except ε σ} {I : List α → σ → Prop}
    {l : List α} {s s' : σ}
    (hstep : ∀ before a rest, l = before ++ a :: rest → ∀ s s', f s a = .ok s' → I before s →
      I (before ++ [a]) s')
    (h : l.foldlM f s = .ok s') (hs : I [] s) : I l s' := by
  have hrun : ∀ (before rest : List α) (s : σ), l = before ++ rest → I before s →
      rest.foldlM f s = .ok s' → I l s' := by
    intro before rest
    induction rest generalizing before with
    | nil =>
      intro s hl hs h
      cases h
      rw [hl, List.append_nil]
      exact hs
    | cons a rest ih =>
      intro s hl hs h
      rw [List.foldlM_cons, bind_eq_ok_iff] at h
      obtain ⟨s₁, hfirst, hrest⟩ := h
      exact ih (before ++ [a]) s₁ (by simpa using hl) (hstep before a rest hl s s₁ hfirst hs) hrest
  exact hrun [] l s rfl hs h

theorem foldlM_keeps {σ : Type u} {α : Type*} {f : σ → α → Except ε σ} {P : σ → Prop}
    {l : List α} {s s' : σ} (hstep : ∀ a ∈ l, ∀ s s', f s a = .ok s' → P s → P s')
    (h : l.foldlM f s = .ok s') (hs : P s) : P s' :=
  foldlM_invariant (I := fun _ s => P s)
    (fun _ a _ hl s s' hf => hstep a (by rw [hl]; simp) s s' hf) h hs

end Check
