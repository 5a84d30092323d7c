import LlmMaxxing.Lib.Check

/-!
# Contracts of computations that can fail

`Ensures E x Q`: `x` fails only with errors that `E` admits, and its result satisfies `Q`. The rules
follow the shape of a program, so that a function's contract is put together from those of the
functions it calls.
-/

namespace Check

universe u v

variable {ε : Type v} {α β : Type u} {E : ε → Prop}

/-- `x` fails only with an error of `E`; a result satisfies `Q`. -/
structure Ensures (E : ε → Prop) (x : Except ε α) (Q : α → Prop) : Prop where
  error : ∀ e, x = .error e → E e
  result : ∀ a, x = .ok a → Q a

namespace Ensures

variable {x : Except ε α} {Q R : α → Prop}

theorem ok {a : α} (h : Q a) : Ensures E (.ok a) Q where
  error e heq := by cases heq
  result b heq := by
    cases heq
    exact h

theorem fail {e : ε} (h : E e) : Ensures E (.error e) Q where
  error f heq := by
    cases heq
    exact h
  result a heq := by cases heq

theorem weaken (h : Ensures E x Q) (himp : ∀ a, Q a → R a) : Ensures E x R where
  error := h.error
  result a heq := himp a (h.result a heq)

theorem bind {f : α → Except ε β} {S : β → Prop} (hx : Ensures E x Q)
    (hf : ∀ a, Q a → Ensures E (f a) S) : Ensures E (x >>= f) S := by
  cases x with
  | error e => exact fail (hx.error e rfl)
  | ok a => exact hf a (hx.result a rfl)

/-- A check, for what comes after it. -/
theorem require {p : Prop} [Decidable p] {e : ε} (h : ¬ p → E e) :
    Ensures E (Check.require p e) fun _ => p := by
  by_cases hp : p
  · rw [Check.require, if_pos hp]
    exact ok hp
  · rw [Check.require, if_neg hp]
    exact fail (h hp)

/-- A computation that is known to succeed. -/
theorem of_ok {ε' : Type v} {y : Except ε' α} {f : ε' → ε} {a : α} (h : y = .ok a) :
    Ensures E (y.mapError f) fun b => b = a := by
  subst h
  exact ok rfl

theorem forEach {α : Type u} {f : α → Except ε Unit} {l : List α} {P : α → Prop}
    (h : ∀ a ∈ l, Ensures E (f a) fun _ => P a) :
    Ensures E (Check.forEach f l) fun _ => ∀ a ∈ l, P a := by
  induction l with
  | nil => exact ok fun a ha => by cases ha
  | cons a rest ih =>
    refine bind (h a List.mem_cons_self) fun _ ha => ?_
    refine (ih fun b hb => h b (List.mem_cons_of_mem _ hb)).weaken fun _ hrest b hb => ?_
    rcases List.mem_cons.mp hb with rfl | hb
    · exact ha
    · exact hrest b hb

theorem mapM {f : α → Except ε β} {l : List α} {S : α → β → Prop}
    (h : ∀ a ∈ l, Ensures E (f a) (S a)) : Ensures E (l.mapM f) (List.Forall₂ S l) := by
  induction l with
  | nil => exact ok .nil
  | cons a rest ih =>
    rw [List.mapM_cons]
    refine bind (h a List.mem_cons_self) fun b hb => ?_
    refine bind (ih fun c hc => h c (List.mem_cons_of_mem _ hc)) fun l' hl' => ?_
    exact ok (.cons hb hl')

/-- A loop whose invariant speaks of the members that are done. -/
theorem foldlM {σ : Type u} {α : Type*} {f : σ → α → Except ε σ} {I : List α → σ → Prop}
    {l : List α} {s : σ}
    (hstep : ∀ before a rest, l = before ++ a :: rest → ∀ s, I before s →
      Ensures E (f s a) (I (before ++ [a])))
    (hs : I [] s) : Ensures E (l.foldlM f s) (I l) := by
  have hrun : ∀ (rest before : List α) (s : σ), l = before ++ rest → I before s →
      Ensures E (rest.foldlM f s) (I l) := by
    intro rest
    induction rest with
    | nil =>
      intro before s hl hs
      rw [List.append_nil] at hl
      subst hl
      exact ok hs
    | cons a rest ih =>
      intro before s hl hs
      rw [List.foldlM_cons]
      refine bind (hstep before a rest hl s hs) fun s' hs' => ?_
      exact ih (before ++ [a]) s' (by rw [hl, List.append_assoc]; rfl) hs'
  exact hrun l [] s rfl hs

end Ensures

end Check
