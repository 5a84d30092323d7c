import Mathlib.Logic.Relation
import Mathlib.Tactic.Common

/-!
# Operations that can fail part way

An operation on a state returns the state it leaves beside its result: a failure keeps what was
done before it. `Runs` is the contract of such an operation over a step relation: it took some
steps, whether it succeeded or not, and on success its postcondition holds. The rules compose
contracts along sequences and loops, so that an invariant of the step relation holds wherever an
operation stops.
-/

/-- The state an operation leaves, and how it ended. -/
abbrev Fallible (σ ε α : Type*) := σ × Except ε α

namespace Fallible

variable {σ ε α β : Type*}

/-- Go on after a success. -/
def andThen (r : Fallible σ ε α) (f : α → σ → Fallible σ ε β) : Fallible σ ε β :=
  match r with
  | (s, .ok a) => f a s
  | (s, .error e) => (s, .error e)

/-- Going on with an answer changes no state. -/
theorem andThen_answer_fst (r : Fallible σ ε α) (answer : Except ε β) :
    (andThen r fun _ s => (s, answer)).1 = r.1 := by
  obtain ⟨s, e | a⟩ := r <;> rfl

/-- Run an operation on every member, in order, until one fails. -/
def forEach (f : α → σ → Fallible σ ε Unit) : List α → σ → Fallible σ ε Unit
  | [], s => (s, .ok ())
  | a :: rest, s => andThen (f a s) fun _ => forEach f rest

/-- What every step keeps, some steps keep. -/
theorem keeps_of_steps {step : σ → σ → Prop} {P : σ → Prop} {s s' : σ}
    (hstep : ∀ s₁ s₂, step s₁ s₂ → P s₁ → P s₂) (h : Relation.ReflTransGen step s s')
    (hs : P s) : P s' := by
  induction h with
  | refl => exact hs
  | tail _ hlast ih => exact hstep _ _ hlast ih

/-- Some steps were taken from `s`; a success satisfies `Q`. -/
structure Runs (step : σ → σ → Prop) (s : σ) (r : Fallible σ ε α) (Q : α → σ → Prop) : Prop where
  steps : Relation.ReflTransGen step s r.1
  post : ∀ a, r.2 = .ok a → Q a r.1

namespace Runs

variable {step : σ → σ → Prop} {s : σ}

/-- Ending at once with a result. -/
theorem done {a : α} {Q : α → σ → Prop} (h : Q a s) :
    Runs step s ((s, .ok a) : Fallible σ ε α) Q where
  steps := Relation.ReflTransGen.refl
  post _ heq := by cases heq; exact h

/-- Ending at once with a failure. -/
theorem failed {e : ε} {Q : α → σ → Prop} : Runs step s ((s, .error e) : Fallible σ ε α) Q where
  steps := Relation.ReflTransGen.refl
  post _ heq := by cases heq

/-- Taking steps before the rest. -/
theorem after {r : Fallible σ ε α} {Q : α → σ → Prop} {s' : σ}
    (hsteps : Relation.ReflTransGen step s s') (h : Runs step s' r Q) : Runs step s r Q where
  steps := hsteps.trans h.steps
  post := h.post

theorem weaken {r : Fallible σ ε α} {Q R : α → σ → Prop} (h : Runs step s r Q)
    (himp : ∀ a s', Q a s' → R a s') : Runs step s r R where
  steps := h.steps
  post a heq := himp a _ (h.post a heq)

/-- Steps of a larger relation. -/
theorem mono {step' : σ → σ → Prop} {r : Fallible σ ε α} {Q : α → σ → Prop}
    (h : Runs step s r Q) (himp : ∀ s₁ s₂, step s₁ s₂ → step' s₁ s₂) : Runs step' s r Q where
  steps := Relation.ReflTransGen.mono himp _ _ h.steps
  post := h.post

/-- A sequence. -/
theorem andThen {r : Fallible σ ε α} {f : α → σ → Fallible σ ε β} {Q : α → σ → Prop}
    {R : β → σ → Prop} (hr : Runs step s r Q) (hf : ∀ a s', Q a s' → Runs step s' (f a s') R) :
    Runs step s (andThen r f) R := by
  obtain ⟨s', o⟩ := r
  cases o with
  | error e => exact ⟨hr.steps, fun _ heq => by cases heq⟩
  | ok a => exact Runs.after hr.steps (hf a s' (hr.post a rfl))

/-- A loop whose invariant speaks of the members that are done. -/
theorem forEach {f : α → σ → Fallible σ ε Unit} {I : List α → σ → Prop} {l : List α}
    (hf : ∀ before a rest, l = before ++ a :: rest → ∀ s', I before s' →
      Runs step s' (f a s') fun _ => I (before ++ [a]))
    (hinit : I [] s) : Runs step s (forEach f l s) fun _ => I l := by
  have hgo : ∀ (rest before : List α) (s' : σ), l = before ++ rest → I before s' →
      Runs step s' (Fallible.forEach f rest s') fun _ => I l := by
    intro rest
    induction rest with
    | nil =>
      intro before s' hl hI
      rw [List.append_nil] at hl
      subst hl
      exact done hI
    | cons a rest ih =>
      intro before s' hl hI
      refine andThen (hf before a rest hl s' hI) fun _ s'' hI' => ?_
      exact ih (before ++ [a]) s'' (by rw [hl, List.append_assoc]; rfl) hI'
  exact hgo l [] s rfl hinit

/-- A loop that keeps an invariant. -/
theorem forEach_keeps {f : α → σ → Fallible σ ε Unit} {I : σ → Prop} {l : List α}
    (hf : ∀ a ∈ l, ∀ s', I s' → Runs step s' (f a s') fun _ => I) (hinit : I s) :
    Runs step s (Fallible.forEach f l s) fun _ => I :=
  forEach (I := fun _ => I)
    (fun before a rest hl s' hI => hf a (by rw [hl]; simp) s' hI) hinit

/-- What every step keeps holds wherever the operation stopped. -/
theorem keeps {r : Fallible σ ε α} {Q : α → σ → Prop} {P : σ → Prop} (h : Runs step s r Q)
    (hstep : ∀ s₁ s₂, step s₁ s₂ → P s₁ → P s₂) (hs : P s) : P r.1 :=
  keeps_of_steps hstep h.steps hs

end Runs

end Fallible
