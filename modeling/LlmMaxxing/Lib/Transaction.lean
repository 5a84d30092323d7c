import Mathlib.Logic.Relation
import Mathlib.Tactic.Common

/-!
# Serialized transactions over a store

A store has a committed state and, while a transaction is open, the working copy the transaction
reads and writes. Transactions are serialized: at most one is open. A commit publishes the working
copy, a rollback forgets it. What every operation keeps holds of the committed state and of the
working copy after any sequence of transactions.
-/

/-- The committed state, and the working copy of the open transaction. -/
structure TransactionStore (σ : Type*) where
  committed : σ
  working : Option σ := none

namespace TransactionStore

variable {σ : Type*}

/-- No transaction is open. -/
def idle (s : σ) : TransactionStore σ := ⟨s, none⟩

/-- One event of a store whose operations are `op`. An operation that raises changes nothing: the
transaction goes on without it, or rolls back. -/
inductive Step (op : σ → σ → Prop) : TransactionStore σ → TransactionStore σ → Prop where
  | begin (c : σ) : Step op ⟨c, none⟩ ⟨c, some c⟩
  | operate (c : σ) {w w' : σ} (h : op w w') : Step op ⟨c, some w⟩ ⟨c, some w'⟩
  | commit (c w : σ) : Step op ⟨c, some w⟩ ⟨w, none⟩
  | rollback (c w : σ) : Step op ⟨c, some w⟩ ⟨c, none⟩

/-- `P` holds of the committed state and of the working copy. -/
structure Holds (P : σ → Prop) (s : TransactionStore σ) : Prop where
  committed : P s.committed
  working : ∀ w, s.working = some w → P w

variable {op : σ → σ → Prop} {P : σ → Prop} {s s' : TransactionStore σ}

theorem Holds.idle {c : σ} (h : P c) : Holds P (idle c) where
  committed := h
  working _ hw := by cases hw

/-- One event keeps what every operation keeps. -/
theorem Holds.step (hs : Holds P s) (hop : ∀ w w', op w w' → P w → P w') (h : Step op s s') :
    Holds P s' := by
  cases h with
  | begin c => exact ⟨hs.committed, fun w hw => by cases hw; exact hs.committed⟩
  | operate c hw =>
    exact ⟨hs.committed, fun w' hw' => by cases hw'; exact hop _ _ hw (hs.working _ rfl)⟩
  | commit c w => exact ⟨hs.working w rfl, fun w' hw' => by cases hw'⟩
  | rollback c w => exact ⟨hs.committed, fun w' hw' => by cases hw'⟩

/-- **Every sequence of transactions keeps what every operation keeps.** -/
theorem Holds.run (hs : Holds P s) (hop : ∀ w w', op w w' → P w → P w')
    (h : Relation.ReflTransGen (Step op) s s') : Holds P s' := by
  induction h with
  | refl => exact hs
  | tail _ hlast ih => exact ih.step hop hlast

/-- A transaction of one operation. -/
theorem single {c w : σ} (h : op c w) : Relation.ReflTransGen (Step op) (idle c) (idle w) :=
  ((Relation.ReflTransGen.single (.begin c)).tail (.operate c h)).tail (.commit c w)

end TransactionStore
