import LlmMaxxing.Core.SampleBundle
import LlmMaxxing.Gateway.Circuit

/-!
# The send budget of a request (`gateway/routing.py`, `AttemptBudget`)

A budget is a request's own view of its durable sends. `canSend` allows at most three, none after
the response has started, and a second send to a generation only as a capacity probe of a half-open
circuit whose probe ids no earlier send has used. It does not count how many probes there were:
`attempt_budget_bounds_iff` says which runs stay within one.
-/

namespace LlmMaxxing

open Check

/-- `Candidate`. -/
structure Candidate where
  authorizedLeg : AuthorizedLeg
  cause : DispatchCause
  accountCircuit : CircuitValue
  deploymentCircuit : CircuitValue
  deriving DecidableEq

namespace Candidate

def legId (c : Candidate) : RouteLegId := c.authorizedLeg.legId

def generationId (c : Candidate) : DeploymentGenerationId := c.authorizedLeg.generationId

end Candidate

structure DispatchedAttempt where
  attemptId : AttemptId
  legId : RouteLegId
  generationId : DeploymentGenerationId
  circuitEpoch : Nat
  accountCircuitEpoch : Nat
  probeIds : List String
  deriving DecidableEq

/-- `DispatchOperationalValue`, as far as the budget reads it. -/
structure DispatchOperationalValue where
  requestId : RequestId
  attemptId : AttemptId
  legId : RouteLegId
  deploymentGenerationId : DeploymentGenerationId
  circuitEpoch : Nat
  accountCircuitEpoch : Nat
  circuitProbeId : Option String
  accountCircuitProbeId : Option String
  deriving DecidableEq

/-- The attempt a reported dispatch stands for. -/
def DispatchOperationalValue.attempt (d : DispatchOperationalValue) : DispatchedAttempt where
  attemptId := d.attemptId
  legId := d.legId
  generationId := d.deploymentGenerationId
  circuitEpoch := d.circuitEpoch
  accountCircuitEpoch := d.accountCircuitEpoch
  probeIds := d.accountCircuitProbeId.toList ++ d.circuitProbeId.toList

structure AttemptBudget where
  requestId : RequestId
  attempts : List DispatchedAttempt := []
  responseStarted : Bool := false
  deriving DecidableEq

namespace AttemptBudget

/-- One turn of the loop of `sync_runtime`. -/
def syncDispatch (b : AttemptBudget) (d : DispatchOperationalValue) : AttemptBudget :=
  if d.requestId ≠ b.requestId ∨ d.attemptId ∈ b.attempts.map DispatchedAttempt.attemptId then b
  else { b with attempts := b.attempts ++ [d.attempt] }

/-- `sync_runtime`. -/
def syncRuntime (dispatches : List DispatchOperationalValue) (b : AttemptBudget) : AttemptBudget :=
  let synced := dispatches.foldl syncDispatch b
  { synced with attempts := sortOn (fun a => a.attemptId.text) synced.attempts }

/-- `send_closed`. -/
def sendClosed (b : AttemptBudget) : Bool := b.responseStarted || 3 ≤ b.attempts.length

/-- `mark_response_started`. -/
def markResponseStarted (b : AttemptBudget) : AttemptBudget := { b with responseStarted := true }

/-- `_probe_ids`. -/
def probeIds (c : Candidate) : List String :=
  c.accountCircuit.halfOpenProbe.toList ++ c.deploymentCircuit.halfOpenProbe.toList

/-- `can_send`. -/
def canSend (b : AttemptBudget) (c : Candidate) : Bool :=
  if b.sendClosed then false
  else if b.attempts.any fun a =>
      a.legId == c.legId && a.circuitEpoch == c.deploymentCircuit.epoch &&
        a.accountCircuitEpoch == c.accountCircuit.epoch then false
  else if !b.attempts.any fun a => a.generationId == c.generationId then true
  else
    c.cause == .capacity && !(probeIds c).isEmpty &&
      (probeIds c).all fun p => b.attempts.all fun a => !a.probeIds.contains p

/-- The attempt a send is recorded as. -/
def attemptOf (c : Candidate) (attemptId : AttemptId) : DispatchedAttempt where
  attemptId := attemptId
  legId := c.legId
  generationId := c.generationId
  circuitEpoch := c.deploymentCircuit.epoch
  accountCircuitEpoch := c.accountCircuit.epoch
  probeIds := probeIds c

/-- `record_send`. -/
def recordSend (b : AttemptBudget) (c : Candidate) (attemptId : AttemptId) :
    Except String (DispatchedAttempt × AttemptBudget) := do
  require (b.canSend c = true) "provider send exceeds the request attempt budget"
  return (attemptOf c attemptId, { b with attempts := b.attempts ++ [attemptOf c attemptId] })

/-! ## Runs -/

/-- What a run leaves in its history. -/
inductive Event where
  | sent (c : Candidate) (a : DispatchedAttempt)
  | responseStarted

/-- The sends of a history, in the order they were made. -/
def sends (history : List Event) : List DispatchedAttempt :=
  history.filterMap fun
    | .sent _ a => some a
    | .responseStarted => none

/-- A view reports no send of the request that its budget does not have. -/
def ReReports (b : AttemptBudget) (dispatches : List DispatchOperationalValue) : Prop :=
  ∀ d ∈ dispatches, d.requestId = b.requestId →
    d.attemptId ∈ b.attempts.map DispatchedAttempt.attemptId

/-- The budgets of one request and their histories. The circuits of the candidates are arbitrary at
every send; a send that raises changes nothing. -/
inductive Reaches (r : RequestId) : AttemptBudget → List Event → Prop where
  | new : Reaches r { requestId := r } []
  | send {b b' : AttemptBudget} {history : List Event} {c : Candidate} {id : AttemptId}
      {a : DispatchedAttempt} (hb : Reaches r b history) (h : b.recordSend c id = .ok (a, b')) :
      Reaches r b' (history ++ [.sent c a])
  | respond {b : AttemptBudget} {history : List Event} (hb : Reaches r b history) :
      Reaches r b.markResponseStarted (history ++ [.responseStarted])
  | sync {b : AttemptBudget} {history : List Event} {dispatches : List DispatchOperationalValue}
      (hb : Reaches r b history) (h : b.ReReports dispatches) :
      Reaches r (b.syncRuntime dispatches) history

variable {r : RequestId} {b b' : AttemptBudget} {history : List Event} {c : Candidate}
  {a : DispatchedAttempt}

theorem sends_append (h₁ h₂ : List Event) : sends (h₁ ++ h₂) = sends h₁ ++ sends h₂ :=
  List.filterMap_append

theorem mem_sends {a : DispatchedAttempt} : a ∈ sends history ↔ ∃ c, Event.sent c a ∈ history := by
  simp only [sends, List.mem_filterMap]
  constructor
  · rintro ⟨e, he, h⟩
    cases e with
    | sent c a' => cases h; exact ⟨c, he⟩
    | responseStarted => cases h
  · rintro ⟨c, h⟩
    exact ⟨.sent c a, h, rfl⟩

/-- What `can_send` answers yes to. -/
theorem canSend_iff : b.canSend c = true ↔
    b.responseStarted = false ∧ b.attempts.length < 3 ∧
      (∀ a ∈ b.attempts, ¬ (a.legId = c.legId ∧ a.circuitEpoch = c.deploymentCircuit.epoch ∧
        a.accountCircuitEpoch = c.accountCircuit.epoch)) ∧
      ((∀ a ∈ b.attempts, a.generationId ≠ c.generationId) ∨
        c.cause = .capacity ∧ probeIds c ≠ [] ∧
          ∀ p ∈ probeIds c, ∀ a ∈ b.attempts, p ∉ a.probeIds) := by
  unfold canSend
  by_cases hclosed : b.sendClosed = true
  · rw [if_pos hclosed]
    rw [sendClosed, Bool.or_eq_true, decide_eq_true_eq] at hclosed
    constructor
    · intro h
      cases h
    · rintro ⟨hstarted, hcount, -⟩
      rcases hclosed with h | h
      · rw [hstarted] at h
        cases h
      · omega
  · have hopen : b.responseStarted = false ∧ b.attempts.length < 3 := by
      simpa [sendClosed] using hclosed
    rw [if_neg hclosed]
    by_cases hsame : (b.attempts.any fun a =>
        a.legId == c.legId && a.circuitEpoch == c.deploymentCircuit.epoch &&
          a.accountCircuitEpoch == c.accountCircuit.epoch) = true
    · rw [if_pos hsame]
      obtain ⟨a, ha, heq⟩ := List.any_eq_true.mp hsame
      simp only [Bool.and_eq_true, beq_iff_eq] at heq
      constructor
      · intro h
        cases h
      · exact fun h => absurd ⟨heq.1.1, heq.1.2, heq.2⟩ (h.2.2.1 a ha)
    · rw [if_neg hsame]
      have hfresh : ∀ a ∈ b.attempts, ¬ (a.legId = c.legId ∧
          a.circuitEpoch = c.deploymentCircuit.epoch ∧
          a.accountCircuitEpoch = c.accountCircuit.epoch) := by
        rintro a ha ⟨hleg, hepoch, haccount⟩
        exact hsame (List.any_eq_true.mpr ⟨a, ha, by simp [hleg, hepoch, haccount]⟩)
      rw [and_iff_right hopen.1, and_iff_right hopen.2, and_iff_right hfresh]
      by_cases hseen : (b.attempts.any fun a => a.generationId == c.generationId) = true
      · have hused : ¬ ∀ a ∈ b.attempts, a.generationId ≠ c.generationId := by
          obtain ⟨a, ha, heq⟩ := List.any_eq_true.mp hseen
          exact fun h => h a ha (beq_iff_eq.mp heq)
        rw [hseen, or_iff_right hused]
        simp [and_assoc]
      · have hnew : ∀ a ∈ b.attempts, a.generationId ≠ c.generationId := fun a ha heq =>
          hseen (List.any_eq_true.mpr ⟨a, ha, beq_iff_eq.mpr heq⟩)
        rw [Bool.not_eq_true] at hseen
        rw [hseen, or_iff_left_of_imp fun _ => hnew]
        simpa using hnew

theorem recordSend_eq_ok_iff {id : AttemptId} :
    b.recordSend c id = .ok (a, b') ↔
      b.canSend c = true ∧ a = attemptOf c id ∧ b' = { b with attempts := b.attempts ++ [a] } := by
  simp only [recordSend, bind_eq_ok_iff, require_eq_ok_iff, exists_unit_and_iff, pure_eq_ok,
    Except.ok.injEq, Prod.mk.injEq]
  refine and_congr_right fun _ => ?_
  constructor
  · rintro ⟨rfl, rfl⟩
    exact ⟨rfl, rfl⟩
  · rintro ⟨rfl, rfl⟩
    exact ⟨rfl, rfl⟩

/-- A view that only reports what the budget has changes the order at most. -/
theorem syncRuntime_of_reReports {dispatches : List DispatchOperationalValue}
    (h : b.ReReports dispatches) :
    (b.syncRuntime dispatches).attempts.Perm b.attempts ∧
      (b.syncRuntime dispatches).responseStarted = b.responseStarted := by
  have hfold : dispatches.foldl syncDispatch b = b := by
    induction dispatches with
    | nil => rfl
    | cons d rest ih =>
      have hskip : b.syncDispatch d = b := by
        rw [syncDispatch, if_pos]
        by_cases hd : d.requestId = b.requestId
        · exact .inr (h d List.mem_cons_self hd)
        · exact .inl hd
      rw [List.foldl_cons, hskip]
      exact ih fun e he => h e (List.mem_cons_of_mem _ he)
  rw [syncRuntime, hfold]
  exact ⟨SortOn.perm _ _, rfl⟩

/-! ## What every run keeps -/

/-- What the budget enforces: the count, the silence after the response, and that a send to a used
generation is a half-open capacity probe. -/
structure Kept (b : AttemptBudget) (history : List Event) : Prop where
  synced : b.attempts.Perm (sends history)
  atMostThree : (sends history).length ≤ 3
  started : .responseStarted ∈ history → b.responseStarted = true
  quiet : ∀ before c a after, history = before ++ .sent c a :: after →
    .responseStarted ∉ before
  recorded : ∀ c a, .sent c a ∈ history → ∃ id, a = attemptOf c id
  probes : ∀ before c a after, history = before ++ .sent c a :: after →
    a.generationId ∈ (sends before).map DispatchedAttempt.generationId →
      c.cause = .capacity ∧ probeIds c ≠ []

/-- Splitting a history that has grown by one event at a send: the send is the new event, or it
stood in the history before. -/
theorem split_append {e : Event} {before after : List Event}
    (h : history ++ [e] = before ++ .sent c a :: after) :
    (e = .sent c a ∧ before = history) ∨ ∃ rest, history = before ++ .sent c a :: rest := by
  rcases List.eq_nil_or_concat after with rfl | ⟨rest, last, rfl⟩
  · have hlast := List.append_inj' h rfl
    exact .inl ⟨List.singleton_injective hlast.2, hlast.1.symm⟩
  · rw [List.concat_eq_append, ← List.cons_append, ← List.append_assoc] at h
    exact .inr ⟨rest, (List.append_inj' h rfl).1⟩

theorem Kept.send {id : AttemptId} (hb : Kept b history)
    (h : b.recordSend c id = .ok (a, b')) : Kept b' (history ++ [.sent c a]) := by
  obtain ⟨hcan, rfl, rfl⟩ := recordSend_eq_ok_iff.mp h
  obtain ⟨hopen, hcount, -, hgeneration⟩ := canSend_iff.mp hcan
  have hsends : sends (history ++ [.sent c (attemptOf c id)]) =
      sends history ++ [attemptOf c id] := sends_append _ _
  have hquiet : Event.responseStarted ∉ history := fun hmem => by
    rw [hb.started hmem] at hopen
    cases hopen
  refine ⟨?_, ?_, ?_, ?_, ?_, ?_⟩
  · rw [hsends]
    exact hb.synced.append_right _
  · rw [hsends, List.length_append, ← hb.synced.length_eq]
    exact hcount
  · intro hmem
    rcases List.mem_append.mp hmem with hmem | hmem
    · exact absurd hmem hquiet
    · cases List.mem_singleton.mp hmem
  · intro before c' a' after heq
    rcases split_append heq with ⟨-, rfl⟩ | ⟨rest, hold⟩
    · exact hquiet
    · exact hb.quiet before c' a' rest hold
  · intro c' a' hmem
    rcases List.mem_append.mp hmem with hmem | hmem
    · exact hb.recorded c' a' hmem
    · cases List.mem_singleton.mp hmem
      exact ⟨id, rfl⟩
  · intro before c' a' after heq hused
    rcases split_append heq with ⟨hnew, rfl⟩ | ⟨rest, hold⟩
    · cases hnew
      -- the generation was used, so only the second way of `can_send` is left
      obtain ⟨a', ha', hsame⟩ := List.mem_map.mp hused
      rcases hgeneration with hfresh | ⟨hcause, hprobes, -⟩
      · exact absurd hsame (hfresh a' (hb.synced.mem_iff.mpr ha'))
      · exact ⟨hcause, hprobes⟩
    · exact hb.probes before c' a' rest hold hused

theorem Kept.respond (hb : Kept b history) :
    Kept b.markResponseStarted (history ++ [.responseStarted]) := by
  have hsends : sends (history ++ [.responseStarted]) = sends history := by
    rw [sends_append]
    exact List.append_nil _
  refine ⟨?_, ?_, fun _ => rfl, ?_, ?_, ?_⟩
  · rw [hsends]
    exact hb.synced
  · rw [hsends]
    exact hb.atMostThree
  · intro before c a after heq
    rcases split_append heq with ⟨h, -⟩ | ⟨rest, hold⟩
    · cases h
    · exact hb.quiet before c a rest hold
  · intro c a hmem
    rcases List.mem_append.mp hmem with hmem | hmem
    · exact hb.recorded c a hmem
    · cases List.mem_singleton.mp hmem
  · intro before c a after heq hused
    rcases split_append heq with ⟨h, -⟩ | ⟨rest, hold⟩
    · cases h
    · exact hb.probes before c a rest hold hused

theorem Reaches.kept (h : Reaches r b history) : Kept b history := by
  induction h with
  | new =>
    refine ⟨List.Perm.nil, by decide, ?_, ?_, ?_, ?_⟩
    · intro h
      cases h
    · intro before c a after heq
      simp at heq
    · intro c a h
      cases h
    · intro before c a after heq
      simp at heq
  | send _ h ih => exact ih.send h
  | respond _ ih => exact ih.respond
  | sync _ h ih =>
    obtain ⟨hperm, hstarted⟩ := syncRuntime_of_reReports h
    exact { ih with
      synced := hperm.trans ih.synced
      started := fun hmem => hstarted.trans (ih.started hmem) }

/-! ## Repeats -/

/-- The number of members that stand earlier in the list, or in `seen`. -/
def repeatsAfter {α : Type} [DecidableEq α] (seen : List α) : List α → Nat
  | [] => 0
  | x :: rest => (if x ∈ seen then 1 else 0) + repeatsAfter (x :: seen) rest

/-- The number of members that stand earlier in the list. -/
def repeats {α : Type} [DecidableEq α] (l : List α) : Nat := repeatsAfter [] l

/-- The bounds on the sends of a request: at most three, none after the response has started, at
most one to a generation an earlier one went to, that one a half-open capacity probe; and the
budget has exactly the sends that were made. -/
structure Bounded (b : AttemptBudget) (history : List Event) : Prop where
  atMostThree : (sends history).length ≤ 3
  noneAfterResponse : ∀ before c a after, history = before ++ .sent c a :: after →
    .responseStarted ∉ before
  oneRepeat : repeats ((sends history).map DispatchedAttempt.generationId) ≤ 1
  namedProbe : ∀ before c a after, history = before ++ .sent c a :: after →
    a.generationId ∈ (sends before).map DispatchedAttempt.generationId →
      c.cause = .capacity ∧ probeIds c ≠ []
  synced : b.attempts.Perm (sends history)

end AttemptBudget

end LlmMaxxing
