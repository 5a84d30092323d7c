import LlmMaxxing.Gateway.CircuitController
import LlmMaxxing.Gateway.JournalRecord

/-!
# Circuits as a function of the records

The circuits of an account and the probes consumed on it are determined by the records written
about it, from the first one on: `board` folds a log of records into them. A log in which every
circuit record is a `Change` with a probe that was never issued before, and every reservation names
probes its account waits for and has not consumed, is one that `Appends` can write; what such logs
satisfy is stated here, away from processes and restarts.
-/

namespace LlmMaxxing

/-! ## Boards -/

/-- The probes a reservation consumes. -/
def DurableReservation.probes (d : DurableReservation) : List String :=
  [d.accountCircuitProbeId, d.circuitProbeId].filterMap id

/-- The probe a record puts into a circuit. -/
def RecordBody.issuedProbe : RecordBody → Option String
  | .circuitUpdated _ _ value => value.probeId
  | _ => none

/-- The probes a record consumes. -/
def RecordBody.namedProbes : RecordBody → List String
  | .attemptReserved d => d.probes
  | _ => []

/-- The circuits of an account, by scope, and the probes consumed on it. -/
@[ext] structure CircuitView where
  circuit : Option DeploymentGenerationId → CircuitValue
  consumed : String → Bool

namespace CircuitView

/-- Nothing has happened. -/
def initial : CircuitView := ⟨fun _ => CircuitValue.closed 0, fun _ => false⟩

/-- The probes of a reservation are consumed. -/
def reserve (v : CircuitView) (d : DurableReservation) : CircuitView :=
  { v with consumed := fun p => d.probes.contains p || v.consumed p }

/-- A circuit is replaced, and its probe is forgotten. -/
def replace (v : CircuitView) (scope : Option DeploymentGenerationId) (value : CircuitValue) :
    CircuitView where
  circuit := Function.update v.circuit scope value
  consumed p := v.consumed p && (v.circuit scope).probeId != some p

/-- The effect of a record on the view of an account. -/
def record (accountId : AccountId) (v : CircuitView) : RecordBody → CircuitView
  | .attemptReserved d => if d.accountId = accountId then v.reserve d else v
  | .circuitUpdated other scope value => if other = accountId then v.replace scope value else v
  | _ => v

end CircuitView

/-- The view of an account after the records of a log. -/
def board (log : List RecordBody) (accountId : AccountId) : CircuitView :=
  log.foldl (CircuitView.record accountId) CircuitView.initial

@[simp] theorem board_nil (accountId : AccountId) : board [] accountId = CircuitView.initial := rfl

theorem board_append (log more : List RecordBody) (accountId : AccountId) :
    board (log ++ more) accountId =
      more.foldl (CircuitView.record accountId) (board log accountId) :=
  List.foldl_append

@[simp] theorem board_snoc (log : List RecordBody) (body : RecordBody) (accountId : AccountId) :
    board (log ++ [body]) accountId = (board log accountId).record accountId body :=
  board_append log [body] accountId

/-! ## Logs -/

/-- No record of the log has put the probe into a circuit. -/
def Unissued (log : List RecordBody) (p : String) : Prop :=
  ∀ body ∈ log, body.issuedProbe ≠ some p

/-- The records that may follow a log. -/
def Allowed (log : List RecordBody) : RecordBody → Prop
  | .circuitUpdated accountId scope value =>
    Change ((board log accountId).circuit scope) value ∧
      ∀ p, value.probeId = some p → Unissued log p
  | .attemptReserved d => ∀ p ∈ d.probes,
      (∃ scope, ((board log d.accountId).circuit scope).probeId = some p) ∧
        (board log d.accountId).consumed p = false
  | _ => True

/-- A log and the log one record later. -/
inductive Appends (log : List RecordBody) : List RecordBody → Prop
  | record {body : RecordBody} (h : Allowed log body) : Appends log (log ++ [body])

/-- A log and a later one. -/
abbrev Grows := Relation.ReflTransGen Appends

section

variable {log log' : List RecordBody}

/-- A record changes at most the circuit it names. -/
theorem circuit_record (accountId : AccountId) (v : CircuitView) (body : RecordBody)
    (scope : Option DeploymentGenerationId) :
    (v.record accountId body).circuit scope = v.circuit scope ∨
      ∃ value, body = .circuitUpdated accountId scope value ∧
        (v.record accountId body).circuit scope = value := by
  cases body with
  | attemptReserved d =>
    left
    simp only [CircuitView.record]
    split <;> rfl
  | circuitUpdated other scope' value =>
    simp only [CircuitView.record]
    split
    · next hother =>
      subst hother
      by_cases hscope : scope = scope'
      · subst hscope
        exact .inr ⟨value, rfl, Function.update_self _ _ _⟩
      · exact .inl (Function.update_of_ne hscope _ _)
    · exact .inl rfl
  | _ => exact .inl rfl

/-- One record moves a circuit by nothing or by a change. -/
theorem Appends.circuit (h : Appends log log') (accountId : AccountId)
    (scope : Option DeploymentGenerationId) :
    (board log' accountId).circuit scope = (board log accountId).circuit scope ∨
      Change ((board log accountId).circuit scope) ((board log' accountId).circuit scope) := by
  obtain @⟨body, hallowed⟩ := h
  rw [board_snoc]
  rcases circuit_record accountId (board log accountId) body scope with
    hsame | ⟨value, rfl, hvalue⟩
  · exact .inl hsame
  · right
    rw [hvalue]
    exact hallowed.1

/-- **Epochs never go down**, and a circuit that is open after it has changed is in a later
epoch. -/
theorem Grows.epoch (h : Grows log log') (accountId : AccountId)
    (scope : Option DeploymentGenerationId) :
    ((board log accountId).circuit scope).epoch ≤ ((board log' accountId).circuit scope).epoch ∧
      (((board log' accountId).circuit scope).state = .opened →
        (board log' accountId).circuit scope ≠ (board log accountId).circuit scope →
        ((board log accountId).circuit scope).epoch <
          ((board log' accountId).circuit scope).epoch) := by
  induction h with
  | refl => exact ⟨le_rfl, fun _ hne => absurd rfl hne⟩
  | tail _ hstep ih =>
    rcases hstep.circuit accountId scope with hsame | hchange
    · rw [hsame]
      exact ih
    · exact ⟨ih.1.trans hchange.epoch_le,
        fun hopened _ => lt_of_le_of_lt ih.1 (hchange.epoch_lt hopened)⟩

/-- A probe that was issued is issued in every later log. -/
theorem Grows.not_unissued (h : Grows log log') {p : String} (hp : ¬ Unissued log p) :
    ¬ Unissued log' p := by
  induction h with
  | refl => exact hp
  | tail _ hstep ih =>
    cases hstep
    exact fun hnew => ih fun body hmem => hnew body (List.mem_append_left _ hmem)

/-- **A circuit value whose probe was issued and that is not current never comes back.** -/
theorem Grows.stale (h : Grows log log') {accountId : AccountId} {scope : Option DeploymentGenerationId}
    {v : CircuitValue}
    {p : String} (hprobe : v.probeId = some p) (hp : ¬ Unissued log p)
    (hne : (board log accountId).circuit scope ≠ v) :
    (board log' accountId).circuit scope ≠ v := by
  induction h with
  | refl => exact hne
  | @tail mid last hgrows hstep ih =>
    obtain @⟨body, hallowed⟩ := hstep
    rw [board_snoc]
    rcases circuit_record accountId (board mid accountId) body scope with
      hsame | ⟨value, rfl, hvalue⟩
    · rw [hsame]
      exact ih
    · -- the value would have to be written again, and its probe is no longer new
      rw [hvalue]
      rintro rfl
      exact (Grows.not_unissued hgrows hp) (hallowed.2 p hprobe)

/-! ## Probes -/

/-- What holds of the probes of a log: those circuits wait for were issued, for one circuit each,
and those a reservation has named are consumed wherever they are waited for. -/
structure Tracked (log : List RecordBody) : Prop where
  issued : ∀ accountId scope p, ((board log accountId).circuit scope).probeId = some p →
    ¬ Unissued log p
  unique : ∀ a scope a' scope' p, ((board log a).circuit scope).probeId = some p →
    ((board log a').circuit scope').probeId = some p → a = a' ∧ scope = scope'
  named : ∀ body ∈ log, ∀ p ∈ body.namedProbes, ¬ Unissued log p
  spent : ∀ body ∈ log, ∀ p ∈ body.namedProbes, ∀ accountId scope,
    ((board log accountId).circuit scope).probeId = some p →
      (board log accountId).consumed p = true
  once : log.Pairwise fun body body' => ∀ p ∈ body.namedProbes, p ∉ body'.namedProbes

theorem Tracked.nil : Tracked [] where
  issued _ _ _ h := by cases h
  unique _ _ _ _ _ h := by cases h
  named _ h := by cases h
  spent _ h := by cases h
  once := List.Pairwise.nil

theorem not_unissued_append {p : String} {more : List RecordBody} (h : ¬ Unissued log p) :
    ¬ Unissued (log ++ more) p :=
  fun hnew => h fun body hmem => hnew body (List.mem_append_left _ hmem)

/-- The same circuits wait for the same probes, and what was consumed still is. -/
theorem Tracked.of_same (h : Tracked log) {body : RecordBody} (hnames : body.namedProbes = [])
    (hcircuit : ∀ accountId, (board (log ++ [body]) accountId) = board log accountId) :
    Tracked (log ++ [body]) where
  issued accountId scope p hp := not_unissued_append (h.issued accountId scope p (by rwa [hcircuit] at hp))
  unique a scope a' scope' p hp hp' :=
    h.unique a scope a' scope' p (by rwa [hcircuit] at hp) (by rwa [hcircuit] at hp')
  named := by
    intro body' hmem p hp
    rcases List.mem_append.mp hmem with hold | hnew
    · exact not_unissued_append (h.named body' hold p hp)
    · rw [List.mem_singleton.mp hnew, hnames] at hp
      cases hp
  spent := by
    intro body' hmem p hp accountId scope hscope
    rcases List.mem_append.mp hmem with hold | hnew
    · rw [hcircuit] at hscope ⊢
      exact h.spent body' hold p hp accountId scope hscope
    · rw [List.mem_singleton.mp hnew, hnames] at hp
      cases hp
  once := by
    refine List.pairwise_append.mpr ⟨h.once, List.pairwise_singleton _ _, ?_⟩
    intro body' _ new hnew p _
    rw [List.mem_singleton.mp hnew, hnames]
    exact List.not_mem_nil

theorem Tracked.reserve (h : Tracked log) {d : DurableReservation}
    (hallowed : Allowed log (.attemptReserved d)) : Tracked (log ++ [.attemptReserved d]) := by
  have hcircuit : ∀ a, (board (log ++ [.attemptReserved d]) a).circuit = (board log a).circuit := by
    intro a
    rw [board_snoc, CircuitView.record]
    split <;> rfl
  have hconsumed : ∀ a p, (board log a).consumed p = true →
      (board (log ++ [.attemptReserved d]) a).consumed p = true := by
    intro a p hp
    rw [board_snoc, CircuitView.record]
    split
    · simp [CircuitView.reserve, hp]
    · exact hp
  have hnamed : ∀ body ∈ log ++ [.attemptReserved d], ∀ p ∈ body.namedProbes,
      ¬ Unissued log p := by
    intro body hmem p hp
    rcases List.mem_append.mp hmem with hold | hnew
    · exact h.named body hold p hp
    · rw [List.mem_singleton.mp hnew] at hp
      obtain ⟨scope, hscope⟩ := (hallowed p hp).1
      exact h.issued d.accountId scope p hscope
  refine ⟨fun a scope p hp => ?_, fun a scope a' scope' p hp hp' => ?_,
    fun body hmem p hp => not_unissued_append (hnamed body hmem p hp),
    fun body hmem p hp a scope hscope => ?_, ?_⟩
  · rw [hcircuit] at hp
    exact not_unissued_append (h.issued a scope p hp)
  · rw [hcircuit] at hp hp'
    exact h.unique a scope a' scope' p hp hp'
  · rw [hcircuit] at hscope
    rcases List.mem_append.mp hmem with hold | hnew
    · exact hconsumed a p (h.spent body hold p hp a scope hscope)
    · -- only the account of the reservation waits for the probe
      rw [List.mem_singleton.mp hnew] at hp
      obtain ⟨scope', hscope'⟩ := (hallowed p hp).1
      obtain ⟨rfl, -⟩ := h.unique _ _ _ _ p hscope hscope'
      have hp : p ∈ d.probes := hp
      rw [board_snoc, CircuitView.record, if_pos rfl]
      simp [CircuitView.reserve, hp]
  · refine List.pairwise_append.mpr ⟨h.once, List.pairwise_singleton _ _, ?_⟩
    intro body hmem new hnew p hp hp'
    rw [List.mem_singleton.mp hnew] at hp'
    obtain ⟨⟨scope, hscope⟩, hfree⟩ := hallowed p hp'
    rw [h.spent body hmem p hp d.accountId scope hscope] at hfree
    cases hfree

theorem Tracked.update (h : Tracked log) {accountId : AccountId}
    {scope : Option DeploymentGenerationId} {value : CircuitValue}
    (hallowed : Allowed log (.circuitUpdated accountId scope value)) :
    Tracked (log ++ [.circuitUpdated accountId scope value]) := by
  -- a circuit after the record is the new value, with a new probe, or what it was
  have hcases : ∀ a scope' p,
      ((board (log ++ [.circuitUpdated accountId scope value]) a).circuit scope').probeId = some p →
        (a = accountId ∧ scope' = scope ∧ value.probeId = some p ∧ Unissued log p) ∨
          ((a ≠ accountId ∨ scope' ≠ scope) ∧ ((board log a).circuit scope').probeId = some p) := by
    intro a scope' p hp
    rw [board_snoc, CircuitView.record] at hp
    split at hp
    · next ha =>
      subst ha
      by_cases hscope : scope' = scope
      · subst hscope
        simp only [CircuitView.replace, Function.update_self] at hp
        exact .inl ⟨rfl, rfl, hp, hallowed.2 p hp⟩
      · simp only [CircuitView.replace, Function.update_of_ne hscope] at hp
        exact .inr ⟨.inr hscope, hp⟩
    · next ha => exact .inr ⟨.inl (Ne.symm ha), hp⟩
  have hnames : ∀ body ∈ log ++ [.circuitUpdated accountId scope value], ∀ p ∈ body.namedProbes,
      body ∈ log := by
    intro body hmem p hp
    refine (List.mem_append.mp hmem).resolve_right fun hnew => ?_
    rw [List.mem_singleton.mp hnew] at hp
    cases hp
  refine ⟨fun a scope' p hp => ?_, fun a₁ scope₁ a₂ scope₂ p h₁ h₂ => ?_,
    fun body hmem p hp => not_unissued_append (h.named body (hnames body hmem p hp) p hp),
    fun body hmem p hp a scope' hscope' => ?_, ?_⟩
  · rcases hcases a scope' p hp with ⟨-, -, hvalue, -⟩ | ⟨-, hold⟩
    · exact fun hnew => hnew _ (List.mem_append_right _ (List.mem_singleton_self _)) hvalue
    · exact not_unissued_append (h.issued a scope' p hold)
  · rcases hcases a₁ scope₁ p h₁ with ⟨rfl, rfl, -, hnew⟩ | ⟨-, hold₁⟩ <;>
      rcases hcases a₂ scope₂ p h₂ with ⟨rfl, rfl, -, hnew'⟩ | ⟨-, hold₂⟩
    · exact ⟨rfl, rfl⟩
    · exact absurd hnew (h.issued _ _ p hold₂)
    · exact absurd hnew' (h.issued _ _ p hold₁)
    · exact h.unique _ _ _ _ p hold₁ hold₂
  · have hbody := hnames body hmem p hp
    rcases hcases a scope' p hscope' with ⟨-, -, -, hnew⟩ | ⟨hother, hold⟩
    · exact absurd hnew (h.named body hbody p hp)
    · have hspent := h.spent body hbody p hp a scope' hold
      rw [board_snoc, CircuitView.record]
      split
      · next ha =>
        subst ha
        -- the circuit that was replaced waited for another probe
        have hne : ((board log accountId).circuit scope).probeId ≠ some p := by
          intro hp'
          obtain ⟨-, rfl⟩ := h.unique _ _ _ _ p hold hp'
          rcases hother with hother | hother <;> exact hother rfl
        simp [CircuitView.replace, hspent, hne]
      · exact hspent
  · refine List.pairwise_append.mpr ⟨h.once, List.pairwise_singleton _ _, ?_⟩
    intro body _ new hnew p _
    rw [List.mem_singleton.mp hnew]
    exact List.not_mem_nil

/-- **Every log that can be written is tracked.** -/
theorem Grows.tracked (h : Grows [] log) : Tracked log := by
  induction h with
  | refl => exact Tracked.nil
  | tail _ hstep ih =>
    obtain @⟨body, hallowed⟩ := hstep
    cases body with
    | attemptReserved d => exact ih.reserve hallowed
    | circuitUpdated accountId scope value => exact ih.update hallowed
    | _ => exact ih.of_same rfl fun a => board_snoc _ _ a

end

end LlmMaxxing
