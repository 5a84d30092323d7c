import LlmMaxxing.Gateway.Circuit

/-!
# Circuit transitions (`gateway/routing.py`, `CircuitController`)

An operation of the controller reads circuit values and then asks for at most one
compare-and-swap for each of them. What it read may be stale by then, so an operation is a function
of the values it read and returns the swaps it asks for.

`Change` is the whole of what these operations can ask for: into open with the next epoch, out of
open with a probe, out of half-open into closed.
-/

namespace LlmMaxxing

open Check

/-! ## Classified failures -/

/-- The fields of a failure classification. -/
structure FailureFields where
  cause : FailureCause
  scope : FailureScope
  evidenceDigest : String
  preResponseBytes : Bool
  deriving DecidableEq

/-- `__post_init__`. -/
def FailureFields.validate (f : FailureFields) : Bool :=
  (f.evidenceDigest.toList.take 7 == "sha256:".toList && f.evidenceDigest.toList.length == 71) &&
    ((f.cause == .unknown) == (f.scope == .unknown))

/-- A classified provider failure. -/
structure FailureClassification extends FailureFields where
  valid : toFailureFields.validate = true

/-- `_CIRCUIT_CAUSE`. -/
def circuitCause : FailureCause → Option CircuitCause
  | .capacity => some .capacity
  | .transientFailure => some .transientFailure
  | .quota => some .quota
  | .unknown => none

/-! ## Operations -/

/-- One compare-and-swap; a scope without a generation is the account's. -/
structure CircuitSwap where
  accountId : AccountId
  scope : Option DeploymentGenerationId
  expected : CircuitValue
  replacement : CircuitValue

/-- A handle on a half-open circuit of a known scope. -/
structure CircuitProbe where
  scope : CircuitScope
  accountId : AccountId
  generationId : DeploymentGenerationId
  value : CircuitValue
  halfOpen : value.state = .halfOpen

/-- The circuit a probe is about. -/
def CircuitProbe.circuit (probe : CircuitProbe) : Option DeploymentGenerationId :=
  match probe.scope with
  | .account => none
  | .deployment => some probe.generationId

namespace CircuitController

/-- The first two bytes of the hash of an evidence digest and a step. -/
abbrev BackoffSeed := String → Nat → Nat

variable (seed : BackoffSeed)

/-- The class call `CircuitValue(...)`. -/
def circuitValue (fields : CircuitFields) : Option CircuitValue := fields.construct.toOption

/-- `_backoff_ms`. -/
def backoffMs (step : Nat) (evidenceDigest : String) : Nat :=
  let base := match min step 2 with
    | 0 => 15_000
    | 1 => 30_000
    | _ => 60_000
  base + seed evidenceDigest step % (base / 5 + 1)

/-- `_replacement`. -/
def replacement (current : CircuitValue) (classification : FailureClassification)
    (nowMs step : Nat) : Option CircuitValue :=
  match circuitCause classification.cause with
  | none => none
  | some cause => circuitValue
    { state := .opened
      cause := some cause
      epoch := current.epoch + 1
      openedAtMs := nowMs
      retryAtMs := nowMs + backoffMs seed step classification.evidenceDigest
      backoffStep := step
      evidenceDigest := some classification.evidenceDigest
      probeId := none }

/-- `open` on one of the two circuits; `current` is the value it read. -/
def openScope (accountId : AccountId) (scope : Option DeploymentGenerationId)
    (current : CircuitValue) (classification : FailureClassification) (nowMs : Nat) :
    Option CircuitSwap :=
  if current.state = .opened then none
  else
    let step := min (current.backoffStep + (if current.state = .halfOpen then 1 else 0)) 2
    (replacement seed current classification nowMs step).map fun value =>
      ⟨accountId, scope, current, value⟩

/-- `open`; `none` where it asks for no swap. -/
def «open» (accountId : AccountId) (generationId : DeploymentGenerationId)
    (account deployment : CircuitValue) (classification : FailureClassification) (nowMs : Nat) :
    Option CircuitSwap :=
  if classification.cause = .unknown then none
  else
    match classification.scope with
    | .account => openScope seed accountId none account classification nowMs
    | .deployment => openScope seed accountId (some generationId) deployment classification nowMs
    | .unknown => none

/-- `begin_probe`; `token` is the new probe token. -/
def beginProbe (accountId : AccountId) (generationId : DeploymentGenerationId)
    (account deployment : CircuitValue) (nowMs : Nat) (token : ProbeToken) : Option CircuitSwap :=
  let scope : Option DeploymentGenerationId :=
    if account.state = .opened then none else some generationId
  let current := if account.state = .opened then account else deployment
  if current.state ≠ .opened ∨ nowMs < current.retryAtMs then none
  else
    (circuitValue
      { state := .halfOpen
        cause := current.cause
        epoch := current.epoch
        openedAtMs := current.openedAtMs
        retryAtMs := 0
        backoffStep := current.backoffStep
        evidenceDigest := current.evidenceDigest
        probeId := some token.text }).map fun value => ⟨accountId, scope, current, value⟩

/-- `probe_succeeded`. -/
def probeSucceeded (probe : CircuitProbe) : CircuitSwap :=
  ⟨probe.accountId, probe.circuit, probe.value, CircuitValue.closed probe.value.epoch⟩

/-- `classification.scope is probe.scope`. -/
def sameScope (scope : FailureScope) (probe : CircuitProbe) : Bool :=
  match scope, probe.scope with
  | .account, .account | .deployment, .deployment => true
  | _, _ => false

/-- `probe_failed`. -/
def probeFailed (probe : CircuitProbe) (classification : FailureClassification) (nowMs : Nat) :
    Option CircuitSwap :=
  let step := min (probe.value.backoffStep + 1) 2
  let value :=
    if classification.cause ≠ .unknown ∧ sameScope classification.scope probe = true then
      replacement seed probe.value classification nowMs step
    else
      circuitValue
        { state := .opened
          cause := probe.value.cause
          epoch := probe.value.epoch + 1
          openedAtMs := nowMs
          retryAtMs := nowMs + backoffMs seed step (probe.value.evidenceDigest.getD "")
          backoffStep := step
          evidenceDigest := probe.value.evidenceDigest
          probeId := none }
  value.map fun value => ⟨probe.accountId, probe.circuit, probe.value, value⟩

/-- The classification of an abandoned probe. -/
def abandoned (probe : CircuitProbe) : FailureFields where
  cause := .unknown
  scope := .unknown
  evidenceDigest := probe.value.evidenceDigest.getD
    "sha256:0000000000000000000000000000000000000000000000000000000000000000"
  preResponseBytes := true

/-- `probe_abandoned`. -/
def probeAbandoned (probe : CircuitProbe) (nowMs : Nat) : Option CircuitSwap :=
  if h : (abandoned probe).validate = true then probeFailed seed probe ⟨abandoned probe, h⟩ nowMs
  else none

/-- `abandon_candidate`: the half-open circuits among the two values of the candidate, in order. -/
def abandonCandidate (accountId : AccountId) (generationId : DeploymentGenerationId)
    (account deployment : CircuitValue) (nowMs : Nat) : List (Option CircuitSwap) :=
  (if h : account.state = .halfOpen then
    [probeAbandoned seed ⟨.account, accountId, generationId, account, h⟩ nowMs] else []) ++
  (if h : deployment.state = .halfOpen then
    [probeAbandoned seed ⟨.deployment, accountId, generationId, deployment, h⟩ nowMs] else [])

/-- A swap that some operation of the controller asks for, whatever it has read. -/
inductive Asks (seed : BackoffSeed) (swap : CircuitSwap) : Prop
  | opened {accountId generationId account deployment classification nowMs}
      (h : «open» seed accountId generationId account deployment classification nowMs = some swap)
  | began {accountId generationId account deployment nowMs token}
      (h : beginProbe accountId generationId account deployment nowMs token = some swap)
  | succeeded {probe} (h : probeSucceeded probe = swap)
  | failed {probe classification nowMs}
      (h : probeFailed seed probe classification nowMs = some swap)
  | abandoned {probe nowMs} (h : probeAbandoned seed probe nowMs = some swap)
  | candidate {accountId generationId account deployment nowMs}
      (h : some swap ∈ abandonCandidate seed accountId generationId account deployment nowMs)

end CircuitController

/-! ## What the operations can ask for -/

/-- The transitions of a circuit. -/
inductive Change (old new : CircuitValue) : Prop
  | opens (hstate : new.state = .opened) (hepoch : new.epoch = old.epoch + 1)
  | probes (hold : old.state = .opened) (hstate : new.state = .halfOpen)
      (hepoch : new.epoch = old.epoch)
  | closes (hold : old.state = .halfOpen) (hstate : new.state = .closed)
      (hepoch : new.epoch = old.epoch)

theorem Change.epoch_le {old new : CircuitValue} (h : Change old new) : old.epoch ≤ new.epoch := by
  cases h with
  | opens _ hepoch => omega
  | probes _ _ hepoch => omega
  | closes _ _ hepoch => omega

/-- A circuit that is open after a change is in its next epoch. -/
theorem Change.epoch_lt {old new : CircuitValue} (h : Change old new) (hnew : new.state = .opened) :
    old.epoch < new.epoch := by
  cases h with
  | opens _ hepoch => omega
  | probes _ hstate => rw [hnew] at hstate; cases hstate
  | closes _ hstate => rw [hnew] at hstate; cases hstate

namespace CircuitController

variable {seed : BackoffSeed}

theorem circuitValue_fields {fields : CircuitFields} {value : CircuitValue}
    (h : circuitValue fields = some value) : value.toCircuitFields = fields := by
  unfold circuitValue at h
  cases hconstruct : fields.construct with
  | error e => rw [hconstruct] at h; cases h
  | ok value' =>
    rw [hconstruct] at h
    cases h
    exact CircuitFields.construct_eq_ok_iff.mp hconstruct

theorem replacement_opens {current value : CircuitValue} {classification : FailureClassification}
    {nowMs step : Nat} (h : replacement seed current classification nowMs step = some value) :
    value.state = .opened ∧ value.epoch = current.epoch + 1 := by
  unfold replacement at h
  split at h
  · cases h
  · rw [circuitValue_fields h]
    exact ⟨rfl, rfl⟩

theorem openScope_change {accountId : AccountId} {scope : Option DeploymentGenerationId}
    {current : CircuitValue} {classification : FailureClassification} {nowMs : Nat}
    {swap : CircuitSwap}
    (h : openScope seed accountId scope current classification nowMs = some swap) :
    Change swap.expected swap.replacement := by
  unfold openScope at h
  split at h
  · cases h
  · obtain ⟨value, hvalue, rfl⟩ := Option.map_eq_some_iff.mp h
    exact .opens (replacement_opens hvalue).1 (replacement_opens hvalue).2

theorem probeFailed_change {probe : CircuitProbe} {classification : FailureClassification}
    {nowMs : Nat} {swap : CircuitSwap}
    (h : probeFailed seed probe classification nowMs = some swap) :
    Change swap.expected swap.replacement := by
  obtain ⟨value, hvalue, rfl⟩ := Option.map_eq_some_iff.mp h
  split at hvalue
  · exact .opens (replacement_opens hvalue).1 (replacement_opens hvalue).2
  · refine .opens ?_ ?_ <;> show _ = _ <;> rw [circuitValue_fields hvalue]

theorem probeAbandoned_change {probe : CircuitProbe} {nowMs : Nat} {swap : CircuitSwap}
    (h : probeAbandoned seed probe nowMs = some swap) :
    Change swap.expected swap.replacement := by
  unfold probeAbandoned at h
  split at h
  · exact probeFailed_change h
  · cases h

/-- A begun probe carries the new token, which the controller has just drawn. -/
theorem beginProbe_probes {accountId : AccountId} {generationId : DeploymentGenerationId}
    {account deployment : CircuitValue} {nowMs : Nat} {token : ProbeToken} {swap : CircuitSwap}
    (h : beginProbe accountId generationId account deployment nowMs token = some swap) :
    Change swap.expected swap.replacement ∧ swap.replacement.probeId = some token.text := by
  unfold beginProbe at h
  by_cases haccount : account.state = .opened
  · simp only [haccount, if_true, ne_eq, not_true_eq_false, false_or] at h
    split at h
    · cases h
    · obtain ⟨value, hvalue, rfl⟩ := Option.map_eq_some_iff.mp h
      have hfields := circuitValue_fields hvalue
      exact ⟨.probes haccount (by rw [hfields]) (by rw [hfields]), by rw [hfields]⟩
  · simp only [haccount, if_false] at h
    split at h
    · cases h
    · next hguard =>
      rw [not_or, not_not] at hguard
      obtain ⟨value, hvalue, rfl⟩ := Option.map_eq_some_iff.mp h
      have hfields := circuitValue_fields hvalue
      exact ⟨.probes hguard.1 (by rw [hfields]) (by rw [hfields]), by rw [hfields]⟩

/-- **Every operation asks for one of the transitions of a circuit.** -/
theorem Asks.change {swap : CircuitSwap} (h : Asks seed swap) :
    Change swap.expected swap.replacement := by
  cases h with
  | opened h =>
    unfold «open» at h
    split at h
    · cases h
    · split at h
      · exact openScope_change h
      · exact openScope_change h
      · cases h
  | began h => exact (beginProbe_probes h).1
  | @succeeded probe h =>
    subst h
    exact .closes probe.halfOpen rfl rfl
  | failed h => exact probeFailed_change h
  | abandoned h => exact probeAbandoned_change h
  | candidate h =>
    rcases List.mem_append.mp h with h | h
    · split at h
      · exact probeAbandoned_change (List.eq_of_mem_singleton h).symm
      · cases h
    · split at h
      · exact probeAbandoned_change (List.eq_of_mem_singleton h).symm
      · cases h

end CircuitController

end LlmMaxxing
