import LlmMaxxing.Core.Bundle

/-!
# Circuit values (`gateway/runtime_state.py`)

A circuit is one persisted value that is replaced as a whole. `CircuitFields` are the fields a
caller names; `CircuitValue` is what construction returns, so a closed circuit with a probe or
an open one without evidence cannot be built.
-/

namespace LlmMaxxing

open Check

/-- `_MAX_INT`. -/
def maxInt : Nat := 2 ^ 63 - 1

inductive CircuitState where
  | closed | opened | halfOpen
  deriving DecidableEq, Repr

instance : StrEnum CircuitState where
  value
    | .closed => "closed"
    | .opened => "open"
    | .halfOpen => "half_open"
  members := [.closed, .opened, .halfOpen]

inductive CircuitCause where
  | capacity | transientFailure | quota | manual
  deriving DecidableEq, Repr

instance : StrEnum CircuitCause where
  value
    | .capacity => "capacity"
    | .transientFailure => "transient_failure"
    | .quota => "quota"
    | .manual => "manual"
  members := [.capacity, .transientFailure, .quota, .manual]

inductive CircuitScope where
  | account | deployment
  deriving DecidableEq, Repr

instance : StrEnum CircuitScope where
  value
    | .account => "account"
    | .deployment => "deployment"
  members := [.account, .deployment]

/-- `^sha256:[0-9a-f]{64}$`. -/
def isSha256Digest (s : String) : Bool :=
  s.toList.take 7 == "sha256:".toList && isHexOfLength 64 (s.toList.drop 7)

/-- `_PROBE_ID`: `^probe_[0-9a-f-]{36}$`. -/
def isProbeId (s : String) : Bool :=
  s.toList.take 6 == "probe_".toList &&
    ((s.toList.drop 6).length == 36 && (s.toList.drop 6).all fun c => isLowerHex c || c == '-')

/-- The fields of a circuit value. -/
structure CircuitFields where
  state : CircuitState
  cause : Option CircuitCause
  epoch : Nat
  openedAtMs : Nat
  retryAtMs : Nat
  backoffStep : Nat
  evidenceDigest : Option String
  probeId : Option String
  deriving DecidableEq

namespace CircuitFields

/-- A cause together with the digest of what proved it. -/
def evidence (c : CircuitFields) : Bool := c.cause.isSome && c.evidenceDigest.isSome

/-- Field constraints and `_state_fields_match`. -/
def validate (c : CircuitFields) : Validation Unit := do
  requireField (c.openedAtMs ≤ maxInt) "opened_at_ms"
  requireField (c.retryAtMs ≤ maxInt) "retry_at_ms"
  requireField (c.backoffStep ≤ 64) "backoff_step"
  requireField (∀ d ∈ c.evidenceDigest, isSha256Digest d = true) "evidence_digest"
  requireField (∀ p ∈ c.probeId, isProbeId p = true) "probe_id"
  requireValue
    (c.state = .closed →
      c.evidence = false ∧ c.openedAtMs = 0 ∧ c.retryAtMs = 0 ∧ c.backoffStep = 0 ∧
        c.probeId = none)
    "closed circuit cannot carry open/probe state"
  requireValue
    (c.state = .opened →
      c.evidence = true ∧ c.openedAtMs ≠ 0 ∧ c.retryAtMs ≠ 0 ∧ c.probeId = none)
    "open circuit requires evidence/retry state and no probe"
  requireValue
    (c.state = .halfOpen →
      c.evidence = true ∧ c.openedAtMs ≠ 0 ∧ c.retryAtMs = 0 ∧ c.probeId ≠ none)
    "half-open circuit requires evidence and one probe"

end CircuitFields

/-- One persisted circuit value. -/
structure CircuitValue extends CircuitFields where
  valid : toCircuitFields.validate = .ok ()
  deriving DecidableEq

namespace CircuitFields

/-- The class call: fields that validate, as a value. -/
def construct (c : CircuitFields) : Validation CircuitValue :=
  match h : c.validate with
  | .ok () => .ok ⟨c, h⟩
  | .error e => .error e

theorem construct_eq_ok_iff {c : CircuitFields} {v : CircuitValue} :
    c.construct = .ok v ↔ v.toCircuitFields = c := by
  constructor
  · intro h
    unfold construct at h
    split at h
    · cases h; rfl
    · cases h
  · rintro rfl
    unfold construct
    split
    · rfl
    · next h => rw [v.valid] at h; cases h

end CircuitFields

namespace CircuitValue

@[ext] theorem ext {a b : CircuitValue} (h : a.toCircuitFields = b.toCircuitFields) : a = b := by
  cases a; cases b; cases h; rfl

theorem state_fields_match (c : CircuitValue) :
    (c.state = .closed → c.probeId = none) ∧ (c.state = .opened → c.probeId = none) ∧
      (c.state = .halfOpen → c.probeId ≠ none) := by
  have h := c.valid
  simp only [CircuitFields.validate, bind_eq_ok_iff, requireField_eq_ok_iff,
    requireValue_eq_ok_iff, exists_unit_and_iff] at h
  exact ⟨fun hs => (h.2.2.2.2.2.1 hs).2.2.2.2, fun hs => (h.2.2.2.2.2.2.1 hs).2.2.2,
    fun hs => (h.2.2.2.2.2.2.2 hs).2.2.2⟩

/-- Only a half-open circuit names a probe. -/
theorem halfOpen_of_probeId {c : CircuitValue} {p : String} (h : c.probeId = some p) :
    c.state = .halfOpen := by
  cases hs : c.state with
  | closed => rw [c.state_fields_match.1 hs] at h; cases h
  | opened => rw [c.state_fields_match.2.1 hs] at h; cases h
  | halfOpen => rfl

/-- `CircuitValue.closed(epoch)`. -/
def closed (epoch : Nat) : CircuitValue where
  state := .closed
  cause := none
  epoch := epoch
  openedAtMs := 0
  retryAtMs := 0
  backoffStep := 0
  evidenceDigest := none
  probeId := none
  valid := by
    simp [CircuitFields.validate, CircuitFields.evidence]

/-- The probe a half-open circuit waits for. -/
def halfOpenProbe (c : CircuitValue) : Option String :=
  if c.state = .halfOpen then c.probeId else none

/-- Closed and open circuits name no probe, so the guard on the state adds nothing. -/
@[simp] theorem halfOpenProbe_eq (c : CircuitValue) : c.halfOpenProbe = c.probeId := by
  unfold halfOpenProbe
  split
  · rfl
  · next h =>
    cases hp : c.probeId with
    | none => rfl
    | some p => exact absurd (halfOpen_of_probeId hp) h

end CircuitValue

end LlmMaxxing
