import LlmMaxxing.Gateway.Circuit
import LlmMaxxing.Lib.Chars
import LlmMaxxing.Lib.Json

/-!
# Journal values and records (`gateway/journal.py`)

The journal stores JSON values of a closed shape: bounded integers, identifiers, digests and
reason words only. A record is one of nine kinds; `payload` is the object the journal writes and
validates before it accepts the record.
-/

namespace LlmMaxxing

open Check Chars

/-- Exceptions of the runtime and the journal. The three in the middle are `ValueError`s. -/
inductive RuntimeFault where
  | valueError (message : String)
  | invalidLeaseTransition (message : String)
  | accountBindingConflict (message : String)
  | credentialAttestationRollback (message : String)
  | keyError (key : String)
  | typeError (message : String)
  | journalUnavailable (reason : String)
  deriving DecidableEq, Repr

inductive JournalStatus where
  | healthy | admissionStop | recoveryRequired | closed
  deriving DecidableEq, Repr

instance : StrEnum JournalStatus where
  value
    | .healthy => "healthy"
    | .admissionStop => "admission_stop"
    | .recoveryRequired => "recovery_required"
    | .closed => "closed"
  members := [.healthy, .admissionStop, .recoveryRequired, .closed]

/-- The position and the digest of a durable record. -/
structure JournalReceipt where
  durableLsn : Nat
  recordDigest : String
  deriving DecidableEq, Repr

/-! ## Safe values -/

/-- `[a-z0-9_.:-]`. -/
def isSafeKeyChar (c : Char) : Bool :=
  ('a' ≤ c && c ≤ 'z') || ('0' ≤ c && c ≤ '9') || c == '_' || c == '.' || c == ':' || c == '-'

/-- `_SAFE_KEY`. -/
def isSafeKey (s : String) : Bool :=
  1 ≤ (chars s).length && (chars s).length ≤ 180 && (chars s).all isSafeKeyChar

/-- The tags whose body is 32 to 36 hex digits and dashes. -/
def safeIdTags : List String := ["acc_", "att_", "boot_", "inst_", "leg_", "probe_", "req_"]

/-- `tag` followed by 32 to 36 of `[0-9a-f-]`. -/
def isTaggedUuid (tag : String) (s : String) : Bool :=
  (chars s).take (chars tag).length == chars tag &&
    (32 ≤ ((chars s).drop (chars tag).length).length &&
      ((chars s).drop (chars tag).length).length ≤ 36 &&
      ((chars s).drop (chars tag).length).all fun c => isLowerHex c || c == '-')

/-- `tag` followed by 64 hex digits. -/
def isTaggedHex (tag : String) (s : String) : Bool :=
  (chars s).take (chars tag).length == chars tag &&
    isHexOfLength 64 ((chars s).drop (chars tag).length)

/-- `_SAFE_ID`. -/
def isSafeId (s : String) : Bool :=
  safeIdTags.any (isTaggedUuid · s) || isTaggedHex "dg1_" s || isTaggedHex "bh_" s

/-- `_SAFE_DIGEST`. -/
def isSafeDigest (s : String) : Bool := isTaggedHex "sha256:" s || isTaggedHex "" s

/-- `_SAFE_WORDS`. -/
def safeWords : List String := [
  "active", "available", "capacity_exhausted", "capacity", "account", "deployment",
  "client_cancelled", "closed", "auth_state_unavailable", "authz_denied",
  "backpressure_rejected", "completed", "crash_recovery", "deadline_exceeded", "manual",
  "disabled", "draft", "half_open", "inconclusive", "open", "response_stream_failed",
  "tombstoned", "quota", "transient_failure", "route_unavailable", "unsupported_request",
  "upstream_failed", "uncertain", "upstream_unknown"]

/-- The strings a journal value may hold. -/
def isSafeText (s : String) : Bool :=
  (chars s).length ≤ 180 && (isSafeId s || isSafeDigest s || safeWords.contains s)

/-- The largest list or object. -/
def maxSafeMembers : Nat := 100_000

/-- The depth guard at the head of `_validate_safe_value`. -/
def requireDepth (depth : Nat) : Except RuntimeFault Unit :=
  require (depth ≤ 16) (.valueError "journal value exceeds maximum nesting")

mutual

/-- `_validate_safe_value`. -/
def validateSafeValue (depth : Nat) : Json → Except RuntimeFault Unit
  | .null => requireDepth depth
  | .bool _ => requireDepth depth
  | .num n => do
    requireDepth depth
    require (0 ≤ n ∧ n ≤ maxInt) (.valueError "journal integer is out of range")
  | .str s => do
    requireDepth depth
    require (isSafeText s = true)
      (.valueError "journal strings must be bounded IDs, digests, or reasons")
  | .arr items => do
    requireDepth depth
    require (items.length ≤ maxSafeMembers) (.valueError "journal list is too large")
    validateSafeItems (depth + 1) items
  | .obj fields => do
    requireDepth depth
    require (fields.length ≤ maxSafeMembers) (.valueError "journal object is too large")
    validateSafeFields (depth + 1) fields

def validateSafeItems (depth : Nat) : List Json → Except RuntimeFault Unit
  | [] => .ok ()
  | v :: rest => do
    validateSafeValue depth v
    validateSafeItems depth rest

def validateSafeFields (depth : Nat) : List (String × Json) → Except RuntimeFault Unit
  | [] => .ok ()
  | (k, v) :: rest => do
    require (isSafeKey k = true) (.valueError "journal object key is not bounded")
    validateSafeValue depth v
    validateSafeFields depth rest

end

/-- A value the journal accepts at a depth. -/
def SafeAt (depth : Nat) (v : Json) : Prop := validateSafeValue depth v = .ok ()

instance (depth : Nat) (v : Json) : Decidable (SafeAt depth v) :=
  inferInstanceAs (Decidable (_ = _))

namespace SafeAt

variable {depth : Nat}

@[simp] theorem null_iff : SafeAt depth .null ↔ depth ≤ 16 := by
  simp [SafeAt, validateSafeValue, requireDepth]

@[simp] theorem bool_iff {b : Bool} : SafeAt depth (.bool b) ↔ depth ≤ 16 := by
  simp [SafeAt, validateSafeValue, requireDepth]

@[simp] theorem num_iff {n : Int} :
    SafeAt depth (.num n) ↔ depth ≤ 16 ∧ 0 ≤ n ∧ n ≤ maxInt := by
  simp [SafeAt, validateSafeValue, requireDepth]

@[simp] theorem str_iff {s : String} :
    SafeAt depth (.str s) ↔ depth ≤ 16 ∧ isSafeText s = true := by
  simp [SafeAt, validateSafeValue, requireDepth]

theorem validateSafeFields_eq_ok_iff {fields : List (String × Json)} {u : Unit} :
    validateSafeFields depth fields = .ok u ↔
      ∀ q ∈ fields, isSafeKey q.1 = true ∧ SafeAt depth q.2 := by
  induction fields with
  | nil => simp [validateSafeFields]
  | cons q rest ih =>
    obtain ⟨k, v⟩ := q
    simp only [validateSafeFields, bind_eq_ok_iff, require_eq_ok_iff, exists_unit_and_iff, ih,
      List.forall_mem_cons, SafeAt, and_assoc]

theorem obj_iff {fields : List (String × Json)} :
    SafeAt depth (.obj fields) ↔ depth ≤ 16 ∧ fields.length ≤ maxSafeMembers ∧
      ∀ q ∈ fields, isSafeKey q.1 = true ∧ SafeAt (depth + 1) q.2 := by
  rw [SafeAt, validateSafeValue]
  simp only [bind_eq_ok_iff, require_eq_ok_iff, exists_unit_and_iff,
    validateSafeFields_eq_ok_iff, requireDepth]

end SafeAt

/-! ## Records -/

inductive AmbiguousReason where
  | clientCancelled | crashRecovery | deadlineExceeded | responseStreamFailed | upstreamUnknown
  deriving DecidableEq, Repr

instance : StrEnum AmbiguousReason where
  value
    | .clientCancelled => "client_cancelled"
    | .crashRecovery => "crash_recovery"
    | .deadlineExceeded => "deadline_exceeded"
    | .responseStreamFailed => "response_stream_failed"
    | .upstreamUnknown => "upstream_unknown"
  members := [
    .clientCancelled, .crashRecovery, .deadlineExceeded, .responseStreamFailed, .upstreamUnknown]

inductive ProbeClassification where
  | available | capacityExhausted | inconclusive
  deriving DecidableEq, Repr

instance : StrEnum ProbeClassification where
  value
    | .available => "available"
    | .capacityExhausted => "capacity_exhausted"
    | .inconclusive => "inconclusive"
  members := [.available, .capacityExhausted, .inconclusive]

/-- What is written before a provider send. -/
structure DurableReservation where
  requestId : String
  attemptId : String
  accountId : AccountId
  legId : String
  deploymentGenerationId : String
  installationId : String
  bundleGeneration : Nat
  bundleHash : String
  fenceToken : Nat
  bootId : String
  deadlineAtMs : Nat
  profileDigest : String
  startedAtMs : Nat
  reservedTokens : Nat
  quotaUnits : Nat
  monthlyResetAtMs : Nat
  circuitEpoch : Nat
  accountCircuitEpoch : Nat
  circuitProbeId : Option String
  accountCircuitProbeId : Option String
  deriving DecidableEq

/-- One durable terminal observation with independent certainty per dimension. -/
structure AttemptResolution where
  outcome : TerminalOutcome
  releaseCapacity : Bool
  actualStarts : Option Nat := none
  actualTokenUnits : Option Nat := none
  actualQuotaUnits : Option Nat := none
  deriving DecidableEq

/-- The nine record kinds with their payloads. A circuit update without a generation is one of
the account scope. -/
inductive RecordBody where
  | accountRegistered (accountId : AccountId) (bindingDigest credentialAttestationDigest : String)
      (credentialEpoch : Nat) (state : AccountState)
  | attemptReserved (reservation : DurableReservation)
  | attemptDispatched (attemptId : String) (dispatchedAtMs : Nat)
  | attemptUncertain (attemptId : String) (reason : AmbiguousReason)
  | attemptResolved (attemptId : String) (resolution : AttemptResolution)
      (resolutionDigest : String) (resolvedAtMs : Nat)
  | circuitUpdated (accountId : AccountId) (generation : Option DeploymentGenerationId)
      (value : CircuitValue)
  | authoritativeActiveCount (accountId : AccountId) (activeCount : Nat)
  | recoveryProbeStarted (accountId : AccountId) (probeId : String)
  | recoveryProbeFinished (accountId : AccountId) (probeId : String)
      (classification : ProbeClassification)
  deriving DecidableEq

/-- A string member that may be `null`. -/
def textOrNull : Option String → Json
  | none => .null
  | some s => .str s

/-- An integer member that may be `null`. -/
def numOrNull : Option Nat → Json
  | none => .null
  | some n => .num n

namespace RecordBody

/-- `asdict(reservation)`. -/
def reservationPayload (d : DurableReservation) : List (String × Json) := [
  ("request_id", .str d.requestId),
  ("attempt_id", .str d.attemptId),
  ("account_id", .str d.accountId.text),
  ("leg_id", .str d.legId),
  ("deployment_generation_id", .str d.deploymentGenerationId),
  ("installation_id", .str d.installationId),
  ("bundle_generation", .num d.bundleGeneration),
  ("bundle_hash", .str d.bundleHash),
  ("fence_token", .num d.fenceToken),
  ("boot_id", .str d.bootId),
  ("deadline_at_ms", .num d.deadlineAtMs),
  ("profile_digest", .str d.profileDigest),
  ("started_at_ms", .num d.startedAtMs),
  ("reserved_tokens", .num d.reservedTokens),
  ("quota_units", .num d.quotaUnits),
  ("monthly_reset_at_ms", .num d.monthlyResetAtMs),
  ("circuit_epoch", .num d.circuitEpoch),
  ("account_circuit_epoch", .num d.accountCircuitEpoch),
  ("circuit_probe_id", textOrNull d.circuitProbeId),
  ("account_circuit_probe_id", textOrNull d.accountCircuitProbeId)]

/-- The members of a circuit value as records and checkpoints write them. -/
def circuitMembers (v : CircuitValue) : List (String × Json) := [
  ("state", .str (StrEnum.value v.state)),
  ("cause", textOrNull (v.cause.map StrEnum.value)),
  ("opened_at_ms", .num v.openedAtMs),
  ("backoff_step", .num v.backoffStep),
  ("evidence_digest", textOrNull v.evidenceDigest),
  ("epoch", .num v.epoch),
  ("retry_at_ms", .num v.retryAtMs),
  ("probe_id", textOrNull v.probeId)]

/-- The payload object of a record. -/
def payload : RecordBody → List (String × Json)
  | accountRegistered accountId bindingDigest credentialAttestationDigest credentialEpoch state => [
    ("account_id", .str accountId.text),
    ("binding_digest", .str bindingDigest),
    ("credential_attestation_digest", .str credentialAttestationDigest),
    ("credential_epoch", .num credentialEpoch),
    ("state", .str (StrEnum.value state))]
  | attemptReserved d => reservationPayload d
  | attemptDispatched attemptId dispatchedAtMs => [
    ("attempt_id", .str attemptId), ("dispatched_at_ms", .num dispatchedAtMs)]
  | attemptUncertain attemptId reason => [
    ("attempt_id", .str attemptId), ("reason", .str (StrEnum.value reason))]
  | attemptResolved attemptId resolution resolutionDigest resolvedAtMs => [
    ("attempt_id", .str attemptId),
    ("outcome", .str (StrEnum.value resolution.outcome)),
    ("release_capacity", .bool resolution.releaseCapacity),
    ("actual_starts", numOrNull resolution.actualStarts),
    ("actual_token_units", numOrNull resolution.actualTokenUnits),
    ("actual_quota_units", numOrNull resolution.actualQuotaUnits),
    ("resolution_digest", .str resolutionDigest),
    ("resolved_at_ms", .num resolvedAtMs)]
  | circuitUpdated accountId generation value =>
    ("account_id", .str accountId.text) ::
    ("scope", .str (StrEnum.value
      (if generation.isSome then CircuitScope.deployment else CircuitScope.account))) ::
    ("deployment_generation_id", textOrNull (generation.map TypedId.text)) ::
    circuitMembers value
  | authoritativeActiveCount accountId activeCount => [
    ("account_id", .str accountId.text), ("active_count", .num activeCount)]
  | recoveryProbeStarted accountId probeId => [
    ("account_id", .str accountId.text), ("probe_id", .str probeId)]
  | recoveryProbeFinished accountId probeId classification => [
    ("account_id", .str accountId.text),
    ("probe_id", .str probeId),
    ("classification", .str (StrEnum.value classification))]

/-- `_validate_payload`: the field set is closed by construction, the values must be safe. -/
def validatePayload (body : RecordBody) : Except RuntimeFault Unit :=
  validateSafeValue 0 (.obj body.payload)

end RecordBody

/-- A durable record: its position in the journal and the digest that chains it. -/
structure JournalRecord where
  sequence : Nat
  body : RecordBody
  digest : String
  deriving DecidableEq

/-- The receipt of a record. -/
def JournalRecord.receipt (r : JournalRecord) : JournalReceipt := ⟨r.sequence, r.digest⟩

end LlmMaxxing
