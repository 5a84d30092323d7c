import LlmMaxxing.Gateway.JournalRecord
import LlmMaxxing.Lib.Dict

/-!
# One provider account at run time (`gateway/runtime_state.py`, `AccountRuntime`)

The counters shared by every deployment generation on one account: the start table behind the
RPM and TPM windows, the held attempts, the resolution ledger, the circuits and the monthly
counter. Time is a high-water mark: a call reads the clock once and a reading below the mark
counts as the mark.

A call that is journaled first plans, then asks the journal, then takes effect; `reply` is the
journal's answer. Keys of the three attempt tables are attempt ids. Times are compared as
integers, so a window that reaches below zero is not cut off.
-/

namespace LlmMaxxing

open Check

/-! ## Digests and configuration -/

/-- A digest text: `sha256:` and 64 hex digits. -/
structure Sha256Digest where
  text : String
  valid : isSha256Digest text = true
  deriving DecidableEq

/-- The hashes the runtime and its journal take, as functions of what is hashed; a record is
hashed with its sequence and the digest of the record before it. -/
structure Digests where
  profile : RequestProfile → Sha256Digest
  resolution : AttemptResolution → Sha256Digest
  binding : String → String → String → Sha256Digest
  attestation : String → Sha256Digest
  record : Nat → RecordBody → String → HexDigest

/-- What one process is configured with. -/
structure RuntimeConfig where
  digests : Digests
  resolutionLedgerLimit : Nat := 100_000
  resolutionRetentionMs : Nat := 86_400_000
  ledgerLimit_bounds : 1 ≤ resolutionLedgerLimit ∧ resolutionLedgerLimit ≤ 100_000 := by decide
  retention_pos : 1 ≤ resolutionRetentionMs := by decide

/-- The default ledger limit passes its own check. -/
theorem resolutionLedgerLimit_default : 1 ≤ 100_000 ∧ 100_000 ≤ 100_000 := by decide

/-- `_MAX_ROLLING_WINDOW_SECONDS`. -/
def maxRollingWindowSeconds : Nat := 86_400

/-- The time a start row is kept. -/
def keepMs : Nat := maxRollingWindowSeconds * 1000

/-! ## Requests -/

/-- Dispatcher identity fenced into every durable provider attempt. -/
structure RuntimeIdentity where
  installationId : InstallationId
  dispatcherFence : Nat
  bootId : GatewayBootId
  bundleGeneration : Nat
  bundleHash : BundleHash
  deriving DecidableEq

/-- The fields of a reservation request. -/
structure ReservationFields where
  requestId : RequestId
  attemptId : AttemptId
  accountId : AccountId
  legId : RouteLegId
  deploymentGenerationId : DeploymentGenerationId
  runtimeIdentity : RuntimeIdentity
  deadlineAtMs : Nat
  profile : RequestProfile
  inputTokensUpperBound : Nat
  accountCircuit : CircuitValue := CircuitValue.closed 0
  maxOutputTokens : Nat
  maxReasoningTokens : Nat
  quotaUnits : Nat
  circuit : CircuitValue
  deriving DecidableEq

namespace ReservationFields

def totalTokenUpperBound (r : ReservationFields) : Nat :=
  r.inputTokensUpperBound + r.maxOutputTokens + r.maxReasoningTokens

/-- Field constraints and `_charge_covers_profile`. -/
def validate (r : ReservationFields) : Validation Unit := do
  requireField (1 ≤ r.runtimeIdentity.dispatcherFence ∧
    r.runtimeIdentity.dispatcherFence ≤ maxInt) "dispatcher_fence"
  requireField (1 ≤ r.runtimeIdentity.bundleGeneration) "bundle_generation"
  requireField (1 ≤ r.deadlineAtMs ∧ r.deadlineAtMs ≤ maxInt) "deadline_at_ms"
  requireField (r.inputTokensUpperBound ≤ maxInt) "input_tokens_upper_bound"
  requireField (r.maxOutputTokens ≤ maxInt) "max_output_tokens"
  requireField (r.maxReasoningTokens ≤ maxInt) "max_reasoning_tokens"
  requireField (r.quotaUnits ≤ maxInt) "quota_units"
  requireValue (r.profile.inputTokensMax ≤ r.inputTokensUpperBound)
    "input token upper bound cannot be below the request profile"
  requireValue (r.maxOutputTokens = r.profile.outputTokensMax)
    "max_output_tokens must bind the request profile maximum"
  requireValue (r.maxReasoningTokens = r.profile.reasoningTokensMax)
    "max_reasoning_tokens must bind the request profile maximum"
  requireValue (r.totalTokenUpperBound ≤ maxInt) "total token upper bound is out of range"

end ReservationFields

/-- Complete immutable authorization input for one candidate provider send. -/
structure ReservationRequest extends ReservationFields where
  valid : toReservationFields.validate = .ok ()
  deriving DecidableEq

inductive ReservationDenialReason where
  | accountNotActive | accountNotFound | attemptDuplicate | circuitChanged | circuitUnavailable
  | deadlineExceeded | invalidQuotaCharge | journalCapacityStop | journalUnavailable
  | monthlyQuotaExhausted | monthlyResetUnavailable | parallelExhausted | recoveryRequired
  | rpmExhausted | tpmExhausted
  deriving DecidableEq, Repr

structure ReservationDenied where
  reason : ReservationDenialReason
  retryAtMs : Option Nat := none
  deriving DecidableEq, Repr

/-- How `try_reserve` ends. -/
inductive ReserveOutcome where
  | granted (receipt : JournalReceipt)
  | denied (denial : ReservationDenied)
  | raised (fault : RuntimeFault)
  deriving DecidableEq, Repr

/-! ## State -/

/-- One row of the start table. -/
structure Start where
  startedAtMs : Nat
  tokens : Nat
  countedStart : Bool := true
  deriving DecidableEq, Repr

inductive AttemptState where
  | active | uncertain
  deriving DecidableEq, Repr

instance : StrEnum AttemptState where
  value
    | .active => "active"
    | .uncertain => "uncertain"
  members := [.active, .uncertain]

/-- One held attempt. -/
structure Attempt where
  requestId : String
  legId : String
  deploymentGenerationId : String
  installationId : String
  bundleGeneration : Nat
  bundleHash : String
  fenceToken : Nat
  bootId : String
  deadlineAtMs : Nat
  profileDigest : String
  circuitEpoch : Nat
  accountCircuitEpoch : Nat
  circuitProbeId : Option String
  accountCircuitProbeId : Option String
  monthlyResetAtMs : Nat
  startedAtMs : Nat
  dispatchedAtMs : Option Nat
  dispatchReceipt : Option JournalReceipt
  reservedTokens : Nat
  quotaUnits : Nat
  state : AttemptState
  deriving DecidableEq

/-- What the ledger keeps of a send. -/
structure Dispatch where
  requestId : String
  attemptId : String
  legId : String
  deploymentGenerationId : String
  circuitEpoch : Nat
  accountCircuitEpoch : Nat
  circuitProbeId : Option String
  accountCircuitProbeId : Option String
  dispatchedAtMs : Nat
  deriving DecidableEq

/-- One row of the resolution ledger. -/
structure ResolvedAttempt where
  resolutionDigest : String
  receipt : JournalReceipt
  resolvedAtMs : Nat
  dispatch : Option Dispatch
  deriving DecidableEq

/-- Mutable counters of one account. -/
structure AccountRuntime where
  account : ProviderAccount
  starts : Dict String Start
  attempts : Dict String Attempt
  resolutions : Dict String ResolvedAttempt
  circuits : Dict DeploymentGenerationId CircuitValue
  accountCircuit : CircuitValue
  consumedCircuitProbes : Dict String String
  monthlyUsed : Nat
  timeHighWaterMs : Nat
  monthlyResetAtMs : Nat
  externalUncertainHolds : Nat
  recoveryProbeId : Option String
  deriving DecidableEq

/-- The bound of a dimension that is known. -/
def QuotaDimension.limit? (d : QuotaDimension) : Option Nat :=
  if d.status = .known then d.value else none

/-- `_next_monthly_reset`: the configured reset while it is still ahead, else 0. -/
def ProviderAccount.nextMonthlyReset (a : ProviderAccount) (nowMs : Nat) : Nat :=
  if a.monthlyQuotaUnits.status ≠ .known then 0
  else if a.monthlyResetAtMs.getD 0 > nowMs then a.monthlyResetAtMs.getD 0 else 0

/-- The attempt a reservation record stands for. -/
def DurableReservation.attempt (d : DurableReservation) : Attempt where
  requestId := d.requestId
  legId := d.legId
  deploymentGenerationId := d.deploymentGenerationId
  installationId := d.installationId
  bundleGeneration := d.bundleGeneration
  bundleHash := d.bundleHash
  fenceToken := d.fenceToken
  bootId := d.bootId
  deadlineAtMs := d.deadlineAtMs
  profileDigest := d.profileDigest
  circuitEpoch := d.circuitEpoch
  accountCircuitEpoch := d.accountCircuitEpoch
  circuitProbeId := d.circuitProbeId
  accountCircuitProbeId := d.accountCircuitProbeId
  monthlyResetAtMs := d.monthlyResetAtMs
  startedAtMs := d.startedAtMs
  dispatchedAtMs := none
  dispatchReceipt := none
  reservedTokens := d.reservedTokens
  quotaUnits := d.quotaUnits
  state := .active

/-- `_dispatch`. -/
def Attempt.dispatch (a : Attempt) (attemptId : String) : Option Dispatch :=
  a.dispatchedAtMs.map fun dispatchedAtMs =>
    { requestId := a.requestId
      attemptId := attemptId
      legId := a.legId
      deploymentGenerationId := a.deploymentGenerationId
      circuitEpoch := a.circuitEpoch
      accountCircuitEpoch := a.accountCircuitEpoch
      circuitProbeId := a.circuitProbeId
      accountCircuitProbeId := a.accountCircuitProbeId
      dispatchedAtMs := dispatchedAtMs }

namespace AccountRuntime

/-- `AccountRuntime.__init__`. -/
def fresh (account : ProviderAccount) (clock : Nat) : AccountRuntime where
  account := account
  starts := Dict.empty
  attempts := Dict.empty
  resolutions := Dict.empty
  circuits := Dict.empty
  accountCircuit := CircuitValue.closed 0
  consumedCircuitProbes := Dict.empty
  monthlyUsed := 0
  timeHighWaterMs := clock
  monthlyResetAtMs := account.nextMonthlyReset clock
  externalUncertainHolds := 0
  recoveryProbeId := none

/-! ## Reads -/

/-- `_active_count`. -/
def activeCount (rt : AccountRuntime) : Nat := rt.attempts.size + rt.externalUncertainHolds

/-- Some attempt is active. -/
def hasActive (rt : AccountRuntime) : Bool := rt.attempts.values.any fun a => a.state == .active

/-- `_uncertain_count`. -/
def uncertainCount (rt : AccountRuntime) : Nat :=
  rt.attempts.values.countP (fun a => a.state == .uncertain) + rt.externalUncertainHolds

/-- `circuit_value`. -/
def circuitValue (rt : AccountRuntime) (generation : DeploymentGenerationId) : CircuitValue :=
  (rt.circuits.get? generation).getD (CircuitValue.closed 0)

/-- A time inside the window of `seconds` that ends at `nowMs`. -/
def inWindow (nowMs seconds startedAtMs : Nat) : Bool :=
  (startedAtMs : Int) > (nowMs : Int) - (seconds * 1000 : Nat)

/-- `_rpm_starts`, with their attempt ids. -/
def rpmStarts (rt : AccountRuntime) (nowMs : Nat) : List (String × Start) :=
  rt.starts.entries.filter fun q =>
    q.2.countedStart && inWindow nowMs rt.account.rpmWindowSeconds q.2.startedAtMs

/-- `_tpm_starts`, with their attempt ids. -/
def tpmStarts (rt : AccountRuntime) (nowMs : Nat) : List (String × Start) :=
  rt.starts.entries.filter fun q => inWindow nowMs rt.account.tpmWindowSeconds q.2.startedAtMs

/-- Tokens charged by a list of starts. -/
def tokenSum (starts : List (String × Start)) : Nat := (starts.map fun q => q.2.tokens).sum

/-- The loop of `_tpm_retry_at` over the sorted starts. -/
def tpmRetryLoop (windowMs requested limit : Nat) : Nat → List (String × Start) → Option Nat
  | _, [] => none
  | total, q :: rest =>
    if total - q.2.tokens + requested ≤ limit then some (q.2.startedAtMs + windowMs)
    else tpmRetryLoop windowMs requested limit (total - q.2.tokens) rest

/-- `_tpm_retry_at`. -/
def tpmRetryAt (rt : AccountRuntime) (starts : List (String × Start)) (requested limit : Nat) :
    Option Nat :=
  let windowMs := rt.account.tpmWindowSeconds * 1000
  let ordered := sortOn (fun q : String × Start => toLex (q.2.startedAtMs, q.1)) starts
  (tpmRetryLoop windowMs requested limit (tokenSum starts) ordered).orElse fun _ =>
    (starts.map fun q => q.2.startedAtMs).max?.map (· + windowMs)

/-! ## Time -/

/-- `_now_ms`: advance the high-water mark; the mark is the time of the call. -/
def tick (rt : AccountRuntime) (clock : Nat) : AccountRuntime :=
  { rt with timeHighWaterMs := max rt.timeHighWaterMs clock }

/-- `_prune_resolutions`. -/
def pruneResolutions (cfg : RuntimeConfig) (rt : AccountRuntime) (nowMs : Nat) : AccountRuntime :=
  { rt with
    resolutions := rt.resolutions.filter fun q =>
      !(decide ((q.2.resolvedAtMs : Int) ≤ (nowMs : Int) - cfg.resolutionRetentionMs) &&
        !rt.attempts.contains q.1) }

/-- `_purge_windows`. -/
def purgeWindows (rt : AccountRuntime) (nowMs : Nat) : AccountRuntime :=
  { rt with
    starts := rt.starts.filter fun q =>
      !(decide ((q.2.startedAtMs : Int) ≤ (nowMs : Int) - keepMs) && !rt.attempts.contains q.1) }

/-- `_roll_monthly`. -/
def rollMonthly (rt : AccountRuntime) (nowMs : Nat) : AccountRuntime :=
  if rt.monthlyResetAtMs ≠ 0 ∧ nowMs ≥ rt.monthlyResetAtMs then
    { rt with monthlyUsed := 0, monthlyResetAtMs := 0 }
  else rt

/-- `update_account`. -/
def updateAccount (rt : AccountRuntime) (clock : Nat) (account : ProviderAccount) :
    Except RuntimeFault AccountRuntime :=
  if account.accountId ≠ rt.account.accountId then
    .error (.valueError "cannot replace an AccountRuntime identity")
  else
    let rt := rt.tick clock
    let nowMs := rt.timeHighWaterMs
    let rt := rt.rollMonthly nowMs
    let candidateReset := account.nextMonthlyReset nowMs
    .ok { rt with
      account := account
      monthlyResetAtMs :=
        if rt.monthlyResetAtMs = 0 ∨ candidateReset > rt.monthlyResetAtMs then candidateReset
        else rt.monthlyResetAtMs }

/-- The state `capacity` leaves behind. -/
def capacity (rt : AccountRuntime) (clock : Nat) : AccountRuntime :=
  let rt := rt.tick clock
  (rt.purgeWindows rt.timeHighWaterMs).rollMonthly rt.timeHighWaterMs

/-! ## Reservations -/

/-- The checks of `try_reserve` before it reads the clock. -/
def checkEntry (rt : AccountRuntime) (status : JournalStatus) (request : ReservationRequest) :
    Except ReservationDenied Unit := do
  require (status ≠ .recoveryRequired) { reason := .recoveryRequired }
  require (status ≠ .admissionStop) { reason := .journalCapacityStop }
  require (request.accountId = rt.account.accountId) { reason := .accountNotFound }
  require (rt.recoveryProbeId = none) { reason := .recoveryRequired }
  require (rt.account.state = some .active) { reason := .accountNotActive }

/-- The probes a reservation on `generation` consumes. -/
def probeIds (rt : AccountRuntime) (generation : DeploymentGenerationId) : List String :=
  [rt.accountCircuit.halfOpenProbe, (rt.circuitValue generation).halfOpenProbe].filterMap id

/-- The checks on the ledger, the request and the circuits. -/
def checkRequest (cfg : RuntimeConfig) (rt : AccountRuntime) (nowMs : Nat)
    (request : ReservationRequest) : Except ReservationDenied Unit := do
  let unresolved := rt.attempts.keys.countP fun a => !rt.resolutions.contains a
  require (rt.resolutions.size + unresolved < cfg.resolutionLedgerLimit)
    { reason := .journalCapacityStop }
  require (rt.account.quotaUnitsPerAttempt ≤ request.quotaUnits) { reason := .invalidQuotaCharge }
  require (nowMs < request.deadlineAtMs) { reason := .deadlineExceeded }
  require (¬ (rt.attempts.contains request.attemptId.text ∨
    rt.starts.contains request.attemptId.text ∨ rt.resolutions.contains request.attemptId.text))
    { reason := .attemptDuplicate }
  require (rt.accountCircuit = request.accountCircuit) { reason := .circuitChanged }
  require (rt.accountCircuit.state ≠ .opened)
    { reason := .circuitUnavailable, retryAtMs := some rt.accountCircuit.retryAtMs }
  let current := rt.circuitValue request.deploymentGenerationId
  require (current = request.circuit) { reason := .circuitChanged }
  require (current.state ≠ .opened)
    { reason := .circuitUnavailable, retryAtMs := some current.retryAtMs }
  require (∀ p ∈ rt.probeIds request.deploymentGenerationId,
    rt.consumedCircuitProbes.contains p = false) { reason := .circuitUnavailable }

/-- The capacity checks. -/
def checkLimits (rt : AccountRuntime) (nowMs : Nat) (request : ReservationRequest) :
    Except ReservationDenied Unit := do
  require (¬ (rt.account.monthlyQuotaUnits.status = .known ∧ request.quotaUnits > 0 ∧
    rt.monthlyResetAtMs = 0)) { reason := .monthlyResetUnavailable }
  require (rt.activeCount < rt.account.enforcedMaxInFlight) { reason := .parallelExhausted }
  require (∀ limit ∈ rt.account.rpmLimit.limit?, (rt.rpmStarts nowMs).length < limit)
    { reason := .rpmExhausted
      retryAtMs := ((rt.rpmStarts nowMs).map fun q => q.2.startedAtMs).min?.map
        (· + rt.account.rpmWindowSeconds * 1000) }
  require (∀ limit ∈ rt.account.tpmLimit.limit?, request.totalTokenUpperBound ≤ limit)
    { reason := .tpmExhausted }
  require (∀ limit ∈ rt.account.tpmLimit.limit?,
    tokenSum (rt.tpmStarts nowMs) + request.totalTokenUpperBound ≤ limit)
    { reason := .tpmExhausted
      retryAtMs := rt.tpmRetryAt (rt.tpmStarts nowMs) request.totalTokenUpperBound
        (rt.account.tpmLimit.limit?.getD 0) }
  require (∀ limit ∈ rt.account.monthlyQuotaUnits.limit?,
    rt.monthlyUsed + request.quotaUnits ≤ limit)
    { reason := .monthlyQuotaExhausted, retryAtMs := some rt.monthlyResetAtMs }

/-- The record `try_reserve` writes. -/
def durableReservation (cfg : RuntimeConfig) (rt : AccountRuntime) (nowMs : Nat)
    (request : ReservationRequest) : DurableReservation where
  requestId := request.requestId.text
  attemptId := request.attemptId.text
  accountId := request.accountId
  legId := request.legId.text
  deploymentGenerationId := request.deploymentGenerationId.text
  installationId := request.runtimeIdentity.installationId.text
  bundleGeneration := request.runtimeIdentity.bundleGeneration
  bundleHash := request.runtimeIdentity.bundleHash.text
  fenceToken := request.runtimeIdentity.dispatcherFence
  bootId := request.runtimeIdentity.bootId.text
  deadlineAtMs := request.deadlineAtMs
  profileDigest := (cfg.digests.profile request.profile).text
  startedAtMs := nowMs
  reservedTokens := request.totalTokenUpperBound
  quotaUnits := request.quotaUnits
  monthlyResetAtMs := rt.monthlyResetAtMs
  circuitEpoch := request.circuit.epoch
  accountCircuitEpoch := request.accountCircuit.epoch
  circuitProbeId := request.circuit.probeId
  accountCircuitProbeId := rt.accountCircuit.halfOpenProbe

/-- What `try_reserve` decides before it asks the journal: a denial, or the state with purged
windows and the record to write. -/
def planReserve (cfg : RuntimeConfig) (rt : AccountRuntime) (status : JournalStatus) (clock : Nat)
    (request : ReservationRequest) :
    AccountRuntime × Except ReservationDenied DurableReservation :=
  match rt.checkEntry status request with
  | .error denied => (rt, .error denied)
  | .ok () =>
    let rt := rt.tick clock
    let nowMs := rt.timeHighWaterMs
    let rt := rt.pruneResolutions cfg nowMs
    match rt.checkRequest cfg nowMs request with
    | .error denied => (rt, .error denied)
    | .ok () =>
      let rt := (rt.purgeWindows nowMs).rollMonthly nowMs
      match rt.checkLimits nowMs request with
      | .error denied => (rt, .error denied)
      | .ok () => (rt, .ok (rt.durableReservation cfg nowMs request))

/-- Mark the probes of a reservation as consumed. -/
def consumeProbes (rt : AccountRuntime) (probes : List String) (attemptId : String) :
    Dict String String :=
  probes.foldl (fun consumed p => consumed.insert p attemptId) rt.consumedCircuitProbes

/-- The effect of a journaled reservation. -/
def reserve (rt : AccountRuntime) (d : DurableReservation) : AccountRuntime :=
  { rt with
    consumedCircuitProbes :=
      rt.consumeProbes ([d.accountCircuitProbeId, d.circuitProbeId].filterMap id) d.attemptId
    starts := rt.starts.insert d.attemptId { startedAtMs := d.startedAtMs, tokens := d.reservedTokens }
    attempts := rt.attempts.insert d.attemptId d.attempt
    monthlyUsed := rt.monthlyUsed + d.quotaUnits }

/-- `try_reserve`; `reply` is what `reserve_before_send` answers. -/
def tryReserve (cfg : RuntimeConfig) (rt : AccountRuntime) (status : JournalStatus) (clock : Nat)
    (reply : Except RuntimeFault JournalReceipt) (request : ReservationRequest) :
    AccountRuntime × ReserveOutcome :=
  match rt.planReserve cfg status clock request with
  | (rt, .error denied) => (rt, .denied denied)
  | (rt, .ok d) =>
    match reply with
    | .ok receipt => (rt.reserve d, .granted receipt)
    | .error (.journalUnavailable reason) =>
      if reason = StrEnum.value JournalStatus.admissionStop then
        (rt, .denied { reason := .journalCapacityStop })
      else (rt, .denied { reason := .journalUnavailable })
    | .error fault => (rt, .raised fault)

/-! ## Dispatch and resolution -/

/-- `_mark_dispatched`. -/
def markDispatched (rt : AccountRuntime) (clock : Nat) (reply : Except RuntimeFault JournalReceipt)
    (attemptId : String) : AccountRuntime × Except RuntimeFault JournalReceipt :=
  match rt.attempts.get? attemptId with
  | none =>
    (rt, .error (.invalidLeaseTransition "unknown or terminal attempt cannot dispatch"))
  | some attempt =>
    if rt.resolutions.contains attemptId then
      (rt, .error (.invalidLeaseTransition "unknown or terminal attempt cannot dispatch"))
    else
      match attempt.dispatchReceipt with
      | some receipt => (rt, .ok receipt)
      | none =>
        let rt := rt.tick clock
        if rt.timeHighWaterMs ≥ attempt.deadlineAtMs then
          (rt, .error (.invalidLeaseTransition "attempt deadline elapsed before dispatch"))
        else
          match reply with
          | .error e => (rt, .error e)
          | .ok receipt =>
            ({ rt with
                attempts := rt.attempts.modify attemptId fun a =>
                  { a with dispatchedAtMs := some rt.timeHighWaterMs
                           dispatchReceipt := some receipt } },
              .ok receipt)

/-- The start table after a resolution. -/
def resolveStart (rt : AccountRuntime) (attemptId : String) (r : AttemptResolution) :
    Dict String Start :=
  rt.starts.modify attemptId fun s =>
    { s with
      countedStart := s.countedStart && r.actualStarts != some 0
      tokens := r.actualTokenUnits.getD s.tokens }

/-- The held attempts after a resolution. -/
def resolveAttempt (rt : AccountRuntime) (attemptId : String) (r : AttemptResolution) :
    Dict String Attempt :=
  if r.releaseCapacity then rt.attempts.erase attemptId
  else rt.attempts.modify attemptId fun a => { a with state := .uncertain }

/-- The counter after a report of `actual` units on a charge of `reserved`. -/
def refund (used actual reserved : Nat) : Nat := (max 0 ((used : Int) + (actual - reserved))).toNat

/-- The effect of a journaled resolution in the process that wrote it. -/
def resolve (rt : AccountRuntime) (attemptId : String) (attempt : Attempt) (r : AttemptResolution)
    (digest : String) (receipt : JournalReceipt) (resolvedAtMs : Nat) : AccountRuntime :=
  { rt with
    starts := rt.resolveStart attemptId r
    monthlyUsed :=
      match r.actualQuotaUnits with
      | some actual =>
        if attempt.monthlyResetAtMs = rt.monthlyResetAtMs then
          refund rt.monthlyUsed actual attempt.quotaUnits
        else rt.monthlyUsed
      | none => rt.monthlyUsed
    attempts := rt.resolveAttempt attemptId r
    resolutions := rt.resolutions.insert attemptId
      ⟨digest, receipt, resolvedAtMs, attempt.dispatch attemptId⟩ }

/-- `_finish`. -/
def finish (cfg : RuntimeConfig) (rt : AccountRuntime) (clock : Nat)
    (reply : Except RuntimeFault JournalReceipt) (attemptId : String) (r : AttemptResolution) :
    AccountRuntime × Except RuntimeFault JournalReceipt :=
  let digest := (cfg.digests.resolution r).text
  match rt.resolutions.get? attemptId with
  | some resolved =>
    if resolved.resolutionDigest ≠ digest then
      (rt, .error (.invalidLeaseTransition "conflicting terminal resolution"))
    else (rt, .ok resolved.receipt)
  | none =>
    match rt.attempts.get? attemptId with
    | none => (rt, .error (.invalidLeaseTransition "unknown attempt cannot be resolved"))
    | some attempt =>
      if r.actualTokenUnits.getD 0 > attempt.reservedTokens then
        (rt, .error (.invalidLeaseTransition "actual token usage exceeds reservation"))
      else if r.actualQuotaUnits.getD 0 > attempt.quotaUnits then
        (rt, .error (.invalidLeaseTransition "actual quota usage exceeds reservation"))
      else
        let rt := rt.tick clock
        match reply with
        | .error e => (rt, .error e)
        | .ok receipt =>
          match rt.starts.get? attemptId with
          | none => (rt, .error (.keyError attemptId))
          | some _ =>
            (rt.resolve attemptId attempt r digest receipt rt.timeHighWaterMs, .ok receipt)

/-! ## Circuits -/

/-- The circuit of a scope: a deployment generation, or the account. -/
def scopedCircuit (rt : AccountRuntime) : Option DeploymentGenerationId → CircuitValue
  | none => rt.accountCircuit
  | some generation => rt.circuitValue generation

/-- The effect of a journaled circuit replacement: the probe of `previous` is forgotten. -/
def replaceCircuit (rt : AccountRuntime) (scope : Option DeploymentGenerationId)
    (previous replacement : CircuitValue) : AccountRuntime :=
  let consumed := match previous.probeId with
    | some p => rt.consumedCircuitProbes.erase p
    | none => rt.consumedCircuitProbes
  match scope with
  | none => { rt with consumedCircuitProbes := consumed, accountCircuit := replacement }
  | some generation =>
    { rt with consumedCircuitProbes := consumed
              circuits := rt.circuits.insert generation replacement }

/-- `compare_and_swap_circuit` and `compare_and_swap_account_circuit`, by scope. -/
def compareAndSwap (rt : AccountRuntime) (reply : Except RuntimeFault JournalReceipt)
    (scope : Option DeploymentGenerationId) (expected replacement : CircuitValue) :
    AccountRuntime × Except RuntimeFault Bool :=
  if rt.scopedCircuit scope ≠ expected then (rt, .ok false)
  else if replacement.epoch < expected.epoch then
    (rt, .error (.valueError "circuit epoch cannot decrease"))
  else if replacement = expected then (rt, .ok true)
  else
    match reply with
    | .error e => (rt, .error e)
    | .ok _ => (rt.replaceCircuit scope expected replacement, .ok true)

/-- `compare_and_swap_circuit`. -/
def compareAndSwapCircuit (rt : AccountRuntime) (reply : Except RuntimeFault JournalReceipt)
    (generation : DeploymentGenerationId) (expected replacement : CircuitValue) :
    AccountRuntime × Except RuntimeFault Bool :=
  rt.compareAndSwap reply (some generation) expected replacement

/-- `compare_and_swap_account_circuit`. -/
def compareAndSwapAccountCircuit (rt : AccountRuntime) (reply : Except RuntimeFault JournalReceipt)
    (expected replacement : CircuitValue) : AccountRuntime × Except RuntimeFault Bool :=
  rt.compareAndSwap reply none expected replacement

/-! ## Authoritative counts and recovery probes -/

/-- Attempt ids ordered by `(started_at_ms, attempt_id)`. -/
def orderedAttempts (attempts : List (String × Attempt)) : List String :=
  (sortOn (fun q : String × Attempt => toLex (q.2.startedAtMs, q.1)) attempts).map Prod.fst

/-- The effect of an authoritative count: the oldest attempts stay, the excess is held. -/
def setActiveCount (rt : AccountRuntime) (activeCount : Nat) : AccountRuntime :=
  let ordered := orderedAttempts rt.attempts.entries
  let keep := min activeCount ordered.length
  { rt with
    attempts := rt.attempts.filter fun q => !(ordered.drop keep).contains q.1
    externalUncertainHolds := activeCount - keep }

/-- `_apply_authoritative_active_count`. -/
def recordActiveCount (rt : AccountRuntime) (activeCount : Nat) :
    Except RuntimeFault AccountRuntime :=
  if rt.hasActive then .error (.valueError "authoritative count cannot evict live active attempts")
  else .ok (rt.setActiveCount activeCount)

/-- `apply_authoritative_active_count`. -/
def applyAuthoritativeActiveCount (rt : AccountRuntime)
    (reply : Except RuntimeFault JournalReceipt) (activeCount : Nat) :
    AccountRuntime × Except RuntimeFault Unit :=
  if rt.hasActive then
    (rt, .error (.valueError "authoritative count cannot evict live active attempts"))
  else
    match reply with
    | .error e => (rt, .error e)
    | .ok _ => (rt.setActiveCount activeCount, .ok ())

/-- `begin_recovery_probe`. -/
def beginRecoveryProbe (rt : AccountRuntime) (reply : Except RuntimeFault JournalReceipt)
    (probeId : String) : AccountRuntime × Except RuntimeFault Bool :=
  if probeId.toList.take 6 ≠ "probe_".toList then
    (rt, .error (.valueError "recovery probe requires a typed probe ID"))
  else if rt.recoveryProbeId ≠ none ∨ rt.uncertainCount = 0 ∨ rt.hasActive then (rt, .ok false)
  else
    match reply with
    | .error e => (rt, .error e)
    | .ok _ => ({ rt with recoveryProbeId := some probeId }, .ok true)

/-- `_apply_recovery_probe_finished`. -/
def endRecoveryProbe (rt : AccountRuntime) (classification : ProbeClassification) :
    AccountRuntime :=
  let released :=
    if classification = .available then
      if rt.externalUncertainHolds ≠ 0 then
        { rt with externalUncertainHolds := rt.externalUncertainHolds - 1 }
      else
        match orderedAttempts (rt.attempts.entries.filter fun q => q.2.state == .uncertain) with
        | [] => rt
        | oldest :: _ => { rt with attempts := rt.attempts.erase oldest }
    else rt
  { released with recoveryProbeId := none }

/-- `finish_recovery_probe`. -/
def finishRecoveryProbe (rt : AccountRuntime) (reply : Except RuntimeFault JournalReceipt)
    (probeId : String) (classification : ProbeClassification) :
    AccountRuntime × Except RuntimeFault Unit :=
  if rt.recoveryProbeId ≠ some probeId then
    (rt, .error (.valueError "recovery probe is not the serialized active probe"))
  else if rt.hasActive then
    (rt, .error (.valueError "recovery probe cannot evict live active attempts"))
  else
    match reply with
    | .error e => (rt, .error e)
    | .ok _ => (rt.endRecoveryProbe classification, .ok ())

end AccountRuntime

/-! ## Calls -/

/-- The calls on one account, each with the clock reading it meets. -/
inductive AccountCall where
  | reserve (status : JournalStatus) (clock : Nat) (request : ReservationRequest)
  | dispatch (clock : Nat) (attemptId : String)
  | finish (clock : Nat) (attemptId : String) (resolution : AttemptResolution)
  | capacity (clock : Nat)
  | swapCircuit (scope : Option DeploymentGenerationId) (expected replacement : CircuitValue)
  | activeCount (count : Nat)
  | beginProbe (probeId : String)
  | finishProbe (probeId : String) (classification : ProbeClassification)

/-- The account after a call; `reply` is the journal's answer where the call asks it. -/
def AccountRuntime.call (cfg : RuntimeConfig) (rt : AccountRuntime)
    (reply : Except RuntimeFault JournalReceipt) : AccountCall → AccountRuntime
  | .reserve status clock request => (rt.tryReserve cfg status clock reply request).1
  | .dispatch clock attemptId => (rt.markDispatched clock reply attemptId).1
  | .finish clock attemptId resolution => (rt.finish cfg clock reply attemptId resolution).1
  | .capacity clock => rt.capacity clock
  | .swapCircuit scope expected replacement =>
    (rt.compareAndSwap reply scope expected replacement).1
  | .activeCount count => (rt.applyAuthoritativeActiveCount reply count).1
  | .beginProbe probeId => (rt.beginRecoveryProbe reply probeId).1
  | .finishProbe probeId classification =>
    (rt.finishRecoveryProbe reply probeId classification).1

/-- The record a call asks the journal to append; `none` when it ends without asking. -/
def AccountRuntime.asks (cfg : RuntimeConfig) (rt : AccountRuntime) :
    AccountCall → Option RecordBody
  | .reserve status clock request =>
    match (rt.planReserve cfg status clock request).2 with
    | .ok d => some (.attemptReserved d)
    | .error _ => none
  | .dispatch clock attemptId =>
    match rt.attempts.get? attemptId with
    | some attempt =>
      if rt.resolutions.contains attemptId ∨ attempt.dispatchReceipt ≠ none ∨
          (rt.tick clock).timeHighWaterMs ≥ attempt.deadlineAtMs then none
      else some (.attemptDispatched attemptId (rt.tick clock).timeHighWaterMs)
    | none => none
  | .finish clock attemptId r =>
    match rt.resolutions.get? attemptId, rt.attempts.get? attemptId with
    | none, some attempt =>
      if r.actualTokenUnits.getD 0 > attempt.reservedTokens ∨
          r.actualQuotaUnits.getD 0 > attempt.quotaUnits then none
      else some (.attemptResolved attemptId r (cfg.digests.resolution r).text
        (rt.tick clock).timeHighWaterMs)
    | _, _ => none
  | .capacity _ => none
  | .swapCircuit scope expected replacement =>
    if rt.scopedCircuit scope = expected ∧ expected.epoch ≤ replacement.epoch ∧
        replacement ≠ expected then
      some (.circuitUpdated rt.account.accountId scope replacement)
    else none
  | .activeCount count =>
    if rt.hasActive then none
    else some (.authoritativeActiveCount rt.account.accountId count)
  | .beginProbe probeId =>
    if probeId.toList.take 6 ≠ "probe_".toList ∨ rt.recoveryProbeId ≠ none ∨
        rt.uncertainCount = 0 ∨ rt.hasActive then none
    else some (.recoveryProbeStarted rt.account.accountId probeId)
  | .finishProbe probeId classification =>
    if rt.recoveryProbeId ≠ some probeId ∨ rt.hasActive then none
    else some (.recoveryProbeFinished rt.account.accountId probeId classification)

end LlmMaxxing
