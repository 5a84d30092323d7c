import LlmMaxxing.Telemetry.Spool
import LlmMaxxing.Lib.Dict

/-!
# Lifecycle reservations (`gateway/telemetry.py`)

A request reserves `4 + 2 * max_attempts` slots of the spool and emits its lifecycle events from them.
Every call runs under the lock of the reservation, so it is one operation on the reservation's state
and on the spool; an exception leaves what was done before it. The clock and the fresh event id are
read from outside. Metrics and traces, which nothing here reads, are left out.
-/

namespace LlmMaxxing.Telemetry

open Check

/-! ## Events -/

/-- `LifecycleReason.from_outcome`. -/
def LifecycleReason.fromOutcome : TerminalOutcome → LifecycleReason
  | .authzDenied => .authzDenied
  | .authStateUnavailable => .authStateUnavailable
  | .unsupportedRequest => .unsupportedRequest
  | .backpressureRejected => .backpressureRejected
  | .routeUnavailable => .routeUnavailable
  | .deadlineExceeded => .deadlineExceeded
  | .upstreamFailed => .upstreamFailed
  | .clientCancelled => .clientCancelled
  | .responseStreamFailed => .responseStreamFailed
  | .completed => .completed

/-- `_attempt_reason`. -/
def attemptReason (outcome : TerminalOutcome) (uncertain : Bool) : LifecycleReason :=
  if uncertain = false then .fromOutcome outcome
  else
    match outcome with
    | .clientCancelled | .deadlineExceeded | .responseStreamFailed => .fromOutcome outcome
    | _ => .upstreamUnknown

/-- `_CAUSE_TO_TRIGGER`. -/
def causeToTrigger : DispatchCause → RouteTrigger
  | .primary => .primary
  | .capacity => .capacitySpill
  | .failure => .failureFallback
  | .quota => .quotaFallback
  | .manualEmergency => .manualEmergency
  | .shadow => .shadow

/-- What a lifecycle call raises: its own errors by their text, a `ValidationError` of an event, or
what the spool raises. -/
inductive LifecycleError where
  | runtime (message : String)
  | value (message : String)
  | validation (message : String)
  | spool (fault : Spool.CallResult)
  deriving DecidableEq

/-- What a call reads from outside: the clock, and `EventId.new()`. -/
structure Reading where
  nowMs : Int
  eventId : EventId
  deriving DecidableEq

/-- A value of `_PositiveMilliseconds`. -/
def positiveMilliseconds (n : Int) : Except LifecycleError PositiveMilliseconds :=
  if h : 1 ≤ n ∧ n ≤ maxSafeInteger then .ok ⟨n.toNat, by omega, by omega⟩
  else .error (.validation "milliseconds out of range")

/-- A value of `_Milliseconds` that the code has made nonnegative. -/
def milliseconds (n : Int) : Except LifecycleError SafeCount :=
  if h : n.toNat ≤ maxSafeInteger then .ok ⟨n.toNat, h⟩
  else .error (.validation "milliseconds out of range")

/-- A value of `attempts_used`. -/
def attemptsUsed (n : Nat) : Except LifecycleError (Fin 5) :=
  if h : n < 5 then .ok ⟨n, h⟩ else .error (.validation "attempts_used out of range")

/-- An optional member. -/
def optionally {α β : Type} (f : α → Except LifecycleError β) :
    Option α → Except LifecycleError (Option β)
  | none => .ok none
  | some a => (f a).map some

/-- `LifecycleEventV1.model_validate`. -/
def modelValidate (e : EventFields) : Except LifecycleError LifecycleEventV1 :=
  match h : e.kindFieldsAndSize with
  | .ok () => .ok ⟨e, h⟩
  | .error message => .error (.validation message)

/-! ## State -/

/-- `_AttemptState`. -/
structure AttemptState where
  accountId : AccountId
  routeGroupId : RouteGroupId
  trigger : RouteTrigger
  startedAtMs : Int
  headersAtMs : Option Int := none
  firstByteAtMs : Option Int := none
  resolved : Bool := false
  deriving DecidableEq

/-- `_LifecycleState`. -/
structure LifecycleState where
  routeGroupId : Option RouteGroupId := none
  queuedAtMs : Option Int := none
  firstAccountId : Option AccountId := none
  attempts : Dict AttemptId AttemptState := .empty
  profileRecorded : Bool := false
  queuedRecorded : Bool := false
  terminalRecorded : Bool := false
  released : Bool := false

/-- What an attempt event reads of a `DispatchLease`. -/
structure DispatchLease where
  attemptId : AttemptId
  routeGroupId : RouteGroupId
  accountId : AccountId
  generationId : DeploymentGenerationId
  cause : DispatchCause
  deriving DecidableEq

/-- `TelemetryLifecycleCapacity`; `active` has the requests that own a reservation. -/
structure TelemetryLifecycleCapacity where
  spool : Spool
  installationId : InstallationId
  bootId : GatewayBootId
  active : List RequestId := []
  closed : Bool := false

/-- `LifecycleReservation`; `slot` is the place of its spool reservation. -/
structure LifecycleReservation where
  slot : Nat
  requestId : RequestId
  keyId : KeyId
  admittedAtMs : Int
  maxAttempts : Nat
  deriving DecidableEq

/-- A reservation's state beside the process. `emitted` has the events whose `emit` returned. -/
structure Lifecycle where
  capacity : TelemetryLifecycleCapacity
  state : LifecycleState := {}
  emitted : List LifecycleEventV1 := []

/-- A call leaves a state, also when it raises. -/
abbrev LifecycleCall (α : Type) := Lifecycle → Fallible Lifecycle LifecycleError α

namespace LifecycleReservation

variable (c : SpoolConfig) (r : LifecycleReservation)

/-- The spool's state of the reservation. -/
def spoolState (l : Lifecycle) : ReservationState :=
  l.capacity.spool.reservations.getD r.slot { remaining := 0, closed := true }

/-- `remaining_events`. -/
def remainingEvents (l : Lifecycle) : Nat := (r.spoolState l).remaining

/-- The members that every event has. -/
def eventBase (cap : TelemetryLifecycleCapacity) (x : Reading) (kind : LifecycleEventKind) :
    Except LifecycleError EventFields := do
  let occurredAtMs ← positiveMilliseconds x.nowMs
  return {
    eventId := x.eventId
    requestId := r.requestId
    kind := kind
    occurredAtMs := occurredAtMs
    installationId := cap.installationId
    bootId := cap.bootId
    keyId := r.keyId }

/-- `self._spool.emit`. -/
def emit (event : LifecycleEventV1) (terminal : Bool) : LifecycleCall Unit := fun l =>
  match l.capacity.spool.submit c r.slot (r.spoolState l) event terminal with
  | (spool, .returned) =>
    ({ l with
        capacity := { l.capacity with spool := spool }
        emitted := l.emitted ++ [event] }, .ok ())
  | (spool, fault) => ({ l with capacity := { l.capacity with spool := spool } }, .error (.spool fault))

/-- `self._spool.emit(self._event(...))`. -/
def emitEvent (event : Except LifecycleError LifecycleEventV1) (terminal : Bool) :
    LifecycleCall Unit := fun l =>
  match event with
  | .ok event => r.emit c event terminal l
  | .error e => (l, .error e)

/-- `self._spool.release_unused()`. -/
def releaseUnused : LifecycleCall Unit := fun l =>
  match l.capacity.spool.releaseUnused r.slot (r.spoolState l) none with
  | (spool, .returned) => ({ l with capacity := { l.capacity with spool := spool } }, .ok ())
  | (spool, fault) => ({ l with capacity := { l.capacity with spool := spool } }, .error (.spool fault))

end LifecycleReservation

/-- Raise unless a condition holds. -/
def demand (p : Prop) [Decidable p] (e : LifecycleError) : LifecycleCall Unit :=
  fun l => (l, require p e)

/-- Update the state of the reservation. -/
def record (f : LifecycleState → LifecycleState) : LifecycleCall Unit :=
  fun l => ({ l with state := f l.state }, .ok ())

/-- `_open`. -/
def isOpen : LifecycleCall Unit := fun l =>
  demand (l.state.released = false ∧ l.state.terminalRecorded = false)
    (.runtime "request lifecycle is terminal") l

/-- The attempt of a lease. -/
def getAttempt (attemptId : AttemptId) (message : String) : LifecycleCall AttemptState := fun l =>
  match l.state.attempts.get? attemptId with
  | none => (l, .error (.runtime message))
  | some attempt => (l, .ok attempt)

open Fallible (andThen)

namespace LifecycleReservation

variable (c : SpoolConfig) (r : LifecycleReservation)

/-- `profile_accepted`. -/
def profileAccepted (x : Reading) (routeGroupId : RouteGroupId) : LifecycleCall Unit := fun l =>
  andThen (isOpen l) fun _ l =>
  andThen (demand (l.state.profileRecorded = false)
    (.runtime "request profile lifecycle event already recorded") l) fun _ l =>
  let event := do
    let base ← r.eventBase l.capacity x .requestAdmissionEvent
    modelValidate { base with routeGroupId := some routeGroupId, reason := some .profileAccepted }
  andThen (r.emitEvent c event false l) fun _ =>
  record fun s => { s with routeGroupId := some routeGroupId, profileRecorded := true }

/-- `queued`. -/
def queued (x : Reading) : LifecycleCall Unit := fun l =>
  andThen (isOpen l) fun _ l =>
  andThen (demand (l.state.profileRecorded = true ∧ l.state.routeGroupId ≠ none)
    (.runtime "request cannot queue before profile acceptance") l) fun _ l =>
  andThen (demand (l.state.queuedRecorded = false)
    (.runtime "request queued lifecycle event already recorded") l) fun _ l =>
  let event := do
    let base ← r.eventBase l.capacity x .requestQueued
    modelValidate { base with routeGroupId := l.state.routeGroupId }
  andThen (r.emitEvent c event false l) fun _ =>
  record fun s => { s with queuedAtMs := some x.nowMs, queuedRecorded := true }

/-- The account a spilled attempt left: the first one, when it is another. -/
def spillFrom (firstAccountId : Option AccountId) (accountId : AccountId) : Option AccountId :=
  firstAccountId.filter fun first => first ≠ accountId

/-- `attempt_started`. -/
def attemptStarted (x : Reading) (lease : DispatchLease) (shadow : Bool) : LifecycleCall Unit :=
  fun l =>
  let trigger := if shadow then .shadow else causeToTrigger lease.cause
  andThen (isOpen l) fun _ l =>
  andThen (demand (l.state.queuedRecorded = true)
    (.runtime "provider attempt cannot start before queue admission") l) fun _ l =>
  andThen (demand (l.state.attempts.contains lease.attemptId = false)
    (.runtime "attempt lifecycle event already recorded") l) fun _ l =>
  andThen (demand (l.state.attempts.size < r.maxAttempts ∧ 3 ≤ r.remainingEvents l)
    (.runtime "provider send exceeds reserved attempt budget") l) fun _ l =>
  let event := do
    let queueWait ← optionally milliseconds
      (l.state.queuedAtMs.map fun queuedAtMs => max 0 (x.nowMs - queuedAtMs))
    let base ← r.eventBase l.capacity x .attemptReserved
    modelValidate { base with
      routeGroupId := some lease.routeGroupId
      attemptId := some lease.attemptId
      accountId := some lease.accountId
      deploymentGenerationId := some lease.generationId
      trigger := some trigger
      spillFromAccountId := spillFrom l.state.firstAccountId lease.accountId
      timingsMs := queueWait.map fun n => { queueWaitMs := some n, hasMeasurement := by simp } }
  andThen (r.emitEvent c event false l) fun _ =>
  record fun s => { s with
    firstAccountId := s.firstAccountId.or (some lease.accountId)
    routeGroupId := some lease.routeGroupId
    attempts := s.attempts.insert lease.attemptId
      { accountId := lease.accountId
        routeGroupId := lease.routeGroupId
        trigger := trigger
        startedAtMs := x.nowMs } }

/-- `attempt_headers`. -/
def attemptHeaders (x : Reading) (attemptId : AttemptId) : LifecycleCall Unit := fun l =>
  andThen (isOpen l) fun _ l =>
  andThen (getAttempt attemptId "attempt headers have no reserved event pair" l) fun attempt l =>
  andThen (demand (attempt.resolved = false)
    (.runtime "resolved attempt cannot record headers") l) fun _ =>
  record fun s => { s with
    attempts := s.attempts.insert attemptId
      { attempt with headersAtMs := attempt.headersAtMs.or (some x.nowMs) } }

/-- `attempt_first_byte`. -/
def attemptFirstByte (x : Reading) (attemptId : AttemptId) : LifecycleCall Unit := fun l =>
  andThen (isOpen l) fun _ l =>
  andThen (getAttempt attemptId "attempt first byte has no reserved event pair" l) fun attempt l =>
  andThen (demand (attempt.resolved = false)
    (.runtime "resolved attempt cannot record first byte") l) fun _ l =>
  andThen (demand (attempt.headersAtMs ≠ none)
    (.runtime "attempt first byte cannot precede response headers") l) fun _ =>
  record fun s => { s with
    attempts := s.attempts.insert attemptId
      { attempt with firstByteAtMs := attempt.firstByteAtMs.or (some x.nowMs) } }

/-- `attempt_finished`. -/
def attemptFinished (x : Reading) (lease : DispatchLease) (outcome : TerminalOutcome)
    (uncertain capacityReleased : Bool) : LifecycleCall Unit := fun l =>
  andThen (isOpen l) fun _ l =>
  andThen (getAttempt lease.attemptId "attempt resolution has no reserved event pair" l)
    fun attempt l =>
  if attempt.resolved = true then (l, .ok ())
  else
    andThen (demand (¬(uncertain = true ∧ capacityReleased = true))
      (.value "uncertain provider capacity cannot be reported released") l) fun _ l =>
    let event := do
      let ttft ← optionally milliseconds
        (attempt.firstByteAtMs.map fun firstByte => max 0 (firstByte - attempt.startedAtMs))
      let duration ← milliseconds (max 0 (x.nowMs - attempt.startedAtMs))
      let headers ← optionally positiveMilliseconds attempt.headersAtMs
      let firstByte ← optionally positiveMilliseconds attempt.firstByteAtMs
      let now ← positiveMilliseconds x.nowMs
      let base ← r.eventBase l.capacity x .attemptResolved
      modelValidate { base with
        routeGroupId := some attempt.routeGroupId
        attemptId := some lease.attemptId
        accountId := some attempt.accountId
        deploymentGenerationId := some lease.generationId
        trigger := some attempt.trigger
        outcome := some outcome
        reason := some (attemptReason outcome uncertain)
        spillFromAccountId := spillFrom l.state.firstAccountId attempt.accountId
        uncertain := some uncertain
        timingsMs := some
          { ttftMs := ttft, durationMs := some duration, hasMeasurement := by simp }
        headersAtMs := headers
        firstByteAtMs := firstByte
        finalByteAtMs := if outcome = .completed then some now else none
        leaseReleasedAtMs := if capacityReleased then some now else none }
    andThen (r.emitEvent c event false l) fun _ =>
    record fun s => { s with
      attempts := s.attempts.insert lease.attemptId { attempt with resolved := true } }

/-- `finished`. -/
def finished (x : Reading) (outcome : TerminalOutcome) : LifecycleCall Unit := fun l =>
  if l.state.terminalRecorded = true then (l, .ok ())
  else
    andThen (demand (l.state.released = false)
      (.runtime "released request cannot emit a terminal event") l) fun _ l =>
    let event := do
      let duration ← milliseconds (max 0 (x.nowMs - r.admittedAtMs))
      let used ← attemptsUsed l.state.attempts.size
      let base ← r.eventBase l.capacity x .requestTerminal
      modelValidate { base with
        routeGroupId := l.state.routeGroupId
        outcome := some outcome
        reason := some (.fromOutcome outcome)
        timingsMs := some { durationMs := some duration, hasMeasurement := by simp }
        attemptsUsed := some used }
    andThen (r.emitEvent c event true l) fun _ l =>
    andThen (record (fun s => { s with terminalRecorded := true }) l) fun _ =>
    r.releaseUnused

/-- `release`. The capacity forgets the request. -/
def release (x : Reading) : LifecycleCall Unit := fun l =>
  if l.state.released = true then (l, .ok ())
  else
    andThen (if l.state.terminalRecorded = true then (l, .ok ()) else r.finished c x .upstreamFailed l)
      fun _ l =>
    andThen (r.releaseUnused l) fun _ l =>
    andThen (record (fun s => { s with released := true }) l) fun _ l =>
    ({ l with
        capacity := { l.capacity with active := l.capacity.active.erase r.requestId } }, .ok ())

end LifecycleReservation

/-! ## Reserving -/

/-- `TelemetryLifecycleCapacity.reserve`, with the event it emits. -/
def TelemetryLifecycleCapacity.reserve (c : SpoolConfig) (cap : TelemetryLifecycleCapacity)
    (requestId : RequestId) (keyId : KeyId) (events : Int) (x : Reading) :
    Fallible TelemetryLifecycleCapacity LifecycleError
      (Option (LifecycleReservation × Lifecycle)) :=
  if (events ≠ 10 ∧ events ≠ 12) ∨ (events - 4) % 2 ≠ 0 then
    (cap, .error (.value "lifecycle budget must be 4 + 2*max_attempts (10 or 12 in V1)"))
  else if cap.closed = true then (cap, .ok none)
  else if requestId ∈ cap.active then
    (cap, .error (.runtime "request already owns lifecycle capacity"))
  else
    let spool := cap.spool.tryReserve c events
    -- `try_reserve` returns a reservation where it has added one.
    if spool.reservations.length = cap.spool.reservations.length then (cap, .ok none)
    else
      let r : LifecycleReservation :=
        { slot := cap.spool.reservations.length
          requestId := requestId
          keyId := keyId
          admittedAtMs := x.nowMs
          maxAttempts := ((events - 4) / 2).toNat }
      let reserved : Lifecycle := { capacity := { cap with spool := spool } }
      let event := do
        let base ← r.eventBase cap x .requestAdmitted
        modelValidate base
      match r.emitEvent c event false reserved with
      | (l, .ok ()) =>
        let active := { l.capacity with active := requestId :: l.capacity.active }
        (active, .ok (some (r, { l with capacity := active })))
      | (l, .error _) => ((r.releaseUnused l).1.capacity, .ok none)

/-! ## Runs -/

/-- A call on a reservation. -/
inductive ReservationCall where
  | profileAccepted (routeGroupId : RouteGroupId)
  | queued
  | attemptStarted (lease : DispatchLease) (shadow : Bool)
  | attemptHeaders (attemptId : AttemptId)
  | attemptFirstByte (attemptId : AttemptId)
  | attemptFinished (lease : DispatchLease) (outcome : TerminalOutcome)
      (uncertain capacityReleased : Bool)
  | finished (outcome : TerminalOutcome)
  | release

/-- The call with what it reads. -/
def ReservationCall.run (c : SpoolConfig) (r : LifecycleReservation) (x : Reading) :
    ReservationCall → LifecycleCall Unit
  | .profileAccepted routeGroupId => r.profileAccepted c x routeGroupId
  | .queued => r.queued c x
  | .attemptStarted lease shadow => r.attemptStarted c x lease shadow
  | .attemptHeaders attemptId => LifecycleReservation.attemptHeaders x attemptId
  | .attemptFirstByte attemptId => LifecycleReservation.attemptFirstByte x attemptId
  | .attemptFinished lease outcome uncertain capacityReleased =>
    r.attemptFinished c x lease outcome uncertain capacityReleased
  | .finished outcome => r.finished c x outcome
  | .release => r.release c x

/-- A step of the process: a call on the reservation, or a step of another thread on the spool and on
the other reservations. -/
inductive LifecycleStep where
  | call (x : Reading) (call : ReservationCall)
  | elsewhere (action : SpoolAction) (active : List RequestId)

/-- A spool action that is not on a reservation. -/
def SpoolAction.Spares (slot : Nat) : SpoolAction → Prop
  | .emit i _ _ => i ≠ slot
  | .releaseUnused i _ => i ≠ slot
  | _ => True

instance (slot : Nat) (a : SpoolAction) : Decidable (a.Spares slot) := by
  cases a <;> unfold SpoolAction.Spares <;> infer_instance

section Run

variable (sha256 : Json.Bytes → HexDigest) (c : SpoolConfig) (r : LifecycleReservation)

/-- The state after a step; `none` when no thread stands at it. -/
def Lifecycle.step (l : Lifecycle) : LifecycleStep → Option Lifecycle
  | .call x call => some (call.run c r x l).1
  | .elsewhere action active =>
    if action.Spares r.slot then
      (l.capacity.spool.step sha256 c action).map fun spool =>
        { l with capacity := { l.capacity with spool := spool, active := active } }
    else none

/-- A run of steps. -/
def Lifecycle.run (l : Lifecycle) : List LifecycleStep → Option Lifecycle
  | [] => some l
  | step :: rest => (l.step sha256 c r step).bind fun l' => l'.run rest

end Run

end LlmMaxxing.Telemetry
