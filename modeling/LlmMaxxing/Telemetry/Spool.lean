import LlmMaxxing.Telemetry.Events
import LlmMaxxing.Lib.Fallible

/-!
# The lifecycle spool in memory (`telemetry/writer.py`)

Request threads reserve slots, emit events and give slots back, each under one lock. `flush` and
`close` are serialized by a control lock and put a command into the queue that the writer thread
answers. The writer collects a batch, appends it record by record and settles each slot.

`Spool.step` is one atomic step of one of these threads. A deadline of the writer, an age of a
segment and a timeout of a caller may fall anywhere, so they are actions. No step here models a
failing disk.
-/

namespace LlmMaxxing.Telemetry

open Json

inductive SpoolStatus where
  | healthy | admissionStop | failed | crashed | closed
  deriving DecidableEq, Repr

/-- What `LifecycleSpool.__init__` accepts. -/
structure SpoolConfig where
  maxBytes : Nat
  queueCapacity : Nat := 32_768
  batchRecords : Nat := 256
  segmentBytes : Nat := 64 * 1024 * 1024
  watermarkEvents : Nat := 12
  maxBytes_bound : maxEventBytes ≤ maxBytes := by decide
  queueCapacity_pos : 1 ≤ queueCapacity := by decide
  batchRecords_bounds : 1 ≤ batchRecords ∧ batchRecords ≤ 256 := by decide
  segmentBytes_pos : 1 ≤ segmentBytes := by decide
  watermarkEvents_pos : 1 ≤ watermarkEvents := by decide

/-! ## Records -/

/-- `_RECORD_DOMAIN`. -/
def recordDomain : Bytes := utf8 "llmmaxxing.lifecycle-spool.v1\x00".toList

/-- The payload of a record, before its digest. -/
def recordPayload (previous : HexDigest) (recordType : String) (segment sequence : Nat)
    (body : String × Json) : List (String × Json) := [
  ("previous_digest", .str previous.text),
  ("record_type", .str recordType),
  ("segment", .num segment),
  ("sequence", .num sequence),
  body]

/-- The digest of a record and its line. -/
def recordLine (sha256 : Bytes → HexDigest) (previous : HexDigest) (recordType : String)
    (segment sequence : Nat) (body : String × Json) : Except CanonicalError (HexDigest × Bytes) := do
  let payload := recordPayload previous recordType segment sequence body
  let bytes ← serialize (.obj payload)
  let digest := sha256 (recordDomain ++ bytes)
  let line ← serialize (.obj (payload ++ [("digest", .str digest.text)]))
  return (digest, line ++ [10])

/-- `SegmentManifest`. -/
structure SegmentManifest where
  index : Nat
  firstSequence : Nat := 0
  lastSequence : Nat := 0
  firstEventId : Option EventId := none
  lastEventId : Option EventId := none
  digest : HexDigest
  bytes : Nat := 0
  openedAtMs : Nat
  isOpen : Bool := true
  deriving DecidableEq

/-- A line handed to the segment file of the writer. -/
structure AppendedLine where
  segment : Nat
  sequence : Nat
  event : LifecycleEventV1
  line : Bytes
  deriving DecidableEq

/-- What the writer owns: the segments with the one it writes to, the end of the chain, and every
line it wrote since the spool was opened. -/
structure SpoolFiles where
  earlier : List SegmentManifest := []
  current : SegmentManifest
  lastSequence : Nat
  lastDigest : HexDigest
  physicalBytes : Nat
  appended : List AppendedLine := []
  deriving DecidableEq

namespace SpoolFiles

/-- The largest segment index. -/
def maxIndex (f : SpoolFiles) : Nat := (f.earlier.map SegmentManifest.index).foldl max f.current.index

/-- `_close_current_segment`. -/
def closeCurrentSegment (f : SpoolFiles) : SpoolFiles :=
  { f with current := { f.current with isOpen := false } }

/-- `_open_new_segment`. -/
def openNewSegment (nowMs : Nat) (f : SpoolFiles) : SpoolFiles :=
  { f with
    earlier := f.earlier ++ [f.current]
    current := { index := f.maxIndex + 1, digest := f.lastDigest, openedAtMs := nowMs } }

/-- `_rotate_if_needed`; `aged` is `age >= segment_seconds`. -/
def rotateIfNeeded (c : SpoolConfig) (lineBytes : Nat) (aged : Bool) (nowMs : Nat)
    (f : SpoolFiles) : SpoolFiles :=
  if f.current.bytes ≠ 0 ∧ (f.current.bytes + lineBytes > c.segmentBytes ∨ aged = true) then
    f.closeCurrentSegment.openNewSegment nowMs
  else f

/-- The line is written and the manifest of the segment brought up to date. -/
def written (sequence : Nat) (digest : HexDigest) (line : Bytes) (event : LifecycleEventV1)
    (f : SpoolFiles) : SpoolFiles :=
  { f with
    current := { f.current with
      firstSequence := if f.current.firstSequence = 0 then sequence else f.current.firstSequence
      lastSequence := sequence
      firstEventId := f.current.firstEventId.or (some event.eventId)
      lastEventId := some event.eventId
      digest := digest
      bytes := f.current.bytes + line.length }
    physicalBytes := f.physicalBytes + line.length
    lastSequence := sequence
    lastDigest := digest
    appended := f.appended ++ [⟨f.current.index, sequence, event, line⟩] }

end SpoolFiles

/-- What an append raises. -/
inductive AppendError where
  | canonical (e : CanonicalError)
  | invalidJson
  | oversized
  deriving DecidableEq

section Append

variable (sha256 : Bytes → HexDigest) (c : SpoolConfig)

/-- `_append_payload` for an event. The line is made again when the segment was rotated; its length
is checked after the rotation. -/
def SpoolFiles.appendPayload (aged : Bool) (nowMs : Nat) (document : Json) (event : LifecycleEventV1)
    (f : SpoolFiles) : Fallible SpoolFiles AppendError Unit :=
  let sequence := f.lastSequence + 1
  let body := ("event", document)
  match recordLine sha256 f.lastDigest "event" f.current.index sequence body with
  | .error e => (f, .error (.canonical e))
  | .ok (digest, line) =>
    let rotated := f.rotateIfNeeded c line.length aged nowMs
    let again :=
      if rotated.current.index ≠ f.current.index then
        recordLine sha256 f.lastDigest "event" rotated.current.index sequence body
      else .ok (digest, line)
    match again with
    | .error e => (rotated, .error (.canonical e))
    | .ok (digest, line) =>
      if line.length > maxEventBytes then (rotated, .error .oversized)
      else (rotated.written sequence digest line event, .ok ())

/-- `_append_event`. -/
def SpoolFiles.appendEvent (aged : Bool) (nowMs : Nat) (event : LifecycleEventV1) (f : SpoolFiles) :
    Fallible SpoolFiles AppendError Unit :=
  match event.canonicalEventBytes with
  | .error e => (f, .error (.canonical e))
  | .ok bytes =>
    match Json.parse bytes with
    | none => (f, .error .invalidJson)
    | some document => f.appendPayload sha256 c aged nowMs document event

end Append

/-! ## The shared state -/

/-- `_ReservationState`. -/
structure ReservationState where
  remaining : Nat
  emitted : Nat := 0
  closed : Bool := false
  deriving DecidableEq

/-- `_EventCommand`; a reservation is named by its place in the order of the reservations. -/
structure EventCommand where
  reservation : Nat
  event : LifecycleEventV1
  terminal : Bool
  deriving DecidableEq

inductive ControlKind where
  | flush | stop
  deriving DecidableEq, Repr

/-- `_ControlCommand`; the ticket names its `done` event. -/
structure ControlCommand where
  kind : ControlKind
  ticket : Nat
  deriving DecidableEq

inductive Command where
  | event (e : EventCommand)
  | control (k : ControlCommand)
  deriving DecidableEq

/-- Where `_writer_loop` stands. `writing` has the whole batch (`in_flight`), what of it is still to
be appended, and whether the slot of the last append is still to be settled. -/
inductive WriterPhase where
  | waiting
  | collecting (batch : List EventCommand) (force : Bool)
  | writing (batch pending : List EventCommand) (unsettled force : Bool)
      (trailing : Option ControlCommand)
  | stopping (stop : ControlCommand)
  | leaving
  | exited
  deriving DecidableEq

/-- Where the holder of the control lock stands: before its `put`, waiting for its `done`, or
joining the writer. -/
inductive ControlCall where
  | putting (kind : ControlKind)
  | waiting (command : ControlCommand)
  | joining
  deriving DecidableEq

/-- The spool. `accepted` has the events whose `emit` returned before a `close` did, and
`closeReturned` says whether a `close` has. -/
structure Spool where
  status : SpoolStatus := .healthy
  accepting : Bool := true
  outstandingSlots : Nat := 0
  queuedSlots : Nat := 0
  queue : List Command := []
  reservations : List ReservationState := []
  files : SpoolFiles
  writer : WriterPhase := .waiting
  control : Option ControlCall := none
  nextTicket : Nat := 0
  done : List Nat := []
  failedTerminalEvents : List LifecycleEventV1 := []
  invariantViolations : Nat := 0
  accepted : List LifecycleEventV1 := []
  closeReturned : Bool := false
  deriving DecidableEq

namespace Spool

/-! ## Request threads -/

/-- `protected_bytes`. -/
def protectedBytes (s : Spool) : Nat :=
  s.files.physicalBytes + (s.outstandingSlots + s.queuedSlots) * maxEventBytes

/-- `usable_bytes`. -/
def usableBytes (c : SpoolConfig) (s : Spool) : Nat := c.maxBytes - s.protectedBytes

/-- `try_reserve`. A count below one raises, a refusal returns `None`; neither changes anything. -/
def tryReserve (c : SpoolConfig) (events : Int) (s : Spool) : Spool :=
  if events < 1 then s
  else if s.accepting = false ∨ s.status ≠ .healthy ∨
      s.usableBytes c < c.watermarkEvents * maxEventBytes ∨
      s.usableBytes c < events.toNat * maxEventBytes ∨
      s.outstandingSlots + s.queuedSlots + events.toNat > c.queueCapacity then s
  else
    { s with
      reservations := s.reservations ++ [{ remaining := events.toNat }]
      outstandingSlots := s.outstandingSlots + events.toNat }

/-- How an `emit` or a `release_unused` ended. -/
inductive CallResult where
  | returned
  | valueError
  | reservationExhausted
  | writerUnavailable
  | reservedQueueFull
  | releaseExceedsRemaining
  deriving DecidableEq, Repr

/-- `_invariant`. -/
def invariant (reason : CallResult) (s : Spool) : Spool × CallResult :=
  ({ s with
      invariantViolations := s.invariantViolations + 1
      accepting := false
      status := .failed }, reason)

/-- `_preserve_failed_terminal`. -/
def preserveFailedTerminal (c : SpoolConfig) (event : LifecycleEventV1) (s : Spool) : Spool :=
  if event.kind ≠ .requestTerminal then s
  else if event.eventId ∈ s.failedTerminalEvents.map fun e => e.eventId then s
  else if s.failedTerminalEvents.length ≥ c.queueCapacity then
    { s with invariantViolations := s.invariantViolations + 1 }
  else { s with failedTerminalEvents := s.failedTerminalEvents ++ [event] }

/-- A slot of a reservation leaves it with an event. -/
def takeSlot (i : Nat) (r : ReservationState) (s : Spool) : Spool :=
  { s with
    reservations := s.reservations.set i
      { remaining := r.remaining - 1, emitted := r.emitted + 1, closed := r.remaining - 1 = 0 }
    outstandingSlots := s.outstandingSlots - 1 }

/-- The `emit` returns. -/
def accept (event : LifecycleEventV1) (s : Spool) : Spool :=
  if s.closeReturned then s else { s with accepted := s.accepted ++ [event] }

/-- `_submit` on reservation `i`, whose state is `r`. The queue holds one command more than the
capacity; when it is full, the slot goes back to its reservation and the spool fails. -/
def submit (c : SpoolConfig) (i : Nat) (r : ReservationState) (event : LifecycleEventV1)
    (terminal : Bool) (s : Spool) : Spool × CallResult :=
  if r.closed = true ∨ r.remaining < 1 then s.invariant .reservationExhausted
  else if (s.status = .failed ∨ s.status = .crashed) ∧ terminal = true then
    (((s.takeSlot i r).preserveFailedTerminal c event).accept event, .returned)
  else if s.status = .failed ∨ s.status = .crashed ∨ s.status = .closed then
    s.invariant .writerUnavailable
  else if s.queue.length < c.queueCapacity + 1 then
    let taken := s.takeSlot i r
    ({ taken with
        queuedSlots := taken.queuedSlots + 1
        queue := taken.queue ++ [Command.event ⟨i, event, terminal⟩] }.accept event, .returned)
  else
    { s with reservations := s.reservations.set i { r with closed := false } }.invariant
      .reservedQueueFull

/-- `_release_unused` on reservation `i`, whose state is `r`. -/
def releaseUnused (i : Nat) (r : ReservationState) (count : Option Int) (s : Spool) :
    Spool × CallResult :=
  if count.any (· < 0) then (s, .valueError)
  else if r.remaining = 0 then
    ({ s with reservations := s.reservations.set i { r with closed := true } }, .returned)
  else
    let released := (count.map Int.toNat).getD r.remaining
    if released > r.remaining then s.invariant .releaseExceedsRemaining
    else
      ({ s with
          reservations := s.reservations.set i
            { r with
              remaining := r.remaining - released
              closed := r.closed || r.remaining - released = 0 }
          outstandingSlots := s.outstandingSlots - released }, .returned)

/-! ## The control lock -/

/-- `flush` takes the control lock. On a failed or a closed spool it raises or returns at once. -/
def beginFlush (s : Spool) : Option Spool :=
  if s.control ≠ none then none
  else if s.status = .failed ∨ s.status = .crashed ∨ s.status = .closed then some s
  else some { s with control := some (.putting .flush) }

/-- `close` takes the control lock. On a failed spool it waits for the writer and returns. -/
def beginClose (s : Spool) : Option Spool :=
  if s.control ≠ none then none
  else if s.status = .closed then some { s with closeReturned := true }
  else if s.status = .failed ∨ s.status = .crashed then
    some { s with accepting := false, closeReturned := true }
  else some { s with accepting := false, control := some (.putting .stop) }

/-- `self._queue.put(command)`: it waits while the queue is full. -/
def putControl (c : SpoolConfig) (s : Spool) : Option Spool :=
  match s.control with
  | some (.putting kind) =>
    if s.queue.length < c.queueCapacity + 1 then
      some { s with
        queue := s.queue ++ [.control ⟨kind, s.nextTicket⟩]
        control := some (.waiting ⟨kind, s.nextTicket⟩)
        nextTicket := s.nextTicket + 1 }
    else none
  | _ => none

/-- `command.done.wait` returns true: a flush returns, a close joins the writer. -/
def seeDone (s : Spool) : Option Spool :=
  match s.control with
  | some (.waiting ⟨.flush, ticket⟩) =>
    if ticket ∈ s.done then some { s with control := none } else none
  | some (.waiting ⟨.stop, ticket⟩) =>
    if ticket ∈ s.done then some { s with control := some .joining } else none
  | _ => none

/-- The writer has exited: the close returns. -/
def joinWriter (s : Spool) : Option Spool :=
  match s.control with
  | some .joining =>
    if s.writer = .exited then
      some { s with control := none, status := .closed, closeReturned := true }
    else none
  | _ => none

/-- The wait or the join times out: the call raises and its command stays in the queue. -/
def timeOut (s : Spool) : Option Spool :=
  match s.control with
  | some (.waiting command) =>
    if command.ticket ∈ s.done then none else some { s with control := none }
  | some .joining => if s.writer = .exited then none else some { s with control := none }
  | _ => none

/-! ## The writer -/

/-- `first = self._queue.get(...)`. -/
def writerGet (s : Spool) : Option Spool :=
  match s.writer, s.queue with
  | .waiting, .event e :: rest =>
    some { s with queue := rest, writer := .collecting [e] e.terminal }
  | .waiting, .control ⟨.flush, ticket⟩ :: rest =>
    some { s with queue := rest, done := ticket :: s.done }
  | .waiting, .control ⟨.stop, ticket⟩ :: rest =>
    some { s with queue := rest, writer := .stopping ⟨.stop, ticket⟩ }
  | _, _ => none

/-- `command = self._queue.get(...)` while the batch has room. -/
def writerCollect (c : SpoolConfig) (s : Spool) : Option Spool :=
  match s.writer, s.queue with
  | .collecting batch force, first :: rest =>
    if batch.length < c.batchRecords ∧ force = false then
      match first with
      | .event e => some { s with queue := rest, writer := .collecting (batch ++ [e]) e.terminal }
      | .control k =>
        some { s with queue := rest, writer := .writing batch batch false force (some k) }
    else none
  | _, _ => none

/-- The batch is full or forced, or its delay is over. -/
def writerSeal (s : Spool) : Option Spool :=
  match s.writer with
  | .collecting batch force => some { s with writer := .writing batch batch false force none }
  | _ => none

/-- `_release_control_waiters`. -/
def releaseControlWaiters (c : SpoolConfig) (s : Spool) : Spool :=
  s.queue.foldl (fun s command =>
    match command with
    | .control k => { s with done := k.ticket :: s.done }
    | .event e => if e.terminal then s.preserveFailedTerminal c e.event else s)
    { s with queue := [] }

/-- The handler of the writer loop for anything that is raised. -/
def writerFails (c : SpoolConfig) (batch : List EventCommand) (s : Spool) : Spool :=
  let preserved := batch.foldl (fun s e =>
    if e.terminal then s.preserveFailedTerminal c e.event else s) s
  ({ preserved with accepting := false, status := .failed, writer := .leaving }
    ).releaseControlWaiters c

/-- One turn of the loop of `_write_batch`: the record is appended. -/
def writerAppend (sha256 : Bytes → HexDigest) (c : SpoolConfig) (aged : Bool) (nowMs : Nat)
    (s : Spool) : Option Spool :=
  match s.writer with
  | .writing batch (e :: pending) false force trailing =>
    match s.files.appendEvent sha256 c aged nowMs e.event with
    | (files, .ok ()) => some { s with files := files, writer := .writing batch pending true force trailing }
    | (files, .error _) => some ({ s with files := files }.writerFails c batch)
  | _ => none

/-- The same turn, under the lock: the slot of the record is settled. -/
def writerSettle (s : Spool) : Option Spool :=
  match s.writer with
  | .writing batch pending true force trailing =>
    some { s with
      queuedSlots := s.queuedSlots - 1
      writer := .writing batch pending false force trailing }
  | _ => none

/-- The batch is written: the writer syncs and answers the command behind it. -/
def writerFinish (s : Spool) : Option Spool :=
  match s.writer with
  | .writing _ [] false _ none => some { s with writer := .waiting }
  | .writing _ [] false _ (some ⟨.flush, ticket⟩) =>
    some { s with writer := .waiting, done := ticket :: s.done }
  | .writing _ [] false _ (some ⟨.stop, ticket⟩) =>
    some { s with writer := .stopping ⟨.stop, ticket⟩ }
  | _ => none

/-- The end of the loop: the segment is closed, the manifest is clean, the stop is answered. -/
def writerStop (s : Spool) : Option Spool :=
  match s.writer with
  | .stopping stop =>
    some { s with
      files := s.files.closeCurrentSegment
      done := stop.ticket :: s.done
      writer := .leaving }
  | _ => none

/-- The thread ends. -/
def writerExit (s : Spool) : Option Spool :=
  match s.writer with
  | .leaving => some { s with writer := .exited }
  | _ => none

end Spool

/-! ## Steps -/

/-- One atomic step of a thread. -/
inductive SpoolAction where
  | tryReserve (events : Int)
  | emit (reservation : Nat) (event : LifecycleEventV1) (terminal : Bool)
  | releaseUnused (reservation : Nat) (count : Option Int)
  | beginFlush | beginClose | putControl | seeDone | joinWriter | timeOut
  | writerGet | writerCollect | writerSeal
  | writerAppend (aged : Bool) (nowMs : Nat)
  | writerSettle | writerFinish | writerStop | writerExit

section Run

variable (sha256 : Bytes → HexDigest) (c : SpoolConfig)

/-- The state after an action; `none` when no thread stands at it. -/
def Spool.step (s : Spool) : SpoolAction → Option Spool
  | .tryReserve events => some (s.tryReserve c events)
  | .emit i event terminal =>
    s.reservations[i]?.map fun r => (s.submit c i r event terminal).1
  | .releaseUnused i count => s.reservations[i]?.map fun r => (s.releaseUnused i r count).1
  | .beginFlush => s.beginFlush
  | .beginClose => s.beginClose
  | .putControl => s.putControl c
  | .seeDone => s.seeDone
  | .joinWriter => s.joinWriter
  | .timeOut => s.timeOut
  | .writerGet => s.writerGet
  | .writerCollect => s.writerCollect c
  | .writerSeal => s.writerSeal
  | .writerAppend aged nowMs => s.writerAppend sha256 c aged nowMs
  | .writerSettle => s.writerSettle
  | .writerFinish => s.writerFinish
  | .writerStop => s.writerStop
  | .writerExit => s.writerExit

/-- A run of actions. -/
def Spool.run (s : Spool) : List SpoolAction → Option Spool
  | [] => some s
  | a :: rest => (s.step sha256 c a).bind fun s' => s'.run rest

end Run

end LlmMaxxing.Telemetry
