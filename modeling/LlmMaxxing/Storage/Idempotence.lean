import LlmMaxxing.Storage.Repositories
import Mathlib.Data.List.Induction

/-!
# Idempotent writes (`storage/repositories.py`, `storage/models.py`)

`enqueue_outbox` and `ingest` are called again with what they were called with before, and answer
from the rows they find. The outbox has two unique identities, its primary key and `dedupe_key`; a
checkpoint has its id. Neither method compares the rest of the row, so another content under a known
identity gets the answer of a replay. `call_answers_faithfully_iff` says which calls are told apart.
-/

namespace LlmMaxxing.Storage

open Check

/-! ## Tables -/

/-- A row of `outbox`. -/
structure OutboxItem where
  opIdempotencyKey : String
  seq : Int
  commandJson : String
  dedupeKey : String
  status : String
  attempts : Int
  nextAttemptAtMs : Int
  lastErrorClass : Option String
  createdAtMs : Int
  updatedAtMs : Int
  deriving DecidableEq

/-- A row of `telemetry_checkpoints`. -/
structure TelemetryCheckpoint where
  checkpointId : String
  firstSeq : Int
  lastSeq : Int
  eventCount : Int
  ingestDigest : String
  atMs : Int
  deriving DecidableEq

/-- A row of `request_lifecycle`. -/
structure RequestLifecycle where
  requestId : String
  admittedAtMs : Int
  keyId : String
  routeGroupId : String
  policyRevision : String
  terminalOutcome : String
  attemptCount : Int
  queueWaitMs : Int
  ttftMs : Option Int
  durationMs : Option Int
  ingestedAtMs : Int
  sourceCheckpoint : String
  deriving DecidableEq

/-- The tables of the two methods, by primary key. -/
structure EventTables where
  outbox : Dict (String × Int) OutboxItem
  checkpoints : Dict String TelemetryCheckpoint
  requests : Dict String RequestLifecycle

/-- The tables migration `0001` leaves. -/
def EventTables.migrated : EventTables := ⟨.empty, .empty, .empty⟩

/-- `_OUTBOX_STATUSES`. -/
def outboxStatuses : List String := ["ready", "sent", "acked", "dead"]

/-- `_OUTCOMES`. -/
def requestOutcomes : List String :=
  ["authz_denied", "auth_state_unavailable", "unsupported_request", "backpressure_rejected",
    "route_unavailable", "deadline_exceeded", "upstream_failed", "client_cancelled",
    "response_stream_failed", "completed"]

/-- The database engine. -/
inductive Dialect where
  | sqlite | postgres
  deriving DecidableEq, Repr

/-- What the two methods raise. -/
inductive WriteFault where
  | storage (fault : StorageFault)
  | unknownOutboxStatus (status : String)
  /-- `assert raced is not None`. -/
  | assertion
  /-- A statement after one that failed in the same transaction. -/
  | transactionAborted
  deriving DecidableEq

/-! ## Methods -/

namespace EventTables

/-- `_get` of the outbox by `dedupe_key`. -/
def getOutbox (t : EventTables) (dedupeKey : String) : Option OutboxItem :=
  (t.outbox.entries.find? fun q => q.2.dedupeKey == dedupeKey).map Prod.snd

/-- `_insert` into `outbox`. -/
def insertOutbox (t : EventTables) (item : OutboxItem) : Except StorageFault EventTables :=
  if t.outbox.contains (item.opIdempotencyKey, item.seq) ∨ (t.getOutbox item.dedupeKey).isSome ∨
      item.status ∉ outboxStatuses then
    .error (.conflict "outbox")
  else .ok { t with outbox := t.outbox.insert (item.opIdempotencyKey, item.seq) item }

/-- The read by `dedupe_key` after an insert that failed. -/
def getRaced (dialect : Dialect) (t : EventTables) (dedupeKey : String) :
    Except WriteFault OutboxItem :=
  match dialect with
  | .postgres => .error .transactionAborted
  | .sqlite =>
    match t.getOutbox dedupeKey with
    | none => .error .assertion
    | some raced => .ok raced

/-- `enqueue_outbox`. -/
def enqueueOutbox (dialect : Dialect) (t : EventTables) (item : OutboxItem) :
    Except WriteFault (OutboxItem × EventTables) := do
  require (item.status ∈ outboxStatuses) (WriteFault.unknownOutboxStatus item.status)
  match t.getOutbox item.dedupeKey with
  | some existing => return (existing, t)
  | none =>
    match t.insertOutbox item with
    | .ok t' => return (item, t')
    | .error _ => do
      let raced ← getRaced dialect t item.dedupeKey
      return (raced, t)

/-- `_insert` into `telemetry_checkpoints`. -/
def insertCheckpoint (t : EventTables) (c : TelemetryCheckpoint) : Except StorageFault EventTables :=
  if t.checkpoints.contains c.checkpointId ∨ isHex64 c.ingestDigest = false then
    .error (.conflict "telemetry_checkpoints")
  else .ok { t with checkpoints := t.checkpoints.insert c.checkpointId c }

/-- `_insert` into `request_lifecycle`. -/
def insertRequest (t : EventTables) (r : RequestLifecycle) : Except StorageFault EventTables :=
  if t.requests.contains r.requestId ∨ r.terminalOutcome ∉ requestOutcomes then
    .error (.conflict "request_lifecycle")
  else .ok { t with requests := t.requests.insert r.requestId r }

/-- `ingest`. -/
def ingest (t : EventTables) (checkpoint : TelemetryCheckpoint)
    (requests : List RequestLifecycle) : Except StorageFault (Bool × EventTables) := do
  requireHex64 checkpoint.ingestDigest "ingest_digest"
  match t.insertCheckpoint checkpoint with
  | .error _ => return (false, t)
  | .ok t => do
    let t ← requests.foldlM insertRequest t
    return (true, t)

end EventTables

/-! ## Runs -/

/-- A call of one of the methods. -/
inductive EventCall where
  | enqueueOutbox (item : OutboxItem)
  | ingest (checkpoint : TelemetryCheckpoint) (requests : List RequestLifecycle)

/-- What a call returns. -/
inductive EventAnswer where
  | item (item : OutboxItem)
  | stored (stored : Bool)
  deriving DecidableEq

/-- A call, with the tables after it. -/
def EventCall.run (dialect : Dialect) (t : EventTables) :
    EventCall → Except WriteFault (EventAnswer × EventTables)
  | .enqueueOutbox item => do
    let (row, t) ← t.enqueueOutbox dialect item
    return (.item row, t)
  | .ingest checkpoint requests => do
    let (stored, t) ← (t.ingest checkpoint requests).mapError .storage
    return (.stored stored, t)

/-- What a call in a transaction of its own answers. -/
def EventCall.answer (dialect : Dialect) (t : EventTables) (call : EventCall) :
    Except WriteFault EventAnswer :=
  (call.run dialect t).map Prod.fst

/-- The committed tables after a call: what it raises rolls the transaction back. -/
def EventCall.commit (dialect : Dialect) (t : EventTables) (call : EventCall) : EventTables :=
  match call.run dialect t with
  | .ok (_, t') => t'
  | .error _ => t

/-- The committed tables after a sequence of calls. -/
def committedAfter (dialect : Dialect) (calls : List EventCall) : EventTables :=
  calls.foldl (EventCall.commit dialect) .migrated

/-! ## What is stored stays -/

/-- No row goes or changes. -/
structure EventTables.Extends (t t' : EventTables) : Prop where
  checkpoints : ∀ id c, t.checkpoints.get? id = some c → t'.checkpoints.get? id = some c
  requests : ∀ id r, t.requests.get? id = some r → t'.requests.get? id = some r

theorem EventTables.Extends.refl (t : EventTables) : t.Extends t := ⟨fun _ _ h => h, fun _ _ h => h⟩

variable {dialect : Dialect} {t t' : EventTables} {item row : OutboxItem}
  {checkpoint : TelemetryCheckpoint} {requests : List RequestLifecycle} {call : EventCall}

theorem insertRequest_eq_ok_iff {r : RequestLifecycle} : t.insertRequest r = .ok t' ↔
    t.requests.get? r.requestId = none ∧ r.terminalOutcome ∈ requestOutcomes ∧
      t' = { t with requests := t.requests.insert r.requestId r } := by
  unfold EventTables.insertRequest
  split
  · next h =>
    constructor
    · intro h
      cases h
    · rintro ⟨hnew, houtcome, -⟩
      rcases h with h | h
      · obtain ⟨r', hget⟩ := Dict.contains_iff.mp h
        rw [hnew] at hget
        cases hget
      · exact absurd houtcome h
  · next h =>
    simp only [not_or, not_not, Bool.not_eq_true] at h
    rw [Except.ok.injEq]
    exact ⟨fun heq => ⟨Dict.contains_eq_false_iff.mp h.1, h.2, heq.symm⟩, fun heq => heq.2.2.symm⟩

/-- The requests of a batch are stored, next to those that were. -/
theorem foldlM_insertRequest (h : requests.foldlM EventTables.insertRequest t = .ok t') :
    t.Extends t' ∧ t'.checkpoints = t.checkpoints ∧
      ∀ r ∈ requests, t'.requests.get? r.requestId = some r := by
  refine foldlM_invariant (I := fun before now => t.Extends now ∧ now.checkpoints = t.checkpoints ∧
    ∀ r ∈ before, now.requests.get? r.requestId = some r) ?_ h ⟨.refl t, rfl, fun _ hr => (by cases hr)⟩
  intro before r _ _ now next hstep hi
  obtain ⟨hextends, hsame, hstored⟩ := hi
  obtain ⟨hnew, -, rfl⟩ := insertRequest_eq_ok_iff.mp hstep
  have hkept : ∀ id r', now.requests.get? id = some r' →
      (now.requests.insert r.requestId r).get? id = some r' := by
    intro id r' hget
    have hne : id ≠ r.requestId := by
      rintro rfl
      rw [hnew] at hget
      cases hget
    rw [Dict.get?_insert_of_ne _ _ hne]
    exact hget
  refine ⟨⟨?_, fun id r' hget => hkept id r' (hextends.requests id r' hget)⟩, hsame, ?_⟩
  · exact hextends.checkpoints
  · intro r' hr'
    rcases List.mem_append.mp hr' with hr' | hr'
    · exact hkept _ _ (hstored r' hr')
    · rw [List.mem_singleton.mp hr', Dict.get?_insert_self]

/-- **What `ingest` does.** The insert of a checkpoint fails on a stored id only, since the digest has
been checked. -/
theorem ingest_eq_ok_iff {stored : Bool} : t.ingest checkpoint requests = .ok (stored, t') ↔
    isHex64 checkpoint.ingestDigest = true ∧
      ((stored = false ∧ t' = t ∧ ∃ c, t.checkpoints.get? checkpoint.checkpointId = some c) ∨
        (stored = true ∧ t.checkpoints.get? checkpoint.checkpointId = none ∧
          requests.foldlM EventTables.insertRequest
            { t with checkpoints := t.checkpoints.insert checkpoint.checkpointId checkpoint } =
            .ok t')) := by
  unfold EventTables.ingest
  simp only [requireHex64, bind_eq_ok_iff, require_eq_ok_iff, exists_unit_and_iff]
  refine and_congr_right fun hhex => ?_
  unfold EventTables.insertCheckpoint
  cases hget : t.checkpoints.get? checkpoint.checkpointId with
  | some c =>
    have hcontains : t.checkpoints.contains checkpoint.checkpointId = true :=
      Dict.contains_iff.mpr ⟨c, hget⟩
    simp only [hcontains, true_or, if_true, pure_eq_ok, Except.ok.injEq, Prod.mk.injEq]
    constructor
    · rintro ⟨rfl, rfl⟩
      exact Or.inl ⟨rfl, rfl, c, rfl⟩
    · rintro (⟨rfl, rfl, -⟩ | ⟨-, hnone, -⟩)
      · exact ⟨rfl, rfl⟩
      · cases hnone
  | none =>
    have hfree : ¬ (t.checkpoints.contains checkpoint.checkpointId = true ∨
        isHex64 checkpoint.ingestDigest = false) := by
      rw [Dict.contains_eq_false_iff.mpr hget, hhex]
      decide
    rw [if_neg hfree]
    simp only [bind_eq_ok_iff, pure_eq_ok, Except.ok.injEq, Prod.mk.injEq]
    constructor
    · rintro ⟨t'', hfold, rfl, rfl⟩
      exact Or.inr ⟨rfl, trivial, hfold⟩
    · rintro (⟨-, -, c, h⟩ | ⟨rfl, -, hfold⟩)
      · cases h
      · exact ⟨t', hfold, rfl, rfl⟩

theorem getOutbox_eq_some {dedupeKey : String} (h : t.getOutbox dedupeKey = some row) :
    (∃ k, t.outbox.get? k = some row) ∧ row.dedupeKey = dedupeKey := by
  unfold EventTables.getOutbox at h
  rw [Option.map_eq_some_iff] at h
  obtain ⟨q, hfind, rfl⟩ := h
  refine ⟨⟨q.1, Dict.mem_entries_iff.mp (List.mem_of_find?_eq_some hfind)⟩, ?_⟩
  simpa using List.find?_some hfind

/-- **What `enqueue_outbox` does.** -/
theorem enqueueOutbox_eq_ok (h : t.enqueueOutbox dialect item = .ok (row, t')) :
    (t.getOutbox item.dedupeKey = some row ∧ t' = t) ∨
      (t.getOutbox item.dedupeKey = none ∧ row = item ∧
        t' = { t with outbox := t.outbox.insert (item.opIdempotencyKey, item.seq) item }) := by
  unfold EventTables.enqueueOutbox at h
  simp only [bind_eq_ok_iff, require_eq_ok_iff, exists_unit_and_iff] at h
  obtain ⟨-, h⟩ := h
  cases hget : t.getOutbox item.dedupeKey with
  | some existing =>
    rw [hget] at h
    cases h
    exact Or.inl ⟨rfl, rfl⟩
  | none =>
    right
    unfold EventTables.insertOutbox at h
    rw [hget] at h
    by_cases hfree : t.outbox.contains (item.opIdempotencyKey, item.seq) = true ∨
        (none : Option OutboxItem).isSome = true ∨ item.status ∉ outboxStatuses
    · -- the row that raced is read again, and it is not there
      simp only [if_pos hfree, bind_eq_ok_iff, EventTables.getRaced, hget] at h
      obtain ⟨raced, hraced, -⟩ := h
      cases dialect <;> cases hraced
    · simp only [if_neg hfree, pure_eq_ok, Except.ok.injEq, Prod.mk.injEq] at h
      exact ⟨rfl, h.1.symm, h.2.symm⟩

theorem run_enqueueOutbox : EventCall.run dialect t (.enqueueOutbox item) =
    (t.enqueueOutbox dialect item).map fun q => (.item q.1, q.2) := by
  show (t.enqueueOutbox dialect item >>= fun q => pure (EventAnswer.item q.1, q.2)) = _
  cases t.enqueueOutbox dialect item <;> rfl

theorem run_ingest : EventCall.run dialect t (.ingest checkpoint requests) =
    ((t.ingest checkpoint requests).mapError .storage).map fun q => (.stored q.1, q.2) := by
  show ((t.ingest checkpoint requests).mapError WriteFault.storage >>=
    fun q => pure (EventAnswer.stored q.1, q.2)) = _
  cases t.ingest checkpoint requests <;> rfl

variable (dialect t call) in
/-- A call commits what it returned with, or nothing. -/
theorem commit_cases : call.commit dialect t = t ∨
    (∃ item, call = .enqueueOutbox item ∧ (call.commit dialect t).checkpoints = t.checkpoints ∧
      (call.commit dialect t).requests = t.requests) ∨
    ∃ checkpoint requests, call = .ingest checkpoint requests ∧
      call.answer dialect t = .ok (.stored true) ∧
      t.ingest checkpoint requests = .ok (true, call.commit dialect t) := by
  cases call with
  | enqueueOutbox item =>
    simp only [EventCall.commit, run_enqueueOutbox]
    cases hrun : t.enqueueOutbox dialect item with
    | error e => exact Or.inl rfl
    | ok q =>
      simp only [Except.map]
      rcases enqueueOutbox_eq_ok hrun with ⟨-, hsame⟩ | ⟨-, -, hinsert⟩
      · exact Or.inl hsame
      · exact Or.inr (Or.inl ⟨item, rfl, by rw [hinsert], by rw [hinsert]⟩)
  | ingest checkpoint requests =>
    simp only [EventCall.commit, EventCall.answer, run_ingest]
    cases hrun : t.ingest checkpoint requests with
    | error e => exact Or.inl rfl
    | ok q =>
      simp only [Except.mapError, Except.map]
      rcases (ingest_eq_ok_iff.mp hrun).2 with ⟨-, hsame, -⟩ | ⟨hstored, -, -⟩
      · exact Or.inl hsame
      · obtain ⟨stored, t'⟩ := q
        simp only at hstored
        subst hstored
        exact Or.inr (Or.inr ⟨checkpoint, requests, rfl, rfl, hrun⟩)

theorem extends_commit : t.Extends (call.commit dialect t) := by
  rcases commit_cases dialect t call with
    hsame | ⟨item, -, hcheckpoints, hrequests⟩ | ⟨checkpoint, requests, -, -, hingest⟩
  · rw [hsame]
    exact .refl t
  · exact ⟨fun id c h => hcheckpoints ▸ h, fun id r h => hrequests ▸ h⟩
  · rcases (ingest_eq_ok_iff.mp hingest).2 with ⟨h, -, -⟩ | ⟨-, hnew, hfold⟩
    · cases h
    · obtain ⟨hextends, hsame, -⟩ := foldlM_insertRequest hfold
      refine ⟨fun id c h => hextends.checkpoints id c ?_, hextends.requests⟩
      have hne : id ≠ checkpoint.checkpointId := by
        rintro rfl
        rw [hnew] at h
        cases h
      rw [Dict.get?_insert_of_ne _ _ hne]
      exact h

/-! ## Every checkpoint has its batch -/

/-- An ingest of the history stored the checkpoint, and its requests are in the tables. -/
def IngestedBy (dialect : Dialect) (calls : List EventCall) (t : EventTables)
    (c : TelemetryCheckpoint) : Prop :=
  ∃ earlier later requests, calls = earlier ++ .ingest c requests :: later ∧
    (EventCall.ingest c requests).answer dialect (committedAfter dialect earlier) =
      .ok (.stored true) ∧
    ∀ r ∈ requests, t.requests.get? r.requestId = some r

theorem committedAfter_append (calls : List EventCall) (call : EventCall) :
    committedAfter dialect (calls ++ [call]) = call.commit dialect (committedAfter dialect calls) := by
  simp [committedAfter]

/-- **Every stored checkpoint was stored by an ingest, whose requests are stored too.** -/
theorem ingestedBy_of_stored (calls : List EventCall) {id : String} {c : TelemetryCheckpoint}
    (h : (committedAfter dialect calls).checkpoints.get? id = some c) :
    c.checkpointId = id ∧ IngestedBy dialect calls (committedAfter dialect calls) c := by
  induction calls using List.reverseRecOn generalizing id c with
  | nil => cases h
  | append_singleton calls call ih =>
    rw [committedAfter_append] at h ⊢
    -- what was stored before is stored after
    have hkeep : (committedAfter dialect calls).checkpoints.get? id = some c →
        c.checkpointId = id ∧ IngestedBy dialect (calls ++ [call])
          (call.commit dialect (committedAfter dialect calls)) c := by
      intro hbefore
      obtain ⟨hid, earlier, later, requests, rfl, hanswer, hstored⟩ := ih hbefore
      exact ⟨hid, earlier, later ++ [call], requests, by simp, hanswer,
        fun r hr => extends_commit.requests _ _ (hstored r hr)⟩
    rcases commit_cases dialect (committedAfter dialect calls) call with
      hsame | ⟨item, -, hcheckpoints, -⟩ | ⟨checkpoint, requests, rfl, hanswer, hingest⟩
    · rw [hsame] at h
      exact hkeep h
    · rw [hcheckpoints] at h
      exact hkeep h
    · rcases (ingest_eq_ok_iff.mp hingest).2 with ⟨h', -, -⟩ | ⟨-, hnew, hfold⟩
      · cases h'
      · obtain ⟨-, hsame, hstored⟩ := foldlM_insertRequest hfold
        rw [hsame, Dict.get?_insert] at h
        split at h
        · next hid =>
          cases h
          exact ⟨hid.symm, calls, [], requests, rfl, hanswer, hstored⟩
        · exact hkeep h

/-! ## Replays and conflicts -/

/-- The call has another content under an identity that is stored: a checkpoint id with another
digest, a dedupe key with another command, or the primary key of a row with another dedupe key. -/
def EventCall.Collides (t : EventTables) : EventCall → Prop
  | .enqueueOutbox item => item.status ∈ outboxStatuses ∧
      ((∃ stored, t.getOutbox item.dedupeKey = some stored ∧
          stored.commandJson ≠ item.commandJson) ∨
        (t.getOutbox item.dedupeKey = none ∧
          t.outbox.contains (item.opIdempotencyKey, item.seq) = true))
  | .ingest checkpoint _ => isHex64 checkpoint.ingestDigest = true ∧
      ∃ stored, t.checkpoints.get? checkpoint.checkpointId = some stored ∧
        stored.ingestDigest ≠ checkpoint.ingestDigest

/-- What the answer to a call after others is to mean. -/
structure AnswersFaithfully (dialect : Dialect) (calls : List EventCall) (call : EventCall) :
    Prop where
  ingested : ∀ checkpoint requests, call = .ingest checkpoint requests →
    call.answer dialect (committedAfter dialect calls) = .ok (.stored false) →
    ∃ c, c.checkpointId = checkpoint.checkpointId ∧ c.ingestDigest = checkpoint.ingestDigest ∧
      IngestedBy dialect calls (committedAfter dialect calls) c
  enqueued : ∀ item row, call = .enqueueOutbox item →
    call.answer dialect (committedAfter dialect calls) = .ok (.item row) → row ≠ item →
    (∃ k, (committedAfter dialect calls).outbox.get? k = some row) ∧
      row.dedupeKey = item.dedupeKey ∧ row.commandJson = item.commandJson
  conflict : call.Collides (committedAfter dialect calls) →
    (∃ table, call.answer dialect (committedAfter dialect calls) =
        .error (.storage (.conflict table))) ∧
      call.commit dialect (committedAfter dialect calls) = committedAfter dialect calls

/-- A call that collides is never answered with a conflict. -/
theorem answer_ne_conflict_of_collides (h : call.Collides t) (table : String) :
    call.answer dialect t ≠ .error (.storage (.conflict table)) := by
  cases call with
  | enqueueOutbox item =>
    obtain ⟨hstatus, ⟨stored, hget, -⟩ | ⟨hget, hkey⟩⟩ := h
    · have hrun : t.enqueueOutbox dialect item = .ok (stored, t) := by
        rw [EventTables.enqueueOutbox, require, if_pos hstatus, hget]
        rfl
      simp [EventCall.answer, run_enqueueOutbox, hrun, Except.map]
    · have hinsert : t.insertOutbox item = .error (.conflict "outbox") := if_pos (Or.inl hkey)
      have hrun : t.enqueueOutbox dialect item =
          (EventTables.getRaced dialect t item.dedupeKey).map fun raced => (raced, t) := by
        rw [EventTables.enqueueOutbox, require, if_pos hstatus, hget]
        simp only [ok_bind, hinsert]
        cases EventTables.getRaced dialect t item.dedupeKey <;> rfl
      cases dialect <;>
        simp [EventCall.answer, run_enqueueOutbox, hrun, EventTables.getRaced, hget, Except.map]
  | ingest checkpoint requests =>
    obtain ⟨hhex, stored, hget, -⟩ := h
    have hrun : t.ingest checkpoint requests = .ok (false, t) :=
      ingest_eq_ok_iff.mpr ⟨hhex, Or.inl ⟨rfl, rfl, stored, hget⟩⟩
    simp [EventCall.answer, run_ingest, hrun, Except.mapError, Except.map]

/-- **A call after any others answers faithfully exactly when it does not collide.** -/
theorem call_answers_faithfully_iff (dialect : Dialect) (calls : List EventCall)
    (call : EventCall) : AnswersFaithfully dialect calls call ↔
      ¬ call.Collides (committedAfter dialect calls) := by
  constructor
  · intro h hcollides
    obtain ⟨⟨table, hconflict⟩, -⟩ := h.conflict hcollides
    exact answer_ne_conflict_of_collides hcollides table hconflict
  · intro hclear
    refine ⟨?_, ?_, fun h => absurd h hclear⟩
    · rintro checkpoint requests rfl hanswer
      rw [EventCall.answer, run_ingest] at hanswer
      cases hrun : (committedAfter dialect calls).ingest checkpoint requests with
      | error e =>
        rw [hrun] at hanswer
        cases hanswer
      | ok q =>
        rw [hrun] at hanswer
        obtain ⟨stored, t'⟩ := q
        cases hanswer
        obtain ⟨hhex, ⟨-, -, c, hget⟩ | ⟨h, -⟩⟩ := ingest_eq_ok_iff.mp hrun
        · obtain ⟨hid, hingested⟩ := ingestedBy_of_stored calls hget
          have hdigest : c.ingestDigest = checkpoint.ingestDigest := by
            by_contra hne
            exact hclear ⟨hhex, c, hget, hne⟩
          exact ⟨c, hid, hdigest, hingested⟩
        · cases h
    · rintro item row rfl hanswer hne
      rw [EventCall.answer, run_enqueueOutbox] at hanswer
      cases hrun : (committedAfter dialect calls).enqueueOutbox dialect item with
      | error e =>
        rw [hrun] at hanswer
        cases hanswer
      | ok q =>
        rw [hrun] at hanswer
        obtain ⟨row, t'⟩ := q
        cases hanswer
        rcases enqueueOutbox_eq_ok hrun with ⟨hget, -⟩ | ⟨-, hsame, -⟩
        · obtain ⟨hstored, hkey⟩ := getOutbox_eq_some hget
          have hcommand : row.commandJson = item.commandJson := by
            by_contra hother
            have hstatus : item.status ∈ outboxStatuses := by
              simp only [EventTables.enqueueOutbox, bind_eq_ok_iff, require_eq_ok_iff,
                exists_unit_and_iff] at hrun
              exact hrun.1
            exact hclear ⟨hstatus, Or.inl ⟨row, hget, hother⟩⟩
          exact ⟨hstored, hkey, hcommand⟩
        · exact absurd hsame hne

/-! ## A command swallowed -/

/-- A command of one operation. -/
def outboxItem (command dedupeKey : String) : OutboxItem :=
  ⟨"op-1", 1, command, dedupeKey, "ready", 0, 0, none, 0, 0⟩

/-- A checkpoint of an empty batch. -/
def emptyCheckpoint (digit : Char) : TelemetryCheckpoint :=
  ⟨"telemetry-1", 1, 1, 0, String.ofList (List.replicate 64 digit), 0⟩

/-- Another command under a stored dedupe key gets the stored one back, another dedupe key under a
stored primary key an assertion error, and another batch under a stored id the answer of a replay. -/
theorem other_content_is_swallowed :
    (EventCall.enqueueOutbox (outboxItem "abort" "prepare:1")).answer .sqlite
        (committedAfter .sqlite [.enqueueOutbox (outboxItem "prepare" "prepare:1")]) =
      .ok (.item (outboxItem "prepare" "prepare:1")) ∧
    (EventCall.enqueueOutbox (outboxItem "prepare" "prepare:2")).answer .sqlite
        (committedAfter .sqlite [.enqueueOutbox (outboxItem "prepare" "prepare:1")]) =
      .error .assertion ∧
    (EventCall.ingest (emptyCheckpoint '1') []).answer .sqlite
        (committedAfter .sqlite [.ingest (emptyCheckpoint '0') []]) = .ok (.stored false) ∧
    ¬ AnswersFaithfully .sqlite [.enqueueOutbox (outboxItem "prepare" "prepare:1")]
      (.enqueueOutbox (outboxItem "abort" "prepare:1")) ∧
    ¬ AnswersFaithfully .sqlite [.enqueueOutbox (outboxItem "prepare" "prepare:1")]
      (.enqueueOutbox (outboxItem "prepare" "prepare:2")) ∧
    ¬ AnswersFaithfully .sqlite [.ingest (emptyCheckpoint '0') []]
      (.ingest (emptyCheckpoint '1') []) := by
  have hcommand : (EventCall.enqueueOutbox (outboxItem "abort" "prepare:1")).answer .sqlite
      (committedAfter .sqlite [.enqueueOutbox (outboxItem "prepare" "prepare:1")]) =
      .ok (.item (outboxItem "prepare" "prepare:1")) := by decide
  have hkey : (EventCall.enqueueOutbox (outboxItem "prepare" "prepare:2")).answer .sqlite
      (committedAfter .sqlite [.enqueueOutbox (outboxItem "prepare" "prepare:1")]) =
      .error .assertion := by decide
  have hbatch : (EventCall.ingest (emptyCheckpoint '1') []).answer .sqlite
      (committedAfter .sqlite [.ingest (emptyCheckpoint '0') []]) = .ok (.stored false) := by
    decide
  refine ⟨hcommand, hkey, hbatch, fun h => ?_, fun h => ?_, fun h => ?_⟩
  · have hsame := (h.enqueued _ _ rfl hcommand (by decide)).2.2
    revert hsame
    decide
  · obtain ⟨table, hconflict⟩ := (h.conflict ⟨by decide, Or.inr ⟨by decide, by decide⟩⟩).1
    rw [hkey] at hconflict
    cases hconflict
  · obtain ⟨table, hconflict⟩ :=
      (h.conflict ⟨by decide, emptyCheckpoint '0', by decide, by decide⟩).1
    rw [hbatch] at hconflict
    cases hconflict

end LlmMaxxing.Storage
