import LlmMaxxing.Gateway.RuntimeSnapshot
import LlmMaxxing.Lib.Fallible

/-!
# The owner of all accounts and its journal (`gateway/runtime_state.py`, `RuntimeState`)

`RuntimeState` is what the process holds: the account runtimes, the histories of bindings and
credentials, and the checkpoint entries of accounts that are not configured (dormant).
`JournalState` is what survives: the newest checkpoint document and the records after it. A
`World` is both, with what the environment allows during the current call: how many records the
journal still takes, when a checkpoint is due and whether one can be written.

A call that fails keeps the part of its effect that happened before the failure, so every
operation returns the world beside its result.
-/

namespace LlmMaxxing

open Check Fallible

/-! ## State -/

/-- `RuntimeState`. -/
structure RuntimeState where
  runtimes : Dict AccountId AccountRuntime
  bindingHistory : Dict String AccountId
  dormantAccountStates : Dict AccountId Json
  accountBinding : Dict AccountId String
  credentialEpochHighwater : Dict AccountId Nat
  credentialAttestationDigest : Dict AccountId String

namespace RuntimeState

def empty : RuntimeState :=
  ⟨Dict.empty, Dict.empty, Dict.empty, Dict.empty, Dict.empty, Dict.empty⟩

/-- Replace the runtime of an account. -/
def setRuntime (st : RuntimeState) (accountId : AccountId) (rt : AccountRuntime) : RuntimeState :=
  { st with runtimes := st.runtimes.insert accountId rt }

end RuntimeState

/-- The digest before the first record. -/
def zeroRecordDigest : String := "0000000000000000000000000000000000000000000000000000000000000000"

/-- The journal as recovery reads it: the newest checkpoint, the records after it and the end of
the chain. `history` is every record ever written, as if none had been compacted away; nothing
reads it but statements about runs. -/
structure JournalState where
  checkpoint : Option Json
  records : List JournalRecord
  lastSequence : Nat
  lastDigest : String
  history : List JournalRecord

/-- An empty journal. -/
def JournalState.created : JournalState := ⟨none, [], 0, zeroRecordDigest, []⟩

/-- A process, its journal, and what the environment allows. -/
structure World where
  state : RuntimeState
  journal : JournalState
  room : Nat
  due : Nat → Bool
  writable : Bool

namespace World

/-- How an operation ends. -/
abbrev Result (α : Type) := Fallible World RuntimeFault α

/-! ## Journal -/

/-- The record a body becomes. -/
def nextRecord (cfg : RuntimeConfig) (w : World) (body : RecordBody) : JournalRecord where
  sequence := w.journal.lastSequence + 1
  body := body
  digest := (cfg.digests.record (w.journal.lastSequence + 1) body w.journal.lastDigest).text

/-- `_append`: validate the payload, then write while the journal takes records. -/
def append (cfg : RuntimeConfig) (w : World) (body : RecordBody) : Result JournalReceipt :=
  match body.validatePayload with
  | .error e => (w, .error e)
  | .ok () =>
    if w.room = 0 then (w, .error (.journalUnavailable "writer_queue_full"))
    else
      let record := w.nextRecord cfg body
      ({ w with
          room := w.room - 1
          journal :=
            { w.journal with
              records := w.journal.records ++ [record]
              lastSequence := record.sequence
              lastDigest := record.digest
              history := w.journal.history ++ [record] } },
        .ok record.receipt)

end World

/-! ## Checkpoints -/

open Snapshot

namespace RuntimeState

/-- The entries of the accounts: the dormant ones, overwritten by the configured ones. -/
def accountStates (st : RuntimeState) : Dict AccountId Json :=
  st.runtimes.entries.foldl (fun d q => d.insert q.1 q.2.snapshotState) st.dormantAccountStates

/-- `_snapshot_locked`. -/
def snapshot (st : RuntimeState) : Json := .obj [
  ("accounts", encTable TypedId.text id st.accountStates),
  ("binding_history", encTable id (fun a : AccountId => .str a.text) st.bindingHistory),
  ("account_binding", encTable TypedId.text Json.str st.accountBinding),
  ("credential_epoch_highwater",
    encTable TypedId.text (fun epoch : Nat => .num epoch) st.credentialEpochHighwater),
  ("credential_attestation_digest", encTable TypedId.text Json.str st.credentialAttestationDigest)]

/-- The class call `AccountId(text)`. -/
def readAccountId (text : String) : Except RuntimeFault AccountId :=
  match TypedId.ofString? .account text with
  | some accountId => .ok accountId
  | none => .error (.valueError "invalid account id")

@[simp] theorem readAccountId_text (a : AccountId) : readAccountId a.text = .ok a := by
  simp [readAccountId]

/-- Restore one entry of a checkpoint: into its runtime, or as a dormant entry. -/
def restoreEntry (cfg : RuntimeConfig) (st : RuntimeState) (entry : String × Json) :
    Except RuntimeFault RuntimeState := do
  let accountId ← readAccountId entry.1
  match st.runtimes.get? accountId with
  | none =>
    return { st with dormantAccountStates := st.dormantAccountStates.insert accountId entry.2 }
  | some rt => return st.setRuntime accountId (← rt.restoreSnapshotState cfg entry.2)

/-- `_restore_checkpoint`. -/
def restoreCheckpoint (cfg : RuntimeConfig) (st : RuntimeState) (snapshot : Json) :
    Except RuntimeFault RuntimeState := do
  let entries ← items (← member snapshot "accounts")
  let st ← entries.foldlM (restoreEntry cfg) st
  return { st with
    bindingHistory := ← decTable .ok (fun v => do readAccountId (← requireStr v))
      (← member snapshot "binding_history")
    accountBinding := ← decTable readAccountId requireStr (← member snapshot "account_binding")
    credentialEpochHighwater := ← decTable readAccountId requireInt
      (← member snapshot "credential_epoch_highwater")
    credentialAttestationDigest := ← decTable readAccountId requireStr
      (← member snapshot "credential_attestation_digest") }

end RuntimeState

namespace World

/-- `force_checkpoint(self._snapshot())`. -/
def checkpoint (w : World) : Result Unit :=
  match validateSafeValue 0 w.state.snapshot with
  | .error e => (w, .error e)
  | .ok () =>
    if w.writable then
      ({ w with journal := { w.journal with checkpoint := some w.state.snapshot, records := [] } },
        .ok ())
    else (w, .error (.journalUnavailable "writer_failed"))

/-- `_maybe_checkpoint_locked` of an account. -/
def maybeCheckpoint (w : World) (account : ProviderAccount) : Result Unit :=
  if account.state ≠ some .active ∨ w.due w.journal.lastSequence then w.checkpoint
  else (w, .ok ())

/-! ## Calls on an account -/

/-- A call on the runtime of an account: ask the journal where the call asks it, take the effect,
and checkpoint after a journaled effect. -/
def accountCall (cfg : RuntimeConfig) (w : World) (accountId : AccountId) (c : AccountCall) :
    Result Unit :=
  match w.state.runtimes.get? accountId with
  | none => (w, .error (.keyError accountId.text))
  | some rt =>
    match rt.asks cfg c with
    | none =>
      let rt' := rt.call cfg (.error (.journalUnavailable "not asked")) c
      ({ w with state := w.state.setRuntime accountId rt' }, .ok ())
    | some body =>
      match w.append cfg body with
      | (w, .error e) =>
        let rt' := rt.call cfg (.error e) c
        ({ w with state := w.state.setRuntime accountId rt' }, .error e)
      | (w, .ok receipt) =>
        let rt' := rt.call cfg (.ok receipt) c
        maybeCheckpoint { w with state := w.state.setRuntime accountId rt' } rt'.account

end World

/-! ## Replay -/

namespace AccountRuntime

/-- Replay of a reservation: another reset date starts the counter over. -/
def replayReserve (rt : AccountRuntime) (d : DurableReservation) : AccountRuntime :=
  let rt :=
    if rt.monthlyResetAtMs ≠ d.monthlyResetAtMs then
      { rt with monthlyResetAtMs := d.monthlyResetAtMs, monthlyUsed := 0 }
    else rt
  rt.reserve d

/-- Replay of a dispatch. -/
def replayDispatch (rt : AccountRuntime) (attemptId : String) (dispatchedAtMs : Nat)
    (receipt : JournalReceipt) : Except RuntimeFault AccountRuntime :=
  match rt.attempts.get? attemptId with
  | none => .error (.invalidLeaseTransition "dispatch has no durable reservation")
  | some attempt =>
    match attempt.dispatchReceipt with
    | some known =>
      if attempt.dispatchedAtMs ≠ some dispatchedAtMs ∨ known ≠ receipt then
        .error (.invalidLeaseTransition "conflicting durable dispatch")
      else .ok rt
    | none =>
      .ok { rt with
        attempts := rt.attempts.modify attemptId fun a =>
          { a with dispatchedAtMs := some dispatchedAtMs, dispatchReceipt := some receipt } }

/-- Replay of a resolution. Unlike the live path it refunds whatever month the attempt is of. -/
def replayResolve (rt : AccountRuntime) (attemptId : String) (r : AttemptResolution)
    (digest : String) (receipt : JournalReceipt) (resolvedAtMs : Nat) :
    Except RuntimeFault AccountRuntime :=
  match rt.resolutions.get? attemptId with
  | some resolved =>
    if resolved.resolutionDigest ≠ digest then
      .error (.invalidLeaseTransition "conflicting durable resolution")
    else .ok rt
  | none =>
    match rt.attempts.get? attemptId with
    | none => .error (.invalidLeaseTransition "resolution has no durable reservation")
    | some attempt =>
      if r.actualTokenUnits.getD 0 > attempt.reservedTokens then
        .error (.invalidLeaseTransition "durable token usage exceeds reservation")
      else if r.actualQuotaUnits.getD 0 > attempt.quotaUnits then
        .error (.invalidLeaseTransition "durable quota usage exceeds reservation")
      else
        match rt.starts.get? attemptId with
        | none => .error (.keyError attemptId)
        | some _ =>
          .ok { rt with
            starts := rt.resolveStart attemptId r
            monthlyUsed :=
              match r.actualQuotaUnits with
              | some actual => refund rt.monthlyUsed actual attempt.quotaUnits
              | none => rt.monthlyUsed
            attempts := rt.resolveAttempt attemptId r
            resolutions := rt.resolutions.insert attemptId
              ⟨digest, receipt, resolvedAtMs, attempt.dispatch attemptId⟩ }

/-- The part of `_apply_record` that acts on the runtime of the record's account. -/
def applyRecord (rt : AccountRuntime) (record : JournalRecord) :
    Except RuntimeFault AccountRuntime :=
  match record.body with
  | .accountRegistered .. => .ok rt
  | .attemptReserved d => .ok (rt.replayReserve d)
  | .attemptDispatched attemptId dispatchedAtMs =>
    rt.replayDispatch attemptId dispatchedAtMs record.receipt
  | .attemptResolved attemptId r digest resolvedAtMs =>
    rt.replayResolve attemptId r digest record.receipt resolvedAtMs
  | .attemptUncertain attemptId _ =>
    .ok { rt with
      attempts := rt.attempts.modify attemptId fun a => { a with state := .uncertain } }
  | .circuitUpdated _ scope value => .ok (rt.replaceCircuit scope (rt.scopedCircuit scope) value)
  | .authoritativeActiveCount _ count => rt.recordActiveCount count
  | .recoveryProbeStarted _ probeId => .ok { rt with recoveryProbeId := some probeId }
  | .recoveryProbeFinished _ _ classification => .ok (rt.endRecoveryProbe classification)

end AccountRuntime

namespace RuntimeState

/-- `_record_account_id`: the account named in the payload, else the first one that knows the
attempt. -/
def recordAccountId (st : RuntimeState) : RecordBody → Except RuntimeFault AccountId
  | .accountRegistered accountId .. => .ok accountId
  | .attemptReserved d => .ok d.accountId
  | .circuitUpdated accountId .. => .ok accountId
  | .authoritativeActiveCount accountId _ => .ok accountId
  | .recoveryProbeStarted accountId _ => .ok accountId
  | .recoveryProbeFinished accountId .. => .ok accountId
  | .attemptDispatched attemptId _ | .attemptUncertain attemptId _
  | .attemptResolved attemptId .. =>
    match st.runtimes.entries.find? fun q =>
        q.2.attempts.contains attemptId || q.2.resolutions.contains attemptId with
    | some q => .ok q.1
    | none => .error (.valueError "terminal record has no matching reservation")

/-- Replay of a registration. -/
def registerRecord (st : RuntimeState) (accountId : AccountId) (bindingDigest attestation : String)
    (epoch : Nat) : Except RuntimeFault RuntimeState := do
  require (∀ owner ∈ st.bindingHistory.get? bindingDigest, owner = accountId)
    (.accountBindingConflict "durable binding history conflict")
  let highwater := (st.credentialEpochHighwater.get? accountId).getD 0
  require (¬ (epoch < highwater ∨ epoch = highwater ∧
    ∃ previous ∈ st.credentialAttestationDigest.get? accountId, previous ≠ attestation))
    (.credentialAttestationRollback "durable credential attestation conflict")
  return { st with
    bindingHistory := st.bindingHistory.insert bindingDigest accountId
    accountBinding := st.accountBinding.insert accountId bindingDigest
    credentialEpochHighwater := st.credentialEpochHighwater.insert accountId epoch
    credentialAttestationDigest := st.credentialAttestationDigest.insert accountId attestation }

/-- `_apply_record`. -/
def applyRecord (st : RuntimeState) (record : JournalRecord) : Except RuntimeFault RuntimeState :=
  match record.body with
  | .accountRegistered accountId bindingDigest attestation epoch _ =>
    st.registerRecord accountId bindingDigest attestation epoch
  | body => do
    let accountId ← st.recordAccountId body
    match st.runtimes.get? accountId with
    | none => .error (.keyError accountId.text)
    | some rt => return st.setRuntime accountId (← rt.applyRecord record)

/-! ## Publications -/

/-- `_binding_digest`. -/
def bindingDigest (cfg : RuntimeConfig) (a : ProviderAccount) : String :=
  if a.bound then (cfg.digests.binding a.connection a.providerToken a.bindingRef).text else ""

/-- `_attestation_digest`. -/
def attestationDigest (cfg : RuntimeConfig) (a : ProviderAccount) : String :=
  (cfg.digests.attestation (a.credentialFingerprint.getD "")).text

/-- One account of a publication against the histories: its checks, the record to write if it
changed, and the histories after it. The runtimes are those before the publication. -/
def stage (cfg : RuntimeConfig) (st : RuntimeState) (account : ProviderAccount) :
    Except RuntimeFault (RuntimeState × List RecordBody) := do
  let binding := bindingDigest cfg account
  let attestation := attestationDigest cfg account
  let previousBinding := st.accountBinding.get? account.accountId
  require (∀ previous ∈ previousBinding, previous = binding)
    (.accountBindingConflict "Account ID cannot change its provider binding")
  require (binding ≠ "" → ∀ owner ∈ st.bindingHistory.get? binding, owner = account.accountId)
    (.accountBindingConflict
      "provider binding is globally unique across live and tombstoned accounts")
  let epoch := account.credentialEpoch.getD 0
  let highwater := (st.credentialEpochHighwater.get? account.accountId).getD 0
  let previousAttestation := st.credentialAttestationDigest.get? account.accountId
  require (¬ (epoch < highwater ∨ epoch = highwater ∧
    ∃ previous ∈ previousAttestation, attestation ≠ previous))
    (.credentialAttestationRollback
      "credential attestation cannot rewind or change within one epoch")
  let changed : Bool := previousBinding.isNone || decide (epoch > highwater) ||
    match st.runtimes.get? account.accountId with
    | none => true
    | some rt => rt.account.state != account.state
  let record := RecordBody.accountRegistered account.accountId binding attestation epoch
    (account.state.getD .draft)
  return (
    { st with
      bindingHistory :=
        if binding ≠ "" then st.bindingHistory.insert binding account.accountId
        else st.bindingHistory
      accountBinding :=
        if binding ≠ "" then st.accountBinding.insert account.accountId binding
        else st.accountBinding
      credentialEpochHighwater := st.credentialEpochHighwater.insert account.accountId epoch
      credentialAttestationDigest :=
        st.credentialAttestationDigest.insert account.accountId attestation },
    if changed ∧ binding ≠ "" then [record] else [])

/-- Stage the accounts of a publication in order. -/
def stageAll (cfg : RuntimeConfig) (st : RuntimeState) :
    List ProviderAccount → Except RuntimeFault (RuntimeState × List RecordBody)
  | [] => .ok (st, [])
  | account :: rest => do
    let (st, records) ← stage cfg st account
    let (st, more) ← stageAll cfg st rest
    return (st, records ++ more)

/-- A pydantic validation error is a `ValueError`. -/
def model {α : Type} : Validation α → Except RuntimeFault α
  | .ok a => .ok a
  | .error _ => .error (.valueError "validation error")

/-- The configured accounts a publication leaves out, as disabled. -/
def omitted (st : RuntimeState) (selected : List AccountId) :
    Except RuntimeFault (List ProviderAccount) :=
  (st.runtimes.entries.filter fun q =>
      !selected.contains q.1 && q.2.account.state == some .active).mapM fun q =>
    model ({ q.2.account with state := some .disabled } : ProviderAccount).validate

/-- The record that disables an account left out. -/
def omittedRecord (st : RuntimeState) (account : ProviderAccount) :
    Except RuntimeFault RecordBody := do
  match st.accountBinding.get? account.accountId, st.credentialAttestationDigest.get? account.accountId,
      st.credentialEpochHighwater.get? account.accountId with
  | some binding, some attestation, some epoch =>
    return .accountRegistered account.accountId binding attestation epoch .disabled
  | _, _, _ => .error (.keyError account.accountId.text)

end RuntimeState

namespace World

open RuntimeState

/-- Append records in order. -/
def appendAll (cfg : RuntimeConfig) (bodies : List RecordBody) (w : World) : Result Unit :=
  Fallible.forEach (fun body w => andThen (w.append cfg body) fun _ w => (w, .ok ())) bodies w

/-- Put a published account into effect: update its runtime, or build one, from its dormant entry
if there is one. -/
def install (cfg : RuntimeConfig) (clock : AccountId → Nat) (account : ProviderAccount)
    (w : World) : Result Unit :=
  let st := w.state
  match st.runtimes.get? account.accountId with
  | some rt =>
    match rt.updateAccount (clock account.accountId) account with
    | .ok rt' => ({ w with state := st.setRuntime account.accountId rt' }, .ok ())
    | .error e => (w, .error e)
  | none =>
    let fresh := AccountRuntime.fresh account (clock account.accountId)
    match st.dormantAccountStates.get? account.accountId with
    | none => ({ w with state := st.setRuntime account.accountId fresh }, .ok ())
    | some dormant =>
      let st := { st with
        dormantAccountStates := st.dormantAccountStates.erase account.accountId }
      match fresh.restoreSnapshotState cfg dormant with
      | .ok rt => ({ w with state := st.setRuntime account.accountId rt }, .ok ())
      | .error e => ({ w with state := st }, .error e)

/-- What `apply_publication` decides before it writes. -/
structure Publication where
  accounts : List ProviderAccount
  staged : RuntimeState
  records : List RecordBody
  left : List ProviderAccount

/-- The checks of `apply_publication`, the histories after it, the records of what changed, and the
accounts left out. -/
def planPublication (cfg : RuntimeConfig) (st : RuntimeState) (accounts : List ProviderAccount) :
    Except RuntimeFault Publication := do
  let validated ← accounts.mapM fun a => model a.validate
  require (validated.map ProviderAccount.accountId).Nodup
    (.accountBindingConflict "publication contains duplicate Account IDs")
  let (staged, records) ← stageAll cfg st validated
  let left ← omitted st (validated.map ProviderAccount.accountId)
  return ⟨validated, staged, records, left⟩

/-- Journal that an account left out is disabled. -/
def disable (cfg : RuntimeConfig) (staged : RuntimeState) (account : ProviderAccount) (w : World) :
    Result Unit :=
  match omittedRecord staged account with
  | .error e => (w, .error e)
  | .ok body => appendAll cfg [body] w

/-- `apply_publication`. -/
def applyPublication (cfg : RuntimeConfig) (clock : AccountId → Nat)
    (accounts : List ProviderAccount) (w : World) : Result Unit :=
  match planPublication cfg w.state accounts with
  | .error e => (w, .error e)
  | .ok plan =>
    andThen (appendAll cfg plan.records w) fun _ w =>
    andThen (Fallible.forEach (disable cfg plan.staged) plan.left w) fun _ w =>
    andThen (Fallible.forEach (install cfg clock) (plan.accounts ++ plan.left)
      { w with state := plan.staged }) fun _ w =>
    if plan.left ≠ [] ∨ w.due w.journal.lastSequence then w.checkpoint else (w, .ok ())

/-! ## Recovery -/

/-- Journal a record about an account and take its effect. -/
def commit (cfg : RuntimeConfig) (accountId : AccountId) (body : RecordBody)
    (effect : AccountRuntime → AccountRuntime) (w : World) : Result Unit :=
  match w.state.runtimes.get? accountId with
  | none => (w, .error (.keyError accountId.text))
  | some rt =>
    andThen (w.append cfg body) fun _ w =>
      ({ w with state := w.state.setRuntime accountId (effect rt) }, .ok ())

/-- The value a recovered half-open circuit is replaced by. -/
def reopened (c : CircuitValue) (nowMs : Nat) : CircuitFields where
  state := .opened
  cause := c.cause
  epoch := c.epoch + 1
  openedAtMs := c.openedAtMs
  retryAtMs := nowMs
  backoffStep := min 64 (c.backoffStep + 1)
  evidenceDigest := c.evidenceDigest
  probeId := none

/-- Reopen one half-open circuit through the compare-and-swap. -/
def reopen (cfg : RuntimeConfig) (clock : Nat) (accountId : AccountId)
    (scope : Option DeploymentGenerationId) (w : World) : Result Unit :=
  match w.state.runtimes.get? accountId with
  | none => (w, .error (.keyError accountId.text))
  | some rt =>
    let rt := rt.tick clock
    let w := { w with state := w.state.setRuntime accountId rt }
    let current := rt.scopedCircuit scope
    match (reopened current rt.timeHighWaterMs).construct with
    | .error _ => (w, .error (.valueError "circuit value is invalid"))
    | .ok value => w.accountCall cfg accountId (.swapCircuit scope current value)

/-- The circuits of an account that are half-open. -/
def halfOpenScopes (rt : AccountRuntime) : List (Option DeploymentGenerationId) :=
  (if rt.accountCircuit.state = .halfOpen then [none] else []) ++
    (rt.circuits.entries.filter fun q => q.2.state == .halfOpen).map fun q => some q.1

/-- `_mark_recovered_attempts_uncertain` for one account. -/
def recoverAccount (cfg : RuntimeConfig) (clock : Option DeploymentGenerationId → Nat)
    (accountId : AccountId) (w : World) : Result Unit :=
  match w.state.runtimes.get? accountId with
  | none => (w, .ok ())
  | some rt =>
    let active := (rt.attempts.entries.filter fun q => q.2.state == .active).map Prod.fst
    andThen
      (Fallible.forEach
        (fun attemptId => commit cfg accountId (.attemptUncertain attemptId .crashRecovery)
          fun rt => { rt with
            attempts := rt.attempts.modify attemptId fun a => { a with state := .uncertain } })
        active w)
      fun _ w =>
    andThen
      (match rt.recoveryProbeId with
        | none => (w, .ok ())
        | some probeId =>
          commit cfg accountId
            (.recoveryProbeFinished rt.account.accountId probeId .inconclusive)
            (fun rt => rt.endRecoveryProbe .inconclusive) w)
      fun _ w =>
    Fallible.forEach (fun scope => reopen cfg (clock scope) accountId scope) (halfOpenScopes rt) w

/-- `_mark_recovered_attempts_uncertain`. -/
def markRecovered (cfg : RuntimeConfig) (clock : AccountId → Option DeploymentGenerationId → Nat)
    (lastSequence : Nat) (w : World) : Result Unit :=
  if lastSequence = 0 then (w, .ok ())
  else
    andThen (Fallible.forEach (fun accountId => recoverAccount cfg (clock accountId) accountId)
      w.state.runtimes.keys w) fun _ w =>
    if w.due w.journal.lastSequence then w.checkpoint else (w, .ok ())

/-- The clock readings of a start. -/
structure StartClock where
  built : AccountId → Nat
  published : AccountId → Nat
  reopened : AccountId → Option DeploymentGenerationId → Nat

/-- The runtimes of the configured accounts before recovery. -/
def configured (clock : AccountId → Nat) (accounts : List ProviderAccount) : RuntimeState :=
  { RuntimeState.empty with
    runtimes := Dict.ofList (accounts.map fun a =>
      (a.accountId, AccountRuntime.fresh a (clock a.accountId))) }

/-- The state rebuilt from the journal before the publication is applied. -/
def rebuilt (cfg : RuntimeConfig) (clock : AccountId → Nat) (accounts : List ProviderAccount)
    (journal : JournalState) : Except RuntimeFault RuntimeState := do
  let st := configured clock accounts
  let st ← match journal.checkpoint with
    | some snapshot => st.restoreCheckpoint cfg snapshot
    | none => .ok st
  journal.records.foldlM RuntimeState.applyRecord st

/-- `RuntimeState.__init__` over a healthy journal; a failure is `RECOVERY_REQUIRED`. The state
of `w` is gone with the process that held it. -/
def start (cfg : RuntimeConfig) (clock : StartClock) (accounts : List ProviderAccount) (w : World) :
    Result Unit :=
  match accounts.mapM fun a => model a.validate with
  | .error e => (w, .error e)
  | .ok validated =>
    match rebuilt cfg clock.built validated w.journal with
    | .error e => (w, .error e)
    | .ok st =>
      andThen (applyPublication cfg clock.published validated { w with state := st }) fun _ w' =>
        markRecovered cfg clock.reopened w.journal.lastSequence w'

end World

end LlmMaxxing
