import LlmMaxxing.Gateway.AccountLaws

/-!
# Checkpoint documents of one account (`AccountRuntime._snapshot_state`)

`snapshotState` is the JSON object a checkpoint holds for one account and
`restoreSnapshotState` reads it back into an account built from the current publication. Tables
are written sorted by key, so a restored table has the same rows in another order; `SameCounters`
compares two accounts by what their tables look up.
-/

namespace LlmMaxxing

open Check

namespace Snapshot

/-! ## Readers -/

/-- `value[name]`. -/
def member (v : Json) (name : String) : Except RuntimeFault Json :=
  match v with
  | .obj fields =>
    match Dict.lookup name fields with
    | some x => .ok x
    | none => .error (.keyError name)
  | _ => .error (.typeError "recovered runtime value is not an object")

/-- `value.items()`. -/
def items : Json → Except RuntimeFault (List (String × Json))
  | .obj fields => .ok fields
  | _ => .error (.typeError "recovered runtime value is not an object")

/-- `_require_int`. -/
def requireInt : Json → Except RuntimeFault Nat
  | .num n => if 0 ≤ n then .ok n.toNat else .error (.valueError "recovered runtime integer is invalid")
  | _ => .error (.valueError "recovered runtime integer is invalid")

/-- `_require_str`. -/
def requireStr : Json → Except RuntimeFault String
  | .str s => .ok s
  | _ => .error (.valueError "recovered runtime string is invalid")

/-- `_require_bool`. -/
def requireBool : Json → Except RuntimeFault Bool
  | .bool b => .ok b
  | _ => .error (.valueError "recovered runtime boolean is invalid")

/-- `None if value is None else read(value)`. -/
def orNull {α : Type} (read : Json → Except RuntimeFault α) : Json → Except RuntimeFault (Option α)
  | .null => .ok none
  | v => (read v).map some

/-- An enumeration call such as `CircuitState(text)`. -/
def requireEnum {α : Type} [StrEnum α] (v : Json) : Except RuntimeFault α := do
  let text ← requireStr v
  match StrEnum.ofValue? text with
  | some a => .ok a
  | none => .error (.valueError "recovered runtime word is invalid")

@[simp] theorem requireInt_num (n : Nat) : requireInt (.num n) = .ok n := by simp [requireInt]

@[simp] theorem requireStr_str (s : String) : requireStr (.str s) = .ok s := rfl

@[simp] theorem requireBool_bool (b : Bool) : requireBool (.bool b) = .ok b := rfl

@[simp] theorem orNull_null {α : Type} (read : Json → Except RuntimeFault α) :
    orNull read .null = .ok none := rfl

@[simp] theorem orNull_textOrNull (o : Option String) :
    orNull requireStr (textOrNull o) = .ok o := by
  cases o <;> rfl

@[simp] theorem orNull_numOrNull (o : Option Nat) : orNull requireInt (numOrNull o) = .ok o := by
  cases o with
  | none => rfl
  | some n => simp [numOrNull, orNull, Except.map]

@[simp] theorem requireEnum_value {α : Type} [StrEnum α] (a : α) :
    requireEnum (.str (StrEnum.value a)) = .ok a := by
  simp [requireEnum]

@[simp] theorem orNull_requireEnum {α : Type} [StrEnum α] (o : Option α) :
    orNull requireEnum (textOrNull (o.map StrEnum.value)) = .ok o := by
  cases o with
  | none => rfl
  | some a => simp [textOrNull, orNull, Except.map]

/-! ## Tables -/

section Table

variable {κ ν : Type} [DecidableEq κ]

/-- A table as an object, sorted by the text of its keys. -/
def encTable (key : κ → String) (enc : ν → Json) (d : Dict κ ν) : Json :=
  .obj ((sortOn (fun q => key q.1) d.entries).map fun q => (key q.1, enc q.2))

/-- One row. -/
def decRow (readKey : String → Except RuntimeFault κ) (dec : Json → Except RuntimeFault ν)
    (q : String × Json) : Except RuntimeFault (κ × ν) := do
  let k ← readKey q.1
  let v ← dec q.2
  return (k, v)

/-- Read an object back into a table. -/
def decTable (readKey : String → Except RuntimeFault κ) (dec : Json → Except RuntimeFault ν)
    (v : Json) : Except RuntimeFault (Dict κ ν) := do
  let rows ← (← items v).mapM (decRow readKey dec)
  return Dict.ofList rows

/-- A table read back has the same rows. -/
theorem decTable_encTable {key : κ → String} {readKey : String → Except RuntimeFault κ}
    {enc : ν → Json} {dec : Json → Except RuntimeFault ν}
    (hkey : ∀ k, readKey (key k) = .ok k) (hdec : ∀ a, dec (enc a) = .ok a) (d : Dict κ ν) :
    decTable readKey dec (encTable key enc d) =
      .ok (Dict.ofList (sortOn (fun q => key q.1) d.entries)) := by
  have hrows : ((sortOn (fun q => key q.1) d.entries).map fun q => (key q.1, enc q.2)).mapM
      (decRow readKey dec) = .ok (sortOn (fun q => key q.1) d.entries) := by
    rw [mapM_eq_ok_iff, List.forall₂_map_left_iff]
    exact List.forall₂_same.mpr fun q _ => by simp [decRow, hkey, hdec]
  simp only [decTable, encTable, items, ok_bind, hrows, pure_eq_ok]

theorem get?_sorted (key : κ → String) (d : Dict κ ν) (k : κ) :
    (Dict.ofList (sortOn (fun q => key q.1) d.entries)).get? k = d.get? k :=
  Dict.get?_ofList_of_perm (SortOn.perm _ _) k

end Table

/-! ## Rows -/

def encStart (s : Start) : Json := .obj [
  ("started_at_ms", .num s.startedAtMs),
  ("tokens", .num s.tokens),
  ("counted_start", .bool s.countedStart)]

def decStart (v : Json) : Except RuntimeFault Start := do
  return {
    startedAtMs := ← requireInt (← member v "started_at_ms")
    tokens := ← requireInt (← member v "tokens")
    countedStart := ← requireBool (← member v "counted_start") }

def encAttempt (a : Attempt) : Json := .obj [
  ("request_id", .str a.requestId),
  ("leg_id", .str a.legId),
  ("deployment_generation_id", .str a.deploymentGenerationId),
  ("installation_id", .str a.installationId),
  ("bundle_generation", .num a.bundleGeneration),
  ("bundle_hash", .str a.bundleHash),
  ("fence_token", .num a.fenceToken),
  ("boot_id", .str a.bootId),
  ("deadline_at_ms", .num a.deadlineAtMs),
  ("profile_digest", .str a.profileDigest),
  ("circuit_epoch", .num a.circuitEpoch),
  ("account_circuit_epoch", .num a.accountCircuitEpoch),
  ("circuit_probe_id", textOrNull a.circuitProbeId),
  ("account_circuit_probe_id", textOrNull a.accountCircuitProbeId),
  ("monthly_reset_at_ms", .num a.monthlyResetAtMs),
  ("started_at_ms", .num a.startedAtMs),
  ("dispatched_at_ms", numOrNull a.dispatchedAtMs),
  ("dispatch_lsn", numOrNull (a.dispatchReceipt.map JournalReceipt.durableLsn)),
  ("dispatch_digest", textOrNull (a.dispatchReceipt.map JournalReceipt.recordDigest)),
  ("reserved_tokens", .num a.reservedTokens),
  ("quota_units", .num a.quotaUnits),
  ("state", .str (StrEnum.value a.state))]

/-- The receipt of a dispatch, read from its two members. -/
def decReceipt (v : Json) : Except RuntimeFault (Option JournalReceipt) := do
  match ← member v "dispatch_lsn" with
  | .null => return none
  | lsn => return some ⟨← requireInt lsn, ← requireStr (← member v "dispatch_digest")⟩

def decAttempt (v : Json) : Except RuntimeFault Attempt := do
  return {
    requestId := ← requireStr (← member v "request_id")
    legId := ← requireStr (← member v "leg_id")
    deploymentGenerationId := ← requireStr (← member v "deployment_generation_id")
    installationId := ← requireStr (← member v "installation_id")
    bundleGeneration := ← requireInt (← member v "bundle_generation")
    bundleHash := ← requireStr (← member v "bundle_hash")
    fenceToken := ← requireInt (← member v "fence_token")
    bootId := ← requireStr (← member v "boot_id")
    deadlineAtMs := ← requireInt (← member v "deadline_at_ms")
    profileDigest := ← requireStr (← member v "profile_digest")
    circuitEpoch := ← requireInt (← member v "circuit_epoch")
    accountCircuitEpoch := ← requireInt (← member v "account_circuit_epoch")
    circuitProbeId := ← orNull requireStr (← member v "circuit_probe_id")
    accountCircuitProbeId := ← orNull requireStr (← member v "account_circuit_probe_id")
    monthlyResetAtMs := ← requireInt (← member v "monthly_reset_at_ms")
    startedAtMs := ← requireInt (← member v "started_at_ms")
    dispatchedAtMs := ← orNull requireInt (← member v "dispatched_at_ms")
    dispatchReceipt := ← decReceipt v
    reservedTokens := ← requireInt (← member v "reserved_tokens")
    quotaUnits := ← requireInt (← member v "quota_units")
    state := ← requireEnum (← member v "state") }

def encDispatch (d : Dispatch) : Json := .obj [
  ("request_id", .str d.requestId),
  ("attempt_id", .str d.attemptId),
  ("leg_id", .str d.legId),
  ("deployment_generation_id", .str d.deploymentGenerationId),
  ("circuit_epoch", .num d.circuitEpoch),
  ("account_circuit_epoch", .num d.accountCircuitEpoch),
  ("circuit_probe_id", textOrNull d.circuitProbeId),
  ("account_circuit_probe_id", textOrNull d.accountCircuitProbeId),
  ("dispatched_at_ms", .num d.dispatchedAtMs)]

/-- `_restore_dispatch` on an object. -/
def decDispatch (v : Json) : Except RuntimeFault Dispatch := do
  return {
    requestId := ← requireStr (← member v "request_id")
    attemptId := ← requireStr (← member v "attempt_id")
    legId := ← requireStr (← member v "leg_id")
    deploymentGenerationId := ← requireStr (← member v "deployment_generation_id")
    circuitEpoch := ← requireInt (← member v "circuit_epoch")
    accountCircuitEpoch := ← requireInt (← member v "account_circuit_epoch")
    circuitProbeId := ← orNull requireStr (← member v "circuit_probe_id")
    accountCircuitProbeId := ← orNull requireStr (← member v "account_circuit_probe_id")
    dispatchedAtMs := ← requireInt (← member v "dispatched_at_ms") }

def encDispatch? : Option Dispatch → Json
  | none => .null
  | some d => encDispatch d

def encResolved (r : ResolvedAttempt) : Json := .obj [
  ("resolution_digest", .str r.resolutionDigest),
  ("durable_lsn", .num r.receipt.durableLsn),
  ("record_digest", .str r.receipt.recordDigest),
  ("resolved_at_ms", .num r.resolvedAtMs),
  ("dispatch", encDispatch? r.dispatch)]

def decResolved (v : Json) : Except RuntimeFault ResolvedAttempt := do
  return {
    resolutionDigest := ← requireStr (← member v "resolution_digest")
    receipt := ⟨← requireInt (← member v "durable_lsn"), ← requireStr (← member v "record_digest")⟩
    resolvedAtMs := ← requireInt (← member v "resolved_at_ms")
    dispatch := ← orNull decDispatch (← member v "dispatch") }

def encCircuit (v : CircuitValue) : Json := .obj (RecordBody.circuitMembers v)

/-- `CircuitValue(...)` over the members; a validation error is a `ValueError`. -/
def decCircuit (v : Json) : Except RuntimeFault CircuitValue := do
  let fields : CircuitFields := {
    state := ← requireEnum (← member v "state")
    cause := ← orNull requireEnum (← member v "cause")
    epoch := ← requireInt (← member v "epoch")
    openedAtMs := ← requireInt (← member v "opened_at_ms")
    retryAtMs := ← requireInt (← member v "retry_at_ms")
    backoffStep := ← requireInt (← member v "backoff_step")
    evidenceDigest := ← orNull requireStr (← member v "evidence_digest")
    probeId := ← orNull requireStr (← member v "probe_id") }
  match fields.construct with
  | .ok value => .ok value
  | .error _ => .error (.valueError "circuit value is invalid")

/-- The class call `DeploymentGenerationId(text)`. -/
def readGeneration (text : String) : Except RuntimeFault DeploymentGenerationId :=
  match TypedId.ofString? .deploymentGeneration text with
  | some generation => .ok generation
  | none => .error (.valueError "invalid deployment generation id")

@[simp] theorem readGeneration_text (g : DeploymentGenerationId) : readGeneration g.text = .ok g := by
  simp [readGeneration]

/-! ## Round trips of rows -/

theorem decStart_encStart (s : Start) : decStart (encStart s) = .ok s := by
  simp [decStart, encStart, member, Dict.lookup]

theorem decReceipt_encAttempt (a : Attempt) :
    decReceipt (encAttempt a) = .ok a.dispatchReceipt := by
  cases h : a.dispatchReceipt with
  | none => simp [decReceipt, encAttempt, member, Dict.lookup, h, numOrNull]
  | some receipt =>
    simp [decReceipt, encAttempt, member, Dict.lookup, h, numOrNull, textOrNull]

theorem decAttempt_encAttempt (a : Attempt) : decAttempt (encAttempt a) = .ok a := by
  have hreceipt := decReceipt_encAttempt a
  unfold decAttempt
  rw [hreceipt]
  simp [encAttempt, member, Dict.lookup]

theorem decDispatch_encDispatch (d : Dispatch) : decDispatch (encDispatch d) = .ok d := by
  simp [decDispatch, encDispatch, member, Dict.lookup]

theorem orNull_encDispatch? (o : Option Dispatch) :
    orNull decDispatch (encDispatch? o) = .ok o := by
  cases o with
  | none => rfl
  | some d =>
    show (decDispatch (encDispatch d)).map some = .ok (some d)
    rw [decDispatch_encDispatch]
    rfl

theorem decResolved_encResolved (r : ResolvedAttempt) : decResolved (encResolved r) = .ok r := by
  simp [decResolved, encResolved, member, Dict.lookup, orNull_encDispatch?]

theorem decCircuit_encCircuit (v : CircuitValue) : decCircuit (encCircuit v) = .ok v := by
  have hconstruct : v.toCircuitFields.construct = .ok v :=
    CircuitFields.construct_eq_ok_iff.mpr rfl
  simp [decCircuit, encCircuit, RecordBody.circuitMembers, member, Dict.lookup, hconstruct]

end Snapshot

/-! ## The document of one account -/

open Snapshot

namespace AccountRuntime

/-- `_snapshot_state`. -/
def snapshotMembers (rt : AccountRuntime) : List (String × Json) := [
  ("starts", encTable id encStart rt.starts),
  ("attempts", encTable id encAttempt rt.attempts),
  ("resolutions", encTable id encResolved rt.resolutions),
  ("consumed_circuit_probes", encTable id Json.str rt.consumedCircuitProbes),
  ("time_high_water_ms", .num rt.timeHighWaterMs),
  ("monthly_used", .num rt.monthlyUsed),
  ("monthly_reset_at_ms", .num rt.monthlyResetAtMs),
  ("external_uncertain_holds", .num rt.externalUncertainHolds),
  ("recovery_probe_id", textOrNull rt.recoveryProbeId),
  ("account_circuit", encCircuit rt.accountCircuit),
  ("circuits", encTable TypedId.text encCircuit rt.circuits)]

def snapshotState (rt : AccountRuntime) : Json := .obj rt.snapshotMembers

/-- The members of an object; `len(value)`. -/
def memberCount : Json → Nat
  | .obj fields => fields.length
  | _ => 0

/-- `_restore_snapshot_state`. -/
def restoreSnapshotState (cfg : RuntimeConfig) (rt : AccountRuntime) (value : Json) :
    Except RuntimeFault AccountRuntime := do
  let starts ← member value "starts"
  let attempts ← member value "attempts"
  let resolutions ← member value "resolutions"
  require (memberCount resolutions ≤ cfg.resolutionLedgerLimit)
    (.valueError "recovered resolution ledger exceeds configured bound")
  let circuits ← member value "circuits"
  let consumed ← member value "consumed_circuit_probes"
  let accountCircuit ← member value "account_circuit"
  return { rt with
    starts := ← decTable .ok decStart starts
    attempts := ← decTable .ok decAttempt attempts
    timeHighWaterMs := ← requireInt (← member value "time_high_water_ms")
    resolutions := ← decTable .ok decResolved resolutions
    consumedCircuitProbes := ← decTable .ok requireStr consumed
    monthlyUsed := ← requireInt (← member value "monthly_used")
    monthlyResetAtMs := ← requireInt (← member value "monthly_reset_at_ms")
    externalUncertainHolds := ← requireInt (← member value "external_uncertain_holds")
    recoveryProbeId := ← orNull requireStr (← member value "recovery_probe_id")
    accountCircuit := ← decCircuit accountCircuit
    circuits := ← decTable readGeneration decCircuit circuits }

/-- The tables look up the same and the counters agree; the publication may differ. -/
structure SameCounters (a b : AccountRuntime) : Prop where
  starts : ∀ id, a.starts.get? id = b.starts.get? id
  attempts : ∀ id, a.attempts.get? id = b.attempts.get? id
  resolutions : ∀ id, a.resolutions.get? id = b.resolutions.get? id
  circuits : ∀ generation, a.circuits.get? generation = b.circuits.get? generation
  accountCircuit : a.accountCircuit = b.accountCircuit
  consumed : ∀ p, a.consumedCircuitProbes.get? p = b.consumedCircuitProbes.get? p
  monthlyUsed : a.monthlyUsed = b.monthlyUsed
  time : a.timeHighWaterMs = b.timeHighWaterMs
  monthlyReset : a.monthlyResetAtMs = b.monthlyResetAtMs
  holds : a.externalUncertainHolds = b.externalUncertainHolds
  recoveryProbe : a.recoveryProbeId = b.recoveryProbeId

/-- The account a snapshot restores to. -/
def restored (base rt : AccountRuntime) : AccountRuntime :=
  { rt with
    account := base.account
    starts := Dict.ofList (sortOn (fun q => q.1) rt.starts.entries)
    attempts := Dict.ofList (sortOn (fun q => q.1) rt.attempts.entries)
    resolutions := Dict.ofList (sortOn (fun q => q.1) rt.resolutions.entries)
    consumedCircuitProbes := Dict.ofList (sortOn (fun q => q.1) rt.consumedCircuitProbes.entries)
    circuits := Dict.ofList (sortOn (fun q => q.1.text) rt.circuits.entries) }

theorem restored_same (base rt : AccountRuntime) : SameCounters (restored base rt) rt where
  starts := get?_sorted id rt.starts
  attempts := get?_sorted id rt.attempts
  resolutions := get?_sorted id rt.resolutions
  circuits := get?_sorted TypedId.text rt.circuits
  accountCircuit := rfl
  consumed := get?_sorted id rt.consumedCircuitProbes
  monthlyUsed := rfl
  time := rfl
  monthlyReset := rfl
  holds := rfl
  recoveryProbe := rfl

/-- A table with text keys read back has the same rows. -/
theorem decTable_encTable_id {ν : Type} {enc : ν → Json} {dec : Json → Except RuntimeFault ν}
    (hdec : ∀ a, dec (enc a) = .ok a) (d : Dict String ν) :
    decTable .ok dec (encTable id enc d) = .ok (Dict.ofList (sortOn (fun q => q.1) d.entries)) :=
  decTable_encTable (fun _ => rfl) hdec d

theorem memberCount_encTable {κ ν : Type} [DecidableEq κ] (key : κ → String) (enc : ν → Json)
    (d : Dict κ ν) : memberCount (encTable key enc d) = d.size := by
  simp [memberCount, encTable, Dict.size]

/-- The members of a snapshot, by name. -/
theorem member_snapshotState (rt : AccountRuntime) :
    member rt.snapshotState "starts" = .ok (encTable id encStart rt.starts) ∧
      member rt.snapshotState "attempts" = .ok (encTable id encAttempt rt.attempts) ∧
      member rt.snapshotState "resolutions" = .ok (encTable id encResolved rt.resolutions) ∧
      member rt.snapshotState "consumed_circuit_probes" =
        .ok (encTable id Json.str rt.consumedCircuitProbes) ∧
      member rt.snapshotState "time_high_water_ms" = .ok (.num rt.timeHighWaterMs) ∧
      member rt.snapshotState "monthly_used" = .ok (.num rt.monthlyUsed) ∧
      member rt.snapshotState "monthly_reset_at_ms" = .ok (.num rt.monthlyResetAtMs) ∧
      member rt.snapshotState "external_uncertain_holds" = .ok (.num rt.externalUncertainHolds) ∧
      member rt.snapshotState "recovery_probe_id" = .ok (textOrNull rt.recoveryProbeId) ∧
      member rt.snapshotState "account_circuit" = .ok (encCircuit rt.accountCircuit) ∧
      member rt.snapshotState "circuits" = .ok (encTable TypedId.text encCircuit rt.circuits) := by
  simp [member, snapshotState, snapshotMembers, Dict.lookup]

/-- **A snapshot is read back exactly when its ledger is within the bound.** -/
theorem restore_snapshotState (cfg : RuntimeConfig) (base rt : AccountRuntime) :
    base.restoreSnapshotState cfg rt.snapshotState =
      if rt.resolutions.size ≤ cfg.resolutionLedgerLimit then .ok (restored base rt)
      else .error (.valueError "recovered resolution ledger exceeds configured bound") := by
  obtain ⟨m₁, m₂, m₃, m₄, m₅, m₆, m₇, m₈, m₉, m₁₀, m₁₁⟩ := member_snapshotState rt
  have hstarts := decTable_encTable_id decStart_encStart rt.starts
  have hattempts := decTable_encTable_id decAttempt_encAttempt rt.attempts
  have hresolutions := decTable_encTable_id decResolved_encResolved rt.resolutions
  have hconsumed := decTable_encTable_id requireStr_str rt.consumedCircuitProbes
  have hcircuits := decTable_encTable readGeneration_text decCircuit_encCircuit rt.circuits
  unfold restoreSnapshotState
  simp only [m₁, m₂, m₃, m₄, m₅, m₆, m₇, m₈, m₉, m₁₀, m₁₁, ok_bind, memberCount_encTable]
  by_cases hbound : rt.resolutions.size ≤ cfg.resolutionLedgerLimit
  · have hpass : require (rt.resolutions.size ≤ cfg.resolutionLedgerLimit)
        (RuntimeFault.valueError "recovered resolution ledger exceeds configured bound") =
        .ok () := require_eq_ok_iff.mpr hbound
    rw [if_pos hbound, hpass, hstarts, hattempts, hresolutions, hconsumed, hcircuits]
    simp only [ok_bind, requireInt_num, orNull_textOrNull, decCircuit_encCircuit, pure_eq_ok]
    rfl
  · rw [if_neg hbound, require, if_neg hbound]
    rfl

end AccountRuntime

end LlmMaxxing
