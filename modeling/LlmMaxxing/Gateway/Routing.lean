import LlmMaxxing.Gateway.AttemptBudget
import LlmMaxxing.Gateway.LocalState
import LlmMaxxing.Gateway.RouteEngine
import LlmMaxxing.Gateway.RuntimeState

/-!
# Route selection (`gateway/routing.py`, `RouteEngine`)

A leg is eligible for a cause when its grant names the cause's trigger, its capabilities hold the
request, and the operational view shows its account and its circuits free. The view is advisory: the
reservation decides. `filter` keeps the order of the ceiling; `select` takes its first candidate.

`gate` is the generation gate; `none` is a gate that raises.
-/

namespace LlmMaxxing

open Check

/-! ## The operational view (`gateway/runtime_state.py`) -/

structure AccountCapacity where
  accountId : AccountId
  state : AccountState
  parallelLimit : Nat
  activeAttempts : Nat
  uncertainAttempts : Nat
  rpmStarts : Nat
  tpmTokens : Nat
  monthlyQuotaUnits : Nat
  accountCircuit : CircuitValue
  monthlyResetAtMs : Nat
  recoveryProbeInFlight : Bool
  consumedProbeTokens : Nat

structure CircuitOperationalValue where
  accountId : AccountId
  deploymentGenerationId : DeploymentGenerationId
  value : CircuitValue

/-- `OperationalRuntimeView`, as far as admission reads it. -/
structure OperationalRuntimeView where
  recoveryState : JournalStatus
  accounts : List AccountCapacity
  circuits : List CircuitOperationalValue
  dispatches : List DispatchOperationalValue

/-- The value `capacity` returns, read off the state it leaves. -/
def AccountRuntime.capacityValue (rt : AccountRuntime) : AccountCapacity where
  accountId := rt.account.accountId
  state := rt.account.state.getD .draft
  parallelLimit := rt.account.enforcedMaxInFlight
  activeAttempts := rt.activeCount
  uncertainAttempts := rt.uncertainCount
  rpmStarts := (rt.rpmStarts rt.timeHighWaterMs).length
  tpmTokens := AccountRuntime.tokenSum (rt.tpmStarts rt.timeHighWaterMs)
  monthlyQuotaUnits := rt.monthlyUsed
  accountCircuit := rt.accountCircuit
  monthlyResetAtMs := rt.monthlyResetAtMs
  recoveryProbeInFlight := rt.recoveryProbeId.isSome
  consumedProbeTokens := rt.consumedCircuitProbes.size

namespace RuntimeState

/-- The accounts in the order of their ids. -/
def sortedRuntimes (st : RuntimeState) : List (AccountId × AccountRuntime) :=
  sortOn (fun q => q.1.text) st.runtimes.entries

/-- The circuits of an account in the order of their generations. -/
def circuitValues (q : AccountId × AccountRuntime) : List CircuitOperationalValue :=
  (sortOn (fun c => c.1.text) q.2.circuits.entries).map fun c => ⟨q.1, c.1, c.2⟩

/-- What `operational_view` leaves behind: reading the capacities purges the windows. -/
def viewed (st : RuntimeState) (clock : Nat) : RuntimeState :=
  { st with runtimes := st.runtimes.mapValues fun _ rt => rt.capacity clock }

/-- `operational_view`; `dispatches` is its ledger of sends. -/
def operationalView (st : RuntimeState) (clock : Nat) (status : JournalStatus)
    (dispatches : List DispatchOperationalValue) : OperationalRuntimeView where
  recoveryState := status
  accounts := (st.viewed clock).sortedRuntimes.map fun q => q.2.capacityValue
  circuits := (st.viewed clock).sortedRuntimes.flatMap circuitValues
  dispatches := dispatches

end RuntimeState

/-! ## Causes and contexts -/

/-- `_CAUSE_TRIGGER`. -/
def DispatchCause.trigger : DispatchCause → RouteTrigger
  | .primary => .primary
  | .capacity => .capacitySpill
  | .failure => .failureFallback
  | .quota => .quotaFallback
  | .manualEmergency => .manualEmergency
  | .shadow => .shadow

/-- The cause a blocking circuit stands for in `primary_blocking_cause`. -/
def CircuitCause.dispatchCause : CircuitCause → Option DispatchCause
  | .capacity => some .capacity
  | .transientFailure => some .failure
  | .quota => some .quota
  | .manual => none

/-- Signed contraction-safe manual leg window bound to one dispatcher fence. -/
structure EmergencyActivation where
  legIds : List RouteLegId
  dispatcherFence : Nat
  activatedAtMs : Nat
  expiresAtMs : Nat
  deriving DecidableEq

namespace EmergencyActivation

/-- Field constraints and `_bounded_unique_window`. -/
def validate (a : EmergencyActivation) : Validation Unit := do
  requireField (a.legIds ≠ []) "leg_ids"
  requireField (1 ≤ a.dispatcherFence) "dispatcher_fence"
  requireField (1 ≤ a.activatedAtMs) "activated_at_ms"
  requireField (1 ≤ a.expiresAtMs) "expires_at_ms"
  requireValue a.legIds.Nodup "duplicate emergency leg"
  requireValue (a.activatedAtMs < a.expiresAtMs) "emergency activation expiry must follow activation"
  requireValue (a.expiresAtMs - a.activatedAtMs ≤ 3_600_000) "emergency activation exceeds one hour"

/-- `permits`. -/
def permits (a : EmergencyActivation) (legId : RouteLegId)
    (nowMs deadlineAtMs dispatcherFence : Nat) : Bool :=
  a.legIds.contains legId && dispatcherFence == a.dispatcherFence &&
    (a.activatedAtMs ≤ nowMs && nowMs < a.expiresAtMs) && deadlineAtMs ≤ a.expiresAtMs

end EmergencyActivation

structure RoutingContext where
  nowMs : Nat
  deadlineAtMs : Nat
  dispatcherFence : Nat
  emergency : Option EmergencyActivation

/-- `RoutingContext.__post_init__`. -/
def RoutingContext.check (c : RoutingContext) : Validation Unit :=
  requireValue (1 ≤ c.nowMs ∧ 1 ≤ c.deadlineAtMs ∧ 1 ≤ c.dispatcherFence)
    "routing context values must be positive"

/-! ## Eligibility -/

namespace OperationalRuntimeView

/-- The first account row of a leg. -/
def account? (view : OperationalRuntimeView) (leg : AuthorizedLeg) : Option AccountCapacity :=
  view.accounts.find? fun item => item.accountId = leg.accountId

/-- The first circuit row of a leg's generation, or a closed circuit. -/
def deployment (view : OperationalRuntimeView) (leg : AuthorizedLeg) : CircuitValue :=
  ((view.circuits.find? fun item =>
    item.accountId = leg.accountId ∧ item.deploymentGenerationId = leg.generationId).map
      CircuitOperationalValue.value).getD (.closed 0)

/-- `_circuits`. -/
def circuits? (view : OperationalRuntimeView) (leg : AuthorizedLeg) : CircuitValue × CircuitValue :=
  (((view.account? leg).map AccountCapacity.accountCircuit).getD (.closed 0), view.deployment leg)

end OperationalRuntimeView

namespace RouteEngine

/-- `candidate`. -/
def candidate (leg : AuthorizedLeg) (cause : DispatchCause) (view : OperationalRuntimeView) :
    Candidate :=
  ⟨leg, cause, (view.circuits? leg).1, (view.circuits? leg).2⟩

/-- `_capabilities_allow`. -/
def capabilitiesAllow (leg : AuthorizedLeg) (profile : RequestProfile) : Bool :=
  let capabilities := leg.capabilities
  capabilities.endpoints.contains profile.endpoint &&
  capabilities.modalities.contains profile.modality &&
  (profile.inputTokensMax + profile.outputTokensMax + profile.reasoningTokensMax ≤
    capabilities.contextTokens) &&
  (profile.toolsCount == 0 || capabilities.tools) &&
  (!profile.forcedToolRequired || capabilities.forcedTool) &&
  (!profile.responseSchemaPresent || capabilities.responseSchema) &&
  (!profile.stream || capabilities.streaming) &&
  (profile.reasoningTokensMax == 0 || capabilities.reasoning) &&
  (profile.historyTurns == 0 || capabilities.historyContinuation)

/-- `GenerationOperationalGate.permits`. -/
abbrev GenerationGate := AuthorizedLeg → String → Option Bool

/-- `ActivationGenerationGate.permits` (`gateway/activation.py`): the deny overlay before the
evidence. -/
def activationGate (m : Memory) (now : Nat) (evidence : GenerationGate) : GenerationGate :=
  fun leg manifest => if m.permits now leg none then evidence leg manifest else some false

variable (gate : GenerationGate) (e : RouteEngine)

/-- `_operationally_available`. -/
def operationallyAvailable (leg : AuthorizedLeg) (view : OperationalRuntimeView) : Bool :=
  match gate leg e.bundle.backendManifestHash with
  | none => false
  | some allowed =>
    allowed && view.recoveryState == .healthy &&
    match view.account? leg with
    | none => false
    | some account =>
      account.state == .active && !account.recoveryProbeInFlight &&
      account.activeAttempts < account.parallelLimit &&
      account.accountCircuit.state != .opened && (view.deployment leg).state != .opened

/-- `eligible`. -/
def eligible (leg : AuthorizedLeg) (profile : RequestProfile) (cause : DispatchCause)
    (view : OperationalRuntimeView) (context : RoutingContext) : Bool :=
  if leg.capabilities.shadow || leg.allowedTriggers.contains .shadow then false
  else if !leg.allowedTriggers.contains cause.trigger then false
  else if !capabilitiesAllow leg profile then false
  else if cause == .manualEmergency && !context.emergency.any fun emergency =>
      emergency.permits leg.legId context.nowMs context.deadlineAtMs context.dispatcherFence then
    false
  else context.nowMs < context.deadlineAtMs && operationallyAvailable gate e leg view

/-! ## Selection -/

/-- `filter`. -/
def filter (authorization : RequestAuthorizationCeiling) (profile : RequestProfile)
    (cause : DispatchCause) (view : OperationalRuntimeView) (context : RoutingContext)
    (excludedAccounts : List AccountId) : List Candidate :=
  if profile.routeGroupId ≠ authorization.routeGroupId then []
  else
    (authorization.authorizedLegs.filter fun leg =>
      leg.accountId ∉ excludedAccounts && eligible gate e leg profile cause view context).map
        fun leg => candidate leg cause view

/-- `select`. -/
def select (authorization : RequestAuthorizationCeiling) (profile : RequestProfile)
    (cause : DispatchCause) (view : OperationalRuntimeView) (context : RoutingContext)
    (excludedAccounts : List AccountId) : Option Candidate :=
  (filter gate e authorization profile cause view context excludedAccounts).head?

/-- The primary legs a profile could use. -/
def primaries (authorization : RequestAuthorizationCeiling) (profile : RequestProfile) :
    List AuthorizedLeg :=
  authorization.authorizedLegs.filter fun leg =>
    leg.allowedTriggers.contains .primary && !leg.capabilities.shadow &&
      capabilitiesAllow leg profile

/-- The blocker an open circuit adds; `none` ends the search. -/
def openBlocker (circuit : CircuitValue) : Option (List DispatchCause) :=
  if circuit.state = .opened then
    (circuit.cause.bind CircuitCause.dispatchCause).map fun cause => [cause]
  else some []

/-- The members of a set, when there is exactly one. -/
def onlyMember (causes : List DispatchCause) : Option DispatchCause :=
  match causes.dedup with
  | [cause] => some cause
  | _ => none

/-- One turn of the loop of `primary_blocking_cause`: what alone blocks a primary leg. -/
def onlyBlocker (view : OperationalRuntimeView) (leg : AuthorizedLeg) : Option DispatchCause := do
  let account ← view.account? leg
  guard (account.state = .active ∧ account.recoveryProbeInFlight = false)
  let allowed ← gate leg e.bundle.backendManifestHash
  guard (allowed = true)
  let full := if account.parallelLimit ≤ account.activeAttempts then [DispatchCause.capacity] else []
  let ofAccount ← openBlocker account.accountCircuit
  let ofDeployment ← openBlocker (view.deployment leg)
  onlyMember (full ++ ofAccount ++ ofDeployment)

/-- `primary_blocking_cause`. -/
def primaryBlockingCause (authorization : RequestAuthorizationCeiling) (profile : RequestProfile)
    (view : OperationalRuntimeView) : Option DispatchCause :=
  if primaries authorization profile = [] then none
  else ((primaries authorization profile).mapM (onlyBlocker gate e view)).bind onlyMember

/-- `shadow_candidate`. -/
def shadowCandidate (authorization : RequestAuthorizationCeiling) (profile : RequestProfile)
    (view : OperationalRuntimeView) (context : RoutingContext) : Option Candidate :=
  if profile.routeGroupId ≠ authorization.routeGroupId ∨ context.deadlineAtMs ≤ context.nowMs then
    none
  else
    ((authorization.authorizedLegs.filter fun leg =>
      leg.allowedTriggers.contains .shadow && leg.capabilities.shadow &&
        capabilitiesAllow leg profile && operationallyAvailable gate e leg view).map
          fun leg => candidate leg .shadow view).find? fun c =>
            c.accountCircuit.state == .closed && c.deploymentCircuit.state == .closed

end RouteEngine

end LlmMaxxing
