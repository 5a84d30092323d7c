import LlmMaxxing.Core.Bundle
import LlmMaxxing.Lib.Dict
import Mathlib.Data.List.Dedup

/-!
# Compiling authoring configurations (`config/schema.py`, `config/compile.py`)

An authoring configuration adds policy revisions to an applied bundle. Selectors, macros and clones
end here: the compiled bundle holds exact legs only, copied from the legs of the base bundle.

A frozenset is iterated in an order the language leaves open; `iterate` stands for it.
-/

namespace LlmMaxxing

open Check

/-! ## The authoring schema -/

/-- `[a-z]`, then at most 63 of `[a-z0-9]` and the marks given. -/
def isSlug (marks : List Char) (s : String) : Bool :=
  match s.toList with
  | [] => false
  | c :: rest =>
    ('a' ≤ c && c ≤ 'z') && rest.length ≤ 63 &&
      rest.all fun c => ('a' ≤ c && c ≤ 'z') || ('0' ≤ c && c ≤ '9') || marks.contains c

/-- `_MACRO_NAME`. -/
def isMacroName : String → Bool := isSlug ['_', '-']

/-- `_LABEL_NAME`. -/
def isLabelName : String → Bool := isSlug ['_', '.', '-']

/-- Queue and deadline defaults that an authoring policy may name. -/
structure PolicyMacro where
  queueTier : Nat
  queueWeight : Nat
  maxConcurrency : Nat
  maxWaiters : Nat
  deadlineMs : Nat
  deriving DecidableEq

def PolicyMacro.validate (m : PolicyMacro) : Validation Unit := do
  requireField (1 ≤ m.queueWeight ∧ m.queueWeight ≤ 64) "queue_weight"
  requireField (1 ≤ m.maxConcurrency) "max_concurrency"
  requireField (1 ≤ m.deadlineMs ∧ m.deadlineMs ≤ maxDeadlineMs) "deadline_ms"

/-- One new policy revision, perhaps cloned from an applied one. -/
structure AuthoringPolicy where
  policyId : PolicyRevisionId
  name : Option String := none
  cloneFromPolicyId : Option PolicyRevisionId := none
  rebindShared : Bool := false
  macroName : Option String := none
  routeGroupIds : Option (List RouteGroupId) := none
  accountIds : Option (List AccountId) := none
  accountSelector : Option (Dict String String) := none
  allowedTriggers : Option (List RouteTrigger) := none
  queueTier : Option Nat := none
  queueWeight : Option Nat := none
  maxConcurrency : Option Nat := none
  maxWaiters : Option Nat := none
  deadlineMs : Option Nat := none

namespace AuthoringPolicy

/-- `min_length=1` and `_nonempty_unique_tuple` of one membership field. -/
def validateMembers {α : Type} [DecidableEq α] (name : String) : Option (List α) → Validation Unit
  | none => .ok ()
  | some members => do
    requireField (members ≠ []) name
    requireValue (members ≠ []) "explicit authoring membership cannot be empty"
    requireValue members.Nodup "duplicate authoring membership value"

/-- `_ACCOUNT_SELECTOR`. -/
def validateSelector : Option (Dict String String) → Validation Unit
  | none => .ok ()
  | some selector => do
    forEach (fun q => requireField (isLabelName q.1 = true ∧ lengthWithin q.2 1 120)
      "account_selector") selector.entries
    requireField (1 ≤ selector.size ∧ selector.size ≤ 16) "account_selector"

/-- `_authoring_mode_is_unambiguous`. -/
def validateMode (p : AuthoringPolicy) : Validation Unit := do
  requireValue (¬ (p.accountIds.isSome = true ∧ p.accountSelector.isSome = true))
    "use either exact account_ids or account_selector, never both"
  requireValue (¬ (p.cloneFromPolicyId = none ∧ p.accountIds.isSome = false ∧
      p.accountSelector.isSome = false))
    "a direct policy requires account_ids or account_selector"
  requireValue (¬ (p.rebindShared = true ∧ p.cloneFromPolicyId = none))
    "rebind_shared requires clone_from_policy_id"
  requireValue (p.cloneFromPolicyId ≠ some p.policyId) "a policy revision cannot clone itself"

/-- Field constraints, then `_authoring_mode_is_unambiguous`. -/
def validate (p : AuthoringPolicy) : Validation Unit := do
  requireField (∀ s ∈ p.name, lengthWithin s 1 120) "name"
  requireField (∀ s ∈ p.macroName, isMacroName s = true) "macro"
  validateMembers "route_group_ids" p.routeGroupIds
  validateMembers "account_ids" p.accountIds
  validateSelector p.accountSelector
  validateMembers "allowed_triggers" p.allowedTriggers
  requireField (∀ n ∈ p.queueWeight, 1 ≤ n ∧ n ≤ 64) "queue_weight"
  requireField (∀ n ∈ p.maxConcurrency, 1 ≤ n) "max_concurrency"
  requireField (∀ n ∈ p.deadlineMs, 1 ≤ n ∧ n ≤ maxDeadlineMs) "deadline_ms"
  p.validateMode

/-- `authorization_changed`. -/
def authorizationChanged (p : AuthoringPolicy) : Bool :=
  p.routeGroupIds.isSome || p.accountIds.isSome || p.accountSelector.isSome ||
    p.allowedTriggers.isSome

end AuthoringPolicy

/-- Authoring input, applied as additions to one base bundle. -/
structure AuthoringConfigV1 where
  schemaVersion : Nat := 1
  macros : Dict String PolicyMacro := Dict.empty
  policies : List AuthoringPolicy

/-- Field constraints, `_policy_ids_are_unique` and `_macros_exist`. -/
def AuthoringConfigV1.validate (c : AuthoringConfigV1) : Validation Unit := do
  requireField (c.schemaVersion = 1) "schema_version"
  forEach (fun q => do requireField (isMacroName q.1 = true) "macros"; q.2.validate) c.macros.entries
  forEach AuthoringPolicy.validate c.policies
  requireField (c.policies ≠ []) "policies"
  requireValue (c.policies.map AuthoringPolicy.policyId).Nodup "duplicate authoring policy_id"
  let missing := (c.policies.filterMap AuthoringPolicy.macroName).filter fun m => m ∉ c.macros.keys
  requireValue (missing = [])
    ("unknown authoring macro(s): " ++ ", ".intercalate (sortOn id missing.dedup))

/-! ## Materializing one policy -/

namespace Authoring

/-- Account labels known when compiling. -/
structure DiscoverySnapshot where
  labels : Dict AccountId (Dict String String)

/-- What compiling raises. -/
inductive CompileError where
  | invalid (e : ValidationError)
  | value (message : String)
  | keyError
  | assertionError
  deriving DecidableEq

/-- `_pick`, with the macro's value of a queue field. -/
def pick {α : Type} (explicit inherited : Option α) (field : String) (ofMacro : Option α := none) :
    Except CompileError α :=
  match explicit, ofMacro, inherited with
  | some a, _, _ => .ok a
  | none, some a, _ => .ok a
  | none, none, some a => .ok a
  | none, none, none => .error (.value ("direct policy requires " ++ field))

/-- The accounts whose labels carry every pair of the selector. -/
def matchingAccounts (selector : Dict String String) (labels : Dict AccountId (Dict String String)) :
    List AccountId :=
  (labels.entries.filter fun q =>
    selector.entries.all fun s => decide (q.2.get? s.1 = some s.2)).map Prod.fst

/-- `_selected_accounts`. -/
def selectedAccounts (spec : AuthoringPolicy) (source : Option KeyPolicyRevision)
    (labels : Dict AccountId (Dict String String)) : Except CompileError (List AccountId) :=
  match spec.accountIds, spec.accountSelector, source with
  | some ids, _, _ => .ok (sortOn TypedId.text ids)
  | none, some selector, _ =>
    if matchingAccounts selector labels = [] then
      .error (.value ("account selector for policy " ++ spec.policyId.text ++ " matched no accounts"))
    else .ok (sortOn TypedId.text (matchingAccounts selector labels))
  | none, none, some source =>
    .ok (sortOn TypedId.text (source.authorizedLegs.map AuthorizedLeg.accountId).dedup)
  | none, none, none => .error (.value "direct policy requires account_ids or account_selector")

/-- `inherited_triggers`. -/
def inheritedTriggers (source : KeyPolicyRevision) : List RouteTrigger :=
  sortOn StrEnum.value (source.authorizedLegs.flatMap AuthorizedLeg.allowedTriggers).dedup

/-- The account of a grant exists and is active. -/
def checkActive (policyId : PolicyRevisionId) (accountId : AccountId) :
    Option ProviderAccount → Except CompileError Unit
  | none =>
    .error (.value ("policy " ++ policyId.text ++ " grants unknown account " ++ accountId.text))
  | some account =>
    require (account.state = some .active)
      (.value ("policy " ++ policyId.text ++ " grants non-active account " ++ accountId.text ++
        " in state " ++ (account.state.map StrEnum.value).getD "unset"))

/-- The grant of a leg for some triggers. -/
def grantFor (leg : RouteLeg) (shared : List RouteTrigger) : AuthorizedLeg where
  legId := leg.legId
  accountId := leg.accountId
  generationId := leg.generationId
  order := leg.order
  allowedTriggers := shared
  capabilities := leg.capabilities

/-- The grant of a leg for the triggers it shares with the policy, if any. -/
def projectLeg (accounts : List AccountId) (triggers : List RouteTrigger) (leg : RouteLeg) :
    Except CompileError (Option AuthorizedLeg) := do
  let shared := leg.triggers.filter (· ∈ triggers)
  if leg.accountId ∈ accounts ∧ shared ≠ [] then
    (grantFor leg shared).validate.mapError .invalid
    return some (grantFor leg shared)
  else return none

/-- The grants of one route group. -/
def projectGroup (policyId : PolicyRevisionId) (groups : Dict RouteGroupId RouteGroupRevision)
    (accounts : List AccountId) (triggers : List RouteTrigger) (groupId : RouteGroupId) :
    Except CompileError (List AuthorizedLeg) :=
  match groups.get? groupId with
  | none =>
    .error (.value ("policy " ++ policyId.text ++ " grants unknown route group " ++ groupId.text))
  | some group => do return (← group.legs.mapM (projectLeg accounts triggers)).filterMap id

variable (iterate : List AccountId → List AccountId)

/-- The legs of a policy whose authorization is not simply its source's. -/
def projectedLegs (spec : AuthoringPolicy) (source : Option KeyPolicyRevision)
    (labels : Dict AccountId (Dict String String)) (base : PolicyBundleV1)
    (routeGroupIds : List RouteGroupId) : Except CompileError (List AuthorizedLeg) := do
  let accounts ← selectedAccounts spec source labels
  let triggers ← pick spec.allowedTriggers (source.map inheritedTriggers) "allowed_triggers"
  forEach (fun a => checkActive spec.policyId a (base.accounts.find? fun item => item.accountId = a))
    (iterate accounts)
  let groups := Dict.indexOn RouteGroupRevision.routeGroupId base.routeGroups
  let projected ← routeGroupIds.mapM (projectGroup spec.policyId groups accounts triggers)
  require (projected.flatten ≠ [])
    (.value ("policy " ++ spec.policyId.text ++ " has no usable route"))
  return projected.flatten

/-- The legs of a policy: a clone that changes none of them keeps its source's. -/
def authorizedLegs (spec : AuthoringPolicy) (source : Option KeyPolicyRevision)
    (labels : Dict AccountId (Dict String String)) (base : PolicyBundleV1)
    (routeGroupIds : List RouteGroupId) : Except CompileError (List AuthorizedLeg) :=
  match source, spec.authorizationChanged with
  | some source, false => .ok source.authorizedLegs
  | _, _ => projectedLegs iterate spec source labels base routeGroupIds

/-- `_materialize_policy`. -/
def materializePolicy (spec : AuthoringPolicy) (source : Option KeyPolicyRevision)
    (preset : Option PolicyMacro) (labels : Dict AccountId (Dict String String))
    (base : PolicyBundleV1) : Except CompileError KeyPolicyRevision := do
  let groupIds ← pick spec.routeGroupIds (source.map KeyPolicyRevision.routeGroupIds)
    "route_group_ids"
  let routeGroupIds := sortOn TypedId.text groupIds
  let authorizedLegs ← authorizedLegs iterate spec source labels base routeGroupIds
  let name ← pick spec.name (source.map KeyPolicyRevision.name) "name"
  let queueTier ← pick spec.queueTier (source.map KeyPolicyRevision.queueTier) "queue_tier"
    (preset.map PolicyMacro.queueTier)
  let queueWeight ← pick spec.queueWeight (source.map KeyPolicyRevision.queueWeight) "queue_weight"
    (preset.map PolicyMacro.queueWeight)
  let maxConcurrency ← pick spec.maxConcurrency (source.map KeyPolicyRevision.maxConcurrency)
    "max_concurrency" (preset.map PolicyMacro.maxConcurrency)
  let maxWaiters ← pick spec.maxWaiters (source.map KeyPolicyRevision.maxWaiters) "max_waiters"
    (preset.map PolicyMacro.maxWaiters)
  let deadlineMs ← pick spec.deadlineMs (source.map KeyPolicyRevision.deadlineMs) "deadline_ms"
    (preset.map PolicyMacro.deadlineMs)
  let values : KeyPolicyRevision :=
    { policyId := spec.policyId, name, routeGroupIds, authorizedLegs, queueTier, queueWeight,
      maxConcurrency, maxWaiters, deadlineMs }
  values.validate.mapError .invalid

/-- The route groups of a policy are known and covered. -/
def checkCovered (policyId : PolicyRevisionId) (groups : Dict RouteGroupId RouteGroupRevision)
    (covered : List RouteGroupId) (groupId : RouteGroupId) : Except CompileError Unit := do
  require (groups.contains groupId = true)
    (.value ("policy " ++ policyId.text ++ " grants unknown route group " ++ groupId.text))
  require (groupId ∈ covered)
    (.value ("policy " ++ policyId.text ++ " has no usable route for route group " ++ groupId.text))

/-- `d[k]`. -/
def item {κ ν : Type} [DecidableEq κ] (d : Dict κ ν) (k : κ) : Except CompileError ν :=
  match d.get? k with
  | some v => .ok v
  | none => .error .keyError

/-- `_validate_runtime_routes`. -/
def validateRuntimeRoutes (policy : KeyPolicyRevision) (base : PolicyBundleV1) :
    Except CompileError Unit := do
  let accounts := Dict.indexOn ProviderAccount.accountId base.accounts
  let groups := Dict.indexOn RouteGroupRevision.routeGroupId base.routeGroups
  let legGroups := Dict.ofList (base.legGroups.map fun q => (q.1.legId, q.2))
  forEach (fun leg => checkActive policy.policyId leg.accountId (accounts.get? leg.accountId))
    policy.authorizedLegs
  let covered ← policy.authorizedLegs.mapM fun leg => item legGroups leg.legId
  forEach (checkCovered policy.policyId groups covered) policy.routeGroupIds

/-! ## Compiling a configuration -/

/-- What the loop over the policies collects. -/
structure Additions where
  policies : List KeyPolicyRevision := []
  rebinds : Dict PolicyRevisionId PolicyRevisionId := Dict.empty

/-- The source of a clone. -/
def cloneSource (base : PolicyBundleV1) :
    Option PolicyRevisionId → Except CompileError (Option KeyPolicyRevision)
  | none => .ok none
  | some sourceId =>
    match (Dict.indexOn KeyPolicyRevision.policyId base.policies).get? sourceId with
    | none => .error (.value ("unknown clone source policy " ++ sourceId.text))
    | some source => .ok (some source)

/-- Take the keys of the source over. -/
def rebind (base : PolicyBundleV1) (spec : AuthoringPolicy) (acc : Additions) :
    Except CompileError Additions :=
  match spec.cloneFromPolicyId with
  | none => .error .assertionError
  | some sourceId => do
    require (acc.rebinds.contains sourceId = false)
      (.value ("multiple shared rebinds from policy " ++ sourceId.text))
    require (∃ key ∈ base.keys, key.policyId = sourceId)
      (.value ("shared rebind source policy " ++ sourceId.text ++ " has no keys"))
    return { acc with rebinds := acc.rebinds.insert sourceId spec.policyId }

/-- One turn of the loop over the policies. -/
def compilePolicy (config : AuthoringConfigV1) (labels : Dict AccountId (Dict String String))
    (base : PolicyBundleV1) (acc : Additions) (spec : AuthoringPolicy) :
    Except CompileError Additions := do
  let source ← cloneSource base spec.cloneFromPolicyId
  let materialized ← materializePolicy iterate spec source (spec.macroName.bind config.macros.get?)
    labels base
  validateRuntimeRoutes materialized base
  let acc := { acc with policies := acc.policies ++ [materialized] }
  if spec.rebindShared then rebind base spec acc else return acc

/-- A key under its new policy, if its own was rebound. -/
def rebound (rebinds : Dict PolicyRevisionId PolicyRevisionId) (key : ClientKeyRecord) :
    ClientKeyRecord :=
  { key with policyId := (rebinds.get? key.policyId).getD key.policyId }

/-- The compiled bundle before its validation. -/
def assemble (base : PolicyBundleV1) (acc : Additions) : PolicyBundleV1 :=
  { base with
    generation := base.generation + 1
    keys := sortOn ClientKeyRecord.keyId (base.keys.map (rebound acc.rebinds))
    policies := sortOn (fun p => p.policyId.text) (base.policies ++ acc.policies)
    accounts := sortOn (fun a => a.accountId.text) base.accounts
    routeGroups := sortOn (fun g => g.routeGroupId.text) base.routeGroups }

/-- `compile_authoring`. -/
def compileAuthoring (config : AuthoringConfigV1) (discovery : DiscoverySnapshot)
    (base : PolicyBundleV1) : Except CompileError PolicyBundleV1 := do
  config.validate.mapError .invalid
  let base ← base.validate.mapError .invalid
  let unknown := sortOn TypedId.text (discovery.labels.keys.filter fun a =>
    a ∉ base.accounts.map ProviderAccount.accountId)
  require (unknown = [])
    (.value ("discovery contains account IDs absent from the applied bundle: " ++
      ", ".intercalate (unknown.map TypedId.text)))
  let collisions := sortOn TypedId.text ((config.policies.map AuthoringPolicy.policyId).filter
    fun p => p ∈ base.policies.map KeyPolicyRevision.policyId)
  require (collisions = [])
    (.value ("immutable policy revision ID already exists: " ++
      ", ".intercalate (collisions.map TypedId.text)))
  let acc ← config.policies.foldlM (compilePolicy iterate config discovery.labels base) {}
  (assemble base acc).validate.mapError .invalid

end Authoring

end LlmMaxxing
