import LlmMaxxing.Core.Canonical
import LlmMaxxing.Core.Validated

/-!
# Authorization over the active bundle (`gateway/routing.py`, `RouteEngine`)

The engine indexes the bundle it was activated with. `authorize` is the complete authorization of
a client for a profile: the policy's limits and its grants on the legs of the profile's route group.
-/

namespace LlmMaxxing

open Check Json

/-- Identity pinned to the exact accepted credential and bundle (`gateway/auth.py`). -/
structure AuthenticatedClient where
  keyId : String
  acceptedCredentialGeneration : Nat
  policyId : PolicyRevisionId
  keyState : KeyLifecycleState
  keyExpiresAtS : Nat
  appliedBundleGeneration : Nat
  appliedBundleHash : BundleHash
  deriving DecidableEq

/-- The active bundle and its indexes. -/
structure RouteEngine where
  bundle : PolicyBundleV1
  bundleHash : BundleHash
  keys : Dict String ClientKeyRecord
  policies : Dict PolicyRevisionId KeyPolicyRevision
  groups : Dict RouteGroupId RouteGroupRevision
  accounts : Dict AccountId ProviderAccount
  groupsByName : Dict String RouteGroupRevision

namespace RouteEngine

/-- The engine of a validated bundle. -/
def index (bundle : PolicyBundleV1) (hash : BundleHash) : RouteEngine where
  bundle := bundle
  bundleHash := hash
  keys := .indexOn ClientKeyRecord.keyId bundle.keys
  policies := .indexOn KeyPolicyRevision.policyId bundle.policies
  groups := .indexOn RouteGroupRevision.routeGroupId bundle.routeGroups
  accounts := .indexOn ProviderAccount.accountId bundle.accounts
  groupsByName := .indexOn RouteGroupRevision.name bundle.routeGroups

/-- `activate`; `hash` is `bundle_hash`. -/
def activate (hash : Bytes → BundleHash) (bundle : PolicyBundleV1) :
    Except CanonicalError RouteEngine :=
  match bundle.validate with
  | .error e => .error (.invalid e)
  | .ok validated => do
    let bytes ← canonicalBundleBytes validated
    return index validated (hash bytes)

/-- `resolve_route_group_id`. -/
def resolveRouteGroupId (e : RouteEngine) (modelAlias : String) : Validation RouteGroupId :=
  match e.groupsByName.get? modelAlias with
  | some group => .ok group.routeGroupId
  | none => .error (.value "unknown client-visible model")

/-- `policy_deadline_ms`. -/
def policyDeadlineMs (e : RouteEngine) (client : AuthenticatedClient) : Validation Nat :=
  match e.policies.get? client.policyId with
  | some policy => .ok policy.deadlineMs
  | none => .error (.value "client policy is absent from the current bundle")

/-- The grants of a policy on the legs of a route group it covers. -/
def authorizedLegs (e : RouteEngine) (policy : KeyPolicyRevision) (groupId : RouteGroupId) :
    List AuthorizedLeg :=
  match e.groups.get? groupId with
  | none => []
  | some group =>
    if groupId ∈ policy.routeGroupIds then
      policy.authorizedLegs.filter fun leg => leg.legId ∈ group.legs.map RouteLeg.legId
    else []

/-- `authorize`. -/
def authorize (e : RouteEngine) (client : AuthenticatedClient) (profile : RequestProfile) :
    Validation RequestAuthorizationCeiling :=
  let noAuthorization := .error (.value "client key has no current complete authorization")
  match e.keys.get? client.keyId with
  | none => noAuthorization
  | some key =>
    if key.state ≠ .enabled ∨ key.policyId ≠ client.policyId then noAuthorization
    else
      match e.policies.get? client.policyId with
      | none => .error (.value "client policy is absent from the current bundle")
      | some policy =>
        RequestAuthorizationCeiling.validate
          { keyId := client.keyId
            credentialGeneration := client.acceptedCredentialGeneration
            policyId := policy.policyId
            bundleGeneration := e.bundle.generation
            bundleHash := e.bundleHash
            routeGroupId := profile.routeGroupId
            authorizedLegs := e.authorizedLegs policy profile.routeGroupId
            queueTier := policy.queueTier
            queueWeight := policy.queueWeight
            maxConcurrency := policy.maxConcurrency
            maxWaiters := policy.maxWaiters
            deadlineMs := policy.deadlineMs }

/-- `quota_units`. -/
def quotaUnits (e : RouteEngine) (accountId : AccountId) : Validation Nat :=
  match e.accounts.get? accountId with
  | some account => .ok account.quotaUnitsPerAttempt
  | none => .error (.value "candidate account is absent from the current bundle")

/-! ## Engines of valid bundles -/

variable {hash : Bytes → BundleHash} {b : PolicyBundleV1} {e : RouteEngine}

/-- A bundle that validation leaves as it is gives the engine of its own indexes. -/
theorem activate_eq_ok_iff (hb : b.validate = .ok b) :
    activate hash b = .ok e ↔
      ∃ bytes, canonicalBundleBytes b = .ok bytes ∧ e = index b (hash bytes) := by
  simp only [activate, hb, bind_eq_ok_iff, pure_eq_ok, Except.ok.injEq]
  simp only [eq_comm]

end RouteEngine

end LlmMaxxing
