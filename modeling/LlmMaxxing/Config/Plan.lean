import LlmMaxxing.Core.Canonical
import LlmMaxxing.Core.KeyLifecycle
import Mathlib.Data.List.Dedup

/-!
# Impact plans (`config/plan.py`)

A plan compares the applied bundle with a target. Records are compared by their JSON dumps; the
keys a change affects are those whose `effectiveKeyProjection` differs: the key, its policy, and of
the route groups of the policy what the policy's grants can reach, with the accounts behind it.
-/

namespace LlmMaxxing

open Check Json

/-- The SHA-256 digests, by domain: `content_hash`, and `bundle_hash` of canonical bundle bytes. -/
structure Hashing where
  content : String → Bytes → String
  bundle : Bytes → BundleHash

/-- What planning raises. -/
inductive PlanError where
  | invalid (e : ValidationError)
  | canonical (e : CanonicalError)
  | value (message : String)
  | keyError
  | stalePreview (message : String)
  deriving DecidableEq

namespace PlanError

/-- A validation error inside planning. -/
def ofValidation {α : Type} : Validation α → Except PlanError α
  | .ok a => .ok a
  | .error e => .error (.invalid e)

/-- A serialization error inside planning. -/
def ofCanonical {α : Type} : Except CanonicalError α → Except PlanError α
  | .ok a => .ok a
  | .error e => .error (.canonical e)

/-- `d[k]`. -/
def item {κ ν : Type} [DecidableEq κ] (d : Dict κ ν) (k : κ) : Except PlanError ν :=
  match d.get? k with
  | some v => .ok v
  | none => .error .keyError

@[simp] theorem ofValidation_eq_ok_iff {α : Type} {v : Validation α} {a : α} :
    ofValidation v = .ok a ↔ v = .ok a := by
  cases v <;> simp [ofValidation]

@[simp] theorem ofCanonical_eq_ok_iff {α : Type} {v : Except CanonicalError α} {a : α} :
    ofCanonical v = .ok a ↔ v = .ok a := by
  cases v <;> simp [ofCanonical]

@[simp] theorem item_eq_ok_iff {κ ν : Type} [DecidableEq κ] {d : Dict κ ν} {k : κ} {v : ν} :
    item d k = .ok v ↔ d.get? k = some v := by
  unfold item
  cases d.get? k <;> simp

end PlanError

open PlanError

/-! ## Records of a plan -/

structure ExpectedKeyBinding where
  keyId : String
  policyId : PolicyRevisionId
  generationHighWater : Nat
  deriving DecidableEq

/-- Stable identities whose records were added, removed or changed. -/
structure SemanticDiff where
  changedKeyIds : List String
  changedPolicyIds : List PolicyRevisionId
  changedAccountIds : List AccountId
  changedRouteGroupIds : List RouteGroupId
  changedLegIds : List RouteLegId
  backendManifestChanged : Bool
  minReaderChanged : Bool
  requiredFeaturesChanged : Bool
  deriving DecidableEq

/-- The fields of an impact plan before its hash. -/
structure ImpactFields where
  schemaVersion : Nat
  baseGeneration : Nat
  baseBundleHash : BundleHash
  baseSourceFingerprint : String
  sourceFingerprint : String
  securityFence : String
  keySetFence : String
  expectedKeyBindings : List ExpectedKeyBinding
  targetGeneration : Nat
  targetContentHash : BundleHash
  diff : SemanticDiff
  affectedKeyIds : List String
  deriving DecidableEq

/-- `ImpactPlan`. -/
structure ImpactPlan extends ImpactFields where
  impactHash : String
  deriving DecidableEq

/-- The dump of a binding. -/
def ExpectedKeyBinding.enc (b : ExpectedKeyBinding) : Json := .obj [
  ("key_id", .str b.keyId), ("policy_id", .str b.policyId.text),
  ("generation_high_water", .num b.generationHighWater)]

/-- A tuple of texts, as JSON. -/
def texts {α : Type} (text : α → String) (l : List α) : Json := .arr (l.map fun a => .str (text a))

def SemanticDiff.enc (d : SemanticDiff) : Json := .obj [
  ("changed_key_ids", texts id d.changedKeyIds),
  ("changed_policy_ids", texts TypedId.text d.changedPolicyIds),
  ("changed_account_ids", texts TypedId.text d.changedAccountIds),
  ("changed_route_group_ids", texts TypedId.text d.changedRouteGroupIds),
  ("changed_leg_ids", texts TypedId.text d.changedLegIds),
  ("backend_manifest_changed", .bool d.backendManifestChanged),
  ("min_reader_changed", .bool d.minReaderChanged),
  ("required_features_changed", .bool d.requiredFeaturesChanged)]

def ImpactFields.enc (f : ImpactFields) : Json := .obj [
  ("schema_version", .num f.schemaVersion),
  ("base_generation", .num f.baseGeneration),
  ("base_bundle_hash", .str f.baseBundleHash.text),
  ("base_source_fingerprint", .str f.baseSourceFingerprint),
  ("source_fingerprint", .str f.sourceFingerprint),
  ("security_fence", .str f.securityFence),
  ("key_set_fence", .str f.keySetFence),
  ("expected_key_bindings", .arr (f.expectedKeyBindings.map ExpectedKeyBinding.enc)),
  ("target_generation", .num f.targetGeneration),
  ("target_content_hash", .str f.targetContentHash.text),
  ("diff", f.diff.enc),
  ("affected_key_ids", texts id f.affectedKeyIds)]

/-- Field constraints and `_ordered_exact_sets`. -/
def ImpactPlan.validate (p : ImpactPlan) : Validation ImpactPlan := do
  requireField (p.schemaVersion = 1) "schema_version"
  requireField (1 ≤ p.baseGeneration) "base_generation"
  requireField (isHex64 p.baseSourceFingerprint = true) "base_source_fingerprint"
  requireField (isHex64 p.sourceFingerprint = true) "source_fingerprint"
  requireField (isHex64 p.securityFence = true) "security_fence"
  requireField (isHex64 p.keySetFence = true) "key_set_fence"
  requireField (1 ≤ p.targetGeneration) "target_generation"
  requireField (isHex64 p.impactHash = true) "impact_hash"
  requireValue p.expectedKeyBindings.Nodup "duplicate expected_key_bindings in impact plan"
  requireValue p.affectedKeyIds.Nodup "duplicate affected_key_ids in impact plan"
  requireValue p.diff.changedKeyIds.Nodup "duplicate changed_key_ids in impact plan"
  requireValue p.diff.changedPolicyIds.Nodup "duplicate changed_policy_ids in impact plan"
  requireValue p.diff.changedAccountIds.Nodup "duplicate changed_account_ids in impact plan"
  requireValue p.diff.changedRouteGroupIds.Nodup "duplicate changed_route_group_ids in impact plan"
  requireValue p.diff.changedLegIds.Nodup "duplicate changed_leg_ids in impact plan"
  return p

/-! ## Fences -/

/-- `_hash_json`. -/
def hashJson (h : Hashing) (value : Json) (domain : String) : Except PlanError String := do
  return h.content domain (← ofCanonical (serialize value))

/-- `_source_fingerprint`. -/
def sourceFingerprint (h : Hashing) (b : PolicyBundleV1) : Except PlanError String :=
  hashJson h
    (.obj [
      ("schema_version", .num b.schemaVersion),
      ("min_reader", .str b.minReader),
      ("required_features", texts id (sortOn id (b.requiredFeatures.map StrEnum.value))),
      ("policies", .arr ((sortOn (fun p => p.policyId.text) b.policies).map
        Codec.keyPolicyRevision.enc))])
    "llmmaxxing.source-fingerprint.v1\x00"

/-- `_security_fence`. -/
def securityFence (h : Hashing) (b : PolicyBundleV1) : Except PlanError String :=
  hashJson h
    (.obj [
      ("keys", .arr ((sortOn ClientKeyRecord.keyId b.keys).map Codec.clientKeyRecord.enc)),
      ("accounts", .arr ((sortOn (fun a => a.accountId.text) b.accounts).map
        Codec.providerAccount.enc))])
    "llmmaxxing.security-fence.v1\x00"

/-- `_key_bindings`. -/
def keyBindings (b : PolicyBundleV1) : List ExpectedKeyBinding :=
  (sortOn ClientKeyRecord.keyId b.keys).map fun key =>
    ⟨key.keyId, key.policyId, key.generationHighWater⟩

/-- `_key_set_fence`. -/
def keySetFence (h : Hashing) (b : PolicyBundleV1) : Except PlanError String :=
  hashJson h (.arr ((keyBindings b).map ExpectedKeyBinding.enc)) "llmmaxxing.key-set-fence.v1\x00"

/-- `bundle_hash(canonical_bundle_bytes(bundle))`. -/
def bundleContentHash (h : Hashing) (b : PolicyBundleV1) : Except PlanError BundleHash := do
  return h.bundle (← ofCanonical (canonicalBundleBytes b))

/-! ## Differences -/

/-- `_changed_ids`: the identities of either side whose dumps differ, in text order. -/
def changedIds {κ α : Type} [DecidableEq κ] (ident : α → κ) (text : κ → String) (dump : α → Json)
    (before after : List α) : List κ :=
  let left := (Dict.indexOn ident before).mapValues fun _ a => dump a
  let right := (Dict.indexOn ident after).mapValues fun _ a => dump a
  sortOn text ((left.keys ++ right.keys.filter fun k => k ∉ left.keys).filter fun k =>
    decide (left.get? k ≠ right.get? k))

/-- `_semantic_diff`. -/
def semanticDiff (base target : PolicyBundleV1) : SemanticDiff where
  changedKeyIds := changedIds ClientKeyRecord.keyId id Codec.clientKeyRecord.enc
    base.keys target.keys
  changedPolicyIds := changedIds KeyPolicyRevision.policyId TypedId.text
    Codec.keyPolicyRevision.enc base.policies target.policies
  changedAccountIds := changedIds ProviderAccount.accountId TypedId.text
    Codec.providerAccount.enc base.accounts target.accounts
  changedRouteGroupIds := changedIds RouteGroupRevision.routeGroupId TypedId.text
    Codec.routeGroupRevision.enc base.routeGroups target.routeGroups
  changedLegIds := changedIds RouteLeg.legId TypedId.text Codec.routeLeg.enc base.legs target.legs
  backendManifestChanged := base.backendManifestHash != target.backendManifestHash
  minReaderChanged := base.minReader != target.minReader
  requiredFeaturesChanged := decide (¬ ((∀ f ∈ base.requiredFeatures, f ∈ target.requiredFeatures) ∧
    ∀ f ∈ target.requiredFeatures, f ∈ base.requiredFeatures))

/-! ## Projections -/

/-- The dump of a granted leg, with the triggers and capabilities of the grant. -/
def projectedLeg (leg : RouteLeg) (granted : AuthorizedLeg) : Json :=
  Codec.routeLeg.enc
    { leg with triggers := granted.allowedTriggers, capabilities := granted.capabilities }

/-- A leg of a group in a projection; `none` when the policy does not grant it. -/
def effectiveLeg (accounts : Dict AccountId ProviderAccount)
    (authorized : Dict RouteLegId AuthorizedLeg) (leg : RouteLeg) :
    Except PlanError (Option Json) :=
  match authorized.get? leg.legId with
  | none => .ok none
  | some granted => do
    let account ← item accounts granted.accountId
    return some (.obj [("leg", projectedLeg leg granted),
      ("account", Codec.providerAccount.enc account)])

/-- A route group in a projection. -/
def effectiveGroup (groups : Dict RouteGroupId RouteGroupRevision)
    (accounts : Dict AccountId ProviderAccount) (authorized : Dict RouteLegId AuthorizedLeg)
    (groupId : RouteGroupId) : Except PlanError Json := do
  let group ← item groups groupId
  let legs ← group.legs.mapM (effectiveLeg accounts authorized)
  return .obj [("route_group_id", .str group.routeGroupId.text), ("name", .str group.name),
    ("strategy", .str (StrEnum.value group.strategy)), ("legs", .arr (legs.filterMap id))]

/-- `_effective_key_projection`. -/
def effectiveKeyProjection (b : PolicyBundleV1) (keyId : String) : Except PlanError (Option Json) :=
  match (Dict.indexOn ClientKeyRecord.keyId b.keys).get? keyId with
  | none => .ok none
  | some key => do
    let policy ← item (Dict.indexOn KeyPolicyRevision.policyId b.policies) key.policyId
    let groups ← policy.routeGroupIds.mapM
      (effectiveGroup (Dict.indexOn RouteGroupRevision.routeGroupId b.routeGroups)
        (Dict.indexOn ProviderAccount.accountId b.accounts)
        (Dict.indexOn AuthorizedLeg.legId policy.authorizedLegs))
    return some (.obj [("key", Codec.clientKeyRecord.enc key),
      ("policy", Codec.keyPolicyRevision.enc policy), ("route_groups", .arr groups)])

/-- The key, if its projections differ. -/
def affectedKey (base target : PolicyBundleV1) (keyId : String) :
    Except PlanError (Option String) := do
  let before ← effectiveKeyProjection base keyId
  let after ← effectiveKeyProjection target keyId
  return if before ≠ after then some keyId else none

/-- `_affected_keys`. -/
def affectedKeys (base target : PolicyBundleV1) (diff : SemanticDiff) :
    Except PlanError (List String) :=
  let keyIds := ((base.keys ++ target.keys).map ClientKeyRecord.keyId).dedup
  if diff.backendManifestChanged || diff.minReaderChanged || diff.requiredFeaturesChanged then
    .ok (sortOn id keyIds)
  else do
    let affected ← keyIds.mapM (affectedKey base target)
    return sortOn id (affected.filterMap id)

/-! ## Plans -/

/-- `exact_policy_reassignments` (`core/key_lifecycle.py`). -/
def exactPolicyReassignments (before after : List ClientKeyRecord) :
    Dict String PolicyReassignment :=
  .ofList (after.filterMap fun record =>
    match (keyIndex before).get? record.keyId with
    | some old =>
      if record.policyId ≠ old.policyId then
        some (record.keyId, ⟨old.policyId, record.policyId⟩)
      else none
    | none => none)

/-- The fingerprint of the target's source; an empty one that was given counts as none. -/
def targetSource (h : Hashing) (target : PolicyBundleV1) : Option String → Except PlanError String
  | some text => if text ≠ "" then .ok text else sourceFingerprint h target
  | none => sourceFingerprint h target

/-- The fields of the plan from `base` to `target`. -/
def impactFields (h : Hashing) (base target : PolicyBundleV1) (source : Option String) :
    Except PlanError ImpactFields := do
  let source ← targetSource h target source
  let baseBundleHash ← bundleContentHash h base
  let baseSourceFingerprint ← sourceFingerprint h base
  let securityFence ← securityFence h base
  let keySetFence ← keySetFence h base
  let targetContentHash ← bundleContentHash h target
  let affectedKeyIds ← affectedKeys base target (semanticDiff base target)
  return {
    schemaVersion := 1
    baseGeneration := base.generation
    baseBundleHash
    baseSourceFingerprint
    sourceFingerprint := source
    securityFence
    keySetFence
    expectedKeyBindings := keyBindings base
    targetGeneration := target.generation
    targetContentHash
    diff := semanticDiff base target
    affectedKeyIds }

/-- `plan_change`. -/
def planChange (h : Hashing) (base target : PolicyBundleV1) (source : Option String) :
    Except PlanError ImpactPlan := do
  let base ← ofValidation base.validate
  let target ← ofValidation target.validate
  require (base.generation < target.generation)
    (.value "target generation must be strictly greater than applied base generation")
  ofValidation (validateKeyRecordSetDelta base.keys target.keys
    (exactPolicyReassignments base.keys target.keys))
  let fields ← impactFields h base target source
  let impactHash ← hashJson h fields.enc "llmmaxxing.impact.v1\x00"
  ofValidation (ImpactPlan.validate { fields with impactHash })

/-- `verify_against`. -/
def ImpactPlan.verifyAgainst (h : Hashing) (p : ImpactPlan) (current : PolicyBundleV1)
    (source : Option String) : Except PlanError Unit :=
  match source with
  | none => .error (.stalePreview "fresh source fingerprint is required to verify an impact plan")
  | some source => do
    let current ← ofValidation current.validate
    require (current.generation = p.baseGeneration) (.stalePreview "base bundle generation changed")
    require ((← bundleContentHash h current) = p.baseBundleHash)
      (.stalePreview "base bundle content changed")
    require ((← sourceFingerprint h current) = p.baseSourceFingerprint)
      (.stalePreview "base authoring source changed")
    require ((← securityFence h current) = p.securityFence) (.stalePreview "security fence changed")
    require ((← keySetFence h current) = p.keySetFence) (.stalePreview "key set fence changed")
    require (keyBindings current = p.expectedKeyBindings)
      (.stalePreview "exact key bindings changed")
    require (source = p.sourceFingerprint) (.stalePreview "source fingerprint changed")

end LlmMaxxing
