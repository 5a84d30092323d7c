import LlmMaxxing.Core.Models

/-!
# Request ceilings and the policy bundle (`core/models.py`)

`RequestAuthorizationCeiling` is the admission authority of one request: it only ever
contracts, by `intersection`. `PolicyBundleV1` is the complete enforcement snapshot; its
`validate` is the source's field constraints followed by `_exact_membership`.
-/

namespace LlmMaxxing

open Check

/-! ## Request profile and ceiling -/

/-- Immutable bounded profile captured for one admitted request. -/
structure RequestProfile where
  routeGroupId : RouteGroupId
  modelAlias : String
  endpoint : EndpointKind
  modality : Modality
  stream : Bool
  inputTokensMax : Nat
  outputTokensMax : Nat
  reasoningTokensMax : Nat
  toolsCount : Nat
  forcedToolRequired : Bool
  responseSchemaPresent : Bool
  historyTurns : Nat
  deadlineMs : Nat
  deriving DecidableEq

/-- Admission authority whose QoS and exact per-leg records only contract. -/
structure RequestAuthorizationCeiling where
  keyId : String
  credentialGeneration : Nat
  policyId : PolicyRevisionId
  bundleGeneration : Nat
  bundleHash : BundleHash
  routeGroupId : RouteGroupId
  authorizedLegs : List AuthorizedLeg
  queueTier : Nat
  queueWeight : Nat
  maxConcurrency : Nat
  maxWaiters : Nat
  deadlineMs : Nat
  deriving DecidableEq

namespace RequestAuthorizationCeiling

/-- Field constraints and `_ceiling_legs_unique`. -/
def validate (c : RequestAuthorizationCeiling) : Validation RequestAuthorizationCeiling := do
  requireField (isHex32 c.keyId = true) "key_id"
  requireField (1 ≤ c.credentialGeneration) "credential_generation"
  requireField (1 ≤ c.bundleGeneration) "bundle_generation"
  forEach AuthorizedLeg.validate c.authorizedLegs
  requireValue (c.authorizedLegs.map AuthorizedLeg.legId).Nodup
    "duplicate authorization ceiling leg"
  requireField (1 ≤ c.queueWeight ∧ c.queueWeight ≤ 64) "queue_weight"
  requireField (1 ≤ c.maxConcurrency) "max_concurrency"
  requireField (1 ≤ c.deadlineMs ∧ c.deadlineMs ≤ maxDeadlineMs) "deadline_ms"
  return { c with authorizedLegs := sortOn AuthorizedLeg.sortKey c.authorizedLegs }

/-- The admitted identity two ceilings must share. -/
def sameIdentity (c other : RequestAuthorizationCeiling) : Prop :=
  c.keyId = other.keyId ∧ c.credentialGeneration = other.credentialGeneration ∧
    c.policyId = other.policyId ∧ c.routeGroupId = other.routeGroupId

instance (c other : RequestAuthorizationCeiling) : Decidable (c.sameIdentity other) :=
  inferInstanceAs (Decidable (_ ∧ _))

/-- The grants of `c` met with the grants of `other` of the same identity; where `other` lists
an identity twice the later one counts, as in the source's dictionary. -/
def meetLegs (c other : List AuthorizedLeg) : List AuthorizedLeg :=
  c.filterMap fun admitted =>
    match other.reverse.find? fun leg => leg.identity = admitted.identity with
    | some candidate => admitted.intersection candidate
    | none => none

/-- Contract `c` by `other`; the identity and the bundle reference stay those of `c`. -/
def intersection (c other : RequestAuthorizationCeiling) :
    Validation RequestAuthorizationCeiling := do
  requireValue (c.sameIdentity other)
    "cannot intersect ceilings of different admitted identities"
  validate
    { c with
      authorizedLegs := meetLegs c.authorizedLegs other.authorizedLegs
      queueTier := max c.queueTier other.queueTier
      queueWeight := min c.queueWeight other.queueWeight
      maxConcurrency := min c.maxConcurrency other.maxConcurrency
      maxWaiters := min c.maxWaiters other.maxWaiters
      deadlineMs := min c.deadlineMs other.deadlineMs }

end RequestAuthorizationCeiling

/-! ## The policy bundle -/

/-- The code points of the zero digits of the decimal-digit blocks (`\d` of a text pattern:
category `Nd`, each block ten consecutive code points). -/
def decimalZeros : List Nat :=
  [0x30, 0x660, 0x6f0, 0x7c0, 0x966, 0x9e6, 0xa66, 0xae6, 0xb66, 0xbe6, 0xc66, 0xce6, 0xd66,
    0xde6, 0xe50, 0xed0, 0xf20, 0x1040, 0x1090, 0x17e0, 0x1810, 0x1946, 0x19d0, 0x1a80, 0x1a90,
    0x1b50, 0x1bb0, 0x1c40, 0x1c50, 0xa620, 0xa8d0, 0xa900, 0xa9d0, 0xa9f0, 0xaa50, 0xabf0,
    0xff10, 0x104a0, 0x10d30, 0x11066, 0x110f0, 0x11136, 0x111d0, 0x112f0, 0x11450, 0x114d0,
    0x11650, 0x116c0, 0x11730, 0x118e0, 0x11950, 0x11c50, 0x11d50, 0x11da0, 0x11f50, 0x16a60,
    0x16ac0, 0x16b50, 0x1d7ce, 0x1d7d8, 0x1d7e2, 0x1d7ec, 0x1d7f6, 0x1e140, 0x1e2f0, 0x1e4f0,
    0x1e950, 0x1fbf0]

/-- The value of a decimal digit of any script. -/
def decimalDigit? (c : Char) : Option Nat :=
  (decimalZeros.find? fun z => z ≤ c.toNat ∧ c.toNat < z + 10).map fun z => c.toNat - z

/-- `int(text)` of a nonempty run of decimal digits; the interpreter refuses more than 4300. -/
def decimalInt? (cs : List Char) : Option Nat :=
  if cs = [] ∨ 4300 < cs.length then none
  else cs.foldl (fun acc c => acc.bind fun n => (decimalDigit? c).map (10 * n + ·)) (some 0)

/-- `re.fullmatch(r"(\d+)\.(\d+)", v)` and the two integers. -/
def readerVersion? (s : String) : Option (Nat × Nat) :=
  let cs := s.toList
  let major := cs.takeWhile (· != '.')
  match cs.dropWhile (· != '.') with
  | '.' :: minor => (decimalInt? major).bind fun a => (decimalInt? minor).map fun b => (a, b)
  | _ => none

/-- The complete immutable enforcement snapshot applied by one generation. -/
structure PolicyBundleV1 where
  schemaVersion : Nat
  generation : Nat
  minReader : String
  requiredFeatures : List RequiredFeature
  keys : List ClientKeyRecord
  policies : List KeyPolicyRevision
  accounts : List ProviderAccount
  routeGroups : List RouteGroupRevision
  backendManifestHash : String
  deriving DecidableEq

namespace PolicyBundleV1

/-- Every leg of every route group. -/
def legs (b : PolicyBundleV1) : List RouteLeg := b.routeGroups.flatMap RouteGroupRevision.legs

/-- Every leg with the id of its route group. -/
def legGroups (b : PolicyBundleV1) : List (RouteLeg × RouteGroupId) :=
  b.routeGroups.flatMap fun g => g.legs.map fun leg => (leg, g.routeGroupId)

/-- The pairs `(pepper_version, fingerprint_hex)` of every legacy verifier. -/
def legacyFingerprints (b : PolicyBundleV1) : List (String × String) :=
  b.keys.flatMap fun k => k.legacyVerifiers.map fun v => (v.pepperVersion, v.secretHex)

/-- The nonempty account bindings. -/
def bindings (b : PolicyBundleV1) : List (List String) :=
  (b.accounts.map ProviderAccount.binding).filter fun t => t.any (· != "")

/-- `_min_reader_supported`. -/
def minReaderSupported (v : String) : Validation Unit :=
  match readerVersion? v with
  | none => .error (.value "min_reader must be '<major>.<minor>'")
  | some version =>
    requireValue (toLex version ≤ toLex maxMinReader)
      ("min_reader '" ++ v ++ "' exceeds this build's supported reader floor 1.0")

/-- The uniqueness checks of `_exact_membership`, in the source's order. -/
def checkUnique (b : PolicyBundleV1) : Validation Unit := do
  requireValue (b.accounts.map ProviderAccount.accountId).Nodup "duplicate account_id in bundle"
  requireValue (b.routeGroups.map RouteGroupRevision.routeGroupId).Nodup
    "duplicate route_group_id in bundle"
  requireValue (b.policies.map KeyPolicyRevision.policyId).Nodup "duplicate policy_id in bundle"
  requireValue (b.keys.map ClientKeyRecord.keyId).Nodup "duplicate key_id in bundle"
  requireValue (b.legs.map RouteLeg.legId).Nodup "duplicate leg_id in bundle"
  requireValue (b.routeGroups.map RouteGroupRevision.name).Nodup
    "duplicate RouteGroupRevision.name in bundle"
  requireValue b.legacyFingerprints.Nodup "duplicate legacy credential fingerprint in bundle"
  requireValue b.bindings.Nodup
    "duplicate account binding triple across live and tombstoned accounts"

/-- The per-group checks of `_exact_membership`. -/
def checkGroup (b : PolicyBundleV1) (g : RouteGroupRevision) : Validation Unit := do
  let missing := (g.legs.map RouteLeg.accountId).filter fun a =>
    a ∉ b.accounts.map ProviderAccount.accountId
  requireValue (missing = [])
    ("route group " ++ g.routeGroupId.text ++ " leg references unknown account: " ++
      ", ".intercalate (missing.map TypedId.text))
  let primaries := g.legs.filter fun leg => RouteTrigger.primary ∈ leg.triggers
  requireValue (primaries.length = 1)
    ("route group " ++ g.routeGroupId.text ++ " must have exactly one PRIMARY leg, found " ++
      toString primaries.length)

/-- The checks of one grant of a policy; the result is the route group of the granted leg. -/
def checkGrant (b : PolicyBundleV1) (p : KeyPolicyRevision) (grant : AuthorizedLeg) :
    Validation RouteGroupId := do
  requireValue (grant.accountId ∈ b.accounts.map ProviderAccount.accountId)
    ("policy " ++ p.policyId.text ++ " grants unknown account " ++ grant.accountId.text)
  match b.legGroups.find? fun q => q.1.legId = grant.legId with
  | none =>
    throw (.value ("policy " ++ p.policyId.text ++ " authorizes unknown leg " ++ grant.legId.text))
  | some (actual, groupId) =>
    requireValue (groupId ∈ p.routeGroupIds)
      ("policy " ++ p.policyId.text ++ " authorizes a leg outside its route groups")
    requireValue (grant.identity = actual.identity)
      ("policy " ++ p.policyId.text ++ " authorized leg identity does not match bundle")
    requireValue (∀ t ∈ grant.allowedTriggers, t ∈ actual.triggers)
      ("policy " ++ p.policyId.text ++ " grants a trigger absent from its route leg")
    requireValue (grant.capabilities = actual.capabilities)
      ("policy " ++ p.policyId.text ++ " capabilities do not match its route leg")
    return groupId

/-- The route groups covered by the grants, in grant order. -/
def checkGrants (b : PolicyBundleV1) (p : KeyPolicyRevision) :
    List AuthorizedLeg → Validation (List RouteGroupId)
  | [] => .ok []
  | grant :: rest => do
    let groupId ← b.checkGrant p grant
    let covered ← b.checkGrants p rest
    return groupId :: covered

/-- The per-policy checks of `_exact_membership`. -/
def checkPolicy (b : PolicyBundleV1) (p : KeyPolicyRevision) : Validation Unit := do
  let missingGroups := p.routeGroupIds.filter fun g =>
    g ∉ b.routeGroups.map RouteGroupRevision.routeGroupId
  requireValue (missingGroups = [])
    ("policy " ++ p.policyId.text ++ " references unknown route_group: " ++
      ", ".intercalate (missingGroups.map TypedId.text))
  let covered ← b.checkGrants p p.authorizedLegs
  let missingCoverage := p.routeGroupIds.filter fun g => g ∉ covered
  requireValue (missingCoverage = [])
    ("policy " ++ p.policyId.text ++ " has no authorized leg for route group: " ++
      ", ".intercalate (sortOn id (missingCoverage.map TypedId.text)))

/-- `_exact_membership`. -/
def exactMembership (b : PolicyBundleV1) : Validation Unit := do
  b.checkUnique
  forEach b.checkGroup b.routeGroups
  forEach b.checkPolicy b.policies
  forEach
    (fun k => requireValue (k.policyId ∈ b.policies.map KeyPolicyRevision.policyId)
      ("key " ++ k.keyId ++ " references unknown policy"))
    b.keys

/-- Construct a bundle: fields in declaration order, then `_exact_membership`. -/
def validate (b : PolicyBundleV1) : Validation PolicyBundleV1 := do
  requireField (b.schemaVersion = 1) "schema_version"
  requireField (1 ≤ b.generation) "generation"
  minReaderSupported b.minReader
  requireValue b.requiredFeatures.Nodup "duplicate required feature"
  requireField (b.keys ≠ []) "keys"
  forEach ClientKeyRecord.validate b.keys
  requireField (b.policies ≠ []) "policies"
  let policies ← b.policies.mapM KeyPolicyRevision.validate
  requireField (b.accounts ≠ []) "accounts"
  let accounts ← b.accounts.mapM ProviderAccount.validate
  requireField (b.routeGroups ≠ []) "route_groups"
  let routeGroups ← b.routeGroups.mapM RouteGroupRevision.validate
  requireField (isHex64 b.backendManifestHash = true) "backend_manifest_hash"
  let built := { b with policies, accounts, routeGroups }
  built.exactMembership
  return built

end PolicyBundleV1

/-- A bundle the program holds: validation accepts it and changes nothing. -/
structure ValidatedBundle where
  bundle : PolicyBundleV1
  valid : bundle.validate = .ok bundle

end LlmMaxxing
