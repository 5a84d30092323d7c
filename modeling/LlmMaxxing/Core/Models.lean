import LlmMaxxing.Core.Ids
import LlmMaxxing.Core.Reasons
import LlmMaxxing.Lib.Check
import LlmMaxxing.Lib.SortOn

/-!
# The immutable policy bundle (`core/models.py`)

Each record of the bundle is a structure with the source's fields, and each has a `validate`
that runs the source's field constraints and validators in the source's order and returns the
value the model stores: some validators normalise (derive the account state, sort the legs).
A value the program holds is one that validation accepts and leaves as it is; `Validated` is
the bundle with that fact.

Integer fields are natural numbers: every one of them carries a nonnegative lower bound.
-/

namespace LlmMaxxing

open Check

/-- Why a value is refused: a field constraint, by field, or a validator's own message. -/
inductive ValidationError where
  | field (name : String)
  | value (message : String)
  deriving DecidableEq, Repr

/-- The outcome of constructing a model. -/
abbrev Validation := Except ValidationError

/-- A field constraint. -/
def requireField (p : Prop) [Decidable p] (name : String) : Validation Unit :=
  require p (.field name)

/-- A validator's `raise ValueError(message)` unless `p`. -/
def requireValue (p : Prop) [Decidable p] (message : String) : Validation Unit :=
  require p (.value message)

@[simp] theorem requireField_eq_ok_iff {p : Prop} [Decidable p] {name : String} {u : Unit} :
    requireField p name = .ok u ↔ p := require_eq_ok_iff

@[simp] theorem requireValue_eq_ok_iff {p : Prop} [Decidable p] {message : String} {u : Unit} :
    requireValue p message = .ok u ↔ p := require_eq_ok_iff

/-- `_MAX_DEADLINE_MS`. -/
def maxDeadlineMs : Nat := 9_000_000

/-- `_HEX32`. -/
def isHex32 (s : String) : Bool := isHexOfLength 32 s.toList

/-- `_HEX64`. -/
def isHex64 (s : String) : Bool := isHexOfLength 64 s.toList

/-- A bare digest: 64 hex digits. -/
structure HexDigest where
  text : String
  valid : isHex64 text = true
  deriving DecidableEq

/-- `_CREDENTIAL_FINGERPRINT`: `hcf1_` and 64 hex digits. -/
def isCredentialFingerprint (s : String) : Bool :=
  s.toList.take 5 == "hcf1_".toList && isHexOfLength 64 (s.toList.drop 5)

/-- `[A-Za-z0-9]`. -/
def isAsciiAlnum (c : Char) : Bool :=
  ('A' ≤ c && c ≤ 'Z') || ('a' ≤ c && c ≤ 'z') || ('0' ≤ c && c ≤ '9')

/-- `^[A-Za-z0-9][A-Za-z0-9._-]{0,63}$`. -/
def isPepperVersion (s : String) : Bool :=
  match s.toList with
  | [] => false
  | c :: rest =>
    isAsciiAlnum c && rest.length ≤ 63 &&
      rest.all fun c => isAsciiAlnum c || c == '.' || c == '_' || c == '-'

/-- Text of `min ≤ length ≤ max` code points. -/
def lengthWithin (s : String) (lo hi : Nat) : Prop :=
  lo ≤ s.toList.length ∧ s.toList.length ≤ hi

instance (s : String) (lo hi : Nat) : Decidable (lengthWithin s lo hi) :=
  inferInstanceAs (Decidable (_ ∧ _))

/-! ## Provider accounts -/

/-- One independently bounded quota dimension and its attestation state. -/
structure QuotaDimension where
  status : QuotaDimensionStatus
  value : Option Nat := none
  deriving DecidableEq, Repr

/-- Field constraints and `_value_matches_status`. -/
def QuotaDimension.validate (d : QuotaDimension) : Validation Unit := do
  requireField (∀ v ∈ d.value, 0 < v) "value"
  requireValue (d.status = .known → d.value ≠ none) "a known quota dimension requires a value"
  requireValue (d.status ≠ .known → d.value = none)
    "only a known quota dimension may carry a value"

/-- One real shared upstream quota boundary. -/
structure ProviderAccount where
  accountId : AccountId
  displayName : String
  connection : String := ""
  providerToken : String := ""
  bindingRef : String := ""
  credentialFingerprint : Option String := none
  credentialEpoch : Option Nat := none
  parallelLimit : QuotaDimension
  localParallelCeiling : Nat
  rpmLimit : QuotaDimension
  rpmWindowSeconds : Nat
  tpmLimit : QuotaDimension
  tpmWindowSeconds : Nat
  monthlyQuotaUnits : QuotaDimension
  quotaUnitsPerAttempt : Nat
  monthlyResetAtMs : Option Nat := none
  state : Option AccountState := none
  deriving DecidableEq

namespace ProviderAccount

/-- Parallel capacity measured, every other dimension measured or attested absent. -/
def fullyAttested (a : ProviderAccount) : Bool :=
  a.parallelLimit.status == .known &&
    [a.rpmLimit, a.tpmLimit, a.monthlyQuotaUnits].all fun d => d.status != .unknown

/-- Conservative parallel limit; unmeasured accounts serve one at a time. -/
def enforcedMaxInFlight (a : ProviderAccount) : Nat :=
  if a.fullyAttested then min (a.parallelLimit.value.getD 0) a.localParallelCeiling else 1

/-- The triple `(connection, provider_token, binding_ref)`. -/
def binding (a : ProviderAccount) : List String :=
  [a.connection, a.providerToken, a.bindingRef]

/-- `all(binding)`. -/
def bound (a : ProviderAccount) : Bool := a.binding.all fun s => s != ""

/-- Fingerprint and epoch both present. -/
def attestedCredential (a : ProviderAccount) : Bool :=
  a.credentialFingerprint.isSome && a.credentialEpoch.isSome

/-- `_derive_and_guard_state`: what a fully attested account without a state becomes. -/
def derivedState (a : ProviderAccount) : AccountState :=
  if a.bound && a.attestedCredential then .active else .draft

/-- Field constraints. -/
def validateFields (a : ProviderAccount) : Validation Unit := do
  requireField (lengthWithin a.displayName 1 120) "display_name"
  requireField (lengthWithin a.connection 0 256) "connection"
  requireField (lengthWithin a.providerToken 0 256) "provider_token"
  requireField (lengthWithin a.bindingRef 0 256) "binding_ref"
  requireField (∀ f ∈ a.credentialFingerprint, isCredentialFingerprint f = true)
    "credential_fingerprint"
  requireField (∀ e ∈ a.credentialEpoch, 1 ≤ e) "credential_epoch"
  a.parallelLimit.validate
  requireField (1 ≤ a.localParallelCeiling ∧ a.localParallelCeiling ≤ 128)
    "local_parallel_ceiling"
  a.rpmLimit.validate
  requireField (0 < a.rpmWindowSeconds ∧ a.rpmWindowSeconds ≤ 3600) "rpm_window_seconds"
  a.tpmLimit.validate
  requireField (0 < a.tpmWindowSeconds ∧ a.tpmWindowSeconds ≤ 86_400) "tpm_window_seconds"
  a.monthlyQuotaUnits.validate
  requireField (∀ r ∈ a.monthlyResetAtMs, 1 ≤ r) "monthly_reset_at_ms"

/-- The checks of `_derive_and_guard_state` that do not depend on the state. -/
def guardShape (a : ProviderAccount) : Validation Unit := do
  requireValue (a.parallelLimit.status ≠ .attestedAbsent)
    "parallel capacity must be known or unknown, never unbounded"
  requireValue (a.monthlyQuotaUnits.status = .known → a.monthlyResetAtMs ≠ none)
    "a known monthly quota requires an absolute UTC monthly reset"
  requireValue (a.monthlyQuotaUnits.status ≠ .known → a.monthlyResetAtMs = none)
    "monthly reset semantics apply only to a known monthly quota"
  requireValue ((∃ s ∈ a.binding, s ≠ "") → a.bound = true)
    "account binding must be fully populated or fully empty"
  requireValue (a.credentialFingerprint.isSome = a.credentialEpoch.isSome)
    "credential attestation must include fingerprint and epoch"

/-- The checks of `_derive_and_guard_state` on the state of a fully attested account. -/
def guardState (a : ProviderAccount) : Validation Unit := do
  let durable := a.state = some .disabled ∨ a.state = some .tombstoned
  requireValue (a.state = some .active → a.attestedCredential = true)
    "an ACTIVE account requires a complete credential attestation"
  requireValue (a.state = some .active → a.bound = true)
    "an ACTIVE account requires a complete binding"
  requireValue (durable → a.attestedCredential = true)
    "a durable account state requires a complete credential attestation"
  requireValue (durable → a.bound = true)
    "a durable account state requires a complete binding"

/-- Construct an account: constraints, then `_derive_and_guard_state`. -/
def validate (a : ProviderAccount) : Validation ProviderAccount := do
  a.validateFields
  a.guardShape
  if a.fullyAttested then
    a.guardState
    return { a with state := some (a.state.getD a.derivedState) }
  else
    requireValue (a.state = none ∨ a.state = some .draft)
      ("an account with unattested capacity dimensions must stay DRAFT " ++
        "until every dimension is measured or attested absent")
    return { a with state := some .draft }

end ProviderAccount

/-! ## Legs and ceilings -/

/-- Closed serving shape copied into every immutable authorization ceiling. -/
structure LegCapabilities where
  endpoints : List EndpointKind
  modalities : List Modality
  contextTokens : Nat
  tools : Bool
  forcedTool : Bool
  responseSchema : Bool
  streaming : Bool := false
  reasoning : Bool := false
  historyContinuation : Bool := false
  shadow : Bool
  deriving DecidableEq, Repr

namespace LegCapabilities

/-- Field constraints, `_members_unique` and `_forced_tool_requires_tools`. -/
def validate (c : LegCapabilities) : Validation Unit := do
  requireField (c.endpoints ≠ []) "endpoints"
  requireValue c.endpoints.Nodup "duplicate leg capability value"
  requireField (c.modalities ≠ []) "modalities"
  requireValue c.modalities.Nodup "duplicate leg capability value"
  requireField (0 < c.contextTokens) "context_tokens"
  requireValue (c.forcedTool = true → c.tools = true)
    "forced-tool capability requires tool capability"

/-- Componentwise meet; `none` when no endpoint or no modality is shared. -/
def intersection (c other : LegCapabilities) : Option LegCapabilities :=
  let endpoints := c.endpoints.filter (· ∈ other.endpoints)
  let modalities := c.modalities.filter (· ∈ other.modalities)
  if endpoints = [] ∨ modalities = [] then none
  else
    let tools := c.tools && other.tools
    some
      { endpoints, modalities, tools
        contextTokens := min c.contextTokens other.contextTokens
        forcedTool := tools && c.forcedTool && other.forcedTool
        responseSchema := c.responseSchema && other.responseSchema
        streaming := c.streaming && other.streaming
        reasoning := c.reasoning && other.reasoning
        historyContinuation := c.historyContinuation && other.historyContinuation
        shadow := c.shadow || other.shadow }

end LegCapabilities

/-- `(leg_id, account_id, generation_id, order)`. -/
structure LegIdentity where
  legId : RouteLegId
  accountId : AccountId
  generationId : DeploymentGenerationId
  order : Nat
  deriving DecidableEq

/-- Exact per-leg authority. -/
structure AuthorizedLeg where
  legId : RouteLegId
  accountId : AccountId
  generationId : DeploymentGenerationId
  order : Nat
  allowedTriggers : List RouteTrigger
  capabilities : LegCapabilities
  deriving DecidableEq

namespace AuthorizedLeg

/-- Field constraints and `_triggers_unique`. -/
def validate (leg : AuthorizedLeg) : Validation Unit := do
  requireField (1 ≤ leg.order) "order"
  requireField (leg.allowedTriggers ≠ []) "allowed_triggers"
  requireValue leg.allowedTriggers.Nodup "duplicate authorized leg trigger"
  leg.capabilities.validate

def identity (leg : AuthorizedLeg) : LegIdentity :=
  ⟨leg.legId, leg.accountId, leg.generationId, leg.order⟩

/-- Meet of two grants of the same leg. -/
def intersection (leg other : AuthorizedLeg) : Option AuthorizedLeg :=
  if leg.identity = other.identity then
    let triggers := leg.allowedTriggers.filter (· ∈ other.allowedTriggers)
    match leg.capabilities.intersection other.capabilities with
    | some capabilities =>
      if triggers = [] then none
      else some { leg with allowedTriggers := triggers, capabilities }
    | none => none
  else none

/-- The sort key `(order, str(leg_id))`. -/
def sortKey (leg : AuthorizedLeg) : Nat ×ₗ String := toLex (leg.order, leg.legId.text)

end AuthorizedLeg

/-- One ordered candidate leg inside a route group revision. -/
structure RouteLeg where
  legId : RouteLegId
  order : Nat
  triggers : List RouteTrigger
  accountId : AccountId
  generationId : DeploymentGenerationId
  capabilities : LegCapabilities
  deriving DecidableEq

namespace RouteLeg

/-- Field constraints, `_triggers_unique` and `_shadow_is_never_a_serving_mode`. -/
def validate (leg : RouteLeg) : Validation Unit := do
  requireField (1 ≤ leg.order) "order"
  requireField (leg.triggers ≠ []) "triggers"
  requireValue leg.triggers.Nodup "duplicate leg trigger"
  leg.capabilities.validate
  requireValue (leg.capabilities.shadow = decide (RouteTrigger.shadow ∈ leg.triggers))
    "shadow capability and trigger must agree"
  requireValue (RouteTrigger.shadow ∈ leg.triggers → leg.triggers = [.shadow])
    "a shadow leg cannot carry serving triggers"

def identity (leg : RouteLeg) : LegIdentity :=
  ⟨leg.legId, leg.accountId, leg.generationId, leg.order⟩

/-- The sort key `(order, str(leg_id))`. -/
def sortKey (leg : RouteLeg) : Nat ×ₗ String := toLex (leg.order, leg.legId.text)

end RouteLeg

/-- Immutable revision of one client-visible model and its ordered legs. -/
structure RouteGroupRevision where
  routeGroupId : RouteGroupId
  name : String
  strategy : RouteStrategy
  legs : List RouteLeg
  deriving DecidableEq

/-- Field constraints and `_orders_unique_and_normalized`. -/
def RouteGroupRevision.validate (g : RouteGroupRevision) : Validation RouteGroupRevision := do
  requireField (lengthWithin g.name 1 120) "name"
  requireField (g.legs ≠ []) "legs"
  forEach RouteLeg.validate g.legs
  requireValue (g.legs.map RouteLeg.order).Nodup "duplicate RouteLeg.order within route group"
  return { g with legs := sortOn RouteLeg.sortKey g.legs }

/-- One complete immutable policy revision bound to client keys. -/
structure KeyPolicyRevision where
  policyId : PolicyRevisionId
  name : String
  routeGroupIds : List RouteGroupId
  authorizedLegs : List AuthorizedLeg
  queueTier : Nat
  queueWeight : Nat
  maxConcurrency : Nat
  maxWaiters : Nat
  deadlineMs : Nat
  deriving DecidableEq

/-- Field constraints, `_route_groups_unique` and `_authorized_legs_unique`. -/
def KeyPolicyRevision.validate (p : KeyPolicyRevision) : Validation KeyPolicyRevision := do
  requireField (lengthWithin p.name 1 120) "name"
  requireField (p.routeGroupIds ≠ []) "route_group_ids"
  requireValue p.routeGroupIds.Nodup "duplicate policy route group"
  requireField (p.authorizedLegs ≠ []) "authorized_legs"
  forEach AuthorizedLeg.validate p.authorizedLegs
  requireValue (p.authorizedLegs.map AuthorizedLeg.legId).Nodup "duplicate policy authorized leg"
  requireField (1 ≤ p.queueWeight ∧ p.queueWeight ≤ 64) "queue_weight"
  requireField (1 ≤ p.maxConcurrency) "max_concurrency"
  requireField (1 ≤ p.deadlineMs ∧ p.deadlineMs ≤ maxDeadlineMs) "deadline_ms"
  return { p with authorizedLegs := sortOn AuthorizedLeg.sortKey p.authorizedLegs }

/-! ## Client keys -/

/-- One credential verifier generation; `secretHex` is `verifier_hex` of a canonical verifier
and `fingerprint_hex` of a legacy one. -/
structure CredentialVerifier where
  generation : Nat
  secretHex : String
  pepperVersion : String
  notBeforeS : Nat
  notAfterS : Nat
  status : CredentialVerifierStatus
  deriving DecidableEq, Repr

/-- Field constraints and `_valid_window`, the same for both verifier classes; `secretName` is
the name of the class's own hex field. -/
def CredentialVerifier.validate (secretName : String) (v : CredentialVerifier) :
    Validation Unit := do
  requireField (1 ≤ v.generation) "generation"
  requireField (isHex64 v.secretHex = true) secretName
  requireField (isPepperVersion v.pepperVersion = true) "pepper_version"
  requireField (0 < v.notBeforeS) "not_before_s"
  requireField (0 < v.notAfterS) "not_after_s"
  requireValue (v.notBeforeS ≤ v.notAfterS) "credential not_after_s precedes not_before_s"

/-- `ClientCredentialVerifier`. -/
abbrev ClientCredentialVerifier := CredentialVerifier

def ClientCredentialVerifier.validate : ClientCredentialVerifier → Validation Unit :=
  CredentialVerifier.validate "verifier_hex"

/-- `LegacyClientCredentialVerifier`. -/
abbrev LegacyClientCredentialVerifier := CredentialVerifier

def LegacyClientCredentialVerifier.validate : LegacyClientCredentialVerifier → Validation Unit :=
  CredentialVerifier.validate "fingerprint_hex"

/-- One logical client key with at most two generations. -/
structure ClientKeyRecord where
  keyId : String
  policyId : PolicyRevisionId
  state : KeyLifecycleState
  issuedAtS : Nat
  expiresAtS : Nat
  timeHighWaterS : Nat
  generationHighWater : Nat
  credentialVerifiers : List ClientCredentialVerifier := []
  legacyVerifiers : List LegacyClientCredentialVerifier := []
  deriving DecidableEq

namespace ClientKeyRecord

/-- Canonical verifiers, then legacy ones. -/
def verifiers (k : ClientKeyRecord) : List CredentialVerifier :=
  k.credentialVerifiers ++ k.legacyVerifiers

/-- The verifiers still accepted. -/
def accepted (k : ClientKeyRecord) : List CredentialVerifier :=
  k.verifiers.filter fun v => v.status == .active || v.status == .retiring

/-- The active verifiers. -/
def active (k : ClientKeyRecord) : List CredentialVerifier :=
  k.verifiers.filter fun v => v.status == .active

/-- The state or the clock has ended the key. -/
def terminal (k : ClientKeyRecord) : Bool :=
  k.state == .revoked || k.expiresAtS ≤ k.timeHighWaterS

/-- `tuple(generations) == tuple(sorted(generations))`. -/
def generationsIncreasing (vs : List CredentialVerifier) : Prop :=
  vs.map CredentialVerifier.generation = sortOn id (vs.map CredentialVerifier.generation)

instance (vs : List CredentialVerifier) : Decidable (generationsIncreasing vs) :=
  inferInstanceAs (Decidable (_ = _))

/-- Field constraints. -/
def validateFields (k : ClientKeyRecord) : Validation Unit := do
  requireField (isHex32 k.keyId = true) "key_id"
  requireField (0 < k.issuedAtS) "issued_at_s"
  requireField (0 < k.expiresAtS) "expires_at_s"
  requireField (0 < k.timeHighWaterS) "time_high_water_s"
  requireField (1 ≤ k.generationHighWater) "generation_high_water"
  requireField (k.credentialVerifiers.length ≤ 2) "credential_verifiers"
  forEach ClientCredentialVerifier.validate k.credentialVerifiers
  requireField (k.legacyVerifiers.length ≤ 2) "legacy_verifiers"
  forEach LegacyClientCredentialVerifier.validate k.legacyVerifiers

/-- `_valid_lifetime_and_generations`. -/
def validateLifetime (k : ClientKeyRecord) : Validation Unit := do
  requireValue (k.issuedAtS < k.expiresAtS) "client key expiry must follow issuance"
  requireValue (k.expiresAtS - k.issuedAtS ≤ 365 * 86_400)
    "client key lifetime exceeds 365 days"
  requireValue (k.issuedAtS ≤ k.timeHighWaterS) "trusted time high-water precedes issuance"
  requireValue (generationsIncreasing k.credentialVerifiers)
    "canonical credential generations must be increasing"
  requireValue (generationsIncreasing k.legacyVerifiers)
    "legacy credential generations must be increasing"
  let generations := k.verifiers.map CredentialVerifier.generation
  requireValue (k.verifiers ≠ []) "client key requires at least one credential verifier"
  requireValue (k.verifiers.length ≤ 2 ∧ generations.Nodup)
    "credential generations must be unique and bounded to two"
  requireValue (generations.max? = some k.generationHighWater)
    "generation high-water must equal the newest verifier generation"
  requireValue (∀ v ∈ k.verifiers, k.issuedAtS ≤ v.notBeforeS ∧ v.notAfterS ≤ k.expiresAtS)
    "credential window must stay within logical key lifetime"
  requireValue (k.accepted.length ≤ 2) "at most two credential generations may be accepted"
  requireValue (k.terminal = true → k.accepted = [])
    "terminal key cannot retain accepted credential generations"
  requireValue
    (k.terminal = false →
      k.active.map CredentialVerifier.generation = [k.generationHighWater])
    "nonterminal key requires one active newest credential generation"

def validate (k : ClientKeyRecord) : Validation Unit := do
  k.validateFields
  k.validateLifetime

end ClientKeyRecord

end LlmMaxxing
