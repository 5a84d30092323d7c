import LlmMaxxing.Core.Bundle
import LlmMaxxing.Lib.JsonCodec

/-!
# Bundles as JSON (`core/models.py`, `model_dump` and `model_validate`)

One codec per record, with the source's field names and defaults. Decoding takes the JSON types
that a dump produces; the coercions the validation library makes from other JSON types
(a numeral in a string, say) are not modelled: their result never has the canonical bytes it
was read from, so the decode-and-recompare step refuses it either way.

Decoding builds the record; `validate` is run on the result.
-/

namespace LlmMaxxing

open JsonCodec

namespace Codec

/-! ## Scalars of the model -/

def wrongType : ValidationError := .value "wrong JSON type"

def nat : JsonCodec ValidationError Nat := JsonCodec.nat wrongType

def string : JsonCodec ValidationError String := JsonCodec.string wrongType

def bool : JsonCodec ValidationError Bool := JsonCodec.bool wrongType

def enum (α : Type) [StrEnum α] : JsonCodec ValidationError α := JsonCodec.enum wrongType

def id (k : IdKind) : JsonCodec ValidationError (TypedId k) :=
  JsonCodec.text wrongType TypedId.text (TypedId.ofString? k) TypedId.ofString?_text

def list {α : Type} (c : JsonCodec ValidationError α) : JsonCodec ValidationError (List α) :=
  JsonCodec.list wrongType c

def optNat : JsonCodec ValidationError (Option Nat) :=
  nullable nat (neNull_nat wrongType)

def optString : JsonCodec ValidationError (Option String) :=
  nullable string (neNull_string wrongType)

def optEnum (α : Type) [StrEnum α] : JsonCodec ValidationError (Option α) :=
  nullable (enum α) (neNull_enum wrongType)

/-- `required` with the model's error for a missing field. -/
def need {α : Type} (c : JsonCodec ValidationError α) (name : String) (get : Members) :
    Validation α :=
  required c .field name get

/-! ## Records -/

/-- `QuotaDimension`. -/
def quotaDimension : JsonCodec ValidationError QuotaDimension :=
  record wrongType .field
    ["status", "value"]
    (fun x =>
      [("status", (enum _).enc x.status), ("value", optNat.enc x.value)])
    (fun get => do
      let status ← need (enum _) "status" get
      let value ← defaulted optNat none "value" get
      return ⟨status, value⟩)
    (fun _ => rfl) (by decide) (fun _ => by simp [Dict.lookup, need, required, defaulted])
    (fun _ => by simp)

/-- `ProviderAccount`. -/
def providerAccount : JsonCodec ValidationError ProviderAccount :=
  record wrongType .field
    ["account_id", "display_name", "connection", "provider_token", "binding_ref",
      "credential_fingerprint", "credential_epoch", "parallel_limit", "local_parallel_ceiling",
      "rpm_limit", "rpm_window_seconds", "tpm_limit", "tpm_window_seconds", "monthly_quota_units",
      "quota_units_per_attempt", "monthly_reset_at_ms", "state"]
    (fun x =>
      [("account_id", (id _).enc x.accountId), ("display_name", string.enc x.displayName),
        ("connection", string.enc x.connection), ("provider_token", string.enc x.providerToken),
        ("binding_ref", string.enc x.bindingRef),
        ("credential_fingerprint", optString.enc x.credentialFingerprint),
        ("credential_epoch", optNat.enc x.credentialEpoch),
        ("parallel_limit", quotaDimension.enc x.parallelLimit),
        ("local_parallel_ceiling", nat.enc x.localParallelCeiling),
        ("rpm_limit", quotaDimension.enc x.rpmLimit),
        ("rpm_window_seconds", nat.enc x.rpmWindowSeconds),
        ("tpm_limit", quotaDimension.enc x.tpmLimit),
        ("tpm_window_seconds", nat.enc x.tpmWindowSeconds),
        ("monthly_quota_units", quotaDimension.enc x.monthlyQuotaUnits),
        ("quota_units_per_attempt", nat.enc x.quotaUnitsPerAttempt),
        ("monthly_reset_at_ms", optNat.enc x.monthlyResetAtMs),
        ("state", (optEnum _).enc x.state)])
    (fun get => do
      let accountId ← need (id _) "account_id" get
      let displayName ← need string "display_name" get
      let connection ← defaulted string "" "connection" get
      let providerToken ← defaulted string "" "provider_token" get
      let bindingRef ← defaulted string "" "binding_ref" get
      let credentialFingerprint ← defaulted optString none "credential_fingerprint" get
      let credentialEpoch ← defaulted optNat none "credential_epoch" get
      let parallelLimit ← need quotaDimension "parallel_limit" get
      let localParallelCeiling ← need nat "local_parallel_ceiling" get
      let rpmLimit ← need quotaDimension "rpm_limit" get
      let rpmWindowSeconds ← need nat "rpm_window_seconds" get
      let tpmLimit ← need quotaDimension "tpm_limit" get
      let tpmWindowSeconds ← need nat "tpm_window_seconds" get
      let monthlyQuotaUnits ← need quotaDimension "monthly_quota_units" get
      let quotaUnitsPerAttempt ← need nat "quota_units_per_attempt" get
      let monthlyResetAtMs ← defaulted optNat none "monthly_reset_at_ms" get
      let state ← defaulted (optEnum _) none "state" get
      return ⟨accountId, displayName, connection, providerToken, bindingRef,
        credentialFingerprint, credentialEpoch, parallelLimit, localParallelCeiling, rpmLimit,
        rpmWindowSeconds, tpmLimit, tpmWindowSeconds, monthlyQuotaUnits, quotaUnitsPerAttempt,
        monthlyResetAtMs, state⟩)
    (fun _ => rfl) (by decide) (fun _ => by simp [Dict.lookup, need, required, defaulted])
    (fun _ => by simp)

/-- `LegCapabilities`. -/
def legCapabilities : JsonCodec ValidationError LegCapabilities :=
  record wrongType .field
    ["endpoints", "modalities", "context_tokens", "tools", "forced_tool", "response_schema",
      "streaming", "reasoning", "history_continuation", "shadow"]
    (fun x =>
      [("endpoints", (list (enum _)).enc x.endpoints),
        ("modalities", (list (enum _)).enc x.modalities),
        ("context_tokens", nat.enc x.contextTokens), ("tools", bool.enc x.tools),
        ("forced_tool", bool.enc x.forcedTool), ("response_schema", bool.enc x.responseSchema),
        ("streaming", bool.enc x.streaming), ("reasoning", bool.enc x.reasoning),
        ("history_continuation", bool.enc x.historyContinuation), ("shadow", bool.enc x.shadow)])
    (fun get => do
      let endpoints ← need (list (enum _)) "endpoints" get
      let modalities ← need (list (enum _)) "modalities" get
      let contextTokens ← need nat "context_tokens" get
      let tools ← need bool "tools" get
      let forcedTool ← need bool "forced_tool" get
      let responseSchema ← need bool "response_schema" get
      let streaming ← defaulted bool false "streaming" get
      let reasoning ← defaulted bool false "reasoning" get
      let historyContinuation ← defaulted bool false "history_continuation" get
      let shadow ← need bool "shadow" get
      return ⟨endpoints, modalities, contextTokens, tools, forcedTool, responseSchema, streaming,
        reasoning, historyContinuation, shadow⟩)
    (fun _ => rfl) (by decide) (fun _ => by simp [Dict.lookup, need, required, defaulted])
    (fun _ => by simp)

/-- `AuthorizedLeg`. -/
def authorizedLeg : JsonCodec ValidationError AuthorizedLeg :=
  record wrongType .field
    ["leg_id", "account_id", "generation_id", "order", "allowed_triggers", "capabilities"]
    (fun x =>
      [("leg_id", (id _).enc x.legId), ("account_id", (id _).enc x.accountId),
        ("generation_id", (id _).enc x.generationId), ("order", nat.enc x.order),
        ("allowed_triggers", (list (enum _)).enc x.allowedTriggers),
        ("capabilities", legCapabilities.enc x.capabilities)])
    (fun get => do
      let legId ← need (id _) "leg_id" get
      let accountId ← need (id _) "account_id" get
      let generationId ← need (id _) "generation_id" get
      let order ← need nat "order" get
      let allowedTriggers ← need (list (enum _)) "allowed_triggers" get
      let capabilities ← need legCapabilities "capabilities" get
      return ⟨legId, accountId, generationId, order, allowedTriggers, capabilities⟩)
    (fun _ => rfl) (by decide) (fun _ => by simp [Dict.lookup, need, required])
    (fun _ => by simp)

/-- `RouteLeg`. -/
def routeLeg : JsonCodec ValidationError RouteLeg :=
  record wrongType .field
    ["leg_id", "order", "triggers", "account_id", "generation_id", "capabilities"]
    (fun x =>
      [("leg_id", (id _).enc x.legId), ("order", nat.enc x.order),
        ("triggers", (list (enum _)).enc x.triggers), ("account_id", (id _).enc x.accountId),
        ("generation_id", (id _).enc x.generationId),
        ("capabilities", legCapabilities.enc x.capabilities)])
    (fun get => do
      let legId ← need (id _) "leg_id" get
      let order ← need nat "order" get
      let triggers ← need (list (enum _)) "triggers" get
      let accountId ← need (id _) "account_id" get
      let generationId ← need (id _) "generation_id" get
      let capabilities ← need legCapabilities "capabilities" get
      return ⟨legId, order, triggers, accountId, generationId, capabilities⟩)
    (fun _ => rfl) (by decide) (fun _ => by simp [Dict.lookup, need, required])
    (fun _ => by simp)

/-- `RouteGroupRevision`. -/
def routeGroupRevision : JsonCodec ValidationError RouteGroupRevision :=
  record wrongType .field
    ["route_group_id", "name", "strategy", "legs"]
    (fun x =>
      [("route_group_id", (id _).enc x.routeGroupId), ("name", string.enc x.name),
        ("strategy", (enum _).enc x.strategy), ("legs", (list routeLeg).enc x.legs)])
    (fun get => do
      let routeGroupId ← need (id _) "route_group_id" get
      let name ← need string "name" get
      let strategy ← need (enum _) "strategy" get
      let legs ← need (list routeLeg) "legs" get
      return ⟨routeGroupId, name, strategy, legs⟩)
    (fun _ => rfl) (by decide) (fun _ => by simp [Dict.lookup, need, required])
    (fun _ => by simp)

/-- `KeyPolicyRevision`. -/
def keyPolicyRevision : JsonCodec ValidationError KeyPolicyRevision :=
  record wrongType .field
    ["policy_id", "name", "route_group_ids", "authorized_legs", "queue_tier", "queue_weight",
      "max_concurrency", "max_waiters", "deadline_ms"]
    (fun x =>
      [("policy_id", (id _).enc x.policyId), ("name", string.enc x.name),
        ("route_group_ids", (list (id _)).enc x.routeGroupIds),
        ("authorized_legs", (list authorizedLeg).enc x.authorizedLegs),
        ("queue_tier", nat.enc x.queueTier), ("queue_weight", nat.enc x.queueWeight),
        ("max_concurrency", nat.enc x.maxConcurrency), ("max_waiters", nat.enc x.maxWaiters),
        ("deadline_ms", nat.enc x.deadlineMs)])
    (fun get => do
      let policyId ← need (id _) "policy_id" get
      let name ← need string "name" get
      let routeGroupIds ← need (list (id _)) "route_group_ids" get
      let authorizedLegs ← need (list authorizedLeg) "authorized_legs" get
      let queueTier ← need nat "queue_tier" get
      let queueWeight ← need nat "queue_weight" get
      let maxConcurrency ← need nat "max_concurrency" get
      let maxWaiters ← need nat "max_waiters" get
      let deadlineMs ← need nat "deadline_ms" get
      return ⟨policyId, name, routeGroupIds, authorizedLegs, queueTier, queueWeight,
        maxConcurrency, maxWaiters, deadlineMs⟩)
    (fun _ => rfl) (by decide) (fun _ => by simp [Dict.lookup, need, required])
    (fun _ => by simp)

/-- `ClientCredentialVerifier`. -/
def clientCredentialVerifier : JsonCodec ValidationError ClientCredentialVerifier :=
  record wrongType .field
    ["generation", "verifier_hex", "pepper_version", "not_before_s", "not_after_s", "status"]
    (fun x =>
      [("generation", nat.enc x.generation), ("verifier_hex", string.enc x.secretHex),
        ("pepper_version", string.enc x.pepperVersion), ("not_before_s", nat.enc x.notBeforeS),
        ("not_after_s", nat.enc x.notAfterS), ("status", (enum _).enc x.status)])
    (fun get => do
      let generation ← need nat "generation" get
      let secretHex ← need string "verifier_hex" get
      let pepperVersion ← need string "pepper_version" get
      let notBeforeS ← need nat "not_before_s" get
      let notAfterS ← need nat "not_after_s" get
      let status ← need (enum _) "status" get
      return ⟨generation, secretHex, pepperVersion, notBeforeS, notAfterS, status⟩)
    (fun _ => rfl) (by decide) (fun _ => by simp [Dict.lookup, need, required])
    (fun _ => by simp)

/-- `LegacyClientCredentialVerifier`. -/
def legacyClientCredentialVerifier : JsonCodec ValidationError LegacyClientCredentialVerifier :=
  record wrongType .field
    ["generation", "fingerprint_hex", "pepper_version", "not_before_s", "not_after_s", "status"]
    (fun x =>
      [("generation", nat.enc x.generation), ("fingerprint_hex", string.enc x.secretHex),
        ("pepper_version", string.enc x.pepperVersion), ("not_before_s", nat.enc x.notBeforeS),
        ("not_after_s", nat.enc x.notAfterS), ("status", (enum _).enc x.status)])
    (fun get => do
      let generation ← need nat "generation" get
      let secretHex ← need string "fingerprint_hex" get
      let pepperVersion ← need string "pepper_version" get
      let notBeforeS ← need nat "not_before_s" get
      let notAfterS ← need nat "not_after_s" get
      let status ← need (enum _) "status" get
      return ⟨generation, secretHex, pepperVersion, notBeforeS, notAfterS, status⟩)
    (fun _ => rfl) (by decide) (fun _ => by simp [Dict.lookup, need, required])
    (fun _ => by simp)

/-- `ClientKeyRecord`. -/
def clientKeyRecord : JsonCodec ValidationError ClientKeyRecord :=
  record wrongType .field
    ["key_id", "policy_id", "state", "issued_at_s", "expires_at_s", "time_high_water_s",
      "generation_high_water", "credential_verifiers", "legacy_verifiers"]
    (fun x =>
      [("key_id", string.enc x.keyId), ("policy_id", (id _).enc x.policyId),
        ("state", (enum _).enc x.state), ("issued_at_s", nat.enc x.issuedAtS),
        ("expires_at_s", nat.enc x.expiresAtS), ("time_high_water_s", nat.enc x.timeHighWaterS),
        ("generation_high_water", nat.enc x.generationHighWater),
        ("credential_verifiers", (list clientCredentialVerifier).enc x.credentialVerifiers),
        ("legacy_verifiers", (list legacyClientCredentialVerifier).enc x.legacyVerifiers)])
    (fun get => do
      let keyId ← need string "key_id" get
      let policyId ← need (id _) "policy_id" get
      let state ← need (enum _) "state" get
      let issuedAtS ← need nat "issued_at_s" get
      let expiresAtS ← need nat "expires_at_s" get
      let timeHighWaterS ← need nat "time_high_water_s" get
      let generationHighWater ← need nat "generation_high_water" get
      let credentialVerifiers ← defaulted (list clientCredentialVerifier) [] "credential_verifiers" get
      let legacyVerifiers ← defaulted (list legacyClientCredentialVerifier) [] "legacy_verifiers" get
      return ⟨keyId, policyId, state, issuedAtS, expiresAtS, timeHighWaterS, generationHighWater,
        credentialVerifiers, legacyVerifiers⟩)
    (fun _ => rfl) (by decide) (fun _ => by simp [Dict.lookup, need, required, defaulted])
    (fun _ => by simp)

/-- `PolicyBundleV1`. -/
def policyBundle : JsonCodec ValidationError PolicyBundleV1 :=
  record wrongType .field
    ["schema_version", "generation", "min_reader", "required_features", "keys", "policies",
      "accounts", "route_groups", "backend_manifest_hash"]
    (fun x =>
      [("schema_version", nat.enc x.schemaVersion), ("generation", nat.enc x.generation),
        ("min_reader", string.enc x.minReader),
        ("required_features", (list (enum _)).enc x.requiredFeatures),
        ("keys", (list clientKeyRecord).enc x.keys),
        ("policies", (list keyPolicyRevision).enc x.policies),
        ("accounts", (list providerAccount).enc x.accounts),
        ("route_groups", (list routeGroupRevision).enc x.routeGroups),
        ("backend_manifest_hash", string.enc x.backendManifestHash)])
    (fun get => do
      let schemaVersion ← need nat "schema_version" get
      let generation ← need nat "generation" get
      let minReader ← need string "min_reader" get
      let requiredFeatures ← need (list (enum _)) "required_features" get
      let keys ← need (list clientKeyRecord) "keys" get
      let policies ← need (list keyPolicyRevision) "policies" get
      let accounts ← need (list providerAccount) "accounts" get
      let routeGroups ← need (list routeGroupRevision) "route_groups" get
      let backendManifestHash ← need string "backend_manifest_hash" get
      return ⟨schemaVersion, generation, minReader, requiredFeatures, keys, policies, accounts,
        routeGroups, backendManifestHash⟩)
    (fun _ => rfl) (by decide) (fun _ => by simp [Dict.lookup, need, required])
    (fun _ => by simp)

end Codec

end LlmMaxxing
