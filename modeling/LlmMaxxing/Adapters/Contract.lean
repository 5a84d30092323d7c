import LlmMaxxing.Core.Ids
import LlmMaxxing.Lib.PyValue

/-!
# The certified LiteLLM contract (`adapters/litellm/contract.py`)

The records of the one certified build: what of the contract discovery, the guard manifest and
dispatch read, the deployments a discovery finds, their semantic projection and its generation
id, and the manifest revision (`adapters/litellm/guard.py`). SHA-256 is a parameter: the hex
digest of some bytes.
-/

namespace LlmMaxxing.Adapters

/-- A JSON object. -/
abbrev Object := List (String × PyValue)

/-! ## Patterns -/

/-- `\s`: the characters with the `White_Space` property. -/
def isBlank (c : Char) : Bool :=
  let n := c.toNat
  (9 ≤ n && n ≤ 13) || n == 0x20 || n == 0x85 || n == 0xa0 || n == 0x1680 ||
    (0x2000 ≤ n && n ≤ 0x200a) || n == 0x2028 || n == 0x2029 || n == 0x202f || n == 0x205f ||
    n == 0x3000

/-- `^[^/\s]+/[^/\s]+$`. -/
def isQualified (name : String) : Bool :=
  let cs := name.toList
  let plain (part : List Char) := !part.isEmpty && part.all fun c => c != '/' && !isBlank c
  let head := cs.takeWhile (· != '/')
  plain head && (cs.drop head.length).head? == some '/' && plain (cs.drop (head.length + 1))

/-- `^<lead>[0-9a-f]{64}$`. -/
def isTagged (lead text : String) : Bool :=
  lead.toList.isPrefixOf text.toList && isHexOfLength 64 (text.toList.drop lead.toList.length)

/-! ## The contract -/

/-- `ExactLiteLLMBuild`. -/
structure ExactLiteLLMBuild where
  version : String
  image : String
  sourceCommit : String
  sourceFiles : Dict String String

/-- `DiscoveryContract`. -/
structure DiscoveryContract where
  readinessPath : String
  callbacksPath : String
  modelInfoPath : String
  modelsPath : String
  pageSize : Nat
  modelsQuery : Dict String String
  pageSize_pos : 1 ≤ pageSize

/-- Where a request names its model: `json.model` or `multipart.model`. -/
inductive ModelLocator where
  | json
  | multipart
  deriving DecidableEq, Repr

/-- `CertifiedEndpoint`, the fields that ingress and dispatch read. -/
structure CertifiedEndpoint where
  name : String
  path : String
  modelLocator : ModelLocator
  deriving DecidableEq

/-- The one method. -/
def CertifiedEndpoint.method (_ : CertifiedEndpoint) : String := "POST"

/-- `AdapterContract`, without the service keys, the router requirements and the denial probes,
which neither discovery nor the guard reads. `guardDigest` is `guard.digest`. -/
structure AdapterContract where
  litellm : ExactLiteLLMBuild
  guardDigest : String
  discovery : DiscoveryContract
  knownLitellmParams : List String
  knownExecutionFields : List String
  endpoints : List CertifiedEndpoint
  guardDigest_shape : isTagged "sha256:" guardDigest = true

/-- The one contract id. -/
def AdapterContract.contractId : String := "litellm-1.98.0"

/-- `GuardContract.active_callback_identity`. -/
def AdapterContract.activeCallbackIdentity (c : AdapterContract) : String :=
  "llmmaxxing_guard@" ++ c.guardDigest

/-- `AdapterContract.endpoint`: the first endpoint of that name. -/
def AdapterContract.endpoint (c : AdapterContract) (name : String) : Option CertifiedEndpoint :=
  c.endpoints.find? fun e => e.name = name

/-- The certified contract (`compatibility/litellm-1.98.0.yaml`). -/
def certifiedContract : AdapterContract where
  litellm := {
    version := "1.98.0"
    image := "ghcr.io/berriai/litellm@sha256:" ++
      "20b5044b619055374061a6d5b7b08754cad75aeabbf82ddf4f69cc0cf80ddaf4"
    sourceCommit := "d8f71d7bdbd7c9873d98293f83d64c6db72847e6"
    sourceFiles := ⟨[
      ("litellm/proxy/anthropic_endpoints/endpoints.py",
        "sha256:953fd83edd62e1fe502c6481107ba4afa04280e121ac9ffce986632908137790"),
      ("litellm/proxy/auth/route_checks.py",
        "sha256:4842bf096e877547e88492b772b03a8eb5dd579485b4e934ba052c886967758e"),
      ("litellm/utils.py",
        "sha256:8ea48e3ac4558b4de5450d01c2fa572eb90a33ad06f15249ea3ace47e1d8e71c"),
      ("litellm/proxy/response_api_endpoints/endpoints.py",
        "sha256:563b462e7c36e729869d0acdc016a54c2e99ec07f70a3f6ea17482b1dbf11e4f")], by decide⟩ }
  guardDigest := "sha256:10d87528541507b5dc44caaa6592dbb9c05017da0e559284eecb6d0d40827005"
  discovery := {
    readinessPath := "/health/readiness/details"
    callbacksPath := "/active/callbacks"
    modelInfoPath := "/v2/model/info"
    modelsPath := "/v1/models"
    pageSize := 1
    modelsQuery := ⟨[("scope", "expand"), ("return_wildcard_routes", "true")], by decide⟩
    pageSize_pos := le_refl 1 }
  knownLitellmParams := [
    "model", "custom_llm_provider", "num_retries", "timeout", "stream_timeout", "api_base",
    "api_version", "api_path", "organization", "project", "region_name", "vertex_project",
    "vertex_location", "allow_client_keepalive_override", "merge_reasoning_content_in_choices",
    "use_in_pass_through", "use_litellm_proxy", "use_xai_oauth"]
  knownExecutionFields := [
    "custom_llm_provider", "model", "api_base", "api_version", "api_path", "region_name",
    "project", "organization", "deployment_name", "base_model",
    "allow_client_keepalive_override", "merge_reasoning_content_in_choices",
    "use_in_pass_through", "use_litellm_proxy", "use_xai_oauth", "vertex_project",
    "vertex_location"]
  endpoints := [
    ⟨"chat", "/v1/chat/completions", .json⟩, ⟨"text", "/v1/completions", .json⟩,
    ⟨"embeddings", "/v1/embeddings", .json⟩, ⟨"rerank", "/v1/rerank", .json⟩,
    ⟨"audio_speech", "/v1/audio/speech", .json⟩,
    ⟨"audio_transcription", "/v1/audio/transcriptions", .multipart⟩,
    ⟨"image", "/v1/images/generations", .json⟩]
  guardDigest_shape := by decide +kernel

/-! ## Deployments -/

/-- The fields of an `EffectiveDeployment`. -/
structure DeploymentFields where
  runtimeId : String
  hiddenAlias : String
  mode : String
  execution : Object
  capabilities : Object
  context : Object
  defaults : Object
  pricing : Object
  accountId : TypedId .account
  accountBinding : String
  credentialField : String
  credentialFingerprint : String
  credentialEpoch : Int

/-- The constraints of an `EffectiveDeployment` on its fields. -/
structure DeploymentFields.Valid (d : DeploymentFields) : Prop where
  runtimeId : d.runtimeId ≠ ""
  hiddenAlias : isQualified d.hiddenAlias = true
  mode : d.mode ≠ ""
  accountBinding : d.accountBinding ≠ ""
  credentialField : d.credentialField ≠ ""
  credentialFingerprint : isTagged "hcf1_" d.credentialFingerprint = true
  credentialEpoch : 1 ≤ d.credentialEpoch

instance (d : DeploymentFields) : Decidable d.Valid :=
  decidable_of_iff (d.runtimeId ≠ "" ∧ isQualified d.hiddenAlias = true ∧ d.mode ≠ "" ∧
      d.accountBinding ≠ "" ∧ d.credentialField ≠ "" ∧
      isTagged "hcf1_" d.credentialFingerprint = true ∧ 1 ≤ d.credentialEpoch)
    ⟨fun ⟨h₁, h₂, h₃, h₄, h₅, h₆, h₇⟩ => ⟨h₁, h₂, h₃, h₄, h₅, h₆, h₇⟩,
      fun h => ⟨h.1, h.2, h.3, h.4, h.5, h.6, h.7⟩⟩

/-- `EffectiveDeployment`. -/
structure EffectiveDeployment extends DeploymentFields where
  valid : toDeploymentFields.Valid

/-! ## Generations and revisions -/

/-- A lowercase SHA-256 hex digest. -/
abbrev HexDigest := { s : String // isHexOfLength 64 s.toList = true }

/-- `DeploymentGenerationProjection(...).model_dump(mode="json")`: the deployment without its
runtime id and its credential field. -/
def DeploymentFields.projection (d : DeploymentFields) : Object := [
  ("contract_id", .str AdapterContract.contractId),
  ("hidden_alias", .str d.hiddenAlias),
  ("mode", .str d.mode),
  ("execution", .dict d.execution),
  ("capabilities", .dict d.capabilities),
  ("context", .dict d.context),
  ("defaults", .dict d.defaults),
  ("pricing", .dict d.pricing),
  ("account_id", .str d.accountId.text),
  ("account_binding", .str d.accountBinding),
  ("credential_fingerprint", .str d.credentialFingerprint),
  ("credential_epoch", .int d.credentialEpoch)]

/-- `contract.litellm.model_dump(mode="json")`. -/
def ExactLiteLLMBuild.dump (b : ExactLiteLLMBuild) : PyValue := .dict [
  ("version", .str b.version),
  ("image", .str b.image),
  ("source_commit", .str b.sourceCommit),
  ("source_files", .dict (b.sourceFiles.entries.map fun q => (q.1, .str q.2)))]

section Digests

variable (F : PyValue.FloatText) (sha256 : Json.Bytes → HexDigest)

/-- `deployment_generation(row, contract).generation_id`; `none` where the projection has no
canonical JSON. -/
def deploymentGeneration (d : EffectiveDeployment) : Option String :=
  ((PyValue.dict d.projection).canonicalBytes F).map fun b => "dg1_" ++ (sha256 b).1

end Digests

/-! ## Snapshots -/

/-- `BuildProbe`. -/
structure BuildProbe where
  contractId : String
  observedVersion : String
  certifiedImage : String
  sourceCommit : String
  guardIdentity : String

/-- `CatalogModel`. -/
structure CatalogModel where
  id : String
  ownedBy : String

/-- `DiscoverySnapshot`. -/
structure DiscoverySnapshot where
  probe : BuildProbe
  deployments : List EffectiveDeployment
  catalog : List CatalogModel
  manifestRevision : String

end LlmMaxxing.Adapters
