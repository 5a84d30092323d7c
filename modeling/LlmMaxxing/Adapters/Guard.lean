import LlmMaxxing.Adapters.Discovery

/-!
# The deployment guard (`deploy/litellm/llmmaxxing_guard.py`)

The guard runs inside the backend, before provider I/O. `validatedManifest` is what it accepts as
its manifest; `preCallDeploymentHook` compares the fence of a call, the runtime deployment, the
resolved credential and the deployment's semantics with the manifest. Beside it stand the two
sides of the Gateway that it has to agree with: `buildGuardManifest` (`adapters/litellm/guard.py`)
and `prepareDispatch` (`adapters/litellm/dispatch.py`).

HMAC and the environment are parameters.
-/

namespace LlmMaxxing.Adapters

open Check

/-- What the guard raises: at configuration, for a call, or by misuse of a value. -/
inductive GuardFault where
  | configuration (message : String)
  | violation (message : String)
  | unknownFields (label : String) (names : List String)
  | missingFields (label : String) (names : List String)
  | projectionMismatch (names : List String)
  | typeError
  deriving DecidableEq, Repr

/-- The value, where there is one. -/
def orRaise {α : Type} (e : GuardFault) : Option α → Except GuardFault α
  | some a => .ok a
  | none => .error e

/-! ## Tables -/

/-- `_CERTIFIED_EXECUTION_FIELDS`. -/
def certifiedExecutionFields : List String := [
  "custom_llm_provider", "model", "api_base", "api_version", "api_path", "region_name", "project",
  "organization", "deployment_name", "base_model", "allow_client_keepalive_override",
  "merge_reasoning_content_in_choices", "use_in_pass_through", "use_litellm_proxy",
  "use_xai_oauth", "vertex_project", "vertex_location"]

def deploymentFields : List String :=
  ["runtime_id", "generation_id", "credential_field", "projection"]

def projectionFields : List String := [
  "contract_id", "hidden_alias", "mode", "execution", "capabilities", "context", "defaults",
  "pricing", "account_id", "account_binding", "credential_fingerprint", "credential_epoch"]

/-- `_require_exact_keys`. -/
def requireExactKeys (o : Object) (expected : List String) (label : String) :
    Except GuardFault Unit := do
  let unknown := (o.map Prod.fst).filter fun name => name ∉ expected
  let missing := expected.filter fun name => name ∉ o.map Prod.fst
  require (unknown = []) (.unknownFields label (sortOn id unknown))
  require (missing = []) (.missingFields label (sortOn id missing))

/-- A `str` that starts with `lead` and has the given length. -/
def isTextOf (lead : String) (length : Nat) (v : PyValue) : Bool :=
  match v with
  | .str s => lead.toList.isPrefixOf s.toList && s.toList.length == length
  | _ => false

/-- A `dict`. -/
def isDict (v : PyValue) : Bool := (asDict? v).isSome

/-- The semantic projection of one manifest entry. -/
def checkProjection (contractId : PyValue) (name : String) (projection : Object) :
    Except GuardFault Unit := do
  requireExactKeys projection projectionFields "guard semantic projection"
  require ((field projection "contract_id").eq contractId = true ∧
      (field projection "hidden_alias").eq (.str name) = true)
    (.configuration "guard semantic projection identity mismatch")
  require ((asText? (field projection "mode")).isSome = true)
    (.configuration "guard semantic projection mode is malformed")
  forEach (fun name => require (isDict (field projection name) = true)
      (.configuration s!"guard semantic projection {name} is malformed"))
    ["execution", "capabilities", "context", "defaults", "pricing"]
  require ((asDict? (field projection "execution")).any (fun o => !o.isEmpty) = true)
    (.configuration "guard execution projection is empty")
  require ((asStr? (field projection "account_id")).any (fun s => "acc_".toList.isPrefixOf s.toList)
      = true) (.configuration "guard account id is malformed")
  require ((asText? (field projection "account_binding")).isSome = true)
    (.configuration "guard account binding is empty")
  require (isTextOf "hcf1_" 69 (field projection "credential_fingerprint") = true)
    (.configuration "guard credential fingerprint is malformed")
  require ((asInt? (field projection "credential_epoch")).any (fun n => decide (1 ≤ n)) = true)
    (.configuration "guard credential epoch is malformed")

/-- One entry of the manifest. -/
def checkEntry (contractId : PyValue) (entry : String × PyValue) : Except GuardFault Unit := do
  require (entry.1 ≠ "" ∧ isDict entry.2 = true)
    (.configuration "guard deployment entry is malformed")
  let record := (asDict? entry.2).getD []
  requireExactKeys record deploymentFields "guard deployment"
  require ((asText? (field record "runtime_id")).isSome = true)
    (.configuration "guard runtime id is malformed")
  require (isTextOf "dg1_" 68 (field record "generation_id") = true)
    (.configuration "guard generation id is malformed")
  require ((asText? (field record "credential_field")).isSome = true)
    (.configuration "guard credential field is empty")
  let projection ← orRaise (.configuration "guard semantic projection is malformed")
    (asDict? (field record "projection"))
  checkProjection contractId entry.1 projection

/-- The mappings under `metadata` and `litellm_metadata`. -/
def callMetadata (kwargs : Object) : List Object :=
  ["metadata", "litellm_metadata"].filterMap fun name => asDict? (field kwargs name)

/-- `_metadata`: the fence, which must not be ambiguous. -/
def callFence (kwargs : Object) : Except GuardFault Object :=
  match (callMetadata kwargs).filterMap fun o => asDict? (field o "llmmaxxing_guard") with
  | [] => .error (.violation "server-side guard fence is required")
  | first :: rest => do
    require (∀ fence ∈ rest, (PyValue.dict fence).eq (.dict first) = true)
      (.violation "server-side guard fence is ambiguous")
    return first

/-- `_model_group`. -/
def modelGroup (kwargs : Object) : Except GuardFault String :=
  match ((callMetadata kwargs).filterMap fun o => asStr? (field o "model_group")).dedup with
  | [name] => .ok name
  | _ => .error (.violation "selected hidden alias is missing or ambiguous")

/-- `_model_info`. -/
def modelInfo (kwargs : Object) : Except GuardFault Object :=
  match asDict? (field kwargs "model_info") with
  | some direct => .ok direct
  | none => orRaise (.violation "selected deployment runtime metadata is missing")
    (["litellm_metadata", "metadata"].findSome? fun name =>
      (asDict? (field kwargs name)).bind fun o => asDict? (field o "model_info"))

/-- `_resolved_credential`. -/
def resolvedCredential (environ : String → Option String) (value : PyValue) :
    Except GuardFault String := do
  let value ← match value with
    | .list _ | .tuple _ | .dict _ =>
      .error (.violation "dynamic credential-list forms are unsupported")
    | .secret v => .ok v
    | v => .ok v
  let text ← orRaise (.violation "resolved provider credential is missing") (asText? value)
  if "os.environ/".toList.isPrefixOf text.toList then
    orRaise (.violation "resolved provider credential environment reference is missing")
      ((environ (String.ofList (text.toList.drop "os.environ/".length))).filter (· ≠ ""))
  else return text

/-- What the selected deployment attests of itself. -/
structure Attestation where
  account : Object
  credential : Object
  capabilities : Object
  context : Object
  defaults : Object
  pricing : Object

/-- The attestation in the runtime metadata. -/
def attestationOf (info : Object) : Except GuardFault Attestation := do
  let attestation ← orRaise (.violation "selected deployment attestation is missing")
    (asDict? (field info "llmmaxxing"))
  let account ← orRaise
    (.violation "selected deployment account or credential attestation is missing")
    (asDict? (field attestation "account"))
  let credential ← orRaise
    (.violation "selected deployment account or credential attestation is missing")
    (asDict? (field attestation "credential"))
  let semantics (name : String) : Except GuardFault Object :=
    orRaise (.violation s!"selected deployment {name} attestation is missing")
      (asDict? (field attestation name))
  let capabilities ← semantics "capabilities"
  let context ← semantics "context"
  let defaults ← semantics "defaults"
  let pricing ← semantics "pricing"
  return { account, credential, capabilities, context, defaults, pricing }

/-- The certified execution fields of the call. -/
def currentExecution (kwargs : Object) : Object :=
  certifiedExecutionFields.filterMap fun name =>
    (Dict.lookup name kwargs).map fun v => (name, v)

/-- `current_projection`. -/
def currentProjection (kwargs : Object) (contractId : PyValue) (name : String) (info : Object)
    (a : Attestation) (fingerprint : String) : Object := [
  ("contract_id", contractId),
  ("hidden_alias", .str name),
  ("mode", field info "mode"),
  ("execution", .dict (currentExecution kwargs)),
  ("capabilities", .dict a.capabilities),
  ("context", .dict a.context),
  ("defaults", .dict a.defaults),
  ("pricing", .dict a.pricing),
  ("account_id", field a.account "id"),
  ("account_binding", field a.account "binding"),
  ("credential_fingerprint", .str fingerprint),
  ("credential_epoch", field a.credential "epoch")]

section Hook

variable (hmac : String → HexDigest) (environ : String → Option String)

/-- `credential_fingerprint`, for the key of the guard. -/
def credentialFingerprint (credential : String) : String := "hcf1_" ++ (hmac credential).1

end Hook

/-! ## The manifest of a snapshot -/

section Gateway

variable (F : PyValue.FloatText) (sha256 : Json.Bytes → HexDigest)

/-- `PreparedDispatch`, the fields that are not copied from the endpoint. -/
structure PreparedDispatch where
  endpoint : CertifiedEndpoint
  hiddenAlias : String
  expectedDeploymentId : String
  generationId : String
  backendManifest : String
  trustedMetadata : Object

end Gateway

end LlmMaxxing.Adapters
