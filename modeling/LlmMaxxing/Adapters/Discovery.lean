import LlmMaxxing.Adapters.Contract
import LlmMaxxing.Lib.Check

/-!
# All-or-nothing discovery (`adapters/litellm/discovery.py`)

`discoverComplete` probes the build, reads the model-info rows page by page, turns every row that
carries `llmmaxxing` metadata into a deployment, checks the aliases and runtime ids, reads the
model catalog and publishes a snapshot. A fault anywhere leaves the published snapshot as it was.

The transport is a function of the request: one discovery makes every request once. The lax
conversions of the metadata's booleans and integers belong to the validation library and are
parameters.
-/

namespace LlmMaxxing.Adapters

open Check

/-- Why a discovery raises. -/
inductive DiscoveryFault where
  | transport
  | status (path : String) (code : Nat)
  | notObject (path : String)
  | discovery (message : String)
  | unknownParams (names : List String)
  | unknownExecution (names : List String)
  | projectionMismatch (field : String)
  | collisions (aliases : List String)
  | validation
  | notCanonical
  deriving DecidableEq, Repr

/-! ## JSON access -/

/-- `o.get(name)`. -/
def field (o : Object) (name : String) : PyValue := (Dict.lookup name o).getD .none

/-- `set(o) == names`. -/
def sameKeys (o : Object) (names : List String) : Bool :=
  o.all (fun q => q.1 ∈ names) && names.all fun name => name ∈ o.map Prod.fst

/-- `isinstance(v, int)`, and the integer. A boolean is one. -/
def asInt? : PyValue → Option Int
  | .int n => some n
  | .bool b => some (if b then 1 else 0)
  | _ => none

def asDict? : PyValue → Option Object
  | .dict o => some o
  | _ => none

def asStr? : PyValue → Option String
  | .str s => some s
  | _ => none

/-- A `str` of length at least one. -/
def asText? (v : PyValue) : Option String := (asStr? v).filter (· ≠ "")

/-! ## Requests -/

/-- A request to the backend. -/
structure Request where
  path : String
  query : List (String × String)
  deriving DecidableEq

/-- `TransportResponse`, without the headers. -/
structure TransportResponse where
  statusCode : Nat
  body : PyValue
  distinct : body.distinct = true

abbrev Transport := Request → Except DiscoveryFault TransportResponse

/-- `_get`. -/
def get (transport : Transport) (path : String) (query : List (String × String)) :
    Except DiscoveryFault Object := do
  let response ← transport ⟨path, query⟩
  require (response.statusCode = 200) (.status path response.statusCode)
  match asDict? response.body with
  | some o => return o
  | none => .error (.notObject path)

/-! ## The probe -/

def readinessFields : List String := [
  "status", "db", "cache", "litellm_version", "success_callbacks", "use_aiohttp_transport",
  "log_level", "is_detailed_debug", "show_no_redis_warning"]

def callbackFields : List String := [
  "alerting", "litellm.callbacks", "litellm.input_callback", "litellm.failure_callback",
  "litellm.success_callback", "litellm._async_success_callback",
  "litellm._async_failure_callback", "litellm._async_input_callback", "all_litellm_callbacks",
  "num_callbacks", "num_alerting", "litellm.request_timeout"]

/-- The guard is registered once, and last. -/
def guardIsLast (identity : String) (callbacks : PyValue) : Bool :=
  match callbacks with
  | .list items =>
    items.countP (fun v => v.eq (.str identity)) == 1 &&
      (items.getLast?.any fun v => v.eq (.str identity))
  | _ => false

/-- `num_callbacks` counts `all_litellm_callbacks`. -/
def countsCallbacks (state : Object) : Bool :=
  match field state "all_litellm_callbacks" with
  | .list all => (field state "num_callbacks").eq (.int all.length)
  | _ => false

/-- `probe`. -/
def probe (contract : AdapterContract) (transport : Transport) :
    Except DiscoveryFault BuildProbe := do
  let readiness ← get transport contract.discovery.readinessPath []
  require (sameKeys readiness readinessFields = true)
    (.discovery "readiness details schema does not match the certified build")
  require ((field readiness "status").eq (.str "healthy") = true ∧
      (field readiness "litellm_version").eq (.str contract.litellm.version) = true)
    (.discovery "LiteLLM build probe mismatch")
  let state ← get transport contract.discovery.callbacksPath []
  require (sameKeys state callbackFields = true)
    (.discovery "active callback schema does not match the certified build")
  require (guardIsLast contract.activeCallbackIdentity (field state "litellm.callbacks") = true)
    (.discovery "certified generation guard is missing, duplicated, or not last")
  require (countsCallbacks state = true) (.discovery "active callback counts are malformed")
  return {
    contractId := AdapterContract.contractId
    observedVersion := contract.litellm.version
    certifiedImage := contract.litellm.image
    sourceCommit := contract.litellm.sourceCommit
    guardIdentity := contract.activeCallbackIdentity }

/-! ## The pages -/

/-- The lax conversions of the validation library. -/
structure Lax where
  bool : PyValue → Option Bool
  int : PyValue → Option Int

/-- `_Metadata`, `_Account`, `_Credential` and `_Routing`, the fields that are read back. -/
structure Metadata where
  execution : Object
  capabilities : Object
  context : Object
  defaults : Object
  pricing : Object
  accountId : TypedId .account
  accountBinding : String
  credentialField : String
  credentialFingerprint : String
  credentialEpoch : Int
  numRetries : Int

/-- An empty `tuple[JsonValue, ...]`. -/
def isEmptyTuple : PyValue → Bool
  | .list [] => true
  | _ => false

/-- `_Account`. -/
def readAccount (v : PyValue) : Option (TypedId .account × String) := do
  let o ← asDict? v
  guard (sameKeys o ["id", "binding"])
  let id ← (asStr? (field o "id")).bind (TypedId.ofString? .account)
  let binding ← asText? (field o "binding")
  return (id, binding)

/-- `_Credential`: a dynamic list is not certified. -/
def readCredential (lax : Lax) (v : PyValue) : Option (String × String × Int) := do
  let o ← asDict? v
  guard (sameKeys o ["field", "fingerprint", "epoch", "dynamic_list"])
  let name ← asText? (field o "field")
  let fingerprint ← (asStr? (field o "fingerprint")).filter fun s => isTagged "hcf1_" s
  let epoch ← (lax.int (field o "epoch")).filter fun n => 1 ≤ n
  let dynamic ← lax.bool (field o "dynamic_list")
  guard !dynamic
  return (name, fingerprint, epoch)

/-- `_Routing`: the Gateway owns retries, fallbacks and cooldowns. -/
def readRouting (lax : Lax) (v : PyValue) : Option Int := do
  let o ← asDict? v
  guard (sameKeys o ["num_retries", "fallbacks", "context_window_fallbacks",
    "content_policy_fallbacks", "cooldown_selection"])
  let retries ← lax.int (field o "num_retries")
  guard (retries = 0)
  guard (isEmptyTuple (field o "fallbacks") && isEmptyTuple (field o "context_window_fallbacks") &&
    isEmptyTuple (field o "content_policy_fallbacks"))
  let cooldown ← lax.bool (field o "cooldown_selection")
  guard !cooldown
  return retries

/-- `_Metadata.model_validate`. -/
def readMetadata (lax : Lax) (v : PyValue) : Option Metadata := do
  let o ← asDict? v
  guard (sameKeys o ["hidden_alias", "execution", "capabilities", "context", "defaults", "pricing",
    "account", "credential", "routing"])
  let hidden ← lax.bool (field o "hidden_alias")
  let execution ← asDict? (field o "execution")
  let capabilities ← asDict? (field o "capabilities")
  let context ← asDict? (field o "context")
  let defaults ← asDict? (field o "defaults")
  let pricing ← asDict? (field o "pricing")
  let (accountId, accountBinding) ← readAccount (field o "account")
  let (credentialField, credentialFingerprint, credentialEpoch) ←
    readCredential lax (field o "credential")
  let numRetries ← readRouting lax (field o "routing")
  guard hidden
  guard !execution.isEmpty
  return {
    execution, capabilities, context, defaults, pricing, accountId, accountBinding,
    credentialField, credentialFingerprint, credentialEpoch, numRetries }

/-! ## Deployments -/

/-- The row carries `llmmaxxing` metadata. -/
def carriesMetadata (raw : Object) : Bool :=
  match field raw "model_info" with
  | .dict info => match field info "llmmaxxing" with
    | .none => false
    | _ => true
  | _ => false

/-- The execution fields of the parameters are those of the metadata. -/
def checkProjected (contract : AdapterContract) (params execution : Object) :
    Except DiscoveryFault Unit :=
  forEach (fun q : String × PyValue =>
    require (q.1 ∈ contract.knownExecutionFields → (field execution q.1).eq q.2 = true)
      (.projectionMismatch q.1)) params

/-- `_Metadata.model_validate(lmx)`. -/
def validMetadata (lax : Lax) (v : PyValue) : Except DiscoveryFault Metadata :=
  match readMetadata lax v with
  | some metadata => .ok metadata
  | none => .error (.discovery "invalid llmmaxxing deployment metadata")

/-- The runtime id and the mode of a row. -/
def runtimeOf (info : Object) : Except DiscoveryFault (String × String) :=
  match asText? (field info "id"), asText? (field info "mode") with
  | some runtimeId, some mode => .ok (runtimeId, mode)
  | _, _ => .error (.discovery "deployment runtime id or mode is missing")

/-- `EffectiveDeployment(...)`. -/
def effectiveDeployment (fields : DeploymentFields) : Except DiscoveryFault EffectiveDeployment :=
  if h : fields.Valid then .ok ⟨fields, h⟩ else .error .validation

/-- `_deployment` of a row that carries metadata. -/
def certifiedDeployment (contract : AdapterContract) (lax : Lax) (hiddenAlias : String)
    (params info : Object) : Except DiscoveryFault EffectiveDeployment := do
  let unknown := (params.map Prod.fst).filter fun name => name ∉ contract.knownLitellmParams
  require (unknown = []) (.unknownParams unknown)
  let metadata ← validMetadata lax (field info "llmmaxxing")
  let unknown := (metadata.execution.map Prod.fst).filter fun name =>
    name ∉ contract.knownExecutionFields
  require (unknown = []) (.unknownExecution unknown)
  require ((field params "num_retries").eq (.int metadata.numRetries) = true)
    (.discovery "deployment retry authority mismatch")
  checkProjected contract params metadata.execution
  let (runtimeId, mode) ← runtimeOf info
  effectiveDeployment {
    runtimeId, hiddenAlias, mode
    execution := metadata.execution
    capabilities := metadata.capabilities
    context := metadata.context
    defaults := metadata.defaults
    pricing := metadata.pricing
    accountId := metadata.accountId
    accountBinding := metadata.accountBinding
    credentialField := metadata.credentialField
    credentialFingerprint := metadata.credentialFingerprint
    credentialEpoch := metadata.credentialEpoch }

/-- The alias of a row. -/
def rawAlias (raw : Object) : Option String := asStr? (field raw "model_name")

/-- `_deployment`. -/
def deployment (contract : AdapterContract) (lax : Lax) (raw : Object) :
    Except DiscoveryFault (Option EffectiveDeployment) :=
  match rawAlias raw, asDict? (field raw "litellm_params"), asDict? (field raw "model_info") with
  | some hiddenAlias, some params, some info =>
    if carriesMetadata raw then do
      let d ← certifiedDeployment contract lax hiddenAlias params info
      return some d
    else return none
  | _, _, _ => .error (.discovery "model-info row lacks model_name/litellm_params/model_info")

section Discovery

variable (F : PyValue.FloatText) (sha256 : Json.Bytes → HexDigest) (contract : AdapterContract)
  (lax : Lax)

end Discovery

end LlmMaxxing.Adapters
