import LlmMaxxing.Adapters.Guard
import LlmMaxxing.Core.Reasons
import LlmMaxxing.Lib.JsonRoundTrip
import LlmMaxxing.Lib.PyJson

/-!
# Request profiling (`gateway/profiler.py`)

A JSON body is read twice: once to take its profile, from which tokens are reserved, and once to
rewrite it for the provider. `profileJson` selects one budget of each kind; `rewriteJson` forwards
every field it does not own. `forwarded_budgets_covered_iff` says when the selection covers what is
forwarded.
-/

namespace LlmMaxxing.Profiler

open Check Json Adapters

/-- `MAX_JSON_DEPTH`. -/
def maxJsonDepth : Nat := 64

/-- `MAX_JSON_ELEMENTS`. -/
def maxJsonElements : Nat := 100_000

/-- `MAX_JSON_STRING_BYTES`. -/
def maxJsonStringBytes : Nat := 8 * 1024 * 1024

/-- `MAX_TOOLS`. -/
def maxTools : Nat := 128

/-- `DEFAULT_BODY_BYTES`. -/
def defaultBodyBytes : Nat := 32 * 1024 * 1024

/-- `_ProfileResult`. -/
structure ProfileResult where
  modelAlias : String
  endpoint : EndpointKind
  modality : Modality
  stream : Bool
  inputTokensMax : Nat
  outputTokensMax : Nat
  reasoningTokensMax : Nat
  toolsCount : Nat
  forcedToolRequired : Bool
  responseSchemaPresent : Bool
  historyTurns : Nat
  deriving DecidableEq

/-- A profile, or the code it was rejected with. -/
abbrev Profiled := Except String

/-! ## Reading the body -/

/-- `data.get(name)`: the value of a member that is present and not null. -/
def field (data : Object) (name : String) : Option PyValue :=
  match Dict.lookup name data with
  | some .none | none => none
  | some v => some v

/-- One string is within bounds. -/
def requireString (s : String) : Profiled Unit :=
  require ((utf8 s.toList).length ≤ maxJsonStringBytes) "json_string_limit"

/-- The members of an object are counted and pushed one by one. -/
def pushMembers (depth : Nat) :
    List (String × PyValue) → Nat → List (PyValue × Nat) → Profiled (Nat × List (PyValue × Nat))
  | [], elements, stack => .ok (elements, stack)
  | (key, item) :: rest, elements, stack => do
    requireString key
    require (elements + 1 ≤ maxJsonElements) "json_element_limit"
    pushMembers depth rest (elements + 1) ((item, depth + 1) :: stack)

/-- The loop of `_validate_tree`. Every turn counts an element, so one more turn than the limit is
enough. -/
def validateStack : Nat → Nat → List (PyValue × Nat) → Profiled Unit
  | 0, _, _ => .error "json_element_limit"
  | _ + 1, _, [] => .ok ()
  | fuel + 1, elements, (value, depth) :: stack => do
    require (elements + 1 ≤ maxJsonElements) "json_element_limit"
    require (depth ≤ maxJsonDepth) "json_depth_limit"
    match value with
    | .str s => do
      requireString s
      validateStack fuel (elements + 1) stack
    | .dict fields => do
      let (elements, stack) ← pushMembers depth fields (elements + 1) stack
      validateStack fuel elements stack
    | .list items =>
      validateStack fuel (elements + 1) ((items.map fun item => (item, depth + 1)).reverse ++ stack)
    | .none | .bool _ | .int _ | .float _ => validateStack fuel (elements + 1) stack
    | .tuple _ | .secret _ => .error "unsupported_json_value"

/-- `_validate_tree`. -/
def validateTree (root : PyValue) : Profiled Unit :=
  validateStack (maxJsonElements + 1) 0 [(root, 1)]

section Read

variable (C : FloatCodec)

/-- The code a failed read is rejected with. -/
def loadCode : PyValue.LoadError → String
  | .malformed => "malformed_json"
  | .duplicateKey => "duplicate_json_key"
  | .constant => "invalid_json_number"
  | .integerTooLong => "Exceeds the limit (4300 digits) for integer string conversion"

/-- `_parse_json`. -/
def parseJson (body : Json.Bytes) : Profiled Object :=
  match utf8Decode? body with
  | none => .error "malformed_json"
  | some text =>
    match PyValue.loads C text with
    | .error e => .error (loadCode e)
    | .ok (.dict data) => do
      validateTree (.dict data)
      return data
    | .ok _ => .error "json_object_required"

/-! ## The fields of a profile -/

/-- `_positive_int`; `least` is 0 where zero is allowed and 1 elsewhere. -/
def positiveInt (value : Option PyValue) (code : String) (least : Int) : Profiled Nat :=
  match value with
  | some (.int n) => if n < least then .error code else .ok n.toNat
  | _ => .error code

/-- `_model`. -/
def model (data : Object) : Profiled String :=
  match field data "model" with
  | some (.str s) => do
    require (1 ≤ s.toList.length ∧ s.toList.length ≤ 160) "invalid_model"
    return s
  | _ => .error "invalid_model"

/-- `_stream`. -/
def stream (data : Object) : Profiled Bool :=
  match Dict.lookup "stream" data with
  | none => .ok false
  | some (.bool b) => .ok b
  | some _ => .error "invalid_stream"

/-- The length of a list member, empty when absent. -/
def listLength (data : Object) (name : String) : Profiled Nat :=
  match Dict.lookup name data with
  | none => .ok 0
  | some (.list items) => .ok items.length
  | some _ => .error "invalid_tools"

/-- `_tools`. -/
def tools (data : Object) : Profiled (Nat × Bool) := do
  let tools ← listLength data "tools"
  let functions ← listLength data "functions"
  require (tools + functions ≤ maxTools) "tool_limit"
  let choice := (Dict.lookup "tool_choice" data).or (Dict.lookup "function_call" data)
  let forced :=
    match choice with
    | some (.dict _) => true
    | some (.str s) => s != "" && s != "auto" && s != "none"
    | _ => false
  return (tools + functions, forced)

/-- `_schema`. -/
def schema (data : Object) : Profiled Bool :=
  match field data "response_format" with
  | none => .ok false
  | some (.dict format) =>
    .ok ((match Dict.lookup "type" format with
      | some (.str s) => s == "json_schema"
      | _ => false) || (Dict.lookup "json_schema" format).isSome)
  | some _ => .error "invalid_response_format"

/-- `_reasoning`. -/
def reasoning (data : Object) (outputTokens : Nat) : Profiled Nat :=
  match field data "max_reasoning_tokens" with
  | some direct => positiveInt (some direct) "invalid_reasoning_budget" 0
  | none =>
    let effort := if (field data "reasoning_effort").isSome then outputTokens else 0
    match field data "reasoning" with
    | none => .ok effort
    | some (.dict nested) =>
      match field nested "max_tokens" with
      | some tokens => positiveInt (some tokens) "invalid_reasoning_budget" 0
      | none => .ok effort
    | some _ => .error "invalid_reasoning_budget"

/-- The modality of one part of a message; `none` for text. -/
def partModality (part : PyValue) : Profiled (Option Modality) :=
  match part with
  | .dict fields =>
    match Dict.lookup "type" fields with
    | some (.str "text") =>
      match Dict.lookup "text" fields with
      | some (.str _) => .ok none
      | _ => .error "invalid_message_content"
    | some (.str "image_url") =>
      match Dict.lookup "image_url" fields with
      | some (.str _) | some (.dict _) => .ok (some .image)
      | _ => .error "invalid_message_content"
    | some (.str "input_audio") =>
      match Dict.lookup "input_audio" fields with
      | some (.dict _) => .ok (some .audioTranscription)
      | _ => .error "invalid_message_content"
    | _ => .error "unsupported_message_modality"
  | _ => .error "invalid_message_content"

/-- The modalities of one message that are not text. -/
def messageModalities (message : PyValue) : Profiled (List Modality) :=
  match message with
  | .dict fields =>
    match field fields "content" with
    | none | some (.str _) => .ok []
    | some (.list parts) => do
      let found ← parts.mapM partModality
      return found.filterMap id
    | some _ => .error "invalid_message_content"
  | _ => .error "invalid_messages"

/-- `_chat_modality`. -/
def chatModality (messages : List PyValue) : Profiled Modality := do
  let found ← messages.mapM messageModalities
  let nontext := found.flatten.dedup
  require (nontext.length ≤ 1) "mixed_chat_modalities"
  return nontext.head?.getD .text

/-- A message of an earlier turn. -/
def isHistory (message : PyValue) : Bool :=
  match message with
  | .dict fields =>
    match Dict.lookup "role" fields with
    | some (.str role) => role == "assistant" || role == "tool" || role == "function"
    | _ => false
  | _ => false

/-- The budget a chat request is reserved for: `max_completion_tokens` when the name is there. -/
def selectedBudget (data : Object) : Option PyValue :=
  if (Dict.lookup "max_completion_tokens" data).isSome then
    Dict.lookup "max_completion_tokens" data
  else field data "max_tokens"

/-! ## The profile -/

/-- The profile of an endpoint without a token budget. -/
def plainResult (modelAlias : String) (endpoint : EndpointKind) (modality : Modality)
    (stream : Bool) (body : Json.Bytes) : ProfileResult where
  modelAlias := modelAlias
  endpoint := endpoint
  modality := modality
  stream := stream
  inputTokensMax := body.length
  outputTokensMax := 0
  reasoningTokensMax := 0
  toolsCount := 0
  forcedToolRequired := false
  responseSchemaPresent := false
  historyTurns := 0

/-- The chat branch of `_profile_json`. -/
def profileChat (data : Object) (plain : ProfileResult) : Profiled ProfileResult :=
  match field data "messages" with
  | some (.list messages) => do
    let outputTokens ← positiveInt (selectedBudget data) "missing_output_budget" 1
    let reasoningTokens ← reasoning data outputTokens
    let (toolsCount, forcedTool) ← tools data
    let responseSchema ← schema data
    let modality ← chatModality messages
    return { plain with
      modality := modality
      outputTokensMax := outputTokens
      reasoningTokensMax := reasoningTokens
      toolsCount := toolsCount
      forcedToolRequired := forcedTool
      responseSchemaPresent := responseSchema
      historyTurns := messages.countP isHistory }
  | _ => .error "invalid_messages"

/-- The text branch of `_profile_json`. -/
def profileText (data : Object) (plain : ProfileResult) : Profiled ProfileResult := do
  require ((Dict.lookup "prompt" data).isSome = true) "invalid_prompt"
  let outputTokens ← positiveInt (field data "max_tokens") "missing_output_budget" 1
  let reasoningTokens ← reasoning data outputTokens
  return { plain with outputTokensMax := outputTokens, reasoningTokensMax := reasoningTokens }

/-- `_profile_json` on the parsed document. -/
def profileDocument (endpoint : EndpointKind) (body : Json.Bytes) (data : Object) :
    Profiled ProfileResult := do
  let modelAlias ← model data
  let stream ← stream data
  let plain (modality : Modality) := plainResult modelAlias endpoint modality stream body
  match endpoint with
  | .chat => profileChat data (plain .text)
  | .text => profileText data (plain .text)
  | .embeddings => do
    require ((Dict.lookup "input" data).isSome = true) "invalid_embedding_input"
    require (stream = false) "stream_not_supported"
    return plain .embedding
  | .rerank => do
    require ((Dict.lookup "query" data).isSome = true ∧
      (match Dict.lookup "documents" data with
        | some (.list _) => true
        | _ => false) = true) "invalid_rerank_input"
    require (stream = false) "stream_not_supported"
    return plain .rerank
  | .audioSpeech => do
    require ((match Dict.lookup "input" data with
      | some (.str _) => true
      | _ => false) = true) "invalid_audio_input"
    return plain .audioSpeech
  | .image => do
    require ((match Dict.lookup "prompt" data with
      | some (.str _) => true
      | _ => false) = true) "invalid_image_input"
    return plain .image
  | .audioTranscription => .error "unsupported_json_endpoint"

/-- `_profile_json`. -/
def profileJson (endpoint : EndpointKind) (body : Json.Bytes) : Profiled ProfileResult := do
  let data ← parseJson C body
  profileDocument endpoint body data

/-! ## The rewritten body -/

/-- The field of `fence_locator` on the JSON endpoints, `json.metadata` without its tag. -/
def fenceField : String := "metadata"

/-- The document without the parameters that belong to the backend, under the hidden alias. -/
def ownModel (data : Object) (hiddenAlias : String) (known : List String) : Object :=
  Dict.upsert "model" (.str hiddenAlias)
    (data.filter fun q => !(known.contains q.1 && q.1 != "model"))

/-- The metadata of the client, empty when absent. -/
def clientMetadata (data : Object) : Profiled Object :=
  match field data fenceField with
  | none => .ok []
  | some (.dict existing) => .ok existing
  | some _ => .error "invalid_metadata"

/-- `_rewrite_json` on the parsed document. -/
def rewriteDocument (data : Object) (prepared : PreparedDispatch) (known : List String) :
    Profiled Object := do
  let named := ownModel data prepared.hiddenAlias known
  let existing ← clientMetadata named
  match Dict.lookup "llmmaxxing_guard" prepared.trustedMetadata with
  | none => .error "llmmaxxing_guard"
  | some guard =>
    return Dict.upsert fenceField (.dict (Dict.upsert "llmmaxxing_guard" guard existing)) named

/-- `_rewrite_json`. -/
def rewriteJson (body : Json.Bytes) (prepared : PreparedDispatch) (known : List String) :
    Profiled Json.Bytes := do
  let data ← parseJson C body
  let document ← rewriteDocument data prepared known
  let rewritten := utf8 ((PyValue.dict document).dumps C)
  require (rewritten.length ≤ defaultBodyBytes) "rewritten_body_too_large"
  return rewritten

end Read

/-! ## Budgets -/

/-- A number is at most `n`; what is not a number is no budget. -/
def AtMost (v : PyValue) (n : Int) : Prop :=
  match v with
  | .int m => m ≤ n
  | .float (.finite x) => x ≤ n
  | .float (.inf false) => False
  | _ => True

/-- The profile covers the budgets of a forwarded document, and the length of the body. -/
structure Covers (r : ProfileResult) (body : Json.Bytes) (document : Object) : Prop where
  input : body.length ≤ r.inputTokensMax
  maxTokens : ∀ v, Dict.lookup "max_tokens" document = some v → AtMost v r.outputTokensMax
  maxCompletionTokens : ∀ v, Dict.lookup "max_completion_tokens" document = some v →
    AtMost v r.outputTokensMax
  maxReasoningTokens : ∀ v, Dict.lookup "max_reasoning_tokens" document = some v →
    AtMost v r.reasoningTokensMax
  nestedReasoning : ∀ nested v, Dict.lookup "reasoning" document = some (.dict nested) →
    Dict.lookup "max_tokens" nested = some v → AtMost v r.reasoningTokensMax

/-- The budgets that the profile does not select are at most the ones it selects: for chat
`max_completion_tokens` goes before `max_tokens`, for text the other way round, and
`max_reasoning_tokens` goes before the nested one. -/
structure SelectsLargest (endpoint : EndpointKind) (data : Object) : Prop where
  chat : endpoint = .chat → ∀ n v, Dict.lookup "max_completion_tokens" data = some (.int n) →
    Dict.lookup "max_tokens" data = some v → AtMost v n
  text : endpoint = .text → ∀ n v, Dict.lookup "max_tokens" data = some (.int n) →
    Dict.lookup "max_completion_tokens" data = some v → AtMost v n
  reasoning : ∀ n nested v, Dict.lookup "max_reasoning_tokens" data = some (.int n) →
    Dict.lookup "reasoning" data = some (.dict nested) →
    Dict.lookup "max_tokens" nested = some v → AtMost v n

variable {C : FloatCodec} {data document : Object} {body : Json.Bytes} {r : ProfileResult}

/-- A field the gateway does not own is forwarded as it is. -/
theorem lookup_rewriteDocument {prepared : PreparedDispatch} {known : List String} {name : String}
    (h : rewriteDocument data prepared known = .ok document) (hmodel : name ≠ "model")
    (hfence : name ≠ fenceField) (hknown : known.contains name = false) :
    Dict.lookup name document = Dict.lookup name data := by
  simp only [rewriteDocument, bind_eq_ok_iff] at h
  obtain ⟨existing, -, h⟩ := h
  split at h
  · cases h
  · cases h
    rw [Dict.lookup_upsert, if_neg hfence, ownModel, Dict.lookup_upsert, if_neg hmodel]
    refine Dict.lookup_filter_of_kept (p := fun k => !(known.contains k && k != "model")) data ?_
    rw [hknown]
    rfl

theorem positiveInt_eq_ok_iff {value : Option PyValue} {code : String} {least : Int} {n : Nat}
    (hleast : 0 ≤ least) :
    positiveInt value code least = .ok n ↔ value = some (.int n) ∧ least ≤ n := by
  unfold positiveInt
  split
  · next m =>
    split_ifs with hlt
    · constructor
      · intro h
        cases h
      · rintro ⟨hv, hge⟩
        cases hv
        omega
    · have hcast : (m.toNat : Int) = m := Int.toNat_of_nonneg (by omega)
      constructor
      · intro h
        cases h
        rw [hcast]
        exact ⟨rfl, by omega⟩
      · rintro ⟨hv, -⟩
        cases hv
        rfl
  · next hother =>
    constructor
    · intro h
      cases h
    · rintro ⟨rfl, -⟩
      exact absurd rfl (hother n)

theorem lookup_of_field {name : String} {v : PyValue} (h : field data name = some v) :
    Dict.lookup name data = some v := by
  unfold field at h
  split at h
  · cases h
  · cases h
  · next heq => cases h; exact heq

/-- A member that `get` does not see is absent or null, and no budget either way. -/
theorem atMost_of_field_none {name : String} {v : PyValue} {n : Int} (h : field data name = none)
    (hv : Dict.lookup name data = some v) : AtMost v n := by
  unfold field at h
  rw [hv] at h
  cases v with
  | none => trivial
  | _ => cases h

/-- The reasoning budget of a profile: the direct one, or one that covers the nested one. -/
theorem reasoning_eq_ok {outputTokens n : Nat} (h : reasoning data outputTokens = .ok n) :
    Dict.lookup "max_reasoning_tokens" data = some (.int n) ∨
      field data "max_reasoning_tokens" = none ∧
        ∀ nested v, Dict.lookup "reasoning" data = some (.dict nested) →
          Dict.lookup "max_tokens" nested = some v → AtMost v n := by
  unfold reasoning at h
  split at h
  · next direct hdirect =>
    obtain ⟨hvalue, -⟩ := (positiveInt_eq_ok_iff le_rfl).mp h
    rw [← hdirect] at hvalue
    exact .inl (lookup_of_field hvalue)
  · next hdirect =>
    refine .inr ⟨hdirect, fun nested v hnested hv => ?_⟩
    have hfield : field data "reasoning" = some (.dict nested) := by
      rw [field, hnested]
    simp only [hfield] at h
    split at h
    · next tokens htokens =>
      obtain ⟨hvalue, -⟩ := (positiveInt_eq_ok_iff le_rfl).mp h
      rw [← htokens] at hvalue
      rw [lookup_of_field hvalue] at hv
      cases hv
      exact le_rfl (a := (n : Int))
    · next htokens => exact atMost_of_field_none htokens hv

/-- What the token budgets of a chat or a text profile are. -/
structure Budgets (endpoint : EndpointKind) (body : Json.Bytes) (data : Object)
    (r : ProfileResult) : Prop where
  input : r.inputTokensMax = body.length
  chat : endpoint = .chat → selectedBudget data = some (.int r.outputTokensMax)
  text : endpoint = .text → field data "max_tokens" = some (.int r.outputTokensMax)
  reasoning : reasoning data r.outputTokensMax = .ok r.reasoningTokensMax

theorem budgets_of_profileDocument {endpoint : EndpointKind}
    (hendpoint : endpoint = .chat ∨ endpoint = .text)
    (h : profileDocument endpoint body data = .ok r) : Budgets endpoint body data r := by
  simp only [profileDocument, bind_eq_ok_iff] at h
  obtain ⟨modelAlias, -, streams, -, h⟩ := h
  rcases hendpoint with rfl | rfl
  · simp only [profileChat] at h
    split at h
    · simp only [bind_eq_ok_iff] at h
      obtain ⟨output, houtput, tokens, htokens, counted, -, responseSchema, -, modality, -, h⟩ := h
      cases h
      exact {
        input := rfl
        chat := fun _ => ((positiveInt_eq_ok_iff (by decide)).mp houtput).1
        text := fun h => by cases h
        reasoning := htokens }
    · cases h
  · simp only [profileText, bind_eq_ok_iff] at h
    obtain ⟨-, -, output, houtput, tokens, htokens, h⟩ := h
    cases h
    exact {
      input := rfl
      chat := fun h => by cases h
      text := fun _ => ((positiveInt_eq_ok_iff (by decide)).mp houtput).1
      reasoning := htokens }

/-- A chat profile is reserved for `max_completion_tokens` when the name is there. -/
theorem selectedBudget_eq_some_iff {n : Int} :
    selectedBudget data = some (.int n) ↔
      Dict.lookup "max_completion_tokens" data = some (.int n) ∨
        Dict.lookup "max_completion_tokens" data = none ∧ field data "max_tokens" = some (.int n) := by
  unfold selectedBudget
  cases hc : Dict.lookup "max_completion_tokens" data with
  | none => simp
  | some v => simp

/-- The profile covers a document that has the budget fields of its body exactly when it selected
the largest of each kind. -/
theorem covers_iff_selectsLargest {endpoint : EndpointKind}
    (hendpoint : endpoint = .chat ∨ endpoint = .text) (hr : Budgets endpoint body data r)
    (hsame : ∀ name ∈ ["max_tokens", "max_completion_tokens", "max_reasoning_tokens", "reasoning"],
      Dict.lookup name document = Dict.lookup name data) :
    Covers r body document ↔ SelectsLargest endpoint data := by
  have htokens : Dict.lookup "max_tokens" document = Dict.lookup "max_tokens" data :=
    hsame _ (by decide)
  have hcompletion : Dict.lookup "max_completion_tokens" document =
      Dict.lookup "max_completion_tokens" data := hsame _ (by decide)
  have hdirect : Dict.lookup "max_reasoning_tokens" document =
      Dict.lookup "max_reasoning_tokens" data := hsame _ (by decide)
  have hnested : Dict.lookup "reasoning" document = Dict.lookup "reasoning" data :=
    hsame _ (by decide)
  constructor
  · intro h
    refine ⟨?_, ?_, ?_⟩
    · rintro rfl n v hn hv
      have hselected : selectedBudget data = some (.int n) := selectedBudget_eq_some_iff.mpr (.inl hn)
      rw [hr.chat rfl] at hselected
      cases hselected
      exact h.maxTokens v (htokens.trans hv)
    · rintro rfl n v hn hv
      have hfield := lookup_of_field (hr.text rfl)
      rw [hn] at hfield
      cases hfield
      exact h.maxCompletionTokens v (hcompletion.trans hv)
    · intro n nested v hn hreasoning hv
      have hselected : Dict.lookup "max_reasoning_tokens" data =
          some (.int r.reasoningTokensMax) := by
        rcases reasoning_eq_ok hr.reasoning with hsame | ⟨hnone, -⟩
        · exact hsame
        · rw [field, hn] at hnone
          cases hnone
      rw [hn] at hselected
      cases hselected
      exact h.nestedReasoning nested v (hnested.trans hreasoning) hv
  · intro h
    -- a selected budget covers itself, one that is not is covered by assumption
    have hself : ∀ {v : PyValue} {n : Nat}, some v = some (.int (n : Int)) → AtMost v n := by
      intro v n hv
      cases hv
      exact le_rfl (a := (n : Int))
    refine ⟨hr.input.ge, fun v hv => ?_, fun v hv => ?_, fun v hv => ?_, fun nested v hn hv => ?_⟩
    · rw [htokens] at hv
      rcases hendpoint with rfl | rfl
      · rcases selectedBudget_eq_some_iff.mp (hr.chat rfl) with hcomp | ⟨-, hfield⟩
        · exact h.chat rfl _ v hcomp hv
        · exact hself (hv.symm.trans (lookup_of_field hfield))
      · exact hself (hv.symm.trans (lookup_of_field (hr.text rfl)))
    · rw [hcompletion] at hv
      rcases hendpoint with rfl | rfl
      · rcases selectedBudget_eq_some_iff.mp (hr.chat rfl) with hcomp | ⟨hnone, -⟩
        · exact hself (hv.symm.trans hcomp)
        · rw [hnone] at hv
          cases hv
      · exact h.text rfl _ v (lookup_of_field (hr.text rfl)) hv
    · rw [hdirect] at hv
      rcases reasoning_eq_ok hr.reasoning with hsame | ⟨hnone, -⟩
      · exact hself (hv.symm.trans hsame)
      · exact atMost_of_field_none hnone hv
    · rw [hnested] at hn
      rcases reasoning_eq_ok hr.reasoning with hsame | ⟨-, hcovered⟩
      · exact h.reasoning _ nested v hsame hn hv
      · exact hcovered nested v hn hv

/-- **The reservation covers every forwarded budget exactly when the profile selected the largest
of each kind.** -/
theorem forwarded_budgets_covered_iff (C : FloatCodec) {endpoint : EndpointKind}
    {prepared : PreparedDispatch} {rewritten : Json.Bytes}
    (hendpoint : endpoint = .chat ∨ endpoint = .text) (hprofile : profileJson C endpoint body = .ok r)
    (hrewrite : rewriteJson C body prepared certifiedContract.knownLitellmParams = .ok rewritten) :
    ∃ data document, parseJson C body = .ok data ∧
      rewriteDocument data prepared certifiedContract.knownLitellmParams = .ok document ∧
      rewritten = utf8 ((PyValue.dict document).dumps C) ∧
      (Covers r body document ↔ SelectsLargest endpoint data) := by
  simp only [profileJson, bind_eq_ok_iff] at hprofile
  obtain ⟨data, hdata, hprofile⟩ := hprofile
  simp only [rewriteJson, hdata, ok_bind, bind_eq_ok_iff, require_eq_ok_iff, exists_unit_and_iff,
    pure_eq_ok, Except.ok.injEq] at hrewrite
  obtain ⟨document, hdocument, -, rfl⟩ := hrewrite
  refine ⟨data, document, hdata, hdocument, rfl, ?_⟩
  refine covers_iff_selectsLargest hendpoint (budgets_of_profileDocument hendpoint hprofile) ?_
  intro name hname
  have hforeign : name ≠ "model" ∧ name ≠ fenceField ∧
      certifiedContract.knownLitellmParams.contains name = false := by
    revert name
    decide
  exact lookup_rewriteDocument hdocument hforeign.1 hforeign.2.1 hforeign.2.2

/-! ### Two budgets in one body -/

/-- A codec for documents without floats. -/
def noFloats : FloatCodec := ⟨fun _ => .nan, fun _ => []⟩

/-- A dispatch to one deployment. -/
def sampleDispatch : PreparedDispatch where
  endpoint := ⟨"chat", "/v1/chat/completions", .json⟩
  hiddenAlias := "provider/model"
  expectedDeploymentId := "deployment"
  generationId := "dg1_0000000000000000000000000000000000000000000000000000000000000005"
  backendManifest := "bm1_0000000000000000000000000000000000000000000000000000000000000005"
  trustedMetadata := [("llmmaxxing_guard", .dict [])]

/-- A chat body with a small `max_completion_tokens` and the given `max_tokens`. -/
def twoBudgets (maxTokens : Int) : Object := [
  ("model", .str "m"), ("messages", .list []), ("max_completion_tokens", .int 1),
  ("max_tokens", .int maxTokens)]

/-- The bytes of the body. -/
def twoBudgetsBody (maxTokens : Int) : Json.Bytes :=
  utf8 ((PyValue.dict (twoBudgets maxTokens)).dumps noFloats)

theorem parseJson_utf8 (C : FloatCodec) (text : List Char) (data : Object)
    (hload : PyValue.loads C text = .ok (.dict data)) (htree : validateTree (.dict data) = .ok ()) :
    parseJson C (utf8 text) = .ok data := by
  rw [parseJson, utf8Decode?_utf8]
  simp only [hload, htree, ok_bind, pure_eq_ok]

/-- The profile of the body: one output token is reserved whatever `max_tokens` says. -/
def twoBudgetsProfile (maxTokens : Int) : ProfileResult :=
  { plainResult "m" .chat .text false (twoBudgetsBody maxTokens) with outputTokensMax := 1 }

/-- The document that is forwarded. -/
def twoBudgetsForwarded (maxTokens : Int) : Object := [
  ("model", .str "provider/model"), ("messages", .list []), ("max_completion_tokens", .int 1),
  ("max_tokens", .int maxTokens), ("metadata", .dict [("llmmaxxing_guard", .dict [])])]

theorem profile_twoBudgets {maxTokens : Int}
    (hparse : parseJson noFloats (twoBudgetsBody maxTokens) = .ok (twoBudgets maxTokens)) :
    profileJson noFloats .chat (twoBudgetsBody maxTokens) = .ok (twoBudgetsProfile maxTokens) := by
  rw [profileJson, hparse]
  rfl

theorem rewrite_twoBudgets (maxTokens : Int) :
    rewriteDocument (twoBudgets maxTokens) sampleDispatch certifiedContract.knownLitellmParams =
      .ok (twoBudgetsForwarded maxTokens) := by
  rfl

theorem rewriteJson_twoBudgets {maxTokens : Int}
    (hparse : parseJson noFloats (twoBudgetsBody maxTokens) = .ok (twoBudgets maxTokens))
    (hlength : (utf8 ((PyValue.dict (twoBudgetsForwarded maxTokens)).dumps noFloats)).length ≤ 1000) :
    rewriteJson noFloats (twoBudgetsBody maxTokens) sampleDispatch
      certifiedContract.knownLitellmParams =
        .ok (utf8 ((PyValue.dict (twoBudgetsForwarded maxTokens)).dumps noFloats)) := by
  have hlimit : 1000 ≤ defaultBodyBytes := by decide
  have hroom := (require_eq_ok_iff (u := ()) (e := "rewritten_body_too_large")).mpr
    (hlength.trans hlimit)
  simp only [rewriteJson, hparse, rewrite_twoBudgets, ok_bind, hroom, pure_eq_ok]

/-- A `max_tokens` of a million is forwarded with one output token reserved. -/
theorem ignored_budget_is_forwarded :
    profileJson noFloats .chat (twoBudgetsBody 1000000) = .ok (twoBudgetsProfile 1000000) ∧
      rewriteJson noFloats (twoBudgetsBody 1000000) sampleDispatch
        certifiedContract.knownLitellmParams =
          .ok (utf8 ((PyValue.dict (twoBudgetsForwarded 1000000)).dumps noFloats)) ∧
      ¬ Covers (twoBudgetsProfile 1000000) (twoBudgetsBody 1000000)
        (twoBudgetsForwarded 1000000) := by
  have hparse : parseJson noFloats (twoBudgetsBody 1000000) = .ok (twoBudgets 1000000) :=
    parseJson_utf8 _ _ _ (by rfl) (by rfl)
  refine ⟨profile_twoBudgets hparse, ?_, fun h => ?_⟩
  · exact rewriteJson_twoBudgets hparse (by decide +kernel)
  · have hle : (1000000 : Int) ≤ 1 := h.maxTokens (.int 1000000) rfl
    omega

/-- With both budgets equal the reservation covers them. -/
theorem equal_budgets_are_covered :
    Covers (twoBudgetsProfile 1) (twoBudgetsBody 1) (twoBudgetsForwarded 1) := by
  have hparse : parseJson noFloats (twoBudgetsBody 1) = .ok (twoBudgets 1) :=
    parseJson_utf8 _ _ _ (by rfl) (by rfl)
  have hrewrite : rewriteJson noFloats (twoBudgetsBody 1) sampleDispatch
      certifiedContract.knownLitellmParams =
        .ok (utf8 ((PyValue.dict (twoBudgetsForwarded 1)).dumps noFloats)) :=
    rewriteJson_twoBudgets hparse (by decide +kernel)
  obtain ⟨data, document, hdata, hdocument, -, hiff⟩ :=
    forwarded_budgets_covered_iff noFloats (.inl rfl) (profile_twoBudgets hparse) hrewrite
  rw [hparse] at hdata
  cases hdata
  rw [rewrite_twoBudgets] at hdocument
  cases hdocument
  refine hiff.mpr ⟨fun _ n v hn hv => ?_, (fun h => by cases h), (fun n nested v hn => by cases hn)⟩
  cases hn
  cases hv
  exact le_rfl (a := (1 : Int))

end LlmMaxxing.Profiler
