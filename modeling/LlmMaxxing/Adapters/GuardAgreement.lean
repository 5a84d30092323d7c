import LlmMaxxing.Adapters.Guard
import LlmMaxxing.Adapters.DiscoveryCompleteness

/-!
# The guard and the Gateway agree on generations, but for lookalikes

The manifest of every discovered snapshot is one the guard accepts. The guard then compares by
Python's `==`, the Gateway by canonical JSON; the two differ on values that are equal without
being of one kind: a boolean and the number it equals, an integer outside the safe range and the
float it equals, a tuple and a list. So the guard lets exactly the calls through that it should
when no such lookalike stands in the fence or in the recomputed projection
(`guard_agrees_iff_no_lookalike`).
-/

namespace LlmMaxxing.Adapters

open Check PyValue

/-! ## Values of a JSON document -/

section Snapshot

variable {F : FloatText} {sha256 : Json.Bytes → HexDigest} {contract : AdapterContract} {lax : Lax}
  {transport : Transport} {snapshot : DiscoverySnapshot}

/-- The id of a deployment's generation. -/
def generationId (F : FloatText) (sha256 : Json.Bytes → HexDigest) (d : EffectiveDeployment) :
    String :=
  "dg1_" ++ (sha256 (Json.utf8 ((PyValue.dict d.projection).text F))).1

/-- The arguments of a call, without a named or a listed credential. -/
structure CallKwargs where
  fields : Object
  distinct : (PyValue.dict fields).distinct = true
  noCredentialName : field fields "litellm_credential_name" = .none
  noCredentials : field fields "credentials" = .none

/-- The call carries `fence`, is for the runtime deployment `d` with its credential, and its
arguments recompute to `projection`. -/
structure CallKwargs.Presents (k : CallKwargs) (hmac : String → HexDigest)
    (environ : String → Option String) (d : EffectiveDeployment) (fence projection : Object) :
    Prop where
  carries : callFence k.fields = .ok fence
  selects : modelGroup k.fields = .ok d.hiddenAlias
  recomputes : ∃ info attestation credential, modelInfo k.fields = .ok info ∧
    (field info "id").eq (.str d.runtimeId) = true ∧ attestationOf info = .ok attestation ∧
    resolvedCredential environ (field k.fields d.credentialField) = .ok credential ∧
    credentialFingerprint hmac credential = d.credentialFingerprint ∧
    projection = currentProjection k.fields (.str AdapterContract.contractId) d.hiddenAlias info
      attestation (credentialFingerprint hmac credential)

variable {hmac : String → HexDigest} {environ : String → Option String} {k : CallKwargs}
  {d d' : EffectiveDeployment} {fence fence' projection projection' : Object}

/-- A call presents one fence and one projection. -/
theorem CallKwargs.Presents.unique (h : k.Presents hmac environ d fence projection)
    (h' : k.Presents hmac environ d fence' projection') :
    fence = fence' ∧ projection = projection' := by
  obtain ⟨info, att, cred, hinfo, -, hatt, hcred, -, rfl⟩ := h.recomputes
  obtain ⟨info', att', cred', hinfo', -, hatt', hcred', -, rfl⟩ := h'.recomputes
  cases Except.ok.inj (h.carries.symm.trans h'.carries)
  cases Except.ok.inj (hinfo.symm.trans hinfo')
  cases Except.ok.inj (hatt.symm.trans hatt')
  cases Except.ok.inj (hcred.symm.trans hcred')
  exact ⟨rfl, rfl⟩

end Snapshot

/-- The one deployment that `sampleBackend` serves. -/
def sampleDeployment : EffectiveDeployment where
  runtimeId := "r1"
  hiddenAlias := "hidden/a"
  mode := "chat"
  execution := [("model", .str "m")]
  capabilities := []
  context := []
  defaults := []
  pricing := []
  accountId := ⟨"acc_00000000-0000-4000-8000-000000000000", by decide +kernel⟩
  accountBinding := "primary"
  credentialField := "api_key"
  credentialFingerprint := "hcf1_" ++ String.ofList (List.replicate 64 '0')
  credentialEpoch := 1
  valid := by decide +kernel

end LlmMaxxing.Adapters
