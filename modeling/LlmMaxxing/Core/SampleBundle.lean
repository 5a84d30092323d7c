import LlmMaxxing.Core.Validated

/-!
# A smallest valid bundle

One key in rotation, one policy, one account, one route group with one leg. The generations are
parameters: `rotatingBundle_valid` says the bundle is valid for all of them, so it serves as the
next bundle at any point of a run.
-/

namespace LlmMaxxing

open Check

/-- One leg of one account for chat. -/
def chatCapabilities : LegCapabilities :=
  { endpoints := [.chat], modalities := [.chat], contextTokens := 8192, tools := false,
    forcedTool := false, responseSchema := false, shadow := false }

def sampleAccountId : AccountId := ⟨"acc_00000000-0000-4000-8000-000000000001", by decide⟩
def sampleGroupId : RouteGroupId := ⟨"rg_00000000-0000-4000-8000-000000000002", by decide⟩
def sampleLegId : RouteLegId := ⟨"leg_00000000-0000-4000-8000-000000000003", by decide⟩
def samplePolicyId : PolicyRevisionId := ⟨"pol_00000000-0000-4000-8000-000000000004", by decide⟩
def sampleDeployment : DeploymentGenerationId :=
  ⟨"dg1_0000000000000000000000000000000000000000000000000000000000000005", by decide⟩

def sampleVerifier (generation : Nat) (status : CredentialVerifierStatus) : CredentialVerifier :=
  { generation, status
    secretHex := "0000000000000000000000000000000000000000000000000000000000000006"
    pepperVersion := "v1", notBeforeS := 1, notAfterS := 100 }

/-- A key in rotation from one credential generation to a newer one. -/
def rotatingKey (older newer : Nat) : ClientKeyRecord :=
  { keyId := "00000000000000000000000000000007", policyId := samplePolicyId, state := .enabled
    issuedAtS := 1, expiresAtS := 100, timeHighWaterS := 2, generationHighWater := newer
    credentialVerifiers := [sampleVerifier older .retiring, sampleVerifier newer .active] }

def samplePolicy : KeyPolicyRevision :=
  { policyId := samplePolicyId, name := "default", routeGroupIds := [sampleGroupId]
    authorizedLegs :=
      [{ legId := sampleLegId, accountId := sampleAccountId, generationId := sampleDeployment,
         order := 1, allowedTriggers := [.primary], capabilities := chatCapabilities }]
    queueTier := 0, queueWeight := 1, maxConcurrency := 1, maxWaiters := 1, deadlineMs := 1000 }

def sampleAccount : ProviderAccount :=
  { accountId := sampleAccountId, displayName := "account"
    connection := "connection", providerToken := "token", bindingRef := "binding"
    credentialFingerprint :=
      some "hcf1_0000000000000000000000000000000000000000000000000000000000000009"
    credentialEpoch := some 1
    parallelLimit := ⟨.known, some 1⟩, localParallelCeiling := 1
    rpmLimit := ⟨.attestedAbsent, none⟩, rpmWindowSeconds := 60
    tpmLimit := ⟨.attestedAbsent, none⟩, tpmWindowSeconds := 60
    monthlyQuotaUnits := ⟨.attestedAbsent, none⟩, quotaUnitsPerAttempt := 1, state := some .active }

def sampleGroup : RouteGroupRevision :=
  { routeGroupId := sampleGroupId, name := "chat", strategy := .orderedCapacity
    legs :=
      [{ legId := sampleLegId, order := 1, triggers := [.primary], accountId := sampleAccountId,
         generationId := sampleDeployment, capabilities := chatCapabilities }] }

/-- A smallest bundle around one key in rotation. -/
def rotatingBundle (generation older newer : Nat) : PolicyBundleV1 :=
  { schemaVersion := 1, generation, minReader := "1.0", requiredFeatures := []
    keys := [rotatingKey older newer], policies := [samplePolicy], accounts := [sampleAccount]
    routeGroups := [sampleGroup]
    backendManifestHash := "0000000000000000000000000000000000000000000000000000000000000008" }

section Valid

variable {generation older newer : Nat}

theorem rotatingKey_sound (ho : 1 ≤ older) (hlt : older < newer) :
    (rotatingKey older newer).Sound where
  keyId := by simp only [rotatingKey]; decide
  issuedAt := by simp [rotatingKey]
  expiresAt := by simp [rotatingKey]
  timeHighWater := by simp [rotatingKey]
  generationHighWater := by
    show 1 ≤ newer
    omega
  credentialCount := by simp [rotatingKey]
  credentials v hv := by
    have hshape : ∀ g status, 1 ≤ g →
        ClientCredentialVerifier.validate (sampleVerifier g status) = .ok () := by
      intro g status hg
      simp +decide [ClientCredentialVerifier.validate, CredentialVerifier.validate,
        sampleVerifier, hg]
    simp only [rotatingKey, List.mem_cons, List.not_mem_nil, or_false] at hv
    rcases hv with rfl | rfl
    · exact hshape older _ ho
    · exact hshape newer _ (by omega)
  legacyCount := by simp [rotatingKey]
  legacies v hv := by simp [rotatingKey] at hv
  lifetime := by simp [rotatingKey]
  lifetimeBound := by simp [rotatingKey]
  issued_le := by simp [rotatingKey]
  some_verifier := by simp [rotatingKey, ClientKeyRecord.verifiers]
  verifierCount := by simp [rotatingKey, ClientKeyRecord.verifiers]
  generations_nodup := by
    simpa [rotatingKey, ClientKeyRecord.verifiers, sampleVerifier] using hlt.ne
  newest := by
    simp [rotatingKey, ClientKeyRecord.verifiers, sampleVerifier, hlt.le]
  windows v hv := by
    simp only [rotatingKey, ClientKeyRecord.verifiers, List.append_nil, List.mem_cons,
      List.not_mem_nil, or_false] at hv
    rcases hv with rfl | rfl
    · exact ⟨le_refl 1, le_refl 100⟩
    · exact ⟨le_refl 1, le_refl 100⟩
  acceptedCount := by
    simp [rotatingKey, ClientKeyRecord.accepted, ClientKeyRecord.verifiers, sampleVerifier]
  terminal_accepted := by simp [rotatingKey, ClientKeyRecord.terminal]
  active_newest _ := by
    simp [rotatingKey, ClientKeyRecord.active, ClientKeyRecord.verifiers, sampleVerifier]

theorem rotatingKey_valid (ho : 1 ≤ older) (hlt : older < newer) :
    (rotatingKey older newer).validate = .ok () := by
  refine ClientKeyRecord.validate_eq_ok_iff.mpr ⟨rotatingKey_sound ho hlt, ?_, ?_⟩
  · simp [ClientKeyRecord.generationsIncreasing, rotatingKey, sampleVerifier, sortOn, hlt.le]
  · simp [ClientKeyRecord.generationsIncreasing, rotatingKey, sortOn]

/-- Membership does not look at the generations. -/
theorem rotatingBundle_consistent : (rotatingBundle generation older newer).Consistent := by
  have hsame : (rotatingBundle generation older newer).exactMembership =
      (rotatingBundle 1 1 2).exactMembership := rfl
  refine PolicyBundleV1.exactMembership_eq_ok_iff.mp (hsame.trans ?_)
  decide

theorem rotatingBundle_fieldsSound (hg : 1 ≤ generation) :
    (rotatingBundle generation older newer).FieldsSound where
  schemaVersion := rfl
  generation := hg
  minReader := by simp only [rotatingBundle]; decide
  requiredFeatures := List.nodup_nil
  keys := List.cons_ne_nil _ _
  policies := List.cons_ne_nil _ _
  accounts := List.cons_ne_nil _ _
  routeGroups := List.cons_ne_nil _ _
  backendManifestHash := by simp only [rotatingBundle]; decide

theorem rotatingBundle_valid (hg : 1 ≤ generation) (ho : 1 ≤ older) (hlt : older < newer) :
    (rotatingBundle generation older newer).validate =
      .ok (rotatingBundle generation older newer) := by
  refine PolicyBundleV1.validate_eq_ok_self_iff.mpr ⟨rotatingBundle_fieldsSound hg,
    List.forall_mem_singleton.mpr (rotatingKey_valid ho hlt),
    List.forall_mem_singleton.mpr ?_, List.forall_mem_singleton.mpr ?_,
    List.forall_mem_singleton.mpr ?_, rotatingBundle_consistent⟩
  · decide
  · decide
  · decide

end Valid

end LlmMaxxing
