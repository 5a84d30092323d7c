import LlmMaxxing.Core.SampleBundle
import LlmMaxxing.Gateway.AccountLaws

/-!
# A smallest metered account

One account with every dimension known, numbered requests that fit it, and a configuration.
-/

namespace LlmMaxxing

/-- A fixed digest text. -/
def sampleDigest : Sha256Digest :=
  ⟨"sha256:0000000000000000000000000000000000000000000000000000000000000010", by decide⟩

/-- A resolution digest that depends on the reported units. -/
def resolutionDigest (r : AttemptResolution) : Sha256Digest where
  text := String.ofList ("sha256:".toList ++
    hexDigits 64 (r.actualTokenUnits.getD 0 * 4 + r.actualQuotaUnits.getD 0 * 2 +
      r.releaseCapacity.toNat))
  valid := by
    simp only [isSha256Digest, String.toList_ofList, Bool.and_eq_true]
    exact ⟨by rfl, isHexOfLength_hexDigits 64 _⟩

def sampleDigests : Digests where
  profile _ := sampleDigest
  resolution := resolutionDigest
  binding _ _ _ := sampleDigest
  attestation _ := sampleDigest
  record sequence _ _ := ⟨String.ofList (hexDigits 64 sequence), by
    rw [isHex64, String.toList_ofList]; exact isHexOfLength_hexDigits 64 sequence⟩

def sampleConfig : RuntimeConfig where
  digests := sampleDigests
  ledgerLimit_bounds := resolutionLedgerLimit_default

/-- Rows are kept for 100 ms. -/
def Service.shortRetention : RuntimeConfig where
  digests := sampleDigests
  resolutionRetentionMs := 100
  ledgerLimit_bounds := resolutionLedgerLimit_default

/-- Two in flight, two starts and eight tokens a minute, four units a month. -/
def meteredAccount : ProviderAccount :=
  { sampleAccount with
    parallelLimit := ⟨.known, some 2⟩, localParallelCeiling := 2
    rpmLimit := ⟨.known, some 2⟩, tpmLimit := ⟨.known, some 8⟩
    monthlyQuotaUnits := ⟨.known, some 4⟩, monthlyResetAtMs := some 1_000 }

theorem meteredAccount_valid : meteredAccount.validate = .ok meteredAccount := by
  decide +kernel

def sampleProfile : RequestProfile :=
  { routeGroupId := sampleGroupId, modelAlias := "chat", endpoint := .chat, modality := .chat
    stream := false, inputTokensMax := 2, outputTokensMax := 1, reasoningTokensMax := 1
    toolsCount := 0, forcedToolRequired := false, responseSchemaPresent := false
    historyTurns := 1, deadlineMs := 1_000 }

/-- The request number `n`: four tokens and two units. -/
def sampleRequest (n : Nat) : ReservationRequest where
  requestId := TypedId.numbered .request n
  attemptId := TypedId.numbered .attempt n
  accountId := sampleAccountId
  legId := sampleLegId
  deploymentGenerationId := sampleDeployment
  runtimeIdentity :=
    { installationId := TypedId.numbered .installation 1
      dispatcherFence := 1
      bootId := TypedId.numbered .gatewayBoot 1
      bundleGeneration := 1
      bundleHash := TypedId.numbered .bundleHash 1 }
  deadlineAtMs := 100_000
  profile := sampleProfile
  inputTokensUpperBound := 2
  maxOutputTokens := 1
  maxReasoningTokens := 1
  quotaUnits := 2
  circuit := CircuitValue.closed 0
  valid := by
    simp [ReservationFields.validate, ReservationFields.totalTokenUpperBound, sampleProfile, maxInt]

/-- A journal that takes the record. -/
def sampleReply : Except RuntimeFault JournalReceipt :=
  .ok ⟨1, "0000000000000000000000000000000000000000000000000000000000000011"⟩

end LlmMaxxing
