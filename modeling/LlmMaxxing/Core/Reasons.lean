import LlmMaxxing.Lib.StrEnum

/-!
# Closed vocabularies (`core/reasons.py`, `core/state_machines.py`)

Every enumeration is closed: an unknown spelling fails to read rather than being coerced to
a default.
-/

namespace LlmMaxxing

/-- Typed causes that may activate a non-primary leg. -/
inductive RouteTrigger where
  | primary | capacitySpill | failureFallback | quotaFallback | manualEmergency | shadow
  deriving DecidableEq, Repr

instance : StrEnum RouteTrigger where
  value
    | .primary => "primary"
    | .capacitySpill => "capacity_spill"
    | .failureFallback => "failure_fallback"
    | .quotaFallback => "quota_fallback"
    | .manualEmergency => "manual_emergency"
    | .shadow => "shadow"
  members := [
    .primary, .capacitySpill, .failureFallback,
    .quotaFallback, .manualEmergency, .shadow]

/-- V1 supports exactly one deterministic strategy. -/
inductive RouteStrategy where
  | orderedCapacity
  deriving DecidableEq, Repr

instance : StrEnum RouteStrategy where
  value
    | .orderedCapacity => "ordered_capacity"
  members := [.orderedCapacity]

/-- Certified V1 inference endpoints. -/
inductive EndpointKind where
  | chat | text | embeddings | rerank | audioSpeech | audioTranscription | image
  deriving DecidableEq, Repr

instance : StrEnum EndpointKind where
  value
    | .chat => "chat"
    | .text => "text"
    | .embeddings => "embeddings"
    | .rerank => "rerank"
    | .audioSpeech => "audio_speech"
    | .audioTranscription => "audio_transcription"
    | .image => "image"
  members := [.chat, .text, .embeddings, .rerank, .audioSpeech, .audioTranscription, .image]

/-- Serving causes plus the one explicitly non-serving shadow cause. -/
inductive DispatchCause where
  | primary | capacity | failure | quota | manualEmergency | shadow
  deriving DecidableEq, Repr

instance : StrEnum DispatchCause where
  value
    | .primary => "primary"
    | .capacity => "capacity"
    | .failure => "failure"
    | .quota => "quota"
    | .manualEmergency => "manual_emergency"
    | .shadow => "shadow"
  members := [.primary, .capacity, .failure, .quota, .manualEmergency, .shadow]

/-- Request modality accepted by the V1 profiler. -/
inductive Modality where
  | chat | text | responses | messages | embedding | rerank | audioSpeech | audioTranscription
  | audioTranslation | image
  deriving DecidableEq, Repr

instance : StrEnum Modality where
  value
    | .chat => "chat"
    | .text => "text"
    | .responses => "responses"
    | .messages => "messages"
    | .embedding => "embedding"
    | .rerank => "rerank"
    | .audioSpeech => "audio_speech"
    | .audioTranscription => "audio_transcription"
    | .audioTranslation => "audio_translation"
    | .image => "image"
  members := [
    .chat, .text, .responses, .messages, .embedding,
    .rerank, .audioSpeech, .audioTranscription, .audioTranslation, .image]

/-- Whether one provider quota dimension is bounded, unknown or unlimited. -/
inductive QuotaDimensionStatus where
  | known | unknown | attestedAbsent
  deriving DecidableEq, Repr

instance : StrEnum QuotaDimensionStatus where
  value
    | .known => "known"
    | .unknown => "unknown"
    | .attestedAbsent => "attested_absent"
  members := [.known, .unknown, .attestedAbsent]

/-- Closed V1 bundle feature bits. -/
inductive RequiredFeature where
  | orderedCapacity | weightedFairQueue | expiryDenyOverlay | emergencyLegActivation | shadowLegs
  | credentialGenerationFence
  deriving DecidableEq, Repr

instance : StrEnum RequiredFeature where
  value
    | .orderedCapacity => "ordered_capacity"
    | .weightedFairQueue => "weighted_fair_queue"
    | .expiryDenyOverlay => "expiry_deny_overlay"
    | .emergencyLegActivation => "emergency_leg_activation"
    | .shadowLegs => "shadow_legs"
    | .credentialGenerationFence => "credential_generation_fence"
  members := [
    .orderedCapacity, .weightedFairQueue, .expiryDenyOverlay,
    .emergencyLegActivation, .shadowLegs, .credentialGenerationFence]

/-- Closed set of terminal request outcomes. -/
inductive TerminalOutcome where
  | authzDenied | authStateUnavailable | unsupportedRequest | backpressureRejected
  | routeUnavailable | deadlineExceeded | upstreamFailed | clientCancelled | responseStreamFailed
  | completed
  deriving DecidableEq, Repr

instance : StrEnum TerminalOutcome where
  value
    | .authzDenied => "authz_denied"
    | .authStateUnavailable => "auth_state_unavailable"
    | .unsupportedRequest => "unsupported_request"
    | .backpressureRejected => "backpressure_rejected"
    | .routeUnavailable => "route_unavailable"
    | .deadlineExceeded => "deadline_exceeded"
    | .upstreamFailed => "upstream_failed"
    | .clientCancelled => "client_cancelled"
    | .responseStreamFailed => "response_stream_failed"
    | .completed => "completed"
  members := [
    .authzDenied, .authStateUnavailable, .unsupportedRequest, .backpressureRejected, .routeUnavailable,
    .deadlineExceeded, .upstreamFailed, .clientCancelled, .responseStreamFailed, .completed]

/-- Result of the single provider-failure classifier. -/
inductive FailureCause where
  | capacity | transientFailure | quota | unknown
  deriving DecidableEq, Repr

/-- Circuit boundary proven by normalized provider evidence. -/
inductive FailureScope where
  | account | deployment | unknown
  deriving DecidableEq, Repr

/-- Client-key lifecycle (`core/state_machines.py`). -/
inductive KeyLifecycleState where
  | draft | enabled | suspended | revoked
  deriving DecidableEq, Repr

instance : StrEnum KeyLifecycleState where
  value
    | .draft => "draft"
    | .enabled => "enabled"
    | .suspended => "suspended"
    | .revoked => "revoked"
  members := [.draft, .enabled, .suspended, .revoked]

/-- Lifecycle of one credential verifier generation (`core/state_machines.py`). -/
inductive CredentialVerifierStatus where
  | active | retiring | retired | expired
  deriving DecidableEq, Repr

instance : StrEnum CredentialVerifierStatus where
  value
    | .active => "active"
    | .retiring => "retiring"
    | .retired => "retired"
    | .expired => "expired"
  members := [.active, .retiring, .retired, .expired]

/-- Provider account lifecycle; `draft` is never servable (`core/state_machines.py`). -/
inductive AccountState where
  | draft | active | disabled | tombstoned
  deriving DecidableEq, Repr

instance : StrEnum AccountState where
  value
    | .draft => "draft"
    | .active => "active"
    | .disabled => "disabled"
    | .tombstoned => "tombstoned"
  members := [.draft, .active, .disabled, .tombstoned]

/-- `MAX_MIN_READER`: highest Gateway reader version this build can satisfy. -/
def maxMinReader : Nat × Nat := (1, 0)

end LlmMaxxing
