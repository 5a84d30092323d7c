import LlmMaxxing.Core.Canonical

/-!
# The wire contract between Control and Gateway (`core/wire.py`)

Commands, acknowledgements and the records they carry. A command is represented as
`authenticate_gateway_command` returns it: signatures checked, the digest computed, the policy
envelope decoded. Its payload is kept undecoded by the source until the handler reads it; here
the decoded payload is the command's `body`, with `malformed` for a payload its handler refuses.
-/

namespace LlmMaxxing

open Json

/-- An integer a signed document can carry: positive and in the safe range. -/
def SafePositive (n : Nat) : Prop := 1 ≤ n ∧ n ≤ maxSafeInteger

instance (n : Nat) : Decidable (SafePositive n) := inferInstanceAs (Decidable (_ ∧ _))

/-! ## References and policy envelopes -/

/-- `BundleReference`. -/
structure BundleReference where
  generation : Nat
  bundleHash : BundleHash
  safe : SafePositive generation
  deriving DecidableEq

/-- `BaseReference`: the reference of an applied bundle; genesis is `none`. -/
abbrev BaseReference := BundleReference

/-- `ActivationEnvelope`, as the pair it approves. -/
structure ActivationEnvelope where
  base : Option BaseReference
  target : BundleReference
  deriving DecidableEq

/-! ## Deny overlays -/

/-- `(subject_type, subject_id)` with the id of the type's class. -/
inductive DenySubject where
  | routeGroup (id : RouteGroupId)
  | account (id : AccountId)
  | leg (id : RouteLegId)
  deriving DecidableEq

namespace DenySubject

/-- `subject_type.value`. -/
def subjectType : DenySubject → String
  | routeGroup _ => "route_group"
  | account _ => "account"
  | leg _ => "leg"

/-- `subject_id`. -/
def subjectId : DenySubject → String
  | routeGroup id => id.text
  | account id => id.text
  | leg id => id.text

end DenySubject

/-- `DenyReason`. -/
inductive DenyReason where
  | emergency | maintenance | compromise | rollbackHold
  deriving DecidableEq, Repr

/-- `DenyCommandPayload`. -/
structure DenyCommandPayload where
  subject : DenySubject
  denyEpoch : Nat
  reason : DenyReason
  denyFloorGeneration : Option Nat := none
  safeEpoch : SafePositive denyEpoch
  safeFloor : ∀ f ∈ denyFloorGeneration, SafePositive f
  deriving DecidableEq

/-- `ClearDenyCommandPayload`. -/
structure ClearDenyCommandPayload where
  subject : DenySubject
  denyEpoch : Nat
  safeEpoch : SafePositive denyEpoch
  deriving DecidableEq

/-- `DenyOverlayV1` without its subject, which is the key it is stored under. -/
structure DenyOverlay where
  denyEpoch : Nat
  reason : DenyReason
  denyFloorGeneration : Option Nat
  heartbeatAtMs : Nat
  deriving DecidableEq

/-! ## Commands -/

/-- `WireCommandKind`. -/
inductive WireCommandKind where
  | prepare | commit | deny | clearDeny | status
  deriving DecidableEq, Repr

/-- The payload of a command, decoded for its kind. -/
inductive CommandBody where
  /-- `bundle` is the decoded `bundle_b64`; `none` when it is not base64. -/
  | prepare (base : Option BaseReference) (target : BundleReference) (bundle : Option Bytes)
  | commit (target : BundleReference)
  | deny (payload : DenyCommandPayload)
  | clearDeny (payload : ClearDenyCommandPayload)
  | status (issueAuthLease : Bool)
  | malformed (kind : WireCommandKind)
  deriving DecidableEq

/-- `command.kind`. -/
def CommandBody.kind : CommandBody → WireCommandKind
  | prepare .. => .prepare
  | commit .. => .commit
  | deny .. => .deny
  | clearDeny .. => .clearDeny
  | status .. => .status
  | malformed k => k

/-- `VerifiedGatewayCommand`. -/
structure VerifiedGatewayCommand where
  commandId : CommandId
  commandDigest : String
  channelEpoch : Nat
  securityEpoch : Nat
  dispatcherFence : Nat
  bootId : GatewayBootId
  sequence : Nat
  previousDigest : String
  body : CommandBody
  policy : Option ActivationEnvelope
  safeEpoch : SafePositive channelEpoch
  safeSequence : SafePositive sequence
  /-- `_policy_presence_is_closed`. -/
  policyPresence : body.kind ≠ .status ↔ policy.isSome = true
  deriving DecidableEq

/-- `_ZERO_DIGEST`. -/
def zeroDigest : String := "0000000000000000000000000000000000000000000000000000000000000000"

/-! ## Status and acknowledgements -/

/-- `GatewayLifecycle`. -/
inductive GatewayLifecycle where
  | none | staged | applied | recoveryRequired | fencedOld
  deriving DecidableEq, Repr

/-- `ReadinessReason`. -/
inductive ReadinessReason where
  | singleton | noActive | recovery | fenced | denyStale | authLease | backend | capacities
  deriving DecidableEq, Repr

/-- `TakeoverState`. -/
inductive TakeoverState where
  | none | fencedOld | released
  deriving DecidableEq, Repr

/-- `AuthLeaseV1`. -/
structure AuthLease where
  leaseId : TypedId .authLease
  bootId : GatewayBootId
  bundle : BundleReference
  issuedAtMs : Nat
  expiresAtMs : Nat
  deriving DecidableEq

/-- `GatewayStatusV1`. -/
structure GatewayStatus where
  bootId : GatewayBootId
  singletonHeld : Bool
  lifecycle : GatewayLifecycle
  active : Option BundleReference
  staged : Option BundleReference
  previous : Option BundleReference
  base : Option BaseReference
  denyOverlay : List (DenySubject × DenyOverlay)
  denyFloorGeneration : Option Nat
  denyHeartbeatFresh : Bool
  authLease : Option AuthLease
  dispatcherFence : Nat
  takeoverState : TakeoverState
  unreadyReasons : List ReadinessReason
  deriving DecidableEq

/-- `readiness`. -/
def GatewayStatus.ready (s : GatewayStatus) : Bool := s.unreadyReasons.isEmpty

/-- `GatewayAckStatus`. -/
inductive GatewayAckStatus where
  | prepared | applied | denied | denyCleared | status
  deriving DecidableEq, Repr

/-- The `result` object of an acknowledgement. -/
inductive AckResult where
  | target (ref : BundleReference)
  | active (ref : BundleReference)
  | deny (payload : DenyCommandPayload)
  | cleared (payload : ClearDenyCommandPayload)
  | status (status : GatewayStatus)
  deriving DecidableEq

/-- `GatewayAckV1`; the seal is a function of the other fields. -/
structure GatewayAck where
  ackId : AckId
  commandId : CommandId
  commandDigest : String
  channelEpoch : Nat
  securityEpoch : Nat
  dispatcherFence : Nat
  bootId : GatewayBootId
  sequence : Nat
  status : GatewayAckStatus
  acknowledgedAtMs : Nat
  result : AckResult
  deriving DecidableEq

end LlmMaxxing
