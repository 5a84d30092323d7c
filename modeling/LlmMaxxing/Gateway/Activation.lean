import LlmMaxxing.Gateway.LocalState

/-!
# Executing commands (`gateway/activation.py`, `ActivationService`)

`execute` runs one authenticated command to its end. Its `Effect` keeps the durable states the
process passes through, in order: a crash leaves the durable state before the call or one of
these, and nothing of the memory. `openState` is the restart.

A command holds the command lock from its first check to its acknowledgement, so one command is
one step; what the collaborators answer during it (clock, generation gate, preflight, the live
swap, a cancelled caller) is the step's `Env`.
-/

namespace LlmMaxxing

open Json Check

/-- What the world answers during one command. -/
structure Env where
  /-- the clock of the local state -/
  now : Nat
  /-- the clock of the service -/
  serviceNow : Nat
  ackId : AckId
  leaseId : TypedId .authLease
  generationGate : AuthorizedLeg → String → Bool
  /-- `preflight_bundle` returns -/
  preflight : PolicyBundleV1 → Bool
  /-- `apply_bundle` returns -/
  applies : PolicyBundleV1 → Bool
  readiness : Gateway.Readiness
  /-- the caller is cancelled while the bundle file is stored -/
  cancelledStoring : Bool := false
  /-- the caller is cancelled while the command is recorded -/
  cancelledRecording : Bool := false

/-- How a call ends: the durable states passed through, the process after it, the outcome. -/
structure Effect (α : Type) where
  passed : List Durable
  after : Gateway
  outcome : Except Raised α

namespace Effect

variable {α : Type}

/-- The call ends by raising, after the given durable states. -/
def raised (g : Gateway) (e : Raised) (passed : List Durable := []) : Effect α :=
  ⟨passed, g, .error e⟩

/-- The same effect after some durable states were passed through. -/
def preceded (e : Effect α) (passed : List Durable) : Effect α :=
  { e with passed := passed ++ e.passed }

/-- A cancelled caller does not receive the result. -/
def unlessCancelled (e : Effect α) (cancelled : Bool) : Effect α :=
  match e.outcome with
  | .ok _ => if cancelled then { e with outcome := .error .cancelledError } else e
  | .error _ => e

end Effect

namespace Gateway

variable (cfg : Config)

/-! ## Checks of the service -/

/-- `_assert_current_fence`. -/
def assertCurrentFence (g : Gateway) (c : VerifiedGatewayCommand) : Except Raised Unit :=
  require (c.dispatcherFence = g.mem.fenceEpoch)
    (.staleFenceEpoch "command dispatcher fence changed while waiting")

/-- `_assert_unseen_binding`. -/
def assertUnseenBinding (g : Gateway) (c : VerifiedGatewayCommand) : Except Raised Unit := do
  require (c.bootId = g.mem.bootId) (.commandBootMismatch "command names another Gateway boot")
  require (c.securityEpoch = cfg.securityEpoch)
    (.staleSecurityEpoch "command security epoch is not current")
  g.assertCurrentFence c

/-- `_policy_matches`. -/
def policyMatches (policy : Option ActivationEnvelope) (base : Option BaseReference)
    (target : BundleReference) : Except Raised Unit :=
  require (policy = some ⟨base, target⟩)
    (.valueError "signed policy does not bind exact base/target")

/-- `_active_policy`. -/
def activePolicy (g : Gateway) (policy : Option ActivationEnvelope) : Except Raised Unit :=
  require (∃ active ∈ g.mem.active, ∃ p ∈ policy, p.target = active)
    (.valueError "signed policy does not bind active bundle")

/-- The object counts of a bundle stay within the limits. -/
def withinLimits (limits : BundleLimits) (b : PolicyBundleV1) : Prop :=
  b.keys.length ≤ limits.maxKeys ∧ b.policies.length ≤ limits.maxPolicies ∧
    b.accounts.length ≤ limits.maxAccounts ∧ b.routeGroups.length ≤ limits.maxRouteGroups ∧
    b.legs.length ≤ limits.maxLegs ∧
    (b.policies.flatMap KeyPolicyRevision.authorizedLegs).length ≤ limits.maxAuthorizedLegs

instance (limits : BundleLimits) (b : PolicyBundleV1) : Decidable (withinLimits limits b) :=
  inferInstanceAs (Decidable (_ ∧ _))

/-- `_validate_bundle`. -/
def validateBundle (env : Env) (raw : Bytes) (target : BundleReference) :
    Except Raised PolicyBundleV1 := do
  require (raw.length ≤ cfg.limits.maxBundleBytes)
    (.valueError "bundle size exceeds the configured limit")
  require (cfg.bundleHash raw = target.bundleHash) (.valueError "bundle hash differs from target")
  let bundle ← Durable.canonicalBundle? raw "bundle schema is invalid" "bundle is not canonical JSON"
  require (bundle.generation = target.generation) (.valueError "bundle generation differs")
  require (bundle.backendManifestHash = cfg.backendManifestHash)
    (.valueError "backend manifest differs")
  require (withinLimits cfg.limits bundle) (.valueError "bundle object count exceeds limit")
  require (∀ p ∈ bundle.policies, ∀ leg ∈ p.authorizedLegs,
      env.generationGate leg bundle.backendManifestHash = true)
    (.valueError "bundle deployment generation is not operational")
  require (env.preflight bundle = true) (.valueError "preflight failed")
  return bundle

/-! ## Acknowledging -/

/-- The acknowledgement `_ack` builds for a recorded command. -/
def buildAck (c : VerifiedGatewayCommand) (row : CommandRow) (env : Env) : GatewayAck where
  ackId := row.ackId
  commandId := c.commandId
  commandDigest := c.commandDigest
  channelEpoch := c.channelEpoch
  securityEpoch := c.securityEpoch
  dispatcherFence := c.dispatcherFence
  bootId := c.bootId
  sequence := c.sequence
  status := row.status
  acknowledgedAtMs := env.serviceNow
  result := row.result

/-- `_ack`. -/
def acknowledge (g : Gateway) (c : VerifiedGatewayCommand) (row : CommandRow) (env : Env) :
    Effect GatewayAck :=
  match row.ack with
  | some ack => ⟨[], g, .ok ack⟩
  | none =>
    if row.status = .applied ∧ g.mem.lifecycle = .recoveryRequired then
      .raised g (.runtimeError "live bundle recovery is required before APPLIED ACK")
    else
      match g.disk.pushAck (buildAck c row env) with
      | .error e => .raised g e
      | .ok disk => ⟨[disk], { g with disk }, .ok (buildAck c row env)⟩

/-- Look the command up again and acknowledge it: the tail of every handler. -/
def acknowledgeRecorded (g : Gateway) (c : VerifiedGatewayCommand) (env : Env) :
    Effect GatewayAck :=
  match g.disk.validateNewCommand c with
  | .ok (some row) => g.acknowledge c row env
  | .ok none => .raised g .assertionError
  | .error e => .raised g e

/-! ## Handlers -/

/-- `_prepare` and the acknowledgement that follows it in `execute`. -/
def prepare (g : Gateway) (c : VerifiedGatewayCommand) (base : Option BaseReference)
    (target : BundleReference) (bundle : Option Bytes) (env : Env) : Effect GatewayAck :=
  match bundle with
  | none => .raised g (.valueError "bundle is not canonical base64")
  | some raw =>
    let checks : Except Raised Unit := do
      let _ ← validateBundle cfg env raw target
      policyMatches c.policy base target
      g.mem.validatePrepareReference base target
    match checks with
    | .error e => .raised g e
    | .ok () =>
      match g.disk.storeBundle cfg raw target.bundleHash with
      | .error e => .raised g e
      | .ok stored =>
        let holding : Gateway := { g with disk := stored }
        if env.cancelledStoring then .raised holding .cancelledError [stored]
        else
          match (do holding.assertCurrentFence c; holding.stagePrepare cfg c target base env.ackId :
              Except Raised Gateway) with
          | .error e => .raised holding e [stored]
          | .ok recorded =>
            if env.cancelledRecording then
              .raised recorded .cancelledError [stored, recorded.disk]
            else (recorded.acknowledgeRecorded c env).preceded [stored, recorded.disk]

/-- `enter_recovery_required`. -/
def enterRecoveryRequired (g : Gateway) (reason : String) : Gateway where
  disk := { g.disk with recoveryReason := reason }
  mem := { g.mem with recoveryReason := reason, recoveryRequired := true }

/-- `_commit`. -/
def commit (g : Gateway) (c : VerifiedGatewayCommand) (target : BundleReference) (env : Env) :
    Effect GatewayAck :=
  let checks : Except Raised PolicyBundleV1 := do
    policyMatches c.policy g.mem.base target
    g.assertCurrentFence c
    g.mem.validateCommitReference target
    g.disk.loadBundle cfg target.bundleHash
  match checks with
  | .error e => .raised g e
  | .ok bundle =>
    let pointed : Gateway := { g with disk := { g.disk with pointerFile := some target } }
    match pointed.commitStaged cfg c target bundle env.ackId with
    | .error e => .raised pointed e [pointed.disk]
    | .ok recorded =>
      let passed := [pointed.disk, recorded.disk]
      if env.applies bundle then
        ((recorded.acknowledgeRecorded c env).unlessCancelled env.cancelledRecording).preceded passed
      else
        let failed := recorded.enterRecoveryRequired "live_swap_failed"
        .raised failed (.runtimeError "apply_bundle failed") (passed ++ [failed.disk])

/-- The part `_deny` and `_clear` share: policy, fence, deny store, transaction, acknowledgement. -/
def overlayCommand (g : Gateway) (c : VerifiedGatewayCommand) (env : Env)
    (write : Gateway → Except Raised Gateway) : Effect GatewayAck :=
  match (do g.activePolicy c.policy; g.assertCurrentFence c : Except Raised Unit) with
  | .error e => .raised g e
  | .ok () =>
    match g.verifyDenyStore with
    | (read, .error e) => .raised read e
    | (read, .ok ()) =>
      match write read with
      | .error e => .raised read e
      | .ok recorded =>
        ((recorded.acknowledgeRecorded c env).unlessCancelled env.cancelledRecording).preceded
          [recorded.disk]

/-- `_deny`. -/
def deny (g : Gateway) (c : VerifiedGatewayCommand) (payload : DenyCommandPayload) (env : Env) :
    Effect GatewayAck :=
  g.overlayCommand c env fun read => read.issueDeny cfg c payload env.now env.ackId

/-- `_clear`. -/
def clear (g : Gateway) (c : VerifiedGatewayCommand) (payload : ClearDenyCommandPayload)
    (env : Env) : Effect GatewayAck :=
  g.overlayCommand c env fun read => read.clearDeny cfg c payload env.now env.ackId

/-- The memory `record_status` leaves when it raises: overlays and heartbeat restored, the
high-water marks as read. -/
def restoreOverlays (g read : Gateway) : Gateway :=
  { g with mem := { g.mem with denyHighwater := read.mem.denyHighwater } }

/-- `_status`. -/
def statusCommand (g : Gateway) (c : VerifiedGatewayCommand) (issueAuthLease : Bool) (env : Env) :
    Effect GatewayAck :=
  match g.assertCurrentFence c with
  | .error e => .raised g e
  | .ok () =>
    match g.loadDenyTables with
    | (read, .error e) => .raised (g.restoreOverlays read) e
    | (read, .ok ()) =>
      match read.recordStatus cfg c issueAuthLease env.now env.serviceNow env.readiness env.leaseId
        env.ackId with
      | .error e => .raised (g.restoreOverlays read) e
      | .ok recorded =>
        ((recorded.acknowledgeRecorded c env).unlessCancelled env.cancelledRecording).preceded
          [recorded.disk]

/-- `execute` on an authenticated command. -/
def execute (g : Gateway) (c : VerifiedGatewayCommand) (env : Env) : Effect GatewayAck :=
  match g.disk.validateNewCommand c with
  | .error e => .raised g e
  | .ok (some row) => g.acknowledge c row env
  | .ok none =>
    match g.assertUnseenBinding cfg c with
    | .error e => .raised g e
    | .ok () =>
      match c.body with
      | .prepare base target bundle => g.prepare cfg c base target bundle env
      | .commit target => g.commit cfg c target env
      | .deny payload => g.deny cfg c payload env
      | .clearDeny payload => g.clear cfg c payload env
      | .status issueAuthLease => g.statusCommand cfg c issueAuthLease env
      | .malformed _ => .raised g (.valueError "payload validation failed")

end Gateway

end LlmMaxxing
