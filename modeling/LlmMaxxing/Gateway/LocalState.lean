import LlmMaxxing.Core.Wire
import LlmMaxxing.Lib.Dict

/-!
# Durable Gateway state (`gateway/activation.py`, `GatewayLocalState`)

`Durable` is what survives a crash: the bundle directory, the pointer file and the tables of the
SQLite file. `Memory` is what the process holds beside it. A transaction is a function on
`Durable` that fails or takes effect as a whole.

A row or a file whose checksum does not match is *unreadable*. Bundle files hold bytes and are
checked by content hash; for the deny tables the two flags say whether every row passes its
checksum, and `sound` is the answer of `PRAGMA quick_check`.
-/

namespace LlmMaxxing

open Json Check

/-- Exceptions of the activation path. -/
inductive Raised where
  | valueError (message : String)
  | runtimeError (message : String)
  | duplicateCommand (message : String)
  | commandChainGap (message : String)
  | commandBootMismatch (message : String)
  | staleSecurityEpoch (message : String)
  | staleFenceEpoch (message : String)
  | databaseError (message : String)
  | osError
  | assertionError
  | cancelledError
  deriving DecidableEq, Repr

/-- `BundleLimits`. -/
structure BundleLimits where
  maxBundleBytes : Nat := 16 * 1024 * 1024
  maxKeys : Nat := 100_000
  maxPolicies : Nat := 100_000
  maxAccounts : Nat := 4_096
  maxRouteGroups : Nat := 100_000
  maxLegs : Nat := 100_000
  maxAuthorizedLegs : Nat := 1_000_000
  maxCommandRecords : Nat := 100_000
  maxAuthLeases : Nat := 128
  bundleBytes_bounds : 1 ≤ maxBundleBytes ∧ maxBundleBytes ≤ 16 * 1024 * 1024 := by decide
  keys_bounds : 1 ≤ maxKeys ∧ maxKeys ≤ 100_000 := by decide
  policies_bounds : 1 ≤ maxPolicies ∧ maxPolicies ≤ 100_000 := by decide
  accounts_bounds : 1 ≤ maxAccounts ∧ maxAccounts ≤ 4_096 := by decide
  routeGroups_bounds : 1 ≤ maxRouteGroups ∧ maxRouteGroups ≤ 100_000 := by decide
  legs_bounds : 1 ≤ maxLegs ∧ maxLegs ≤ 100_000 := by decide
  authorizedLegs_bounds : 1 ≤ maxAuthorizedLegs ∧ maxAuthorizedLegs ≤ 1_000_000 := by decide
  commandRecords_bounds : 16 ≤ maxCommandRecords ∧ maxCommandRecords ≤ 1_000_000 := by decide
  authLeases_bounds : 1 ≤ maxAuthLeases ∧ maxAuthLeases ≤ 10_000 := by decide

/-- What one installation is configured with; `bundleHash` is `bundle_hash`. -/
structure Config where
  limits : BundleLimits := {}
  securityEpoch : Nat
  backendManifestHash : String
  bundleHash : Bytes → BundleHash

/-- One row of `commands`. -/
structure CommandRow where
  commandId : CommandId
  digest : String
  channelEpoch : Nat
  sequence : Nat
  ackId : AckId
  status : GatewayAckStatus
  result : AckResult
  ack : Option GatewayAck
  deriving DecidableEq

/-- One row of `channel_state`. -/
structure ChannelHead where
  sequence : Nat
  digest : String
  deriving DecidableEq, Repr

/-- What survives a crash. -/
structure Durable where
  files : Dict BundleHash Bytes
  pointerFile : Option BundleReference
  active : Option BundleReference
  staged : Option BundleReference
  previous : Option BundleReference
  base : Option BaseReference
  commands : List CommandRow
  channels : Dict Nat ChannelHead
  denies : Dict DenySubject DenyOverlay
  denyHighwater : Dict DenySubject (Nat × Option Nat)
  leases : List AuthLease
  fenceEpoch : Nat
  takeoverState : TakeoverState
  denyHeartbeatMs : Nat
  recoveryReason : String
  sound : Bool
  deniesReadable : Bool
  highwaterReadable : Bool

/-- What the process holds beside the durable state. -/
structure Memory where
  bootId : GatewayBootId
  active : Option BundleReference
  staged : Option BundleReference
  previous : Option BundleReference
  base : Option BaseReference
  activeBundle : Option PolicyBundleV1
  recoveryReason : String
  recoveryRequired : Bool
  denies : Dict DenySubject DenyOverlay
  denyHighwater : Dict DenySubject (Nat × Option Nat)
  denyHeartbeatMs : Nat
  takeoverState : TakeoverState
  fenceEpoch : Nat

/-- A running process and its durable state. -/
structure Gateway where
  disk : Durable
  mem : Memory

namespace Durable

/-- A fresh state directory after `_load_identity`. -/
def empty : Durable where
  files := .empty
  pointerFile := none
  active := none
  staged := none
  previous := none
  base := none
  commands := []
  channels := .empty
  denies := .empty
  denyHighwater := .empty
  leases := []
  fenceEpoch := 1
  takeoverState := .none
  denyHeartbeatMs := 0
  recoveryReason := ""
  sound := true
  deniesReadable := true
  highwaterReadable := true

/-! ## Bundle files -/

/-- `store_bundle`. -/
def storeBundle (cfg : Config) (d : Durable) (payload : Bytes) (expected : BundleHash) :
    Except Raised Durable := do
  require (payload.length ≤ cfg.limits.maxBundleBytes)
    (.valueError "bundle size exceeds the configured limit")
  require (cfg.bundleHash payload = expected)
    (.valueError "bundle content hash differs from target")
  match d.files.get? expected with
  | some stored =>
    require (stored.length ≤ cfg.limits.maxBundleBytes)
      (.valueError "stored file exceeds its bounded read limit")
    require (stored = payload) (.valueError "content-addressed path contains different bytes")
    return d
  | none => return { d with files := d.files.insert expected payload }

/-- The canonical bundle a payload encodes, shared by `load_bundle` and `_validate_bundle`. -/
def canonicalBundle? (payload : Bytes) (invalid notCanonical : String) :
    Except Raised PolicyBundleV1 :=
  match decodeBundle payload with
  | .error _ => .error (.valueError invalid)
  | .ok bundle =>
    match canonicalBundleBytes bundle with
    | .error _ => .error (.valueError "integer exceeds the ECMAScript safe integer range")
    | .ok bytes => if bytes = payload then .ok bundle else .error (.valueError notCanonical)

/-- `load_bundle`. -/
def loadBundle (cfg : Config) (d : Durable) (expected : BundleHash) :
    Except Raised PolicyBundleV1 :=
  match d.files.get? expected with
  | none => .error .osError
  | some payload => do
    require (payload.length ≤ cfg.limits.maxBundleBytes)
      (.valueError "stored file exceeds its bounded read limit")
    require (cfg.bundleHash payload = expected) (.valueError "stored bundle is corrupt")
    canonicalBundle? payload "stored bundle is invalid" "stored bundle is not canonical"

/-- The bundle of a reference, with the generation it names. -/
def loadReference (cfg : Config) (d : Durable) (ref : BundleReference) (mismatch : String) :
    Except Raised PolicyBundleV1 := do
  let bundle ← d.loadBundle cfg ref.bundleHash
  require (bundle.generation = ref.generation) (.valueError mismatch)
  return bundle

/-! ## The command ledger -/

/-- The sequence number and the digest the next command of a channel epoch continues. -/
def chainHead (d : Durable) (channelEpoch : Nat) : Nat × String :=
  match d.channels.get? channelEpoch with
  | none => (1, zeroDigest)
  | some head => (head.sequence + 1, head.digest)

/-- `validate_new_command`. -/
def validateNewCommand (d : Durable) (c : VerifiedGatewayCommand) :
    Except Raised (Option CommandRow) :=
  match d.commands.find? fun row => row.commandId = c.commandId with
  | some row =>
    if row.digest = c.commandDigest then .ok (some row)
    else .error (.duplicateCommand "command ID reused with different bytes")
  | none =>
    if (c.sequence, c.previousDigest) = d.chainHead c.channelEpoch then .ok none
    else .error (.commandChainGap "command is not next in the digest chain")

/-- The acknowledged rows `_reserve_command_record` deletes: the oldest `excess` of them. -/
def pruned (rows : List CommandRow) (excess : Nat) : List CommandId :=
  ((sortOn (fun row => (toLex (row.channelEpoch, row.sequence) : Nat ×ₗ Nat))
    (rows.filter fun row => row.ack.isSome)).take excess).map CommandRow.commandId

/-- `_reserve_command_record`. -/
def reserveCommandRecord (limit : Nat) (rows : List CommandRow) :
    Except Raised (List CommandRow) :=
  let excess := rows.length + 1 - limit
  if excess = 0 then .ok rows
  else
    let victims := pruned rows excess
    let remaining := rows.filter fun row => row.commandId ∉ victims
    if limit ≤ remaining.length then .error (.runtimeError "command dedupe retention is full")
    else .ok remaining

/-- The row a command is recorded with. -/
def pendingRow (c : VerifiedGatewayCommand) (ackId : AckId) (ackStatus : GatewayAckStatus)
    (result : AckResult) : CommandRow where
  commandId := c.commandId
  digest := c.commandDigest
  channelEpoch := c.channelEpoch
  sequence := c.sequence
  ackId := ackId
  status := ackStatus
  result := result
  ack := none

/-- `_record_pending`, with the unique index on `(channel_epoch, sequence)`. -/
def recordPending (cfg : Config) (d : Durable) (c : VerifiedGatewayCommand) (ackId : AckId)
    (ackStatus : GatewayAckStatus) (result : AckResult) : Except Raised Durable := do
  let existing ← d.validateNewCommand c
  require (existing = none) (.duplicateCommand "command already recorded")
  let rows ← reserveCommandRecord cfg.limits.maxCommandRecords d.commands
  require (∀ row ∈ rows, ¬ (row.channelEpoch = c.channelEpoch ∧ row.sequence = c.sequence))
    (.databaseError "UNIQUE constraint failed: commands.channel_epoch, commands.sequence")
  return { d with
    commands := rows ++ [pendingRow c ackId ackStatus result]
    channels := d.channels.insert c.channelEpoch ⟨c.sequence, c.commandDigest⟩ }

/-- `push_ack`. -/
def pushAck (d : Durable) (ack : GatewayAck) : Except Raised Durable :=
  match d.commands.find? fun row => row.commandId = ack.commandId with
  | none => .error (.valueError "unknown command acknowledgement")
  | some row => do
    require (row.digest = ack.commandDigest ∧ row.ackId = ack.ackId)
      (.valueError "ack differs from pending command")
    match row.ack with
    | some stored =>
      require (stored = ack) (.valueError "different ACK already exists")
      return d
    | none =>
      return { d with
        commands := d.commands.map fun r =>
          if r.commandId = ack.commandId then { r with ack := some ack } else r }

/-! ## Authorization leases -/

/-- `_AUTH_LEASE_MS`. -/
def authLeaseMs : Nat := 15 * 60 * 1000

/-- `_prune_auth_leases`: expired leases and leases of other boots, then the oldest. -/
def pruneAuthLeases (cfg : Config) (bootId : GatewayBootId) (now : Nat) (leases : List AuthLease) :
    List AuthLease :=
  let live := leases.filter fun l => now < l.expiresAtMs ∧ l.bootId = bootId
  live.drop (live.length + 1 - cfg.limits.maxAuthLeases)

/-- `_current_lease`: the newest lease of the active bundle that covers `now`. -/
def currentLease (d : Durable) (m : Memory) (now : Nat) : Option AuthLease :=
  match m.active with
  | none => none
  | some active =>
    d.leases.reverse.find? fun l =>
      l.bundle = active ∧ l.issuedAtMs ≤ now ∧ now < l.expiresAtMs ∧ l.bootId = m.bootId

end Durable

/-! ## Views of the process -/

namespace Memory

/-- `_DENY_FRESH_MS`. -/
def denyFreshMs : Nat := 10_000

/-- `deny_floor_generation`. -/
def denyFloorGeneration (m : Memory) : Option Nat :=
  (m.denyHighwater.values.filterMap Prod.snd).max?

/-- `_heartbeat_fresh`. -/
def heartbeatFresh (m : Memory) (now : Nat) : Bool :=
  m.denyHeartbeatMs ≤ now && now - m.denyHeartbeatMs ≤ denyFreshMs

/-- `deny_all` at a clock reading. -/
def denyAll (m : Memory) (now : Nat) : Bool :=
  m.recoveryRequired || m.takeoverState == .fencedOld || !m.heartbeatFresh now

/-- `lifecycle`. -/
def lifecycle (m : Memory) : GatewayLifecycle :=
  if m.recoveryRequired then .recoveryRequired
  else if m.takeoverState = .fencedOld then .fencedOld
  else if m.staged ≠ none then .staged
  else if m.active ≠ none then .applied
  else .none

/-- The route group of a leg in the active bundle. -/
def routeGroupOf (m : Memory) (leg : AuthorizedLeg) : Option RouteGroupId :=
  m.activeBundle.bind fun b =>
    (b.routeGroups.find? fun g => g.legs.any fun l => l.legId = leg.legId).map
      RouteGroupRevision.routeGroupId

/-- `permits` at a clock reading. -/
def permits (m : Memory) (now : Nat) (leg : AuthorizedLeg) (routeGroupId : Option RouteGroupId) :
    Bool :=
  match routeGroupId <|> m.routeGroupOf leg with
  | none => false
  | some group =>
    !m.denyAll now &&
      !(m.denies.contains (.account leg.accountId) || m.denies.contains (.leg leg.legId) ||
        m.denies.contains (.routeGroup group))

/-- `current_auth_view().denied_key_ids` at a clock reading. -/
def deniedKeyIds (m : Memory) (now : Nat) : Except Raised (List String) :=
  match m.activeBundle, m.active with
  | some bundle, some _ =>
    .ok (if m.denyAll now then bundle.keys.map ClientKeyRecord.keyId else [])
  | _, _ => .error (.runtimeError "no verified active auth state")

/-- `validate_prepare_reference`. -/
def validatePrepareReference (m : Memory) (base : Option BaseReference) (ref : BundleReference) :
    Except Raised Unit := do
  require (m.active = base) (.valueError "activation base differs from active bundle")
  require (m.staged = none) (.valueError "another activation is staged")
  require (∀ floor ∈ m.denyFloorGeneration, floor < ref.generation)
    (.valueError "target generation does not exceed deny floor")
  require (∀ b ∈ base, b.generation < ref.generation)
    (.valueError "target generation must increase")

/-- `validate_commit_reference`. -/
def validateCommitReference (m : Memory) (target : BundleReference) : Except Raised Unit := do
  require (m.staged = some target) (.valueError "commit target differs from staged bundle")
  require (∀ floor ∈ m.denyFloorGeneration, floor < target.generation)
    (.valueError "commit target does not exceed deny floor")
  require (m.base = m.active) (.valueError "staged base differs from current active bundle")

end Memory

namespace Gateway

/-- What `readiness_probe` answers. -/
structure Readiness where
  singleton : Bool
  backend : Bool
  capacities : Bool

/-- `status`. -/
def status (g : Gateway) (r : Readiness) (now : Nat) : GatewayStatus :=
  let fresh := g.mem.heartbeatFresh now && !g.mem.recoveryRequired
  let lease := g.disk.currentLease g.mem now
  let serving :=
    if g.mem.recoveryRequired then [ReadinessReason.recovery]
    else if g.mem.takeoverState = .fencedOld then [.fenced]
    else if g.mem.active = none then [.noActive]
    else []
  { bootId := g.mem.bootId
    singletonHeld := r.singleton
    lifecycle := g.mem.lifecycle
    active := g.mem.active
    staged := g.mem.staged
    previous := g.mem.previous
    base := g.mem.base
    denyOverlay :=
      sortOn (fun q => (toLex (q.1.subjectType, q.1.subjectId) : String ×ₗ String))
        g.mem.denies.entries
    denyFloorGeneration := g.mem.denyFloorGeneration
    denyHeartbeatFresh := fresh
    authLease := lease
    dispatcherFence := g.mem.fenceEpoch
    takeoverState := g.mem.takeoverState
    unreadyReasons :=
      (if r.singleton then [] else [.singleton]) ++ serving ++
        (if fresh then [] else [.denyStale]) ++ (if lease.isSome then [] else [.authLease]) ++
        (if r.backend then [] else [.backend]) ++ (if r.capacities then [] else [.capacities]) }

/-! ## Loading the deny tables -/

/-- `_load_denies` then `_load_deny_highwater`: what is read stays read when the second fails. -/
def loadDenyTables (g : Gateway) : Gateway × Except Raised Unit :=
  if g.disk.deniesReadable then
    let read := { g.mem with denies := g.disk.denies }
    if g.disk.highwaterReadable then
      ({ g with mem := { read with denyHighwater := g.disk.denyHighwater } }, .ok ())
    else ({ g with mem := read }, .error (.valueError "corrupt deny high-water"))
  else (g, .error (.valueError "corrupt deny overlay"))

/-- A failed read of the deny tables: recovery is required. -/
def requireRecovery (g : Gateway) : Gateway :=
  { g with mem := { g.mem with recoveryRequired := true } }

/-- `_verify_deny_store`. -/
def verifyDenyStore (g : Gateway) : Gateway × Except Raised Unit :=
  match g.loadDenyTables with
  | (g', .ok ()) => (g', .ok ())
  | (g', .error e) => (g'.requireRecovery, .error e)

/-! ## Transactions of the commands -/

variable (cfg : Config)

/-- `stage_prepare`. -/
def stagePrepare (g : Gateway) (c : VerifiedGatewayCommand) (ref : BundleReference)
    (base : Option BaseReference) (ackId : AckId) : Except Raised Gateway := do
  g.mem.validatePrepareReference base ref
  let disk ← { g.disk with staged := some ref, base := base }.recordPending cfg c ackId .prepared
    (.target ref)
  return { disk, mem := { g.mem with staged := some ref, base := base } }

/-- The transaction of `commit_staged`, after the pointer file is written. -/
def commitStaged (g : Gateway) (c : VerifiedGatewayCommand) (target : BundleReference)
    (bundle : PolicyBundleV1) (ackId : AckId) : Except Raised Gateway := do
  let pointed := { g.disk with
    previous := g.mem.active, active := some target, staged := none, base := none }
  let disk ← pointed.recordPending cfg c ackId .applied (.active target)
  return { disk, mem := { g.mem with
    previous := g.mem.active, active := some target, activeBundle := some bundle, staged := none,
    base := none } }

/-- The checks of `issue_deny` against the high-water mark of its subject. -/
def checkHighwater (m : Memory) (payload : DenyCommandPayload) : Except Raised Unit :=
  match m.denyHighwater.get? payload.subject with
  | none => .ok ()
  | some (epoch, floor) => do
    require (epoch < payload.denyEpoch) (.valueError "deny epoch must strictly increase")
    require (∀ f ∈ floor, ∃ f' ∈ payload.denyFloorGeneration, f ≤ f')
      (.valueError "deny floor cannot contract")

/-- The overlay a deny command stores. -/
def overlayOf (payload : DenyCommandPayload) (now : Nat) : DenyOverlay :=
  ⟨payload.denyEpoch, payload.reason, payload.denyFloorGeneration, now⟩

/-- `issue_deny` after `_verify_deny_store`. -/
def issueDeny (g : Gateway) (c : VerifiedGatewayCommand) (payload : DenyCommandPayload) (now : Nat)
    (ackId : AckId) : Except Raised Gateway := do
  checkHighwater g.mem payload
  let overlay := overlayOf payload now
  let mark := (payload.denyEpoch, payload.denyFloorGeneration)
  let written := { g.disk with
    denies := g.disk.denies.insert payload.subject overlay
    denyHighwater := g.disk.denyHighwater.insert payload.subject mark
    denyHeartbeatMs := now }
  let disk ← written.recordPending cfg c ackId .denied (.deny payload)
  return { disk, mem := { g.mem with
    denies := g.mem.denies.insert payload.subject overlay
    denyHighwater := g.mem.denyHighwater.insert payload.subject mark
    denyHeartbeatMs := now } }

/-- `clear_deny` after `_verify_deny_store`. -/
def clearDeny (g : Gateway) (c : VerifiedGatewayCommand) (payload : ClearDenyCommandPayload)
    (now : Nat) (ackId : AckId) : Except Raised Gateway := do
  require (∃ overlay ∈ g.mem.denies.get? payload.subject, overlay.denyEpoch = payload.denyEpoch)
    (.valueError "clear-deny requires exact current epoch")
  let written := { g.disk with
    denies := g.disk.denies.erase payload.subject
    denyHeartbeatMs := now }
  let disk ← written.recordPending cfg c ackId .denyCleared (.cleared payload)
  return { disk, mem := { g.mem with
    denies := g.mem.denies.erase payload.subject
    denyHeartbeatMs := now } }

/-- The rows `_renew_deny_rows` writes, and the memory that mirrors them. -/
def renewRows (g : Gateway) (now : Nat) : Gateway :=
  let renewed := g.mem.denies.mapValues fun _ o => { o with heartbeatAtMs := now }
  { disk := { g.disk with denies := renewed, denyHeartbeatMs := now }
    mem := { g.mem with denies := renewed, denyHeartbeatMs := now } }

/-- `issue_auth_lease`. -/
def issueAuthLease (g : Gateway) (leaseId : TypedId .authLease) (now : Nat) :
    Except Raised Gateway :=
  match g.mem.active with
  | none => .error (.runtimeError "healthy active state is required for auth lease")
  | some active => do
    require (g.mem.denyAll now = false)
      (.runtimeError "healthy active state is required for auth lease")
    return { g with disk := { g.disk with
      leases := g.disk.leases ++ [⟨leaseId, g.mem.bootId, active, now, now + Durable.authLeaseMs⟩] } }

/-- `self.issue_auth_lease(now) if issue_lease else None`. -/
def leaseIf (g : Gateway) (issueLease : Bool) (leaseId : TypedId .authLease) (now : Nat) :
    Except Raised Gateway :=
  if issueLease then g.issueAuthLease leaseId now else .ok g

/-- The transaction of `record_status` on a state whose deny tables were just read. -/
def recordStatus (g : Gateway) (c : VerifiedGatewayCommand) (issueLease : Bool) (now : Nat)
    (serviceNow : Nat) (r : Readiness) (leaseId : TypedId .authLease) (ackId : AckId) :
    Except Raised Gateway := do
  let renewed := g.renewRows now
  let trimmed := { renewed with disk := { renewed.disk with
    leases := Durable.pruneAuthLeases cfg g.mem.bootId now renewed.disk.leases } }
  let leased ← trimmed.leaseIf issueLease leaseId now
  let disk ← leased.disk.recordPending cfg c ackId .status (.status (leased.status r serviceNow))
  return { leased with disk }

end Gateway

end LlmMaxxing
