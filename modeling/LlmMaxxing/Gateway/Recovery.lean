import LlmMaxxing.Gateway.Activation

/-!
# Restarts and runs of one installation

`openState` is `GatewayLocalState.open`: it rebuilds the memory from the durable state, and on
anything unreadable clears the active reference and requires recovery. A `Host` is an
installation that is up or down; an `Event` is a delivered command, a crash at any durable point,
a restart, one of the other operations of the local state, or damage to what is stored.
-/

namespace LlmMaxxing

open Json Check

/-! ## `GatewayLocalState.open` -/

namespace Durable

/-- `_load_identity`: the memory read from `meta`. -/
def identity (d : Durable) (bootId : GatewayBootId) : Memory where
  bootId := bootId
  active := none
  staged := none
  previous := none
  base := none
  activeBundle := none
  recoveryReason := d.recoveryReason
  recoveryRequired := d.recoveryReason ≠ ""
  denies := .empty
  denyHighwater := .empty
  denyHeartbeatMs := 0
  takeoverState := d.takeoverState
  fenceEpoch := d.fenceEpoch

/-- The four pointer rows. -/
def readPointers (d : Durable) (m : Memory) : Memory :=
  { m with active := d.active, staged := d.staged, previous := d.previous, base := d.base }

/-- The previous bundle, if there is one, loads. -/
def loadPrevious (cfg : Config) (d : Durable) : Except Raised Unit :=
  match d.previous with
  | none => .ok ()
  | some ref => (d.loadBundle cfg ref.bundleHash).map fun _ => ()

/-- The active bundle, if there is one, loads with the generation of its pointer. -/
def loadActive (cfg : Config) (d : Durable) : Except Raised (Option PolicyBundleV1) :=
  match d.active with
  | none => .ok none
  | some ref => (d.loadReference cfg ref "active generation mismatch").map some

/-- The previous and the active bundle load; the result is the active one. -/
def loadCurrent (cfg : Config) (d : Durable) : Except Raised (Option PolicyBundleV1) := do
  d.loadPrevious cfg
  d.loadActive cfg

/-- `_quarantine_bundle` and the transaction that forgets the staged bundle. -/
def quarantineStaged (d : Durable) (ref : BundleReference) : Durable :=
  { d with files := d.files.erase ref.bundleHash, staged := none, base := none }

/-- The durable state after the staged bundle was checked. -/
def checkStaged (cfg : Config) (d : Durable) : Durable :=
  match d.staged with
  | none => d
  | some ref =>
    match d.loadReference cfg ref "staged generation mismatch" with
    | .ok _ => d
    | .error _ => d.quarantineStaged ref

/-- `_backfill_deny_highwater`: `INSERT OR IGNORE` for every overlay. -/
def backfillDenyHighwater (d : Durable) : Durable :=
  { d with
    denyHighwater := d.denies.entries.foldl
      (fun marks q =>
        if marks.contains q.1 then marks
        else marks.insert q.1 (q.2.denyEpoch, q.2.denyFloorGeneration))
      d.denyHighwater }

/-- `_reconcile_pointer`. -/
def reconcilePointer (d : Durable) : Durable := { d with pointerFile := d.active }

end Durable

namespace Gateway

/-- The `except` branch of `_recover`. -/
def recoveryFailed (g : Gateway) : Gateway :=
  { g with mem := { g.mem with active := none, activeBundle := none, recoveryRequired := true } }

/-- `open` on a closed state directory, with the durable states passed through. -/
def openState (cfg : Config) (d : Durable) (bootId : GatewayBootId) : List Durable × Gateway :=
  let m := d.identity bootId
  if d.sound = false then ([], recoveryFailed ⟨d, m⟩)
  else
    let m := d.readPointers m
    match d.loadCurrent cfg with
    | .error _ => ([], recoveryFailed ⟨d, m⟩)
    | .ok bundle =>
      let checked := d.checkStaged cfg
      let m := { m with activeBundle := bundle, staged := checked.staged, base := checked.base }
      if d.deniesReadable = false then ([checked], recoveryFailed ⟨checked, m⟩)
      else
        let m := { m with denies := checked.denies }
        let backfilled := checked.backfillDenyHighwater
        if d.highwaterReadable = false then
          ([checked, backfilled], recoveryFailed ⟨backfilled, m⟩)
        else
          let m := { m with denyHighwater := backfilled.denyHighwater }
          let opened := backfilled.reconcilePointer
          ([checked, backfilled, opened], ⟨opened, m⟩)

/-! ## Other operations of the local state -/

/-- `renew_deny_heartbeats`. -/
def renewDenyHeartbeats (g : Gateway) (now : Nat) : Gateway :=
  if now < 1 then g
  else
    match g.loadDenyTables with
    | (read, .ok ()) => read.renewRows now
    | (read, .error _) => read.requireRecovery

/-- `confirm_live_bundle`. -/
def confirmLiveBundle (g : Gateway) (ref : BundleReference) : Gateway :=
  if g.mem.recoveryReason = "live_swap_failed" ∧ g.mem.active = some ref ∧ g.mem.activeBundle ≠ none
  then
    { disk := { g.disk with recoveryReason := "" }
      mem := { g.mem with recoveryReason := "", recoveryRequired := false } }
  else g

/-- `record_old_fence`. -/
def recordOldFence (g : Gateway) (fenceEpoch : Nat) : Gateway :=
  if g.mem.fenceEpoch < fenceEpoch then
    { disk := { g.disk with fenceEpoch, takeoverState := .fencedOld }
      mem := { g.mem with fenceEpoch, takeoverState := .fencedOld } }
  else g

/-- The first transaction of `accept_takeover`. -/
def receiveTakeover (g : Gateway) (fenceEpoch : Nat) : Gateway :=
  if g.mem.fenceEpoch < fenceEpoch then
    { disk := { g.disk with takeoverState := .fencedOld }
      mem := { g.mem with takeoverState := .fencedOld } }
  else g

/-- `accept_takeover`. -/
def acceptTakeover (g : Gateway) (fenceEpoch : Nat) : Gateway :=
  if g.mem.fenceEpoch < fenceEpoch then
    { disk := { g.disk with fenceEpoch, takeoverState := .released }
      mem := { g.mem with fenceEpoch, takeoverState := .released } }
  else g

end Gateway

/-! ## Runs -/

/-- An installation: running, or only its durable state. -/
inductive Host where
  | up (g : Gateway)
  | down (d : Durable)

/-- The durable state of a host. -/
def Host.disk : Host → Durable
  | up g => g.disk
  | down d => d

/-- Damage or repair of what is stored: a bundle file, or the readability of a table. -/
inductive Damage where
  | file (bundleHash : BundleHash) (content : Option Bytes)
  | tables (sound deniesReadable highwaterReadable : Bool)

/-- Apply damage. -/
def Durable.damaged (d : Durable) : Damage → Durable
  | .file h (some content) => { d with files := d.files.insert h content }
  | .file h none => { d with files := d.files.erase h }
  | .tables sound deniesReadable highwaterReadable =>
    { d with sound, deniesReadable, highwaterReadable }

/-- What can happen to an installation. `point` counts the durable states passed before a crash;
a crash at or past the last one leaves the state after the call. -/
inductive Event where
  | deliver (c : VerifiedGatewayCommand) (env : Env)
  | crashDuring (c : VerifiedGatewayCommand) (env : Env) (point : Nat)
  | crash
  | restart (bootId : GatewayBootId)
  | crashOpening (bootId : GatewayBootId) (point : Nat)
  | renew (now : Nat)
  | confirmLive (ref : BundleReference)
  | fenceOld (fenceEpoch : Nat)
  | receiveTakeover (fenceEpoch : Nat)
  | acceptTakeover (fenceEpoch : Nat)
  | damage (damage : Damage)

namespace Host

variable (cfg : Config)

/-- The durable state a crash leaves after `point` of the states passed through. -/
def crashed (before : Durable) (passed : List Durable) (point : Nat) : Durable :=
  ((before :: passed).take (point + 1)).getLast?.getD before

/-- One event. Events that the host's condition excludes change nothing. -/
def step (h : Host) (e : Event) : Host :=
  match h, e with
  | up g, .deliver c env => up (g.execute cfg c env).after
  | up g, .crashDuring c env point => down (crashed g.disk (g.execute cfg c env).passed point)
  | up g, .crash => down g.disk
  | up g, .renew now => up (g.renewDenyHeartbeats now)
  | up g, .confirmLive ref => up (g.confirmLiveBundle ref)
  | up g, .fenceOld epoch => up (g.recordOldFence epoch)
  | up g, .receiveTakeover epoch => up (g.receiveTakeover epoch)
  | up g, .acceptTakeover epoch => up (g.acceptTakeover epoch)
  | up g, .damage dm => up { g with disk := g.disk.damaged dm }
  | down d, .restart bootId => up (Gateway.openState cfg d bootId).2
  | down d, .crashOpening bootId point =>
    down (crashed d (Gateway.openState cfg d bootId).1 point)
  | down d, .damage dm => down (d.damaged dm)
  | h, _ => h

/-- A run. -/
def run (h : Host) (es : List Event) : Host := es.foldl (step cfg) h

end Host

end LlmMaxxing
