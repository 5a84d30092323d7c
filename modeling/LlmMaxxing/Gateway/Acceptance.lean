import LlmMaxxing.Core.BundleRoundTrip
import LlmMaxxing.Gateway.ActivationLaws

/-!
# Commands that are accepted

The converse of `execute_cases`: a new command that is next in its chain, bound to the running
process and passes the checks of its handler is recorded and acknowledged. `LedgerSound` is the
ledger as accepted commands leave it; it always has room for one more.
-/

namespace LlmMaxxing

open Json Check

variable {cfg : Config}

/-! ## Room in the ledger -/

namespace Durable

/-- Every row is acknowledged, the rows fit, and no sequence number is past its channel head. -/
structure LedgerSound (cfg : Config) (d : Durable) : Prop where
  acked : ∀ row ∈ d.commands, row.ack.isSome = true
  length_le : d.commands.length ≤ cfg.limits.maxCommandRecords
  below : ∀ row ∈ d.commands, ∃ head ∈ d.channels.get? row.channelEpoch, row.sequence ≤ head.sequence

theorem LedgerSound.congr {d d' : Durable} (h : d.LedgerSound cfg)
    (hcommands : d'.commands = d.commands) (hchannels : d'.channels = d.channels) :
    d'.LedgerSound cfg where
  acked := hcommands ▸ h.acked
  length_le := hcommands ▸ h.length_le
  below := by
    rw [hcommands, hchannels]
    exact h.below

theorem reserveCommandRecord_length_lt {limit : Nat} {rows rows' : List CommandRow}
    (h : reserveCommandRecord limit rows = .ok rows') : rows'.length < limit := by
  simp only [reserveCommandRecord] at h
  split at h
  · cases h
    omega
  · split at h
    · cases h
    · cases h
      omega

/-- A full ledger gives up its oldest acknowledged row. -/
theorem LedgerSound.room {d : Durable} (h : d.LedgerSound cfg) :
    ∃ rows, reserveCommandRecord cfg.limits.maxCommandRecords d.commands = .ok rows := by
  by_cases hfits : d.commands.length + 1 - cfg.limits.maxCommandRecords = 0
  · exact ⟨d.commands, by simp [reserveCommandRecord, hfits]⟩
  have hlimit := cfg.limits.commandRecords_bounds
  have hlen := h.length_le
  have hexcess : d.commands.length + 1 - cfg.limits.maxCommandRecords = 1 := by omega
  have hfilter : (d.commands.filter fun row => row.ack.isSome) = d.commands :=
    List.filter_eq_self.mpr h.acked
  cases hsorted : sortOn (fun row => (toLex (row.channelEpoch, row.sequence) : Nat ×ₗ Nat))
      d.commands with
  | nil =>
    have hzero := SortOn.length_eq
      (fun row : CommandRow => (toLex (row.channelEpoch, row.sequence) : Nat ×ₗ Nat)) d.commands
    rw [hsorted] at hzero
    simp only [List.length_nil] at hzero
    omega
  | cons oldest rest =>
    have hmem : oldest ∈ d.commands := by
      rw [← SortOn.mem_iff
        (fun row : CommandRow => (toLex (row.channelEpoch, row.sequence) : Nat ×ₗ Nat)), hsorted]
      exact List.mem_cons_self
    have hpruned : pruned d.commands 1 = [oldest.commandId] := by
      simp [pruned, hfilter, hsorted]
    have hlt : (d.commands.filter fun row => row.commandId ∉ [oldest.commandId]).length <
        d.commands.length :=
      List.length_filter_lt_length_iff_exists.mpr ⟨oldest, hmem, by simp⟩
    refine ⟨d.commands.filter fun row => row.commandId ∉ [oldest.commandId], ?_⟩
    simp only [reserveCommandRecord, hexcess, hpruned]
    rw [if_neg (by omega), if_neg (by omega)]

theorem chainHead_of_get? {d : Durable} {channelEpoch : Nat} {head : ChannelHead}
    (h : d.channels.get? channelEpoch = some head) :
    d.chainHead channelEpoch = (head.sequence + 1, head.digest) := by
  simp [chainHead, h]

/-- A command that continues its channel has a sequence number no row has. -/
theorem LedgerSound.sequence_fresh {d : Durable} (h : d.LedgerSound cfg)
    {c : VerifiedGatewayCommand} (hc : d.Continues c) {row : CommandRow} (hrow : row ∈ d.commands) :
    ¬ (row.channelEpoch = c.channelEpoch ∧ row.sequence = c.sequence) := by
  rintro ⟨hepoch, hseq⟩
  obtain ⟨head, hhead, hle⟩ := h.below row hrow
  rw [hepoch, Option.mem_def] at hhead
  have hnext := (Prod.mk.inj (hc.trans (chainHead_of_get? hhead))).1
  omega

theorem LedgerSound.recordPending {d : Durable} (h : d.LedgerSound cfg)
    {c : VerifiedGatewayCommand} (hunseen : d.Unseen c) (hc : d.Continues c) (ackId : AckId)
    (ackStatus : GatewayAckStatus) (result : AckResult) :
    ∃ d', d.recordPending cfg c ackId ackStatus result = .ok d' := by
  obtain ⟨rows, hrows⟩ := h.room
  refine ⟨{ d with
    commands := rows ++ [pendingRow c ackId ackStatus result]
    channels := d.channels.insert c.channelEpoch ⟨c.sequence, c.commandDigest⟩ }, ?_⟩
  simp only [Durable.recordPending, bind_eq_ok_iff, require_eq_ok_iff, exists_unit_and_iff,
    pure_eq_ok, Except.ok.injEq]
  exact ⟨none, validateNewCommand_eq_none_iff.mpr ⟨hunseen, hc⟩, rfl, rows, hrows,
    fun row hrow => h.sequence_fresh hc ((reserveCommandRecord_sublist hrows).subset hrow), rfl⟩

/-- Recording and acknowledging keeps the ledger sound. -/
theorem LedgerSound.recorded {d d' : Durable} (h : d.LedgerSound cfg) {c : VerifiedGatewayCommand}
    {row : CommandRow} (hrec : Recorded cfg d c row d') (ack : GatewayAck)
    (hid : ack.commandId = c.commandId) : (d'.withAck ack).LedgerSound cfg := by
  obtain ⟨hrowId, -, hrowEpoch, hrowSeq, -⟩ := hrec.row_eq
  have hcontinues := hrec.continues
  obtain ⟨rows, hrows, rfl⟩ := hrec.result
  have hsub := (reserveCommandRecord_sublist hrows).subset
  refine ⟨fun r hr => ?_, ?_, fun r hr => ?_⟩
  · obtain ⟨r₀, hr₀, rfl⟩ := List.mem_map.mp hr
    split
    · rfl
    · next hne =>
      rcases List.mem_append.mp hr₀ with hmem | hmem
      · exact h.acked r₀ (hsub hmem)
      · rw [List.mem_singleton.mp hmem, hrowId, hid] at hne
        exact absurd rfl hne
  · have hlt := reserveCommandRecord_length_lt hrows
    simp only [withAck, List.length_map, List.length_append, List.length_singleton]
    omega
  · obtain ⟨r₀, hr₀, rfl⟩ := List.mem_map.mp hr
    have hkeep : ∀ p : Prop, ∀ _ : Decidable p,
        (if p then { r₀ with ack := some ack } else r₀).channelEpoch = r₀.channelEpoch ∧
          (if p then { r₀ with ack := some ack } else r₀).sequence = r₀.sequence := by
      intro p _
      split <;> exact ⟨rfl, rfl⟩
    rw [(hkeep _ _).1, (hkeep _ _).2]
    show ∃ head ∈ (d.channels.insert c.channelEpoch ⟨c.sequence, c.commandDigest⟩).get? _, _
    rw [Dict.get?_insert]
    rcases List.mem_append.mp hr₀ with hmem | hmem
    · obtain ⟨head, hhead, hle⟩ := h.below r₀ (hsub hmem)
      split
      · next hepoch =>
        rw [hepoch] at hhead
        have hnext := (Prod.mk.inj (hcontinues.trans (chainHead_of_get? hhead))).1
        exact ⟨_, rfl, by simp only; omega⟩
      · exact ⟨head, hhead, hle⟩
    · rw [List.mem_singleton.mp hmem, if_pos hrowEpoch]
      exact ⟨_, rfl, hrowSeq.le⟩

end Durable

theorem Memory.lifecycle_eq_recoveryRequired_iff {m : Memory} :
    m.lifecycle = .recoveryRequired ↔ m.recoveryRequired = true := by
  unfold Memory.lifecycle
  split_ifs with h <;> simp [h]

/-! ## Acceptance -/

namespace Gateway

variable {g : Gateway} {c : VerifiedGatewayCommand} {env : Env}

/-- What every new command needs, whatever its kind. -/
structure Admissible (cfg : Config) (g : Gateway) (c : VerifiedGatewayCommand) : Prop where
  ledger : g.disk.LedgerSound cfg
  unseen : g.disk.Unseen c
  continues : g.disk.Continues c
  binding : g.assertUnseenBinding cfg c = .ok ()

/-- The command is acknowledged. It leaves the memory `mem`, and on disk the tables `written`
with the command in the ledger. -/
structure Accepted (cfg : Config) (g : Gateway) (c : VerifiedGatewayCommand) (env : Env)
    (written : Durable) (mem : Memory) : Prop where
  outcome : ∃ ack, (g.execute cfg c env).outcome = .ok ack
  mem_eq : (g.execute cfg c env).after.mem = mem
  disk_eq : (g.execute cfg c env).after.disk = { written with
    commands := (g.execute cfg c env).after.disk.commands
    channels := g.disk.channels.insert c.channelEpoch ⟨c.sequence, c.commandDigest⟩ }
  ids : ∀ row ∈ (g.execute cfg c env).after.disk.commands,
    row.commandId = c.commandId ∨ ∃ r ∈ g.disk.commands, r.commandId = row.commandId
  ledger : (g.execute cfg c env).after.disk.LedgerSound cfg

theorem Admissible.fence (h : g.Admissible cfg c) : g.assertCurrentFence c = .ok () := by
  have hbinding := h.binding
  simp only [assertUnseenBinding, bind_eq_ok_iff, exists_unit_and_iff] at hbinding
  exact hbinding.2.2

/-- The transaction of an admissible command goes through. -/
theorem Admissible.recordPending (h : g.Admissible cfg c) {d : Durable}
    (hcommands : d.commands = g.disk.commands) (hchannels : d.channels = g.disk.channels)
    (ackId : AckId) (ackStatus : GatewayAckStatus) (result : AckResult) :
    ∃ d', d.recordPending cfg c ackId ackStatus result = .ok d' := by
  refine (h.ledger.congr hcommands hchannels).recordPending ?_ ?_ ackId ackStatus result
  · rw [Durable.Unseen, hcommands]
    exact h.unseen
  · rw [Durable.Continues, Durable.chainHead, hchannels]
    exact h.continues

/-- Everything that follows the transaction, shared by the handlers. -/
theorem accepted_of_recorded (h : g.Admissible cfg c) {d : Durable} {recorded : Gateway}
    {row : CommandRow} {before : List Durable} (hcommands : d.commands = g.disk.commands)
    (hchannels : d.channels = g.disk.channels) (hrec : Durable.Recorded cfg d c row recorded.disk)
    (hshown : ¬ recorded.Withheld row)
    (hexec : g.execute cfg c env = (recorded.acknowledgeRecorded c env).preceded before) :
    Accepted cfg g c env d recorded.mem := by
  have hack : g.execute cfg c env = ⟨before ++ [(recorded.acked (buildAck c row env)).disk],
      recorded.acked (buildAck c row env), .ok (buildAck c row env)⟩ := by
    have hcases := @acknowledge_cases recorded c env row hrec.find? hrec.row_eq.2.1
    rw [hexec, acknowledgeRecorded_eq hrec.find? hrec.row_eq.2.1]
    generalize recorded.acknowledge c row env = e at hcases
    cases hcases with
    | stored ack hack => rw [hrec.row_eq.2.2.2.2] at hack; cases hack
    | withheld err _ hw => exact absurd hw hshown
    | pushed => rfl
  have hledger := (h.ledger.congr hcommands hchannels).recorded hrec (buildAck c row env) rfl
  refine ⟨⟨_, by rw [hack]⟩, by rw [hack]; rfl, ?_, fun r hr => ?_, by rw [hack]; exact hledger⟩
  · rw [hack, ← hchannels]
    exact congrArg (fun d' : Durable => d'.withAck (buildAck c row env)) hrec.tables
  · rw [hack] at hr
    obtain ⟨rows, hrows, hdisk⟩ := hrec.result
    obtain ⟨r₀, hr₀, rfl⟩ := List.mem_map.mp hr
    have hid : ∀ p : Prop, ∀ _ : Decidable p,
        (if p then { r₀ with ack := some (buildAck c row env) } else r₀).commandId =
          r₀.commandId := by
      intro p _
      split <;> rfl
    rw [hid]
    rw [hdisk] at hr₀
    rcases List.mem_append.mp hr₀ with hmem | hmem
    · exact .inr ⟨r₀, hcommands ▸ (Durable.reserveCommandRecord_sublist hrows).subset hmem, rfl⟩
    · exact .inl (by rw [List.mem_singleton.mp hmem]; exact hrec.row_eq.1)

theorem prepare_accepted (h : g.Admissible cfg c) {base : Option BaseReference}
    {target : BundleReference} {raw : Bytes} {bundle : PolicyBundleV1} {stored : Durable}
    (hbody : c.body = .prepare base target (some raw)) (hpolicy : c.policy = some ⟨base, target⟩)
    (hvalid : validateBundle cfg env raw target = .ok bundle)
    (hcheck : g.mem.validatePrepareReference base target = .ok ())
    (hstore : g.disk.storeBundle cfg raw target.bundleHash = .ok stored)
    (hstoring : env.cancelledStoring = false) (hrecording : env.cancelledRecording = false) :
    Accepted cfg g c env { stored with staged := some target, base := base }
      { g.mem with staged := some target, base := base } := by
  have htables := (Durable.storeBundle_sameTables hstore).tables
  have hcommands : stored.commands = g.disk.commands := by rw [htables]
  have hchannels : stored.channels = g.disk.channels := by rw [htables]
  obtain ⟨disk, hdisk⟩ := @Admissible.recordPending _ _ _ h
    { stored with staged := some target, base := base } hcommands hchannels env.ackId .prepared
    (.target target)
  refine @accepted_of_recorded _ _ _ _ h _
    ⟨disk, { g.mem with staged := some target, base := base }⟩ _ [stored, disk] hcommands hchannels
    (Durable.recordPending_eq_ok hdisk) (fun hw => by cases hw.1) ?_
  rw [Gateway.execute, Durable.validateNewCommand_eq_none_iff.mpr ⟨h.unseen, h.continues⟩]
  have hfence : Gateway.assertCurrentFence { g with disk := stored } c = .ok () := h.fence
  simp only [h.binding, hbody, prepare, hvalid, policyMatches, hpolicy, hcheck, hstore, hstoring,
    hrecording, hfence, stagePrepare, hdisk, ok_bind, pure_eq_ok, require, if_true,
    Bool.false_eq_true, if_false]

theorem commit_accepted (h : g.Admissible cfg c) {target : BundleReference}
    {bundle : PolicyBundleV1} (hbody : c.body = .commit target)
    (hpolicy : c.policy = some ⟨g.mem.base, target⟩)
    (hcheck : g.mem.validateCommitReference target = .ok ())
    (hload : g.disk.loadBundle cfg target.bundleHash = .ok bundle)
    (happlies : env.applies bundle = true) (hrecording : env.cancelledRecording = false)
    (hrecovery : g.mem.recoveryRequired = false) :
    Accepted cfg g c env
      { g.disk with
        pointerFile := some target, previous := g.mem.active, active := some target
        staged := none, base := none }
      { g.mem with
        previous := g.mem.active, active := some target, activeBundle := some bundle
        staged := none, base := none } := by
  obtain ⟨disk, hdisk⟩ := @Admissible.recordPending _ _ _ h
    { g.disk with
      pointerFile := some target, previous := g.mem.active, active := some target
      staged := none, base := none } rfl rfl env.ackId .applied (.active target)
  refine @accepted_of_recorded _ _ _ _ h _
    ⟨disk, { g.mem with
      previous := g.mem.active, active := some target, activeBundle := some bundle
      staged := none, base := none }⟩ _
    [{ g.disk with pointerFile := some target }, disk] rfl rfl
    (Durable.recordPending_eq_ok hdisk) (fun hw => ?_) ?_
  · have hrequired := Memory.lifecycle_eq_recoveryRequired_iff.mp hw.2
    rw [show _ = g.mem.recoveryRequired from rfl, hrecovery] at hrequired
    cases hrequired
  rw [Gateway.execute, Durable.validateNewCommand_eq_none_iff.mpr ⟨h.unseen, h.continues⟩]
  simp only [h.binding, hbody, commit, policyMatches, hpolicy, h.fence, hcheck, hload, commitStaged,
    hdisk, happlies, hrecording, Effect.unlessCancelled_false, ok_bind, pure_eq_ok, require,
    if_true]

theorem deny_accepted (h : g.Admissible cfg c) {payload : DenyCommandPayload}
    (hbody : c.body = .deny payload) (hpolicy : g.activePolicy c.policy = .ok ())
    (hreadable : g.disk.deniesReadable = true ∧ g.disk.highwaterReadable = true)
    (hcheck : checkHighwater g.reading.mem payload = .ok ())
    (hrecording : env.cancelledRecording = false) :
    Accepted cfg g c env
      { g.disk with
        denies := g.disk.denies.insert payload.subject (overlayOf payload env.now)
        denyHighwater := g.disk.denyHighwater.insert payload.subject
          (payload.denyEpoch, payload.denyFloorGeneration)
        denyHeartbeatMs := env.now }
      { g.mem with
        denies := g.disk.denies.insert payload.subject (overlayOf payload env.now)
        denyHighwater := g.disk.denyHighwater.insert payload.subject
          (payload.denyEpoch, payload.denyFloorGeneration)
        denyHeartbeatMs := env.now } := by
  obtain ⟨disk, hdisk⟩ := @Admissible.recordPending _ _ _ h
    { g.disk with
      denies := g.disk.denies.insert payload.subject (overlayOf payload env.now)
      denyHighwater := g.disk.denyHighwater.insert payload.subject
        (payload.denyEpoch, payload.denyFloorGeneration)
      denyHeartbeatMs := env.now } rfl rfl env.ackId .denied (.deny payload)
  refine @accepted_of_recorded _ _ _ _ h _
    ⟨disk, { g.mem with
      denies := g.disk.denies.insert payload.subject (overlayOf payload env.now)
      denyHighwater := g.disk.denyHighwater.insert payload.subject
        (payload.denyEpoch, payload.denyFloorGeneration)
      denyHeartbeatMs := env.now }⟩ _ [disk] rfl rfl
    (Durable.recordPending_eq_ok hdisk) (fun hw => by cases hw.1) ?_
  have hread : g.verifyDenyStore = (g.reading, .ok ()) := by
    simp [verifyDenyStore, loadDenyTables, hreadable, reading]
  rw [Gateway.execute, Durable.validateNewCommand_eq_none_iff.mpr ⟨h.unseen, h.continues⟩]
  simp only [h.binding, hbody, deny, overlayCommand, hpolicy, h.fence, hread, issueDeny, hcheck,
    hrecording, Effect.unlessCancelled_false, ok_bind, pure_eq_ok]
  rw [show g.reading.disk = g.disk from rfl, hdisk]
  rfl

end Gateway

/-! ## An installation with numbered bundles

`numberedConfig` accepts the bundle `rotatingBundle n 1 2` as generation `n`, for every `n`, under
the hash number `n`; `numberedCommand n` is the `n`-th command of channel epoch 1. They serve as
the world of the concrete runs. -/

section Numbered

/-- A content hash: number `n` for the bundle of generation `n`. -/
def numberedHash (payload : Bytes) : BundleHash :=
  match decodeBundle payload with
  | .ok b =>
    if payload = rotatingBytes b.generation then .numbered .bundleHash b.generation
    else .numbered .bundleHash 0
  | .error _ => .numbered .bundleHash 0

def numberedConfig : Config where
  securityEpoch := 1
  backendManifestHash := "0000000000000000000000000000000000000000000000000000000000000008"
  bundleHash := numberedHash

/-- The reference of generation `n`. -/
def numberedReference (n : Nat) (h : SafePositive n) : BundleReference :=
  ⟨n, .numbered .bundleHash n, h⟩

/-- A world that answers yes to everything. -/
def cooperativeEnv (now : Nat) : Env where
  now := now
  serviceNow := now
  ackId := .numbered .ack 1
  leaseId := .numbered .authLease 1
  generationGate _ _ := true
  preflight _ := true
  applies _ := true
  readiness := ⟨true, true, true⟩

/-- The digest of the `n`-th command; the chain starts at `zeroDigest`. -/
def numberedDigest (n : Nat) : String := if n = 0 then zeroDigest else toString n

theorem safePositive_one : SafePositive 1 := by decide

theorem safePositive_three : SafePositive 3 := by decide

/-- The command after `n` others, to the process `boot`. -/
def numberedCommand (boot : GatewayBootId) (n : Nat) (body : CommandBody)
    (policy : Option ActivationEnvelope) (safe : SafePositive (n + 1))
    (presence : body.kind ≠ .status ↔ policy.isSome = true) : VerifiedGatewayCommand where
  commandId := .numbered .command (n + 1)
  commandDigest := numberedDigest (n + 1)
  channelEpoch := 1
  securityEpoch := 1
  dispatcherFence := 1
  bootId := boot
  sequence := n + 1
  previousDigest := numberedDigest n
  body := body
  policy := policy
  safeEpoch := safePositive_one
  safeSequence := safe
  policyPresence := presence

/-- PREPARE of generation `m`. -/
def numberedPrepare (boot : GatewayBootId) (n : Nat) (safe : SafePositive (n + 1))
    (base : Option BaseReference) (m : Nat) (h : SafePositive m) : VerifiedGatewayCommand :=
  numberedCommand boot n (.prepare base (numberedReference m h) (some (rotatingBytes m)))
    (some ⟨base, numberedReference m h⟩) safe (by simp [CommandBody.kind])

/-- COMMIT of generation `m`. -/
def numberedCommit (boot : GatewayBootId) (n : Nat) (safe : SafePositive (n + 1))
    (base : Option BaseReference) (m : Nat) (h : SafePositive m) : VerifiedGatewayCommand :=
  numberedCommand boot n (.commit (numberedReference m h)) (some ⟨base, numberedReference m h⟩) safe
    (by simp [CommandBody.kind])

/-- DENY under generation `m`. -/
def numberedDeny (boot : GatewayBootId) (n : Nat) (safe : SafePositive (n + 1)) (m : Nat)
    (h : SafePositive m) (payload : DenyCommandPayload) : VerifiedGatewayCommand :=
  numberedCommand boot n (.deny payload) (some ⟨none, numberedReference m h⟩) safe
    (by simp [CommandBody.kind])

variable {n m : Nat}

theorem numberedHash_of_decode {payload : Bytes} {b : PolicyBundleV1}
    (hdecode : decodeBundle payload = .ok b) (hbytes : payload = rotatingBytes b.generation) :
    numberedHash payload = .numbered .bundleHash b.generation := by
  rw [numberedHash, hdecode]
  exact if_pos hbytes

theorem bundleHash_numbered (h : SafePositive m) :
    numberedConfig.bundleHash (rotatingBytes m) = .numbered .bundleHash m := by
  have hhash : numberedConfig.bundleHash = numberedHash := rfl
  have hgeneration : (rotatingBundle m 1 2).generation = m := rfl
  have hdecode := decodeBundle_rotating h.1 h.2
  rw [hhash, numberedHash_of_decode hdecode (by rw [hgeneration]), hgeneration]

theorem rotatingBytes_length_le_limit (h : SafePositive m) :
    (rotatingBytes m).length ≤ numberedConfig.limits.maxBundleBytes :=
  (rotatingBytes_length_le h.2).trans (by decide)

theorem canonicalBundle?_rotating (h : SafePositive m) (invalid notCanonical : String) :
    Durable.canonicalBundle? (rotatingBytes m) invalid notCanonical = .ok (rotatingBundle m 1 2) :=
  Durable.canonicalBundle?_eq_ok (decodeBundle_rotating h.1 h.2)
    (canonicalBundleBytes_rotating h.1 h.2)

theorem validateBundle_rotating (h : SafePositive m) (now : Nat) :
    Gateway.validateBundle numberedConfig (cooperativeEnv now) (rotatingBytes m)
      (numberedReference m h) = .ok (rotatingBundle m 1 2) := by
  have hlimits : Gateway.withinLimits numberedConfig.limits (rotatingBundle m 1 2) := by
    have hsame : Gateway.withinLimits numberedConfig.limits (rotatingBundle m 1 2) =
        Gateway.withinLimits numberedConfig.limits (rotatingBundle 1 1 2) := rfl
    rw [hsame]
    decide
  simp [Gateway.validateBundle, rotatingBytes_length_le_limit h, bundleHash_numbered h,
    canonicalBundle?_rotating h, hlimits, cooperativeEnv, numberedReference, require,
    show (rotatingBundle m 1 2).generation = m from rfl,
    show (rotatingBundle m 1 2).backendManifestHash = numberedConfig.backendManifestHash from rfl]

/-- A gateway that has accepted the first `n` commands. -/
structure Numbered (boot : GatewayBootId) (n : Nat) (g : Gateway) : Prop where
  reachable : (Host.up g).Reachable numberedConfig
  ledger : g.disk.LedgerSound numberedConfig
  head : g.disk.chainHead 1 = (n + 1, numberedDigest n)
  ids : ∀ row ∈ g.disk.commands, ∃ m ≤ n, row.commandId = .numbered .command m
  bootId : g.mem.bootId = boot
  fence : g.mem.fenceEpoch = 1

variable {boot : GatewayBootId} {g : Gateway} {body : CommandBody} {policy : Option ActivationEnvelope}
  {safe : SafePositive (n + 1)} {presence : body.kind ≠ .status ↔ policy.isSome = true}

theorem Numbered.admissible (h : Numbered boot n g) (hn : n + 1 < 16 ^ 12) :
    g.Admissible numberedConfig (numberedCommand boot n body policy safe presence) where
  ledger := h.ledger
  unseen row hrow heq := by
    obtain ⟨m, hm, hid⟩ := h.ids row hrow
    have hsame := TypedId.numbered_injective (by omega) hn (hid.symm.trans heq)
    omega
  continues := h.head.symm
  binding := by
    simp [Gateway.assertUnseenBinding, Gateway.assertCurrentFence, numberedCommand, h.bootId, h.fence,
      require, numberedConfig]

theorem Numbered.accepted (h : Numbered boot n g) {env : Env} {written : Durable} {mem : Memory}
    (ha : Gateway.Accepted numberedConfig g (numberedCommand boot n body policy safe presence) env
      written mem) (hboot : mem.bootId = g.mem.bootId) (hfence : mem.fenceEpoch = g.mem.fenceEpoch) :
    Numbered boot (n + 1)
      (g.execute numberedConfig (numberedCommand boot n body policy safe presence) env).after where
  reachable := h.reachable.step (.deliver (numberedCommand boot n body policy safe presence) env)
  ledger := ha.ledger
  head := by
    have hget : (g.execute numberedConfig (numberedCommand boot n body policy safe presence)
        env).after.disk.channels.get? 1 = some ⟨n + 1, numberedDigest (n + 1)⟩ := by
      rw [ha.disk_eq]
      exact Dict.get?_insert_self _ _ _
    exact Durable.chainHead_of_get? hget
  ids row hrow := by
    rcases ha.ids row hrow with heq | ⟨r, hr, heq⟩
    · exact ⟨n + 1, le_refl _, heq⟩
    · obtain ⟨m, hm, hid⟩ := h.ids r hr
      exact ⟨m, by omega, heq ▸ hid⟩
  bootId := by rw [ha.mem_eq, hboot, h.bootId]
  fence := by rw [ha.mem_eq, hfence, h.fence]

theorem Numbered.prepare (h : Numbered boot n g) (hn : n + 1 < 16 ^ 12) {hm : SafePositive m}
    {base : Option BaseReference}
    (hcheck : g.mem.validatePrepareReference base (numberedReference m hm) = .ok ())
    (hfile : g.disk.files.get? (.numbered .bundleHash m) = none) (now : Nat) :
    Gateway.Accepted numberedConfig g (numberedPrepare boot n safe base m hm) (cooperativeEnv now)
      { g.disk with
        files := g.disk.files.insert (.numbered .bundleHash m) (rotatingBytes m)
        staged := some (numberedReference m hm), base := base }
      { g.mem with staged := some (numberedReference m hm), base := base } := by
  have hstore : g.disk.storeBundle numberedConfig (rotatingBytes m) (.numbered .bundleHash m) =
      .ok { g.disk with
        files := g.disk.files.insert (.numbered .bundleHash m) (rotatingBytes m) } := by
    simp [Durable.storeBundle, hfile, rotatingBytes_length_le_limit hm, bundleHash_numbered hm,
      require]
  exact Gateway.prepare_accepted (h.admissible hn) rfl rfl (validateBundle_rotating hm now) hcheck
    hstore rfl rfl

theorem loadBundle_rotating {d : Durable} (hm : SafePositive m)
    (hfile : d.files.get? (.numbered .bundleHash m) = some (rotatingBytes m)) :
    d.loadBundle numberedConfig (.numbered .bundleHash m) = .ok (rotatingBundle m 1 2) := by
  simp [Durable.loadBundle, hfile, rotatingBytes_length_le_limit hm, bundleHash_numbered hm,
    canonicalBundle?_rotating hm, require]

theorem Numbered.commit (h : Numbered boot n g) (hn : n + 1 < 16 ^ 12) {hm : SafePositive m}
    (hcheck : g.mem.validateCommitReference (numberedReference m hm) = .ok ())
    (hfile : g.disk.files.get? (.numbered .bundleHash m) = some (rotatingBytes m))
    (hrecovery : g.mem.recoveryRequired = false) (now : Nat) :
    Gateway.Accepted numberedConfig g (numberedCommit boot n safe g.mem.base m hm)
      (cooperativeEnv now)
      { g.disk with
        pointerFile := some (numberedReference m hm), previous := g.mem.active
        active := some (numberedReference m hm), staged := none, base := none }
      { g.mem with
        previous := g.mem.active, active := some (numberedReference m hm)
        activeBundle := some (rotatingBundle m 1 2), staged := none, base := none } :=
  Gateway.commit_accepted (h.admissible hn) rfl rfl hcheck (loadBundle_rotating hm hfile) rfl rfl
    hrecovery

theorem Numbered.deny (h : Numbered boot n g) (hn : n + 1 < 16 ^ 12) {hm : SafePositive m}
    {payload : DenyCommandPayload} (hactive : g.mem.active = some (numberedReference m hm))
    (hreadable : g.disk.deniesReadable = true ∧ g.disk.highwaterReadable = true)
    (hcheck : Gateway.checkHighwater g.reading.mem payload = .ok ()) (now : Nat) :
    Gateway.Accepted numberedConfig g (numberedDeny boot n safe m hm payload) (cooperativeEnv now)
      { g.disk with
        denies := g.disk.denies.insert payload.subject (Gateway.overlayOf payload now)
        denyHighwater := g.disk.denyHighwater.insert payload.subject
          (payload.denyEpoch, payload.denyFloorGeneration)
        denyHeartbeatMs := now }
      { g.mem with
        denies := g.disk.denies.insert payload.subject (Gateway.overlayOf payload now)
        denyHighwater := g.disk.denyHighwater.insert payload.subject
          (payload.denyEpoch, payload.denyFloorGeneration)
        denyHeartbeatMs := now } := by
  have hpolicy : g.activePolicy (numberedDeny boot n safe m hm payload).policy = .ok () := by
    rw [Gateway.activePolicy, require_eq_ok_iff]
    exact ⟨_, hactive, _, rfl, rfl⟩
  exact Gateway.deny_accepted (h.admissible hn) rfl hpolicy hreadable hcheck rfl

theorem numbered_open (boot : GatewayBootId) :
    Numbered boot 0 (Gateway.openState numberedConfig .empty boot).2 where
  reachable := ⟨[.restart boot], rfl⟩
  ledger :=
    ⟨fun _ hrow => (List.not_mem_nil hrow).elim, Nat.zero_le _,
      fun _ hrow => (List.not_mem_nil hrow).elim⟩
  head := rfl
  ids _ hrow := (List.not_mem_nil hrow).elim
  bootId := rfl
  fence := rfl

/-- A fresh installation. -/
def freshGateway (boot : GatewayBootId) : Gateway :=
  (Gateway.openState numberedConfig .empty boot).2

/-- A fresh installation after PREPARE of generation `m`. -/
def firstPrepared (boot : GatewayBootId) (m : Nat) (hm : SafePositive m) : Gateway :=
  ((freshGateway boot).execute numberedConfig (numberedPrepare boot 0 (by decide) none m hm)
    (cooperativeEnv 1)).after

/-- A fresh installation after PREPARE and COMMIT of generation `m`. -/
def firstActivated (boot : GatewayBootId) (m : Nat) (hm : SafePositive m) : Gateway :=
  ((firstPrepared boot m hm).execute numberedConfig (numberedCommit boot 1 (by decide) none m hm)
    (cooperativeEnv 1)).after

/-- The events of the first activation of generation `m`. -/
def activationOf (boot : GatewayBootId) (m : Nat) (hm : SafePositive m) : List Event :=
  [.restart boot,
    .deliver (numberedPrepare boot 0 (by decide) none m hm) (cooperativeEnv 1),
    .deliver (numberedCommit boot 1 (by decide) none m hm) (cooperativeEnv 1)]

theorem activationOf_run (boot : GatewayBootId) (hm : SafePositive m) :
    (Host.down .empty).run numberedConfig (activationOf boot m hm) =
      .up (firstActivated boot m hm) := by
  rw [firstActivated, firstPrepared, freshGateway]
  simp only [activationOf, Host.run, List.foldl_cons, List.foldl_nil, Host.step]

/-- The memory after the first activation. -/
def activatedMemory (boot : GatewayBootId) (m : Nat) (hm : SafePositive m) : Memory :=
  { (freshGateway boot).mem with
    active := some (numberedReference m hm), activeBundle := some (rotatingBundle m 1 2) }

/-- The durable state after the first activation, up to its ledger. -/
def activatedDisk (m : Nat) (hm : SafePositive m) (commands : List CommandRow)
    (channels : Dict Nat ChannelHead) : Durable :=
  { Durable.empty with
    files := Dict.empty.insert (.numbered .bundleHash m) (rotatingBytes m)
    pointerFile := some (numberedReference m hm), active := some (numberedReference m hm)
    commands, channels }

theorem firstPrepared_accepted (boot : GatewayBootId) {m : Nat} (hm : SafePositive m) :
    Gateway.Accepted numberedConfig (freshGateway boot)
      (numberedPrepare boot 0 (by decide) none m hm) (cooperativeEnv 1)
      { (freshGateway boot).disk with
        files := Dict.empty.insert (.numbered .bundleHash m) (rotatingBytes m)
        staged := some (numberedReference m hm), base := none }
      { (freshGateway boot).mem with staged := some (numberedReference m hm), base := none } :=
  @Numbered.prepare 0 m boot (freshGateway boot) (by decide) (numbered_open boot) (by decide) hm none
    rfl rfl 1

theorem firstActivated_accepted (boot : GatewayBootId) {m : Nat} (hm : SafePositive m) :
    Gateway.Accepted numberedConfig (firstPrepared boot m hm)
      (numberedCommit boot 1 (by decide) none m hm) (cooperativeEnv 1)
      { (firstPrepared boot m hm).disk with
        pointerFile := some (numberedReference m hm), previous := none
        active := some (numberedReference m hm), staged := none, base := none }
      (activatedMemory boot m hm) := by
  have hprepare := firstPrepared_accepted boot hm
  have hprepared : Numbered boot 1 (firstPrepared boot m hm) :=
    (numbered_open boot).accepted hprepare rfl rfl
  have hmem : (firstPrepared boot m hm).mem =
      { (freshGateway boot).mem with staged := some (numberedReference m hm), base := none } :=
    hprepare.mem_eq
  have hfile : (firstPrepared boot m hm).disk.files.get? (.numbered .bundleHash m) =
      some (rotatingBytes m) := by
    rw [show (firstPrepared boot m hm).disk = _ from hprepare.disk_eq]
    exact Dict.get?_insert_self _ _ _
  have hstaged : (firstPrepared boot m hm).mem.validateCommitReference (numberedReference m hm) =
      .ok () := by
    rw [hmem]
    refine Memory.validateCommitReference_eq_ok_iff.mpr ⟨rfl, fun floor hfloor => ?_, rfl⟩
    have hnone : none = some floor := hfloor
    cases hnone
  have hcommit := @Numbered.commit 1 m boot (firstPrepared boot m hm) (by decide) hprepared
    (by decide) hm hstaged hfile (by rw [hmem]; rfl) 1
  rw [hmem] at hcommit
  exact hcommit

theorem first_activation (boot : GatewayBootId) {m : Nat} (hm : SafePositive m) :
    Numbered boot 2 (firstActivated boot m hm) ∧
      (firstActivated boot m hm).mem = activatedMemory boot m hm ∧
      ∃ commands channels, (firstActivated boot m hm).disk = activatedDisk m hm commands channels := by
  have hprepare := firstPrepared_accepted boot hm
  have hcommit := firstActivated_accepted boot hm
  have hprepared : Numbered boot 1 (firstPrepared boot m hm) :=
    (numbered_open boot).accepted hprepare rfl rfl
  have hmem : (firstPrepared boot m hm).mem =
      { (freshGateway boot).mem with staged := some (numberedReference m hm), base := none } :=
    hprepare.mem_eq
  have hdisk := hcommit.disk_eq
  rw [show (firstPrepared boot m hm).disk = _ from hprepare.disk_eq] at hdisk
  exact ⟨hprepared.accepted hcommit (by rw [hmem]; rfl) (by rw [hmem]; rfl), hcommit.mem_eq, _, _, hdisk⟩

end Numbered

end LlmMaxxing
