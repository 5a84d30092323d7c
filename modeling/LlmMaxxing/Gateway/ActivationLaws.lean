import LlmMaxxing.Gateway.Recovery

/-!
# What one command can do

`execute_cases` says once what `execute` can do: answer a command already recorded, refuse
without recording, or record the command in one transaction (`Records`) and then settle it.
Every invariant of the local state is derived from it.
-/

namespace LlmMaxxing

open Json Check

variable {cfg : Config}

@[simp] theorem Effect.unlessCancelled_false {α : Type} (e : Effect α) :
    e.unlessCancelled false = e := by
  unfold Effect.unlessCancelled
  split <;> rfl

/-! ## Bundle files -/

namespace Durable

theorem loadBundle_congr {d d' : Durable} {h : BundleHash} (hfiles : d'.files.get? h = d.files.get? h) :
    d'.loadBundle cfg h = d.loadBundle cfg h := by
  rw [loadBundle, loadBundle, hfiles]

theorem loadReference_congr {d d' : Durable} {ref : BundleReference} {mismatch : String}
    (h : d'.loadBundle cfg ref.bundleHash = d.loadBundle cfg ref.bundleHash) :
    d'.loadReference cfg ref mismatch = d.loadReference cfg ref mismatch := by
  rw [loadReference, loadReference, h]

/-- Nothing but bundle files and the pointer file differs, and what could be loaded still can. -/
structure SameTables (cfg : Config) (d d' : Durable) : Prop where
  tables : d' = { d with files := d'.files, pointerFile := d'.pointerFile }
  loads : ∀ h b, d.loadBundle cfg h = .ok b → d'.loadBundle cfg h = .ok b

theorem SameTables.refl (d : Durable) : SameTables cfg d d := ⟨rfl, fun _ _ h => h⟩

theorem SameTables.pointerFile (d : Durable) (p : Option BundleReference) :
    SameTables cfg d { d with pointerFile := p } := ⟨rfl, fun _ _ h => h⟩

theorem storeBundle_eq_ok {d d' : Durable} {payload : Bytes} {expected : BundleHash}
    (h : d.storeBundle cfg payload expected = .ok d') :
    payload.length ≤ cfg.limits.maxBundleBytes ∧ cfg.bundleHash payload = expected ∧
      ((d.files.get? expected = some payload ∧ d' = d) ∨
        (d.files.get? expected = none ∧
          d' = { d with files := d.files.insert expected payload })) := by
  simp only [storeBundle, bind_eq_ok_iff, require_eq_ok_iff, exists_const] at h
  obtain ⟨hlen, hhash, h⟩ := h
  refine ⟨hlen, hhash, ?_⟩
  split at h
  · next stored hget =>
    simp only [bind_eq_ok_iff, require_eq_ok_iff, exists_const, pure_eq_ok, Except.ok.injEq] at h
    obtain ⟨-, rfl, rfl⟩ := h
    exact .inl ⟨hget, rfl⟩
  · next hget =>
    simp only [pure_eq_ok, Except.ok.injEq] at h
    exact .inr ⟨hget, h.symm⟩

/-- Storing a bundle changes no file that was there. -/
theorem storeBundle_sameTables {d d' : Durable} {payload : Bytes} {expected : BundleHash}
    (h : d.storeBundle cfg payload expected = .ok d') : SameTables cfg d d' := by
  obtain ⟨-, -, ⟨-, rfl⟩ | ⟨hnone, rfl⟩⟩ := storeBundle_eq_ok h
  · exact .refl _
  · refine ⟨rfl, fun hash b hload => ?_⟩
    by_cases hh : hash = expected
    · rw [hh, loadBundle, hnone] at hload
      cases hload
    · rw [← hload]
      exact loadBundle_congr (Dict.get?_insert_of_ne _ _ hh)

theorem canonicalBundle?_eq_ok {payload : Bytes} {b : PolicyBundleV1}
    {invalid notCanonical : String} (hdecode : decodeBundle payload = .ok b)
    (hbytes : canonicalBundleBytes b = .ok payload) :
    canonicalBundle? payload invalid notCanonical = .ok b := by
  simp [canonicalBundle?, hdecode, hbytes]

theorem canonicalBundle?_eq_ok_iff {payload : Bytes} {b : PolicyBundleV1}
    {invalid notCanonical : String} : canonicalBundle? payload invalid notCanonical = .ok b ↔
      decodeBundle payload = .ok b ∧ canonicalBundleBytes b = .ok payload := by
  refine ⟨fun h => ?_, fun h => canonicalBundle?_eq_ok h.1 h.2⟩
  unfold canonicalBundle? at h
  split at h
  · cases h
  · next bundle hdecode =>
    split at h
    · cases h
    · next bytes hbytes =>
      split at h
      · next heq =>
        cases h
        exact ⟨hdecode, heq ▸ hbytes⟩
      · cases h

/-- A stored bundle that validates can be loaded. -/
theorem loadBundle_of_stored {d d' : Durable} {payload : Bytes} {expected : BundleHash}
    {b : PolicyBundleV1} {invalid notCanonical : String}
    (h : d.storeBundle cfg payload expected = .ok d')
    (hcanonical : canonicalBundle? payload invalid notCanonical = .ok b) :
    d'.loadBundle cfg expected = .ok b := by
  obtain ⟨hlen, hhash, hcase⟩ := storeBundle_eq_ok h
  have hget : d'.files.get? expected = some payload := by
    obtain ⟨hget, rfl⟩ | ⟨-, rfl⟩ := hcase
    · exact hget
    · exact Dict.get?_insert_self _ _ _
  have hsame := canonicalBundle?_eq_ok_iff.mp hcanonical
  rw [loadBundle, hget]
  simp [hlen, hhash, canonicalBundle?_eq_ok hsame.1 hsame.2, require]

/-! ## The command ledger -/

/-- The chain head a command must continue. -/
def Continues (d : Durable) (c : VerifiedGatewayCommand) : Prop :=
  (c.sequence, c.previousDigest) = d.chainHead c.channelEpoch

/-- The command id has no row. -/
def Unseen (d : Durable) (c : VerifiedGatewayCommand) : Prop :=
  ∀ row ∈ d.commands, row.commandId ≠ c.commandId

theorem find?_eq_none_iff {rows : List CommandRow} {id : CommandId} :
    (rows.find? fun row => row.commandId = id) = none ↔ ∀ row ∈ rows, row.commandId ≠ id := by
  simp [List.find?_eq_none]

theorem validateNewCommand_eq_none_iff {d : Durable} {c : VerifiedGatewayCommand} :
    d.validateNewCommand c = .ok none ↔ d.Unseen c ∧ d.Continues c := by
  unfold validateNewCommand
  cases hf : d.commands.find? fun row => row.commandId = c.commandId with
  | some row =>
    have hmem := List.mem_of_find?_eq_some hf
    have hid : row.commandId = c.commandId := by simpa using List.find?_some hf
    have hseen : ¬ d.Unseen c := fun h => h row hmem hid
    by_cases hd : row.digest = c.commandDigest
    · simp [hd, hseen]
    · simp [hd, hseen]
  | none =>
    have hunseen : d.Unseen c := find?_eq_none_iff.mp hf
    simp only [hunseen, true_and, Continues]
    split <;> simp_all

theorem validateNewCommand_eq_some_iff {d : Durable} {c : VerifiedGatewayCommand}
    {row : CommandRow} :
    d.validateNewCommand c = .ok (some row) ↔
      (d.commands.find? fun row => row.commandId = c.commandId) = some row ∧
        row.digest = c.commandDigest := by
  unfold validateNewCommand
  cases hf : d.commands.find? fun row => row.commandId = c.commandId with
  | some found =>
    simp only [Option.some.injEq]
    split
    · next hd =>
      simp only [Except.ok.injEq, Option.some.injEq]
      exact ⟨fun h => ⟨h, h ▸ hd⟩, fun h => h.1⟩
    · next hd => simp only [reduceCtorEq, false_iff]; rintro ⟨rfl, h⟩; exact hd h
  | none =>
    simp only [reduceCtorEq, false_and, iff_false]
    split <;> simp

/-- What `_record_pending` does when it succeeds. -/
structure Recorded (cfg : Config) (d : Durable) (c : VerifiedGatewayCommand) (row : CommandRow)
    (d' : Durable) : Prop where
  unseen : d.Unseen c
  continues : d.Continues c
  row_eq : row.commandId = c.commandId ∧ row.digest = c.commandDigest ∧
    row.channelEpoch = c.channelEpoch ∧ row.sequence = c.sequence ∧ row.ack = none
  result : ∃ rows, reserveCommandRecord cfg.limits.maxCommandRecords d.commands = .ok rows ∧
    d' = { d with
      commands := rows ++ [row]
      channels := d.channels.insert c.channelEpoch ⟨c.sequence, c.commandDigest⟩ }

theorem recordPending_eq_ok {d d' : Durable} {c : VerifiedGatewayCommand} {ackId : AckId}
    {ackStatus : GatewayAckStatus} {result : AckResult}
    (h : d.recordPending cfg c ackId ackStatus result = .ok d') :
    Recorded cfg d c (pendingRow c ackId ackStatus result) d' := by
  simp only [recordPending, bind_eq_ok_iff, require_eq_ok_iff, exists_const, pure_eq_ok,
    Except.ok.injEq] at h
  obtain ⟨existing, hnew, rfl, rows, hrows, -, rfl⟩ := h
  obtain ⟨hunseen, hcontinues⟩ := validateNewCommand_eq_none_iff.mp hnew
  exact ⟨hunseen, hcontinues, ⟨rfl, rfl, rfl, rfl, rfl⟩, rows, hrows, rfl⟩

theorem Recorded.tables {d d' : Durable} {c : VerifiedGatewayCommand} {row : CommandRow}
    (h : Recorded cfg d c row d') :
    d' = { d with
      commands := d'.commands
      channels := d.channels.insert c.channelEpoch ⟨c.sequence, c.commandDigest⟩ } := by
  obtain ⟨rows, -, rfl⟩ := h.result
  rfl

theorem reserveCommandRecord_sublist {limit : Nat} {rows rows' : List CommandRow}
    (h : reserveCommandRecord limit rows = .ok rows') : rows'.Sublist rows := by
  unfold reserveCommandRecord at h
  simp only at h
  split at h
  · cases h
    exact List.Sublist.refl _
  · split at h
    · cases h
    · cases h
      exact List.filter_sublist

theorem Recorded.find? {d d' : Durable} {c : VerifiedGatewayCommand} {row : CommandRow}
    (h : Recorded cfg d c row d') :
    (d'.commands.find? fun r => r.commandId = c.commandId) = some row := by
  obtain ⟨rows, hrows, rfl⟩ := h.result
  have hnone : (rows.find? fun r => r.commandId = c.commandId) = none :=
    find?_eq_none_iff.mpr fun r hr => h.unseen r ((reserveCommandRecord_sublist hrows).subset hr)
  rw [List.find?_append, hnone]
  simp [h.row_eq.1]

/-- The acknowledgement is stored with its command. -/
def withAck (d : Durable) (ack : GatewayAck) : Durable :=
  { d with
    commands := d.commands.map fun r =>
      if r.commandId = ack.commandId then { r with ack := some ack } else r }

theorem pushAck_eq_ok {d : Durable} {ack : GatewayAck} {row : CommandRow}
    (hrow : (d.commands.find? fun r => r.commandId = ack.commandId) = some row)
    (hdigest : row.digest = ack.commandDigest) (hid : row.ackId = ack.ackId) (hack : row.ack = none) :
    d.pushAck ack = .ok (d.withAck ack) := by
  simp [pushAck, hrow, hdigest, hid, hack, require, withAck]

end Durable

/-! ## References -/

namespace Memory

theorem validatePrepareReference_eq_ok_iff {m : Memory} {base : Option BaseReference}
    {ref : BundleReference} : m.validatePrepareReference base ref = .ok () ↔
      m.active = base ∧ m.staged = none ∧ (∀ floor ∈ m.denyFloorGeneration, floor < ref.generation) ∧
        ∀ b ∈ base, b.generation < ref.generation := by
  simp only [validatePrepareReference, bind_eq_ok_iff, require_eq_ok_iff, exists_unit_and_iff]

theorem validateCommitReference_eq_ok_iff {m : Memory} {target : BundleReference} :
    m.validateCommitReference target = .ok () ↔ m.staged = some target ∧
      (∀ floor ∈ m.denyFloorGeneration, floor < target.generation) ∧ m.base = m.active := by
  simp only [validateCommitReference, bind_eq_ok_iff, require_eq_ok_iff, exists_unit_and_iff]

end Memory

/-! ## Acknowledging -/

namespace Gateway

variable {g g' : Gateway} {c : VerifiedGatewayCommand} {env : Env} {row : CommandRow}

/-- The gateway with an acknowledgement stored. -/
def acked (g : Gateway) (ack : GatewayAck) : Gateway := { g with disk := g.disk.withAck ack }

/-- An APPLIED acknowledgement is withheld while recovery is required. -/
def Withheld (g : Gateway) (row : CommandRow) : Prop :=
  row.status = .applied ∧ g.mem.lifecycle = .recoveryRequired

/-- The three ways `_ack` ends on a recorded command. -/
inductive Acknowledged (g : Gateway) (c : VerifiedGatewayCommand) (row : CommandRow) (env : Env) :
    Effect GatewayAck → Prop
  | stored (ack : GatewayAck) (h : row.ack = some ack) : Acknowledged g c row env ⟨[], g, .ok ack⟩
  | withheld (e : Raised) (h : row.ack = none) (hw : g.Withheld row) :
      Acknowledged g c row env ⟨[], g, .error e⟩
  | pushed (h : row.ack = none) (hw : ¬ g.Withheld row) :
      Acknowledged g c row env
        ⟨[(g.acked (buildAck c row env)).disk], g.acked (buildAck c row env),
          .ok (buildAck c row env)⟩

theorem acknowledge_cases
    (hrow : (g.disk.commands.find? fun r => r.commandId = c.commandId) = some row)
    (hdigest : row.digest = c.commandDigest) :
    Acknowledged g c row env (g.acknowledge c row env) := by
  unfold acknowledge
  cases hack : row.ack with
  | some ack => exact .stored ack hack
  | none =>
    simp only
    split
    · next hw => exact .withheld _ hack hw
    · next hw =>
      rw [@Durable.pushAck_eq_ok _ (buildAck c row env) row hrow hdigest rfl hack]
      exact .pushed hack hw

theorem acknowledgeRecorded_eq
    (hrow : (g.disk.commands.find? fun r => r.commandId = c.commandId) = some row)
    (hdigest : row.digest = c.commandDigest) :
    g.acknowledgeRecorded c env = g.acknowledge c row env := by
  rw [acknowledgeRecorded, Durable.validateNewCommand_eq_some_iff.mpr ⟨hrow, hdigest⟩]

/-! ## Reading the deny tables -/

/-- The memory of `g` with the deny tables read, in part or whole, and recovery perhaps required. -/
structure Reread (g : Gateway) (m : Memory) : Prop where
  same : m = { g.mem with
    denies := m.denies, denyHighwater := m.denyHighwater, recoveryRequired := m.recoveryRequired }
  denies : m.denies = g.mem.denies ∨ m.denies = g.disk.denies
  highwater : m.denyHighwater = g.mem.denyHighwater ∨ m.denyHighwater = g.disk.denyHighwater
  recovery : g.mem.recoveryRequired = true → m.recoveryRequired = true

theorem Reread.refl (g : Gateway) : g.Reread g.mem := ⟨rfl, .inl rfl, .inl rfl, id⟩

/-- The gateway whose deny tables were just read. -/
def reading (g : Gateway) : Gateway :=
  { g with mem := { g.mem with denies := g.disk.denies, denyHighwater := g.disk.denyHighwater } }

theorem loadDenyTables_eq_ok {read : Gateway} (h : g.loadDenyTables = (read, .ok ())) :
    read = g.reading := by
  simp only [loadDenyTables] at h
  split at h
  · split at h
    · exact (Prod.mk.inj h).1.symm
    · simp at h
  · simp at h

theorem loadDenyTables_reread {read : Gateway} {r : Except Raised Unit}
    (h : g.loadDenyTables = (read, r)) : read.disk = g.disk ∧ g.Reread read.mem := by
  simp only [loadDenyTables] at h
  split at h
  · split at h
    · obtain ⟨rfl, -⟩ := Prod.mk.inj h
      exact ⟨rfl, rfl, .inr rfl, .inr rfl, id⟩
    · obtain ⟨rfl, -⟩ := Prod.mk.inj h
      exact ⟨rfl, rfl, .inr rfl, .inl rfl, id⟩
  · obtain ⟨rfl, -⟩ := Prod.mk.inj h
    exact ⟨rfl, .refl g⟩

theorem verifyDenyStore_eq_ok {read : Gateway} (h : g.verifyDenyStore = (read, .ok ())) :
    read = g.reading := by
  simp only [verifyDenyStore] at h
  split at h
  · next g' hload =>
    obtain ⟨rfl, -⟩ := Prod.mk.inj h
    exact loadDenyTables_eq_ok hload
  · simp at h

theorem verifyDenyStore_reread {read : Gateway} {r : Except Raised Unit}
    (h : g.verifyDenyStore = (read, r)) : read.disk = g.disk ∧ g.Reread read.mem := by
  simp only [verifyDenyStore] at h
  split at h
  · next g' hload =>
    obtain ⟨rfl, -⟩ := Prod.mk.inj h
    exact loadDenyTables_reread hload
  · next g' e hload =>
    obtain ⟨rfl, -⟩ := Prod.mk.inj h
    obtain ⟨hdisk, hmem⟩ := loadDenyTables_reread hload
    exact ⟨hdisk, congrArg (fun m : Memory => { m with recoveryRequired := true }) hmem.same,
      hmem.denies, hmem.highwater, fun _ => rfl⟩

/-! ## Recording -/

theorem leaseIf_eq_ok {issueLease : Bool} {leaseId : TypedId .authLease} {now : Nat}
    (h : g.leaseIf issueLease leaseId now = .ok g') :
    g' = { g with disk := { g.disk with leases := g'.disk.leases } } := by
  unfold leaseIf at h
  split at h
  · unfold issueAuthLease at h
    split at h
    · cases h
    · simp only [bind_eq_ok_iff, require_eq_ok_iff, exists_const, pure_eq_ok, Except.ok.injEq] at h
      obtain ⟨-, rfl⟩ := h
      rfl
  · cases h
    rfl

/-! ## The transactions -/

theorem stagePrepare_eq_ok {ref : BundleReference} {base : Option BaseReference} {ackId : AckId}
    (h : g.stagePrepare cfg c ref base ackId = .ok g') :
    g.mem.validatePrepareReference base ref = .ok () ∧
      Durable.Recorded cfg { g.disk with staged := some ref, base := base } c
        (Durable.pendingRow c ackId .prepared (.target ref)) g'.disk ∧
      g'.mem = { g.mem with staged := some ref, base := base } := by
  simp only [stagePrepare, bind_eq_ok_iff, exists_unit_and_iff, pure_eq_ok, Except.ok.injEq] at h
  obtain ⟨hcheck, disk, hrec, rfl⟩ := h
  exact ⟨hcheck, Durable.recordPending_eq_ok hrec, rfl⟩

theorem commitStaged_eq_ok {target : BundleReference} {bundle : PolicyBundleV1} {ackId : AckId}
    (h : g.commitStaged cfg c target bundle ackId = .ok g') :
    Durable.Recorded cfg
        { g.disk with previous := g.mem.active, active := some target, staged := none, base := none }
        c (Durable.pendingRow c ackId .applied (.active target)) g'.disk ∧
      g'.mem = { g.mem with
        previous := g.mem.active, active := some target, activeBundle := some bundle
        staged := none, base := none } := by
  simp only [commitStaged, bind_eq_ok_iff, pure_eq_ok, Except.ok.injEq] at h
  obtain ⟨disk, hrec, rfl⟩ := h
  exact ⟨Durable.recordPending_eq_ok hrec, rfl⟩

theorem issueDeny_eq_ok {payload : DenyCommandPayload} {now : Nat} {ackId : AckId}
    (h : g.issueDeny cfg c payload now ackId = .ok g') :
    checkHighwater g.mem payload = .ok () ∧
      Durable.Recorded cfg
        { g.disk with
          denies := g.disk.denies.insert payload.subject (overlayOf payload now)
          denyHighwater := g.disk.denyHighwater.insert payload.subject
            (payload.denyEpoch, payload.denyFloorGeneration)
          denyHeartbeatMs := now }
        c (Durable.pendingRow c ackId .denied (.deny payload)) g'.disk ∧
      g'.mem = { g.mem with
        denies := g.mem.denies.insert payload.subject (overlayOf payload now)
        denyHighwater := g.mem.denyHighwater.insert payload.subject
          (payload.denyEpoch, payload.denyFloorGeneration)
        denyHeartbeatMs := now } := by
  simp only [issueDeny, bind_eq_ok_iff, exists_unit_and_iff, pure_eq_ok, Except.ok.injEq] at h
  obtain ⟨hcheck, disk, hrec, rfl⟩ := h
  exact ⟨hcheck, Durable.recordPending_eq_ok hrec, rfl⟩

theorem clearDeny_eq_ok {payload : ClearDenyCommandPayload} {now : Nat} {ackId : AckId}
    (h : g.clearDeny cfg c payload now ackId = .ok g') :
    Durable.Recorded cfg
        { g.disk with denies := g.disk.denies.erase payload.subject, denyHeartbeatMs := now }
        c (Durable.pendingRow c ackId .denyCleared (.cleared payload)) g'.disk ∧
      g'.mem = { g.mem with
        denies := g.mem.denies.erase payload.subject, denyHeartbeatMs := now } := by
  simp only [clearDeny, bind_eq_ok_iff, require_eq_ok_iff, exists_unit_and_iff, pure_eq_ok,
    Except.ok.injEq] at h
  obtain ⟨-, disk, hrec, rfl⟩ := h
  exact ⟨Durable.recordPending_eq_ok hrec, rfl⟩

theorem recordStatus_eq_ok {issueLease : Bool} {now serviceNow : Nat} {r : Readiness}
    {leaseId : TypedId .authLease} {ackId : AckId}
    (h : g.recordStatus cfg c issueLease now serviceNow r leaseId ackId = .ok g') :
    (∃ leases result, Durable.Recorded cfg { (g.renewRows now).disk with leases } c
        (Durable.pendingRow c ackId .status result) g'.disk) ∧
      g'.mem = (g.renewRows now).mem := by
  simp only [recordStatus, bind_eq_ok_iff, pure_eq_ok, Except.ok.injEq] at h
  obtain ⟨leased, hleased, disk, hrec, rfl⟩ := h
  have hsame := leaseIf_eq_ok hleased
  have hdisk : { (g.renewRows now).disk with leases := leased.disk.leases } = leased.disk :=
    (congrArg Gateway.disk hsame).symm
  have hmem : leased.mem = (g.renewRows now).mem := by rw [hsame]
  refine ⟨⟨leased.disk.leases, .status (leased.status r serviceNow), ?_⟩, hmem⟩
  rw [hdisk]
  exact Durable.recordPending_eq_ok hrec

/-- The command was not recorded: tables and memory as before, up to rereading. -/
structure Unrecorded (cfg : Config) (g : Gateway) (e : Effect GatewayAck) : Prop where
  passed : ∀ d ∈ e.passed, Durable.SameTables cfg g.disk d
  disk : Durable.SameTables cfg g.disk e.after.disk
  mem : g.Reread e.after.mem
  outcome : ∃ err, e.outcome = .error err

theorem Unrecorded.unchanged (err : Raised) : Unrecorded cfg g (.raised g err) :=
  ⟨by simp [Effect.raised], .refl _, .refl g, err, rfl⟩

/-- The transaction that records a command, by the command's kind; `g'` is the state after it. -/
inductive Records (cfg : Config) (g : Gateway) (c : VerifiedGatewayCommand) (env : Env) :
    Gateway → Prop
  | prepare {base : Option BaseReference} {target : BundleReference} {raw : Bytes}
      {bundle : PolicyBundleV1} {stored : Durable} {g' : Gateway}
      (body : c.body = .prepare base target (some raw))
      (valid : validateBundle cfg env raw target = .ok bundle)
      (store : g.disk.storeBundle cfg raw target.bundleHash = .ok stored)
      (stage : stagePrepare cfg { g with disk := stored } c target base env.ackId = .ok g') :
      Records cfg g c env g'
  | commit {target : BundleReference} {bundle : PolicyBundleV1} {g' : Gateway}
      (body : c.body = .commit target)
      (checked : g.mem.validateCommitReference target = .ok ())
      (loaded : g.disk.loadBundle cfg target.bundleHash = .ok bundle)
      (committed : commitStaged cfg { g with disk := { g.disk with pointerFile := some target } }
        c target bundle env.ackId = .ok g') :
      Records cfg g c env g'
  | deny {payload : DenyCommandPayload} {g' : Gateway} (body : c.body = .deny payload)
      (active : g.activePolicy c.policy = .ok ())
      (issued : g.reading.issueDeny cfg c payload env.now env.ackId = .ok g') :
      Records cfg g c env g'
  | clear {payload : ClearDenyCommandPayload} {g' : Gateway} (body : c.body = .clearDeny payload)
      (active : g.activePolicy c.policy = .ok ())
      (cleared : g.reading.clearDeny cfg c payload env.now env.ackId = .ok g') :
      Records cfg g c env g'
  | status {issueLease : Bool} {g' : Gateway} (body : c.body = .status issueLease)
      (recorded : g.reading.recordStatus cfg c issueLease env.now env.serviceNow env.readiness
        env.leaseId env.ackId = .ok g') :
      Records cfg g c env g'

/-- How a recorded command ends. -/
inductive Ended (c : VerifiedGatewayCommand) (env : Env) (g' : Gateway) :
    Gateway → Except Raised GatewayAck → Prop
  | unacked (e : Raised) : Ended c env g' g' (.error e)
  | swapFailed (e : Raised) :
      Ended c env g' (g'.enterRecoveryRequired "live_swap_failed") (.error e)
  | acked {row : CommandRow} {outcome : Except Raised GatewayAck}
      (found : (g'.disk.commands.find? fun r => r.commandId = c.commandId) = some row)
      (pending : row.ack = none)
      (returned : outcome = .ok (buildAck c row env) ∨ outcome = .error .cancelledError) :
      Ended c env g' (g'.acked (buildAck c row env)) outcome

/-- The command was recorded and ended; a crash leaves the tables before, the recorded state or
the final one. -/
structure Settled (cfg : Config) (g : Gateway) (c : VerifiedGatewayCommand) (env : Env)
    (g' : Gateway) (e : Effect GatewayAck) : Prop where
  passed : ∀ d ∈ e.passed,
    Durable.SameTables cfg g.disk d ∨ d = g'.disk ∨ d = e.after.disk
  ended : Ended c env g' e.after e.outcome

/-- The disk of a recorded state comes from `_record_pending`. -/
theorem Records.recorded (h : Records cfg g c env g') :
    ∃ d row, Durable.Recorded cfg d c row g'.disk ∧ d.commands = g.disk.commands ∧
      d.channels = g.disk.channels := by
  cases h with
  | prepare _ _ store stage =>
    have hsame := (Durable.storeBundle_sameTables store).tables
    exact ⟨_, _, (stagePrepare_eq_ok stage).2.1, by rw [hsame], by rw [hsame]⟩
  | commit _ _ _ committed => exact ⟨_, _, (commitStaged_eq_ok committed).1, rfl, rfl⟩
  | deny _ _ issued => exact ⟨_, _, (issueDeny_eq_ok issued).2.1, rfl, rfl⟩
  | clear _ _ cleared => exact ⟨_, _, (clearDeny_eq_ok cleared).1, rfl, rfl⟩
  | status _ recorded =>
    obtain ⟨leases, result, hrec⟩ := (recordStatus_eq_ok recorded).1
    exact ⟨_, _, hrec, rfl, rfl⟩

/-! ## One command -/

theorem Acknowledged.ended {e : Effect GatewayAck}
    (found : (g'.disk.commands.find? fun r => r.commandId = c.commandId) = some row)
    (pending : row.ack = none) (h : Acknowledged g' c row env e) :
    Ended c env g' e.after e.outcome ∧ ∀ d ∈ e.passed, d = e.after.disk := by
  cases h with
  | stored ack hack => rw [pending] at hack; cases hack
  | withheld err => exact ⟨.unacked err, by simp⟩
  | pushed => exact ⟨.acked found pending (.inl rfl), by simp⟩

theorem Ended.unlessCancelled {e : Effect GatewayAck} {cancelled : Bool}
    (h : Ended c env g' e.after e.outcome) :
    Ended c env g' (e.unlessCancelled cancelled).after (e.unlessCancelled cancelled).outcome := by
  unfold Effect.unlessCancelled
  cases hout : e.outcome with
  | error err => rw [hout] at h; simpa [hout] using h
  | ok ack =>
    cases cancelled with
    | false => rw [hout] at h; simpa [hout] using h
    | true =>
      rw [hout] at h
      simp only [if_true]
      generalize hafter : e.after = after at h
      generalize hval : (Except.ok ack : Except Raised GatewayAck) = value at h
      cases h with
      | unacked err => cases hval
      | swapFailed err => cases hval
      | acked found pending returned => exact .acked found pending (.inr rfl)

/-- The tail of a handler, after the transaction. -/
theorem settled_acknowledgeRecorded {d : Durable} {row : CommandRow}
    (hrec : Durable.Recorded cfg d c row g'.disk) (before : List Durable)
    (hbefore : ∀ d ∈ before, Durable.SameTables cfg g.disk d ∨ d = g'.disk) (cancelled : Bool) :
    Settled cfg g c env g'
      (((g'.acknowledgeRecorded c env).unlessCancelled cancelled).preceded before) := by
  rw [acknowledgeRecorded_eq hrec.find? hrec.row_eq.2.1]
  have hack : Acknowledged g' c row env (g'.acknowledge c row env) :=
    acknowledge_cases hrec.find? hrec.row_eq.2.1
  obtain ⟨hended, hpassed⟩ := hack.ended hrec.find? hrec.row_eq.2.2.2.2
  have hkeep : ∀ e : Effect GatewayAck, (e.unlessCancelled cancelled).passed = e.passed ∧
      (e.unlessCancelled cancelled).after = e.after := by
    intro e
    unfold Effect.unlessCancelled
    split
    · split <;> exact ⟨rfl, rfl⟩
    · exact ⟨rfl, rfl⟩
  refine ⟨fun d hd => ?_, hended.unlessCancelled⟩
  rcases List.mem_append.mp hd with hd | hd
  · exact (hbefore d hd).imp_right .inl
  · rw [(hkeep _).1] at hd
    refine .inr (.inr ?_)
    show d = ((g'.acknowledge c row env).unlessCancelled cancelled).after.disk
    rw [(hkeep _).2]
    exact hpassed d hd

/-- Either nothing is recorded, or the command is and ends. -/
def Outcome (cfg : Config) (g : Gateway) (c : VerifiedGatewayCommand) (env : Env)
    (e : Effect GatewayAck) : Prop :=
  Unrecorded cfg g e ∨ ∃ g', Records cfg g c env g' ∧ Settled cfg g c env g' e

theorem Outcome.refused (err : Raised) : Outcome cfg g c env (.raised g err) :=
  .inl (.unchanged err)

theorem prepare_outcome {base : Option BaseReference} {target : BundleReference}
    {bundle : Option Bytes} (hbody : c.body = .prepare base target bundle) :
    Outcome cfg g c env (g.prepare cfg c base target bundle env) := by
  unfold prepare
  cases bundle with
  | none => exact .refused _
  | some raw =>
    simp only
    split
    · exact .refused _
    · next hchecks =>
      simp only [bind_eq_ok_iff] at hchecks
      obtain ⟨b, hvalid, -⟩ := hchecks
      split
      · exact .refused _
      · next stored hstore =>
        have hsame := Durable.storeBundle_sameTables hstore
        have hkept : ∀ e : Raised, Unrecorded cfg g
            (.raised { g with disk := stored } e [stored]) := fun e =>
          ⟨by simpa [Effect.raised] using hsame, hsame, .refl g, e, rfl⟩
        split
        · exact .inl (hkept _)
        · split
          · exact .inl (hkept _)
          · next recorded hstage =>
            simp only [bind_eq_ok_iff, exists_unit_and_iff] at hstage
            have hrecords : Records cfg g c env recorded := .prepare hbody hvalid hstore hstage.2
            obtain ⟨d, row, hrec, -, -⟩ := hrecords.recorded
            have hbefore : ∀ d ∈ [stored, recorded.disk],
                Durable.SameTables cfg g.disk d ∨ d = recorded.disk := by
              intro d hd
              simp only [List.mem_cons, List.not_mem_nil, or_false] at hd
              rcases hd with rfl | rfl
              · exact .inl hsame
              · exact .inr rfl
            refine .inr ⟨recorded, hrecords, ?_⟩
            split
            · exact ⟨fun d hd => (hbefore d hd).imp_right .inl, .unacked _⟩
            · rw [← Effect.unlessCancelled_false (recorded.acknowledgeRecorded c env)]
              exact settled_acknowledgeRecorded hrec _ hbefore false

theorem commit_outcome {target : BundleReference} (hbody : c.body = .commit target) :
    Outcome cfg g c env (g.commit cfg c target env) := by
  unfold commit
  simp only
  split
  · exact .refused _
  · next bundle hchecks =>
    simp only [bind_eq_ok_iff, exists_unit_and_iff] at hchecks
    obtain ⟨-, -, hcheck, hload⟩ := hchecks
    split
    · exact .inl ⟨by simpa [Effect.raised] using .pointerFile _ _, .pointerFile _ _, .refl g, _, rfl⟩
    · next recorded hcommit =>
      have hrecords : Records cfg g c env recorded := .commit hbody hcheck hload hcommit
      obtain ⟨d, row, hrec, -, -⟩ := hrecords.recorded
      refine .inr ⟨recorded, hrecords, ?_⟩
      have hbefore : ∀ d ∈ [{ g.disk with pointerFile := some target }, recorded.disk],
          Durable.SameTables cfg g.disk d ∨ d = recorded.disk := by
        intro d hd
        simp only [List.mem_cons, List.not_mem_nil, or_false] at hd
        rcases hd with rfl | rfl
        · exact .inl (.pointerFile _ _)
        · exact .inr rfl
      split
      · exact settled_acknowledgeRecorded hrec _ hbefore _
      · refine ⟨fun d hd => ?_, .swapFailed _⟩
        rcases List.mem_append.mp hd with hd | hd
        · exact (hbefore d hd).imp_right .inl
        · exact .inr (.inr (List.mem_singleton.mp hd))

theorem overlayCommand_outcome {write : Gateway → Except Raised Gateway}
    (hrecords : ∀ recorded, g.activePolicy c.policy = .ok () → write g.reading = .ok recorded →
      Records cfg g c env recorded) :
    Outcome cfg g c env (g.overlayCommand c env write) := by
  unfold overlayCommand
  split
  · exact .refused _
  · next hchecks =>
    simp only [bind_eq_ok_iff, exists_unit_and_iff] at hchecks
    split
    · next read e hread =>
      obtain ⟨hdisk, hmem⟩ := verifyDenyStore_reread hread
      exact .inl ⟨by simp [Effect.raised], hdisk ▸ .refl _, hmem, e, rfl⟩
    · next read hread =>
      obtain ⟨hdisk, hmem⟩ := verifyDenyStore_reread hread
      obtain rfl := verifyDenyStore_eq_ok hread
      split
      · next e _ => exact .inl ⟨by simp [Effect.raised], .refl _, hmem, e, rfl⟩
      · next recorded hwrite =>
        have hr := hrecords recorded hchecks.1 hwrite
        obtain ⟨d, row, hrec, -, -⟩ := hr.recorded
        exact .inr ⟨recorded, hr, settled_acknowledgeRecorded hrec _ (by simp) _⟩

theorem restoreOverlays_reread {read : Gateway} (h : g.Reread read.mem) :
    g.Reread (g.restoreOverlays read).mem :=
  ⟨rfl, .inl rfl, h.highwater, id⟩

theorem statusCommand_outcome {issueLease : Bool} (hbody : c.body = .status issueLease) :
    Outcome cfg g c env (g.statusCommand cfg c issueLease env) := by
  unfold statusCommand
  split
  · exact .refused _
  · split
    · next read e hread =>
      exact .inl ⟨by simp [Effect.raised], .refl _,
        restoreOverlays_reread (loadDenyTables_reread hread).2, e, rfl⟩
    · next read hread =>
      have hmem := (loadDenyTables_reread hread).2
      obtain rfl := loadDenyTables_eq_ok hread
      split
      · next e _ =>
        exact .inl ⟨by simp [Effect.raised], .refl _, restoreOverlays_reread hmem, e, rfl⟩
      · next recorded hwrite =>
        have hr : Records cfg g c env recorded := .status hbody hwrite
        obtain ⟨d, row, hrec, -, -⟩ := hr.recorded
        exact .inr ⟨recorded, hr, settled_acknowledgeRecorded hrec _ (by simp) _⟩

/-- **What `execute` can do**: answer a recorded command, or refuse or record a new one. -/
theorem execute_cases (cfg : Config) (g : Gateway) (c : VerifiedGatewayCommand) (env : Env) :
    (∃ row, g.disk.validateNewCommand c = .ok (some row) ∧
        Acknowledged g c row env (g.execute cfg c env)) ∨
      Outcome cfg g c env (g.execute cfg c env) := by
  unfold execute
  split
  · exact .inr (.refused _)
  · next row hrow =>
    obtain ⟨hfound, hdigest⟩ := Durable.validateNewCommand_eq_some_iff.mp hrow
    exact .inl ⟨row, hrow, acknowledge_cases hfound hdigest⟩
  · refine .inr ?_
    split
    · exact .refused _
    · split
      · next hbody => exact prepare_outcome hbody
      · next hbody => exact commit_outcome hbody
      · next hbody => exact overlayCommand_outcome fun _ => .deny hbody
      · next hbody => exact overlayCommand_outcome fun _ => .clear hbody
      · next hbody => exact statusCommand_outcome hbody
      · exact .refused _

end Gateway

namespace Gateway

variable {g g' after : Gateway} {c : VerifiedGatewayCommand} {env : Env} {row : CommandRow}

theorem Acknowledged.after_cases {e : Effect GatewayAck} (h : Acknowledged g c row env e) :
    e.after = g ∨ ∃ ack, e.after = g.acked ack := by
  cases h with
  | stored => exact .inl rfl
  | withheld => exact .inl rfl
  | pushed => exact .inr ⟨_, rfl⟩

theorem Ended.after_cases {outcome : Except Raised GatewayAck} (h : Ended c env g' after outcome) :
    after = g' ∨ after = g'.enterRecoveryRequired "live_swap_failed" ∨
      ∃ ack, after = g'.acked ack := by
  cases h with
  | unacked => exact .inl rfl
  | swapFailed => exact .inr (.inl rfl)
  | acked => exact .inr (.inr ⟨_, rfl⟩)

/-! ## One restart -/

/-- The memory `_recover` has built when it turns to the deny tables. -/
def pointersRead (cfg : Config) (d : Durable) (bootId : GatewayBootId)
    (bundle : Option PolicyBundleV1) : Memory :=
  { d.identity bootId with
    active := d.active, previous := d.previous, activeBundle := bundle
    staged := (d.checkStaged cfg).staged, base := (d.checkStaged cfg).base }

/-- The five ways `open` ends. -/
inductive Opened (cfg : Config) (d : Durable) (bootId : GatewayBootId) :
    List Durable × Gateway → Prop
  | unsound : Opened cfg d bootId ([], recoveryFailed ⟨d, d.identity bootId⟩)
  | unloadable : Opened cfg d bootId ([], recoveryFailed ⟨d, d.readPointers (d.identity bootId)⟩)
  | deniesUnreadable (bundle : Option PolicyBundleV1) :
      Opened cfg d bootId ([d.checkStaged cfg],
        recoveryFailed ⟨d.checkStaged cfg, pointersRead cfg d bootId bundle⟩)
  | highwaterUnreadable (bundle : Option PolicyBundleV1) :
      Opened cfg d bootId ([d.checkStaged cfg, (d.checkStaged cfg).backfillDenyHighwater],
        recoveryFailed ⟨(d.checkStaged cfg).backfillDenyHighwater,
          { pointersRead cfg d bootId bundle with denies := (d.checkStaged cfg).denies }⟩)
  | opened (bundle : Option PolicyBundleV1) (loaded : d.loadCurrent cfg = .ok bundle) :
      Opened cfg d bootId
        ([d.checkStaged cfg, (d.checkStaged cfg).backfillDenyHighwater,
          (d.checkStaged cfg).backfillDenyHighwater.reconcilePointer],
        ⟨(d.checkStaged cfg).backfillDenyHighwater.reconcilePointer,
          { pointersRead cfg d bootId bundle with
            denies := (d.checkStaged cfg).denies
            denyHighwater := (d.checkStaged cfg).backfillDenyHighwater.denyHighwater }⟩)

theorem openState_cases (cfg : Config) (d : Durable) (bootId : GatewayBootId) :
    Opened cfg d bootId (openState cfg d bootId) := by
  unfold openState
  simp only
  split
  · exact .unsound
  · split
    · exact .unloadable
    · next bundle hload =>
      split
      · exact .deniesUnreadable bundle
      · split
        · exact .highwaterUnreadable bundle
        · exact .opened bundle hload

end Gateway

theorem Durable.loadActive_eq_ok {d : Durable} {bundle : Option PolicyBundleV1}
    (h : d.loadActive cfg = .ok bundle) :
    (d.active = none ∧ bundle = none) ∨ ∃ ref b, d.active = some ref ∧ bundle = some b ∧
      d.loadBundle cfg ref.bundleHash = .ok b ∧ b.generation = ref.generation := by
  unfold loadActive at h
  split at h
  · next hnone =>
    cases h
    exact .inl ⟨hnone, rfl⟩
  · next ref hsome =>
    cases hload : d.loadReference cfg ref "active generation mismatch" with
    | error e => rw [hload] at h; cases h
    | ok b =>
      rw [hload] at h
      cases h
      simp only [loadReference, bind_eq_ok_iff, require_eq_ok_iff, exists_const, pure_eq_ok,
        Except.ok.injEq] at hload
      obtain ⟨b', hb, hgen, rfl⟩ := hload
      exact .inr ⟨ref, b', hsome, rfl, hb, hgen⟩

theorem Durable.loadCurrent_eq_ok {d : Durable} {bundle : Option PolicyBundleV1}
    (h : d.loadCurrent cfg = .ok bundle) :
    d.loadPrevious cfg = .ok () ∧ d.loadActive cfg = .ok bundle := by
  rw [loadCurrent, bind_eq_ok_iff] at h
  obtain ⟨⟨⟩, hprevious, hactive⟩ := h
  exact ⟨hprevious, hactive⟩

theorem Durable.loadBundle_eq_ok {d : Durable} {h : BundleHash} {b : PolicyBundleV1}
    (hload : d.loadBundle cfg h = .ok b) : ∃ payload, decodeBundle payload = .ok b ∧
      canonicalBundleBytes b = .ok payload := by
  unfold loadBundle at hload
  split at hload
  · cases hload
  · next payload _ =>
    simp only [bind_eq_ok_iff, require_eq_ok_iff, exists_const] at hload
    obtain ⟨-, -, hcanonical⟩ := hload
    exact ⟨payload, canonicalBundle?_eq_ok_iff.mp hcanonical⟩

/-! ## Invariants of runs -/

namespace Host

theorem crashed_mem (before : Durable) (passed : List Durable) (point : Nat) :
    crashed before passed point ∈ before :: passed := by
  unfold crashed
  cases hlast : ((before :: passed).take (point + 1)).getLast? with
  | none => exact List.mem_cons_self
  | some d => exact List.mem_of_mem_take (List.mem_of_getLast? hlast)

/-- `P` of the running process and `Q` of the durable state. -/
def Satisfies (P : Gateway → Prop) (Q : Durable → Prop) : Host → Prop
  | up g => P g
  | down d => Q d

/-- What an invariant has to survive, one field for each kind of event. -/
structure Invariant (cfg : Config) (P : Gateway → Prop) (Q : Durable → Prop) : Prop where
  deliver : ∀ g c env, P g → P (g.execute cfg c env).after
  crash : ∀ g, P g → Q g.disk
  crashDuring : ∀ g c env, P g → ∀ d ∈ (g.execute cfg c env).passed, Q d
  restart : ∀ d bootId, Q d → P (Gateway.openState cfg d bootId).2
  crashOpening : ∀ d bootId, Q d → ∀ d' ∈ (Gateway.openState cfg d bootId).1, Q d'
  renew : ∀ g now, P g → P (g.renewDenyHeartbeats now)
  confirmLive : ∀ g ref, P g → P (g.confirmLiveBundle ref)
  fenceOld : ∀ g epoch, P g → P (g.recordOldFence epoch)
  receiveTakeover : ∀ g epoch, P g → P (g.receiveTakeover epoch)
  acceptTakeover : ∀ g epoch, P g → P (g.acceptTakeover epoch)
  damageUp : ∀ g dm, P g → P { g with disk := g.disk.damaged dm }
  damageDown : ∀ d dm, Q d → Q (d.damaged dm)

variable {P : Gateway → Prop} {Q : Durable → Prop}

theorem Invariant.step (inv : Invariant cfg P Q) {h : Host} (hs : h.Satisfies P Q) (e : Event) :
    (h.step cfg e).Satisfies P Q := by
  cases h with
  | up g =>
    cases e with
    | deliver c env => exact inv.deliver g c env hs
    | crashDuring c env point =>
      show Q (crashed g.disk (g.execute cfg c env).passed point)
      rcases List.mem_cons.mp (crashed_mem g.disk (g.execute cfg c env).passed point) with h | h
      · rw [h]
        exact inv.crash g hs
      · exact inv.crashDuring g c env hs _ h
    | crash => exact inv.crash g hs
    | restart bootId => exact hs
    | crashOpening bootId point => exact hs
    | renew now => exact inv.renew g now hs
    | confirmLive ref => exact inv.confirmLive g ref hs
    | fenceOld epoch => exact inv.fenceOld g epoch hs
    | receiveTakeover epoch => exact inv.receiveTakeover g epoch hs
    | acceptTakeover epoch => exact inv.acceptTakeover g epoch hs
    | damage dm => exact inv.damageUp g dm hs
  | down d =>
    cases e with
    | restart bootId => exact inv.restart d bootId hs
    | crashOpening bootId point =>
      show Q (crashed d (Gateway.openState cfg d bootId).1 point)
      rcases List.mem_cons.mp (crashed_mem d (Gateway.openState cfg d bootId).1 point) with h | h
      · rw [h]
        exact hs
      · exact inv.crashOpening d bootId hs _ h
    | damage dm => exact inv.damageDown d dm hs
    | _ => exact hs

theorem Invariant.run (inv : Invariant cfg P Q) {h : Host} (hs : h.Satisfies P Q)
    (es : List Event) : (h.run cfg es).Satisfies P Q := by
  induction es generalizing h with
  | nil => exact hs
  | cons e es ih => exact ih (inv.step hs e)

/-- A host that an installation can reach from an empty state directory. -/
def Reachable (cfg : Config) (h : Host) : Prop := ∃ es, h = (down .empty).run cfg es

theorem Reachable.step {h : Host} (hr : h.Reachable cfg) (e : Event) :
    (h.step cfg e).Reachable cfg := by
  obtain ⟨es, rfl⟩ := hr
  exact ⟨es ++ [e], by simp [run]⟩

theorem Invariant.reachable (inv : Invariant cfg P Q) (hempty : Q .empty) {h : Host}
    (hr : h.Reachable cfg) : h.Satisfies P Q := by
  obtain ⟨es, rfl⟩ := hr
  have hstart : (down .empty).Satisfies P Q := hempty
  exact inv.run hstart es

end Host

end LlmMaxxing
