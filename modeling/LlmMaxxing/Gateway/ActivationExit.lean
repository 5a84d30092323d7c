import LlmMaxxing.Gateway.Acceptance

/-!
# Whether an activation has an exit (`gateway/activation.py`)

A staged bundle excludes every other PREPARE, no command withdraws it, and COMMIT compares it with
the deny floor once more. So a DENY that raises the floor to the staged generation ends all
activation: `Wedged` is kept by every accepted command (`Wedged.run`). In every other state that
accepted commands reach, the staged bundle commits, or a new one is prepared and commits:
`activation_exits_iff`.
-/

namespace LlmMaxxing

open Json Check

variable {cfg : Config}

/-! ## Accepted commands -/

namespace Gateway

/-- Commands that were executed one after the other, each acknowledged. -/
inductive AcceptedRun (cfg : Config) (g : Gateway) : Gateway → Prop where
  | refl : AcceptedRun cfg g g
  | step {g' : Gateway} (c : VerifiedGatewayCommand) (env : Env) (ack : GatewayAck)
      (run : AcceptedRun cfg g g') (accepted : (g'.execute cfg c env).outcome = .ok ack) :
      AcceptedRun cfg g (g'.execute cfg c env).after

variable {g g' : Gateway} {c : VerifiedGatewayCommand} {env : Env}

theorem AcceptedRun.trans {g'' : Gateway} (h : AcceptedRun cfg g g')
    (h' : AcceptedRun cfg g' g'') : AcceptedRun cfg g g'' := by
  induction h' with
  | refl => exact h
  | step c env ack _ accepted ih => exact ih.step c env ack accepted

theorem Accepted.run {written : Durable} {mem : Memory} (h : Accepted cfg g c env written mem) :
    AcceptedRun cfg g (g.execute cfg c env).after := by
  obtain ⟨ack, hack⟩ := h.outcome
  exact AcceptedRun.refl.step c env ack hack

/-- What accepted commands keep: the ledger has room, the memory mirrors the high-water marks, and a
staged bundle is above the active one, based on it and stored. -/
structure Orderly (cfg : Config) (g : Gateway) : Prop where
  ledger : g.disk.LedgerSound cfg
  recovery : g.mem.recoveryRequired = false
  highwater : g.mem.denyHighwater = g.disk.denyHighwater
  base : g.mem.staged ≠ none → g.mem.base = g.mem.active
  rising : ∀ t ∈ g.mem.staged, ∀ a ∈ g.mem.active, a.generation < t.generation
  loadable : ∀ t ∈ g.mem.staged, ∃ bundle, g.disk.loadBundle cfg t.bundleHash = .ok bundle

/-- The command was new: it was recorded and its acknowledgement stored. -/
theorem Orderly.execute_cases (h : g.Orderly cfg) {ack : GatewayAck}
    (hack : (g.execute cfg c env).outcome = .ok ack) :
    (g.execute cfg c env).after = g ∨
      ∃ recorded ack, Records cfg g c env recorded ∧ ack.commandId = c.commandId ∧
        (g.execute cfg c env).after = recorded.acked ack := by
  rcases Gateway.execute_cases cfg g c env with ⟨row, hrow, hacked⟩ | hun | ⟨recorded, hr, hset⟩
  · obtain ⟨hfound, -⟩ := Durable.validateNewCommand_eq_some_iff.mp hrow
    have hstored := h.ledger.acked row (List.mem_of_find?_eq_some hfound)
    generalize g.execute cfg c env = e at hacked ⊢
    cases hacked with
    | stored => exact Or.inl rfl
    | withheld _ hnone =>
      rw [hnone] at hstored
      cases hstored
    | pushed hnone =>
      rw [hnone] at hstored
      cases hstored
  · obtain ⟨err, herr⟩ := hun.outcome
    rw [herr] at hack
    cases hack
  · have hended := hset.ended
    rw [hack] at hended
    generalize (g.execute cfg c env).after = after at hended ⊢
    generalize hout : (Except.ok ack : Except Raised GatewayAck) = outcome at hended
    cases hended with
    | unacked => cases hout
    | swapFailed => cases hout
    | acked => exact Or.inr ⟨recorded, _, hr, rfl, rfl⟩

/-- A command on the overlays leaves the pointers and the files. -/
theorem Orderly.overlaid (h : g.Orderly cfg) {ack : GatewayAck}
    (hledger : (g'.acked ack).disk.LedgerSound cfg) {denies : Dict DenySubject DenyOverlay}
    {denyHighwater : Dict DenySubject (Nat × Option Nat)} {denyHeartbeatMs : Nat}
    (hmem : g'.mem = { g.mem with denies, denyHighwater, denyHeartbeatMs })
    (hhighwater : g'.disk.denyHighwater = denyHighwater) (hfiles : g'.disk.files = g.disk.files) :
    (g'.acked ack).Orderly cfg := by
  have hsame : (g'.acked ack).mem = g'.mem := rfl
  refine ⟨hledger, ?_, ?_, ?_, ?_, ?_⟩
  · rw [hsame, hmem]
    exact h.recovery
  · rw [hsame, hmem]
    exact hhighwater.symm
  · rw [hsame, hmem]
    exact h.base
  · rw [hsame, hmem]
    exact h.rising
  · rw [hsame, hmem]
    intro t ht
    have hload : (g'.acked ack).disk.loadBundle cfg t.bundleHash =
        g.disk.loadBundle cfg t.bundleHash :=
      Durable.loadBundle_congr (congrArg (Dict.get? · t.bundleHash) hfiles)
    rw [hload]
    exact h.loadable t ht

/-- What a recorded command leaves to the staged bundle and the high-water marks. -/
theorem Records.orderly (h : g.Orderly cfg) (hr : Records cfg g c env g') {ack : GatewayAck}
    (hid : ack.commandId = c.commandId) : (g'.acked ack).Orderly cfg := by
  have hledger : (g'.acked ack).disk.LedgerSound cfg := by
    obtain ⟨d, row, hrec, hcommands, hchannels⟩ := hr.recorded
    exact (h.ledger.congr hcommands hchannels).recorded hrec ack hid
  have hload : ∀ {d d' : Durable} {k : BundleHash}, d'.files = d.files →
      d'.loadBundle cfg k = d.loadBundle cfg k :=
    fun hfiles => Durable.loadBundle_congr (by rw [hfiles])
  cases hr with
  | @prepare base target raw bundle stored _ _ valid store stage =>
    obtain ⟨hcheck, hrec, hmem⟩ := stagePrepare_eq_ok stage
    obtain ⟨hactive, -, -, hbase⟩ := Memory.validatePrepareReference_eq_ok_iff.mp hcheck
    have htables := (Durable.storeBundle_sameTables store).tables
    refine ⟨hledger, ?_, ?_, fun _ => ?_, fun t ht a ha => ?_, fun t ht => ?_⟩
    · show g'.mem.recoveryRequired = false
      rw [hmem]
      exact h.recovery
    · show g'.mem.denyHighwater = g'.disk.denyHighwater
      rw [hmem, hrec.tables, htables]
      exact h.highwater
    · show g'.mem.base = g'.mem.active
      rw [hmem]
      exact hactive.symm
    · change t ∈ g'.mem.staged at ht
      change a ∈ g'.mem.active at ha
      rw [hmem] at ht ha
      obtain rfl := Option.some.inj ht
      change g.mem.active = base at hactive
      exact hbase a (hactive ▸ ha)
    · change t ∈ g'.mem.staged at ht
      rw [hmem] at ht
      obtain rfl := Option.some.inj ht
      have hvalid := valid
      simp only [validateBundle, bind_eq_ok_iff, require_eq_ok_iff, exists_unit_and_iff] at hvalid
      obtain ⟨-, -, b, hcanonical, -⟩ := hvalid
      refine ⟨b, ?_⟩
      rw [← Durable.loadBundle_of_stored store hcanonical]
      refine hload ?_
      show g'.disk.files = stored.files
      rw [hrec.tables]
  | commit _ checked loaded committed =>
    obtain ⟨hrec, hmem⟩ := commitStaged_eq_ok committed
    have hnone : (g'.acked ack).mem.staged = none := by
      show g'.mem.staged = none
      rw [hmem]
    refine ⟨hledger, ?_, ?_, fun hne => absurd hnone hne, fun t ht => ?_, fun t ht => ?_⟩
    · show g'.mem.recoveryRequired = false
      rw [hmem]
      exact h.recovery
    · show g'.mem.denyHighwater = g'.disk.denyHighwater
      rw [hmem, hrec.tables]
      exact h.highwater
    · rw [hnone] at ht
      cases ht
    · rw [hnone] at ht
      cases ht
  | deny _ _ issued =>
    obtain ⟨-, hrec, hmem⟩ := issueDeny_eq_ok issued
    refine h.overlaid hledger hmem ?_ ?_
    · rw [hrec.tables]
      rfl
    · rw [hrec.tables]
      rfl
  | clear _ _ cleared =>
    obtain ⟨hrec, hmem⟩ := clearDeny_eq_ok cleared
    refine h.overlaid hledger hmem ?_ ?_
    · rw [hrec.tables]
      rfl
    · rw [hrec.tables]
      rfl
  | status _ recorded =>
    obtain ⟨⟨leases, result, hrec⟩, hmem⟩ := recordStatus_eq_ok recorded
    refine h.overlaid hledger hmem ?_ ?_
    · rw [hrec.tables]
      rfl
    · rw [hrec.tables]
      rfl

theorem Orderly.step (h : g.Orderly cfg) {ack : GatewayAck}
    (hack : (g.execute cfg c env).outcome = .ok ack) : (g.execute cfg c env).after.Orderly cfg := by
  rcases h.execute_cases hack with hsame | ⟨recorded, ack', hr, hid, hafter⟩
  · rw [hsame]
    exact h
  · rw [hafter]
    exact hr.orderly h hid

theorem Orderly.run (h : g.Orderly cfg) (hrun : AcceptedRun cfg g g') : g'.Orderly cfg := by
  induction hrun with
  | refl => exact h
  | step c env ack _ accepted ih => exact ih.step accepted

/-- An empty installation. -/
theorem orderly_open (cfg : Config) (boot : GatewayBootId) :
    (Gateway.openState cfg .empty boot).2.Orderly cfg where
  ledger :=
    ⟨fun _ hrow => (List.not_mem_nil hrow).elim, Nat.zero_le _,
      fun _ hrow => (List.not_mem_nil hrow).elim⟩
  recovery := rfl
  highwater := rfl
  base := fun _ => rfl
  rising := fun _ ht => (by cases ht)
  loadable := fun _ ht => (by cases ht)

/-! ## The deny floor -/

/-- A high-water mark is at or above `n`. -/
def Floored (n : Nat) (marks : Dict DenySubject (Nat × Option Nat)) : Prop :=
  ∃ s epoch floor, marks.get? s = some (epoch, some floor) ∧ n ≤ floor

theorem floored_iff {m : Memory} {n : Nat} :
    Floored n m.denyHighwater ↔ ∃ floor ∈ m.denyFloorGeneration, n ≤ floor := by
  have hmem : ∀ floor, floor ∈ m.denyHighwater.values.filterMap Prod.snd ↔
      ∃ s epoch, m.denyHighwater.get? s = some (epoch, some floor) := by
    intro floor
    rw [List.mem_filterMap]
    constructor
    · rintro ⟨⟨epoch, f⟩, hvalue, hf⟩
      obtain ⟨s, hs⟩ := Dict.mem_values_iff.mp hvalue
      exact ⟨s, epoch, hs.trans (by rw [show f = some floor from hf])⟩
    · rintro ⟨s, epoch, hs⟩
      exact ⟨(epoch, some floor), Dict.mem_values_iff.mpr ⟨s, hs⟩, rfl⟩
  constructor
  · rintro ⟨s, epoch, floor, hs, hle⟩
    have hfloor := (hmem floor).mpr ⟨s, epoch, hs⟩
    obtain ⟨top, htop⟩ := Option.isSome_iff_exists.mp (List.isSome_max?_of_mem hfloor)
    exact ⟨top, htop, hle.trans ((List.max?_eq_some_iff.mp htop).2 floor hfloor)⟩
  · rintro ⟨floor, hfloor, hle⟩
    obtain ⟨s, epoch, hs⟩ := (hmem floor).mp (List.max?_eq_some_iff.mp hfloor).1
    exact ⟨s, epoch, floor, hs, hle⟩

/-- A DENY does not lower the floor. -/
theorem floored_deny {m : Memory} {payload : DenyCommandPayload} {n : Nat}
    (hcheck : checkHighwater m payload = .ok ()) (h : Floored n m.denyHighwater) :
    Floored n (m.denyHighwater.insert payload.subject
      (payload.denyEpoch, payload.denyFloorGeneration)) := by
  obtain ⟨s, epoch, floor, hs, hle⟩ := h
  by_cases heq : s = payload.subject
  · subst heq
    rw [checkHighwater, hs] at hcheck
    simp only [bind_eq_ok_iff, require_eq_ok_iff, exists_unit_and_iff] at hcheck
    obtain ⟨-, hfloors⟩ := hcheck
    obtain ⟨floor', hfloor', hle'⟩ := hfloors floor rfl
    refine ⟨payload.subject, payload.denyEpoch, floor', ?_, hle.trans hle'⟩
    rw [Dict.get?_insert_self]
    exact congrArg (fun f => some (payload.denyEpoch, f)) hfloor'
  · refine ⟨s, epoch, floor, ?_, hle⟩
    rw [Dict.get?_insert_of_ne _ _ heq]
    exact hs

/-! ## No exit -/

/-- The staged bundle is at or below the deny floor. -/
structure Wedged (t : BundleReference) (g : Gateway) : Prop where
  staged : g.mem.staged = some t
  floored : Floored t.generation g.mem.denyHighwater

theorem Records.wedged {t : BundleReference} (ho : g.Orderly cfg) (h : g.Wedged t)
    (hr : Records cfg g c env g') : g'.Wedged t ∧ g'.mem.active = g.mem.active := by
  cases hr with
  | prepare _ _ store stage =>
    obtain ⟨hcheck, -, -⟩ := stagePrepare_eq_ok stage
    obtain ⟨-, hnone, -⟩ := Memory.validatePrepareReference_eq_ok_iff.mp hcheck
    change g.mem.staged = none at hnone
    rw [h.staged] at hnone
    cases hnone
  | commit _ checked loaded committed =>
    obtain ⟨hstaged, hfloor, -⟩ := Memory.validateCommitReference_eq_ok_iff.mp checked
    rw [h.staged] at hstaged
    obtain rfl := Option.some.inj hstaged
    obtain ⟨floor, hmem, hle⟩ := floored_iff.mp h.floored
    exact absurd (hfloor floor hmem) (Nat.not_lt.mpr hle)
  | deny _ _ issued =>
    obtain ⟨hcheck, -, hmem⟩ := issueDeny_eq_ok issued
    have hread : Floored t.generation g.reading.mem.denyHighwater := by
      show Floored t.generation g.disk.denyHighwater
      rw [← ho.highwater]
      exact h.floored
    refine ⟨⟨?_, ?_⟩, ?_⟩
    · rw [hmem]
      exact h.staged
    · rw [hmem]
      exact floored_deny hcheck hread
    · rw [hmem]
      rfl
  | clear _ _ cleared =>
    obtain ⟨-, hmem⟩ := clearDeny_eq_ok cleared
    refine ⟨⟨?_, ?_⟩, ?_⟩
    · rw [hmem]
      exact h.staged
    · rw [hmem]
      show Floored t.generation g.disk.denyHighwater
      rw [← ho.highwater]
      exact h.floored
    · rw [hmem]
      rfl
  | status _ recorded =>
    obtain ⟨-, hmem⟩ := recordStatus_eq_ok recorded
    refine ⟨⟨?_, ?_⟩, ?_⟩
    · rw [hmem]
      exact h.staged
    · rw [hmem]
      show Floored t.generation g.disk.denyHighwater
      rw [← ho.highwater]
      exact h.floored
    · rw [hmem]
      rfl

/-- **A wedged activation stays wedged**, whatever is accepted. -/
theorem Wedged.run {t : BundleReference} (ho : g.Orderly cfg) (h : g.Wedged t)
    (hrun : AcceptedRun cfg g g') : g'.Wedged t ∧ g'.mem.active = g.mem.active := by
  induction hrun with
  | refl => exact ⟨h, rfl⟩
  | @step g₁ c env ack hrun accepted ih =>
    rcases (ho.run hrun).execute_cases accepted with hsame | ⟨recorded, ack', hr, -, hafter⟩
    · rw [hsame]
      exact ih
    · obtain ⟨hwedged, hactive⟩ := hr.wedged (ho.run hrun) ih.1
      rw [hafter]
      exact ⟨⟨hwedged.staged, hwedged.floored⟩, hactive.trans ih.2⟩

/-! ## An exit -/

/-- The channel has two more sequence numbers. -/
structure Room (g : Gateway) (epoch : Nat) : Prop where
  safe : SafePositive epoch
  sequence : (g.disk.chainHead epoch).1 + 1 ≤ maxSafeInteger

/-- A bundle that passes the checks of the Gateway, with a generation above the active one and the
deny floor, and whose hash no other stored bundle has. -/
structure Offers (cfg : Config) (g : Gateway) (raw : Bytes) (target : BundleReference) : Prop where
  valid : ∃ bundle, validateBundle cfg (cooperativeEnv 0) raw target = .ok bundle
  unshared : ∀ stored ∈ g.disk.files.get? target.bundleHash, stored = raw
  rising : ∀ a ∈ g.mem.active, a.generation < target.generation
  above : ∀ floor ∈ g.mem.denyFloorGeneration, floor < target.generation

/-- In `g'` a bundle is active that is above the one in `g` and above the deny floor. -/
def Advanced (g g' : Gateway) : Prop :=
  ∃ t ∈ g'.mem.active, (∀ a ∈ g.mem.active, a.generation < t.generation) ∧
    ∀ floor ∈ g'.mem.denyFloorGeneration, floor < t.generation

theorem one_le_chainHead (d : Durable) (epoch : Nat) : 1 ≤ (d.chainHead epoch).1 := by
  unfold Durable.chainHead
  split
  · exact le_refl 1
  · exact Nat.le_add_left 1 _

/-- A ledger has few rows: some id is free. -/
theorem exists_freshId {rows : List CommandRow} (h : rows.length ≤ 1_000_000) :
    ∃ id : CommandId, ∀ row ∈ rows, row.commandId ≠ id := by
  by_contra hnone
  push Not at hnone
  have hsubset : (List.range (rows.length + 1)).map (TypedId.numbered .command) ⊆
      rows.map CommandRow.commandId := by
    intro id _
    obtain ⟨row, hrow, rfl⟩ := hnone id
    exact List.mem_map_of_mem hrow
  have hnodup : ((List.range (rows.length + 1)).map (TypedId.numbered .command)).Nodup := by
    refine List.Nodup.map_on (fun n hn m hm heq => ?_) List.nodup_range
    have hn' := List.mem_range.mp hn
    have hm' := List.mem_range.mp hm
    exact TypedId.numbered_injective (by omega) (by omega) heq
  have hle := (List.subperm_of_subset hnodup hsubset).length_le
  rw [List.length_map, List.length_map, List.length_range] at hle
  omega

/-- The next command of a channel epoch. -/
def nextCommand (cfg : Config) (g : Gateway) (epoch : Nat) (id : CommandId) (body : CommandBody)
    (policy : Option ActivationEnvelope) (safeEpoch : SafePositive epoch)
    (safeSequence : SafePositive (g.disk.chainHead epoch).1)
    (presence : body.kind ≠ .status ↔ policy.isSome = true) : VerifiedGatewayCommand where
  commandId := id
  commandDigest := zeroDigest
  channelEpoch := epoch
  securityEpoch := cfg.securityEpoch
  dispatcherFence := g.mem.fenceEpoch
  bootId := g.mem.bootId
  sequence := (g.disk.chainHead epoch).1
  previousDigest := (g.disk.chainHead epoch).2
  body := body
  policy := policy
  safeEpoch := safeEpoch
  safeSequence := safeSequence
  policyPresence := presence

theorem Orderly.admissible (h : g.Orderly cfg) {epoch : Nat} {id : CommandId} {body : CommandBody}
    {policy : Option ActivationEnvelope} {safeEpoch : SafePositive epoch}
    {safeSequence : SafePositive (g.disk.chainHead epoch).1}
    {presence : body.kind ≠ .status ↔ policy.isSome = true}
    (hid : ∀ row ∈ g.disk.commands, row.commandId ≠ id) :
    g.Admissible cfg (nextCommand cfg g epoch id body policy safeEpoch safeSequence presence) where
  ledger := h.ledger
  unseen := hid
  continues := rfl
  binding := by
    simp [assertUnseenBinding, assertCurrentFence, nextCommand, require]

/-- **A staged bundle above the deny floor commits.** -/
theorem Orderly.commits (h : g.Orderly cfg) {t : BundleReference} (hstaged : g.mem.staged = some t)
    (hfloor : ∀ floor ∈ g.mem.denyFloorGeneration, floor < t.generation) {epoch : Nat}
    (hepoch : SafePositive epoch) (hroom : (g.disk.chainHead epoch).1 ≤ maxSafeInteger) :
    ∃ g', AcceptedRun cfg g g' ∧ g'.mem.active = some t ∧
      g'.mem.denyHighwater = g.mem.denyHighwater := by
  obtain ⟨id, hid⟩ := exists_freshId (h.ledger.length_le.trans cfg.limits.commandRecords_bounds.2)
  obtain ⟨bundle, hload⟩ := h.loadable t hstaged
  have hbase : g.mem.base = g.mem.active := h.base (by rw [hstaged]; simp)
  have hadmissible : g.Admissible cfg (nextCommand cfg g epoch id (.commit t)
      (some ⟨g.mem.base, t⟩) hepoch ⟨one_le_chainHead _ _, hroom⟩ (by simp [CommandBody.kind])) :=
    h.admissible hid
  have haccepted : Accepted cfg g _ (cooperativeEnv 0) _ _ := commit_accepted hadmissible
    rfl rfl (Memory.validateCommitReference_eq_ok_iff.mpr ⟨hstaged, hfloor, hbase⟩) hload rfl rfl
    h.recovery
  refine ⟨_, haccepted.run, ?_, ?_⟩
  · rw [haccepted.mem_eq]
  · rw [haccepted.mem_eq]

/-- **With no bundle staged, an offered one is prepared and commits.** -/
theorem Orderly.activates (h : g.Orderly cfg) (hnone : g.mem.staged = none) {raw : Bytes}
    {target : BundleReference} (hoffer : Offers cfg g raw target) {epoch : Nat}
    (hroom : g.Room epoch) :
    ∃ g', AcceptedRun cfg g g' ∧ g'.mem.active = some target ∧
      g'.mem.denyHighwater = g.mem.denyHighwater := by
  obtain ⟨id, hid⟩ := exists_freshId (h.ledger.length_le.trans cfg.limits.commandRecords_bounds.2)
  obtain ⟨bundle, hvalid⟩ := hoffer.valid
  have hsafe : SafePositive (g.disk.chainHead epoch).1 := by
    have := hroom.sequence
    exact ⟨one_le_chainHead _ _, by omega⟩
  have hstore : ∃ stored, g.disk.storeBundle cfg raw target.bundleHash = .ok stored := by
    have hchecks := hvalid
    simp only [validateBundle, bind_eq_ok_iff, require_eq_ok_iff, exists_unit_and_iff] at hchecks
    obtain ⟨hlength, hhash, -⟩ := hchecks
    unfold Durable.storeBundle
    simp only [require, hlength, hhash, if_true, ok_bind]
    cases hget : g.disk.files.get? target.bundleHash with
    | none => exact ⟨_, rfl⟩
    | some stored =>
      obtain rfl := hoffer.unshared stored hget
      exact ⟨g.disk, by simp [hlength]⟩
  obtain ⟨stored, hstored⟩ := hstore
  have hadmissible : g.Admissible cfg (nextCommand cfg g epoch id
      (.prepare g.mem.active target (some raw)) (some ⟨g.mem.active, target⟩) hroom.safe hsafe
      (by simp [CommandBody.kind])) :=
    h.admissible hid
  have haccepted : Accepted cfg g _ (cooperativeEnv 0) _ _ := prepare_accepted hadmissible
    rfl rfl hvalid (Memory.validatePrepareReference_eq_ok_iff.mpr
      ⟨rfl, hnone, hoffer.above, hoffer.rising⟩) hstored rfl rfl
  have hmem := haccepted.mem_eq
  have hdisk := haccepted.disk_eq
  have hrun := haccepted.run
  generalize (g.execute cfg _ (cooperativeEnv 0)).after = prepared at hmem hdisk hrun
  have horderly : prepared.Orderly cfg := h.run hrun
  have hhead : (prepared.disk.chainHead epoch).1 = (g.disk.chainHead epoch).1 + 1 := by
    rw [hdisk]
    unfold Durable.chainHead
    dsimp only [nextCommand]
    rw [Dict.get?_insert_self]
    rfl
  have hfloor : ∀ floor ∈ prepared.mem.denyFloorGeneration, floor < target.generation := by
    rw [hmem]
    exact hoffer.above
  obtain ⟨g', hcommit, hactive, hhighwater⟩ := horderly.commits (by rw [hmem]) hfloor hroom.safe
    (by rw [hhead]; exact hroom.sequence)
  refine ⟨g', hrun.trans hcommit, hactive, hhighwater.trans ?_⟩
  rw [hmem]

/-- **Whether an activation has an exit.** From a state that accepted commands reached, accepted
commands make a higher bundle active exactly if no staged bundle is at or below the deny floor. -/
theorem activation_exits_iff {boot : GatewayBootId}
    (hreached : AcceptedRun cfg (Gateway.openState cfg .empty boot).2 g) {epoch : Nat}
    (hroom : g.Room epoch)
    (hoffer : g.mem.staged = none → ∃ raw target, Offers cfg g raw target) :
    (∃ g', AcceptedRun cfg g g' ∧ Advanced g g') ↔
      ∀ t ∈ g.mem.staged, ∀ floor ∈ g.mem.denyFloorGeneration, floor < t.generation := by
  have horderly := (orderly_open cfg boot).run hreached
  constructor
  · rintro ⟨g', hrun, t', hactive', habove, -⟩ t hstaged
    by_contra hnot
    push Not at hnot
    obtain ⟨hwedged, hactive⟩ := Wedged.run horderly ⟨hstaged, floored_iff.mpr hnot⟩ hrun
    rw [hactive] at hactive'
    exact absurd (habove t' hactive') (lt_irrefl _)
  · intro hfloor
    have hsame : ∀ {g' : Gateway}, g'.mem.denyHighwater = g.mem.denyHighwater →
        g'.mem.denyFloorGeneration = g.mem.denyFloorGeneration := fun heq => by
      unfold Memory.denyFloorGeneration
      rw [heq]
    cases hstaged : g.mem.staged with
    | none =>
      obtain ⟨raw, target, hoffer⟩ := hoffer hstaged
      obtain ⟨g', hrun, hactive, hhighwater⟩ := horderly.activates hstaged hoffer hroom
      exact ⟨g', hrun, target, hactive, hoffer.rising, hsame hhighwater ▸ hoffer.above⟩
    | some t =>
      have hseq : (g.disk.chainHead epoch).1 ≤ maxSafeInteger := by
        have := hroom.sequence
        omega
      obtain ⟨g', hrun, hactive, hhighwater⟩ :=
        horderly.commits hstaged (hfloor t hstaged) hroom.safe hseq
      exact ⟨g', hrun, t, hactive, horderly.rising t hstaged,
        hsame hhighwater ▸ hfloor t hstaged⟩

/-! ## A floor at the staged generation -/

section Wedge

def wedgedBoot : GatewayBootId := .numbered .gatewayBoot 1

theorem safePositive_two : SafePositive 2 := by decide

theorem safePositive_four : SafePositive 4 := by decide

/-- A DENY of one account that raises the floor to generation 2. -/
def floorDeny : DenyCommandPayload where
  subject := .account sampleAccountId
  denyEpoch := 1
  reason := .emergency
  denyFloorGeneration := some 2
  safeEpoch := safePositive_one
  safeFloor := fun _ hf => Option.some.inj hf ▸ safePositive_two

/-- PREPARE of generation 2 on a gateway with generation 1. -/
def prepareSecond (g : Gateway) : Gateway :=
  (g.execute numberedConfig
    (numberedPrepare wedgedBoot 2 safePositive_three (some (numberedReference 1 safePositive_one)) 2
      safePositive_two) (cooperativeEnv 1)).after

/-- The DENY that raises the floor. -/
def raiseFloor (g : Gateway) : Gateway :=
  (g.execute numberedConfig (numberedDeny wedgedBoot 3 safePositive_four 1 safePositive_one floorDeny)
    (cooperativeEnv 1)).after

/-- Generation 1 is active, generation 2 is staged, and the floor has passed it. -/
def wedgedGateway : Gateway :=
  raiseFloor (prepareSecond (firstActivated wedgedBoot 1 safePositive_one))

theorem firstActivated_run (boot : GatewayBootId) {m : Nat} (hm : SafePositive m) :
    AcceptedRun numberedConfig (freshGateway boot) (firstActivated boot m hm) :=
  (firstPrepared_accepted boot hm).run.trans (firstActivated_accepted boot hm).run

/-- The file of another generation is not there. -/
theorem firstActivated_file (boot : GatewayBootId) {m n : Nat} (hm : SafePositive m)
    (hne : TypedId.numbered .bundleHash n ≠ TypedId.numbered .bundleHash m) :
    (firstActivated boot m hm).disk.files.get? (.numbered .bundleHash n) = none := by
  obtain ⟨-, -, commands, channels, hdisk⟩ := first_activation boot hm
  rw [hdisk]
  show (Dict.empty.insert _ _).get? _ = none
  rw [Dict.get?_insert_of_ne _ _ hne]
  rfl

theorem numbered_two_ne_one : TypedId.numbered .bundleHash 2 ≠ TypedId.numbered .bundleHash 1 :=
  fun heq => absurd (TypedId.numbered_injective (by decide) (by decide) heq) (by decide)

theorem wedge_of_activated (hnumbered : Numbered wedgedBoot 2 g)
    (hmem : g.mem = activatedMemory wedgedBoot 1 safePositive_one) {commands : List CommandRow}
    {channels : Dict Nat ChannelHead}
    (hdisk : g.disk = activatedDisk 1 safePositive_one commands channels)
    (habsent : g.disk.files.get? (.numbered .bundleHash 2) = none) :
    AcceptedRun numberedConfig g (raiseFloor (prepareSecond g)) ∧
      (raiseFloor (prepareSecond g)).Wedged (numberedReference 2 safePositive_two) ∧
      (raiseFloor (prepareSecond g)).mem.lifecycle = .staged := by
  have hcheck : g.mem.validatePrepareReference (some (numberedReference 1 safePositive_one))
      (numberedReference 2 safePositive_two) = .ok () := by
    rw [hmem]
    rfl
  have hprepare : Accepted numberedConfig g (numberedPrepare wedgedBoot 2 safePositive_three
      (some (numberedReference 1 safePositive_one)) 2 safePositive_two) (cooperativeEnv 1) _ _ :=
    hnumbered.prepare (by decide) hcheck habsent 1
  have hnumbered' : Numbered wedgedBoot 3 (prepareSecond g) := hnumbered.accepted hprepare rfl rfl
  have hmem' : (prepareSecond g).mem = _ := hprepare.mem_eq
  have hdisk' : (prepareSecond g).disk = _ := hprepare.disk_eq
  have hrun : AcceptedRun numberedConfig g (prepareSecond g) := hprepare.run
  rw [hmem] at hmem'
  rw [hdisk] at hdisk'
  have hhighwater : checkHighwater (prepareSecond g).reading.mem floorDeny = .ok () := by
    have hnone : (prepareSecond g).reading.mem.denyHighwater.get? floorDeny.subject = none := by
      show (prepareSecond g).disk.denyHighwater.get? _ = none
      rw [hdisk']
      rfl
    simp only [checkHighwater, hnone]
  have hactive : (prepareSecond g).mem.active = some (numberedReference 1 safePositive_one) := by
    rw [hmem']
    rfl
  have hdeny : Accepted numberedConfig (prepareSecond g)
      (numberedDeny wedgedBoot 3 safePositive_four 1 safePositive_one floorDeny) (cooperativeEnv 1)
      _ _ :=
    hnumbered'.deny (by decide) hactive (by rw [hdisk']; exact ⟨rfl, rfl⟩) hhighwater 1
  have hafter : (raiseFloor (prepareSecond g)).mem = _ := hdeny.mem_eq
  refine ⟨hrun.trans hdeny.run, ⟨?_, ?_⟩, ?_⟩
  · rw [hafter, hmem']
  · rw [hafter]
    exact ⟨floorDeny.subject, 1, 2, Dict.get?_insert_self _ _ _, le_refl 2⟩
  · rw [hafter, hmem']
    rfl

theorem wedgedGateway_run : AcceptedRun numberedConfig (freshGateway wedgedBoot) wedgedGateway ∧
    wedgedGateway.Wedged (numberedReference 2 safePositive_two) ∧
    wedgedGateway.mem.lifecycle = .staged := by
  obtain ⟨hnumbered, hmem, commands, channels, hdisk⟩ :=
    first_activation wedgedBoot safePositive_one
  obtain ⟨hrun, hwedged⟩ := wedge_of_activated hnumbered hmem hdisk
    (firstActivated_file wedgedBoot safePositive_one numbered_two_ne_one)
  exact ⟨(firstActivated_run wedgedBoot safePositive_one).trans hrun, hwedged⟩

/-- **No command makes generation 2 or any other active again.** -/
theorem wedgedGateway_without_exit : AcceptedRun numberedConfig
    (Gateway.openState numberedConfig .empty wedgedBoot).2 wedgedGateway ∧
      wedgedGateway.mem.lifecycle = .staged ∧
      ∀ g', AcceptedRun numberedConfig wedgedGateway g' → ¬Advanced wedgedGateway g' := by
  obtain ⟨hrun, hwedged, hlifecycle⟩ := wedgedGateway_run
  refine ⟨hrun, hlifecycle, ?_⟩
  rintro g' hrun' ⟨t, ht, habove, -⟩
  have hactive := (Wedged.run ((orderly_open _ _).run hrun) hwedged hrun').2
  rw [hactive] at ht
  exact absurd (habove t ht) (lt_irrefl _)

/-- With generation 1 active and nothing staged, there is an exit. -/
theorem firstActivated_exits : ∃ g',
    AcceptedRun numberedConfig (firstActivated wedgedBoot 1 safePositive_one) g' ∧
      Advanced (firstActivated wedgedBoot 1 safePositive_one) g' := by
  obtain ⟨hnumbered, hmem, -⟩ := first_activation wedgedBoot safePositive_one
  have hnone : (firstActivated wedgedBoot 1 safePositive_one).mem.staged = none := by
    rw [hmem]
    rfl
  refine (@activation_exits_iff _ _ _ (firstActivated_run wedgedBoot safePositive_one) 1 ⟨safePositive_one, ?_⟩ fun _ =>
    ⟨rotatingBytes 2, numberedReference 2 safePositive_two, ?_, ?_, ?_, ?_⟩).mpr ?_
  · rw [hnumbered.head]
    decide
  · exact ⟨_, validateBundle_rotating safePositive_two 0⟩
  · intro stored hstored
    rw [show (numberedReference 2 safePositive_two).bundleHash = .numbered .bundleHash 2 from rfl,
      firstActivated_file wedgedBoot safePositive_one numbered_two_ne_one] at hstored
    cases hstored
  · rw [hmem]
    intro a ha
    obtain rfl := Option.some.inj ha
    decide
  · rw [hmem]
    exact fun floor hfloor => (by cases hfloor)
  · rw [hnone]
    exact fun t ht => (by cases ht)

end Wedge

end Gateway

end LlmMaxxing
