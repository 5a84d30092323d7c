import LlmMaxxing.Gateway.Acceptance

/-!
# The durable active generation across runs

PREPARE compares its target with the active reference in memory. After a restart that could not
read the active bundle that reference is gone, while the durable pointer is not. As long as no
PREPARE is taken in such a state for a generation that is not above the durable one, the durable
generation only rises: `active_never_rolls_back`.
-/

namespace LlmMaxxing

open Json Check

variable {cfg : Config}

/-! ## Rising pointers -/

/-- The pointer moves to a higher generation or stays. -/
def Advances (before after : Option BundleReference) : Prop :=
  ∀ a ∈ before, ∃ b ∈ after, a.generation < b.generation ∨ a = b

theorem Advances.refl (p : Option BundleReference) : Advances p p := fun a ha => ⟨a, ha, .inr rfl⟩

theorem Advances.trans {p q r : Option BundleReference} (hpq : Advances p q) (hqr : Advances q r) :
    Advances p r := by
  intro a ha
  obtain ⟨b, hb, hab⟩ := hpq a ha
  obtain ⟨c, hc, hbc⟩ := hqr b hb
  refine ⟨c, hc, ?_⟩
  rcases hab with hlt | rfl
  · rcases hbc with hlt' | rfl
    · exact .inl (hlt.trans hlt')
    · exact .inl hlt
  · exact hbc

/-- A generation is never reused for another hash. -/
theorem Advances.bundleHash_eq {p q : Option BundleReference} (h : Advances p q)
    {a b : BundleReference} (ha : a ∈ p) (hb : b ∈ q) (hgen : b.generation ≤ a.generation) :
    a = b := by
  obtain ⟨b', hb', hab⟩ := h a ha
  rw [Option.mem_unique hb hb'] at hgen ⊢
  exact hab.resolve_left (by omega)

/-- What is staged is above what is active. -/
def Rises (active staged : Option BundleReference) : Prop :=
  ∀ a ∈ active, ∀ t ∈ staged, a.generation < t.generation

theorem Rises.of_none (active : Option BundleReference) : Rises active none := by
  intro a _ t ht
  cases ht

theorem Rises.advances {active : Option BundleReference} {target : BundleReference}
    (h : Rises active (some target)) : Advances active (some target) :=
  fun a ha => ⟨target, rfl, .inl (h a ha target rfl)⟩

/-- What is staged on disk is above what is active on disk. -/
def Durable.Rising (d : Durable) : Prop := Rises d.active d.staged

/-- The same, also for what the process holds as staged. -/
structure Gateway.Rising (g : Gateway) : Prop where
  disk : g.disk.Rising
  mem : Rises g.disk.active g.mem.staged

/-- A new PREPARE is taken with the durable active reference in memory, or for a generation above
the durable one. -/
def Gateway.PreparesAbove (g : Gateway) (c : VerifiedGatewayCommand) : Prop :=
  ∀ base target bundle, c.body = .prepare base target bundle →
    g.disk.validateNewCommand c = .ok none →
      g.mem.active = g.disk.active ∨ ∀ a ∈ g.disk.active, a.generation < target.generation

/-! ## One command -/

namespace Gateway

variable {g g' : Gateway} {c : VerifiedGatewayCommand} {env : Env}

theorem Records.validateNewCommand (hr : Records cfg g c env g') :
    g.disk.validateNewCommand c = .ok none := by
  obtain ⟨d, row, hrec, hcommands, hchannels⟩ := hr.recorded
  refine Durable.validateNewCommand_eq_none_iff.mpr ⟨fun r hr => ?_, ?_⟩
  · exact hrec.unseen r (hcommands ▸ hr)
  · have hcont := hrec.continues
    rwa [Durable.Continues, Durable.chainHead, hchannels] at hcont

/-- What a recorded command does to the pointers, on disk and in memory. -/
inductive Pointed (g : Gateway) (c : VerifiedGatewayCommand) (g' : Gateway) : Prop
  | staged {base : Option BaseReference} {target : BundleReference} {raw : Option Bytes}
      (body : c.body = .prepare base target raw)
      (checked : g.mem.validatePrepareReference base target = .ok ())
      (disk : g'.disk.active = g.disk.active ∧ g'.disk.staged = some target)
      (mem : g'.mem = { g.mem with staged := some target, base := base })
  | committed {target : BundleReference} (body : c.body = .commit target)
      (checked : g.mem.validateCommitReference target = .ok ())
      (disk : g'.disk.active = some target ∧ g'.disk.staged = none)
      (mem : g'.mem.active = some target ∧ g'.mem.staged = none)
  | kept (disk : g'.disk.active = g.disk.active ∧ g'.disk.staged = g.disk.staged)
      (mem : g'.mem.active = g.mem.active ∧ g'.mem.staged = g.mem.staged)

theorem Records.pointed (hr : Records cfg g c env g') : Pointed g c g' := by
  cases hr with
  | prepare body _ store stage =>
    obtain ⟨hcheck, hrec, hmem⟩ := stagePrepare_eq_ok stage
    have htables := (Durable.storeBundle_sameTables store).tables
    refine .staged body hcheck ⟨?_, by rw [hrec.tables]⟩ hmem
    rw [hrec.tables, htables]
  | commit body checked _ committed =>
    obtain ⟨hrec, hmem⟩ := commitStaged_eq_ok committed
    exact .committed body checked ⟨by rw [hrec.tables], by rw [hrec.tables]⟩
      ⟨by rw [hmem], by rw [hmem]⟩
  | deny _ _ issued =>
    obtain ⟨-, hrec, hmem⟩ := issueDeny_eq_ok issued
    exact .kept ⟨by rw [hrec.tables]; rfl, by rw [hrec.tables]; rfl⟩
      ⟨by rw [hmem]; rfl, by rw [hmem]; rfl⟩
  | clear _ _ cleared =>
    obtain ⟨hrec, hmem⟩ := clearDeny_eq_ok cleared
    exact .kept ⟨by rw [hrec.tables]; rfl, by rw [hrec.tables]; rfl⟩
      ⟨by rw [hmem]; rfl, by rw [hmem]; rfl⟩
  | status _ recorded =>
    obtain ⟨⟨leases, result, hrec⟩, hmem⟩ := recordStatus_eq_ok recorded
    exact .kept ⟨by rw [hrec.tables]; rfl, by rw [hrec.tables]; rfl⟩
      ⟨by rw [hmem]; rfl, by rw [hmem]; rfl⟩

theorem Records.rising (h : g.Rising) (hguard : g.PreparesAbove c) (hr : Records cfg g c env g') :
    g'.Rising ∧ Advances g.disk.active g'.disk.active := by
  cases hr.pointed with
  | staged body checked disk mem =>
    obtain ⟨hactive, -, -, habove⟩ := Memory.validatePrepareReference_eq_ok_iff.mp checked
    have hrises : Rises g.disk.active (some _) := fun a ha t ht => by
      obtain rfl := Option.some.inj ht
      rcases hguard _ _ _ body hr.validateNewCommand with hsame | hlt
      · exact habove a (by rw [← hactive, hsame]; exact ha)
      · exact hlt a ha
    refine ⟨⟨?_, ?_⟩, by rw [disk.1]; exact .refl _⟩
    · rw [Durable.Rising, disk.1, disk.2]
      exact hrises
    · rw [disk.1, mem]
      exact hrises
  | committed body checked disk mem =>
    have hstaged := (Memory.validateCommitReference_eq_ok_iff.mp checked).1
    refine ⟨⟨?_, ?_⟩, ?_⟩
    · rw [Durable.Rising, disk.2]
      exact .of_none _
    · rw [mem.2]
      exact .of_none _
    · rw [disk.1]
      exact Rises.advances (hstaged ▸ h.mem)
  | kept disk mem =>
    refine ⟨⟨?_, ?_⟩, by rw [disk.1]; exact .refl _⟩
    · rw [Durable.Rising, disk.1, disk.2]
      exact h.disk
    · rw [disk.1, mem.2]
      exact h.mem

/-- The process and every durable state a command passes through keep rising. -/
theorem Rising.execute (cfg : Config) (h : g.Rising) (hguard : g.PreparesAbove c) (env : Env) :
    (g.execute cfg c env).after.Rising ∧
      Advances g.disk.active (g.execute cfg c env).after.disk.active ∧
      ∀ d ∈ (g.execute cfg c env).passed, d.Rising ∧ Advances g.disk.active d.active := by
  have hsame : ∀ d, Durable.SameTables cfg g.disk d → d.Rising ∧ Advances g.disk.active d.active := by
    intro d hd
    rw [Durable.Rising, hd.tables]
    exact ⟨h.disk, .refl _⟩
  rcases execute_cases cfg g c env with ⟨row, -, hack⟩ | hun | ⟨g', hr, hset⟩
  · generalize g.execute cfg c env = e at hack
    cases hack with
    | stored => exact ⟨h, .refl _, by simp⟩
    | withheld => exact ⟨h, .refl _, by simp⟩
    | pushed => exact ⟨⟨h.disk, h.mem⟩, .refl _, by simpa using ⟨h.disk, .refl _⟩⟩
  · obtain ⟨hrising, hadv⟩ := hsame _ hun.disk
    refine ⟨⟨hrising, ?_⟩, hadv, fun d hd => hsame d (hun.passed d hd)⟩
    rw [hun.disk.tables, hun.mem.same]
    exact h.mem
  · obtain ⟨hrising, hadv⟩ := hr.rising h hguard
    have hafter : (g.execute cfg c env).after.Rising ∧
        (g.execute cfg c env).after.disk.active = g'.disk.active := by
      rcases hset.ended.after_cases with heq | heq | ⟨ack, heq⟩
      · rw [heq]
        exact ⟨hrising, rfl⟩
      · rw [heq]
        exact ⟨⟨hrising.disk, hrising.mem⟩, rfl⟩
      · rw [heq]
        exact ⟨⟨hrising.disk, hrising.mem⟩, rfl⟩
    refine ⟨hafter.1, hafter.2 ▸ hadv, fun d hd => ?_⟩
    rcases hset.passed d hd with hd | rfl | rfl
    · exact hsame d hd
    · exact ⟨hrising.disk, hadv⟩
    · exact ⟨hafter.1.disk, hafter.2 ▸ hadv⟩

end Gateway

/-! ## Restarts -/

theorem Durable.checkStaged_pointers (cfg : Config) (d : Durable) : (d.checkStaged cfg).active = d.active ∧
    ((d.checkStaged cfg).staged = d.staged ∨ (d.checkStaged cfg).staged = none) := by
  unfold checkStaged
  split
  · exact ⟨rfl, .inl rfl⟩
  · split
    · exact ⟨rfl, .inl rfl⟩
    · exact ⟨rfl, .inr rfl⟩

theorem Durable.Rising.checkStaged {d : Durable} (cfg : Config) (h : d.Rising) : (d.checkStaged cfg).Rising := by
  obtain ⟨hactive, hstaged | hstaged⟩ := Durable.checkStaged_pointers cfg d
  · rw [Durable.Rising, hactive, hstaged]
    exact h
  · rw [Durable.Rising, hstaged]
    exact .of_none _

/-- A restart, and a crash during it, leave the durable active pointer alone. -/
theorem Durable.Rising.openState {d : Durable} (cfg : Config) (h : d.Rising) (bootId : GatewayBootId) :
    ((Gateway.openState cfg d bootId).2.Rising ∧
      (Gateway.openState cfg d bootId).2.disk.active = d.active) ∧
      ∀ d' ∈ (Gateway.openState cfg d bootId).1, d'.Rising ∧ d'.active = d.active := by
  have hactive := (Durable.checkStaged_pointers cfg d).1
  have hcheck := h.checkStaged cfg
  have hopened := Gateway.openState_cases cfg d bootId
  generalize Gateway.openState cfg d bootId = r at hopened
  cases hopened with
  | unsound => exact ⟨⟨⟨h, .of_none _⟩, rfl⟩, by simp⟩
  | unloadable => exact ⟨⟨⟨h, h⟩, rfl⟩, by simp⟩
  | deniesUnreadable =>
    exact ⟨⟨⟨hcheck, hcheck⟩, hactive⟩, by simpa using ⟨hcheck, hactive⟩⟩
  | highwaterUnreadable =>
    refine ⟨⟨⟨hcheck, hcheck⟩, hactive⟩, fun d' hd' => ?_⟩
    simp only [List.mem_cons, List.not_mem_nil, or_false] at hd'
    rcases hd' with rfl | rfl
    · exact ⟨hcheck, hactive⟩
    · exact ⟨hcheck, hactive⟩
  | opened =>
    refine ⟨⟨⟨hcheck, hcheck⟩, hactive⟩, fun d' hd' => ?_⟩
    simp only [List.mem_cons, List.not_mem_nil, or_false] at hd'
    rcases hd' with rfl | rfl | rfl
    · exact ⟨hcheck, hactive⟩
    · exact ⟨hcheck, hactive⟩
    · exact ⟨hcheck, hactive⟩

/-! ## Runs -/

namespace Host

/-- What is staged rises over what is active. -/
def Rising (h : Host) : Prop := h.Satisfies Gateway.Rising Durable.Rising

/-- The condition on one event: a delivered PREPARE prepares above the durable generation. -/
def PreparesAbove : Host → Event → Prop
  | up g, .deliver c _ => g.PreparesAbove c
  | up g, .crashDuring c _ _ => g.PreparesAbove c
  | _, _ => True

/-- Every event of a run meets the condition in the state it happens in. -/
def RunPreparesAbove (cfg : Config) : Host → List Event → Prop
  | _, [] => True
  | h, e :: es => h.PreparesAbove e ∧ RunPreparesAbove cfg (h.step cfg e) es

/-- Memory may change as it likes as long as what it holds as staged stays. -/
theorem rising_of_same {g g' : Gateway} (h : g.Rising) (hactive : g'.disk.active = g.disk.active)
    (hdisk : g'.disk.staged = g.disk.staged) (hmem : g'.mem.staged = g.mem.staged) :
    (up g').Rising ∧ Advances g.disk.active g'.disk.active := by
  refine ⟨⟨?_, ?_⟩, by rw [hactive]; exact .refl _⟩
  · rw [Durable.Rising, hactive, hdisk]
    exact h.disk
  · rw [hactive, hmem]
    exact h.mem

theorem damaged_pointers (d : Durable) (dm : Damage) :
    (d.damaged dm).active = d.active ∧ (d.damaged dm).staged = d.staged := by
  cases dm with
  | file hash content => cases content <;> exact ⟨rfl, rfl⟩
  | tables => exact ⟨rfl, rfl⟩

theorem renew_pointers (g : Gateway) (now : Nat) :
    (g.renewDenyHeartbeats now).disk.active = g.disk.active ∧
      (g.renewDenyHeartbeats now).disk.staged = g.disk.staged ∧
      (g.renewDenyHeartbeats now).mem.staged = g.mem.staged := by
  unfold Gateway.renewDenyHeartbeats
  split
  · exact ⟨rfl, rfl, rfl⟩
  · split
    · next read hread =>
      obtain rfl := Gateway.loadDenyTables_eq_ok hread
      exact ⟨rfl, rfl, rfl⟩
    · next read e hread =>
      obtain ⟨hdisk, hmem⟩ := Gateway.loadDenyTables_reread hread
      have hstaged := congrArg Memory.staged hmem.same
      exact ⟨congrArg Durable.active hdisk, congrArg Durable.staged hdisk, hstaged⟩

/-- **One event.** -/
theorem Rising.step (cfg : Config) {h : Host} (hr : h.Rising) {e : Event} (hguard : h.PreparesAbove e) :
    (h.step cfg e).Rising ∧ Advances h.disk.active (h.step cfg e).disk.active := by
  cases h with
  | up g =>
    have hg : g.Rising := hr
    cases e with
    | deliver c env =>
      obtain ⟨hafter, hadv, -⟩ := hg.execute cfg hguard env
      exact ⟨hafter, hadv⟩
    | crashDuring c env point =>
      obtain ⟨-, -, hpassed⟩ := hg.execute cfg hguard env
      show (down (crashed _ _ _)).Rising ∧ Advances _ (crashed _ _ _).active
      rcases List.mem_cons.mp (crashed_mem g.disk (g.execute cfg c env).passed point) with h | h
      · rw [h]
        exact ⟨hg.disk, .refl _⟩
      · exact hpassed _ h
    | crash => exact ⟨hg.disk, .refl _⟩
    | renew now =>
      obtain ⟨h₁, h₂, h₃⟩ := renew_pointers g now
      exact rising_of_same hg h₁ h₂ h₃
    | confirmLive ref =>
      simp only [Host.step, Gateway.confirmLiveBundle]
      split
      · exact rising_of_same hg rfl rfl rfl
      · exact ⟨hg, .refl _⟩
    | fenceOld epoch =>
      simp only [Host.step, Gateway.recordOldFence]
      split
      · exact rising_of_same hg rfl rfl rfl
      · exact ⟨hg, .refl _⟩
    | receiveTakeover epoch =>
      simp only [Host.step, Gateway.receiveTakeover]
      split
      · exact rising_of_same hg rfl rfl rfl
      · exact ⟨hg, .refl _⟩
    | acceptTakeover epoch =>
      simp only [Host.step, Gateway.acceptTakeover]
      split
      · exact rising_of_same hg rfl rfl rfl
      · exact ⟨hg, .refl _⟩
    | damage dm =>
      obtain ⟨hactive, hstaged⟩ := damaged_pointers g.disk dm
      exact rising_of_same hg hactive hstaged rfl
    | restart => exact ⟨hg, .refl _⟩
    | crashOpening => exact ⟨hg, .refl _⟩
  | down d =>
    have hd : d.Rising := hr
    cases e with
    | restart bootId =>
      obtain ⟨⟨hup, hactive⟩, -⟩ := hd.openState cfg bootId
      refine ⟨hup, ?_⟩
      show Advances d.active (Gateway.openState cfg d bootId).2.disk.active
      rw [hactive]
      exact .refl _
    | crashOpening bootId point =>
      obtain ⟨-, hpassed⟩ := hd.openState cfg bootId
      show (down (crashed _ _ _)).Rising ∧ Advances _ (crashed _ _ _).active
      rcases List.mem_cons.mp (crashed_mem d (Gateway.openState cfg d bootId).1 point) with h | h
      · rw [h]
        exact ⟨hd, .refl _⟩
      · rw [(hpassed _ h).2]
        exact ⟨(hpassed _ h).1, .refl _⟩
    | damage dm =>
      obtain ⟨hactive, hstaged⟩ := damaged_pointers d dm
      show (d.damaged dm).Rising ∧ Advances d.active (d.damaged dm).active
      rw [Durable.Rising, hactive, hstaged]
      exact ⟨hd, .refl _⟩
    | _ => exact ⟨hd, .refl _⟩

theorem Rising.run {h : Host} (hr : h.Rising) {es : List Event}
    (hguard : h.RunPreparesAbove cfg es) :
    (h.run cfg es).Rising ∧ Advances h.disk.active (h.run cfg es).disk.active := by
  induction es generalizing h with
  | nil => exact ⟨hr, .refl _⟩
  | cons e es ih =>
    obtain ⟨hstep, hadv⟩ := hr.step cfg hguard.1
    obtain ⟨hrun, hadv'⟩ := ih hstep hguard.2
    exact ⟨hrun, hadv.trans hadv'⟩

theorem runPreparesAbove_append {h : Host} {es es' : List Event} :
    h.RunPreparesAbove cfg (es ++ es') ↔
      h.RunPreparesAbove cfg es ∧ (h.run cfg es).RunPreparesAbove cfg es' := by
  induction es generalizing h with
  | nil => simp [RunPreparesAbove, run]
  | cons e es ih =>
    simp only [List.cons_append, RunPreparesAbove, ih, and_assoc]
    rfl

/-- **In every run whose PREPAREs are above the durable generation, the durable active pointer
only advances**: between any two points of the run the generation rises, or the reference is the
same. -/
theorem active_never_rolls_back (cfg : Config) (es es' : List Event)
    (hguard : (down .empty).RunPreparesAbove cfg (es ++ es')) :
    Advances ((down .empty).run cfg es).disk.active ((down .empty).run cfg (es ++ es')).disk.active := by
  obtain ⟨hfirst, hrest⟩ := runPreparesAbove_append.mp hguard
  have hempty : (down .empty).Rising := Rises.of_none _
  have hrun : (down .empty).run cfg (es ++ es') = ((down .empty).run cfg es).run cfg es' :=
    List.foldl_append
  rw [hrun]
  exact ((hempty.run hfirst).1.run hrest).2

end Host

/-! ## A bundle lost and a generation rolled back -/

namespace Gateway

variable {g : Gateway} {c : VerifiedGatewayCommand} {env : Env}

/-- A COMMIT taken while recovery is required is recorded; its acknowledgement is withheld. -/
theorem commit_withheld (h : g.Admissible cfg c) {target : BundleReference}
    {bundle : PolicyBundleV1} (hbody : c.body = .commit target)
    (hpolicy : c.policy = some ⟨g.mem.base, target⟩)
    (hcheck : g.mem.validateCommitReference target = .ok ())
    (hload : g.disk.loadBundle cfg target.bundleHash = .ok bundle)
    (happlies : env.applies bundle = true) (hrecovery : g.mem.recoveryRequired = true) :
    ∃ row, Durable.Recorded cfg
      { g.disk with
        pointerFile := some target, previous := g.mem.active, active := some target
        staged := none, base := none }
      c row (g.execute cfg c env).after.disk := by
  obtain ⟨disk, hdisk⟩ := @Admissible.recordPending _ _ _ h
    { g.disk with
      pointerFile := some target, previous := g.mem.active, active := some target
      staged := none, base := none } rfl rfl env.ackId .applied (.active target)
  have hrec := Durable.recordPending_eq_ok hdisk
  have hnew := Durable.validateNewCommand_eq_none_iff.mpr ⟨h.unseen, h.continues⟩
  refine ⟨Durable.pendingRow c env.ackId .applied (.active target), ?_⟩
  have hack := @acknowledgeRecorded_eq ⟨disk, { g.mem with
    previous := g.mem.active, active := some target, activeBundle := some bundle
    staged := none, base := none }⟩ c env _ hrec.find? rfl
  have hwithheld : Memory.lifecycle { g.mem with
      previous := g.mem.active, active := some target, activeBundle := some bundle
      staged := none, base := none } = .recoveryRequired :=
    Memory.lifecycle_eq_recoveryRequired_iff.mpr hrecovery
  rw [Gateway.execute, hnew]
  simp only [h.binding, hbody, commit, policyMatches, hpolicy, h.fence, hcheck, hload, commitStaged,
    hdisk, happlies, ok_bind, pure_eq_ok, require, if_true, hack, acknowledge, Durable.pendingRow,
    hwithheld, and_self, Effect.raised, Effect.unlessCancelled, Effect.preceded]
  exact hrec

/-- The restart that cannot load what it serves. -/
theorem openState_unloadable {d : Durable} {boot : GatewayBootId} {e : Raised}
    (hsound : d.sound = true) (hload : d.loadCurrent cfg = .error e) :
    openState cfg d boot = ([], recoveryFailed ⟨d, d.readPointers (d.identity boot)⟩) := by
  simp [openState, hsound, hload]

/-- The restart that loads everything. -/
theorem openState_loadable {d : Durable} {boot : GatewayBootId} {bundle : Option PolicyBundleV1}
    (hsound : d.sound = true) (hload : d.loadCurrent cfg = .ok bundle)
    (hdenies : d.deniesReadable = true) (hmarks : d.highwaterReadable = true) :
    (openState cfg d boot).2 = ⟨(d.checkStaged cfg).backfillDenyHighwater.reconcilePointer,
      { pointersRead cfg d boot bundle with
        denies := (d.checkStaged cfg).denies
        denyHighwater := (d.checkStaged cfg).backfillDenyHighwater.denyHighwater }⟩ := by
  simp [openState, hsound, hload, hdenies, hmarks, pointersRead, Durable.readPointers]

/-- A recorded command is acknowledged when it is delivered again. -/
theorem retry_acknowledged {row : CommandRow}
    (hrow : (g.disk.commands.find? fun r => r.commandId = c.commandId) = some row)
    (hdigest : row.digest = c.commandDigest) (hpending : row.ack = none)
    (hrecovery : g.mem.recoveryRequired = false) :
    (g.execute cfg c env).outcome = .ok (buildAck c row env) := by
  rw [execute, Durable.validateNewCommand_eq_some_iff.mpr ⟨hrow, hdigest⟩]
  simp only
  have hcases := @acknowledge_cases g c env row hrow hdigest
  generalize g.acknowledge c row env = e at hcases
  cases hcases with
  | stored ack hack => rw [hpending] at hack; cases hack
  | withheld err _ hw =>
    rw [Withheld, Memory.lifecycle_eq_recoveryRequired_iff, hrecovery] at hw
    cases hw.2
  | pushed => rfl

end Gateway

section LostBundle

def secondBoot : GatewayBootId := .numbered .gatewayBoot 2
def thirdBoot : GatewayBootId := .numbered .gatewayBoot 3

/-- Generation `m` is activated, its file is lost, and the process restarts. -/
def lossOf (m : Nat) (hm : SafePositive m) : List Event :=
  activationOf (.numbered .gatewayBoot 1) m hm ++
    [.damage (.file (.numbered .bundleHash m) none), .crash, .restart secondBoot]

/-- The memory after a restart that could not read the active bundle. -/
def lostMemory : Memory :=
  (Gateway.recoveryFailed ⟨.empty, Durable.empty.identity secondBoot⟩).mem

/-- The durable state after the loss. -/
def lostDisk (m : Nat) (hm : SafePositive m) (commands : List CommandRow)
    (channels : Dict Nat ChannelHead) : Durable :=
  (activatedDisk m hm commands channels).damaged (.file (.numbered .bundleHash m) none)

variable {m : Nat} {hm : SafePositive m} {commands : List CommandRow}
  {channels : Dict Nat ChannelHead}

theorem openState_lostDisk : Gateway.openState numberedConfig (lostDisk m hm commands channels)
    secondBoot = ([], ⟨lostDisk m hm commands channels, lostMemory⟩) := by
  have hfile : (lostDisk m hm commands channels).files.get? (.numbered .bundleHash m) = none :=
    Dict.get?_erase_self _ _
  have hload : (lostDisk m hm commands channels).loadBundle numberedConfig
      (.numbered .bundleHash m) = .error .osError := by
    rw [Durable.loadBundle, hfile]
  have hcurrent : (lostDisk m hm commands channels).loadCurrent numberedConfig =
      .error .osError := by
    show (Except.map some (do
      let bundle ← (lostDisk m hm commands channels).loadBundle numberedConfig
        (.numbered .bundleHash m)
      _)) = _
    rw [hload]
    rfl
  exact Gateway.openState_unloadable rfl hcurrent

theorem lossOf_run (hm : SafePositive m) : ∃ g,
    (Host.down .empty).run numberedConfig (lossOf m hm) = .up g ∧ Numbered secondBoot 2 g ∧
      g.mem = lostMemory ∧ ∃ commands channels, g.disk = lostDisk m hm commands channels := by
  obtain ⟨hnumbered, -, commands, channels, hdisk⟩ := first_activation (.numbered .gatewayBoot 1) hm
  have hrun : (Host.down .empty).run numberedConfig (lossOf m hm) =
      .up ⟨lostDisk m hm commands channels, lostMemory⟩ := by
    have hsteps : ∀ g : Gateway, (Host.up g).run numberedConfig
        [.damage (.file (.numbered .bundleHash m) none), .crash, .restart secondBoot] =
          .up (Gateway.openState numberedConfig
            (g.disk.damaged (.file (.numbered .bundleHash m) none)) secondBoot).2 := fun _ => rfl
    have happend : (Host.down .empty).run numberedConfig (lossOf m hm) =
        ((Host.down .empty).run numberedConfig (activationOf (.numbered .gatewayBoot 1) m hm)).run
          numberedConfig _ := List.foldl_append
    rw [happend, activationOf_run, hsteps, hdisk, ← lostDisk, openState_lostDisk]
  refine ⟨_, hrun, ⟨⟨_, hrun.symm⟩, ?_, ?_, ?_, rfl, rfl⟩, rfl, commands, channels, rfl⟩
  · exact hnumbered.ledger.congr (by rw [hdisk]; rfl) (by rw [hdisk]; rfl)
  · have hhead := hnumbered.head
    rw [hdisk] at hhead
    exact hhead
  · have hids := hnumbered.ids
    rw [hdisk] at hids
    exact hids

theorem preparesAbove_numberedCommit {g : Gateway} {boot : GatewayBootId} {n : Nat}
    {safe : SafePositive (n + 1)} {base : Option BaseReference} :
    g.PreparesAbove (numberedCommit boot n safe base m hm) := by
  intro base target bundle hbody
  cases hbody

/-- After the loss of generation 1, generation 2 may be prepared. -/
theorem higher_generation_after_loss :
    Advances ((Host.down .empty).run numberedConfig (lossOf 1 (by decide))).disk.active
      ((Host.down .empty).run numberedConfig (lossOf 1 (by decide) ++
        [.deliver (numberedPrepare secondBoot 2 (by decide) none 2 (by decide))
          (cooperativeEnv 2)])).disk.active := by
  obtain ⟨g, hrun, -, -, commands, channels, hdisk⟩ := lossOf_run (m := 1) (by decide)
  refine Host.active_never_rolls_back numberedConfig _ _ (Host.runPreparesAbove_append.mpr ⟨?_, ?_⟩)
  · refine ⟨trivial, fun _ _ _ _ _ => .inl rfl, preparesAbove_numberedCommit, trivial, trivial,
      trivial, trivial⟩
  · rw [hrun]
    refine ⟨fun base target bundle hbody _ => .inr fun a ha => ?_, trivial⟩
    cases hbody
    rw [hdisk] at ha
    rw [← Option.some.inj (ha : some (numberedReference 1 _) = some a)]
    decide

/-- PREPARE and COMMIT of generation 1 after the loss of generation 2, and a restart. -/
def afterLoss : List Event :=
  [.deliver (numberedPrepare secondBoot 2 safePositive_three none 1 safePositive_one)
      (cooperativeEnv 2),
    .deliver (numberedCommit secondBoot 3 (by decide) none 1 safePositive_one) (cooperativeEnv 2),
    .crash,
    .restart thirdBoot]

/-- What is on disk when the COMMIT is recorded, up to the ledger. -/
def rolledBackDisk (commands commands' : List CommandRow) (channels channels' : Dict Nat ChannelHead) :
    Durable :=
  { lostDisk 2 (by decide) commands channels with
    files := (lostDisk 2 (by decide) commands channels).files.insert (.numbered .bundleHash 1)
      (rotatingBytes 1)
    pointerFile := some (numberedReference 1 safePositive_one)
    active := some (numberedReference 1 safePositive_one), commands := commands'
    channels := channels' }

theorem afterLoss_recorded {g : Gateway} (hnumbered : Numbered secondBoot 2 g)
    (hmem : g.mem = lostMemory) (hdisk : g.disk = lostDisk 2 (by decide) commands channels) :
    ∃ d commands' channels' row,
      (Host.up g).run numberedConfig afterLoss = .up (Gateway.openState numberedConfig d thirdBoot).2 ∧
      d = rolledBackDisk commands commands' channels channels' ∧
      (d.commands.find? fun r => r.commandId = .numbered .command 4) = some row ∧
      row.digest = numberedDigest 4 ∧ row.ack = none := by
  have hcheck : g.mem.validatePrepareReference none (numberedReference 1 (by decide)) = .ok () := by
    rw [hmem]
    rfl
  have hfile : g.disk.files.get? (.numbered .bundleHash 1) = none := by
    rw [hdisk]
    show (Dict.erase (Dict.insert Dict.empty _ _) _).get? _ = none
    rw [Dict.get?_erase]
    split
    · rfl
    · next hne => rw [Dict.get?_insert_of_ne _ _ hne]; rfl
  have hprepare := @Numbered.prepare 2 1 secondBoot g (by decide) hnumbered (by decide) (by decide)
    none hcheck hfile 2
  have hprepared := hnumbered.accepted hprepare rfl rfl
  have hstep : ∀ prepared : Gateway,
      (g.execute numberedConfig (numberedPrepare secondBoot 2 (by decide) none 1 (by decide))
        (cooperativeEnv 2)).after = prepared →
      (Host.up g).run numberedConfig afterLoss = .up (Gateway.openState numberedConfig
        (prepared.execute numberedConfig (numberedCommit secondBoot 3 (by decide) none 1 (by decide))
          (cooperativeEnv 2)).after.disk thirdBoot).2 := by
    rintro prepared rfl
    simp only [afterLoss, Host.run, List.foldl_cons, List.foldl_nil, Host.step]
  have hmem' := hprepare.mem_eq
  have hdisk' := hprepare.disk_eq
  rw [hmem] at hmem'
  rw [hdisk] at hdisk'
  generalize hafter : (g.execute numberedConfig
    (numberedPrepare secondBoot 2 (by decide) none 1 (by decide)) (cooperativeEnv 2)).after =
      prepared at hmem' hdisk'
  have hprepared' : Numbered secondBoot 3 prepared := hafter ▸ hprepared
  have hloads : prepared.disk.loadBundle numberedConfig (.numbered .bundleHash 1) =
      .ok (rotatingBundle 1 1 2) :=
    loadBundle_rotating (by decide) (by rw [hdisk']; exact Dict.get?_insert_self _ _ _)
  have hstaged : prepared.mem.validateCommitReference (numberedReference 1 (by decide)) = .ok () := by
    rw [hmem']
    rfl
  obtain ⟨row, hrec⟩ := @Gateway.commit_withheld numberedConfig prepared
    (numberedCommit secondBoot 3 (by decide) none 1 (by decide)) (cooperativeEnv 2)
    (hprepared'.admissible (by decide)) (numberedReference 1 (by decide)) _ rfl
    (by rw [hmem']; rfl) hstaged hloads rfl (by rw [hmem']; rfl)
  have hrun := hstep prepared hafter
  generalize (prepared.execute numberedConfig
    (numberedCommit secondBoot 3 (by decide) none 1 (by decide)) (cooperativeEnv 2)).after.disk = d
    at hrec hrun
  refine ⟨d, d.commands, prepared.disk.channels.insert 1 ⟨4, numberedDigest 4⟩, row, hrun,
    hrec.tables.trans ?_, hrec.find?, hrec.row_eq.2.1, hrec.row_eq.2.2.2.2⟩
  rw [hdisk', hmem']
  rfl

/-- The generation the installation serves goes from 2 to 1, and the COMMIT is acknowledged. -/
theorem lost_generation_rolled_back :
    ((Host.down .empty).run numberedConfig (lossOf 2 (by decide))).disk.active =
        some (numberedReference 2 (by decide)) ∧
      ∃ g, (Host.down .empty).run numberedConfig (lossOf 2 (by decide) ++ afterLoss) = .up g ∧
        g.disk.active = some (numberedReference 1 (by decide)) ∧
        (∃ ack, (g.execute numberedConfig
          (numberedCommit secondBoot 3 (by decide) none 1 (by decide)) (cooperativeEnv 3)).outcome =
            .ok ack) ∧
        ¬ Advances ((Host.down .empty).run numberedConfig (lossOf 2 (by decide))).disk.active
          g.disk.active := by
  obtain ⟨g, hrun, hnumbered, hmem, commands, channels, hdisk⟩ := lossOf_run (m := 2) (by decide)
  obtain ⟨d, commands', channels', row, hafter, hd, hrow, hdigest, hack⟩ :=
    afterLoss_recorded hnumbered hmem hdisk
  have hactive : ((Host.down .empty).run numberedConfig (lossOf 2 (by decide))).disk.active =
      some (numberedReference 2 (by decide)) := by
    rw [hrun]
    show g.disk.active = _
    rw [hdisk]
    rfl
  have hload : d.loadCurrent numberedConfig = .ok (some (rotatingBundle 1 1 2)) := by
    have hbundle : d.loadBundle numberedConfig (.numbered .bundleHash 1) =
        .ok (rotatingBundle 1 1 2) :=
      loadBundle_rotating (by decide) (by rw [hd]; exact Dict.get?_insert_self _ _ _)
    have hrefs : d.previous = none ∧ d.active = some (numberedReference 1 (by decide)) := by
      rw [hd]
      exact ⟨rfl, rfl⟩
    simp only [Durable.loadCurrent, Durable.loadPrevious, hrefs.1, Durable.loadActive, hrefs.2,
      Durable.loadReference, numberedReference, hbundle, ok_bind]
    rfl
  have hopen := @Gateway.openState_loadable numberedConfig d thirdBoot _ (by rw [hd]; rfl) hload
    (by rw [hd]; rfl) (by rw [hd]; rfl)
  have hstaged : d.checkStaged numberedConfig = d := by
    rw [Durable.checkStaged, show d.staged = none by rw [hd]; rfl]
  rw [hstaged] at hopen
  have hend : (Gateway.openState numberedConfig d thirdBoot).2.disk.active =
      some (numberedReference 1 (by decide)) := by
    rw [hopen]
    show d.active = _
    rw [hd]
    rfl
  refine ⟨hactive, _, ?_, hend, ⟨_, Gateway.retry_acknowledged ?_ hdigest hack ?_⟩, fun hadv => ?_⟩
  · rw [Host.run, List.foldl_append, ← Host.run, ← Host.run, hrun, hafter]
  · rw [hopen]
    exact hrow
  · rw [hopen]
    show decide (d.recoveryReason ≠ "") = false
    rw [hd]
    rfl
  · rw [hactive, hend] at hadv
    obtain ⟨b, hb, hlt | heq⟩ := hadv _ rfl
    · rw [← Option.some.inj hb] at hlt
      exact absurd hlt (by decide)
    · rw [← Option.some.inj hb] at heq
      exact absurd (congrArg BundleReference.generation heq) (by decide)

end LostBundle

end LlmMaxxing
