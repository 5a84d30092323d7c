import LlmMaxxing.Core.Validated
import LlmMaxxing.Gateway.Acceptance

/-!
# The emergency channel (`gateway/emergency.py`)

`EmergencyServer._handle` passes DENY commands to the service and answers STATUS read-only.
A DENY is meant to contract what may be dispatched. It also renews the heartbeat that keeps the
overlay fresh, and a stale heartbeat denies everything: `emergency_deny_contracts_iff` says
exactly when an accepted DENY contracts.
-/

namespace LlmMaxxing

open Json Check

variable {cfg : Config}

/-! ## `EmergencyServer._handle` -/

/-- What the socket answers. -/
inductive EmergencyReply where
  | error (code : String)
  | status (status : GatewayStatus)
  | ack (ack : GatewayAck)
  /-- the handler ends by an exception of its own -/
  | closed

namespace Gateway

/-- `status_readonly`. -/
def statusReadonly (cfg : Config) (g : Gateway) (c : VerifiedGatewayCommand) (env : Env) :
    Except Raised GatewayStatus := do
  g.assertUnseenBinding cfg c
  return g.status env.readiness env.serviceNow

/-- `_handle` on a canonical, authenticated command. -/
def emergencyHandle (cfg : Config) (g : Gateway) (c : VerifiedGatewayCommand) (env : Env) :
    Gateway × EmergencyReply :=
  match c.body with
  | .status true => (g, .error "emergency_command_not_contraction")
  | .status false =>
    match g.statusReadonly cfg c env with
    | .ok s => (g, .status s)
    | .error _ => (g, .error "emergency_command_rejected")
  | .malformed .status => (g, .closed)
  | .deny _ | .malformed .deny =>
    match (g.execute cfg c env).outcome with
    | .ok ack => ((g.execute cfg c env).after, .ack ack)
    | .error _ => ((g.execute cfg c env).after, .error "emergency_command_rejected")
  | _ => (g, .error "emergency_command_not_contraction")

end Gateway

/-! ## Contraction -/

namespace Memory

/-- At one clock reading, `m'` permits no leg and admits no key that `m` does not. -/
structure Contracts (now : Nat) (m m' : Memory) : Prop where
  legs : ∀ leg group, m'.permits now leg group = true → m.permits now leg group = true
  keys : ∀ ids ids', m.deniedKeyIds now = .ok ids → m'.deniedKeyIds now = .ok ids' →
    ∀ key, key ∉ ids' → key ∉ ids

theorem Contracts.refl (now : Nat) (m : Memory) : Contracts now m m where
  legs _ _ h := h
  keys ids ids' h h' := by
    rw [h] at h'
    cases h'
    exact fun _ hk => hk

/-- Fewer overlays missing and no more freshness: a contraction. -/
theorem contracts_of_denyAll {now : Nat} {m m' : Memory} (hbundle : m'.activeBundle = m.activeBundle)
    (hactive : m'.active = m.active) (hall : m.denyAll now = true → m'.denyAll now = true)
    (hdenies : ∀ s, m.denies.contains s = true → m'.denies.contains s = true) :
    Contracts now m m' where
  legs leg group h := by
    have hgroup : m'.routeGroupOf leg = m.routeGroupOf leg := by
      rw [routeGroupOf, routeGroupOf, hbundle]
    simp only [permits, hgroup] at h ⊢
    cases hg : (group <|> m.routeGroupOf leg) with
    | none => simp [hg] at h
    | some rg =>
      simp only [hg, Bool.and_eq_true, Bool.not_eq_true', Bool.or_eq_false_iff] at h ⊢
      have hkeep : ∀ s, m'.denies.contains s = false → m.denies.contains s = false := by
        intro s hs
        cases hm : m.denies.contains s with
        | false => rfl
        | true => rw [hdenies s hm] at hs; cases hs
      refine ⟨?_, ⟨hkeep _ h.2.1.1, hkeep _ h.2.1.2⟩, hkeep _ h.2.2⟩
      cases ha : m.denyAll now with
      | false => rfl
      | true => rw [hall ha] at h; simp at h
  keys ids ids' h h' key hk := by
    unfold deniedKeyIds at h h'
    rw [hbundle, hactive] at h'
    split at h
    · next bundle active hb ha =>
      simp only [hb, ha, Except.ok.injEq] at h'
      cases h
      cases h'
      cases hd : m.denyAll now with
      | false => simp
      | true => simpa [hd, hall hd] using hk
    · cases h

end Memory

/-! ## Reachable states -/

theorem decodeBundle_keys_ne_nil {payload : Bytes} {b : PolicyBundleV1}
    (h : decodeBundle payload = .ok b) : b.keys ≠ [] := by
  unfold decodeBundle at h
  split at h
  · cases h
  · rw [bind_eq_ok_iff] at h
    obtain ⟨raw, -, hvalid⟩ := h
    obtain ⟨hfields, -, -, -, -, -, -, -, rfl, -⟩ := PolicyBundleV1.validate_eq_ok_iff.mp hvalid
    exact hfields.keys

namespace Gateway

/-- Memory agrees with the durable state as far as the overlays and the active bundle go. -/
structure Mirrored (g : Gateway) : Prop where
  denies : ∀ s, g.mem.denies.contains s = true → g.disk.denies.contains s = true
  active : g.mem.active.isSome = g.mem.activeBundle.isSome
  keys : ∀ b ∈ g.mem.activeBundle, b.keys ≠ []

variable {g g' : Gateway} {c : VerifiedGatewayCommand} {env : Env}

theorem Mirrored.congr (h : g.Mirrored) (hdenies : g'.mem.denies = g.mem.denies)
    (hdisk : g'.disk.denies = g.disk.denies) (hactive : g'.mem.active = g.mem.active)
    (hbundle : g'.mem.activeBundle = g.mem.activeBundle) : g'.Mirrored where
  denies s hs := by
    rw [hdisk]
    exact h.denies s (hdenies ▸ hs)
  active := by rw [hactive, hbundle, h.active]
  keys b hb := h.keys b (hbundle ▸ hb)

/-- Rereading the deny tables keeps the mirror. -/
theorem Mirrored.reread (h : g.Mirrored) (hmem : g.Reread g'.mem)
    (hdisk : g'.disk.denies = g.disk.denies) : g'.Mirrored where
  denies s hs := by
    rw [hdisk]
    rcases hmem.denies with hd | hd
    · exact h.denies s (hd ▸ hs)
    · exact hd ▸ hs
  active := by rw [hmem.same, h.active]
  keys b hb := by
    rw [hmem.same] at hb
    exact h.keys b hb

theorem Records.mirrored (h : g.Mirrored) (hr : Records cfg g c env g') : g'.Mirrored := by
  cases hr with
  | prepare _ _ store stage =>
    obtain ⟨-, hrec, hmem⟩ := stagePrepare_eq_ok stage
    have htables := (Durable.storeBundle_sameTables store).tables
    refine h.congr (by rw [hmem]) ?_ (by rw [hmem]) (by rw [hmem])
    rw [hrec.tables, htables]
  | commit _ _ loaded committed =>
    obtain ⟨hrec, hmem⟩ := commitStaged_eq_ok committed
    refine ⟨fun s hs => ?_, by rw [hmem]; rfl, fun b hb => ?_⟩
    · rw [hrec.tables]
      exact h.denies s (by rw [hmem] at hs; exact hs)
    · obtain ⟨payload, hdecode, -⟩ := Durable.loadBundle_eq_ok loaded
      rw [hmem, Option.mem_some_iff] at hb
      exact hb ▸ decodeBundle_keys_ne_nil hdecode
  | deny _ _ issued =>
    obtain ⟨-, hrec, hmem⟩ := issueDeny_eq_ok issued
    refine ⟨fun s hs => ?_, by rw [hmem]; exact h.active, fun b hb => h.keys b ?_⟩
    · rw [hrec.tables]
      rw [hmem] at hs
      exact hs
    · rw [hmem] at hb
      exact hb
  | clear _ _ cleared =>
    obtain ⟨hrec, hmem⟩ := clearDeny_eq_ok cleared
    refine ⟨fun s hs => ?_, by rw [hmem]; exact h.active, fun b hb => h.keys b ?_⟩
    · rw [hrec.tables]
      rw [hmem] at hs
      exact hs
    · rw [hmem] at hb
      exact hb
  | status _ recorded =>
    obtain ⟨⟨leases, result, hrec⟩, hmem⟩ := recordStatus_eq_ok recorded
    refine ⟨fun s hs => ?_, by rw [hmem]; exact h.active, fun b hb => h.keys b ?_⟩
    · rw [hrec.tables]
      rw [hmem] at hs
      exact hs
    · rw [hmem] at hb
      exact hb

theorem Mirrored.execute (h : g.Mirrored) (c : VerifiedGatewayCommand) (env : Env) :
    (g.execute cfg c env).after.Mirrored := by
  rcases execute_cases cfg g c env with ⟨row, -, hack⟩ | hun | ⟨g', hr, hset⟩
  · rcases hack.after_cases with heq | ⟨ack, heq⟩
    · rw [heq]
      exact h
    · rw [heq]
      exact h.congr rfl rfl rfl rfl
  · exact h.reread hun.mem (by rw [hun.disk.tables])
  · have h' := hr.mirrored h
    rcases hset.ended.after_cases with heq | heq | ⟨ack, heq⟩
    · rw [heq]
      exact h'
    · rw [heq]
      exact h'.congr rfl rfl rfl rfl
    · rw [heq]
      exact h'.congr rfl rfl rfl rfl

theorem Mirrored.openState (d : Durable) (bootId : GatewayBootId) :
    (Gateway.openState cfg d bootId).2.Mirrored := by
  have hopened := openState_cases cfg d bootId
  generalize Gateway.openState cfg d bootId = r at hopened
  -- a failed recovery has no active bundle, and no overlay but those it read
  have hempty : ∀ s, (Dict.empty : Dict DenySubject DenyOverlay).contains s = true → False := by
    simp [Dict.contains]
  cases hopened with
  | unsound => exact ⟨fun s hs => (hempty s hs).elim, rfl, by simp [recoveryFailed]⟩
  | unloadable => exact ⟨fun s hs => (hempty s hs).elim, rfl, by simp [recoveryFailed]⟩
  | deniesUnreadable => exact ⟨fun s hs => (hempty s hs).elim, rfl, by simp [recoveryFailed]⟩
  | highwaterUnreadable => exact ⟨fun s hs => hs, rfl, by simp [recoveryFailed]⟩
  | opened bundle loaded =>
    have hactive := Durable.loadActive_eq_ok (Durable.loadCurrent_eq_ok loaded).2
    refine ⟨fun s hs => hs, ?_, ?_⟩
    · rcases hactive with ⟨hnone, rfl⟩ | ⟨ref, b, hsome, rfl, -⟩
      · simp [pointersRead, hnone]
      · simp [pointersRead, hsome]
    · intro b hb
      have hb' : bundle = some b := hb
      rcases hactive with ⟨-, rfl⟩ | ⟨ref, b', -, rfl, hload, -⟩
      · cases hb'
      · cases hb'
        obtain ⟨payload, hdecode, -⟩ := Durable.loadBundle_eq_ok hload
        exact decodeBundle_keys_ne_nil hdecode

theorem Mirrored.renew (h : g.Mirrored) (now : Nat) : (g.renewDenyHeartbeats now).Mirrored := by
  unfold renewDenyHeartbeats
  split
  · exact h
  · split
    · next read hread =>
      obtain rfl := loadDenyTables_eq_ok hread
      exact ⟨fun s hs => hs, h.active, h.keys⟩
    · next read e hread =>
      obtain ⟨hdisk, hmem⟩ := loadDenyTables_reread hread
      have hread' := @Mirrored.reread g read h hmem (by rw [hdisk])
      exact hread'.congr rfl rfl rfl rfl

theorem mirrored_invariant (cfg : Config) : Host.Invariant cfg Mirrored fun _ => True where
  deliver _ c env h := h.execute c env
  crash _ _ := trivial
  crashDuring _ _ _ _ _ _ := trivial
  restart d bootId _ := .openState d bootId
  crashOpening _ _ _ _ _ := trivial
  renew _ now h := h.renew now
  confirmLive g ref h := by
    unfold confirmLiveBundle
    split
    · exact h.congr rfl rfl rfl rfl
    · exact h
  fenceOld g epoch h := by
    unfold recordOldFence
    split
    · exact h.congr rfl rfl rfl rfl
    · exact h
  receiveTakeover g epoch h := by
    unfold receiveTakeover
    split
    · exact h.congr rfl rfl rfl rfl
    · exact h
  acceptTakeover g epoch h := by
    unfold acceptTakeover
    split
    · exact h.congr rfl rfl rfl rfl
    · exact h
  damageUp g dm h := by
    cases dm with
    | file hash content => cases content <;> exact h.congr rfl rfl rfl rfl
    | tables => exact h.congr rfl rfl rfl rfl
  damageDown _ _ _ := trivial

/-! ## When an emergency deny contracts -/

/-- An accepted DENY is a retry, or it rewrites overlays and heartbeat and nothing else. -/
theorem accepted_deny_cases {payload : DenyCommandPayload} {ack : GatewayAck}
    (hbody : c.body = .deny payload) (hok : (g.execute cfg c env).outcome = .ok ack) :
    ((∃ row, g.disk.validateNewCommand c = .ok (some row)) ∧
        (g.execute cfg c env).after.mem = g.mem) ∨
      (g.disk.validateNewCommand c = .ok none ∧ g.mem.active.isSome = true ∧
        (g.execute cfg c env).after.mem = { g.mem with
          denies := g.disk.denies.insert payload.subject (overlayOf payload env.now)
          denyHighwater := g.disk.denyHighwater.insert payload.subject
            (payload.denyEpoch, payload.denyFloorGeneration)
          denyHeartbeatMs := env.now }) := by
  rcases execute_cases cfg g c env with ⟨row, hrow, hack⟩ | hun | ⟨g', hr, hset⟩
  · refine .inl ⟨⟨row, hrow⟩, ?_⟩
    rcases hack.after_cases with heq | ⟨a, heq⟩ <;> rw [heq]
    rfl
  · obtain ⟨err, herr⟩ := hun.outcome
    rw [herr] at hok
    cases hok
  · refine .inr ?_
    obtain ⟨d, row, hrec, hcommands, hchannels⟩ := hr.recorded
    have hnew : g.disk.validateNewCommand c = .ok none := by
      refine Durable.validateNewCommand_eq_none_iff.mpr ⟨fun r hr => ?_, ?_⟩
      · exact hrec.unseen r (hcommands ▸ hr)
      · have hcont := hrec.continues
        rwa [Durable.Continues, Durable.chainHead, hchannels] at hcont
    have hafter : (g.execute cfg c env).after.mem = g'.mem := by
      have hended := hset.ended
      rw [hok] at hended
      generalize (g.execute cfg c env).after = after at hended
      cases hended with
      | acked => rfl
    cases hr with
    | deny body active issued =>
      rw [hbody] at body
      cases body
      obtain ⟨-, -, hmem⟩ := issueDeny_eq_ok issued
      simp only [activePolicy, require_eq_ok_iff] at active
      obtain ⟨ref, href, -⟩ := active
      exact ⟨hnew, by rw [Option.mem_def.mp href]; rfl, hafter.trans hmem⟩
    | prepare body => rw [hbody] at body; cases body
    | commit body => rw [hbody] at body; cases body
    | clear body => rw [hbody] at body; cases body
    | status body => rw [hbody] at body; cases body

theorem heartbeatFresh_self (m : Memory) (now : Nat) (h : m.denyHeartbeatMs = now) :
    m.heartbeatFresh now = true := by
  simp [Memory.heartbeatFresh, h]

/-- **An accepted emergency DENY contracts what may be dispatched exactly when it is a retry, or
the heartbeat is fresh, or everything stays denied for another reason.** -/
theorem emergency_deny_contracts_iff (hreach : (Host.up g).Reachable cfg)
    {payload : DenyCommandPayload} (hbody : c.body = .deny payload) {ack : GatewayAck}
    (hok : (g.emergencyHandle cfg c env).2 = .ack ack) :
    Memory.Contracts env.now g.mem (g.emergencyHandle cfg c env).1.mem ↔
      (∃ row, g.disk.validateNewCommand c = .ok (some row)) ∨
        g.mem.heartbeatFresh env.now = true ∨ g.mem.recoveryRequired = true ∨
        g.mem.takeoverState = .fencedOld := by
  have hm : g.Mirrored := (mirrored_invariant cfg).reachable trivial hreach
  have hexec : (g.execute cfg c env).outcome = .ok ack ∧
      (g.emergencyHandle cfg c env).1 = (g.execute cfg c env).after := by
    simp only [emergencyHandle, hbody] at hok ⊢
    split at hok
    · next a ha =>
      cases hok
      rw [ha]
      exact ⟨rfl, rfl⟩
    · cases hok
  rw [hexec.2]
  rcases accepted_deny_cases hbody hexec.1 with ⟨hretry, hmem⟩ | ⟨hnew, hactive, hmem⟩
  · rw [hmem]
    exact ⟨fun _ => .inl hretry, fun _ => .refl _ _⟩
  · have hfresh' := heartbeatFresh_self (g.execute cfg c env).after.mem env.now (by rw [hmem])
    have hall' : (g.execute cfg c env).after.mem.denyAll env.now =
        (g.mem.recoveryRequired || g.mem.takeoverState == .fencedOld) := by
      rw [Memory.denyAll, hfresh', hmem]
      simp
    constructor
    · intro hcontract
      by_contra hnone
      simp only [not_or, Bool.not_eq_true] at hnone
      obtain ⟨-, hstale, hrecovery, hfenced⟩ := hnone
      -- stale before and fresh after: every key of the bundle leaves the denied set
      obtain ⟨b, hb⟩ := Option.isSome_iff_exists.mp (hm.active ▸ hactive)
      obtain ⟨ref, href⟩ := Option.isSome_iff_exists.mp hactive
      obtain ⟨k, hk⟩ := List.exists_mem_of_ne_nil _ (hm.keys b hb)
      have hbefore : g.mem.deniedKeyIds env.now = .ok (b.keys.map ClientKeyRecord.keyId) := by
        simp [Memory.deniedKeyIds, hb, href, Memory.denyAll, hstale]
      have hafter : (g.execute cfg c env).after.mem.deniedKeyIds env.now = .ok [] := by
        rw [Memory.deniedKeyIds, hall', hmem]
        simp [hb, href, hrecovery, hfenced]
      exact hcontract.keys _ _ hbefore hafter k.keyId List.not_mem_nil
        (List.mem_map.mpr ⟨k, hk, rfl⟩)
    · intro hcond
      have hcond' := hcond.resolve_left (by rw [hnew]; simp)
      refine Memory.contracts_of_denyAll (by rw [hmem]) (by rw [hmem]) (fun hall => ?_) fun s hs => ?_
      · rw [hall']
        rcases hcond' with hfresh | hrecovery | hfenced
        · simpa [Memory.denyAll, hfresh] using hall
        · simp [hrecovery]
        · simp [hfenced]
      · rw [hmem]
        have hdisk := hm.denies s hs
        show (g.disk.denies.insert payload.subject (overlayOf payload env.now)).contains s = true
        rw [Dict.contains, Dict.get?_insert]
        split
        · rfl
        · exact hdisk

/-! ## A deny before and after the heartbeat goes stale -/

def emergencyBoot : GatewayBootId := .numbered .gatewayBoot 1

/-- An installation that has activated generation 1; its heartbeat is at 0. -/
def servingGateway : Gateway := firstActivated emergencyBoot 1 safePositive_one

def accountDeny : DenyCommandPayload where
  subject := .account sampleAccountId
  denyEpoch := 1
  reason := .emergency
  safeEpoch := safePositive_one
  safeFloor := by simp

def accountDenyCommand : VerifiedGatewayCommand :=
  numberedDeny emergencyBoot 2 safePositive_three 1 safePositive_one accountDeny

theorem servingGateway_spec : Numbered emergencyBoot 2 servingGateway ∧
    servingGateway.mem = activatedMemory emergencyBoot 1 (by decide) ∧
    ∃ commands channels, servingGateway.disk = activatedDisk 1 (by decide) commands channels :=
  first_activation emergencyBoot _

theorem accountDeny_handled (hnumbered : Numbered emergencyBoot 2 g)
    (hmem : g.mem = activatedMemory emergencyBoot 1 (by decide)) {commands : List CommandRow}
    {channels : Dict Nat ChannelHead}
    (hdisk : g.disk = activatedDisk 1 (by decide) commands channels) (now : Nat) :
    (∃ ack, (g.emergencyHandle numberedConfig accountDenyCommand (cooperativeEnv now)).2 =
        .ack ack) ∧
      (g.emergencyHandle numberedConfig accountDenyCommand (cooperativeEnv now)).1.mem =
        { g.mem with
          denies := g.disk.denies.insert accountDeny.subject (overlayOf accountDeny now)
          denyHighwater := g.disk.denyHighwater.insert accountDeny.subject (1, none)
          denyHeartbeatMs := now } := by
  have hactive : g.mem.active = some (numberedReference 1 (by decide)) := by
    rw [hmem]
    rfl
  have hcheck : checkHighwater g.reading.mem accountDeny = .ok () := by
    have hnone : g.reading.mem.denyHighwater.get? accountDeny.subject = none := by
      show g.disk.denyHighwater.get? _ = none
      rw [hdisk]
      rfl
    simp only [checkHighwater, hnone]
  have haccepted : Accepted numberedConfig g accountDenyCommand (cooperativeEnv now) _ _ :=
    hnumbered.deny (by decide) hactive (by rw [hdisk]; exact ⟨rfl, rfl⟩) hcheck now
  obtain ⟨ack, hack⟩ := haccepted.outcome
  have hbody : accountDenyCommand.body = .deny accountDeny := rfl
  simp only [emergencyHandle, hbody, hack]
  exact ⟨⟨ack, rfl⟩, haccepted.mem_eq⟩

/-- Five seconds after the heartbeat the deny contracts. -/
theorem fresh_deny_contracts : Memory.Contracts 5_000 servingGateway.mem
    (servingGateway.emergencyHandle numberedConfig accountDenyCommand (cooperativeEnv 5_000)).1.mem := by
  obtain ⟨hnumbered, hmem, commands, channels, hdisk⟩ := servingGateway_spec
  generalize servingGateway = g at hnumbered hmem hdisk
  obtain ⟨⟨ack, hack⟩, -⟩ := accountDeny_handled hnumbered hmem hdisk 5_000
  refine (emergency_deny_contracts_iff hnumbered.reachable rfl hack).mpr (.inr (.inl ?_))
  rw [hmem]
  rfl

/-- Twenty seconds after the heartbeat every key is denied, and the accepted deny of one account
lets every key in again. -/
theorem stale_deny_expands : (Host.up servingGateway).Reachable numberedConfig ∧
    (∃ ack, (servingGateway.emergencyHandle numberedConfig accountDenyCommand
      (cooperativeEnv 20_000)).2 = .ack ack) ∧
    servingGateway.mem.deniedKeyIds 20_000 = .ok ["00000000000000000000000000000007"] ∧
    (servingGateway.emergencyHandle numberedConfig accountDenyCommand
      (cooperativeEnv 20_000)).1.mem.deniedKeyIds 20_000 = .ok [] ∧
    ¬ Memory.Contracts 20_000 servingGateway.mem
      (servingGateway.emergencyHandle numberedConfig accountDenyCommand
        (cooperativeEnv 20_000)).1.mem := by
  obtain ⟨hnumbered, hmem, commands, channels, hdisk⟩ := servingGateway_spec
  generalize servingGateway = g at hnumbered hmem hdisk
  obtain ⟨hack, hmem'⟩ := accountDeny_handled hnumbered hmem hdisk 20_000
  have hbefore : g.mem.deniedKeyIds 20_000 = .ok ["00000000000000000000000000000007"] := by
    rw [hmem]
    decide +kernel
  have hafter : (g.emergencyHandle numberedConfig accountDenyCommand
      (cooperativeEnv 20_000)).1.mem.deniedKeyIds 20_000 = .ok [] := by
    rw [hmem', hmem]
    rfl
  refine ⟨hnumbered.reachable, hack, hbefore, hafter, fun hcontract => ?_⟩
  exact hcontract.keys _ _ hbefore hafter _ List.not_mem_nil List.mem_cons_self

end Gateway

end LlmMaxxing
