import LlmMaxxing.Gateway.SampleRuntime
import LlmMaxxing.Gateway.Service

/-!
# Attempts and probes of an earlier process

After a start, what an earlier process left in flight is closed: its attempts are uncertain and
none of its probes is waited for. The recovery pass does this for the configured accounts.
An account that is not configured at the start is kept as the entry of the checkpoint, and the
publication that brings it back restores the entry as it is; so the entry has to be quiet already.
-/

namespace LlmMaxxing

open Check AccountRuntime Snapshot Fallible World

/-! ## Known attempts and probes -/

/-- Whatever is in flight on an account is in the two lists. -/
structure KnownAccount (granted issued : List (AccountId × String)) (accountId : AccountId)
    (rt : AccountRuntime) : Prop where
  attempts : ∀ id a, rt.attempts.get? id = some a → (accountId, id) ∉ granted →
    a.state = .uncertain
  probes : ∀ scope p, (rt.scopedCircuit scope).probeId = some p → (accountId, p) ∈ issued

/-- A checkpoint entry that restores to an account with nothing in flight. -/
def QuietEntry (cfg : RuntimeConfig) (entry : Json) : Prop :=
  ∀ (base rt : AccountRuntime), base.restoreSnapshotState cfg entry = .ok rt → Quiet rt

/-- Whatever is in flight on a configured account is known, and the entries of the dormant
accounts in `S` are quiet. -/
structure Known (cfg : RuntimeConfig) (granted issued : List (AccountId × String))
    (S : AccountId → Prop) (w : World) : Prop where
  accounts : ∀ accountId rt, w.state.runtimes.get? accountId = some rt →
    KnownAccount granted issued accountId rt
  dormant : ∀ accountId, S accountId → w.state.runtimes.get? accountId = none →
    ∀ entry, w.state.dormantAccountStates.get? accountId = some entry → QuietEntry cfg entry

section

variable {cfg : RuntimeConfig} {granted issued : List (AccountId × String)}
  {S : AccountId → Prop} {accountId : AccountId} {rt rt' : AccountRuntime} {w w' : World}

theorem KnownAccount.of_quiet (h : Quiet rt) : KnownAccount granted issued accountId rt where
  attempts id a ha _ := h.attempts id a ha
  probes scope _ hp := absurd (CircuitValue.halfOpen_of_probeId hp) (h.circuits scope)

theorem KnownAccount.quiet (h : KnownAccount [] [] accountId rt) : Quiet rt where
  attempts id a ha := h.attempts id a ha List.not_mem_nil
  circuits scope hhalf := by
    cases hp : (rt.scopedCircuit scope).probeId with
    | none => exact (rt.scopedCircuit scope).state_fields_match.2.2 hhalf hp
    | some p => exact absurd (h.probes scope p hp) List.not_mem_nil

/-- More may be known. -/
theorem KnownAccount.mono (h : KnownAccount granted issued accountId rt)
    {granted' issued' : List (AccountId × String)} (hgranted : granted ⊆ granted')
    (hissued : issued ⊆ issued') : KnownAccount granted' issued' accountId rt where
  attempts id a ha hnot := h.attempts id a ha fun hmem => hnot (hgranted hmem)
  probes scope p hp := hissued (h.probes scope p hp)

/-- Same attempts and circuits, same knowledge. -/
theorem KnownAccount.congr (h : KnownAccount granted issued accountId rt)
    (hattempts : rt'.attempts = rt.attempts) (hcircuits : rt'.circuits = rt.circuits)
    (haccount : rt'.accountCircuit = rt.accountCircuit) :
    KnownAccount granted issued accountId rt' where
  attempts id a ha := h.attempts id a (by rwa [hattempts] at ha)
  probes scope p hp := by
    refine h.probes scope p ?_
    cases scope with
    | none => rwa [scopedCircuit, haccount] at hp
    | some generation => simpa only [scopedCircuit, circuitValue, hcircuits] using hp

theorem KnownAccount.idle (h : KnownAccount granted issued accountId rt) (hidle : Idle rt rt') :
    KnownAccount granted issued accountId rt' :=
  h.congr hidle.attempts hidle.circuits hidle.accountCircuit

theorem quiet_fresh (account : ProviderAccount) (clock : Nat) :
    Quiet (AccountRuntime.fresh account clock) where
  attempts _ _ h := by cases h
  circuits scope h := by cases scope <;> cases h

/-- A restored snapshot is as quiet as the account was. -/
theorem QuietEntry.snapshotState (h : Quiet rt) : QuietEntry cfg rt.snapshotState := by
  intro base rt' hrestore
  rw [restore_snapshotState] at hrestore
  split at hrestore
  · cases hrestore
    have hsame := restored_same base rt
    refine ⟨fun id a ha => h.attempts id a (by rwa [hsame.attempts] at ha), fun scope => ?_⟩
    have hscope : (restored base rt).scopedCircuit scope = rt.scopedCircuit scope := by
      cases scope with
      | none => rfl
      | some generation => simp only [scopedCircuit, circuitValue, hsame.circuits]
    rw [hscope]
    exact h.circuits scope
  · cases hrestore

/-! ## Administrative steps -/

/-- A step on the runtime of one account. -/
theorem Known.setRuntime (h : Known cfg granted issued S w)
    (hrt : KnownAccount granted issued accountId rt) :
    Known cfg granted issued S (w.setRuntime accountId rt) where
  accounts other rt' hrt' := by
    by_cases heq : other = accountId
    · subst heq
      rw [setRuntime_get?] at hrt'
      cases hrt'
      exact hrt
    · rw [(Untouched.setRuntime w w accountId rt rfl).1 other heq] at hrt'
      exact h.accounts other rt' hrt'
  dormant other hS hnone := by
    refine h.dormant other hS ?_
    by_cases heq : other = accountId
    · subst heq
      rw [setRuntime_get?] at hnone
      cases hnone
    · rwa [(Untouched.setRuntime w w accountId rt rfl).1 other heq] at hnone

/-- **An administrative step brings nothing unknown into flight**, if the dormant entries it may
restore are quiet. -/
theorem Known.admin {published : List ProviderAccount}
    (hpublished : ∀ account ∈ published, S account.accountId)
    (hstep : Admin cfg published w w') (h : Known cfg granted issued S w) :
    Known cfg granted issued S w' := by
  cases hstep with
  | idle hrt hidle => exact h.setRuntime ((h.accounts _ _ hrt).idle hidle)
  | registered => exact ⟨h.accounts, h.dormant⟩
  | histories hruntimes hdormant =>
    refine ⟨fun accountId rt hrt => ?_, fun accountId hS hnone entry hentry => ?_⟩
    · exact h.accounts accountId rt (by rwa [hruntimes] at hrt)
    · exact h.dormant accountId hS (by rwa [hruntimes] at hnone) entry (by rwa [hdormant] at hentry)
  | updated _ hrt hupdate =>
    refine h.setRuntime ?_
    unfold updateAccount at hupdate
    split at hupdate
    · cases hupdate
    · cases hupdate
      exact (h.accounts _ _ hrt).congr (by simp [tick]) (by simp [tick]) (by simp [tick])
  | built => exact h.setRuntime (KnownAccount.of_quiet (quiet_fresh _ _))
  | @revived account clock entry rt hmem hrt hdormant hrestore =>
    have hquiet : Quiet rt :=
      h.dormant account.accountId (hpublished account hmem) hrt entry hdormant _ rt hrestore
    have hset := h.setRuntime
      (KnownAccount.of_quiet hquiet : KnownAccount granted issued account.accountId rt)
    refine ⟨hset.accounts, fun other hS hnone entry' hentry' => ?_⟩
    refine hset.dormant other hS hnone entry' ?_
    rw [Dict.get?_erase] at hentry'
    split at hentry'
    · cases hentry'
    · exact hentry'
  | @dropped account clock entry e hmem hrt hdormant hrestore =>
    refine ⟨h.accounts, fun other hS hnone entry' hentry' => h.dormant other hS hnone entry' ?_⟩
    rw [Dict.get?_erase] at hentry'
    split at hentry'
    · cases hentry'
    · exact hentry'
  | checkpointed => exact ⟨h.accounts, h.dormant⟩

/-! ## Records -/

/-- An attempt that is rewritten keeps its state or becomes uncertain. -/
theorem KnownAccount.modify (h : KnownAccount granted issued accountId rt) (id : String)
    (f : Attempt → Attempt) (hf : ∀ a, (f a).state = a.state ∨ (f a).state = .uncertain) :
    KnownAccount granted issued accountId { rt with attempts := rt.attempts.modify id f } where
  attempts id' a ha hnot := by
    rw [Dict.get?_modify] at ha
    split at ha
    · obtain ⟨a₀, ha₀, rfl⟩ := Option.map_eq_some_iff.mp ha
      rcases hf a₀ with hsame | huncertain
      · rw [hsame]
        exact h.attempts id' a₀ ha₀ hnot
      · exact huncertain
    · exact h.attempts id' a ha hnot
  probes scope p hp := h.probes scope p (by cases scope <;> exact hp)

/-- Attempts that go are no longer in flight. -/
theorem KnownAccount.subset (h : KnownAccount granted issued accountId rt)
    (hattempts : ∀ id a, rt'.attempts.get? id = some a → rt.attempts.get? id = some a)
    (hcircuits : ∀ scope, rt'.scopedCircuit scope = rt.scopedCircuit scope) :
    KnownAccount granted issued accountId rt' where
  attempts id a ha := h.attempts id a (hattempts id a ha)
  probes scope p hp := h.probes scope p (by rwa [hcircuits] at hp)

/-- **A record that takes effect is what it grants and issues.** -/
theorem KnownAccount.take (h : KnownAccount granted issued accountId rt) (body : RecordBody)
    (receipt : JournalReceipt) :
    KnownAccount (Service.grants accountId (some body) ++ granted)
      (Service.issues accountId (some body) ++ issued) accountId (rt.take receipt body) := by
  cases body with
  | accountRegistered => exact h
  | attemptReserved d =>
    refine ⟨fun id a ha hnot => ?_, fun scope p hp => h.probes scope p (by cases scope <;> exact hp)⟩
    rw [Service.grants, List.singleton_append, List.mem_cons, not_or] at hnot
    have hne : id ≠ d.attemptId := fun heq => hnot.1 (by rw [heq])
    have ha : (rt.attempts.insert d.attemptId d.attempt).get? id = some a := ha
    rw [Dict.get?_insert_of_ne _ _ hne] at ha
    exact h.attempts id a ha hnot.2
  | attemptDispatched attemptId dispatchedAtMs => exact h.modify _ _ fun a => .inl rfl
  | attemptUncertain attemptId reason => exact h.modify _ _ fun a => .inr rfl
  | attemptResolved attemptId r digest resolvedAtMs =>
    simp only [AccountRuntime.take]
    split
    · -- a released attempt goes, a held one becomes uncertain
      by_cases hrelease : r.releaseCapacity = true
      · refine h.subset (fun id a ha => ?_) fun scope => by cases scope <;> rfl
        simp only [resolve, resolveAttempt, if_pos hrelease, Dict.get?_erase] at ha
        split at ha
        · cases ha
        · exact ha
      · refine (h.modify attemptId (fun a => { a with state := .uncertain }) fun a => .inr rfl).congr
          ?_ rfl rfl
        simp only [resolve, resolveAttempt, if_neg hrelease]
    · exact h
  | circuitUpdated other scope value =>
    refine ⟨fun id a ha hnot => ?_, fun scope' p hp => ?_⟩
    · rw [AccountRuntime.take, replaceCircuit_attempts] at ha
      exact h.attempts id a ha hnot
    · rw [AccountRuntime.take, scopedCircuit_replaceCircuit] at hp
      rw [List.mem_append]
      split at hp
      · exact .inl (by simp [Service.issues, hp])
      · exact .inr (h.probes scope' p hp)
  | authoritativeActiveCount other count =>
    refine h.subset (fun id a ha => ?_) fun scope => by cases scope <;> rfl
    simp only [AccountRuntime.take, setActiveCount, Dict.get?_filter] at ha
    exact (Option.filter_eq_some_iff.mp ha).1
  | recoveryProbeStarted other probeId => exact h.congr rfl rfl rfl
  | recoveryProbeFinished other probeId classification =>
    rw [AccountRuntime.take]
    rcases endRecoveryProbe_cases rt classification with heq | heq | ⟨oldest, heq⟩
    · rw [heq]; exact h.congr rfl rfl rfl
    · rw [heq]; exact h.congr rfl rfl rfl
    · rw [heq]
      refine h.subset (fun id a ha => ?_) fun scope => by cases scope <;> rfl
      rw [Dict.get?_erase] at ha
      split at ha
      · cases ha
      · exact ha

/-! ## Before the first record -/

/-- A checkpoint whose entries are all quiet. -/
def QuietDocument (cfg : RuntimeConfig) (document : Json) : Prop :=
  ∀ entry ∈ documentEntries document, QuietEntry cfg entry.2

/-- As long as no record was written, nothing has been in flight. -/
def Unwritten (cfg : RuntimeConfig) (w : World) : Prop :=
  w.journal.lastSequence = 0 →
    w.journal.records = [] ∧
      (∀ document, w.journal.checkpoint = some document → QuietDocument cfg document) ∧
      Known cfg [] [] (fun _ => True) w

theorem Known.quietDocument (h : Known cfg [] [] (fun _ => True) w) :
    QuietDocument cfg w.state.snapshot := by
  intro entry hentry
  obtain ⟨accountId, -, hget⟩ := mem_documentEntries_snapshot hentry
  rw [accountStates_get?] at hget
  cases hrt : w.state.runtimes.get? accountId with
  | some rt =>
    rw [hrt, Option.map_some, Option.some_or, Option.some.injEq] at hget
    rw [← hget]
    exact QuietEntry.snapshotState (h.accounts accountId rt hrt).quiet
  | none =>
    rw [hrt] at hget
    exact h.dormant accountId trivial hrt entry.2 hget

theorem Unwritten.step {published : List ProviderAccount} {guard : RecordGuard}
    (hstep : Step cfg published guard w w') (h : Unwritten cfg w) : Unwritten cfg w' := by
  cases hstep with
  | effect => exact fun hzero => absurd hzero (Nat.succ_ne_zero _)
  | admin hadmin =>
    intro hzero
    have hzero₀ : w.journal.lastSequence = 0 := by
      cases hadmin with
      | registered => exact absurd hzero (Nat.succ_ne_zero _)
      | _ => exact hzero
    obtain ⟨hrecords, hdocument, hknown⟩ := h hzero₀
    have hknown' := hknown.admin (fun _ _ => trivial) hadmin
    cases hadmin with
    | registered => exact absurd hzero (Nat.succ_ne_zero _)
    | checkpointed =>
      refine ⟨rfl, fun document hdoc => ?_, hknown'⟩
      cases hdoc
      exact hknown.quietDocument
    | _ => exact ⟨hrecords, hdocument, hknown'⟩

/-- The state rebuilt from a journal without records has nothing in flight. -/
theorem Unwritten.rebuilt (h : Unwritten cfg w) (hzero : w.journal.lastSequence = 0)
    {clock : AccountId → Nat} {accounts : List ProviderAccount} {st : RuntimeState}
    (hst : rebuilt cfg clock accounts w.journal = .ok st) :
    Known cfg [] [] (fun _ => True) { w with state := st } := by
  obtain ⟨hrecords, hdocument, -⟩ := h hzero
  refine rebuilt_keeps (P := fun st => Known cfg [] [] (fun _ => True) { w with state := st }) hst
    ⟨fun accountId rt hrt => ?_, fun _ _ _ entry hentry => ?_⟩
    (fun st₁ st₂ hruntimes hdormant hst₁ => ?_)
    (fun document hdoc entry hentry st₁ st₂ hrestore hst₁ => ?_)
    (fun record hrecord => ?_)
  · obtain ⟨account, -, -, rfl⟩ := get?_configured hrt
    exact KnownAccount.of_quiet (quiet_fresh _ _)
  · cases hentry
  · have hstep : Admin cfg [] { w with state := st₁ } { w with state := st₂ } :=
      Admin.histories (w := { w with state := st₁ }) hruntimes hdormant
    exact hst₁.admin (fun _ hmem => by cases hmem) hstep
  · have hquiet : QuietEntry cfg entry.2 := hdocument document hdoc entry hentry
    obtain ⟨accountId, -, ⟨-, rfl⟩ | ⟨rt, rt', -, hrestored, rfl⟩⟩ := restoreEntry_cases hrestore
    · refine ⟨hst₁.accounts, fun other _ hnone entry' hentry' => ?_⟩
      simp only [Dict.get?_insert] at hentry'
      split at hentry'
      · cases hentry'
        exact hquiet
      · exact hst₁.dormant other trivial hnone entry' hentry'
    · exact hst₁.setRuntime (KnownAccount.of_quiet (hquiet _ rt' hrestored))
  · rw [hrecords] at hrecord
    cases hrecord

/-- **A start keeps the invariant of the unwritten journal.** -/
theorem Unwritten.start (h : Unwritten cfg w) (clock : StartClock)
    (accounts : List ProviderAccount) : Unwritten cfg (World.start cfg clock accounts w).1 := by
  rcases start_cases cfg clock accounts w with ⟨e, herr⟩ | ⟨validated, st, published, -, hst, -, hruns⟩
  · rw [herr]
    exact h
  · refine hruns.keeps (fun _ _ hstep hw => Unwritten.step hstep hw) fun hzero => ?_
    obtain ⟨hrecords, hdocument, -⟩ := h hzero
    exact ⟨hrecords, hdocument, h.rebuilt hzero hst⟩

/-- **A start that succeeds leaves every account quiet.** -/
theorem start_quiet (h : Unwritten cfg w) {clock : StartClock} {accounts : List ProviderAccount}
    (hok : (World.start cfg clock accounts w).2 = .ok ()) {accountId : AccountId}
    {rt : AccountRuntime}
    (hrt : (World.start cfg clock accounts w).1.state.runtimes.get? accountId = some rt) :
    Quiet rt := by
  rcases start_cases cfg clock accounts w with ⟨e, herr⟩ | ⟨validated, st, published, -, hst, -, hruns⟩
  · rw [herr] at hok
    cases hok
  · rcases hruns.post () hok with ⟨hzero, hsteps⟩ | hquiet
    · have hknown := keeps_of_steps (fun _ _ hstep hw => Known.admin (fun _ _ => trivial) hstep hw)
        hsteps (h.rebuilt hzero hst)
      exact (hknown.accounts accountId rt hrt).quiet
    · exact hquiet accountId rt hrt

end

/-! ## Capacity can be reclaimed -/

namespace AccountRuntime

end AccountRuntime

/-! ## Publications and calls -/

section

variable {cfg : RuntimeConfig}

/-- A publication that restores only quiet entries keeps what is in flight known. -/
theorem Known.publication {granted issued : List (AccountId × String)} {w : World}
    {clock : AccountId → Nat} {accounts : List ProviderAccount} (hkeyed : Keyed w.state)
    (h : Known cfg granted issued (fun accountId => ∃ a ∈ accounts, a.accountId = accountId) w) :
    Known cfg granted issued (fun _ => False) (applyPublication cfg clock accounts w).1 := by
  cases hplan : planPublication cfg w.state accounts with
  | error e =>
    simp only [applyPublication, hplan]
    exact ⟨h.accounts, fun _ hfalse => hfalse.elim⟩
  | ok plan =>
    obtain ⟨hvalid, -, -, hleft⟩ := planPublication_eq_ok hplan
    -- an account left out is configured, so it is not restored
    have hinit : Known cfg granted issued
        (fun accountId => ∃ a ∈ plan.accounts ++ plan.left, a.accountId = accountId) w := by
      refine ⟨h.accounts, ?_⟩
      rintro accountId ⟨a, hmem, rfl⟩ hnone
      rcases List.mem_append.mp hmem with hpublished | homitted
      · obtain ⟨a₀, ha₀, hvalid₀⟩ := exists_of_mem_mapM hvalid hpublished
        exact h.dormant _ ⟨a₀, ha₀, (accountId_of_validate hvalid₀).symm⟩ hnone
      · obtain ⟨rt, hrt⟩ := configured_of_omitted hkeyed hleft homitted
        rw [hrt] at hnone
        cases hnone
    have hend := (runs_applyPublication clock hplan).keeps
      (fun _ _ hstep hw => Known.admin (fun a hmem => ⟨a, hmem, rfl⟩) hstep hw) hinit
    exact ⟨hend.accounts, fun _ hfalse => hfalse.elim⟩

/-- A call keeps what is in flight known. -/
theorem Known.call {granted issued : List (AccountId × String)} {w : World}
    (h : Known cfg granted issued (fun _ => False) w) (accountId : AccountId) (c : AccountCall) :
    Known cfg (Service.grants accountId (w.journaled cfg accountId c) ++ granted)
      (Service.issues accountId (w.journaled cfg accountId c) ++ issued) (fun _ => False)
      (w.accountCall cfg accountId c).1 := by
  have hmono : Known cfg (Service.grants accountId (w.journaled cfg accountId c) ++ granted)
      (Service.issues accountId (w.journaled cfg accountId c) ++ issued) (fun _ => False) w :=
    ⟨fun other rt hrt => (h.accounts other rt hrt).mono (List.subset_append_right _ _)
      (List.subset_append_right _ _), h.dormant⟩
  cases hrt : w.state.runtimes.get? accountId with
  | none =>
    have hsame : (w.accountCall cfg accountId c).1 = w := by simp only [accountCall, hrt]
    rw [hsame]
    exact hmono
  | some rt =>
    rcases accountCall_cases cfg hrt c with
      ⟨rt', hidle, -, hw, -⟩ | ⟨body, mid, -, hjournaled, hidle, -, -, hw⟩
    · rw [hw]
      exact hmono.setRuntime ((hmono.accounts accountId rt hrt).idle hidle)
    · have htaken := ((h.accounts accountId rt hrt).idle hidle).take body
        (w.nextRecord cfg body).receipt
      rw [hjournaled] at hmono ⊢
      have heffected := hmono.setRuntime htaken
      rcases hw with hw | ⟨-, hw⟩
      · rw [hw]
        exact ⟨heffected.accounts, heffected.dormant⟩
      · rw [hw]
        exact ⟨heffected.accounts, heffected.dormant⟩

end

/-! ## Runs -/

namespace Service

variable {cfg : RuntimeConfig} {C : Service → ServiceEvent → Prop} {s : Service}

/-- A publication brings back no account whose checkpoint entry has something in flight. -/
def RestoresQuiet (cfg : RuntimeConfig) (s : Service) : ServiceEvent → Prop
  | .publish _ accounts => ∀ account ∈ accounts,
      s.world.state.runtimes.get? account.accountId = none →
      ∀ entry, s.world.state.dormantAccountStates.get? account.accountId = some entry →
        QuietEntry cfg entry
  | _ => True

/-- What holds of the world whatever the events. -/
structure Sound (cfg : RuntimeConfig) (w : World) : Prop where
  keyed : Keyed w.state
  unwritten : Unwritten cfg w

theorem Sound.step {published : List ProviderAccount} {guard : RecordGuard} {w w' : World}
    (hstep : Step cfg published guard w w') (h : Sound cfg w) : Sound cfg w' :=
  ⟨h.keyed.step hstep, h.unwritten.step hstep⟩

theorem Sound.admin {published : List ProviderAccount} {w w' : World}
    (hstep : Admin cfg published w w') (h : Sound cfg w) : Sound cfg w' :=
  Sound.step (Step.admin hstep : Step cfg published Recovers w w') h

theorem Sound.under {w : World} (h : Sound cfg w) (env : ServiceEnv) : Sound cfg (w.under env) :=
  ⟨h.keyed, fun hzero =>
    let ⟨hrecords, hdocument, hknown⟩ := h.unwritten hzero
    ⟨hrecords, hdocument, ⟨hknown.accounts, hknown.dormant⟩⟩⟩

theorem Sound.publication {w : World} (h : Sound cfg w) (clock : AccountId → Nat)
    (accounts : List ProviderAccount) : Sound cfg (applyPublication cfg clock accounts w).1 := by
  cases hplan : planPublication cfg w.state accounts with
  | error e =>
    simp only [applyPublication, hplan]
    exact h
  | ok plan =>
    exact (runs_applyPublication clock hplan).keeps (fun _ _ hstep hw => Sound.admin hstep hw) h

theorem Sound.start {w : World} (h : Sound cfg w) (clock : StartClock)
    (accounts : List ProviderAccount) : Sound cfg (World.start cfg clock accounts w).1 := by
  refine ⟨?_, h.unwritten.start clock accounts⟩
  rcases start_cases cfg clock accounts w with ⟨e, herr⟩ | ⟨validated, st, published, -, hst, -, hruns⟩
  · rw [herr]
    exact h.keyed
  · exact hruns.keeps (P := fun w => Keyed w.state) (fun _ _ hstep hw => Keyed.step hstep hw)
      (Keyed.rebuilt hst)

theorem Reachable.sound (h : Reachable cfg C s) : Sound cfg s.world := by
  induction h with
  | created =>
    refine ⟨fun _ _ hrt => (by cases hrt), fun _ => ⟨rfl, fun _ hdoc => (by cases hdoc), ?_⟩⟩
    exact ⟨fun _ _ hrt => (by cases hrt), fun _ _ _ _ hentry => (by cases hentry)⟩
  | @step s _ env e _ ih =>
    have hunder := ih.under env
    cases e with
    | call accountId c =>
      simp only [Service.step]
      split
      · have hsteps : Relation.ReflTransGen (Step cfg [] (Guarded cfg)) (s.world.under env)
            ((s.world.under env).accountCall cfg accountId c).1 :=
          runs_accountCall accountId c fun _ _ _ _ _ hguarded => hguarded
        exact keeps_of_steps (fun _ _ hstep hw => Sound.step hstep hw) hsteps hunder
      · exact ih
    | publish clock accounts =>
      simp only [Service.step]
      split
      · exact hunder.publication clock accounts
      · exact ih
    | checkpoint =>
      simp only [Service.step]
      split
      · have hruns : Runs (Admin cfg []) (s.world.under env) (s.world.under env).checkpoint _ :=
          runs_checkpoint _
        exact hruns.keeps (fun _ _ hstep hw => Sound.admin hstep hw) hunder
      · exact ih
    | restart clock accounts =>
      have hstart := hunder.start clock accounts
      simp only [Service.step]
      split
      · next heq => rw [heq] at hstart; exact hstart
      · next heq => rw [heq] at hstart; exact hstart

/-- What is in flight over a process that is up is its own. -/
theorem Reachable.known (h : Reachable cfg (RestoresQuiet cfg) s) (hup : s.up = true) :
    Known cfg s.granted s.issued (fun _ => False) s.world := by
  induction h with
  | created => cases hup
  | @step s hreach env e he ih =>
    have hsound := hreach.sound
    cases e with
    | call accountId c =>
      simp only [Service.step] at hup ⊢
      split at hup
      · next hwas =>
        rw [if_pos hwas]
        have hunder : Known cfg s.granted s.issued (fun _ => False) (s.world.under env) :=
          ⟨(ih hwas).accounts, (ih hwas).dormant⟩
        exact hunder.call accountId c
      · next hwas => exact absurd hup hwas
    | publish clock accounts =>
      simp only [Service.step] at hup ⊢
      split at hup
      · next hwas =>
        rw [if_pos hwas]
        refine Known.publication (hsound.under env).keyed ⟨(ih hwas).accounts, ?_⟩
        rintro accountId ⟨account, hmem, rfl⟩ hnone entry hentry
        exact he account hmem hnone entry hentry
      · next hwas => exact absurd hup hwas
    | checkpoint =>
      simp only [Service.step] at hup ⊢
      split at hup
      · next hwas =>
        rw [if_pos hwas]
        have hruns : Runs (Admin cfg []) (s.world.under env) (s.world.under env).checkpoint _ :=
          runs_checkpoint _
        exact hruns.keeps (fun _ _ hstep hw => Known.admin (fun _ hmem => by cases hmem) hstep hw)
          ⟨(ih hwas).accounts, (ih hwas).dormant⟩
      · next hwas => exact absurd hup hwas
    | restart clock accounts =>
      have hquiet := @start_quiet cfg _ (hsound.under env).unwritten clock accounts
      simp only [Service.step] at hup ⊢
      split at hup
      · next w heq =>
        rw [heq] at hquiet
        exact ⟨fun accountId rt hrt => KnownAccount.of_quiet (hquiet rfl hrt),
          fun _ hfalse => hfalse.elim⟩
      · cases hup

end Service

end LlmMaxxing
