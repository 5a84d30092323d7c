import LlmMaxxing.Core.Validated
import LlmMaxxing.Gateway.RuntimeLaws

/-!
# What a restart leaves

Recovery journals every active attempt as uncertain, closes a recovery probe in flight and reopens
every half-open circuit; on an account it has gone through, no attempt is active and no circuit
waits for a probe (`Quiet`). The contracts below say so, and that one account's recovery leaves
the others alone.
-/

namespace LlmMaxxing

open Check AccountRuntime Snapshot Fallible

namespace AccountRuntime

/-- A replacement is seen in its scope only. -/
theorem scopedCircuit_replaceCircuit (rt : AccountRuntime)
    (scope scope' : Option DeploymentGenerationId) (previous value : CircuitValue) :
    (rt.replaceCircuit scope previous value).scopedCircuit scope' =
      if scope' = scope then value else rt.scopedCircuit scope' := by
  cases scope with
  | none => cases scope' <;> rfl
  | some generation =>
    cases scope' with
    | none => rfl
    | some generation' =>
      simp only [replaceCircuit, scopedCircuit, circuitValue, Dict.get?_insert, Option.some.injEq]
      split <;> rfl

theorem replaceCircuit_attempts (rt : AccountRuntime) (scope : Option DeploymentGenerationId)
    (previous value : CircuitValue) :
    (rt.replaceCircuit scope previous value).attempts = rt.attempts := by
  cases scope <;> rfl

end AccountRuntime

namespace World

variable {cfg : RuntimeConfig} {published : List ProviderAccount} {w : World}

/-! ## Frames -/

/-- Accounts other than `accountId`, and dormant entries, are as they were. -/
def Untouched (accountId : AccountId) (w w' : World) : Prop :=
  (∀ other, other ≠ accountId →
    w'.state.runtimes.get? other = w.state.runtimes.get? other) ∧
    w'.state.dormantAccountStates = w.state.dormantAccountStates

theorem Untouched.refl (accountId : AccountId) (w : World) : Untouched accountId w w :=
  ⟨fun _ _ => rfl, rfl⟩

theorem Untouched.trans {accountId : AccountId} {w₁ w₂ w₃ : World}
    (h₁ : Untouched accountId w₁ w₂) (h₂ : Untouched accountId w₂ w₃) :
    Untouched accountId w₁ w₃ :=
  ⟨fun other hne => (h₂.1 other hne).trans (h₁.1 other hne), h₂.2.trans h₁.2⟩

theorem Untouched.setRuntime (w w' : World) (accountId : AccountId) (rt : AccountRuntime)
    (h : w'.state = w.state) : Untouched accountId w (w'.setRuntime accountId rt) := by
  refine ⟨fun other hne => ?_, ?_⟩
  · show (w'.state.runtimes.insert accountId rt).get? other = _
    rw [Dict.get?_insert_of_ne _ _ hne, h]
  · show w'.state.dormantAccountStates = _
    rw [h]

@[simp] theorem setRuntime_get? (w : World) (accountId : AccountId) (rt : AccountRuntime) :
    (w.setRuntime accountId rt).state.runtimes.get? accountId = some rt :=
  Dict.get?_insert_self _ _ _

/-! ## Attempts -/

theorem runs_commit {accountId : AccountId} {rt : AccountRuntime} {body : RecordBody}
    {effect : AccountRuntime → AccountRuntime}
    (hrt : w.state.runtimes.get? accountId = some rt) (hguard : Recovers rt rt body)
    (heffect : ∀ receipt, effect rt = rt.take receipt body) :
    Runs (Step cfg published Recovers) w (commit cfg accountId body effect w) fun _ w' =>
      w'.state.runtimes.get? accountId = some (effect rt) ∧ Untouched accountId w w' := by
  simp only [commit, hrt]
  rcases append_cases cfg w body with ⟨e, herr⟩ | ⟨hpayload, hok⟩
  · rw [herr]; exact Runs.failed
  · rw [hok]
    have hstep : Step cfg published Recovers w ((w.written cfg body).setRuntime accountId
        (rt.take (w.nextRecord cfg body).receipt body)) :=
      Step.effect hrt (Idle.refl rt) hguard hpayload
    rw [← heffect] at hstep
    exact Runs.after (.single hstep)
      (Runs.done ⟨setRuntime_get? _ _ _, Untouched.setRuntime w (w.written cfg body) _ _ rfl⟩)

/-- The account with some of its attempts uncertain. -/
def markUncertain (rt : AccountRuntime) (ids : List String) : AccountRuntime :=
  { rt with
    attempts := rt.attempts.mapValues fun id a =>
      if id ∈ ids then { a with state := .uncertain } else a }

theorem markUncertain_nil (rt : AccountRuntime) : markUncertain rt [] = rt := by
  have hsame : (rt.attempts.mapValues fun _ a => a) = rt.attempts := by
    cases rt.attempts
    simp [Dict.mapValues]
  simp only [markUncertain, List.not_mem_nil, if_false, hsame]

theorem markUncertain_append (rt : AccountRuntime) (ids : List String) (id : String) :
    { markUncertain rt ids with
      attempts := (markUncertain rt ids).attempts.modify id fun a =>
        { a with state := .uncertain } } = markUncertain rt (ids ++ [id]) := by
  have hsame : ((markUncertain rt ids).attempts.modify id fun a => { a with state := .uncertain }) =
      (markUncertain rt (ids ++ [id])).attempts := by
    simp only [markUncertain, Dict.modify, Dict.mapValues, Dict.mk.injEq, List.map_map]
    refine List.map_congr_left fun q _ => ?_
    obtain ⟨k, a⟩ := q
    by_cases hid : k = id
    · subst hid
      by_cases hk : k ∈ ids <;> simp [hk]
    · by_cases hk : k ∈ ids <;> simp [hk, hid]
  rw [hsame]
  rfl

/-- No attempt is active and no circuit waits for a probe. -/
structure Quiet (rt : AccountRuntime) : Prop where
  attempts : ∀ id a, rt.attempts.get? id = some a → a.state = .uncertain
  circuits : ∀ scope, (rt.scopedCircuit scope).state ≠ .halfOpen

/-- The attempts that are active when recovery begins. -/
def activeIds (rt : AccountRuntime) : List String :=
  (rt.attempts.entries.filter fun q => q.2.state == .active).map Prod.fst

theorem markUncertain_activeIds (rt : AccountRuntime) {id : String} {a : Attempt}
    (h : (markUncertain rt (activeIds rt)).attempts.get? id = some a) : a.state = .uncertain := by
  simp only [markUncertain, Dict.get?_mapValues, Option.map_eq_some_iff] at h
  obtain ⟨a₀, ha₀, rfl⟩ := h
  cases hstate : a₀.state with
  | uncertain => split <;> simp [hstate]
  | active =>
    have hmem : id ∈ activeIds rt := by
      rw [activeIds, List.mem_map]
      exact ⟨(id, a₀), List.mem_filter.mpr ⟨Dict.mem_entries_iff.mpr ha₀, by simp [hstate]⟩, rfl⟩
    rw [if_pos hmem]

/-- The attempts of an account, one record each. -/
theorem runs_markUncertain {accountId : AccountId} {rt : AccountRuntime}
    (hrt : w.state.runtimes.get? accountId = some rt) :
    Runs (Step cfg published Recovers) w
      (Fallible.forEach
        (fun attemptId => commit cfg accountId (.attemptUncertain attemptId .crashRecovery)
          fun rt => { rt with
            attempts := rt.attempts.modify attemptId fun a => { a with state := .uncertain } })
        (activeIds rt) w)
      fun _ w' => w'.state.runtimes.get? accountId = some (markUncertain rt (activeIds rt)) ∧
        Untouched accountId w w' := by
  refine Runs.forEach (I := fun before w' => w'.state.runtimes.get? accountId =
    some (markUncertain rt before) ∧ Untouched accountId w w') ?_ ?_
  · rintro before id rest hids w' ⟨hw', huntouched⟩
    -- the attempt is still in the table: marking keeps the keys
    have hheld : Recovers (markUncertain rt before) (markUncertain rt before)
        (.attemptUncertain id .crashRecovery) := by
      have hmem : id ∈ activeIds rt := by rw [hids]; simp
      obtain ⟨q, hq, rfl⟩ := List.mem_map.mp hmem
      have hget := Dict.mem_entries_iff.mp (List.mem_filter.mp hq).1
      exact ⟨rfl, _, by rw [markUncertain, Dict.get?_mapValues, hget]; rfl⟩
    refine (runs_commit hw' hheld fun _ => rfl).weaken fun _ w'' hw'' => ?_
    rw [markUncertain_append] at hw''
    exact ⟨hw''.1, huntouched.trans hw''.2⟩
  · rw [markUncertain_nil]
    exact ⟨hrt, Untouched.refl accountId w⟩

/-! ## Circuits -/

/-- A half-open circuit is replaced by the open value recovery builds for it. -/
theorem runs_reopen {accountId : AccountId} {rt : AccountRuntime} (clock : Nat)
    (scope : Option DeploymentGenerationId)
    (hrt : w.state.runtimes.get? accountId = some rt) :
    Runs (Step cfg published Recovers) w (reopen cfg clock accountId scope w) fun _ w' =>
      ∃ mid value, Idle rt mid ∧ value.state = .opened ∧
        value.epoch = (rt.scopedCircuit scope).epoch + 1 ∧
        w'.state.runtimes.get? accountId =
          some (mid.replaceCircuit scope (mid.scopedCircuit scope) value) ∧
        Untouched accountId w w' := by
  have htick : Step cfg published Recovers w (w.setRuntime accountId (rt.tick clock)) :=
    Step.admin (.idle hrt (idle_tick rt clock))
  simp only [reopen, hrt]
  cases hvalue : (reopened ((rt.tick clock).scopedCircuit scope)
      (rt.tick clock).timeHighWaterMs).construct with
  | error e => exact Runs.after (.single htick) Runs.failed
  | ok value =>
    have hfields := CircuitFields.construct_eq_ok_iff.mp hvalue
    have hepoch : value.epoch = ((rt.tick clock).scopedCircuit scope).epoch + 1 := by rw [hfields]; rfl
    have hrt₁ := setRuntime_get? w accountId (rt.tick clock)
    -- the value read is the current one and the epoch goes up, so the swap asks
    have hasks : (rt.tick clock).asks cfg (.swapCircuit scope ((rt.tick clock).scopedCircuit scope)
        value) = some (.circuitUpdated (rt.tick clock).account.accountId scope value) := by
      have hne : value ≠ (rt.tick clock).scopedCircuit scope := by
        intro heq
        rw [heq] at hepoch
        omega
      simp only [asks, true_and]
      rw [if_pos ⟨by omega, hne⟩]
    refine Runs.after (.single htick)
      ⟨runs_accountCall accountId _ fun rt' mid body hrt' hbody _ => ?_, fun _ hok => ?_⟩
    · rw [hrt₁] at hrt'
      cases hrt'
      rw [hasks] at hbody
      cases hbody
      exact ⟨rfl, by rw [hfields]; rfl, hepoch⟩
    rcases accountCall_cases cfg hrt₁ (.swapCircuit scope
        ((rt.tick clock).scopedCircuit scope) value) with
      ⟨rt', -, -, -, hnone | ⟨e, he⟩⟩ | ⟨body, mid, hbody, -, hidle, -, -, hw⟩
    · rw [hasks] at hnone; cases hnone
    · rw [show w.setRuntime accountId (rt.tick clock) =
        { w with state := w.state.setRuntime accountId (rt.tick clock) } from rfl] at he
      rw [he] at hok
      cases hok
    · rw [hasks] at hbody
      cases hbody
      refine ⟨mid, value, (idle_tick rt clock).trans hidle, by rw [hfields]; rfl, hepoch, ?_, ?_⟩
      · rcases hw with hw | ⟨-, hw⟩ <;> exact hw ▸ setRuntime_get? _ _ _
      · have huntouched : Untouched accountId w ((w.setRuntime accountId (rt.tick clock)).effected cfg
            accountId mid (.circuitUpdated (rt.tick clock).account.accountId scope value)) :=
          (Untouched.setRuntime w w accountId (rt.tick clock) rfl).trans
            (Untouched.setRuntime _ (World.written cfg _ _) accountId _ rfl)
        rcases hw with hw | ⟨-, hw⟩ <;> exact hw ▸ huntouched

theorem mem_halfOpenScopes {rt : AccountRuntime} {scope : Option DeploymentGenerationId} :
    scope ∈ halfOpenScopes rt ↔ (rt.scopedCircuit scope).state = .halfOpen := by
  cases scope with
  | none =>
    rw [halfOpenScopes, List.mem_append]
    constructor
    · rintro (h | h)
      · split at h
        · next hstate => exact hstate
        · cases h
      · obtain ⟨q, -, hq⟩ := List.mem_map.mp h
        cases hq
    · intro h
      have h : rt.accountCircuit.state = .halfOpen := h
      exact .inl (by rw [if_pos h]; exact List.mem_singleton_self _)
  | some generation =>
    have hfirst : some generation ∉
        (if rt.accountCircuit.state = .halfOpen then [none] else []) := by
      split <;> simp
    rw [halfOpenScopes, List.mem_append, or_iff_right hfirst, List.mem_map]
    simp only [scopedCircuit, circuitValue]
    constructor
    · rintro ⟨q, hq, hgeneration⟩
      cases hgeneration
      rw [List.mem_filter, beq_iff_eq] at hq
      rw [Dict.mem_entries_iff.mp hq.1]
      exact hq.2
    · intro h
      cases hget : rt.circuits.get? generation with
      | none => rw [hget] at h; cases h
      | some v =>
        rw [hget] at h
        exact ⟨(generation, v), List.mem_filter.mpr
          ⟨Dict.mem_entries_iff.mpr hget, by simpa using h⟩, rfl⟩

/-- The half-open circuits of an account, one swap each. -/
theorem runs_reopenAll {accountId : AccountId} {rt : AccountRuntime}
    (clock : Option DeploymentGenerationId → Nat)
    (hrt : w.state.runtimes.get? accountId = some rt) (scopes : List (Option DeploymentGenerationId)) :
    Runs (Step cfg published Recovers) w
      (Fallible.forEach (fun scope => reopen cfg (clock scope) accountId scope) scopes w)
      fun _ w' => ∃ rt', w'.state.runtimes.get? accountId = some rt' ∧
        rt'.attempts = rt.attempts ∧
        (∀ scope, scope ∈ scopes → (rt'.scopedCircuit scope).state = .opened) ∧
        (∀ scope, scope ∉ scopes → rt'.scopedCircuit scope = rt.scopedCircuit scope) ∧
        Untouched accountId w w' := by
  refine Runs.forEach (I := fun before w' => ∃ rt', w'.state.runtimes.get? accountId = some rt' ∧
    rt'.attempts = rt.attempts ∧
    (∀ scope, scope ∈ before → (rt'.scopedCircuit scope).state = .opened) ∧
    (∀ scope, scope ∉ before → rt'.scopedCircuit scope = rt.scopedCircuit scope) ∧
    Untouched accountId w w') ?_ ?_
  · rintro before scope rest - w' ⟨rt', hw', hattempts, hopened, hothers, huntouched⟩
    refine (runs_reopen (clock scope) scope hw').weaken ?_
    rintro - w'' ⟨mid, value, hidle, hstate, -, hw'', huntouched'⟩
    have hmid : ∀ scope', mid.scopedCircuit scope' = rt'.scopedCircuit scope' := by
      intro scope'
      cases scope' with
      | none => exact hidle.accountCircuit
      | some generation => simp only [scopedCircuit, circuitValue, hidle.circuits]
    refine ⟨_, hw'', ?_, fun scope' hmem => ?_, fun scope' hmem => ?_,
      huntouched.trans huntouched'⟩
    · rw [replaceCircuit_attempts, hidle.attempts, hattempts]
    · rw [scopedCircuit_replaceCircuit]
      split
      · exact hstate
      · next hne =>
        rw [hmid]
        exact hopened scope' ((List.mem_append.mp hmem).resolve_right (by simpa using hne))
    · rw [List.mem_append, not_or, List.mem_singleton] at hmem
      rw [scopedCircuit_replaceCircuit, if_neg hmem.2, hmid]
      exact hothers scope' hmem.1
  · exact ⟨rt, hrt, rfl, fun _ h => (by cases h), fun _ _ => rfl, Untouched.refl accountId w⟩

/-! ## Whole recoveries -/

/-- The end of an inconclusive probe changes only that no probe is in flight. -/
theorem endRecoveryProbe_inconclusive (rt : AccountRuntime) :
    rt.endRecoveryProbe .inconclusive = { rt with recoveryProbeId := none } := by
  rfl

/-- **A recovered account is quiet.** -/
theorem runs_recoverAccount (clock : Option DeploymentGenerationId → Nat) (accountId : AccountId)
    (w : World) :
    Runs (Step cfg published Recovers) w (recoverAccount cfg clock accountId w) fun _ w' =>
      (∀ rt, w'.state.runtimes.get? accountId = some rt → Quiet rt) ∧
        Untouched accountId w w' ∧
        (w.state.runtimes.get? accountId = none → w'.state.runtimes.get? accountId = none) := by
  unfold recoverAccount
  cases hrt : w.state.runtimes.get? accountId with
  | none =>
    refine Runs.done ⟨fun rt h => ?_, Untouched.refl accountId w, fun _ => hrt⟩
    rw [hrt] at h
    cases h
  | some rt =>
    simp only
    refine Runs.andThen (runs_markUncertain hrt) ?_
    rintro - w₁ ⟨hw₁, huntouched₁⟩
    -- the probe in flight, if there is one, is closed; the attempts and circuits stay
    refine Runs.andThen (Q := fun _ w₂ => ∃ rt₂, w₂.state.runtimes.get? accountId = some rt₂ ∧
      rt₂.attempts = (markUncertain rt (activeIds rt)).attempts ∧
      (∀ scope, rt₂.scopedCircuit scope = rt.scopedCircuit scope) ∧
      Untouched accountId w w₂) ?_ ?_
    · cases hprobe : rt.recoveryProbeId with
      | none =>
        exact Runs.done ⟨_, hw₁, rfl, fun scope => by cases scope <;> rfl, huntouched₁⟩
      | some probeId =>
        refine (runs_commit hw₁ ?_ fun _ => rfl).weaken fun _ w₂ hw₂ => ?_
        · exact ⟨rfl, rfl, hprobe, rfl⟩
        · rw [endRecoveryProbe_inconclusive] at hw₂
          exact ⟨_, hw₂.1, rfl, fun scope => by cases scope <;> rfl, huntouched₁.trans hw₂.2⟩
    · rintro - w₂ ⟨rt₂, hrt₂, hattempts, hcircuits, huntouched₂⟩
      refine (runs_reopenAll clock hrt₂ (halfOpenScopes rt)).weaken ?_
      rintro - w₃ ⟨rt₃, hrt₃, hattempts₃, hopened, hothers, huntouched₃⟩
      refine ⟨fun rt' hrt' => ?_, huntouched₂.trans huntouched₃, fun h => by cases h⟩
      rw [hrt₃] at hrt'
      cases hrt'
      refine ⟨fun id a ha => ?_, fun scope hhalf => ?_⟩
      · rw [hattempts₃, hattempts] at ha
        exact markUncertain_activeIds rt ha
      · by_cases hmem : scope ∈ halfOpenScopes rt
        · rw [hopened scope hmem] at hhalf
          cases hhalf
        · rw [hothers scope hmem, hcircuits scope] at hhalf
          exact hmem (mem_halfOpenScopes.mpr hhalf)

/-- **Recovery leaves every account quiet**, unless the journal was empty. -/
theorem runs_markRecovered (clock : AccountId → Option DeploymentGenerationId → Nat)
    (lastSequence : Nat) (w : World) :
    Runs (Step cfg published Recovers) w (markRecovered cfg clock lastSequence w) fun _ w' =>
      lastSequence = 0 ∧ w' = w ∨
        ∀ accountId rt, w'.state.runtimes.get? accountId = some rt → Quiet rt := by
  unfold markRecovered
  split
  · next hzero => exact Runs.done (.inl ⟨hzero, rfl⟩)
  · refine Runs.andThen (Q := fun _ w' => ∀ accountId rt,
      w'.state.runtimes.get? accountId = some rt → Quiet rt) ?_ ?_
    · refine (Runs.forEach (I := fun before w' =>
        (∀ accountId ∈ before, ∀ rt, w'.state.runtimes.get? accountId = some rt → Quiet rt) ∧
        ∀ accountId, w.state.runtimes.get? accountId = none →
          w'.state.runtimes.get? accountId = none) ?_ ?_).weaken ?_
      · rintro before accountId rest - w' ⟨hquiet, hnone⟩
        refine (runs_recoverAccount (clock accountId) accountId w').weaken ?_
        rintro - w'' ⟨hrecovered, huntouched, hnone'⟩
        refine ⟨fun other hmem rt hrt => ?_, fun other hother => ?_⟩
        · by_cases heq : other = accountId
          · subst heq
            exact hrecovered rt hrt
          · rw [huntouched.1 other heq] at hrt
            exact hquiet other ((List.mem_append.mp hmem).resolve_right (by simpa using heq)) rt hrt
        · by_cases heq : other = accountId
          · subst heq
            exact hnone' (hnone other hother)
          · rw [huntouched.1 other heq]
            exact hnone other hother
      · exact ⟨fun _ h => (by cases h), fun _ h => h⟩
      · rintro - w' ⟨hquiet, hnone⟩ accountId rt hrt
        refine hquiet accountId ?_ rt hrt
        rw [Dict.mem_keys_iff]
        by_contra habsent
        have hget : w.state.runtimes.get? accountId = none :=
          Option.eq_none_iff_forall_ne_some.mpr fun v hv => habsent ⟨v, hv⟩
        rw [hnone accountId hget] at hrt
        cases hrt
    · rintro - w' hw'
      refine ((runs_checkpoint_if _ w').mono fun _ _ => Step.admin).weaken fun _ w'' hw'' => ?_
      rw [hw'']
      exact .inr hw'

/-! ## Accounts under their own ids -/

/-- Every runtime stands under the id of its account. -/
def Keyed (st : RuntimeState) : Prop :=
  ∀ accountId rt, st.runtimes.get? accountId = some rt → rt.account.accountId = accountId

theorem Keyed.setRuntime {st : RuntimeState} (h : Keyed st) {accountId : AccountId}
    {rt : AccountRuntime} (hrt : rt.account.accountId = accountId) :
    Keyed (st.setRuntime accountId rt) := by
  intro other rt' hrt'
  simp only [RuntimeState.setRuntime, Dict.get?_insert] at hrt'
  split at hrt'
  · next heq =>
    cases hrt'
    rw [heq]
    exact hrt
  · exact h other rt' hrt'

theorem updateAccount_accountId {rt rt' : AccountRuntime} {clock : Nat} {account : ProviderAccount}
    (h : rt.updateAccount clock account = .ok rt') : rt'.account = account := by
  unfold updateAccount at h
  split at h
  · cases h
  · cases h
    rfl

/-- A restored account keeps its publication. -/
theorem restoreSnapshotState_account {base rt : AccountRuntime} {entry : Json}
    (h : base.restoreSnapshotState cfg entry = .ok rt) : rt.account = base.account := by
  unfold restoreSnapshotState at h
  simp only [bind_eq_ok_iff, pure_eq_ok, Except.ok.injEq] at h
  repeat obtain ⟨_, _, h⟩ := h
  rfl

/-- Every step keeps accounts under their ids. -/
theorem Keyed.step {guard : RecordGuard} {w' : World} (hstep : Step cfg published guard w w') (h : Keyed w.state) :
    Keyed w'.state := by
  cases hstep with
  | effect hrt hidle hguard hpayload =>
    refine h.setRuntime ?_
    rw [take_account, hidle.account]
    exact h _ _ hrt
  | admin hadmin =>
    cases hadmin with
    | idle hrt hidle =>
      refine h.setRuntime ?_
      rw [hidle.account]
      exact h _ _ hrt
    | registered => exact h
    | histories hruntimes => exact fun accountId rt hrt => h accountId rt (by rwa [hruntimes] at hrt)
    | updated _ _ hupdate => exact h.setRuntime (by rw [updateAccount_accountId hupdate])
    | built => exact h.setRuntime rfl
    | revived _ _ _ hrestore =>
      exact h.setRuntime (by rw [restoreSnapshotState_account hrestore]; rfl)
    | dropped => exact h
    | checkpointed => exact h

end World

/-! ## Replay -/

namespace AccountRuntime

/-- The account after the replay of a resolution that was not known. -/
def replayed (rt : AccountRuntime) (attemptId : String) (attempt : Attempt) (r : AttemptResolution)
    (digest : String) (receipt : JournalReceipt) (resolvedAtMs : Nat) : AccountRuntime :=
  { rt with
    starts := rt.resolveStart attemptId r
    monthlyUsed :=
      match r.actualQuotaUnits with
      | some actual => refund rt.monthlyUsed actual attempt.quotaUnits
      | none => rt.monthlyUsed
    attempts := rt.resolveAttempt attemptId r
    resolutions := rt.resolutions.insert attemptId
      ⟨digest, receipt, resolvedAtMs, attempt.dispatch attemptId⟩ }

theorem replayDispatch_cases {rt rt' : AccountRuntime} {attemptId : String} {dispatchedAtMs : Nat}
    {receipt : JournalReceipt}
    (h : rt.replayDispatch attemptId dispatchedAtMs receipt = .ok rt') :
    ∃ a, rt.attempts.get? attemptId = some a ∧
      (a.dispatchReceipt = some receipt ∧ a.dispatchedAtMs = some dispatchedAtMs ∧ rt' = rt ∨
        a.dispatchReceipt = none ∧
          rt' = rt.take receipt (.attemptDispatched attemptId dispatchedAtMs)) := by
  unfold replayDispatch at h
  cases ha : rt.attempts.get? attemptId with
  | none => simp only [ha] at h; cases h
  | some a =>
    simp only [ha] at h
    refine ⟨a, rfl, ?_⟩
    cases hreceipt : a.dispatchReceipt with
    | some known =>
      simp only [hreceipt] at h
      split at h
      · cases h
      · next hsame =>
        rw [not_or, not_not, not_not] at hsame
        cases h
        exact .inl ⟨by rw [hsame.2], hsame.1, rfl⟩
    | none =>
      simp only [hreceipt] at h
      cases h
      exact .inr ⟨rfl, rfl⟩

theorem replayResolve_cases {rt rt' : AccountRuntime} {attemptId : String} {r : AttemptResolution}
    {digest : String} {receipt : JournalReceipt} {resolvedAtMs : Nat}
    (h : rt.replayResolve attemptId r digest receipt resolvedAtMs = .ok rt') :
    (∃ resolved, rt.resolutions.get? attemptId = some resolved ∧ rt' = rt) ∨
      ∃ a, rt.Resolves attemptId a r ∧
        rt' = rt.replayed attemptId a r digest receipt resolvedAtMs := by
  unfold replayResolve at h
  cases hres : rt.resolutions.get? attemptId with
  | some resolved =>
    simp only [hres] at h
    split at h
    · cases h
    · cases h
      exact .inl ⟨resolved, rfl, rfl⟩
  | none =>
    cases ha : rt.attempts.get? attemptId with
    | none => simp only [hres, ha] at h; cases h
    | some a =>
      simp only [hres, ha] at h
      split at h
      · cases h
      · next htokens =>
        split at h
        · cases h
        · next hquota =>
          cases hstart : rt.starts.get? attemptId with
          | none => simp only [hstart] at h; cases h
          | some s =>
            simp only [hstart] at h
            cases h
            exact .inr ⟨a, ⟨hres, ha, not_lt.mp htokens, not_lt.mp hquota, s, hstart⟩, rfl⟩

/-- Replay of a record keeps the publication of the account. -/
theorem applyRecord_account {rt rt' : AccountRuntime} {record : JournalRecord}
    (h : rt.applyRecord record = .ok rt') : rt'.account = rt.account := by
  unfold AccountRuntime.applyRecord at h
  split at h
  · cases h; rfl
  · cases h
    simp only [replayReserve]
    split <;> rfl
  · obtain ⟨a, -, ⟨-, -, rfl⟩ | ⟨-, rfl⟩⟩ := replayDispatch_cases h
    · rfl
    · exact take_account _ _ _
  · obtain ⟨resolved, -, rfl⟩ | ⟨a, -, rfl⟩ := replayResolve_cases h <;> rfl
  · cases h; rfl
  · cases h; exact replaceCircuit_account _ _ _ _
  · simp only [recordActiveCount] at h
    split at h
    · cases h
    · cases h; rfl
  · cases h; rfl
  · cases h; exact endRecoveryProbe_account _ _

end AccountRuntime

namespace World

variable {cfg : RuntimeConfig}

open RuntimeState

/-- **What a replayed record can do**: a registration changes the histories, any other record one
account. -/
theorem applyRecord_cases {st st' : RuntimeState} {record : JournalRecord}
    (h : st.applyRecord record = .ok st') :
    IsRegistration record.body ∧ st'.runtimes = st.runtimes ∧
        st'.dormantAccountStates = st.dormantAccountStates ∨
      ¬ IsRegistration record.body ∧ ∃ accountId rt rt',
        st.recordAccountId record.body = .ok accountId ∧ st.runtimes.get? accountId = some rt ∧
        rt.applyRecord record = .ok rt' ∧ st' = st.setRuntime accountId rt' := by
  unfold RuntimeState.applyRecord at h
  cases hbody : record.body with
  | accountRegistered accountId binding attestation epoch state =>
    simp only [hbody, registerRecord, bind_eq_ok_iff, require_eq_ok_iff, exists_unit_and_iff,
      pure_eq_ok, Except.ok.injEq] at h
    obtain ⟨-, -, rfl⟩ := h
    exact .inl ⟨trivial, rfl, rfl⟩
  | _ =>
    simp only [hbody, bind_eq_ok_iff] at h
    obtain ⟨accountId, haccount, h⟩ := h
    cases hrt : st.runtimes.get? accountId with
    | none => simp only [hrt] at h; cases h
    | some rt =>
      simp only [hrt, bind_eq_ok_iff, pure_eq_ok, Except.ok.injEq] at h
      obtain ⟨rt', hrt', rfl⟩ := h
      exact .inr ⟨not_false, accountId, rt, rt', haccount, hrt, hrt', rfl⟩

/-- Restoring an entry of a checkpoint changes one account, or one dormant entry. -/
theorem restoreEntry_cases {st st' : RuntimeState} {entry : String × Json}
    (h : restoreEntry cfg st entry = .ok st') :
    ∃ accountId, readAccountId entry.1 = .ok accountId ∧
      (st.runtimes.get? accountId = none ∧
          st' = { st with dormantAccountStates :=
            st.dormantAccountStates.insert accountId entry.2 } ∨
        ∃ rt rt', st.runtimes.get? accountId = some rt ∧
          rt.restoreSnapshotState cfg entry.2 = .ok rt' ∧ st' = st.setRuntime accountId rt') := by
  simp only [restoreEntry, bind_eq_ok_iff] at h
  obtain ⟨accountId, hread, h⟩ := h
  refine ⟨accountId, hread, ?_⟩
  cases hrt : st.runtimes.get? accountId with
  | none =>
    simp only [hrt] at h
    cases h
    exact .inl ⟨rfl, rfl⟩
  | some rt =>
    simp only [hrt, bind_eq_ok_iff, pure_eq_ok, Except.ok.injEq] at h
    obtain ⟨rt', hrestore, rfl⟩ := h
    exact .inr ⟨rt, rt', rfl, hrestore, rfl⟩

/-- The entries of the accounts in a checkpoint. -/
def documentEntries (document : Json) : List (String × Json) :=
  match member document "accounts" with
  | .ok (.obj fields) => fields
  | _ => []

theorem restoreCheckpoint_cases {st st' : RuntimeState} {document : Json}
    (h : st.restoreCheckpoint cfg document = .ok st') :
    ∃ st₁, (documentEntries document).foldlM (restoreEntry cfg) st = .ok st₁ ∧
      st'.runtimes = st₁.runtimes ∧ st'.dormantAccountStates = st₁.dormantAccountStates := by
  simp only [restoreCheckpoint, bind_eq_ok_iff] at h
  obtain ⟨accounts, haccounts, entries, hitems, st₁, hfold, h⟩ := h
  have hentries : documentEntries document = entries := by
    cases accounts with
    | obj fields =>
      cases hitems
      simp only [documentEntries, haccounts]
    | _ => cases hitems
  rw [hentries]
  simp only [pure_eq_ok, Except.ok.injEq] at h
  repeat obtain ⟨_, _, h⟩ := h
  exact ⟨st₁, hfold, rfl, rfl⟩

/-- The entries of the newest checkpoint. -/
def checkpointEntries (journal : JournalState) : List (String × Json) :=
  match journal.checkpoint with
  | some document => documentEntries document
  | none => []

/-- **A rebuild in three parts**: the entries of the newest checkpoint, the histories, and the
records of the tail. -/
theorem rebuilt_cases {clock : AccountId → Nat} {accounts : List ProviderAccount}
    {journal : JournalState} {st : RuntimeState}
    (h : rebuilt cfg clock accounts journal = .ok st) :
    ∃ st₁ st₂, (checkpointEntries journal).foldlM (restoreEntry cfg) (configured clock accounts) =
        .ok st₁ ∧ st₂.runtimes = st₁.runtimes ∧
      st₂.dormantAccountStates = st₁.dormantAccountStates ∧
      journal.records.foldlM RuntimeState.applyRecord st₂ = .ok st := by
  unfold rebuilt at h
  cases hcheckpoint : journal.checkpoint with
  | none =>
    simp only [hcheckpoint, ok_bind] at h
    exact ⟨_, _, by rw [checkpointEntries, hcheckpoint]; rfl, rfl, rfl, h⟩
  | some document =>
    simp only [hcheckpoint, bind_eq_ok_iff] at h
    obtain ⟨st₂, hst₂, hfold⟩ := h
    obtain ⟨st₁, hfold₁, hruntimes, hdormant⟩ := restoreCheckpoint_cases hst₂
    exact ⟨st₁, st₂, by rw [checkpointEntries, hcheckpoint]; exact hfold₁, hruntimes, hdormant, hfold⟩

/-- **An invariant of the rebuilt state**: it holds of the configured accounts, and restoring an
entry of the newest checkpoint and replaying a record of the tail keep it. -/
theorem rebuilt_keeps {P : RuntimeState → Prop} {clock : AccountId → Nat}
    {accounts : List ProviderAccount} {journal : JournalState} {st : RuntimeState}
    (h : rebuilt cfg clock accounts journal = .ok st) (hinit : P (configured clock accounts))
    (hhistories : ∀ st st' : RuntimeState, st'.runtimes = st.runtimes →
      st'.dormantAccountStates = st.dormantAccountStates → P st → P st')
    (hentry : ∀ document, journal.checkpoint = some document →
      ∀ entry ∈ documentEntries document, ∀ st st',
        restoreEntry cfg st entry = .ok st' → P st → P st')
    (hrecord : ∀ record ∈ journal.records, ∀ st st',
      st.applyRecord record = .ok st' → P st → P st') : P st := by
  obtain ⟨st₁, st₂, hentries, hruntimes, hdormant, hrecords⟩ := rebuilt_cases h
  have hrestored : P st₁ := by
    refine foldlM_keeps (fun entry hmem => ?_) hentries hinit
    unfold checkpointEntries at hmem
    split at hmem
    · next document hdocument => exact hentry document hdocument entry hmem
    · cases hmem
  exact foldlM_keeps hrecord hrecords (hhistories st₁ st₂ hruntimes hdormant hrestored)

/-! ## Documents -/

theorem accountStates_get? (st : RuntimeState) (accountId : AccountId) :
    st.accountStates.get? accountId =
      ((st.runtimes.get? accountId).map snapshotState).or
        (st.dormantAccountStates.get? accountId) :=
  Dict.get?_foldl_insert snapshotState st.runtimes.nodup st.dormantAccountStates accountId

theorem documentEntries_snapshot (st : RuntimeState) :
    documentEntries st.snapshot =
      (sortOn (fun q => q.1.text) st.accountStates.entries).map fun q => (q.1.text, q.2) := by
  have hmember : member st.snapshot "accounts" =
      .ok (encTable TypedId.text id st.accountStates) := by
    simp [member, RuntimeState.snapshot, Dict.lookup]
  rw [documentEntries, hmember]
  rfl

/-- An account of a checkpoint was configured or dormant. -/
theorem mem_documentEntries_snapshot {st : RuntimeState} {entry : String × Json}
    (h : entry ∈ documentEntries st.snapshot) :
    ∃ accountId, entry.1 = accountId.text ∧ st.accountStates.get? accountId = some entry.2 := by
  rw [documentEntries_snapshot, List.mem_map] at h
  obtain ⟨q, hq, rfl⟩ := h
  exact ⟨q.1, rfl, Dict.mem_entries_iff.mp ((SortOn.perm _ _).mem_iff.mp hq)⟩

theorem get?_configured {clock : AccountId → Nat} {accounts : List ProviderAccount}
    {accountId : AccountId} {rt : AccountRuntime}
    (h : (configured clock accounts).runtimes.get? accountId = some rt) :
    ∃ account ∈ accounts, account.accountId = accountId ∧
      rt = AccountRuntime.fresh account (clock account.accountId) := by
  obtain ⟨account, hmem, heq⟩ := List.mem_map.mp (Dict.mem_of_get?_ofList h)
  cases heq
  exact ⟨account, hmem, rfl, rfl⟩

theorem Keyed.rebuilt {clock : AccountId → Nat} {accounts : List ProviderAccount}
    {journal : JournalState} {st : RuntimeState}
    (h : rebuilt cfg clock accounts journal = .ok st) : Keyed st := by
  refine rebuilt_keeps h (fun accountId rt hrt => ?_) (fun st st' hruntimes _ hst => ?_)
    (fun document _ entry _ st st' hentry hst => ?_) (fun record _ st st' hrecord hst => ?_)
  · obtain ⟨account, -, rfl, rfl⟩ := get?_configured hrt
    rfl
  · exact fun accountId rt hrt => hst accountId rt (by rwa [hruntimes] at hrt)
  · obtain ⟨accountId, -, ⟨-, rfl⟩ | ⟨rt, rt', hrt, hrestore, rfl⟩⟩ := restoreEntry_cases hentry
    · exact hst
    · exact hst.setRuntime (by rw [restoreSnapshotState_account hrestore]; exact hst _ _ hrt)
  · obtain ⟨-, hruntimes, -⟩ | ⟨-, accountId, rt, rt', -, hrt, happly, rfl⟩ :=
      applyRecord_cases hrecord
    · exact fun accountId rt hrt => hst accountId rt (by rwa [hruntimes] at hrt)
    · exact hst.setRuntime (by rw [applyRecord_account happly]; exact hst _ _ hrt)

/-! ## Starts -/

/-- Validation keeps the id of an account. -/
theorem accountId_of_validate {a account : ProviderAccount}
    (h : RuntimeState.model a.validate = .ok account) : account.accountId = a.accountId := by
  cases hvalid : a.validate with
  | error e => rw [hvalid] at h; cases h
  | ok a' =>
    rw [hvalid] at h
    cases h
    obtain ⟨-, -, -, -, rfl⟩ := ProviderAccount.validate_eq_ok_iff.mp hvalid
    rfl

/-- The accounts a publication leaves out are configured. -/
theorem configured_of_omitted {st : RuntimeState} (hkeyed : Keyed st) {selected : List AccountId}
    {left : List ProviderAccount} (h : RuntimeState.omitted st selected = .ok left)
    {account : ProviderAccount} (hmem : account ∈ left) :
    ∃ rt, st.runtimes.get? account.accountId = some rt := by
  obtain ⟨q, hq, hvalid⟩ := exists_of_mem_mapM h hmem
  have hget := Dict.mem_entries_iff.mp (List.mem_filter.mp hq).1
  refine ⟨q.2, ?_⟩
  rw [accountId_of_validate hvalid, ← hget]
  exact congrArg _ (hkeyed q.1 q.2 hget)

/-- Every account of a start has a runtime after the rebuild. -/
theorem rebuilt_configured {clock : AccountId → Nat} {accounts : List ProviderAccount}
    {journal : JournalState} {st : RuntimeState}
    (h : rebuilt cfg clock accounts journal = .ok st) {account : ProviderAccount}
    (hmem : account ∈ accounts) : ∃ rt, st.runtimes.get? account.accountId = some rt := by
  have hset : ∀ (st : RuntimeState) (accountId : AccountId) (rt : AccountRuntime),
      (∃ rt, st.runtimes.get? account.accountId = some rt) →
      ∃ rt', (st.setRuntime accountId rt).runtimes.get? account.accountId = some rt' := by
    rintro st accountId rt ⟨rt₀, hrt₀⟩
    simp only [RuntimeState.setRuntime, Dict.get?_insert]
    split
    · exact ⟨rt, rfl⟩
    · exact ⟨rt₀, hrt₀⟩
  refine rebuilt_keeps (P := fun st => ∃ rt, st.runtimes.get? account.accountId = some rt) h ?_
    (fun st st' hruntimes _ hst => by rwa [hruntimes])
    (fun document _ entry _ st st' hentry hst => ?_) (fun record _ st st' hrecord hst => ?_)
  · refine Dict.exists_get?_ofList ?_
    rw [List.map_map]
    exact List.mem_map.mpr ⟨account, hmem, rfl⟩
  · obtain ⟨accountId, -, ⟨-, rfl⟩ | ⟨rt, rt', -, -, rfl⟩⟩ := restoreEntry_cases hentry
    · exact hst
    · exact hset st accountId rt' hst
  · obtain ⟨-, hruntimes, -⟩ | ⟨-, accountId, rt, rt', -, -, -, rfl⟩ := applyRecord_cases hrecord
    · rwa [hruntimes]
    · exact hset st accountId rt' hst

/-- **What a start can do**: fail at once, or take steps from the rebuilt state, in which every
account it publishes is configured. When it succeeds, either the journal was empty and only a
publication was applied, or every account is quiet. -/
theorem start_cases (cfg : RuntimeConfig) (clock : StartClock) (accounts : List ProviderAccount)
    (w : World) :
    (∃ e, start cfg clock accounts w = (w, .error e)) ∨
      ∃ validated st published, accounts.mapM (fun a => model a.validate) = .ok validated ∧
        rebuilt cfg clock.built validated w.journal = .ok st ∧
        (∀ account ∈ published, ∃ rt, st.runtimes.get? account.accountId = some rt) ∧
        Runs (Step cfg published Recovers) { w with state := st } (start cfg clock accounts w) fun _ w' =>
          w.journal.lastSequence = 0 ∧
              Relation.ReflTransGen (Admin cfg published) { w with state := st } w' ∨
            ∀ accountId rt, w'.state.runtimes.get? accountId = some rt → Quiet rt := by
  unfold start
  cases hvalid : accounts.mapM (fun a => model a.validate) with
  | error e => exact .inl ⟨e, rfl⟩
  | ok validated =>
    cases hrebuilt : rebuilt cfg clock.built validated w.journal with
    | error e => exact .inl ⟨e, by simp only [hrebuilt]⟩
    | ok st =>
      simp only [hrebuilt]
      cases hplan : planPublication cfg st validated with
      | error e =>
        refine .inr ⟨validated, st, [], rfl, hrebuilt, fun _ hmem => (by cases hmem), ?_⟩
        simp only [applyPublication, hplan, andThen]
        exact Runs.failed
      | ok plan =>
        have hconfigured : ∀ account ∈ plan.accounts ++ plan.left,
            ∃ rt, st.runtimes.get? account.accountId = some rt := by
          obtain ⟨hplanned, -, -, hleft⟩ := planPublication_eq_ok hplan
          intro account hmem
          rcases List.mem_append.mp hmem with hmem | hmem
          · obtain ⟨a, ha, hvalid⟩ := exists_of_mem_mapM hplanned hmem
            rw [accountId_of_validate hvalid]
            exact rebuilt_configured hrebuilt ha
          · exact configured_of_omitted (Keyed.rebuilt hrebuilt) hleft hmem
        refine .inr ⟨validated, st, plan.accounts ++ plan.left, rfl, hrebuilt, hconfigured, ?_⟩
        have hpublish := runs_applyPublication (w := { w with state := st }) clock.published hplan
        refine Runs.andThen (Q := fun _ w' => Relation.ReflTransGen
          (Admin cfg (plan.accounts ++ plan.left)) { w with state := st } w')
          ⟨(hpublish.mono fun _ _ => Step.admin).steps, fun _ _ => hpublish.steps⟩
          fun _ w' hw' => ?_
        refine (runs_markRecovered clock.reopened w.journal.lastSequence w').weaken
          fun _ w'' hw'' => ?_
        rcases hw'' with ⟨hzero, rfl⟩ | hquiet
        · exact .inl ⟨hzero, hw'⟩
        · exact .inr hquiet

end World

end LlmMaxxing
