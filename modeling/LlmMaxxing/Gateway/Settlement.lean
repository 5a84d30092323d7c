import LlmMaxxing.Gateway.LedgerMirror
import LlmMaxxing.Gateway.Lease
import LlmMaxxing.Gateway.SampleRuntime

/-!
# Settling attempts (`AccountRuntime._finish`, `Lease.finish`, `DispatchLease.finish`)

An attempt is settled by the first resolution the journal takes. From then on its ledger row
answers: the same resolution gets the same receipt, any other one is refused, and neither changes
anything. The row outlives restarts. It is forgotten only when its attempt holds no capacity and
has been settled for `resolution_retention_ms`; after that every resolution is refused.
-/

namespace LlmMaxxing

open Check AccountRuntime Snapshot Fallible World

/-! ## Rows of the ledger -/

namespace AccountRuntime

variable {cfg : RuntimeConfig} {rt : AccountRuntime} {id : String} {e : ResolvedAttempt}

theorem swapCircuit_resolutions (reply : Except RuntimeFault JournalReceipt)
    (scope : Option DeploymentGenerationId) (expected replacement : CircuitValue) :
    (rt.call cfg reply (.swapCircuit scope expected replacement)).resolutions = rt.resolutions := by
  show (rt.compareAndSwap reply scope expected replacement).1.resolutions = _
  unfold compareAndSwap
  split
  · rfl
  · split
    · rfl
    · split
      · rfl
      · cases reply with
        | error e => rfl
        | ok receipt => cases scope <;> rfl

/-- A pruned row is old, and its attempt is not held. -/
theorem pruneResolutions_keeps (cfg : RuntimeConfig) (nowMs : Nat) (he : rt.resolutions.get? id = some e) :
    (rt.pruneResolutions cfg nowMs).resolutions.get? id = some e ∨
      rt.attempts.get? id = none ∧ e.resolvedAtMs + cfg.resolutionRetentionMs ≤ nowMs := by
  rw [pruneResolutions, Dict.get?_filter, he, Option.filter_some]
  by_cases hold : (e.resolvedAtMs : Int) ≤ (nowMs : Int) - cfg.resolutionRetentionMs
  · cases hheld : rt.attempts.contains id with
    | true => exact .inl (by simp)
    | false =>
      refine .inr ⟨Dict.contains_eq_false_iff.mp hheld, ?_⟩
      omega
  · exact .inl (by simp [hold])

/-- **A call forgets a row only if the row is old.** -/
theorem call_keeps_row (reply : Except RuntimeFault JournalReceipt) (c : AccountCall)
    (he : rt.resolutions.get? id = some e) :
    ((rt.call cfg reply c).resolutions.get? id).isSome = true ∨
      e.resolvedAtMs + cfg.resolutionRetentionMs ≤ (rt.call cfg reply c).timeHighWaterMs := by
  have hsame : ∀ rt' : AccountRuntime, rt'.resolutions = rt.resolutions →
      (rt'.resolutions.get? id).isSome = true := by
    intro rt' heq
    rw [heq, he]
    rfl
  cases c with
  | reserve status clock request =>
    have hpruned : (rt.pruned cfg clock).resolutions.get? id = some e ∨
        rt.attempts.get? id = none ∧
          e.resolvedAtMs + cfg.resolutionRetentionMs ≤ (rt.tick clock).timeHighWaterMs :=
      pruneResolutions_keeps cfg (rt.tick clock).timeHighWaterMs he
    have hprepared : ((rt.prepared cfg clock).resolutions.get? id).isSome = true ∨
        e.resolvedAtMs + cfg.resolutionRetentionMs ≤ (rt.prepared cfg clock).timeHighWaterMs := by
      rw [prepared_timeHighWaterMs]
      rcases hpruned with hrow | hold
      · refine .inl ?_
        simp only [prepared, rollMonthly_resolutions, purgeWindows]
        exact Option.isSome_iff_exists.mpr ⟨e, hrow⟩
      · exact .inr hold.2
    show ((rt.tryReserve cfg status clock reply request).1.resolutions.get? id).isSome = true ∨
      _ ≤ (rt.tryReserve cfg status clock reply request).1.timeHighWaterMs
    rcases tryReserve_cases cfg rt status clock reply request with
      ⟨rt', hrt', heq, -⟩ | ⟨-, receipt, -, heq⟩
    · rw [heq]
      rcases hrt' with rfl | rfl | rfl
      · exact .inl (hsame _ rfl)
      · exact hpruned.imp (fun hrow => Option.isSome_iff_exists.mpr ⟨e, hrow⟩) And.right
      · exact hprepared
    · rw [heq]
      exact hprepared
  | dispatch clock attemptId =>
    refine .inl (hsame _ ?_)
    show (rt.markDispatched clock reply attemptId).1.resolutions = _
    rcases markDispatched_cases rt clock reply attemptId with
      heq | heq | ⟨a, receipt, -, -, -, -, -, heq⟩ <;> rw [heq] <;> rfl
  | finish clock attemptId r =>
    show ((rt.finish cfg clock reply attemptId r).1.resolutions.get? id).isSome = true ∨ _
    refine .inl ?_
    rcases finish_cases cfg rt clock reply attemptId r with
      ⟨heq, -⟩ | ⟨heq, -⟩ | ⟨a, receipt, -, -, heq⟩
    · rw [heq]
      exact hsame _ rfl
    · rw [heq]
      exact hsame _ rfl
    · rw [heq]
      show ((rt.resolutions.insert attemptId _).get? id).isSome = true
      rw [Dict.get?_insert]
      split
      · rfl
      · exact hsame _ rfl
  | capacity clock => exact .inl (hsame _ (by simp [call, capacity, purgeWindows, tick]))
  | swapCircuit scope expected replacement => exact .inl (hsame _ (swapCircuit_resolutions _ _ _ _))
  | activeCount count =>
    refine .inl (hsame _ ?_)
    show (rt.applyAuthoritativeActiveCount reply count).1.resolutions = _
    unfold applyAuthoritativeActiveCount
    split
    · rfl
    · cases reply <;> rfl
  | beginProbe probeId =>
    refine .inl (hsame _ ?_)
    show (rt.beginRecoveryProbe reply probeId).1.resolutions = _
    unfold beginRecoveryProbe
    split
    · rfl
    · split
      · rfl
      · cases reply <;> rfl
  | finishProbe probeId classification =>
    refine .inl (hsame _ ?_)
    show (rt.finishRecoveryProbe reply probeId classification).1.resolutions = _
    unfold finishRecoveryProbe
    split
    · rfl
    · split
      · rfl
      · cases reply with
        | error e => rfl
        | ok receipt => exact endRecoveryProbe_resolutions rt classification

end AccountRuntime

/-! ## Ledgers that stay -/

namespace World

variable {cfg : RuntimeConfig} {w w' w'' : World}

/-- Every account keeps its ledger. -/
def LedgersStay (w w' : World) : Prop :=
  ∀ accountId rt, w.state.runtimes.get? accountId = some rt →
    ∃ rt', w'.state.runtimes.get? accountId = some rt' ∧ rt'.resolutions = rt.resolutions

theorem LedgersStay.of_runtimes (h : w'.state.runtimes = w.state.runtimes) : LedgersStay w w' :=
  fun _ rt hrt => ⟨rt, h ▸ hrt, rfl⟩

theorem LedgersStay.trans (h₁ : LedgersStay w w') (h₂ : LedgersStay w' w'') :
    LedgersStay w w'' := by
  intro accountId rt hrt
  obtain ⟨rt', hrt', heq⟩ := h₁ accountId rt hrt
  obtain ⟨rt'', hrt'', heq'⟩ := h₂ accountId rt' hrt'
  exact ⟨rt'', hrt'', heq'.trans heq⟩

theorem LedgersStay.steps (h : Relation.ReflTransGen LedgersStay w w') : LedgersStay w w' := by
  induction h with
  | refl => exact .of_runtimes rfl
  | tail _ hlast ih => exact ih.trans hlast

/-- The runtime of an account is replaced by one with its ledger, or the account is a new one. -/
theorem LedgersStay.setRuntime (w : World) {accountId : AccountId} {rt' : AccountRuntime}
    (h : ∀ rt, w.state.runtimes.get? accountId = some rt → rt'.resolutions = rt.resolutions) :
    LedgersStay w (w.setRuntime accountId rt') := by
  intro other rt hrt
  by_cases heq : other = accountId
  · subst heq
    exact ⟨rt', Dict.get?_insert_self _ _ _, h rt hrt⟩
  · exact ⟨rt, (Dict.get?_insert_of_ne _ _ heq).trans hrt, rfl⟩

theorem runs_stay_append (body : RecordBody) (w : World) :
    Runs LedgersStay w (w.append cfg body) fun _ w' => w'.state = w.state := by
  rcases append_cases cfg w body with ⟨e, herr⟩ | ⟨-, hok⟩
  · rw [herr]
    exact Runs.failed
  · rw [hok]
    refine Runs.after (.single ?_) (Runs.done rfl)
    exact .of_runtimes rfl

theorem runs_stay_appendAll (bodies : List RecordBody) (w : World) :
    Runs LedgersStay w (appendAll cfg bodies w) fun _ w' => w'.state = w.state := by
  refine Runs.forEach_keeps (fun body _ w' hw' => ?_) rfl
  exact (runs_stay_append body w').andThen fun _ w'' hw'' => Runs.done (hw''.trans hw')

theorem runs_stay_checkpoint_if (p : Prop) [Decidable p] (w : World) :
    Runs LedgersStay w (if p then w.checkpoint else (w, .ok ())) fun _ _ => True := by
  split
  · rcases checkpoint_cases w with ⟨e, herr⟩ | ⟨-, hok⟩
    · rw [herr]
      exact Runs.failed
    · rw [hok]
      refine Runs.after (.single ?_) (Runs.done trivial)
      exact .of_runtimes rfl
  · exact Runs.done trivial

/-! ### Publications -/

theorem runs_stay_install (clock : AccountId → Nat) (account : ProviderAccount) (w : World) :
    Runs LedgersStay w (install cfg clock account w) fun _ _ => True := by
  have hnew : w.state.runtimes.get? account.accountId = none → ∀ {rt' : AccountRuntime} (rt),
      w.state.runtimes.get? account.accountId = some rt → rt'.resolutions = rt.resolutions := by
    intro hnone rt' rt hrt
    rw [hnone] at hrt
    cases hrt
  unfold install
  cases hrt : w.state.runtimes.get? account.accountId with
  | some rt =>
    cases hupdate : rt.updateAccount (clock account.accountId) account with
    | error e =>
      simp only [hrt, hupdate]
      exact Runs.failed
    | ok rt' =>
      simp only [hrt, hupdate]
      refine Runs.after (.single (LedgersStay.setRuntime w fun rt₀ hrt₀ => ?_)) (Runs.done trivial)
      rw [hrt] at hrt₀
      cases hrt₀
      exact (resolutions_updateAccount hupdate).2.2
  | none =>
    cases hdormant : w.state.dormantAccountStates.get? account.accountId with
    | none =>
      simp only [hrt, hdormant]
      exact Runs.after (.single (LedgersStay.setRuntime w (hnew hrt))) (Runs.done trivial)
    | some entry =>
      -- the entry goes before it is read, and neither touches another account
      cases hrestore : (AccountRuntime.fresh account (clock account.accountId)).restoreSnapshotState
          cfg entry with
      | ok rt =>
        simp only [hrt, hdormant, hrestore]
        refine Runs.after (.single ?_) (Runs.done trivial)
        exact (LedgersStay.setRuntime w (hnew hrt)).trans (.of_runtimes rfl)
      | error e =>
        simp only [hrt, hdormant, hrestore]
        refine Runs.after (.single ?_) Runs.failed
        exact .of_runtimes rfl

theorem runs_stay_disable (staged : RuntimeState) (account : ProviderAccount) (w : World) :
    Runs LedgersStay w (disable cfg staged account w) fun _ w' => w'.state = w.state := by
  unfold disable
  cases staged.omittedRecord account with
  | error e => exact Runs.failed
  | ok body => exact runs_stay_appendAll [body] w

theorem runs_stay_applyPublication (clock : AccountId → Nat) (accounts : List ProviderAccount)
    (w : World) : Runs LedgersStay w (applyPublication cfg clock accounts w) fun _ _ => True := by
  unfold applyPublication
  cases hplan : planPublication cfg w.state accounts with
  | error e => exact Runs.failed
  | ok plan =>
    obtain ⟨-, -, hstage, -⟩ := planPublication_eq_ok hplan
    obtain ⟨hruntimes, -, -⟩ := stageAll_eq_ok hstage
    simp only
    refine Runs.andThen (runs_stay_appendAll plan.records w) fun _ w₁ hw₁ => ?_
    refine Runs.andThen (Q := fun _ w' => w'.state = w.state)
      (Runs.forEach_keeps (I := fun w' : World => w'.state = w.state) (fun account _ w' hw' => ?_) hw₁)
      fun _ w₂ hw₂ => ?_
    · exact (runs_stay_disable plan.staged account w').weaken fun _ _ h => h.trans hw'
    · have hstaged : LedgersStay w₂ { w₂ with state := plan.staged } :=
        .of_runtimes (hruntimes.trans (by rw [hw₂]))
      refine Runs.after (.single hstaged) (Runs.andThen (Q := fun _ _ => True) ?_ fun _ w₃ _ => ?_)
      · exact Runs.forEach_keeps (fun account _ w' _ => runs_stay_install clock account w') trivial
      · exact runs_stay_checkpoint_if _ w₃

/-! ### Calls and recovery -/

/-- A call changes the runtime of its account only, and by some answer of the journal. -/
theorem accountCall_runtimes (cfg : RuntimeConfig) (w : World) {accountId : AccountId}
    {rt : AccountRuntime} (hrt : w.state.runtimes.get? accountId = some rt) (c : AccountCall) :
    ∃ reply, (w.accountCall cfg accountId c).1.state =
      w.state.setRuntime accountId (rt.call cfg reply c) := by
  have hthen : ∀ (w' : World) (account : ProviderAccount),
      (w'.maybeCheckpoint account).1.state = w'.state := by
    intro w' account
    rw [maybeCheckpoint]
    split
    · rcases checkpoint_cases w' with ⟨e, herr⟩ | ⟨-, hok⟩
      · rw [herr]
      · rw [hok]
        rfl
    · rfl
  unfold accountCall
  simp only [hrt]
  cases rt.asks cfg c with
  | none => exact ⟨_, rfl⟩
  | some body =>
    rcases append_cases cfg w body with ⟨e, herr⟩ | ⟨-, hok⟩
    · simp only [herr]
      exact ⟨_, rfl⟩
    · simp only [hok]
      exact ⟨_, hthen _ _⟩

theorem runs_stay_commit {accountId : AccountId} {body : RecordBody}
    {effect : AccountRuntime → AccountRuntime}
    (heffect : ∀ rt, (effect rt).resolutions = rt.resolutions) (w : World) :
    Runs LedgersStay w (commit cfg accountId body effect w) fun _ _ => True := by
  unfold commit
  cases hrt : w.state.runtimes.get? accountId with
  | none => exact Runs.failed
  | some rt =>
    refine (runs_stay_append body w).andThen fun _ w' hw' => ?_
    refine Runs.after (.single (LedgersStay.setRuntime w' fun rt' hrt' => ?_)) (Runs.done trivial)
    rw [hw', hrt] at hrt'
    cases hrt'
    exact heffect rt

theorem runs_stay_reopen (clock : Nat) (accountId : AccountId)
    (scope : Option DeploymentGenerationId) (w : World) :
    Runs LedgersStay w (reopen cfg clock accountId scope w) fun _ _ => True := by
  unfold reopen
  cases hrt : w.state.runtimes.get? accountId with
  | none => exact Runs.failed
  | some rt =>
    have htick : LedgersStay w (w.setRuntime accountId (rt.tick clock)) := by
      refine LedgersStay.setRuntime w fun rt' hrt' => ?_
      rw [hrt] at hrt'
      cases hrt'
      rfl
    simp only
    cases (reopened ((rt.tick clock).scopedCircuit scope) (rt.tick clock).timeHighWaterMs).construct with
    | error e => exact Runs.after (.single htick) Runs.failed
    | ok value =>
      refine ⟨(Relation.ReflTransGen.single htick).tail ?_, fun _ _ => trivial⟩
      obtain ⟨reply, hstate⟩ := accountCall_runtimes cfg (w.setRuntime accountId (rt.tick clock))
        (setRuntime_get? w accountId (rt.tick clock))
        (.swapCircuit scope ((rt.tick clock).scopedCircuit scope) value)
      have hswap : LedgersStay (w.setRuntime accountId (rt.tick clock))
          ((w.setRuntime accountId (rt.tick clock)).setRuntime accountId ((rt.tick clock).call cfg reply
            (.swapCircuit scope ((rt.tick clock).scopedCircuit scope) value))) := by
        refine LedgersStay.setRuntime _ fun rt' hrt' => ?_
        rw [setRuntime_get?] at hrt'
        cases hrt'
        exact swapCircuit_resolutions _ _ _ _
      exact hswap.trans (.of_runtimes (congrArg RuntimeState.runtimes hstate))

theorem runs_stay_recoverAccount (clock : Option DeploymentGenerationId → Nat)
    (accountId : AccountId) (w : World) :
    Runs LedgersStay w (recoverAccount cfg clock accountId w) fun _ _ => True := by
  unfold recoverAccount
  cases hrt : w.state.runtimes.get? accountId with
  | none => exact Runs.done trivial
  | some rt =>
    simp only
    refine Runs.andThen (Q := fun _ _ => True) ?_ fun _ w₁ _ =>
      Runs.andThen (Q := fun _ _ => True) ?_ fun _ w₂ _ => ?_
    · refine Runs.forEach_keeps (fun id _ w' _ => ?_) trivial
      apply runs_stay_commit
      exact fun _ => rfl
    · cases rt.recoveryProbeId with
      | none => exact Runs.done trivial
      | some probeId => exact runs_stay_commit (fun rt => endRecoveryProbe_resolutions rt _) w₁
    · exact Runs.forEach_keeps (fun scope _ w' _ => runs_stay_reopen (clock scope) accountId scope w')
        trivial

theorem runs_stay_markRecovered (clock : AccountId → Option DeploymentGenerationId → Nat)
    (lastSequence : Nat) (w : World) :
    Runs LedgersStay w (markRecovered cfg clock lastSequence w) fun _ _ => True := by
  unfold markRecovered
  split
  · exact Runs.done trivial
  · refine Runs.andThen (Q := fun _ _ => True) ?_ fun _ w₁ _ => runs_stay_checkpoint_if _ w₁
    refine Runs.forEach_keeps (fun accountId _ w' _ => ?_) trivial
    exact runs_stay_recoverAccount (clock accountId) accountId w'

end World

/-! ## Runs -/

/-- Only a reservation asks for a reservation record. -/
theorem AccountRuntime.asks_attemptReserved {cfg : RuntimeConfig} {rt : AccountRuntime}
    {c : AccountCall} {d : DurableReservation} (h : rt.asks cfg c = some (.attemptReserved d)) :
    ∃ status clock request, c = .reserve status clock request ∧
      rt.Admits cfg status clock request ∧ d = rt.admittedRecord cfg clock request := by
  cases c with
  | reserve status clock request =>
    obtain ⟨hadmits, hbody, -⟩ := reserve_journaled cfg rt h
    cases hbody
    exact ⟨status, clock, request, rfl, hadmits, rfl⟩
  | capacity => cases h
  | dispatch | finish | swapCircuit | activeCount | beginProbe | finishProbe =>
    simp only [asks] at h
    repeat' split at h
    all_goals cases h

/-- No reservation of the history has the attempt id of the request. -/
def NewAttempt (log : List JournalRecord) (request : ReservationRequest) : Prop :=
  ∀ record ∈ log, ∀ d, record.body = .attemptReserved d → d.attemptId ≠ request.attemptId.text

/-- The attempt a record reserves. -/
def JournalRecord.reservedId (record : JournalRecord) : Option String :=
  match record.body with
  | .attemptReserved d => some d.attemptId
  | _ => none

instance (log : List JournalRecord) (request : ReservationRequest) :
    Decidable (NewAttempt log request) :=
  decidable_of_iff (∀ record ∈ log, record.reservedId ≠ some request.attemptId.text) <| by
    refine forall₂_congr fun record _ => ⟨fun h d hbody heq => h ?_, fun h hid => ?_⟩
    · rw [JournalRecord.reservedId, hbody]
      exact congrArg some heq
    · rw [JournalRecord.reservedId] at hid
      split at hid
      · next d hbody => exact h d hbody (Option.some.inj hid)
      · cases hid

namespace Ledgered

variable {cfg : RuntimeConfig} {w : World} {accountId : AccountId} {rt mid : AccountRuntime}

theorem under (h : Ledgered cfg w) (env : ServiceEnv) : Ledgered cfg (w.under env) :=
  ⟨h.keyed, h.lawful, h.live, h.dormant, h.kept, h.distinct⟩

/-- **The ledger row of an attempt is its one report.** -/
theorem row_eq_record (h : Ledgered cfg w) (hrt : w.state.runtimes.get? accountId = some rt)
    {id : String} {row : ResolvedAttempt} (hrow : rt.resolutions.get? id = some row)
    {record : JournalRecord} (hmem : record ∈ w.journal.history) {r : AttemptResolution}
    {digest : String} {time : Nat} (hbody : record.body = .attemptResolved id r digest time) :
    row.resolutionDigest = digest ∧ row.receipt = record.receipt ∧ row.resolvedAtMs = time := by
  obtain ⟨-, record', hmem', r', hbody', hreceipt⟩ :=
    ((h.live accountId rt hrt).1 id).ledger row hrow
  obtain rfl := h.lawful.settled_once hmem' hmem ⟨_, _, hbody'⟩ ⟨_, _, hbody⟩
  rw [hbody'] at hbody
  cases hbody
  exact ⟨rfl, hreceipt.symm, rfl⟩

/-- What a call asks for may be written, and is about its account. -/
theorem permitted_of_asks (h : Ledgered cfg w) (hrt : w.state.runtimes.get? accountId = some rt)
    {c : AccountCall} (hnew : ∀ status clock request, c = .reserve status clock request →
      NewAttempt w.journal.history request) {body : RecordBody} (hasks : rt.asks cfg c = some body)
    (hidle : Idle rt mid) (hguard : Guarded cfg rt mid body) :
    Permitted cfg w.journal.history body ∧ Backed.Own accountId mid body := by
  cases body with
  | attemptReserved d =>
    obtain ⟨status, clock, request, rfl, hadmits, rfl⟩ := asks_attemptReserved hasks
    refine ⟨hnew status clock request rfl, ?_⟩
    have hentry := hadmits.entry
    simp only [checkEntry, bind_eq_ok_iff, require_eq_ok_iff, exists_unit_and_iff] at hentry
    show request.accountId = accountId
    rw [hentry.2.2.1]
    exact h.keyed accountId rt hrt
  | attemptResolved id r digest time =>
    obtain ⟨a, hunresolved, hheld, htokens, hquota, hdigest, -, -, -, -, hresolutions⟩ := hguard
    obtain ⟨⟨d, hd, hreserved, hunits⟩, -, hsettled⟩ := ((h.live accountId rt hrt).1 id).held a hheld
    refine ⟨⟨fun record hmem r' hr' => ?_, hdigest, accountId, d, hd, ?_, ?_⟩, ?_, a, ?_⟩
    · have hrow := (hsettled record hmem r' hr').2
      rw [hunresolved] at hrow
      cases hrow
    · rwa [← hreserved]
    · rwa [← hunits]
    · rwa [hresolutions]
    · rwa [hidle.attempts]
  | _ => exact ⟨trivial, trivial⟩

theorem call (h : Ledgered cfg w) (accountId : AccountId) (c : AccountCall)
    (hnew : ∀ status clock request, c = .reserve status clock request →
      NewAttempt w.journal.history request) :
    Ledgered cfg (w.accountCall cfg accountId c).1 ∧
      w.journal.history <+: (w.accountCall cfg accountId c).1.journal.history := by
  cases hrt : w.state.runtimes.get? accountId with
  | none =>
    have hsame : (w.accountCall cfg accountId c).1 = w := by simp only [accountCall, hrt]
    rw [hsame]
    exact ⟨h, List.prefix_refl _⟩
  | some rt =>
    rcases accountCall_cases cfg hrt c with
      ⟨rt', hidle, -, hw, -⟩ | ⟨body, mid, hasks, -, hidle, hguard, -, hw⟩
    · rw [hw]
      have hadmin : Admin cfg [] w (w.setRuntime accountId rt') := .idle hrt hidle
      exact ⟨h.admin hadmin, List.prefix_refl _⟩
    · obtain ⟨hpermitted, hown⟩ := h.permitted_of_asks hrt hnew hasks hidle hguard
      have heffect := h.effect hrt hidle hpermitted hown
      rcases hw with hw | ⟨-, hw⟩
      · rw [hw]
        exact ⟨heffect, List.prefix_append _ _⟩
      · rw [hw]
        exact ⟨heffect.checkpointed, List.prefix_append _ _⟩

/-- A ledgered world over a history that is at least `log`. -/
def Over (cfg : RuntimeConfig) (log : List JournalRecord) (w : World) : Prop :=
  Ledgered cfg w ∧ log <+: w.journal.history

theorem Over.recovers {log : List JournalRecord} {published : List ProviderAccount} {w' : World}
    (h : Over cfg log w) (hstep : Step cfg published Recovers w w') : Over cfg log w' := by
  refine ⟨h.1.recovers hstep, ?_⟩
  cases hstep with
  | admin hadmin =>
    cases hadmin with
    | registered => exact h.2.trans (List.prefix_append _ _)
    | _ => exact h.2
  | effect => exact h.2.trans (List.prefix_append _ _)

theorem publication (h : Ledgered cfg w) (clock : AccountId → Nat) (accounts : List ProviderAccount) :
    Over cfg w.journal.history (applyPublication cfg clock accounts w).1 := by
  cases hplan : planPublication cfg w.state accounts with
  | error e =>
    simp only [applyPublication, hplan]
    exact ⟨h, List.prefix_refl _⟩
  | ok plan =>
    exact (runs_applyPublication clock hplan).keeps (fun _ _ hstep hw => hw.recovers (.admin hstep))
      ⟨h, List.prefix_refl _⟩

theorem start (h : Ledgered cfg w) (clock : StartClock) (accounts : List ProviderAccount) :
    Over cfg w.journal.history (World.start cfg clock accounts w).1 := by
  rcases start_cases cfg clock accounts w with ⟨e, herr⟩ | ⟨validated, st, published, -, hst, -, hruns⟩
  · rw [herr]
    exact ⟨h, List.prefix_refl _⟩
  · exact hruns.keeps (fun _ _ hstep hw => Over.recovers hw hstep) ⟨h.rebuilt hst, List.prefix_refl _⟩

/-- **A start finds every row of the process before it**, on the accounts it is configured with. -/
theorem start_keeps_row (h : Ledgered cfg w) (clock : StartClock) {accounts : List ProviderAccount}
    (hnamed : ∃ a ∈ accounts, a.accountId = accountId)
    (hrt : w.state.runtimes.get? accountId = some rt) {id : String}
    (hrow : (rt.resolutions.get? id).isSome = true) :
    ∃ rt', (World.start cfg clock accounts w).1.state.runtimes.get? accountId = some rt' ∧
      (rt'.resolutions.get? id).isSome = true := by
  unfold World.start
  cases hvalid : accounts.mapM (fun a => RuntimeState.model a.validate) with
  | error e => exact ⟨rt, hrt, hrow⟩
  | ok validated =>
    simp only
    cases hst : World.rebuilt cfg clock.built validated w.journal with
    | error e => exact ⟨rt, hrt, hrow⟩
    | ok st =>
      simp only
      obtain ⟨a, ha, rfl⟩ := hnamed
      obtain ⟨a', ha', hvalid'⟩ := exists_mem_mapM hvalid ha
      obtain ⟨rt₁, hrt₁⟩ := rebuilt_configured hst ha'
      rw [accountId_of_validate hvalid'] at hrt₁
      have hrow₁ := h.rebuilt_lists hst hrt hrow hrt₁
      have hruns : Runs LedgersStay { w with state := st }
          (andThen (applyPublication cfg clock.published validated { w with state := st })
            fun _ w' => markRecovered cfg clock.reopened w.journal.lastSequence w') fun _ _ => True :=
        (runs_stay_applyPublication clock.published validated _).andThen fun _ w' _ =>
          runs_stay_markRecovered clock.reopened w.journal.lastSequence w'
      obtain ⟨rt₂, hrt₂, heq⟩ := LedgersStay.steps hruns.steps a.accountId rt₁ hrt₁
      exact ⟨rt₂, hrt₂, by rwa [heq]⟩

end Ledgered

namespace Service

variable {cfg : RuntimeConfig} {s s₀ s₁ s₂ : Service} {accountId : AccountId} {id : String}

/-- A reservation is for a new attempt. -/
def FreshAttempts (s : Service) : ServiceEvent → Prop
  | .call _ (.reserve _ _ request) => NewAttempt s.world.journal.history request
  | _ => True

instance (s : Service) : ∀ e, Decidable (FreshAttempts s e)
  | .call _ (.reserve _ _ request) =>
    inferInstanceAs (Decidable (NewAttempt s.world.journal.history request))
  | .call _ (.dispatch ..) | .call _ (.finish ..) | .call _ (.capacity ..) | .call _ (.swapCircuit ..)
  | .call _ (.activeCount ..) | .call _ (.beginProbe ..) | .call _ (.finishProbe ..)
  | .publish .. | .checkpoint | .restart .. => .isTrue trivial

/-- A start is configured with the account. -/
def Configures (accountId : AccountId) : ServiceEvent → Prop
  | .restart _ accounts => ∃ a ∈ accounts, a.accountId = accountId
  | _ => True

theorem ledgered_step (h : Ledgered cfg s.world) (env : ServiceEnv) {e : ServiceEvent}
    (he : FreshAttempts s e) :
    Ledgered.Over cfg s.world.journal.history (s.step cfg env e).world := by
  have hunder := h.under env
  have hsame : Ledgered.Over cfg s.world.journal.history s.world := ⟨h, List.prefix_refl _⟩
  cases e with
  | call accountId c =>
    simp only [Service.step]
    split
    · refine hunder.call accountId c fun status clock request hc => ?_
      subst hc
      exact he
    · exact hsame
  | publish clock accounts =>
    simp only [Service.step]
    split
    · exact hunder.publication clock accounts
    · exact hsame
  | checkpoint =>
    simp only [Service.step]
    split
    · rcases checkpoint_cases (s.world.under env) with ⟨e, herr⟩ | ⟨-, hok⟩
      · rw [herr]
        exact ⟨hunder, List.prefix_refl _⟩
      · rw [hok]
        exact ⟨hunder.checkpointed, List.prefix_refl _⟩
    · exact hsame
  | restart clock accounts =>
    have hstart := hunder.start clock accounts
    simp only [Service.step]
    split
    · next heq => rw [heq] at hstart; exact hstart
    · next heq => rw [heq] at hstart; exact hstart

theorem Reachable.ledgered (h : Reachable cfg FreshAttempts s) : Ledgered cfg s.world := by
  induction h with
  | created =>
    refine ⟨fun _ _ h => (by cases h), .nil, fun _ _ h => (by cases h), fun _ _ _ h => (by cases h), ?_,
      List.nodup_nil⟩
    exact ⟨[], rfl, fun _ h => (by cases h)⟩
  | step _ env e he ih => exact (ledgered_step ih env he).1

theorem Later.ledgered (h : Later cfg FreshAttempts s₁ s₂) (h₁ : Ledgered cfg s₁.world) :
    Ledgered.Over cfg s₁.world.journal.history s₂.world := by
  induction h with
  | refl => exact ⟨h₁, List.prefix_refl _⟩
  | tail _ hstep ih =>
    obtain ⟨env, e, he, rfl⟩ := hstep
    obtain ⟨hledgered, hfront⟩ := ledgered_step ih.1 env he
    exact ⟨hledgered, ih.2.trans hfront⟩

/-- An event that is configured with the account forgets a row of it only if the row is old. -/
theorem row_step (h : Ledgered cfg s.world) (env : ServiceEnv) {e : ServiceEvent}
    (he : Configures accountId e) {rt : AccountRuntime} {row : ResolvedAttempt}
    (hrt : s.world.state.runtimes.get? accountId = some rt) (hrow : rt.resolutions.get? id = some row) :
    ∃ rt', (s.step cfg env e).world.state.runtimes.get? accountId = some rt' ∧
      ((rt'.resolutions.get? id).isSome = true ∨
        row.resolvedAtMs + cfg.resolutionRetentionMs ≤ rt'.timeHighWaterMs) := by
  have hsome : (rt.resolutions.get? id).isSome = true := Option.isSome_iff_exists.mpr ⟨row, hrow⟩
  have hstay : ∀ w', LedgersStay (s.world.under env) w' →
      ∃ rt', w'.state.runtimes.get? accountId = some rt' ∧
        ((rt'.resolutions.get? id).isSome = true ∨
          row.resolvedAtMs + cfg.resolutionRetentionMs ≤ rt'.timeHighWaterMs) := by
    intro w' hw'
    obtain ⟨rt', hrt', heq⟩ := hw' accountId rt hrt
    exact ⟨rt', hrt', .inl (by rwa [heq])⟩
  cases e with
  | call other c =>
    simp only [Service.step]
    split
    · cases hother : (s.world.under env).state.runtimes.get? other with
      | none =>
        have hsame : ((s.world.under env).accountCall cfg other c).1 = s.world.under env := by
          simp only [accountCall, hother]
        rw [hsame]
        exact ⟨rt, hrt, .inl hsome⟩
      | some rt₀ =>
        obtain ⟨reply, hstate⟩ := accountCall_runtimes cfg (s.world.under env) hother c
        show ∃ rt', ((s.world.under env).accountCall cfg other c).1.state.runtimes.get? accountId = _ ∧ _
        rw [hstate]
        by_cases heq : accountId = other
        · subst heq
          rw [show (s.world.under env).state.runtimes.get? accountId = some rt from hrt] at hother
          cases hother
          exact ⟨_, Dict.get?_insert_self _ _ _, call_keeps_row reply c hrow⟩
        · exact ⟨rt, (Dict.get?_insert_of_ne _ _ heq).trans hrt, .inl hsome⟩
    · exact ⟨rt, hrt, .inl hsome⟩
  | publish clock accounts =>
    simp only [Service.step]
    split
    · exact hstay _ (LedgersStay.steps (runs_stay_applyPublication clock accounts _).steps)
    · exact ⟨rt, hrt, .inl hsome⟩
  | checkpoint =>
    simp only [Service.step]
    split
    · rcases checkpoint_cases (s.world.under env) with ⟨e, herr⟩ | ⟨-, hok⟩
      · rw [herr]
        exact ⟨rt, hrt, .inl hsome⟩
      · rw [hok]
        exact ⟨rt, hrt, .inl hsome⟩
    · exact ⟨rt, hrt, .inl hsome⟩
  | restart clock accounts =>
    obtain ⟨rt', hrt', hrow'⟩ := (h.under env).start_keeps_row clock he hrt hsome
    simp only [Service.step]
    split
    · next heq => rw [heq] at hrt'; exact ⟨rt', hrt', .inl hrow'⟩
    · next heq => rw [heq] at hrt'; exact ⟨rt', hrt', .inl hrow'⟩

/-- Reservations are for new attempts and starts are configured with the account. -/
def Attended (accountId : AccountId) (s : Service) (e : ServiceEvent) : Prop :=
  FreshAttempts s e ∧ Configures accountId e

theorem Later.fresh (h : Later cfg (Attended accountId) s₁ s₂) : Later cfg FreshAttempts s₁ s₂ :=
  Relation.ReflTransGen.mono (fun _ _ ⟨env, e, he, hs⟩ => ⟨env, e, he.1, hs⟩) _ _ h

/-- The rows of an attempt in a service and in a later one are the same report. -/
theorem row_eq_later (h₁ : Ledgered cfg s₁.world) (hrun : Later cfg FreshAttempts s₁ s₂)
    {rt₁ rt₂ : AccountRuntime} {row₁ row₂ : ResolvedAttempt}
    (hrt₁ : s₁.world.state.runtimes.get? accountId = some rt₁)
    (hrow₁ : rt₁.resolutions.get? id = some row₁)
    (hrt₂ : s₂.world.state.runtimes.get? accountId = some rt₂)
    (hrow₂ : rt₂.resolutions.get? id = some row₂) :
    row₂.resolutionDigest = row₁.resolutionDigest ∧ row₂.receipt = row₁.receipt ∧
      row₂.resolvedAtMs = row₁.resolvedAtMs := by
  obtain ⟨h₂, hfront⟩ := Later.ledgered hrun h₁
  obtain ⟨-, record, hmem, r, hbody, hreceipt⟩ :=
    ((h₁.live accountId rt₁ hrt₁).1 id).ledger row₁ hrow₁
  rw [← hreceipt]
  exact h₂.row_eq_record hrt₂ hrow₂ (hfront.subset hmem) hbody

/-- **A row stays until it is old**, over every run that is configured with its account. -/
theorem row_later (h₁ : Ledgered cfg s₁.world) (hrun : Later cfg (Attended accountId) s₁ s₂)
    {rt₁ : AccountRuntime} {row₁ : ResolvedAttempt}
    (hrt₁ : s₁.world.state.runtimes.get? accountId = some rt₁)
    (hrow₁ : rt₁.resolutions.get? id = some row₁) :
    (∃ rt₂ row₂, s₂.world.state.runtimes.get? accountId = some rt₂ ∧
        rt₂.resolutions.get? id = some row₂) ∨
      ∃ s rt, Later cfg (Attended accountId) s₁ s ∧ Later cfg (Attended accountId) s s₂ ∧
        s.world.state.runtimes.get? accountId = some rt ∧
        row₁.resolvedAtMs + cfg.resolutionRetentionMs ≤ rt.timeHighWaterMs := by
  induction hrun with
  | refl => exact .inl ⟨rt₁, row₁, hrt₁, hrow₁⟩
  | @tail s s' hbefore hstep ih =>
    rcases ih with ⟨rt, row, hrt, hrow⟩ | ⟨s₀, rt, hto, hfrom, hrt, hold⟩
    · obtain ⟨-, -, htime⟩ := row_eq_later h₁ (Later.fresh hbefore) hrt₁ hrow₁ hrt hrow
      have hledgered := (Later.ledgered (Later.fresh hbefore) h₁).1
      have hlast := hstep
      obtain ⟨env, e, he, rfl⟩ := hstep
      obtain ⟨rt', hrt', hrow' | hold⟩ := row_step hledgered env he.2 hrt hrow
      · obtain ⟨row', hrow'⟩ := Option.isSome_iff_exists.mp hrow'
        exact .inl ⟨rt', row', hrt', hrow'⟩
      · rw [htime] at hold
        exact .inr ⟨_, rt', hbefore.tail hlast, .refl, hrt', hold⟩
    · exact .inr ⟨s₀, rt, hto, hfrom.tail hstep, hrt, hold⟩

/-! ## Charges -/

/-- **The charge of a start row only goes down.** -/
theorem charge_later (h₁ : Ledgered cfg s₁.world) (hrun : Later cfg FreshAttempts s₁ s₂)
    {rt₁ rt₂ : AccountRuntime} {row₁ row₂ : Start}
    (hrt₁ : s₁.world.state.runtimes.get? accountId = some rt₁) (hrow₁ : rt₁.starts.get? id = some row₁)
    (hrt₂ : s₂.world.state.runtimes.get? accountId = some rt₂)
    (hrow₂ : rt₂.starts.get? id = some row₂) :
    row₂.tokens ≤ row₁.tokens ∧ (row₂.countedStart = true → row₁.countedStart = true) := by
  obtain ⟨h₂, hfront⟩ := Later.ledgered hrun h₁
  obtain ⟨d, hd, hcharged₁⟩ := ((h₁.live accountId rt₁ hrt₁).1 id).rows row₁ hrow₁
  obtain ⟨d', hd', hcharged₂⟩ := ((h₂.live accountId rt₂ hrt₂).1 id).rows row₂ hrow₂
  obtain ⟨hid, haccount, record₀, hmem₀, hbody₀⟩ := hd
  obtain rfl := h₂.lawful.reserved_once ⟨hid, haccount, record₀, hfront.subset hmem₀, hbody₀⟩ hd'
  rcases hcharged₁ with ⟨-, htokens₁, hcounted₁⟩ | ⟨record₁, hmem₁, r₁, hr₁, htokens₁, hcounted₁⟩
  · -- not reported in `s₁`: charged in full there
    refine ⟨?_, fun _ => hcounted₁⟩
    rw [htokens₁]
    rcases hcharged₂ with ⟨-, htokens₂, -⟩ | ⟨record₂, hmem₂, r₂, ⟨digest, time, hbody₂⟩, htokens₂, -⟩
    · exact htokens₂.le
    · obtain ⟨-, other, d₂, hd₂, hbound, -⟩ := h₂.lawful.settled_within hmem₂ hbody₂
      obtain rfl := h₂.lawful.reserved_once hd' hd₂
      rw [htokens₂]
      cases htokens : r₂.actualTokenUnits with
      | none => exact le_rfl
      | some actual =>
        rw [htokens] at hbound
        exact hbound
  · -- reported in `s₁`: the same report in `s₂`
    rcases hcharged₂ with ⟨hunsettled, -⟩ | ⟨record₂, hmem₂, r₂, hr₂, htokens₂, hcounted₂⟩
    · exact absurd hr₁ (hunsettled record₁ (hfront.subset hmem₁) r₁)
    · obtain rfl := h₂.lawful.settled_once (hfront.subset hmem₁) hmem₂ hr₁ hr₂
      obtain rfl := hr₁.unique hr₂
      rw [htokens₁, htokens₂, hcounted₁, hcounted₂]
      exact ⟨le_rfl, fun h => h⟩

end Service

/-! ## Reports -/

theorem refund_le {used actual reserved : Nat} (h : actual ≤ reserved) :
    AccountRuntime.refund used actual reserved ≤ used := by
  rw [AccountRuntime.refund]
  omega

/-- A report refunds at most what was reserved, and only a dimension it names. -/
theorem resolve_month (rt : AccountRuntime) (id : String) {a : Attempt} {r : AttemptResolution}
    (digest : String) (receipt : JournalReceipt) (time : Nat)
    (h : r.actualQuotaUnits.getD 0 ≤ a.quotaUnits) :
    (rt.resolve id a r digest receipt time).monthlyUsed ≤ rt.monthlyUsed ∧
      (r.actualQuotaUnits = none →
        (rt.resolve id a r digest receipt time).monthlyUsed = rt.monthlyUsed) := by
  simp only [resolve]
  cases hunits : r.actualQuotaUnits with
  | none => exact ⟨le_rfl, fun _ => rfl⟩
  | some actual =>
    rw [hunits] at h
    refine ⟨?_, fun hnone => by cases hnone⟩
    simp only
    split
    · exact refund_le h
    · exact le_rfl

/-- What the first report on an attempt changes: its rows, its hold and the counter of its
account, each downwards, and nothing of another attempt. -/
structure FirstReport (rt rt' : AccountRuntime) (id : String) (a : Attempt) (r : AttemptResolution) :
    Prop where
  charge : ∃ row row', rt.starts.get? id = some row ∧ rt'.starts.get? id = some row' ∧
    row.tokens = a.reservedTokens ∧ row.countedStart = true ∧
    row'.tokens = r.actualTokenUnits.getD a.reservedTokens ∧ row'.tokens ≤ row.tokens ∧
    row'.countedStart = (r.actualStarts != some 0)
  month : rt'.monthlyUsed ≤ rt.monthlyUsed ∧
    (r.actualQuotaUnits = none → rt'.monthlyUsed = rt.monthlyUsed)
  hold : rt'.attempts.get? id = if r.releaseCapacity then none else some { a with state := .uncertain }
  others : ∀ id', id' ≠ id → rt'.starts.get? id' = rt.starts.get? id' ∧
    rt'.attempts.get? id' = rt.attempts.get? id' ∧ rt'.resolutions.get? id' = rt.resolutions.get? id'

/-- `rt'` has the rows a report of `r` leaves, and a counter that is not above the one before. -/
theorem FirstReport.of_rows {rt rt' : AccountRuntime} {id : String} {a : Attempt}
    {r : AttemptResolution} {row : Start} {entry : ResolvedAttempt}
    (hheld : rt.attempts.get? id = some a) (hrow : rt.starts.get? id = some row)
    (hfull : row.tokens = a.reservedTokens ∧ row.countedStart = true)
    (hbound : r.actualTokenUnits.getD 0 ≤ a.reservedTokens)
    (hstarts : rt'.starts = rt.resolveStart id r) (hattempts : rt'.attempts = rt.resolveAttempt id r)
    (hresolutions : rt'.resolutions = rt.resolutions.insert id entry)
    (hmonth : rt'.monthlyUsed ≤ rt.monthlyUsed ∧
      (r.actualQuotaUnits = none → rt'.monthlyUsed = rt.monthlyUsed)) :
    FirstReport rt rt' id a r := by
  have hrow' : rt'.starts.get? id = some { row with
      countedStart := row.countedStart && r.actualStarts != some 0
      tokens := r.actualTokenUnits.getD row.tokens } := by
    rw [hstarts, AccountRuntime.resolveStart, Dict.get?_modify, if_pos rfl, hrow]
    rfl
  refine ⟨⟨row, _, hrow, hrow', hfull.1, hfull.2, ?_, ?_, ?_⟩, hmonth, ?_, fun id' hne => ⟨?_, ?_, ?_⟩⟩
  · show r.actualTokenUnits.getD row.tokens = _
    rw [hfull.1]
  · show r.actualTokenUnits.getD row.tokens ≤ row.tokens
    cases htokens : r.actualTokenUnits with
    | none => exact le_rfl
    | some actual =>
      rw [htokens] at hbound
      rw [hfull.1]
      exact hbound
  · show (row.countedStart && r.actualStarts != some 0) = _
    rw [hfull.2, Bool.true_and]
  · rw [hattempts, AccountRuntime.resolveAttempt]
    split
    · exact Dict.get?_erase_self _ _
    · rw [Dict.get?_modify, if_pos rfl, hheld]
      rfl
  · rw [hstarts, AccountRuntime.resolveStart, Dict.get?_modify, if_neg hne]
  · rw [hattempts, AccountRuntime.resolveAttempt]
    split
    · exact Dict.get?_erase_of_ne _ hne
    · rw [Dict.get?_modify, if_neg hne]
  · rw [hresolutions, Dict.get?_insert_of_ne _ _ hne]

/-- How a report of `r` on an attempt is answered in the world `w`. -/
structure Answers (cfg : RuntimeConfig) (w : World) (accountId : AccountId) (rt : AccountRuntime)
    (clock : Nat) (id : String) (r : AttemptResolution) (answer : World.Result JournalReceipt) :
    Prop where
  repeated : ∀ row, rt.resolutions.get? id = some row →
    row.resolutionDigest = (cfg.digests.resolution r).text → answer = (w, .ok row.receipt)
  conflicting : ∀ row, rt.resolutions.get? id = some row →
    row.resolutionDigest ≠ (cfg.digests.resolution r).text →
      answer = (w, .error (.invalidLeaseTransition "conflicting terminal resolution"))
  unknown : rt.resolutions.get? id = none → rt.attempts.get? id = none →
    answer = (w, .error (.invalidLeaseTransition "unknown attempt cannot be resolved"))
  excessive : ∀ a, rt.resolutions.get? id = none → rt.attempts.get? id = some a →
    a.reservedTokens < r.actualTokenUnits.getD 0 ∨ a.quotaUnits < r.actualQuotaUnits.getD 0 →
      ∃ text, answer = (w, .error (.invalidLeaseTransition text))
  first : ∀ a, rt.resolutions.get? id = none → rt.attempts.get? id = some a →
    r.actualTokenUnits.getD 0 ≤ a.reservedTokens → r.actualQuotaUnits.getD 0 ≤ a.quotaUnits →
      (∃ fault, answer = (w.setRuntime accountId (rt.tick clock), .error fault)) ∨
      ∃ record rt' row, record.body = .attemptResolved id r (cfg.digests.resolution r).text
          (rt.tick clock).timeHighWaterMs ∧
        answer.1.journal.history = w.journal.history ++ [record] ∧
        answer.1.state = w.state.setRuntime accountId rt' ∧
        rt'.resolutions.get? id = some row ∧ row.receipt = record.receipt ∧
        row.resolutionDigest = (cfg.digests.resolution r).text ∧
        (answer.2 = .ok record.receipt ∨ ∃ fault, answer.2 = .error fault) ∧
        FirstReport rt rt' id a r

namespace World

variable {cfg : RuntimeConfig} {w : World} {accountId : AccountId} {rt : AccountRuntime} {clock : Nat}
  {id : String} {r : AttemptResolution}

theorem setRuntime_eq_self (h : w.state.runtimes.get? accountId = some rt) :
    w.setRuntime accountId rt = w := by
  have hsame : w.state.setRuntime accountId rt = w.state := by
    rw [RuntimeState.setRuntime, Dict.insert_eq_self h]
  rw [World.setRuntime, hsame]

/-- A report that is answered without the journal. -/
theorem finish_unasked (hrt : w.state.runtimes.get? accountId = some rt)
    (hasks : rt.asks cfg (.finish clock id r) = none) {answer : Except RuntimeFault JournalReceipt}
    (hfinish : ∀ reply, rt.finish cfg clock reply id r = (rt, answer)) :
    w.finish cfg accountId clock id r = (w, answer) := by
  simp only [World.finish, hrt, hasks, hfinish, setRuntime_eq_self hrt]

/-- A report that is asked for. -/
theorem finish_asked (hrt : w.state.runtimes.get? accountId = some rt) {a : Attempt} {row : Start}
    (hunresolved : rt.resolutions.get? id = none) (hheld : rt.attempts.get? id = some a)
    (hrow : rt.starts.get? id = some row) (htokens : r.actualTokenUnits.getD 0 ≤ a.reservedTokens)
    (hquota : r.actualQuotaUnits.getD 0 ≤ a.quotaUnits) :
    (∃ fault, w.finish cfg accountId clock id r =
        (w.setRuntime accountId (rt.tick clock), .error fault)) ∨
      ∃ record, record.body = .attemptResolved id r (cfg.digests.resolution r).text
          (rt.tick clock).timeHighWaterMs ∧
        (w.finish cfg accountId clock id r).1.journal.history = w.journal.history ++ [record] ∧
        (w.finish cfg accountId clock id r).1.state = w.state.setRuntime accountId
          ((rt.tick clock).resolve id a r (cfg.digests.resolution r).text record.receipt
            (rt.tick clock).timeHighWaterMs) ∧
        ((w.finish cfg accountId clock id r).2 = .ok record.receipt ∨
          ∃ fault, (w.finish cfg accountId clock id r).2 = .error fault) := by
  have hasks : rt.asks cfg (.finish clock id r) = some (.attemptResolved id r
      (cfg.digests.resolution r).text (rt.tick clock).timeHighWaterMs) := by
    simp only [asks, hunresolved, hheld, gt_iff_lt, not_lt.mpr htokens, not_lt.mpr hquota, or_self,
      if_false]
  have hrow' : (rt.tick clock).starts.get? id = some row := hrow
  have hrefused : ∀ fault, rt.finish cfg clock (.error fault) id r = (rt.tick clock, .error fault) := by
    intro fault
    simp only [AccountRuntime.finish, hunresolved, hheld, gt_iff_lt, not_lt.mpr htokens,
      not_lt.mpr hquota, if_false]
  have htaken : ∀ receipt, rt.finish cfg clock (.ok receipt) id r =
      ((rt.tick clock).resolve id a r (cfg.digests.resolution r).text receipt
        (rt.tick clock).timeHighWaterMs, .ok receipt) := by
    intro receipt
    simp only [AccountRuntime.finish, hunresolved, hheld, gt_iff_lt, not_lt.mpr htokens,
      not_lt.mpr hquota, if_false, hrow']
  simp only [World.finish, hrt, hasks]
  rcases append_cases cfg w (.attemptResolved id r (cfg.digests.resolution r).text
    (rt.tick clock).timeHighWaterMs) with ⟨fault, herr⟩ | ⟨-, hok⟩
  · simp only [herr, hrefused]
    exact .inl ⟨fault, rfl⟩
  · refine .inr ⟨w.nextRecord cfg (.attemptResolved id r (cfg.digests.resolution r).text
      (rt.tick clock).timeHighWaterMs), rfl, ?_⟩
    simp only [hok, htaken]
    rw [maybeCheckpoint]
    split
    · rcases checkpoint_cases ((w.written cfg _).setRuntime accountId _) with
        ⟨fault, hfailed⟩ | ⟨-, hcheckpointed⟩
      · -- the report stands although the checkpoint after it failed
        rw [hfailed]
        exact ⟨rfl, rfl, .inr ⟨fault, rfl⟩⟩
      · rw [hcheckpointed]
        exact ⟨rfl, rfl, .inl rfl⟩
    · exact ⟨rfl, rfl, .inl rfl⟩

end World

/-- **Every report is answered by the row or the hold of its attempt.** -/
theorem Ledgered.answers {cfg : RuntimeConfig} {w : World} (h : Ledgered cfg w)
    {accountId : AccountId} {rt : AccountRuntime}
    (hrt : w.state.runtimes.get? accountId = some rt) (clock : Nat) (id : String)
    (r : AttemptResolution) :
    Answers cfg w accountId rt clock id r (w.finish cfg accountId clock id r) := by
  have hbacked := (h.live accountId rt hrt).1 id
  refine ⟨fun row hrow hdigest => ?_, fun row hrow hdigest => ?_, fun hrow hheld => ?_,
    fun a hrow hheld hexcess => ?_, fun a hrow hheld htokens hquota => ?_⟩
  · refine finish_unasked hrt (by simp only [asks, hrow]) fun reply => ?_
    simp only [AccountRuntime.finish, hrow, hdigest, ne_eq, not_true_eq_false, if_false]
  · refine finish_unasked hrt (by simp only [asks, hrow]) fun reply => ?_
    simp only [AccountRuntime.finish, hrow, ne_eq, hdigest, not_false_eq_true, if_true]
  · refine finish_unasked hrt (by simp only [asks, hrow, hheld]) fun reply => ?_
    simp only [AccountRuntime.finish, hrow, hheld]
  · have hasks : rt.asks cfg (.finish clock id r) = none := by
      simp only [asks, hrow, hheld, gt_iff_lt, hexcess, if_true]
    by_cases htokens : a.reservedTokens < r.actualTokenUnits.getD 0
    · refine ⟨"actual token usage exceeds reservation", finish_unasked hrt hasks fun reply => ?_⟩
      simp only [AccountRuntime.finish, hrow, hheld, gt_iff_lt, htokens, if_true]
    · refine ⟨"actual quota usage exceeds reservation", finish_unasked hrt hasks fun reply => ?_⟩
      simp only [AccountRuntime.finish, hrow, hheld, gt_iff_lt, htokens, hexcess.resolve_left htokens,
        if_true, if_false]
  · -- the attempt is held and not in the ledger, so it is charged in full
    obtain ⟨⟨d, hd, hreserved, -⟩, hstarted, -⟩ := hbacked.held a hheld
    obtain ⟨start, hstart⟩ := Option.isSome_iff_exists.mp hstarted
    rw [hrow] at hbacked
    obtain ⟨-, hfull, hcounted⟩ := hbacked.full_of_held h.lawful hheld hstart hd
    rcases finish_asked hrt hrow hheld hstart htokens hquota with
      hrefused | ⟨record, hbody, hhistory, hstate, hanswer⟩
    · exact .inl hrefused
    · refine .inr ⟨record, _, _, hbody, hhistory, hstate, Dict.get?_insert_self _ _ _, rfl, rfl, hanswer, ?_⟩
      refine FirstReport.of_rows hheld hstart ⟨hfull.trans hreserved.symm, hcounted⟩ htokens rfl rfl rfl ?_
      exact resolve_month _ id _ _ _ hquota

/-- **A replayed report changes the counter downwards, and nothing when it is replayed again.** -/
theorem AccountRuntime.replayResolve_month {rt rt' : AccountRuntime} {id : String}
    {r : AttemptResolution} {digest : String} {receipt : JournalReceipt} {time : Nat}
    (h : rt.replayResolve id r digest receipt time = .ok rt') :
    rt'.monthlyUsed ≤ rt.monthlyUsed ∧
      (r.actualQuotaUnits = none → rt'.monthlyUsed = rt.monthlyUsed) ∧
      ((rt.resolutions.get? id).isSome = true → rt' = rt) := by
  obtain ⟨row, -, rfl⟩ | ⟨a, hresolves, rfl⟩ := replayResolve_cases h
  · exact ⟨le_rfl, fun _ => rfl, fun _ => rfl⟩
  · have hquota := hresolves.quota
    refine ⟨?_, ?_, fun hsome => ?_⟩
    · simp only [replayed]
      cases hunits : r.actualQuotaUnits with
      | none => exact le_rfl
      | some actual =>
        rw [hunits] at hquota
        exact refund_le hquota
    · intro hnone
      simp only [replayed, hnone]
    · rw [hresolves.unresolved] at hsome
      cases hsome

namespace Service

variable {cfg : RuntimeConfig} {s₁ s₂ : Service} {accountId : AccountId} {id : String}

/-- An attempt of an account over a run from `s₁` to `s₂`. -/
structure SettledOnce (cfg : RuntimeConfig) (s₁ s₂ : Service) (accountId : AccountId) (id : String) :
    Prop where
  answers : ∀ (env : ServiceEnv) (rt : AccountRuntime) (clock : Nat) (r : AttemptResolution),
    s₂.world.state.runtimes.get? accountId = some rt →
      Answers cfg (s₂.world.under env) accountId rt clock id r
        ((s₂.world.under env).finish cfg accountId clock id r)
  leases : ∀ (env : ServiceEnv) (clock : Nat) (r : AttemptResolution) (l : DispatchLease),
    l.lease.request.accountId = accountId → l.lease.request.attemptId.text = id →
      l.lease.finish cfg clock r (s₂.world.under env) =
          (s₂.world.under env).finish cfg accountId clock id r ∧
        (l.finish cfg clock r (s₂.world.under env)).world =
          ((s₂.world.under env).finish cfg accountId clock id r).1 ∧
        ∀ cancellations, (l.finishAsync cfg clock r cancellations (s₂.world.under env)).world =
          ((s₂.world.under env).finish cfg accountId clock id r).1
  once : ∀ record ∈ s₂.world.journal.history, ∀ record' ∈ s₂.world.journal.history, ∀ r r',
    record.Settles id r → record'.Settles id r' → record = record'
  row : ∀ record ∈ s₁.world.journal.history, ∀ r, record.Settles id r → ∀ rt row,
    s₂.world.state.runtimes.get? accountId = some rt → rt.resolutions.get? id = some row →
      row.receipt = record.receipt ∧ row.resolutionDigest = (cfg.digests.resolution r).text
  held : ∀ record ∈ s₁.world.journal.history, ∀ r, record.Settles id r → ∀ rt a,
    s₂.world.state.runtimes.get? accountId = some rt → rt.attempts.get? id = some a →
      r.releaseCapacity = false ∧ (rt.resolutions.get? id).isSome = true
  charge : ∀ rt₁ rt₂ row₁ row₂, s₁.world.state.runtimes.get? accountId = some rt₁ →
    rt₁.starts.get? id = some row₁ → s₂.world.state.runtimes.get? accountId = some rt₂ →
    rt₂.starts.get? id = some row₂ →
      row₂.tokens ≤ row₁.tokens ∧ (row₂.countedStart = true → row₁.countedStart = true)
  bound : ∀ rt row, s₂.world.state.runtimes.get? accountId = some rt → rt.starts.get? id = some row →
    ∃ d, Reserves s₂.world.journal.history accountId id d ∧ Charged s₂.world.journal.history id d row
  replayed : ∀ (rt rt' : AccountRuntime) (r : AttemptResolution) (digest : String)
    (receipt : JournalReceipt) (time : Nat), rt.replayResolve id r digest receipt time = .ok rt' →
      rt'.monthlyUsed ≤ rt.monthlyUsed ∧
        (r.actualQuotaUnits = none → rt'.monthlyUsed = rt.monthlyUsed) ∧
        ((rt.resolutions.get? id).isSome = true → rt' = rt)
  retained : Later cfg (Attended accountId) s₁ s₂ → ∀ rt₁ row₁,
    s₁.world.state.runtimes.get? accountId = some rt₁ → rt₁.resolutions.get? id = some row₁ →
      (∃ rt₂ row₂, s₂.world.state.runtimes.get? accountId = some rt₂ ∧
          rt₂.resolutions.get? id = some row₂) ∨
        ∃ s rt, Later cfg (Attended accountId) s₁ s ∧ Later cfg (Attended accountId) s s₂ ∧
          s.world.state.runtimes.get? accountId = some rt ∧
          row₁.resolvedAtMs + cfg.resolutionRetentionMs ≤ rt.timeHighWaterMs

/-- **An attempt is settled once**, by the first report the journal takes, over every run of calls,
publications, checkpoints and restarts. -/
theorem attempt_settles_once (h : Reachable cfg FreshAttempts s₁)
    (hrun : Later cfg FreshAttempts s₁ s₂) (accountId : AccountId) (id : String) :
    SettledOnce cfg s₁ s₂ accountId id := by
  have h₁ := h.ledgered
  obtain ⟨h₂, hfront⟩ := Later.ledgered hrun h₁
  refine
    { answers := fun env rt clock r hrt => (h₂.under env).answers hrt clock id r
      leases := ?_
      once := fun record hmem record' hmem' r r' hr hr' => h₂.lawful.settled_once hmem hmem' hr hr'
      row := ?_
      held := ?_
      charge := fun rt₁ rt₂ row₁ row₂ => charge_later h₁ hrun
      bound := fun rt row hrt hrow => ((h₂.live accountId rt hrt).1 id).rows row hrow
      replayed := fun rt rt' r digest receipt time hreplay => replayResolve_month hreplay
      retained := fun hattended rt₁ row₁ hrt₁ hrow₁ => row_later h₁ hattended hrt₁ hrow₁ }
  · rintro env clock r l rfl rfl
    exact ⟨rfl, l.finish_world cfg clock r _, fun n => l.finishAsync_world cfg clock r n _⟩
  · rintro record hmem r ⟨digest, time, hbody⟩ rt row hrt hrow
    obtain ⟨hdigest, hreceipt, -⟩ := h₂.row_eq_record hrt hrow (hfront.subset hmem) hbody
    refine ⟨hreceipt, hdigest.trans ?_⟩
    exact (h₁.lawful.settled_within hmem hbody).1
  · intro record hmem r hr rt a hrt ha
    exact ((h₂.live accountId rt hrt).1 id |>.held a ha).2.2 record (hfront.subset hmem) r hr

/-- A report of one start, one token and one unit that frees the attempt. -/
def fullReport : AttemptResolution where
  outcome := .completed
  releaseCapacity := true
  actualStarts := some 1
  actualTokenUnits := some 1
  actualQuotaUnits := some 1

/-- The first attempt is reserved and reported on. -/
def reportedEvents : List ServiceEvent := [
  .restart (startedAt 5) [meteredAccount],
  .call sampleAccountId (.reserve .healthy 10 (sampleRequest 1)),
  .call sampleAccountId (.finish 20 (TypedId.text (sampleRequest 1).attemptId) fullReport)]

/-- A restart that is configured with the account. -/
def laterStart : List ServiceEvent := [.restart (startedAt 50) [meteredAccount]]

/-- After the retention another attempt is reserved. -/
def laterAttempt : List ServiceEvent := [.call sampleAccountId (.reserve .healthy 200 (sampleRequest 2))]

/-- The answer to the report of the first attempt after some events. -/
def answerAfter (events : List ServiceEvent) : Except RuntimeFault JournalReceipt :=
  (((runs shortRetention events).world.under ServiceEnv.ample).finish shortRetention sampleAccountId 300
    (TypedId.text (sampleRequest 1).attemptId) fullReport).2

/-- The report is repeated before and after a restart, with one receipt. -/
theorem report_survives_restart :
    (∃ receipt, answerAfter reportedEvents = .ok receipt ∧
        answerAfter (reportedEvents ++ laterStart) = .ok receipt) ∧
      SettledOnce shortRetention (runs shortRetention reportedEvents)
        (runs shortRetention (reportedEvents ++ laterStart)) sampleAccountId
        (TypedId.text (sampleRequest 1).attemptId) := by
  refine ⟨?_, attempt_settles_once ?_ ?_ _ _⟩
  · have hsame : answerAfter (reportedEvents ++ laterStart) = answerAfter reportedEvents ∧
        (answerAfter reportedEvents).isOk = true := by
      decide +kernel
    rw [hsame.1]
    cases hanswer : answerAfter reportedEvents with
    | error e => rw [hanswer] at hsame; cases hsame.2
    | ok receipt => exact ⟨receipt, rfl, rfl⟩
  · exact Reachable.created.later (later_of_meets (by decide +kernel))
  · rw [runs, runs, List.foldl_append]
    exact later_of_meets (by decide +kernel)

/-- After the retention the next reservation forgets the row, and the same report is refused. -/
theorem forgotten_report_is_refused :
    Reachable shortRetention FreshAttempts (runs shortRetention (reportedEvents ++ laterAttempt)) ∧
      (answerAfter reportedEvents).isOk = true ∧
      answerAfter (reportedEvents ++ laterAttempt) =
        .error (.invalidLeaseTransition "unknown attempt cannot be resolved") := by
  refine ⟨Reachable.created.later (later_of_meets (by decide +kernel)), ?_, ?_⟩ <;>
    decide +kernel

end Service

end LlmMaxxing
