import LlmMaxxing.Gateway.AccountRuntime

/-!
# What a call on an account can do

One inversion lemma for each call of `AccountRuntime`: the states it can end in, with every
guard that was passed on the way. Proofs about runs go through these and never unfold a call.
-/

namespace LlmMaxxing

open Check

namespace AccountRuntime

variable {cfg : RuntimeConfig} {rt : AccountRuntime} {clock : Nat}

/-! ## Reservations -/

/-- The account with its clock advanced and its ledger pruned. -/
def pruned (cfg : RuntimeConfig) (rt : AccountRuntime) (clock : Nat) : AccountRuntime :=
  (rt.tick clock).pruneResolutions cfg (rt.tick clock).timeHighWaterMs

/-- The account on which the capacity checks run. -/
def prepared (cfg : RuntimeConfig) (rt : AccountRuntime) (clock : Nat) : AccountRuntime :=
  ((rt.pruned cfg clock).purgeWindows (rt.tick clock).timeHighWaterMs).rollMonthly
    (rt.tick clock).timeHighWaterMs

@[simp] theorem rollMonthly_timeHighWaterMs (nowMs : Nat) :
    (rt.rollMonthly nowMs).timeHighWaterMs = rt.timeHighWaterMs := by
  unfold rollMonthly; split <;> rfl

@[simp] theorem rollMonthly_account (nowMs : Nat) :
    (rt.rollMonthly nowMs).account = rt.account := by
  unfold rollMonthly; split <;> rfl

@[simp] theorem rollMonthly_starts (nowMs : Nat) : (rt.rollMonthly nowMs).starts = rt.starts := by
  unfold rollMonthly; split <;> rfl

@[simp] theorem rollMonthly_attempts (nowMs : Nat) :
    (rt.rollMonthly nowMs).attempts = rt.attempts := by
  unfold rollMonthly; split <;> rfl

@[simp] theorem rollMonthly_resolutions (nowMs : Nat) :
    (rt.rollMonthly nowMs).resolutions = rt.resolutions := by
  unfold rollMonthly; split <;> rfl

@[simp] theorem rollMonthly_circuits (nowMs : Nat) :
    (rt.rollMonthly nowMs).circuits = rt.circuits := by
  unfold rollMonthly; split <;> rfl

@[simp] theorem rollMonthly_accountCircuit (nowMs : Nat) :
    (rt.rollMonthly nowMs).accountCircuit = rt.accountCircuit := by
  unfold rollMonthly; split <;> rfl

@[simp] theorem rollMonthly_consumedCircuitProbes (nowMs : Nat) :
    (rt.rollMonthly nowMs).consumedCircuitProbes = rt.consumedCircuitProbes := by
  unfold rollMonthly; split <;> rfl

@[simp] theorem rollMonthly_externalUncertainHolds (nowMs : Nat) :
    (rt.rollMonthly nowMs).externalUncertainHolds = rt.externalUncertainHolds := by
  unfold rollMonthly; split <;> rfl

@[simp] theorem rollMonthly_recoveryProbeId (nowMs : Nat) :
    (rt.rollMonthly nowMs).recoveryProbeId = rt.recoveryProbeId := by
  unfold rollMonthly; split <;> rfl

@[simp] theorem prepared_timeHighWaterMs (cfg : RuntimeConfig) :
    (rt.prepared cfg clock).timeHighWaterMs = (rt.tick clock).timeHighWaterMs := by
  rw [prepared, rollMonthly_timeHighWaterMs]; rfl

/-- Every guard on the way to a journaled reservation. -/
structure Admits (cfg : RuntimeConfig) (rt : AccountRuntime) (status : JournalStatus)
    (clock : Nat) (request : ReservationRequest) : Prop where
  entry : rt.checkEntry status request = .ok ()
  checked : (rt.pruned cfg clock).checkRequest cfg (rt.tick clock).timeHighWaterMs request = .ok ()
  limits : (rt.prepared cfg clock).checkLimits (rt.tick clock).timeHighWaterMs request = .ok ()

/-- The record of an admitted request. -/
def admittedRecord (cfg : RuntimeConfig) (rt : AccountRuntime) (clock : Nat)
    (request : ReservationRequest) : DurableReservation :=
  (rt.prepared cfg clock).durableReservation cfg (rt.tick clock).timeHighWaterMs request

/-- **What `try_reserve` decides.** A denial leaves one of three states behind; otherwise every
guard was passed. -/
theorem planReserve_cases (cfg : RuntimeConfig) (rt : AccountRuntime) (status : JournalStatus)
    (clock : Nat) (request : ReservationRequest) :
    (∃ rt' denial, rt.planReserve cfg status clock request = (rt', .error denial) ∧
        (rt' = rt ∨ rt' = rt.pruned cfg clock ∨ rt' = rt.prepared cfg clock)) ∨
      (rt.Admits cfg status clock request ∧
        rt.planReserve cfg status clock request =
          (rt.prepared cfg clock, .ok (rt.admittedRecord cfg clock request))) := by
  unfold planReserve
  cases hentry : rt.checkEntry status request with
  | error denial => exact .inl ⟨rt, denial, rfl, .inl rfl⟩
  | ok u =>
    cases hrequest : (rt.pruned cfg clock).checkRequest cfg (rt.tick clock).timeHighWaterMs
        request with
    | error denial =>
      refine .inl ⟨rt.pruned cfg clock, denial, ?_, .inr (.inl rfl)⟩
      simp only [pruned] at hrequest ⊢
      simp only [hrequest]
    | ok u' =>
      cases hlimits : (rt.prepared cfg clock).checkLimits (rt.tick clock).timeHighWaterMs
          request with
      | error denial =>
        refine .inl ⟨rt.prepared cfg clock, denial, ?_, .inr (.inr rfl)⟩
        simp only [prepared, pruned] at hrequest hlimits ⊢
        simp only [hrequest, hlimits]
      | ok u'' =>
        refine .inr ⟨⟨hentry, hrequest, hlimits⟩, ?_⟩
        simp only [prepared, pruned, admittedRecord] at hrequest hlimits ⊢
        simp only [hrequest, hlimits]

/-- **What `try_reserve` can do.** Either no reservation was made, or the request was admitted,
the journal took the record and the reservation took effect. -/
theorem tryReserve_cases (cfg : RuntimeConfig) (rt : AccountRuntime) (status : JournalStatus)
    (clock : Nat) (reply : Except RuntimeFault JournalReceipt) (request : ReservationRequest) :
    (∃ rt', (rt' = rt ∨ rt' = rt.pruned cfg clock ∨ rt' = rt.prepared cfg clock) ∧
        (rt.tryReserve cfg status clock reply request).1 = rt' ∧
        ∀ receipt, (rt.tryReserve cfg status clock reply request).2 ≠ .granted receipt) ∨
      (rt.Admits cfg status clock request ∧ ∃ receipt, reply = .ok receipt ∧
        rt.tryReserve cfg status clock reply request =
          ((rt.prepared cfg clock).reserve (rt.admittedRecord cfg clock request),
            .granted receipt)) := by
  rcases planReserve_cases cfg rt status clock request with
    ⟨rt', denial, hplan, hrt'⟩ | ⟨hadmits, hplan⟩
  · refine .inl ⟨rt', hrt', ?_⟩
    rw [tryReserve, hplan]
    exact ⟨rfl, fun _ h => by cases h⟩
  · cases reply with
    | ok receipt =>
      refine .inr ⟨hadmits, receipt, rfl, ?_⟩
      rw [tryReserve, hplan]
    | error fault =>
      refine .inl ⟨rt.prepared cfg clock, .inr (.inr rfl), ?_⟩
      rw [tryReserve, hplan]
      cases fault with
      | journalUnavailable reason =>
        simp only
        split <;> exact ⟨rfl, fun _ h => by cases h⟩
      | _ => exact ⟨rfl, fun _ h => by cases h⟩

/-- The request checks, one by one. -/
theorem checkRequest_eq_ok_iff {nowMs : Nat} {request : ReservationRequest} {u : Unit} :
    rt.checkRequest cfg nowMs request = .ok u ↔
      rt.resolutions.size + (rt.attempts.keys.countP fun a => !rt.resolutions.contains a) <
          cfg.resolutionLedgerLimit ∧
        rt.account.quotaUnitsPerAttempt ≤ request.quotaUnits ∧
        nowMs < request.deadlineAtMs ∧
        (rt.attempts.get? request.attemptId.text = none ∧
          rt.starts.get? request.attemptId.text = none ∧
          rt.resolutions.get? request.attemptId.text = none) ∧
        rt.accountCircuit = request.accountCircuit ∧ rt.accountCircuit.state ≠ .opened ∧
        rt.circuitValue request.deploymentGenerationId = request.circuit ∧
        (rt.circuitValue request.deploymentGenerationId).state ≠ .opened ∧
        ∀ p ∈ rt.probeIds request.deploymentGenerationId,
          rt.consumedCircuitProbes.get? p = none := by
  simp only [checkRequest, bind_eq_ok_iff, require_eq_ok_iff, exists_unit_and_iff, not_or,
    Bool.not_eq_true, Dict.contains_eq_false_iff]

/-- The capacity checks, one by one. -/
theorem checkLimits_eq_ok_iff {nowMs : Nat} {request : ReservationRequest} {u : Unit} :
    rt.checkLimits nowMs request = .ok u ↔
      ¬ (rt.account.monthlyQuotaUnits.status = .known ∧ request.quotaUnits > 0 ∧
          rt.monthlyResetAtMs = 0) ∧
        rt.activeCount < rt.account.enforcedMaxInFlight ∧
        (∀ limit ∈ rt.account.rpmLimit.limit?, (rt.rpmStarts nowMs).length < limit) ∧
        (∀ limit ∈ rt.account.tpmLimit.limit?, request.totalTokenUpperBound ≤ limit) ∧
        (∀ limit ∈ rt.account.tpmLimit.limit?,
          tokenSum (rt.tpmStarts nowMs) + request.totalTokenUpperBound ≤ limit) ∧
        ∀ limit ∈ rt.account.monthlyQuotaUnits.limit?,
          rt.monthlyUsed + request.quotaUnits ≤ limit := by
  simp only [checkLimits, bind_eq_ok_iff, require_eq_ok_iff, exists_unit_and_iff]

/-! ## Dispatch and resolution -/

/-- **What `_mark_dispatched` can do.** -/
theorem markDispatched_cases (rt : AccountRuntime) (clock : Nat)
    (reply : Except RuntimeFault JournalReceipt) (attemptId : String) :
    (rt.markDispatched clock reply attemptId).1 = rt ∨
      (rt.markDispatched clock reply attemptId).1 = rt.tick clock ∨
      ∃ attempt receipt, rt.attempts.get? attemptId = some attempt ∧
        rt.resolutions.get? attemptId = none ∧ attempt.dispatchReceipt = none ∧
        reply = .ok receipt ∧
        (rt.tick clock).timeHighWaterMs < attempt.deadlineAtMs ∧
        rt.markDispatched clock reply attemptId =
          ({ rt.tick clock with
              attempts := rt.attempts.modify attemptId fun a =>
                { a with dispatchedAtMs := some (rt.tick clock).timeHighWaterMs
                         dispatchReceipt := some receipt } },
            .ok receipt) := by
  unfold markDispatched
  cases hattempt : rt.attempts.get? attemptId with
  | none => exact .inl rfl
  | some attempt =>
    simp only
    split
    · exact .inl rfl
    · next hres =>
      rw [Bool.not_eq_true, Dict.contains_eq_false_iff] at hres
      cases hreceipt : attempt.dispatchReceipt with
      | some receipt => exact .inl rfl
      | none =>
        simp only
        split
        · exact .inr (.inl rfl)
        · next hdeadline =>
          cases reply with
          | error e => exact .inr (.inl rfl)
          | ok receipt =>
            exact .inr (.inr ⟨attempt, receipt, rfl, hres, hreceipt, rfl, by omega, rfl⟩)

/-- The guards on the way to a journaled resolution. -/
structure Resolves (rt : AccountRuntime) (attemptId : String) (attempt : Attempt)
    (r : AttemptResolution) : Prop where
  unresolved : rt.resolutions.get? attemptId = none
  held : rt.attempts.get? attemptId = some attempt
  tokens : r.actualTokenUnits.getD 0 ≤ attempt.reservedTokens
  quota : r.actualQuotaUnits.getD 0 ≤ attempt.quotaUnits
  started : ∃ s, rt.starts.get? attemptId = some s

/-- **What `_finish` can do**: repeat an answer, fail, or resolve. -/
theorem finish_cases (cfg : RuntimeConfig) (rt : AccountRuntime) (clock : Nat)
    (reply : Except RuntimeFault JournalReceipt) (attemptId : String) (r : AttemptResolution) :
    (rt.finish cfg clock reply attemptId r).1 = rt ∧
        (∀ receipt, (rt.finish cfg clock reply attemptId r).2 = .ok receipt →
          ∃ resolved, rt.resolutions.get? attemptId = some resolved) ∨
      ((rt.finish cfg clock reply attemptId r).1 = rt.tick clock ∧
        ∀ receipt, (rt.finish cfg clock reply attemptId r).2 ≠ .ok receipt) ∨
      ∃ attempt receipt, rt.Resolves attemptId attempt r ∧ reply = .ok receipt ∧
        rt.finish cfg clock reply attemptId r =
          ((rt.tick clock).resolve attemptId attempt r (cfg.digests.resolution r).text receipt
            (rt.tick clock).timeHighWaterMs, .ok receipt) := by
  unfold finish
  cases hres : rt.resolutions.get? attemptId with
  | some resolved =>
    simp only
    split
    · exact .inl ⟨rfl, fun _ h => by cases h⟩
    · exact .inl ⟨rfl, fun _ _ => ⟨resolved, rfl⟩⟩
  | none =>
    cases hattempt : rt.attempts.get? attemptId with
    | none => exact .inl ⟨rfl, fun _ h => by cases h⟩
    | some attempt =>
      simp only
      split
      · exact .inl ⟨rfl, fun _ h => by cases h⟩
      · next htokens =>
        split
        · exact .inl ⟨rfl, fun _ h => by cases h⟩
        · next hquota =>
          cases reply with
          | error e => exact .inr (.inl ⟨rfl, fun _ h => by cases h⟩)
          | ok receipt =>
            cases hstart : (rt.tick clock).starts.get? attemptId with
            | none => exact .inr (.inl ⟨rfl, fun _ h => by cases h⟩)
            | some s =>
              refine .inr (.inr ⟨attempt, receipt,
                ⟨hres, hattempt, by omega, by omega, s, hstart⟩, rfl, rfl⟩)

/-! ## Circuits, counts and probes -/

/-- **What a compare-and-swap can do.** -/
theorem compareAndSwap_cases (rt : AccountRuntime) (reply : Except RuntimeFault JournalReceipt)
    (scope : Option DeploymentGenerationId)
    (expected replacement : CircuitValue) :
    (rt.compareAndSwap reply scope expected replacement).1 = rt ∨
      rt.scopedCircuit scope = expected ∧ expected.epoch ≤ replacement.epoch ∧
        replacement ≠ expected ∧ (∃ receipt, reply = .ok receipt) ∧
        rt.compareAndSwap reply scope expected replacement =
          (rt.replaceCircuit scope expected replacement, .ok true) := by
  unfold compareAndSwap
  split
  · exact .inl rfl
  · next hcurrent =>
    split
    · exact .inl rfl
    · next hepoch =>
      split
      · exact .inl rfl
      · next hne =>
        cases reply with
        | error e => exact .inl rfl
        | ok receipt =>
          exact .inr ⟨not_not.mp hcurrent, by omega, hne, ⟨receipt, rfl⟩, rfl⟩

/-- **What an authoritative count can do.** -/
theorem applyAuthoritativeActiveCount_cases (rt : AccountRuntime)
    (reply : Except RuntimeFault JournalReceipt) (count : Nat) :
    (rt.applyAuthoritativeActiveCount reply count).1 = rt ∨
      rt.hasActive = false ∧ (∃ receipt, reply = .ok receipt) ∧
        rt.applyAuthoritativeActiveCount reply count = (rt.setActiveCount count, .ok ()) := by
  unfold applyAuthoritativeActiveCount
  split
  · exact .inl rfl
  · next hactive =>
    cases reply with
    | error e => exact .inl rfl
    | ok receipt => exact .inr ⟨by simpa using hactive, ⟨receipt, rfl⟩, rfl⟩

/-- **What the start of a recovery probe can do.** -/
theorem beginRecoveryProbe_cases (rt : AccountRuntime)
    (reply : Except RuntimeFault JournalReceipt) (probeId : String) :
    (rt.beginRecoveryProbe reply probeId).1 = rt ∨
      probeId.toList.take 6 = "probe_".toList ∧ rt.recoveryProbeId = none ∧
        rt.uncertainCount ≠ 0 ∧ rt.hasActive = false ∧ (∃ receipt, reply = .ok receipt) ∧
        rt.beginRecoveryProbe reply probeId =
          ({ rt with recoveryProbeId := some probeId }, .ok true) := by
  unfold beginRecoveryProbe
  split
  · exact .inl rfl
  · next htyped =>
    split
    · exact .inl rfl
    · next hfree =>
      rw [not_or, not_or, not_not] at hfree
      cases reply with
      | error e => exact .inl rfl
      | ok receipt =>
        exact .inr ⟨not_not.mp htyped, hfree.1, hfree.2.1, by simpa using hfree.2.2,
          ⟨receipt, rfl⟩, rfl⟩

/-- **What the end of a recovery probe can do.** -/
theorem finishRecoveryProbe_cases (rt : AccountRuntime)
    (reply : Except RuntimeFault JournalReceipt) (probeId : String)
    (classification : ProbeClassification) :
    (rt.finishRecoveryProbe reply probeId classification).1 = rt ∨
      rt.recoveryProbeId = some probeId ∧ rt.hasActive = false ∧
        (∃ receipt, reply = .ok receipt) ∧
        rt.finishRecoveryProbe reply probeId classification =
          (rt.endRecoveryProbe classification, .ok ()) := by
  unfold finishRecoveryProbe
  split
  · exact .inl rfl
  · next hprobe =>
    split
    · exact .inl rfl
    · next hactive =>
      cases reply with
      | error e => exact .inl rfl
      | ok receipt =>
        exact .inr ⟨not_not.mp hprobe, by simpa using hactive, ⟨receipt, rfl⟩, rfl⟩

/-- The end of a recovery probe removes one hold, one uncertain attempt, or nothing. -/
theorem endRecoveryProbe_cases (rt : AccountRuntime) (classification : ProbeClassification) :
    rt.endRecoveryProbe classification = { rt with recoveryProbeId := none } ∨
      rt.endRecoveryProbe classification =
        { rt with externalUncertainHolds := rt.externalUncertainHolds - 1
                  recoveryProbeId := none } ∨
      ∃ oldest, rt.endRecoveryProbe classification =
        { rt with attempts := rt.attempts.erase oldest, recoveryProbeId := none } := by
  unfold endRecoveryProbe
  by_cases havailable : classification = .available
  · by_cases hholds : rt.externalUncertainHolds ≠ 0
    · exact .inr (.inl (by simp only [havailable, if_true, if_pos hholds]))
    · cases hordered : orderedAttempts
          (rt.attempts.entries.filter fun q => q.2.state == .uncertain) with
      | nil => exact .inl (by simp only [havailable, if_true, if_neg hholds])
      | cons oldest rest =>
        exact .inr (.inr ⟨oldest, by simp only [havailable, if_true, if_neg hholds]⟩)
  · exact .inl (by simp only [if_neg havailable])

end AccountRuntime

end LlmMaxxing
