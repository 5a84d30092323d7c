import LlmMaxxing.Gateway.AccountLaws

/-!
# Calls as records

Every call on an account lets time pass and then, if it journals a record, takes the effect of
that record. `Idle` is the first part: windows and the ledger are pruned, the month may roll, the
rest stays. `take` is the second part, as a function of the record alone. `call_cases` says that
there is nothing else, with every guard (`Guarded`) that a journaled record has passed.
-/

namespace LlmMaxxing

open Check

namespace AccountRuntime

/-! ## Letting time pass -/

/-- The monthly counter as it was, or rolled over at the current time. -/
def MonthPasses (rt rt' : AccountRuntime) : Prop :=
  (rt'.monthlyUsed = rt.monthlyUsed ∧ rt'.monthlyResetAtMs = rt.monthlyResetAtMs) ∨
    (rt.monthlyResetAtMs ≠ 0 ∧ rt.monthlyResetAtMs ≤ rt'.timeHighWaterMs ∧
      rt'.monthlyUsed = 0 ∧ rt'.monthlyResetAtMs = 0)

theorem MonthPasses.trans {rt₁ rt₂ rt₃ : AccountRuntime} (h₁ : MonthPasses rt₁ rt₂)
    (h₂ : MonthPasses rt₂ rt₃) (htime : rt₂.timeHighWaterMs ≤ rt₃.timeHighWaterMs) :
    MonthPasses rt₁ rt₃ := by
  -- a month that rolled has no reset left, so it does not roll again
  rcases h₁ with ⟨hu, hr⟩ | ⟨hne, hle, hu, hr⟩ <;>
    rcases h₂ with ⟨hu', hr'⟩ | ⟨hne', hle', hu', hr'⟩
  · exact .inl ⟨hu'.trans hu, hr'.trans hr⟩
  · exact .inr ⟨hr ▸ hne', hr ▸ hle', hu', hr'⟩
  · exact .inr ⟨hne, by omega, hu'.trans hu, hr'.trans hr⟩
  · exact absurd hr hne'

/-- The part of the state that time does not touch. -/
structure SameHolds (rt rt' : AccountRuntime) : Prop where
  account : rt'.account = rt.account
  attempts : rt'.attempts = rt.attempts
  circuits : rt'.circuits = rt.circuits
  accountCircuit : rt'.accountCircuit = rt.accountCircuit
  consumed : rt'.consumedCircuitProbes = rt.consumedCircuitProbes
  holds : rt'.externalUncertainHolds = rt.externalUncertainHolds
  probe : rt'.recoveryProbeId = rt.recoveryProbeId

theorem SameHolds.refl (rt : AccountRuntime) : SameHolds rt rt := ⟨rfl, rfl, rfl, rfl, rfl, rfl, rfl⟩

theorem SameHolds.trans {rt₁ rt₂ rt₃ : AccountRuntime} (h₁ : SameHolds rt₁ rt₂)
    (h₂ : SameHolds rt₂ rt₃) : SameHolds rt₁ rt₃ :=
  ⟨h₂.account.trans h₁.account, h₂.attempts.trans h₁.attempts, h₂.circuits.trans h₁.circuits,
    h₂.accountCircuit.trans h₁.accountCircuit, h₂.consumed.trans h₁.consumed,
    h₂.holds.trans h₁.holds, h₂.probe.trans h₁.probe⟩

/-- Time passes: rows and ledger entries only go, a row goes when it is too old for every window
and its attempt is not held, a ledger entry when its attempt is not held. -/
structure Idle (rt rt' : AccountRuntime) : Prop extends SameHolds rt rt' where
  time : rt.timeHighWaterMs ≤ rt'.timeHighWaterMs
  starts : rt'.starts.entries.Sublist rt.starts.entries
  young : ∀ id s, rt.starts.get? id = some s →
    (rt'.timeHighWaterMs < s.startedAtMs + keepMs ∨ rt.attempts.contains id = true) →
    rt'.starts.get? id = some s
  resolutions : rt'.resolutions.entries.Sublist rt.resolutions.entries
  held : ∀ id r, rt.resolutions.get? id = some r → rt.attempts.contains id = true →
    rt'.resolutions.get? id = some r
  month : MonthPasses rt rt'

namespace Idle

theorem refl (rt : AccountRuntime) : Idle rt rt where
  toSameHolds := SameHolds.refl rt
  time := le_rfl
  starts := List.Sublist.refl _
  young _ _ h _ := h
  resolutions := List.Sublist.refl _
  held _ _ h _ := h
  month := .inl ⟨rfl, rfl⟩

theorem trans {rt₁ rt₂ rt₃ : AccountRuntime} (h₁ : Idle rt₁ rt₂) (h₂ : Idle rt₂ rt₃) :
    Idle rt₁ rt₃ where
  toSameHolds := h₁.toSameHolds.trans h₂.toSameHolds
  time := h₁.time.trans h₂.time
  starts := h₂.starts.trans h₁.starts
  young id s h hkept := by
    have htime := h₂.time
    refine h₂.young id s (h₁.young id s h ?_) ?_
    · exact hkept.imp_left fun hyoung => lt_of_le_of_lt htime hyoung
    · rwa [h₁.attempts]
  resolutions := h₂.resolutions.trans h₁.resolutions
  held id r h hkept := h₂.held id r (h₁.held id r h hkept) (by rwa [h₁.attempts])
  month := h₁.month.trans h₂.month h₂.time

variable {rt rt' : AccountRuntime}

theorem starts_old (h : Idle rt rt') {id : String} {s : Start}
    (hs : rt'.starts.get? id = some s) : rt.starts.get? id = some s :=
  Dict.mem_entries_iff.mp (h.starts.subset (Dict.mem_entries_iff.mpr hs))

theorem resolutions_old (h : Idle rt rt') {id : String} {r : ResolvedAttempt}
    (hr : rt'.resolutions.get? id = some r) : rt.resolutions.get? id = some r :=
  Dict.mem_entries_iff.mp (h.resolutions.subset (Dict.mem_entries_iff.mpr hr))

end Idle

theorem idle_tick (rt : AccountRuntime) (clock : Nat) : Idle rt (rt.tick clock) :=
  { Idle.refl rt with
    time := le_max_left _ _
    young := fun _ _ h _ => h
    month := .inl ⟨rfl, rfl⟩ }

theorem idle_pruneResolutions (cfg : RuntimeConfig) (rt : AccountRuntime) (nowMs : Nat) :
    Idle rt (rt.pruneResolutions cfg nowMs) :=
  { Idle.refl rt with
    resolutions := List.filter_sublist
    held := fun id r h hheld => by
      -- the resolution of a held attempt is not pruned
      rw [pruneResolutions, Dict.get?_filter, h]
      simp [Option.filter, hheld]
    month := .inl ⟨rfl, rfl⟩ }

theorem idle_purgeWindows (rt : AccountRuntime) :
    Idle rt (rt.purgeWindows rt.timeHighWaterMs) :=
  { Idle.refl rt with
    starts := List.filter_sublist
    young := fun id s h hkept => by
      rw [purgeWindows, Dict.get?_filter, h, Option.filter_some]
      rcases hkept with hyoung | hheld
      · have hyoung : rt.timeHighWaterMs < s.startedAtMs + keepMs := hyoung
        have hkept : ¬ ((s.startedAtMs : Int) ≤ (rt.timeHighWaterMs : Int) - keepMs) := by omega
        simp only [decide_eq_false hkept, Bool.false_and, Bool.not_false, if_true]
      · simp only [hheld, Bool.not_true, Bool.and_false, Bool.not_false, if_true]
    month := .inl ⟨rfl, rfl⟩ }

theorem idle_rollMonthly (rt : AccountRuntime) : Idle rt (rt.rollMonthly rt.timeHighWaterMs) := by
  unfold rollMonthly
  split
  · next h => exact { Idle.refl rt with month := .inr ⟨h.1, h.2, rfl, rfl⟩ }
  · exact Idle.refl rt

theorem idle_pruned (cfg : RuntimeConfig) (rt : AccountRuntime) (clock : Nat) :
    Idle rt (rt.pruned cfg clock) :=
  (idle_tick rt clock).trans (idle_pruneResolutions cfg _ _)

theorem idle_prepared (cfg : RuntimeConfig) (rt : AccountRuntime) (clock : Nat) :
    Idle rt (rt.prepared cfg clock) :=
  ((idle_pruned cfg rt clock).trans (idle_purgeWindows (rt.pruned cfg clock))).trans
    (idle_rollMonthly _)

theorem idle_capacity (rt : AccountRuntime) (clock : Nat) : Idle rt (rt.capacity clock) :=
  ((idle_tick rt clock).trans (idle_purgeWindows (rt.tick clock))).trans (idle_rollMonthly _)

/-! ## The effect of a record -/

/-- The effect of a journaled record in the process that wrote it. -/
def take (rt : AccountRuntime) (receipt : JournalReceipt) : RecordBody → AccountRuntime
  | .accountRegistered .. => rt
  | .attemptReserved d => rt.reserve d
  | .attemptDispatched attemptId dispatchedAtMs =>
    { rt with
      attempts := rt.attempts.modify attemptId fun a =>
        { a with dispatchedAtMs := some dispatchedAtMs, dispatchReceipt := some receipt } }
  | .attemptUncertain attemptId _ =>
    { rt with attempts := rt.attempts.modify attemptId fun a => { a with state := .uncertain } }
  | .attemptResolved attemptId r digest resolvedAtMs =>
    match rt.attempts.get? attemptId, rt.starts.get? attemptId with
    | some attempt, some _ => rt.resolve attemptId attempt r digest receipt resolvedAtMs
    | _, _ => rt
  | .circuitUpdated _ scope value => rt.replaceCircuit scope (rt.scopedCircuit scope) value
  | .authoritativeActiveCount _ count => rt.setActiveCount count
  | .recoveryProbeStarted _ probeId => { rt with recoveryProbeId := some probeId }
  | .recoveryProbeFinished _ _ classification => rt.endRecoveryProbe classification

@[simp] theorem replaceCircuit_account (rt : AccountRuntime)
    (scope : Option DeploymentGenerationId) (previous value : CircuitValue) :
    (rt.replaceCircuit scope previous value).account = rt.account := by
  cases scope <;> rfl

@[simp] theorem endRecoveryProbe_account (rt : AccountRuntime)
    (classification : ProbeClassification) :
    (rt.endRecoveryProbe classification).account = rt.account := by
  rcases endRecoveryProbe_cases rt classification with h | h | ⟨oldest, h⟩ <;> rw [h]

/-- No record changes the publication of an account. -/
@[simp] theorem take_account (rt : AccountRuntime) (receipt : JournalReceipt) (body : RecordBody) :
    (rt.take receipt body).account = rt.account := by
  cases body with
  | attemptResolved =>
    simp only [take]
    split <;> rfl
  | circuitUpdated => exact replaceCircuit_account _ _ _ _
  | recoveryProbeFinished => exact endRecoveryProbe_account _ _
  | _ => rfl

/-- The guards a call passes before it asks for a record; `mid` is the account after the time of
the call has passed. -/
def Guarded (cfg : RuntimeConfig) (rt mid : AccountRuntime) : RecordBody → Prop
  | .accountRegistered .. => False
  | .attemptReserved d => ∃ status clock request, rt.Admits cfg status clock request ∧
      d = rt.admittedRecord cfg clock request ∧ mid = rt.prepared cfg clock
  | .attemptDispatched attemptId dispatchedAtMs => ∃ a, rt.attempts.get? attemptId = some a ∧
      rt.resolutions.get? attemptId = none ∧ a.dispatchReceipt = none ∧
      dispatchedAtMs = mid.timeHighWaterMs ∧ dispatchedAtMs < a.deadlineAtMs
  | .attemptUncertain .. => False
  | .attemptResolved attemptId r digest resolvedAtMs => ∃ a,
      rt.resolutions.get? attemptId = none ∧ rt.attempts.get? attemptId = some a ∧
      r.actualTokenUnits.getD 0 ≤ a.reservedTokens ∧ r.actualQuotaUnits.getD 0 ≤ a.quotaUnits ∧
      digest = (cfg.digests.resolution r).text ∧ resolvedAtMs = mid.timeHighWaterMs ∧
      mid.monthlyUsed = rt.monthlyUsed ∧ mid.monthlyResetAtMs = rt.monthlyResetAtMs ∧
      mid.starts = rt.starts ∧ mid.resolutions = rt.resolutions
  | .circuitUpdated accountId scope value => accountId = rt.account.accountId ∧
      (rt.scopedCircuit scope).epoch ≤ value.epoch ∧ value ≠ rt.scopedCircuit scope
  | .authoritativeActiveCount accountId _ =>
      accountId = rt.account.accountId ∧ rt.hasActive = false
  | .recoveryProbeStarted accountId _ => accountId = rt.account.accountId ∧
      rt.recoveryProbeId = none ∧ rt.uncertainCount ≠ 0 ∧ rt.hasActive = false
  | .recoveryProbeFinished accountId probeId _ => accountId = rt.account.accountId ∧
      rt.recoveryProbeId = some probeId ∧ rt.hasActive = false

/-! ## Calls -/

/-- A call that asks for a reservation has passed every check, and a journal that takes the record
is followed by the reservation. -/
theorem reserve_journaled (cfg : RuntimeConfig) (rt : AccountRuntime) {status : JournalStatus}
    {clock : Nat} {request : ReservationRequest} {body : RecordBody}
    (h : rt.asks cfg (.reserve status clock request) = some body) :
    rt.Admits cfg status clock request ∧
      body = .attemptReserved (rt.admittedRecord cfg clock request) ∧
      ∀ receipt, rt.tryReserve cfg status clock (.ok receipt) request =
        ((rt.prepared cfg clock).reserve (rt.admittedRecord cfg clock request),
          .granted receipt) := by
  rcases planReserve_cases cfg rt status clock request with
    ⟨rt', denial, hplan, -⟩ | ⟨hadmits, hplan⟩
  · simp only [asks, hplan] at h
    cases h
  · simp only [asks, hplan, Option.some.injEq] at h
    refine ⟨hadmits, h.symm, fun receipt => ?_⟩
    rw [tryReserve, hplan]

/-- **A journaled call is time passing and then its record.** -/
theorem call_journaled (cfg : RuntimeConfig) (rt : AccountRuntime) {c : AccountCall}
    {body : RecordBody} (h : rt.asks cfg c = some body) :
    ∃ mid, Idle rt mid ∧ Guarded cfg rt mid body ∧
      ∀ receipt, rt.call cfg (.ok receipt) c = mid.take receipt body := by
  cases c with
  | reserve status clock request =>
    obtain ⟨hadmits, rfl, hgranted⟩ := reserve_journaled cfg rt h
    refine ⟨rt.prepared cfg clock, idle_prepared cfg rt clock,
      ⟨status, clock, request, hadmits, rfl, rfl⟩, fun receipt => ?_⟩
    show (rt.tryReserve cfg status clock (.ok receipt) request).1 = _
    rw [hgranted receipt]
    rfl
  | dispatch clock attemptId =>
    simp only [asks] at h
    split at h
    · next a ha =>
      split at h
      · cases h
      · next hguard =>
        rw [not_or, not_or, not_not, Bool.not_eq_true, Dict.contains_eq_false_iff, not_le] at hguard
        obtain ⟨hres, hreceipt, hdeadline⟩ := hguard
        cases h
        refine ⟨rt.tick clock, idle_tick rt clock, ⟨a, ha, hres, hreceipt, rfl, hdeadline⟩,
          fun receipt => ?_⟩
        have hcontains : rt.resolutions.contains attemptId = false :=
          Dict.contains_eq_false_iff.mpr hres
        simp only [call, markDispatched, ha, hcontains, hreceipt, Bool.false_eq_true, if_false,
          ge_iff_le, not_le.mpr hdeadline, take]
    · cases h
  | finish clock attemptId r =>
    simp only [asks] at h
    split at h
    · next a hres ha =>
      split at h
      · cases h
      · next hguard =>
        rw [not_or, not_lt, not_lt] at hguard
        cases h
        refine ⟨rt.tick clock, idle_tick rt clock,
          ⟨a, hres, ha, hguard.1, hguard.2, rfl, rfl, rfl, rfl, rfl, rfl⟩, fun receipt => ?_⟩
        have ha' : (rt.tick clock).attempts.get? attemptId = some a := ha
        simp only [call, finish, hres, ha, gt_iff_lt, not_lt.mpr hguard.1, not_lt.mpr hguard.2,
          if_false, take, ha']
        cases (rt.tick clock).starts.get? attemptId <;> rfl
    · cases h
  | capacity clock => cases h
  | swapCircuit scope expected replacement =>
    simp only [asks] at h
    split at h
    · next hguard =>
      obtain ⟨rfl, hepoch, hne⟩ := hguard
      cases h
      refine ⟨rt, Idle.refl rt, ⟨rfl, hepoch, hne⟩, fun receipt => ?_⟩
      simp only [call, compareAndSwap, ne_eq, not_true_eq_false, if_false, not_lt.mpr hepoch,
        if_neg hne, take]
    · cases h
  | activeCount count =>
    simp only [asks] at h
    split at h
    · cases h
    · next hactive =>
      cases h
      rw [Bool.not_eq_true] at hactive
      refine ⟨rt, Idle.refl rt, ⟨rfl, hactive⟩, fun receipt => ?_⟩
      simp only [call, applyAuthoritativeActiveCount, hactive, Bool.false_eq_true, if_false, take]
  | beginProbe probeId =>
    simp only [asks] at h
    split at h
    · cases h
    · next hguard =>
      rw [not_or, not_or, not_or, Bool.not_eq_true] at hguard
      obtain ⟨htyped, hprobe, huncertain, hactive⟩ := hguard
      cases h
      refine ⟨rt, Idle.refl rt, ⟨rfl, not_not.mp hprobe, huncertain, hactive⟩, fun receipt => ?_⟩
      have hfree : ¬ (rt.recoveryProbeId ≠ none ∨ rt.uncertainCount = 0 ∨ rt.hasActive = true) := by
        rw [not_or, not_or, Bool.not_eq_true]
        exact ⟨hprobe, huncertain, hactive⟩
      simp only [call, beginRecoveryProbe, if_neg htyped, if_neg hfree, take]
  | finishProbe probeId classification =>
    simp only [asks] at h
    split at h
    · cases h
    · next hguard =>
      rw [not_or, not_not, Bool.not_eq_true] at hguard
      cases h
      refine ⟨rt, Idle.refl rt, ⟨rfl, hguard.1, hguard.2⟩, fun receipt => ?_⟩
      simp only [call, finishRecoveryProbe, hguard.1, hguard.2, ne_eq, not_true_eq_false, if_false,
        Bool.false_eq_true, take]

/-- **A call that journals nothing only lets time pass.** -/
theorem call_idle (cfg : RuntimeConfig) (rt : AccountRuntime)
    {reply : Except RuntimeFault JournalReceipt} {c : AccountCall}
    (h : rt.asks cfg c = none ∨ ∃ e, reply = .error e) : Idle rt (rt.call cfg reply c) := by
  cases c with
  | reserve status clock request =>
    show Idle rt (rt.tryReserve cfg status clock reply request).1
    rcases planReserve_cases cfg rt status clock request with
      ⟨rt', denial, hplan, hrt'⟩ | ⟨-, hplan⟩
    · rw [tryReserve, hplan]
      rcases hrt' with rfl | rfl | rfl
      · exact Idle.refl rt'
      · exact idle_pruned cfg rt clock
      · exact idle_prepared cfg rt clock
    · rcases h with hasks | ⟨fault, rfl⟩
      · -- an admitted request asks
        simp only [asks, hplan] at hasks
        cases hasks
      · rw [tryReserve, hplan]
        cases fault with
        | journalUnavailable reason =>
          simp only
          split <;> exact idle_prepared cfg rt clock
        | _ => exact idle_prepared cfg rt clock
  | dispatch clock attemptId =>
    show Idle rt (rt.markDispatched clock reply attemptId).1
    rcases markDispatched_cases rt clock reply attemptId with
      hsame | htick | ⟨a, receipt, ha, hres, hreceipt, rfl, hdeadline, -⟩
    · rw [hsame]; exact Idle.refl rt
    · rw [htick]; exact idle_tick rt clock
    · rcases h with hasks | ⟨e, he⟩
      · have hcontains := Dict.contains_eq_false_iff.mpr hres
        simp [asks, ha, hcontains, hreceipt, not_le.mpr hdeadline] at hasks
      · cases he
  | finish clock attemptId r =>
    show Idle rt (rt.finish cfg clock reply attemptId r).1
    rcases finish_cases cfg rt clock reply attemptId r with
      ⟨hsame, -⟩ | ⟨htick, -⟩ | ⟨a, receipt, hresolves, rfl, -⟩
    · rw [hsame]; exact Idle.refl rt
    · rw [htick]; exact idle_tick rt clock
    · rcases h with hasks | ⟨e, he⟩
      · simp [asks, hresolves.unresolved, hresolves.held, not_lt.mpr hresolves.tokens,
          not_lt.mpr hresolves.quota] at hasks
      · cases he
  | capacity clock => exact idle_capacity rt clock
  | swapCircuit scope expected replacement =>
    show Idle rt (rt.compareAndSwap reply scope expected replacement).1
    rcases compareAndSwap_cases rt reply scope expected replacement with
      hsame | ⟨hcurrent, hepoch, hne, ⟨receipt, rfl⟩, -⟩
    · rw [hsame]; exact Idle.refl rt
    · rcases h with hasks | ⟨e, he⟩
      · simp [asks, hcurrent, hepoch, hne] at hasks
      · cases he
  | activeCount count =>
    show Idle rt (rt.applyAuthoritativeActiveCount reply count).1
    rcases applyAuthoritativeActiveCount_cases rt reply count with
      hsame | ⟨hactive, ⟨receipt, rfl⟩, -⟩
    · rw [hsame]; exact Idle.refl rt
    · rcases h with hasks | ⟨e, he⟩
      · simp [asks, hactive] at hasks
      · cases he
  | beginProbe probeId =>
    show Idle rt (rt.beginRecoveryProbe reply probeId).1
    rcases beginRecoveryProbe_cases rt reply probeId with
      hsame | ⟨htyped, hprobe, huncertain, hactive, ⟨receipt, rfl⟩, -⟩
    · rw [hsame]; exact Idle.refl rt
    · rcases h with hasks | ⟨e, he⟩
      · simp [asks, htyped, hprobe, huncertain, hactive] at hasks
      · cases he
  | finishProbe probeId classification =>
    show Idle rt (rt.finishRecoveryProbe reply probeId classification).1
    rcases finishRecoveryProbe_cases rt reply probeId classification with
      hsame | ⟨hprobe, hactive, ⟨receipt, rfl⟩, -⟩
    · rw [hsame]; exact Idle.refl rt
    · rcases h with hasks | ⟨e, he⟩
      · simp [asks, hprobe, hactive] at hasks
      · cases he

end AccountRuntime

end LlmMaxxing
