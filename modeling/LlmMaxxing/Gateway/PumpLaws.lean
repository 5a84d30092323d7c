import LlmMaxxing.Gateway.AdmissionLaws

/-!
# What a pump step does

The three parts of a pump as case lemmas: `turn_cases`, `hold_cases` and `grant_spec`. Each says
how a part goes on and by which moves it got there. `Made` is what a proposal carries from a turn to
its grant: the queue does not change in between, so the selection is still current.
-/

namespace LlmMaxxing

open Check Fallible RequestAuthorizationCeiling

namespace AdmissionController

variable {c c' : AdmissionController} {r : RequestId} {w : Waiter} {p : Providers}
  {fault : AdmissionFault} {result : FutureResult} {excluded : List RequestId}

/-! ## What moves leave alone -/

/-- Permits, leases and the bound. -/
structure SamePermits (c c' : AdmissionController) : Prop where
  activeByKey : c'.activeByKey = c.activeByKey
  grants : c'.grants = c.grants
  stranded : c'.stranded = c.stranded
  maxWaitersGlobal : c'.maxWaitersGlobal = c.maxWaitersGlobal
  nextFuture : c'.nextFuture = c.nextFuture

theorem resolve_samePermits {n : Nat} : SamePermits c (c.resolve n result) := by
  unfold resolve
  split <;> exact ⟨rfl, rfl, rfl, rfl, rfl⟩

theorem dropWaiter_samePermits : SamePermits c (c.dropWaiter w result) :=
  { resolve_samePermits with }

theorem Move.samePermits (h : Move c c') : SamePermits c c' := by
  cases h with
  | revised => exact ⟨rfl, rfl, rfl, rfl, rfl⟩
  | lowered => exact ⟨rfl, rfl, rfl, rfl, rfl⟩
  | failed => exact dropWaiter_samePermits

theorem Moves.samePermits (h : Moves c c') : SamePermits c c' := by
  induction h with
  | refl => exact ⟨rfl, rfl, rfl, rfl, rfl⟩
  | tail _ hlast ih =>
    have h := hlast.samePermits
    exact ⟨h.activeByKey.trans ih.activeByKey, h.grants.trans ih.grants,
      h.stranded.trans ih.stranded, h.maxWaitersGlobal.trans ih.maxWaitersGlobal,
      h.nextFuture.trans ih.nextFuture⟩

theorem keys_setWaiter (hget : c.waiters.get? w.request.requestId ≠ none) :
    (c.setWaiter w).waiters.keys = c.waiters.keys :=
  Dict.keys_insert_of_get? hget

theorem keys_dropWaiter : (c.dropWaiter w result).waiters.keys.Sublist c.waiters.keys := by
  rw [dropWaiter_waiters]
  exact Dict.keys_erase_sublist _ _

/-- Moves only take waiters away. -/
theorem Move.keys (h : Move c c') : c'.waiters.keys.Sublist c.waiters.keys := by
  cases h with
  | @revised r w w' hget hrequest hfuture hsound =>
    rw [keys_setWaiter]
    rw [hsound.requestId, hget]
    exact Option.some_ne_none _
  | lowered => exact List.Sublist.refl _
  | failed fault hget => exact keys_dropWaiter

theorem Moves.keys (h : Moves c c') : c'.waiters.keys.Sublist c.waiters.keys := by
  induction h with
  | refl => exact List.Sublist.refl _
  | tail _ hlast ih => exact hlast.keys.trans ih

/-- The waiters a turn may still select. -/
def pending (c : AdmissionController) (excluded : List RequestId) : Nat :=
  c.waiters.keys.countP fun r => r ∉ excluded

theorem size_eq (c : AdmissionController) : c.waiters.size = c.waiters.keys.length :=
  (List.length_map _).symm

theorem pending_le_size : c.pending excluded ≤ c.waiters.size := by
  rw [size_eq]
  exact List.countP_le_length

theorem pending_le_of_keys (h : c'.waiters.keys.Sublist c.waiters.keys) :
    c'.pending excluded ≤ c.pending excluded :=
  h.countP_le

theorem size_le_of_keys (h : c'.waiters.keys.Sublist c.waiters.keys) :
    c'.waiters.size ≤ c.waiters.size := by
  rw [size_eq, size_eq]
  exact h.length_le

/-- Excluding a waiter leaves one less. -/
theorem pending_cons (hget : c.waiters.get? r = some w) (hfresh : r ∉ excluded) :
    c.pending (r :: excluded) + 1 = c.pending excluded := by
  have hmem : r ∈ c.waiters.keys := Dict.mem_keys_iff.mpr ⟨w, hget⟩
  obtain ⟨before, after, hkeys⟩ := List.append_of_mem hmem
  have hnodup : c.waiters.keys.Nodup := c.waiters.nodup
  rw [hkeys, List.nodup_append, List.nodup_cons] at hnodup
  obtain ⟨-, ⟨hafter, -⟩, hbefore⟩ := hnodup
  have hsame : ∀ l : List RequestId, r ∉ l →
      (l.countP fun r' => r' ∉ r :: excluded) = l.countP fun r' => r' ∉ excluded := by
    intro l hl
    refine List.countP_congr fun r' hr' => ?_
    have hne : r' ≠ r := fun heq => hl (heq ▸ hr')
    simp [hne]
  have hbefore : r ∉ before := fun h => hbefore r h r List.mem_cons_self rfl
  unfold pending
  rw [hkeys, List.countP_append, List.countP_append, List.countP_cons, List.countP_cons,
    hsame before hbefore, hsame after hafter]
  simp [hfresh]
  omega

/-- Dropping a waiter leaves one less. -/
theorem size_dropWaiter (hget : c.waiters.get? r = some w) (hw : w.request.requestId = r) :
    (c.dropWaiter w result).waiters.size + 1 = c.waiters.size := by
  rw [dropWaiter_waiters, hw]
  exact (Dict.entries_perm_of_get? hget).length_eq.symm

/-- Storing a waiter again leaves their number. -/
theorem size_setWaiter (hget : c.waiters.get? w.request.requestId ≠ none) :
    (c.setWaiter w).waiters.size = c.waiters.size := by
  rw [size_eq, size_eq, keys_setWaiter hget]

/-! ## A turn -/

/-- The accounts of the candidates of every preview. -/
def accountsOf (previews : Dict RequestId (List Candidate)) : Dict RequestId (List AccountId) :=
  previews.mapValues fun _ candidates =>
    (candidates.map fun k => k.authorizedLeg.accountId).eraseDups

end AdmissionController

/-- A proposal over a queue, from the previews of a turn. -/
structure PumpProposal.Made (queue : WDRRQueue) (proposal : PumpProposal)
    (previews : Dict RequestId (List Candidate)) : Prop where
  source : ∃ c c' providers, AdmissionController.previews c providers = (c', .ok previews) ∧
    c'.queue = queue
  fresh : proposal.selection.entry.requestId ∉ proposal.excluded
  current : queue.commit proposal.selection =
    .ok { queue with
      fairness := proposal.selection.fairness
      queued := queue.queued.erase proposal.selection.entry.requestId
      version := queue.version + 1 }
  previewed : previews.get? proposal.selection.entry.requestId = some proposal.candidates
  candidates_ne : proposal.candidates ≠ []
  accounts : proposal.accounts =
    (proposal.candidates.map fun k => k.authorizedLeg.accountId).eraseDups
  allowed : proposal.allowed = queue.unprotectedAccounts proposal.selection.entry proposal.accounts
    (AdmissionController.accountsOf previews)
  allowed_ne : proposal.allowed ≠ []

namespace AdmissionController

variable {c c' : AdmissionController} {r : RequestId} {w : Waiter} {p : Providers}
  {fault : AdmissionFault} {result : FutureResult} {excluded : List RequestId}

/-- How a turn ends. -/
inductive TurnEnds (excluded : List RequestId) (previews : Dict RequestId (List Candidate))
    (c' : AdmissionController) : PumpStep → Prop
  | returned : TurnEnds excluded previews c' .returned
  | continued {r : RequestId} {w : Waiter} (hfresh : r ∉ excluded)
      (hget : c'.waiters.get? r = some w) :
      TurnEnds excluded previews c' (.continued (r :: excluded))
  | proposed {proposal : PumpProposal} {w : Waiter} (hmade : proposal.Made c'.queue previews)
      (hexcluded : proposal.excluded = excluded)
      (hget : c'.waiters.get? proposal.selection.entry.requestId = some w) :
      TurnEnds excluded previews c' (.proposed proposal)

/-- **A turn raises nothing**: it ends the pump, excludes a waiter or makes a proposal. -/
theorem turn_cases {providers : RequestId → Providers} (hc : c.Lockstep)
    (hp : ∀ r, (providers r).Sound) (excluded : List RequestId) :
    ∃ c' ends previews, c.turn providers excluded = (c', .ok ends) ∧ Moves c c' ∧
      TurnEnds excluded previews c' ends := by
  unfold turn
  by_cases hnone : c.waiters.size = 0
  · rw [if_pos hnone]
    exact ⟨c, .returned, Dict.empty, rfl, .refl, .returned⟩
  rw [if_neg hnone]
  obtain ⟨c', previews, hpreviews, hmoves, hne⟩ := previews_spec hc hp
  have hc' := hmoves.lockstep hc
  simp only [hpreviews, andThen]
  cases hpropose : c'.queue.propose (fun entry => previews.contains entry.requestId) excluded with
  | none => exact ⟨c', .returned, previews, rfl, hmoves, .returned⟩
  | some selection =>
    -- the proposal chose a queued entry that was previewed and is not excluded
    obtain ⟨top, item, hproposes⟩ := WDRRQueue.propose_eq_some hpropose
    obtain ⟨hmem, havailable⟩ := List.mem_filter.mp hproposes.mem
    simp only [Bool.and_eq_true, decide_eq_true_eq] at havailable
    obtain ⟨hfresh, hcontains⟩ := havailable
    have hitem := hc'.coherent.get?_of_mem hmem
    rw [← hproposes.entry_eq] at hfresh hcontains hitem
    obtain ⟨w, hget⟩ := hc'.waits hitem
    obtain ⟨candidates, hcandidates⟩ := Dict.contains_iff.mp hcontains
    simp only [hget, hcandidates]
    split_ifs with hallowed
    · exact ⟨c', _, previews, rfl, hmoves, .continued hfresh hget⟩
    · refine ⟨c', _, previews, rfl, hmoves, .proposed ⟨⟨c, c', providers, hpreviews, rfl⟩, hfresh, ?_, hcandidates,
        hne _ _ hcandidates, rfl, rfl, hallowed⟩ rfl hget⟩
      have hcurrent : selection.queueVersion = c'.queue.version ∧
          (c'.queue.queued.get? selection.entry.requestId).map Queued.entry = some selection.entry := by
        rw [hitem, hproposes.entry_eq]
        exact ⟨hproposes.version_eq, rfl⟩
      rw [WDRRQueue.commit, if_pos hcurrent]

/-! ## From the gate to the reservation -/

/-- What an attempt rests on when its permit is taken: the waiter's authorization at that moment,
the deadline, the operational view, the queue and the budgets. -/
structure Justified (c : AdmissionController) (p : Providers) (proposal : PumpProposal) (w : Waiter)
    (current : RequestAuthorizationCeiling) (attempt : Attempted) : Prop where
  reauthorized : Reauthorized c p w current
  below_admitted : (w.effectiveCeiling.meet current).Below w.request.authorizationCeiling
  below_current : (w.effectiveCeiling.meet current).Below current
  inTime : p.clock 0 < (w.contract current).effectiveDeadlineAtMs
  offered : attempt.candidate ∈ RouteEngine.filter p.gate p.engine (w.effectiveCeiling.meet current)
    w.request.profile attempt.candidate.cause p.view ((w.contract current).routingContext (p.clock 1))
      []
  previewed : ∃ preview ∈ proposal.candidates, preview.authorizedLeg = attempt.candidate.authorizedLeg
  account : attempt.candidate.authorizedLeg.accountId ∈ proposal.allowed
  budget : (w.budget.syncRuntime p.view.dispatches).canSend attempt.candidate = true
  permit : c.activeCount w.request.client.keyId < (w.effectiveCeiling.meet current).maxConcurrency
  selection : attempt.excluded = proposal.excluded ∧ attempt.selection = proposal.selection
  keyId : attempt.keyId = w.request.client.keyId
  request : reservationOf p (w.contract current) attempt.candidate attempt.attemptId =
    .ok attempt.request

/-- A reservation with a bound above the largest integer. -/
def Unbookable (request : AdmissionRequest) (quotaUnits : Nat) : Prop :=
  maxInt < request.deadlineAtMs ∨ maxInt < quotaUnits ∨
    maxInt < request.profile.inputTokensMax + request.profile.outputTokensMax +
      request.profile.reasoningTokensMax

/-- How the part from the gate to the reservation ends. -/
inductive HoldEnds (c : AdmissionController) (p : Providers) (proposal : PumpProposal) (w : Waiter) :
    AdmissionController → Except AdmissionFault PumpStep → Prop
  | dropped {c' : AdmissionController} (hmoves : Moves c c')
      (hsize : c'.waiters.size + 1 = c.waiters.size) :
      HoldEnds c p proposal w c' (.ok (.continued proposal.excluded))
  | excluded {c' : AdmissionController} {w' : Waiter} (hmoves : Moves c c')
      (hget : c'.waiters.get? proposal.selection.entry.requestId = some w') :
      HoldEnds c p proposal w c'
        (.ok (.continued (proposal.selection.entry.requestId :: proposal.excluded)))
  | reserving {c' c'' : AdmissionController} {w' : Waiter} {attempt : Attempted}
      {current : RequestAuthorizationCeiling} (hmoves : Moves c c') (hqueue : c'.queue = c.queue)
      (hget : c'.waiters.get? proposal.selection.entry.requestId = some w')
      (hrequest : w'.request = w.request)
      (hcan : w'.budget.canSend attempt.candidate = true)
      (hacquire : c'.acquireActive w.request.client.keyId
        (w.effectiveCeiling.meet current).maxConcurrency = some c'')
      (hjustified : Justified c p proposal w current attempt) :
      HoldEnds c p proposal w c'' (.ok (.reserving attempt))
  | unbuildable {c' c'' : AdmissionController} {account : AccountId} {quotaUnits : Nat}
      {e : ValidationError} {current : RequestAuthorizationCeiling}
      (hmoves : Moves c c') (hlimit : (w.effectiveCeiling.meet current).Below
        w.request.authorizationCeiling)
      (hacquire : c'.acquireActive w.request.client.keyId
        (w.effectiveCeiling.meet current).maxConcurrency = some c'')
      (hquota : p.engine.quotaUnits account = .ok quotaUnits)
      (hrange : Unbookable w.request quotaUnits) :
      HoldEnds c p proposal w
        { c'' with stranded := w.request.client.keyId :: c''.stranded } (.error (.invalid e))

/-- Only a bound out of range keeps a reservation from being built. -/
theorem reservationOf_eq_error {candidate : Candidate} {attemptId : AttemptId} {quotaUnits : Nat}
    {q : WDRRQueue} (hw : w.Sound q r)
    (hquota : p.engine.quotaUnits candidate.authorizedLeg.accountId = .ok quotaUnits)
    (h : reservationOf p w candidate attemptId = .error fault) :
    (∃ e, fault = .invalid e) ∧ Unbookable w.request quotaUnits := by
  unfold reservationOf at h
  rw [hquota] at h
  dsimp only at h
  split at h
  · next e hinvalid =>
    refine ⟨⟨e, (Except.error.inj h).symm⟩, ?_⟩
    by_contra hfits
    have hvalid : (reservationFields w candidate attemptId quotaUnits).validate = .ok () := by
      have hpos := hw.deadline_pos
      have hle := hw.deadline_le
      have hfence := hw.admissible.fence
      have hgeneration := hw.admissible.generation
      simp only [Unbookable, not_or, not_lt] at hfits
      obtain ⟨hdeadline, hunits, htokens⟩ := hfits
      simp only [ReservationFields.validate, bind_eq_ok_iff, requireField_eq_ok_iff,
        requireValue_eq_ok_iff, exists_unit_and_iff]
      show _ ∧ _
      refine ⟨hfence, hgeneration, ⟨hpos, hle.trans hdeadline⟩, ?_, ?_, ?_, hunits, le_rfl, rfl, rfl, htokens⟩
      · show w.request.profile.inputTokensMax ≤ maxInt
        omega
      · show w.request.profile.outputTokensMax ≤ maxInt
        omega
      · show w.request.profile.reasoningTokensMax ≤ maxInt
        omega
    rw [hvalid] at hinvalid
    cases hinvalid
  · cases h

theorem acquireActive_eq_some {k : String} {n : Nat} (h : c.acquireActive k n = some c') :
    c.activeCount k < n ∧
      c' = { c with activeByKey := c.activeByKey.insert k (c.activeCount k + 1) } := by
  unfold acquireActive at h
  split_ifs at h with hfull
  exact ⟨by omega, (Option.some.inj h).symm⟩

/-- A confirmed candidate uses an account the queue allows. -/
theorem allowed_of_confirms {proposal : PumpProposal} {candidate : Candidate}
    (haccounts : proposal.accounts =
      (proposal.candidates.map fun k => k.authorizedLeg.accountId).eraseDups)
    (hconfirms : confirms proposal w candidate = true)
    (hkept : candidate.authorizedLeg.accountId ∉ proposal.accounts.filter fun a => a ∉ proposal.allowed) :
    (∃ preview ∈ proposal.candidates, preview.authorizedLeg = candidate.authorizedLeg) ∧
      candidate.authorizedLeg.accountId ∈ proposal.allowed ∧ w.budget.canSend candidate = true := by
  simp only [confirms, Bool.and_eq_true, List.any_eq_true, beq_iff_eq] at hconfirms
  obtain ⟨⟨preview, hpreview, hleg⟩, hcan⟩ := hconfirms
  refine ⟨⟨preview, hpreview, hleg⟩, ?_, hcan⟩
  have hmem : candidate.authorizedLeg.accountId ∈ proposal.accounts := by
    rw [haccounts, List.mem_eraseDups, ← hleg]
    exact List.mem_map.mpr ⟨preview, hpreview, rfl⟩
  by_contra hnot
  apply hkept
  simp [hmem, hnot]

/-- **From the gate to the reservation** a pump drops the waiter, excludes it, or takes a permit
for a justified attempt; only a reservation that cannot be built raises. -/
theorem hold_cases {proposal : PumpProposal} {previews : Dict RequestId (List Candidate)}
    (hc : c.Lockstep) (hp : p.Sound) (hmade : proposal.Made c.queue previews)
    (hget : c.waiters.get? proposal.selection.entry.requestId = some w) (attemptId : AttemptId) :
    HoldEnds c p proposal w (c.hold p proposal attemptId).1 (c.hold p proposal attemptId).2 := by
  have hw := hc.sound hget
  have hkey := hw.requestId
  unfold hold
  simp only [hget]
  rcases authorizeWaiter_cases hw hp with ⟨message, h⟩ | ⟨current, hcurrent, hvalid, h⟩
  · rw [h]
    exact .dropped (.single (.failed _ hget)) (size_dropWaiter hget hkey)
  -- the waiter is stored again under the ceiling of now, before anything else is looked at
  rw [h]
  have hsound := hw.contract hvalid
  have hrevised : Move c (c.setWaiter (w.contract current)) := .revised hget rfl rfl hsound
  have hstored : (c.setWaiter (w.contract current)).waiters.get?
      proposal.selection.entry.requestId = some (w.contract current) := by
    rw [get?_setWaiter hsound.requestId, if_pos rfl]
  simp only [andThen]
  split_ifs with hlate
  · refine .dropped (.head hrevised (.single (.failed _ hstored))) ?_
    have hsame : (c.setWaiter (w.contract current)).waiters.size = c.waiters.size := by
      apply size_setWaiter
      rw [hsound.requestId, hget]
      exact Option.some_ne_none _
    rw [← hsame]
    exact size_dropWaiter hstored hsound.requestId
  obtain ⟨first, hfirst⟩ : ∃ first, proposal.candidates.head? = some first :=
    Option.isSome_iff_exists.mp (List.isSome_head?.mpr hmade.candidates_ne)
  simp only [hfirst]
  -- the waiter that is selected for
  generalize hselected : ({ w.contract current with
      fallbackOnce :=
        if (w.contract current).fallbackOnce = some first.cause then none
        else (w.contract current).fallbackOnce
      budget := (w.contract current).budget.syncRuntime p.view.dispatches } : Waiter) = w'
  have hrequest : w'.request = w.request := by
    rw [← hselected]
    rfl
  have hsound' : w'.Sound c.queue proposal.selection.entry.requestId := by
    rw [← hselected]
    exact hsound.revise rfl rfl rfl
  have hmoves : Moves c ((c.setWaiter (w.contract current)).setWaiter w') := by
    refine .head hrevised (.single (.revised hstored ?_ ?_ hsound'))
    · rw [← hselected]
    · rw [← hselected]
  have hget' : ((c.setWaiter (w.contract current)).setWaiter w').waiters.get?
      proposal.selection.entry.requestId = some w' := by
    rw [get?_setWaiter hsound'.requestId, if_pos rfl]
  rw [hsound'.routingContext_check (hp.clock 1)]
  rw [show (w.contract current).request = w.request from rfl]
  dsimp only
  cases hselect : RouteEngine.select p.gate p.engine (w.effectiveCeiling.meet current)
      w.request.profile first.cause p.view (w'.routingContext (p.clock 1))
      (proposal.accounts.filter fun a => a ∉ proposal.allowed) with
  | none => exact .excluded hmoves hget'
  | some candidate =>
    obtain ⟨hgroup, leg, hleg, hallowed, heligible, hcandidate⟩ :=
      RouteEngine.mem_filter_iff.mp (RouteEngine.mem_of_select hselect)
    dsimp only
    by_cases hconfirms : confirms proposal w' candidate = false
    · rw [if_pos hconfirms]
      exact .excluded hmoves hget'
    rw [if_neg hconfirms]
    have hkept : candidate.authorizedLeg.accountId ∉
        proposal.accounts.filter fun a => a ∉ proposal.allowed := by
      rw [← hcandidate]
      exact hallowed
    obtain ⟨hpreviewed, haccount, hcan⟩ :=
      allowed_of_confirms hmade.accounts (Bool.not_eq_false _ ▸ hconfirms) hkept
    have hbelow : (w.effectiveCeiling.meet current).Below w.request.authorizationCeiling :=
      (meet_below_left _ _).trans hw.below
    cases hacquire : ((c.setWaiter (w.contract current)).setWaiter w').acquireActive
        w.request.client.keyId (w.effectiveCeiling.meet current).maxConcurrency with
    | none => exact .excluded hmoves hget'
    | some c'' =>
      dsimp only
      cases hreservation : reservationOf p w' candidate attemptId with
      | error fault =>
        -- the candidate's account is one of the current ceiling's
        obtain ⟨other, hother, hlegs⟩ := (meet_below_right w.effectiveCeiling current).legs leg hleg
        obtain ⟨quotaUnits, hquota⟩ := hp.quotaUnits hcurrent.authorized hother
        have haccountId : candidate.authorizedLeg.accountId = other.accountId := by
          rw [← hcandidate]
          exact congrArg LegIdentity.accountId hlegs.identity
        rw [← haccountId] at hquota
        obtain ⟨⟨e, rfl⟩, hrange⟩ := reservationOf_eq_error hsound' hquota hreservation
        exact .unbuildable hmoves hbelow hacquire hquota (hrequest ▸ hrange)
      | ok request =>
        refine .reserving hmoves rfl hget' hrequest hcan hacquire
          { reauthorized := hcurrent
            below_admitted := hbelow
            below_current := meet_below_right _ _
            inTime := by omega
            offered := ?_
            previewed := hpreviewed
            account := haccount
            budget := ?_
            permit := (acquireActive_eq_some hacquire).1
            selection := ⟨rfl, rfl⟩
            keyId := rfl
            request := ?_ }
        · have hcause : candidate.cause = first.cause := by rw [← hcandidate]; rfl
          refine RouteEngine.mem_filter_iff.mpr ⟨hgroup, leg, hleg, List.not_mem_nil, ?_, ?_⟩
          · rw [hcause]
            rw [← hselected] at heligible
            exact heligible
          · rw [hcause]
            exact hcandidate
        · rw [← hselected] at hcan
          exact hcan
        · rw [← hselected] at hreservation
          exact hreservation

/-! ## The grant -/

/-- The lease a grant hands to the call of a waiter. -/
def leaseOf (w : Waiter) (attempt : Attempted) : GrantedLease where
  future := w.future
  requestId := w.request.requestId
  keyId := attempt.keyId
  candidate := attempt.candidate
  attemptId := attempt.attemptId

/-- **A grant of a current selection succeeds.** -/
theorem grant_spec {attempt : Attempted} {queue : WDRRQueue}
    (hcommit : c.queue.commit attempt.selection = .ok queue)
    (hget : c.waiters.get? attempt.selection.entry.requestId = some w)
    (hcan : w.budget.canSend attempt.candidate = true) :
    c.grant attempt =
      ({ c with
        queue
        waiters := c.waiters.erase w.request.requestId
        grants := c.grants ++ [leaseOf w attempt] }.resolve w.future
          (.dispatched attempt.attemptId), .ok (.continued [])) := by
  have hsend : w.budget.recordSend attempt.candidate attempt.attemptId =
      .ok (AttemptBudget.attemptOf attempt.candidate attempt.attemptId,
        { w.budget with attempts :=
          w.budget.attempts ++ [AttemptBudget.attemptOf attempt.candidate attempt.attemptId] }) :=
    AttemptBudget.recordSend_eq_ok_iff.mpr ⟨hcan, rfl, rfl⟩
  unfold grant
  simp only [hget, hsend, hcommit]
  rfl

end AdmissionController

end LlmMaxxing
