import LlmMaxxing.Gateway.EarlierBoot
import LlmMaxxing.Gateway.RoutingLaws

/-!
# The view that routes and the runtime that reserves

A candidate is chosen from an operational view and then reserved by the runtime of its account. The
view is advisory, but what it shows of the account is what the reservation compares: as long as
nothing but time has passed, a reservation for a candidate is refused for the windows, the quota, the
ledger, its deadline or a consumed probe, and for nothing else.
-/

namespace LlmMaxxing

open Check AccountRuntime RouteEngine World

variable {cfg : RuntimeConfig} {st : RuntimeState} {clock : Nat} {status : JournalStatus}
  {dispatches : List DispatchOperationalValue} {leg : AuthorizedLeg}

/-! ## What a view shows -/

@[simp] theorem capacity_account (rt : AccountRuntime) (clock : Nat) :
    (rt.capacity clock).account = rt.account := rollMonthly_account _

@[simp] theorem capacity_recoveryProbeId (rt : AccountRuntime) (clock : Nat) :
    (rt.capacity clock).recoveryProbeId = rt.recoveryProbeId := rollMonthly_recoveryProbeId _

theorem get?_viewed (st : RuntimeState) (clock : Nat) (accountId : AccountId) :
    (st.viewed clock).runtimes.get? accountId =
      (st.runtimes.get? accountId).map fun rt => rt.capacity clock :=
  Dict.get?_mapValues _ _ _

theorem keyed_viewed (h : Keyed st) (clock : Nat) : Keyed (st.viewed clock) := by
  intro accountId rt hrt
  rw [get?_viewed, Option.map_eq_some_iff] at hrt
  obtain ⟨before, hbefore, rfl⟩ := hrt
  rw [capacity_account]
  exact h accountId before hbefore

theorem mem_sortedRuntimes {q : AccountId × AccountRuntime} :
    q ∈ st.sortedRuntimes ↔ st.runtimes.get? q.1 = some q.2 := by
  rw [RuntimeState.sortedRuntimes, SortOn.mem_iff, Dict.mem_entries_iff]

/-- The row of an account is its own runtime's. -/
theorem account?_operationalView (hkeyed : Keyed st) {account : AccountCapacity}
    (h : (st.operationalView clock status dispatches).account? leg = some account) :
    ∃ rt, (st.viewed clock).runtimes.get? leg.accountId = some rt ∧ account = rt.capacityValue := by
  have hmem := List.mem_of_find?_eq_some h
  have hid : account.accountId = leg.accountId := by simpa using List.find?_some h
  obtain ⟨q, hq, rfl⟩ := List.mem_map.mp hmem
  have hrt := mem_sortedRuntimes.mp hq
  have hown : q.2.account.accountId = q.1 := keyed_viewed hkeyed clock q.1 q.2 hrt
  refine ⟨q.2, ?_, rfl⟩
  rw [← hid]
  show (st.viewed clock).runtimes.get? q.2.account.accountId = some q.2
  rw [hown]
  exact hrt

theorem mem_circuits {item : CircuitOperationalValue} :
    item ∈ (st.operationalView clock status dispatches).circuits ↔
      ∃ rt, (st.viewed clock).runtimes.get? item.accountId = some rt ∧
        rt.circuits.get? item.deploymentGenerationId = some item.value := by
  show item ∈ (st.viewed clock).sortedRuntimes.flatMap RuntimeState.circuitValues ↔ _
  rw [List.mem_flatMap]
  constructor
  · rintro ⟨q, hq, hitem⟩
    obtain ⟨c, hc, rfl⟩ := List.mem_map.mp hitem
    rw [SortOn.mem_iff, Dict.mem_entries_iff] at hc
    exact ⟨q.2, mem_sortedRuntimes.mp hq, hc⟩
  · rintro ⟨rt, hrt, hvalue⟩
    refine ⟨(item.accountId, rt), mem_sortedRuntimes.mpr hrt, List.mem_map.mpr ?_⟩
    refine ⟨(item.deploymentGenerationId, item.value), ?_, rfl⟩
    rw [SortOn.mem_iff, Dict.mem_entries_iff]
    exact hvalue

/-- The circuit shown for a generation is the one its account holds. -/
theorem deployment_operationalView {rt : AccountRuntime}
    (hrt : (st.viewed clock).runtimes.get? leg.accountId = some rt) :
    (st.operationalView clock status dispatches).deployment leg = rt.circuitValue leg.generationId := by
  unfold OperationalRuntimeView.deployment AccountRuntime.circuitValue
  cases hfound : (st.operationalView clock status dispatches).circuits.find? fun item =>
      item.accountId = leg.accountId ∧ item.deploymentGenerationId = leg.generationId with
  | some item =>
    obtain ⟨haccount, hgeneration⟩ :
        item.accountId = leg.accountId ∧ item.deploymentGenerationId = leg.generationId := by
      simpa using List.find?_some hfound
    obtain ⟨rt', hrt', hvalue⟩ := mem_circuits.mp (List.mem_of_find?_eq_some hfound)
    rw [haccount, hrt] at hrt'
    cases hrt'
    rw [← hgeneration, hvalue]
    rfl
  | none =>
    cases hheld : rt.circuits.get? leg.generationId with
    | none => rfl
    | some value =>
      have hmem : (⟨leg.accountId, leg.generationId, value⟩ : CircuitOperationalValue) ∈
          (st.operationalView clock status dispatches).circuits :=
        mem_circuits.mpr ⟨rt, hrt, hheld⟩
      simpa using List.find?_eq_none.mp hfound _ hmem

/-! ## What a reservation compares -/

/-- The request a controller builds for a candidate. -/
structure Requests (candidate : Candidate) (request : ReservationRequest) : Prop where
  accountId : request.accountId = candidate.authorizedLeg.accountId
  generationId : request.deploymentGenerationId = candidate.generationId
  accountCircuit : request.accountCircuit = candidate.accountCircuit
  circuit : request.circuit = candidate.deploymentCircuit

/-- What a candidate shows of a runtime. -/
structure Advertises (candidate : Candidate) (rt : AccountRuntime) : Prop where
  account : rt.account.accountId = candidate.authorizedLeg.accountId
  active : rt.account.state = some .active
  noProbe : rt.recoveryProbeId = none
  free : rt.activeCount < rt.account.enforcedMaxInFlight
  accountCircuit : rt.accountCircuit = candidate.accountCircuit
  accountClosed : rt.accountCircuit.state ≠ .opened
  circuit : rt.circuitValue candidate.generationId = candidate.deploymentCircuit
  circuitClosed : (rt.circuitValue candidate.generationId).state ≠ .opened

/-- A denial for something the view does not decide: the ledger, the charge, the deadline, a used
attempt id, a consumed probe of the candidate, the windows or the quota. -/
inductive Unseen (rt : AccountRuntime) (candidate : Candidate) : ReservationDenialReason → Prop where
  | ledger : Unseen rt candidate .journalCapacityStop
  | charge : Unseen rt candidate .invalidQuotaCharge
  | deadline : Unseen rt candidate .deadlineExceeded
  | duplicate : Unseen rt candidate .attemptDuplicate
  | probe {p : String} (h : p ∈ AttemptBudget.probeIds candidate)
      (hused : rt.consumedCircuitProbes.contains p = true) : Unseen rt candidate .circuitUnavailable
  | reset : Unseen rt candidate .monthlyResetUnavailable
  | starts : Unseen rt candidate .rpmExhausted
  | tokens : Unseen rt candidate .tpmExhausted
  | quota : Unseen rt candidate .monthlyQuotaExhausted

variable {gate : GenerationGate} {e : RouteEngine} {profile : RequestProfile} {cause : DispatchCause}
  {context : RoutingContext} {c : RequestAuthorizationCeiling} {excluded : List AccountId}
  {candidate : Candidate} {rt : AccountRuntime} {request : ReservationRequest}
  {denial : ReservationDenied}

/-- A candidate shows the runtime of its account as the view left it. -/
theorem shows_of_mem_filter (hkeyed : Keyed st) (hmem : candidate ∈
      filter gate e c profile cause (st.operationalView clock status dispatches) context excluded) :
    status = .healthy ∧ ∃ rt, (st.viewed clock).runtimes.get? candidate.authorizedLeg.accountId =
      some rt ∧ Advertises candidate rt := by
  obtain ⟨-, leg, -, -, heligible, rfl⟩ := mem_filter_iff.mp hmem
  obtain ⟨account, h⟩ := operationallyAvailable_iff.mp heligible.available
  obtain ⟨rt, hrt, rfl⟩ := account?_operationalView hkeyed h.row
  have hdeployment : (st.operationalView clock status dispatches).deployment leg =
      rt.circuitValue leg.generationId := deployment_operationalView hrt
  have hclosed := h.deployment
  rw [hdeployment] at hclosed
  refine ⟨h.healthy, rt, hrt, keyed_viewed hkeyed clock _ _ hrt, ?_, ?_, h.free, ?_,
    h.accountCircuit, hdeployment.symm, hclosed⟩
  · have hactive : rt.account.state.getD .draft = .active := h.active
    cases hstate : rt.account.state with
    | none => rw [hstate] at hactive; cases hactive
    | some state => rw [hstate] at hactive; exact congrArg some hactive
  · have hprobe : rt.recoveryProbeId.isSome = false := h.noProbe
    exact Option.isSome_eq_false_iff.mp hprobe |> Option.isNone_iff_eq_none.mp
  · show rt.accountCircuit =
      (((st.operationalView clock status dispatches).account? leg).map _).getD _
    rw [h.row]
    rfl

/-! ## What a reservation refuses -/

theorem require_bind_error {ε α : Type} {p : Prop} [Decidable p] {err d : ε} {f : Unit → Except ε α}
    (h : (require p err >>= f) = .error d) : (¬ p ∧ d = err) ∨ (p ∧ f () = .error d) := by
  by_cases hp : p
  · rw [require, if_pos hp, ok_bind] at h
    exact .inr ⟨hp, h⟩
  · rw [require, if_neg hp, bind_error] at h
    cases h
    exact .inl ⟨hp, rfl⟩

theorem require_error {ε : Type} {p : Prop} [Decidable p] {err d : ε}
    (h : require p err = .error d) : ¬ p ∧ d = err := by
  rcases require_bind_error (f := fun _ => .ok ()) (by rw [h]; rfl) with h | h
  · exact h
  · cases h.2

/-- The checks before the clock is read all pass. -/
theorem Advertises.checkEntry (h : Advertises candidate rt) (hr : Requests candidate request) :
    rt.checkEntry .healthy request = .ok () := by
  simp only [AccountRuntime.checkEntry, bind_eq_ok_iff, require_eq_ok_iff, exists_unit_and_iff]
  refine ⟨by decide, by decide, ?_, h.noProbe, h.active⟩
  rw [hr.accountId, h.account]

/-- Time changes nothing a candidate shows. -/
theorem Advertises.pruned (h : Advertises candidate rt) (cfg : RuntimeConfig) (later : Nat) :
    Advertises candidate (rt.pruned cfg later) :=
  ⟨h.account, h.active, h.noProbe, h.free, h.accountCircuit, h.accountClosed, h.circuit,
    h.circuitClosed⟩

theorem Unseen.of_pruned {later : Nat} {reason : ReservationDenialReason}
    (h : Unseen (rt.pruned cfg later) candidate reason) : Unseen rt candidate reason := by
  cases h with
  | probe h hused => exact .probe h hused
  | _ => constructor

theorem Advertises.checkRequest {nowMs : Nat} (h : Advertises candidate rt) (hr : Requests candidate request)
    (herror : rt.checkRequest cfg nowMs request = .error denial) :
    Unseen rt candidate denial.reason := by
  have hgeneration : request.deploymentGenerationId = candidate.generationId := hr.generationId
  unfold AccountRuntime.checkRequest at herror
  rcases require_bind_error herror with ⟨-, rfl⟩ | ⟨-, herror⟩
  · exact .ledger
  rcases require_bind_error herror with ⟨-, rfl⟩ | ⟨-, herror⟩
  · exact .charge
  rcases require_bind_error herror with ⟨-, rfl⟩ | ⟨-, herror⟩
  · exact .deadline
  rcases require_bind_error herror with ⟨-, rfl⟩ | ⟨-, herror⟩
  · exact .duplicate
  -- both circuits are the ones the candidate carries, and neither is open
  rcases require_bind_error herror with ⟨hne, -⟩ | ⟨-, herror⟩
  · exact absurd (h.accountCircuit.trans hr.accountCircuit.symm) hne
  rcases require_bind_error herror with ⟨hopen, -⟩ | ⟨-, herror⟩
  · exact absurd h.accountClosed hopen
  rw [hgeneration] at herror
  rcases require_bind_error herror with ⟨hne, -⟩ | ⟨-, herror⟩
  · exact absurd (h.circuit.trans hr.circuit.symm) hne
  rcases require_bind_error herror with ⟨hopen, -⟩ | ⟨-, herror⟩
  · exact absurd h.circuitClosed hopen
  obtain ⟨hused, rfl⟩ := require_error herror
  push Not at hused
  obtain ⟨p, hp, hused⟩ := hused
  refine .probe (p := p) ?_ (by simpa using hused)
  rw [AccountRuntime.probeIds, h.accountCircuit, h.circuit, List.mem_filterMap] at hp
  simpa [AttemptBudget.probeIds, eq_comm] using hp

theorem unseen_of_checkLimits {other : AccountRuntime} {nowMs : Nat}
    (hfree : other.activeCount < other.account.enforcedMaxInFlight)
    (herror : other.checkLimits nowMs request = .error denial) :
    Unseen rt candidate denial.reason := by
  unfold AccountRuntime.checkLimits at herror
  rcases require_bind_error herror with ⟨-, rfl⟩ | ⟨-, herror⟩
  · exact .reset
  rcases require_bind_error herror with ⟨hfull, -⟩ | ⟨-, herror⟩
  · exact absurd hfree hfull
  rcases require_bind_error herror with ⟨-, rfl⟩ | ⟨-, herror⟩
  · exact .starts
  rcases require_bind_error herror with ⟨-, rfl⟩ | ⟨-, herror⟩
  · exact .tokens
  rcases require_bind_error herror with ⟨-, rfl⟩ | ⟨-, herror⟩
  · exact .tokens
  obtain ⟨-, rfl⟩ := require_error herror
  exact .quota

/-- **What stands between a candidate and its reservation** when nothing but time has passed since
the view. -/
theorem Advertises.denied {later : Nat} {reply : Except RuntimeFault JournalReceipt}
    (h : Advertises candidate rt) (hr : Requests candidate request)
    (hdenied : (rt.tryReserve cfg .healthy later reply request).2 = .denied denial) :
    Unseen rt candidate denial.reason ∨ ∃ reason, reply = .error (.journalUnavailable reason) := by
  have hplan : ∀ denial, (rt.planReserve cfg .healthy later request).2 = .error denial →
      Unseen rt candidate denial.reason := by
    intro denial hplan
    unfold AccountRuntime.planReserve at hplan
    rw [h.checkEntry hr] at hplan
    split at hplan
    · next denied hentry => cases hentry
    · simp only at hplan
      split at hplan
      · next denied hrequest =>
        cases hplan
        exact ((h.pruned cfg later).checkRequest hr hrequest).of_pruned
      · split at hplan
        · next denied hlimits =>
          cases hplan
          refine unseen_of_checkLimits ?_ hlimits
          simpa [activeCount, AccountRuntime.purgeWindows, AccountRuntime.pruneResolutions,
            AccountRuntime.tick] using h.free
        · cases hplan
  unfold AccountRuntime.tryReserve at hdenied
  split at hdenied
  · next heq =>
    cases hdenied
    exact .inl (hplan _ (by rw [heq]))
  · split at hdenied
    · cases hdenied
    · next reason => exact .inr ⟨reason, rfl⟩
    · cases hdenied

/-- **The view agrees with the reservation.** In every reachable service, a candidate of the current
view stands for a runtime whose reservation, asked for later with the circuits of the candidate, is
refused for nothing the view has shown. -/
theorem reservation_of_candidate {C : Service → ServiceEvent → Prop} {s : Service}
    (hs : Service.Reachable cfg C s)
    (hmem : candidate ∈ filter gate e c profile cause
      (s.world.state.operationalView clock status dispatches) context excluded) :
    ∃ rt, (s.world.state.viewed clock).runtimes.get? candidate.authorizedLeg.accountId = some rt ∧
      ∀ later reply request denial, Requests candidate request →
        (rt.tryReserve cfg status later reply request).2 = .denied denial →
        Unseen rt candidate denial.reason ∨ ∃ reason, reply = .error (.journalUnavailable reason) := by
  obtain ⟨rfl, rt, hrt, hshows⟩ := shows_of_mem_filter hs.sound.keyed hmem
  exact ⟨rt, hrt, fun later reply request denial hr hdenied => hshows.denied hr hdenied⟩

/-- A process over the sample account. -/
def startedService : Service :=
  Service.runs sampleConfig [.restart (Service.startedAt 1) [sampleAccount]]

/-- Its view at the start. -/
def startedView : OperationalRuntimeView :=
  startedService.world.state.operationalView 1 .healthy []

/-- What the view offers for the one leg of the sample ceiling. -/
def startedCandidate : Candidate :=
  RouteEngine.candidate ⟨sampleLegId, sampleAccountId, sampleDeployment, 1, [.primary], chatCapabilities⟩
    .primary startedView

theorem reservation_of_started :
    ∃ rt, (startedService.world.state.viewed 1).runtimes.get? sampleAccountId = some rt ∧
      ∀ later reply request denial, Requests startedCandidate request →
        (rt.tryReserve sampleConfig .healthy later reply request).2 = .denied denial →
        Unseen rt startedCandidate denial.reason ∨
          ∃ reason, reply = .error (.journalUnavailable reason) := by
  have hreach : Service.Reachable sampleConfig (fun _ _ => True) startedService :=
    Service.reachable_runs fun _ _ _ => trivial
  have hmem : startedCandidate ∈ filter (fun _ _ => some true) (sampleEngine 1) (sampleCeiling 1)
      chatProfile .primary (startedService.world.state.operationalView 1 .healthy [])
      ⟨1, 100, 1, none⟩ [] := by
    decide +kernel
  exact reservation_of_candidate hreach hmem

end LlmMaxxing
