import LlmMaxxing.Gateway.Auth
import LlmMaxxing.Gateway.Queue
import LlmMaxxing.Gateway.Routing

/-!
# Admission (`gateway/scheduler.py`, `AdmissionController`)

Requests wait in the queue until a pump grants them a durably dispatched lease. Whatever changes the
waiters or the queue holds the pump lock; a pump gives it up only when it ends, but it waits three
times on the way to a grant: for the dispatcher gate, for the reservation and for the dispatch
record. Between these, leases are released. So a pump is a sequence of steps: `turn` up to the gate,
`hold` from the gate to the reservation, then what the reservation and the dispatch record answer.

What the controller reads from the rest of the gateway is a `Providers`, one for each waiter that is
evaluated; every evaluation may see another one.
-/

namespace LlmMaxxing

open Check Fallible

/-! ## Requests and waiters -/

/-- What admission raises. -/
inductive AdmissionFault where
  | unavailable (message : String)
  | valueError (message : String)
  | invalid (e : ValidationError)
  | queue (e : QueueError)
  | keyError
  | runtime (fault : RuntimeFault)
  | cancelled
  deriving DecidableEq

structure AdmissionRequest where
  requestId : RequestId
  client : AuthenticatedClient
  profile : RequestProfile
  authorizationCeiling : RequestAuthorizationCeiling
  runtimeIdentity : RuntimeIdentity
  deadlineAtMs : Nat
  cause : DispatchCause
  attemptBudget : AttemptBudget
  emergency : Option EmergencyActivation
  /-- "attempt budget belongs to a different request" -/
  ownBudget : requestId = attemptBudget.requestId
  /-- "profile and authorization ceiling route groups differ" -/
  sameGroup : profile.routeGroupId = authorizationCeiling.routeGroupId
  /-- "client and authorization ceiling keys differ" -/
  sameKey : client.keyId = authorizationCeiling.keyId
  /-- "absolute request deadline must be positive" -/
  deadline_pos : 1 ≤ deadlineAtMs

/-- `_Waiter`; `future` numbers the future of its call. The budget is the request's own object. -/
structure Waiter where
  request : AdmissionRequest
  future : Nat
  effectiveCeiling : RequestAuthorizationCeiling
  admittedAtMs : Nat
  effectiveDeadlineAtMs : Nat
  fallbackOnce : Option DispatchCause := none
  budget : AttemptBudget

/-- What one evaluation of a waiter reads: the auth view (`none` is a provider that raises), the
engine with its gate, the operational view, and the clock at successive readings. -/
structure Providers where
  authView : Option AuthRuntimeView
  engine : RouteEngine
  gate : RouteEngine.GenerationGate
  view : OperationalRuntimeView
  clock : Nat → Nat

/-- `_routing_context` at a clock reading. -/
def Waiter.routingContext (w : Waiter) (nowMs : Nat) : RoutingContext where
  nowMs := nowMs
  deadlineAtMs := w.effectiveDeadlineAtMs
  dispatcherFence := w.request.runtimeIdentity.dispatcherFence
  emergency := w.request.emergency

/-- How a future was resolved. -/
inductive FutureResult where
  | dispatched (attemptId : AttemptId)
  | failed (fault : AdmissionFault)
  | cancelled
  deriving DecidableEq

/-- A granted lease, what it was granted under, and whether its permit was given back. -/
structure GrantedLease where
  future : Nat
  requestId : RequestId
  keyId : String
  candidate : Candidate
  attemptId : AttemptId
  released : Bool := false

/-! ## The controller -/

/-- `AdmissionController`, with the futures it has resolved, the leases it has granted and the keys
of the permits that a failed cleanup has left taken. -/
structure AdmissionController where
  queue : WDRRQueue
  waiters : Dict RequestId Waiter
  activeByKey : Dict String Nat
  maxWaitersGlobal : Nat
  nextFuture : Nat
  futures : List (Nat × FutureResult)
  grants : List GrantedLease
  stranded : List String

namespace AdmissionController

/-- How an operation of the controller ends. -/
abbrev Result (α : Type) := Fallible AdmissionController AdmissionFault α

/-- `__init__`. -/
def init (maxWaitersGlobal : Nat) : Except AdmissionFault AdmissionController :=
  if maxWaitersGlobal < 1 then .error (.valueError "global waiter bound must be positive")
  else .ok ⟨{}, Dict.empty, Dict.empty, maxWaitersGlobal, 0, [], [], []⟩

/-- `_active_count`. -/
def activeCount (c : AdmissionController) (keyId : String) : Nat :=
  (c.activeByKey.get? keyId).getD 0

/-- `_acquire_active`. -/
def acquireActive (c : AdmissionController) (keyId : String) (maximum : Nat) :
    Option AdmissionController :=
  if maximum ≤ c.activeCount keyId then none
  else some { c with activeByKey := c.activeByKey.insert keyId (c.activeCount keyId + 1) }

/-- `_release_active`. -/
def releaseActive (c : AdmissionController) (keyId : String) : AdmissionController :=
  { c with
    activeByKey :=
      if c.activeCount keyId ≤ 1 then c.activeByKey.erase keyId
      else c.activeByKey.insert keyId (c.activeCount keyId - 1) }

/-- Store a waiter under its request. -/
def setWaiter (c : AdmissionController) (w : Waiter) : AdmissionController :=
  { c with waiters := c.waiters.insert w.request.requestId w }

/-- Resolve a future that is not done. -/
def resolve (c : AdmissionController) (future : Nat) (result : FutureResult) :
    AdmissionController :=
  if future ∈ c.futures.map Prod.fst then c
  else { c with futures := c.futures ++ [(future, result)] }

/-- Take a waiter out of the table and the queue and resolve its future. -/
def dropWaiter (c : AdmissionController) (w : Waiter) (result : FutureResult) :
    AdmissionController :=
  { c with
    waiters := c.waiters.erase w.request.requestId
    queue := (c.queue.cancel w.request.requestId).2 }.resolve w.future result

/-- `_fail_waiter_locked`. -/
def failWaiter (c : AdmissionController) (w : Waiter) (fault : AdmissionFault) :
    AdmissionController :=
  c.dropWaiter w (.failed fault)

/-! ### Authorization -/

/-- `_current_authorization`: the waiter it leaves and the contracted ceiling. -/
def currentAuthorization (c : AdmissionController) (p : Providers) (w : Waiter) :
    Waiter × Except AdmissionFault RequestAuthorizationCeiling :=
  match p.authView with
  | none => (w, .error (.unavailable "queued authorization state unavailable"))
  | some authView =>
    if queuedIdentityIsAuthorized w.request.client authView = false then
      (w, .error (.unavailable "queued client authorization is no longer valid"))
    else
      match p.engine.authorize w.request.client w.request.profile with
      | .error _ =>
        ({ w with effectiveCeiling := { w.effectiveCeiling with authorizedLegs := [] } },
          .error (.unavailable "queued route authorization contracted to empty"))
      | .ok current =>
        match w.effectiveCeiling.intersection current with
        | .error e => (w, .error (.invalid e))
        | .ok contracted =>
          let w :=
            { w with
              effectiveCeiling := contracted
              effectiveDeadlineAtMs :=
                min w.effectiveDeadlineAtMs (w.admittedAtMs + contracted.deadlineMs) }
          if contracted.authorizedLegs = [] then
            (w, .error (.unavailable "queued route authorization contracted to empty"))
          else
            match c.queue.keyPosition w.request.requestId with
            | .error e => (w, .error (.queue e))
            | .ok position =>
              if contracted.maxWaiters ≤ position then
                (w, .error (.unavailable "queued key waiter ceiling contracted"))
              else (w, .ok contracted)

/-- What both callers do with it: a waiter that is not authorized any more fails, any other
exception goes on. -/
def authorizeWaiter (c : AdmissionController) (p : Providers) (w : Waiter) :
    Result (Option (Waiter × RequestAuthorizationCeiling)) :=
  match c.currentAuthorization p w with
  | (w, .error (.unavailable message)) => (c.failWaiter w (.unavailable message), .ok none)
  | (w, .error fault) => (c.setWaiter w, .error fault)
  | (w, .ok authorization) => (c.setWaiter w, .ok (some (w, authorization)))

/-! ### Previews -/

/-- Lower the queue entry of a request to its ceiling. -/
def contractEntry (c : AdmissionController) (requestId : RequestId)
    (authorization : RequestAuthorizationCeiling) : Result Unit :=
  match c.queue.entry requestId with
  | .error e => (c, .error (.queue e))
  | .ok queued =>
    if queued.tier ≠ authorization.queueTier ∨ queued.weight ≠ authorization.queueWeight ∨
        queued.authorizedLegs ≠ authorization.authorizedLegs then
      match c.queue.contract requestId (some authorization.queueTier)
          (some authorization.queueWeight) (some authorization.authorizedLegs) with
      | .error e => (c, .error (.queue e))
      | .ok (_, queue) => ({ c with queue }, .ok ())
    else (c, .ok ())

/-- `filter` in the context of a clock reading. -/
def offers (p : Providers) (w : Waiter) (authorization : RequestAuthorizationCeiling)
    (cause : DispatchCause) (nowMs : Nat) : Except AdmissionFault (List Candidate) := do
  (w.routingContext nowMs).check.mapError AdmissionFault.invalid
  return RouteEngine.filter p.gate p.engine authorization w.request.profile cause p.view
    (w.routingContext nowMs) []

/-- The candidates of a waiter: its own cause, or the one cause that blocks every primary. -/
def candidatesOf (p : Providers) (w : Waiter) (authorization : RequestAuthorizationCeiling) :
    Except AdmissionFault (List Candidate) := do
  let cause := w.fallbackOnce.getD w.request.cause
  let candidates ← offers p w authorization cause (p.clock 1)
  if candidates = [] ∧ cause = .primary then
    match RouteEngine.primaryBlockingCause p.gate p.engine authorization w.request.profile p.view with
    | some fallback => offers p w authorization fallback (p.clock 2)
    | none => return candidates
  else return candidates

/-- `_preview`. -/
def preview (c : AdmissionController) (p : Providers) (w : Waiter) : Result (List Candidate) :=
  andThen (c.authorizeWaiter p w) fun authorized c =>
    match authorized with
    | none => (c, .ok [])
    | some (w, authorization) =>
      andThen (c.contractEntry w.request.requestId authorization) fun _ c =>
        if w.effectiveDeadlineAtMs ≤ p.clock 0 then
          (c.failWaiter w (.unavailable "queued request deadline elapsed"), .ok [])
        else if authorization.maxConcurrency ≤ c.activeCount w.request.client.keyId then (c, .ok [])
        else
          let w := { w with budget := w.budget.syncRuntime p.view.dispatches }
          (c.setWaiter w, do
            let candidates ← candidatesOf p w authorization
            return candidates.filter w.budget.canSend)

/-- The loop of `_previews` over the entries it started with. -/
def previewEntries (p : RequestId → Providers) (found : Dict RequestId (List Candidate)) :
    List QueueEntry → AdmissionController → Result (Dict RequestId (List Candidate))
  | [], c => (c, .ok found)
  | entry :: rest, c =>
    match c.waiters.get? entry.requestId with
    | none => previewEntries p found rest c
    | some w =>
      andThen (c.preview (p entry.requestId) w) fun candidates c =>
        previewEntries p (if candidates = [] then found else found.insert entry.requestId candidates)
          rest c

/-- `_previews`. -/
def previews (c : AdmissionController) (p : RequestId → Providers) :
    Result (Dict RequestId (List Candidate)) :=
  previewEntries p Dict.empty c.queue.entries c

/-! ### Admission -/

/-- The checks of `acquire`, in its order; `now` is its clock reading. -/
def checkAdmission (c : AdmissionController) (p : Providers) (request : AdmissionRequest) :
    Except AdmissionFault Unit := do
  require ((request.attemptBudget.syncRuntime p.view.dispatches).sendClosed = false)
    (.unavailable "provider send budget is closed")
  require (p.clock 0 < request.deadlineAtMs)
    (.unavailable "request deadline elapsed before queue admission")
  require (c.waiters.contains request.requestId = false) (.valueError "duplicate admission request")
  require (c.waiters.size < c.maxWaitersGlobal) (.unavailable "global waiter bound reached")
  require ((c.waiters.values.countP fun w => w.request.client.keyId == request.client.keyId) <
    request.authorizationCeiling.maxWaiters) (.unavailable "key waiter bound reached")
  match p.authView with
  | none => .error (.unavailable "client authorization state unavailable")
  | some authView =>
    require (queuedIdentityIsAuthorized request.client authView = true)
      (.unavailable "client authorization expired before queue admission")

/-- `acquire` up to its pump: the checks, the waiter and its queue entry. -/
def enlist (c : AdmissionController) (p : Providers) (request : AdmissionRequest) : Result Unit :=
  match c.checkAdmission p request with
  | .error fault => (c, .error fault)
  | .ok () =>
    let ceiling := request.authorizationCeiling
    let w : Waiter :=
      { request
        future := c.nextFuture
        effectiveCeiling := ceiling
        admittedAtMs := p.clock 0
        effectiveDeadlineAtMs := min request.deadlineAtMs (p.clock 0 + ceiling.deadlineMs)
        budget := request.attemptBudget.syncRuntime p.view.dispatches }
    let c := { c.setWaiter w with nextFuture := c.nextFuture + 1 }
    match QueueEntry.build request.requestId request.client.keyId ceiling.queueTier
        ceiling.queueWeight ceiling.authorizedLegs with
    | .error e => (c, .error (.queue e))
    | .ok entry =>
      match c.queue.enqueue entry with
      | .error e => (c, .error (.queue e))
      | .ok queue => ({ c with queue }, .ok ())

/-- The first loop of `_pump_locked`. -/
def resetFallbacks (c : AdmissionController) : AdmissionController :=
  { c with waiters := c.waiters.mapValues fun _ w => { w with fallbackOnce := none } }

end AdmissionController

/-! ## The pump -/

/-- A selection on its way to a grant. -/
structure PumpProposal where
  excluded : List RequestId
  selection : QueueSelection
  candidates : List Candidate
  accounts : List AccountId
  allowed : List AccountId

/-- A candidate for which a permit was taken. -/
structure Attempted where
  excluded : List RequestId
  selection : QueueSelection
  keyId : String
  candidate : Candidate
  attemptId : AttemptId
  request : ReservationRequest

/-- How a part of the loop goes on. -/
inductive PumpStep where
  | returned
  | continued (excluded : List RequestId)
  | proposed (proposal : PumpProposal)
  | reserving (attempt : Attempted)

namespace AdmissionController

/-- One turn of the loop, up to the dispatcher gate. -/
def turn (c : AdmissionController) (p : RequestId → Providers) (excluded : List RequestId) :
    Result PumpStep :=
  if c.waiters.size = 0 then (c, .ok .returned)
  else
    andThen (c.previews p) fun previews c =>
      match c.queue.propose (fun entry => previews.contains entry.requestId) excluded with
      | none => (c, .ok .returned)
      | some selection =>
        let requestId := selection.entry.requestId
        match c.waiters.get? requestId, previews.get? requestId with
        | some _, some candidates =>
          let candidateAccounts := previews.mapValues fun _ candidates =>
            (candidates.map fun k => k.authorizedLeg.accountId).eraseDups
          let accounts := (candidates.map fun k => k.authorizedLeg.accountId).eraseDups
          let allowed := c.queue.unprotectedAccounts selection.entry accounts candidateAccounts
          if allowed = [] then (c, .ok (.continued (requestId :: excluded)))
          else (c, .ok (.proposed ⟨excluded, selection, candidates, accounts, allowed⟩))
        | _, _ => (c, .error .keyError)

/-- The fields of the reservation of a candidate. -/
def reservationFields (w : Waiter) (candidate : Candidate) (attemptId : AttemptId)
    (quotaUnits : Nat) : ReservationFields where
  requestId := w.request.requestId
  attemptId := attemptId
  accountId := candidate.authorizedLeg.accountId
  legId := candidate.legId
  deploymentGenerationId := candidate.generationId
  runtimeIdentity := w.request.runtimeIdentity
  deadlineAtMs := w.effectiveDeadlineAtMs
  profile := w.request.profile
  inputTokensUpperBound := w.request.profile.inputTokensMax
  maxOutputTokens := w.request.profile.outputTokensMax
  maxReasoningTokens := w.request.profile.reasoningTokensMax
  quotaUnits := quotaUnits
  accountCircuit := candidate.accountCircuit
  circuit := candidate.deploymentCircuit

/-- The reservation of a candidate. -/
def reservationOf (p : Providers) (w : Waiter) (candidate : Candidate) (attemptId : AttemptId) :
    Except AdmissionFault ReservationRequest :=
  match p.engine.quotaUnits candidate.authorizedLeg.accountId with
  | .error e => .error (.invalid e)
  | .ok quotaUnits =>
    match h : (reservationFields w candidate attemptId quotaUnits).validate with
    | .error e => .error (.invalid e)
    | .ok () => .ok ⟨reservationFields w candidate attemptId quotaUnits, h⟩

/-- The selected candidate is one of the previewed ones and the budget allows it. -/
def confirms (proposal : PumpProposal) (w : Waiter) (candidate : Candidate) : Bool :=
  (proposal.candidates.any fun preview => preview.authorizedLeg == candidate.authorizedLeg) &&
    w.budget.canSend candidate

/-- From the dispatcher gate to the reservation. A permit whose reservation cannot be built stays
taken. -/
def hold (c : AdmissionController) (p : Providers) (proposal : PumpProposal) (attemptId : AttemptId) :
    Result PumpStep :=
  let requestId := proposal.selection.entry.requestId
  match c.waiters.get? requestId with
  | none => (c, .error .keyError)
  | some w =>
    andThen (c.authorizeWaiter p w) fun authorized c =>
      match authorized with
      | none => (c, .ok (.continued proposal.excluded))
      | some (w, authorization) =>
        if w.effectiveDeadlineAtMs ≤ p.clock 0 then
          (c.failWaiter w (.unavailable "queued request deadline elapsed"),
            .ok (.continued proposal.excluded))
        else
          match proposal.candidates.head? with
          | none => (c, .error .keyError)
          | some first =>
            let w :=
              { w with
                fallbackOnce := if w.fallbackOnce = some first.cause then none else w.fallbackOnce
                budget := w.budget.syncRuntime p.view.dispatches }
            let c := c.setWaiter w
            match (w.routingContext (p.clock 1)).check with
            | .error e => (c, .error (.invalid e))
            | .ok () =>
              match RouteEngine.select p.gate p.engine authorization w.request.profile first.cause
                  p.view (w.routingContext (p.clock 1))
                  (proposal.accounts.filter fun a => a ∉ proposal.allowed) with
              | none => (c, .ok (.continued (requestId :: proposal.excluded)))
              | some candidate =>
                if confirms proposal w candidate = false then
                  (c, .ok (.continued (requestId :: proposal.excluded)))
                else
                  match c.acquireActive w.request.client.keyId authorization.maxConcurrency with
                  | none => (c, .ok (.continued (requestId :: proposal.excluded)))
                  | some c =>
                    match reservationOf p w candidate attemptId with
                    | .error fault =>
                      ({ c with stranded := w.request.client.keyId :: c.stranded }, .error fault)
                    | .ok request =>
                      (c, .ok (.reserving ⟨proposal.excluded, proposal.selection,
                        w.request.client.keyId, candidate, attemptId, request⟩))

/-- `_denial_cause`. -/
def denialCause : ReservationDenialReason → Option DispatchCause
  | .parallelExhausted | .rpmExhausted => some .capacity
  | .tpmExhausted | .monthlyQuotaExhausted => some .quota
  | _ => none

/-- Give a permit back after `cleanup`; where that raises, the permit stays taken. -/
def abandon (c : AdmissionController) (keyId : String) (fault : AdmissionFault)
    (cleanup : Except AdmissionFault Unit) : Result PumpStep :=
  match cleanup with
  | .ok () => (c.releaseActive keyId, .error fault)
  | .error e => ({ c with stranded := keyId :: c.stranded }, .error e)

/-- How `try_reserve_async` ends. -/
inductive ReserveReply where
  | granted
  | denied (reason : ReservationDenialReason)
  | raised (fault : AdmissionFault) (cleanup : Except AdmissionFault Unit)

/-- After the reservation. -/
def reserved (c : AdmissionController) (attempt : Attempted) : ReserveReply → Result PumpStep
  | .granted => (c, .ok (.reserving attempt))
  | .denied reason =>
    let c := c.releaseActive attempt.keyId
    match denialCause reason, c.waiters.get? attempt.selection.entry.requestId with
    | some cause, some w =>
      (c.setWaiter { w with fallbackOnce := some cause }, .ok (.continued attempt.excluded))
    | some _, none => (c, .ok (.continued attempt.excluded))
    | none, _ => (c, .ok (.continued (attempt.selection.entry.requestId :: attempt.excluded)))
  | .raised fault cleanup => c.abandon attempt.keyId fault cleanup

/-- After the dispatch record: the send is counted, the selection committed and the future
resolved. -/
def grant (c : AdmissionController) (attempt : Attempted) : Result PumpStep :=
  match c.waiters.get? attempt.selection.entry.requestId with
  | none => (c, .error .keyError)
  | some w =>
    match w.budget.recordSend attempt.candidate attempt.attemptId with
    | .error message => (c, .error (.valueError message))
    | .ok (_, budget) =>
      match c.queue.commit attempt.selection with
      | .error e => (c.setWaiter { w with budget }, .error (.queue e))
      | .ok queue =>
        let lease : GrantedLease :=
          { future := w.future
            requestId := w.request.requestId
            keyId := attempt.keyId
            candidate := attempt.candidate
            attemptId := attempt.attemptId }
        let c :=
          { c with
            queue
            waiters := c.waiters.erase w.request.requestId
            grants := c.grants ++ [lease] }
        (c.resolve w.future (.dispatched attempt.attemptId), .ok (.continued []))

/-- After the dispatch record, whatever it answered. -/
def dispatched (c : AdmissionController) (attempt : Attempted)
    (reply : Except AdmissionFault Unit) (cleanup : Except AdmissionFault Unit) : Result PumpStep :=
  match reply with
  | .error fault => c.abandon attempt.keyId fault cleanup
  | .ok () =>
    match c.grant attempt with
    | (c, .error fault) => c.abandon attempt.keyId fault cleanup
    | r => r

/-- `DispatchLease._release` of the lease of a future. -/
def releaseLease (c : AdmissionController) (future : Nat) : AdmissionController :=
  match c.grants.find? fun g => g.future == future && !g.released with
  | none => c
  | some g =>
    { c.releaseActive g.keyId with
      grants := c.grants.map fun h => if h.future = future then { h with released := true } else h }

/-- The cancellation handler of `acquire`, for the call that waits on a request. -/
def cancelCall (c : AdmissionController) (requestId : RequestId) : AdmissionController :=
  match c.waiters.get? requestId with
  | none => c
  | some w => c.dropWaiter w .cancelled

end AdmissionController

/-! ## Runs -/

/-- Who holds the pump lock, and where its pump waits. -/
inductive PumpPhase where
  | idle
  | pumping (excluded : List RequestId)
  | holding (proposal : PumpProposal)
  | reserving (attempt : Attempted)
  | dispatching (attempt : Attempted)

/-- A controller, its pump, and what the last pump step raised. -/
structure Admission where
  controller : AdmissionController
  phase : PumpPhase
  raised : Option AdmissionFault := none

/-- What happens to a controller. -/
inductive AdmissionEvent where
  | acquire (request : AdmissionRequest) (p : Providers)
  | wake
  | turn (p : RequestId → Providers)
  | hold (p : Providers) (attemptId : AttemptId)
  | refuse (fault : AdmissionFault)
  | reserved (reply : AdmissionController.ReserveReply)
  | dispatched (reply cleanup : Except AdmissionFault Unit)
  | release (future : Nat)
  | cancel (requestId : RequestId)

namespace Admission

/-- Where a pump is after one of its steps. -/
def after (dispatching : Bool) : AdmissionController.Result PumpStep → Admission
  | (c, .error fault) => ⟨c, .idle, some fault⟩
  | (c, .ok .returned) => ⟨c, .idle, none⟩
  | (c, .ok (.continued excluded)) => ⟨c, .pumping excluded, none⟩
  | (c, .ok (.proposed proposal)) => ⟨c, .holding proposal, none⟩
  | (c, .ok (.reserving attempt)) =>
    ⟨c, if dispatching then PumpPhase.dispatching attempt else PumpPhase.reserving attempt, none⟩

/-- The pump that follows an admission. -/
def started : AdmissionController.Result Unit → Admission
  | (c, .error fault) => ⟨c, .idle, some fault⟩
  | (c, .ok ()) => ⟨c.resetFallbacks, .pumping [], none⟩

/-- An event whose turn it is not. -/
def ignore (s : Admission) : Admission := { s with raised := none }

/-- One event. `refuse` is a dispatcher gate that raises; a release needs no lock. -/
def step (s : Admission) : AdmissionEvent → Admission
  | .acquire request p =>
    match s.phase with
    | .idle => started (s.controller.enlist p request)
    | _ => s.ignore
  | .wake =>
    match s.phase with
    | .idle => started (s.controller, .ok ())
    | _ => s.ignore
  | .turn p =>
    match s.phase with
    | .pumping excluded => after false (s.controller.turn p excluded)
    | _ => s.ignore
  | .hold p attemptId =>
    match s.phase with
    | .holding proposal => after false (s.controller.hold p proposal attemptId)
    | _ => s.ignore
  | .refuse fault =>
    match s.phase with
    | .holding _ => ⟨s.controller, .idle, some fault⟩
    | _ => s.ignore
  | .reserved reply =>
    match s.phase with
    | .reserving attempt => after true (s.controller.reserved attempt reply)
    | _ => s.ignore
  | .dispatched reply cleanup =>
    match s.phase with
    | .dispatching attempt => after false (s.controller.dispatched attempt reply cleanup)
    | _ => s.ignore
  | .release future => { s.ignore with controller := s.controller.releaseLease future }
  | .cancel requestId =>
    match s.phase with
    | .idle => { s.ignore with controller := s.controller.cancelCall requestId }
    | _ => s.ignore

end Admission

end LlmMaxxing
