import LlmMaxxing.Gateway.AdmissionSafety
import LlmMaxxing.Gateway.SampleRuntime

/-!
# What admission guarantees

The results about every run of `AdmissionController`, from the invariant and the case lemmas of its
pump: what it raises, how calls are answered, how many leases a key holds, what an attempt rests on,
and how long a pump lasts.
-/

namespace LlmMaxxing

open Check Fallible RequestAuthorizationCeiling

/-! ## Phases -/

/-- Whether a proposal is at the dispatcher gate. -/
def PumpPhase.atGate : PumpPhase → Bool
  | .holding _ => true
  | _ => false

theorem PumpPhase.exists_holding {phase : PumpPhase} (h : phase.atGate = true) :
    ∃ proposal, phase = .holding proposal := by
  cases phase <;> cases h
  exact ⟨_, rfl⟩

namespace Admission

open AdmissionController

variable {maxWaiters : Nat} {es : List AdmissionEvent} {s : Admission} {e : AdmissionEvent}
  {c c' : AdmissionController} {r : RequestId} {w : Waiter} {p : Providers}

/-- A run from a new controller. -/
inductive Run (maxWaiters : Nat) : List AdmissionEvent → Admission → Prop
  | init {c : AdmissionController} (h : AdmissionController.init maxWaiters = .ok c) :
      Run maxWaiters [] ⟨c, .idle, none⟩
  | step {es : List AdmissionEvent} {s : Admission} {e : AdmissionEvent} (h : Run maxWaiters es s)
      (he : e.Admissible) : Run maxWaiters (es ++ [e]) (s.step e)

theorem init_eq_ok (h : AdmissionController.init maxWaiters = .ok c) :
    c = ⟨{}, Dict.empty, Dict.empty, maxWaiters, 0, [], [], []⟩ := by
  unfold AdmissionController.init at h
  split_ifs at h
  exact (Except.ok.inj h).symm

theorem sound_init (h : AdmissionController.init maxWaiters = .ok c) : Sound ⟨c, .idle, none⟩ := by
  obtain rfl := init_eq_ok h
  refine ⟨⟨⟨fun h => ?_, fun h => ?_⟩, fun h => ?_, fun h => ?_⟩,
    ⟨List.nodup_nil, fun n hn => ?_, fun h => ?_, fun h => ?_, fun n hn => ?_, rfl⟩,
    fun k => rfl, Nat.zero_le _, trivial⟩
  · cases h
  · cases h
  · cases h
  · cases h
  · cases hn
  · cases h
  · cases h
  · exact absurd hn (Nat.not_lt_zero n)

/-- **Every reachable state is sound.** -/
theorem Run.sound (h : Run maxWaiters es s) : s.Sound := by
  induction h with
  | init hinit => exact sound_init hinit
  | step _ he ih => exact ih.step he

/-- The state after some events. -/
def run (s : Admission) (es : List AdmissionEvent) : Admission := es.foldl Admission.step s

theorem Run.run (h : Run maxWaiters es s) {events : List AdmissionEvent}
    (he : ∀ e ∈ events, e.Admissible) : Run maxWaiters (es ++ events) (s.run events) := by
  induction events generalizing es s with
  | nil =>
    rw [List.append_nil]
    exact h
  | cons e rest ih =>
    rw [List.forall_mem_cons] at he
    rw [List.append_cons]
    exact ih (h.step he.1) he.2

/-! ### A request of the sample client -/

theorem rotating_own_ids (k : String) (record : ClientKeyRecord)
    (h : (Dict.empty.insert "00000000000000000000000000000007" (rotatingKey 1 2)).get? k = some record) :
    record.keyId = k := by
  rw [Dict.get?_insert] at h
  split_ifs at h with heq
  · cases h
    exact heq.symm
  · cases h

/-- A view in which the sample client is let in. -/
def sampleAuthView : AuthRuntimeView where
  keyIndex := Dict.empty.insert "00000000000000000000000000000007" (rotatingKey 1 2)
  appliedBundleGeneration := 1
  appliedBundleHash := TypedId.numbered .bundleHash 1
  deniedKeyIds := []
  acceptedPeppers := Dict.empty.insert "v1" (List.replicate 32 1)
  legacyKeyIndex := Dict.empty
  trustedNowS := 5
  own_ids := rotating_own_ids

/-- The first generation of the sample bundle, with one free place. -/
def sampleProviders : Providers where
  authView := some sampleAuthView
  engine := RouteEngine.sampleEngine 1
  gate := fun _ _ => some true
  view := RouteEngine.freeView
  clock := fun _ => 1

theorem sampleProviders_sound : sampleProviders.Sound :=
  ⟨⟨_, _, rotatingBundle_valid le_rfl le_rfl (by decide), rfl⟩, fun _ => le_rfl⟩

theorem sample_deadline_pos : 1 ≤ 100 := by decide

/-- The sample client asks for the first time. -/
def sampleAdmission : AdmissionRequest where
  requestId := .numbered .request 1
  client := RouteEngine.sampleClient
  profile := RouteEngine.chatProfile
  authorizationCeiling := RouteEngine.sampleCeiling 1
  runtimeIdentity := (sampleRequest 1).runtimeIdentity
  deadlineAtMs := 100
  cause := .primary
  attemptBudget := ⟨.numbered .request 1, [], false⟩
  emergency := none
  ownBudget := rfl
  sameGroup := rfl
  sameKey := rfl
  deadline_pos := sample_deadline_pos

theorem sampleAdmission_admissible : sampleAdmission.Admissible where
  authorized := ⟨_, _, rotatingBundle_valid le_rfl le_rfl (by decide), RouteEngine.authorize_first⟩
  legs := by decide
  fence := by decide
  generation := by decide

/-- A new controller. -/
def sampleStart : Admission := ⟨⟨{}, Dict.empty, Dict.empty, 2, 0, [], [], []⟩, .idle, none⟩

/-- The request up to the dispatcher gate. -/
def sampleEvents : List AdmissionEvent :=
  [.acquire sampleAdmission sampleProviders, .turn fun _ => sampleProviders]

theorem sampleRun (n : Nat) : Run 2 (sampleEvents.take n) (sampleStart.run (sampleEvents.take n)) := by
  have hadmissible : ∀ e ∈ sampleEvents, e.Admissible := by
    rw [sampleEvents, List.forall_mem_cons, List.forall_mem_singleton]
    exact ⟨⟨sampleAdmission_admissible, sampleProviders_sound⟩, fun _ => sampleProviders_sound⟩
  have hinit : Run 2 [] sampleStart := .init rfl
  exact hinit.run fun e he => hadmissible e (List.mem_of_mem_take he)

/-- The request is at the dispatcher gate. -/
theorem sample_holding : ∃ proposal, (sampleStart.run (sampleEvents.take 2)).phase = .holding proposal :=
  PumpPhase.exists_holding (by decide +kernel)

/-- What does not come from admission itself: a refused request, the dispatcher gate, a reservation
with a bound out of range, the runtime, or its cleanup. -/
inductive Foreign (s : Admission) : AdmissionEvent → AdmissionFault → Prop
  | refused {request : AdmissionRequest} {p : Providers} {fault : AdmissionFault}
      (h : s.controller.checkAdmission p request = .error fault) : Foreign s (.acquire request p) fault
  | gate {fault : AdmissionFault} : Foreign s (.refuse fault) fault
  | unbookable {p : Providers} {attemptId : AttemptId} {r : RequestId} {w : Waiter}
      {account : AccountId} {quotaUnits : Nat} {e : ValidationError}
      (hget : s.controller.waiters.get? r = some w)
      (hquota : p.engine.quotaUnits account = .ok quotaUnits)
      (hrange : Unbookable w.request quotaUnits) : Foreign s (.hold p attemptId) (.invalid e)
  | reserve {fault : AdmissionFault} : Foreign s (.reserved (.raised fault (.ok ()))) fault
  | reserveCleanup {first fault : AdmissionFault} :
      Foreign s (.reserved (.raised first (.error fault))) fault
  | dispatch {fault : AdmissionFault} : Foreign s (.dispatched (.error fault) (.ok ())) fault
  | dispatchCleanup {first fault : AdmissionFault} :
      Foreign s (.dispatched (.error first) (.error fault)) fault

/-- **Admission raises nothing of its own.** In every reachable state no step finds a waiter or a
queue entry missing, an entry that cannot follow its ceiling, a stale selection, ceilings that do not
intersect or a send the budget refuses. -/
theorem Run.raises (h : Run maxWaiters es s) (he : e.Admissible) {fault : AdmissionFault}
    (hraised : (s.step e).raised = some fault) : Foreign s e fault := by
  have hstepped := h.sound.stepped he
  generalize s.step e = s' at hstepped hraised
  cases hstepped with
  | ignored => cases hraised
  | refused hphase hcheck =>
    cases hraised
    exact .refused hcheck
  | entered => cases hraised
  | woken => cases hraised
  | turned hphase hmoves hends => cases hends <;> cases hraised
  | held hphase hmade hget hends =>
    cases hends with
    | dropped => cases hraised
    | excluded => cases hraised
    | reserving => cases hraised
    | unbuildable _ _ _ hquota hrange =>
      cases hraised
      exact .unbookable hget hquota hrange
  | gate =>
    cases hraised
    exact .gate
  | reserved => cases hraised
  | diverted => cases hraised
  | denied => cases hraised
  | @reserveRaised attempt first cleanup hphase =>
    cases cleanup with
    | ok u => cases hraised; exact .reserve
    | error e => cases hraised; exact .reserveCleanup
  | granted => cases hraised
  | @dispatchRaised attempt first cleanup hphase =>
    cases cleanup with
    | ok u => cases hraised; exact .dispatch
    | error e => cases hraised; exact .dispatchCleanup
  | released => cases hraised
  | cancelled => cases hraised

/-- A pump whose dispatcher gate is closed. -/
theorem closed_gate_is_foreign :
    Foreign (sampleStart.run (sampleEvents.take 2)) (.refuse .cancelled) .cancelled := by
  have hadmissible : AdmissionEvent.Admissible (.refuse .cancelled) := trivial
  refine (sampleRun 2).raises hadmissible ?_
  obtain ⟨proposal, hphase⟩ := sample_holding
  simp only [Admission.step, hphase]

/-! ## How calls are answered -/

theorem prefix_resolve {n : Nat} {result : FutureResult} :
    c.futures <+: (c.resolve n result).futures := by
  unfold resolve
  split
  · exact List.prefix_refl _
  · exact List.prefix_append _ _

theorem prefix_dropWaiter {result : FutureResult} : c.futures <+: (c.dropWaiter w result).futures := by
  unfold dropWaiter
  exact prefix_resolve (c := { c with
    waiters := c.waiters.erase w.request.requestId
    queue := (c.queue.cancel w.request.requestId).2 })

theorem Move.futures (h : Move c c') : c.futures <+: c'.futures := by
  cases h with
  | revised => exact List.prefix_refl _
  | lowered => exact List.prefix_refl _
  | @failed r w fault hget => exact prefix_dropWaiter

theorem Moves.futures (h : Moves c c') : c.futures <+: c'.futures := by
  induction h with
  | refl => exact List.prefix_refl _
  | tail _ hlast ih => exact ih.trans (Move.futures hlast)

theorem prefix_of_futures_eq (h : c'.futures = c.futures) : c.futures <+: c'.futures := by
  rw [h]

theorem Run.answers_grow (h : Run maxWaiters es s) (he : e.Admissible) :
    s.controller.futures <+: (s.step e).controller.futures := by
  have hstepped := h.sound.stepped he
  generalize s.step e = s' at hstepped ⊢
  have habandon : ∀ (k : String) (fault : AdmissionFault) (cleanup : Except AdmissionFault Unit)
      (dispatching : Bool), (after dispatching (s.controller.abandon k fault cleanup)).controller.futures =
        s.controller.futures := by
    intro k fault cleanup dispatching
    cases cleanup <;> rfl
  cases hstepped with
  | ignored => exact List.prefix_refl _
  | refused => exact List.prefix_refl _
  | entered hphase henters =>
    obtain ⟨hfutures, -⟩ := henters.futures
    exact prefix_of_futures_eq hfutures
  | woken => exact List.prefix_refl _
  | turned hphase hmoves hends => cases hends <;> exact Moves.futures hmoves
  | held hphase hmade hget hends =>
    cases hends with
    | dropped hmoves hsize => exact Moves.futures hmoves
    | excluded hmoves hget => exact Moves.futures hmoves
    | reserving hmoves hqueue hget hrequest hcan hacquire hjustified =>
      have hgrown := Moves.futures hmoves
      obtain ⟨-, rfl⟩ := acquireActive_eq_some hacquire
      exact hgrown
    | unbuildable hmoves hlimit hacquire hquota hrange =>
      have hgrown := Moves.futures hmoves
      obtain ⟨-, rfl⟩ := acquireActive_eq_some hacquire
      exact hgrown
  | gate => exact List.prefix_refl _
  | reserved => exact List.prefix_refl _
  | diverted => exact List.prefix_refl _
  | denied => exact List.prefix_refl _
  | reserveRaised => exact prefix_of_futures_eq (habandon _ _ _ _)
  | @granted attempt w queue cleanup hphase hcommit hget =>
    exact prefix_resolve (c := { s.controller with
      queue
      waiters := s.controller.waiters.erase w.request.requestId
      grants := s.controller.grants ++ [leaseOf w attempt] })
  | dispatchRaised => exact prefix_of_futures_eq (habandon _ _ _ _)
  | @released n =>
    show s.controller.futures <+: (s.controller.releaseLease n).futures
    unfold releaseLease
    split <;> exact List.prefix_refl _
  | cancelled => exact prefix_dropWaiter

/-- **Every call is answered once**: it waits or it has its one answer, the dispatched calls are
exactly those that hold a lease, and no step takes an answer back. -/
theorem Run.answered_once (h : Run maxWaiters es s) :
    s.controller.Answered ∧ ∀ e : AdmissionEvent, e.Admissible →
      s.controller.futures <+: (s.step e).controller.futures :=
  ⟨h.sound.answered, fun _ he => h.answers_grow he⟩

theorem sample_answered_once : (sampleStart.run (sampleEvents.take 2)).controller.Answered ∧
    ∀ e : AdmissionEvent, e.Admissible → (sampleStart.run (sampleEvents.take 2)).controller.futures <+:
      ((sampleStart.run (sampleEvents.take 2)).step e).controller.futures :=
  (sampleRun 2).answered_once

/-! ## What a key may hold -/

/-- The waiters of a key. -/
def waitersOf (c : AdmissionController) (k : String) : Nat :=
  c.waiters.values.countP fun w => w.request.client.keyId == k

/-- Limits above the ceilings of the waiters, kept by the permits and the waiters of every key. -/
structure Within (permits waits : String → Nat) (maxWaiters : Nat) (c : AdmissionController) :
    Prop where
  ceilings : ∀ {r w}, c.waiters.get? r = some w →
    w.request.authorizationCeiling.maxConcurrency ≤ permits w.request.client.keyId
  active : ∀ k, c.activeCount k ≤ permits k
  waiting : ∀ k, waitersOf c k ≤ waits k
  global : c.maxWaitersGlobal = maxWaiters

theorem waitersOf_erase_le (k : String) :
    (c.waiters.erase r).values.countP (fun w => w.request.client.keyId == k) ≤ waitersOf c k :=
  (List.filter_sublist.map Prod.snd).countP_le

variable {permits waits : String → Nat}

/-- Fewer waiters and other permits. -/
theorem Within.of_waiters (h : Within permits waits maxWaiters c)
    (hwaiters : ∀ {r w}, c'.waiters.get? r = some w →
      ∃ v, c.waiters.get? r = some v ∧ w.request = v.request)
    (hactive : ∀ k, c'.activeCount k ≤ permits k) (hwaiting : ∀ k, waitersOf c' k ≤ waitersOf c k)
    (hglobal : c'.maxWaitersGlobal = c.maxWaitersGlobal) : Within permits waits maxWaiters c' where
  ceilings {r w} hget := by
    obtain ⟨v, hv, hrequest⟩ := hwaiters hget
    rw [hrequest]
    exact h.ceilings hv
  active := hactive
  waiting k := (hwaiting k).trans (h.waiting k)
  global := hglobal.trans h.global

theorem Within.repermit {active : Dict String Nat} {stranded : List String}
    (h : Within permits waits maxWaiters c)
    (hactive : ∀ k, ({ c with activeByKey := active, stranded } : AdmissionController).activeCount k ≤
      permits k) : Within permits waits maxWaiters { c with activeByKey := active, stranded } :=
  ⟨h.ceilings, hactive, h.waiting, h.global⟩

theorem Within.release (h : Within permits waits maxWaiters c) (k : String) :
    Within permits waits maxWaiters (c.releaseActive k) := by
  refine h.repermit fun j => ?_
  have hreleased : (c.releaseActive k).activeCount j = c.activeCount j - [k].count j :=
    activeCount_release
  have hactive := h.active j
  show (c.releaseActive k).activeCount j ≤ permits j
  omega

/-- A revised waiter counts for the same key. -/
theorem Within.revise {w' : Waiter} (h : Within permits waits maxWaiters c)
    (hget : c.waiters.get? r = some w) (hrequest : w'.request = w.request)
    (hw : w'.request.requestId = r) : Within permits waits maxWaiters (c.setWaiter w') := by
  refine h.of_waiters (fun {r' v} hv => ?_) h.active (fun k => le_of_eq ?_) rfl
  · rw [get?_setWaiter hw] at hv
    split_ifs at hv with heq
    · cases hv
      exact ⟨w, heq ▸ hget, hrequest⟩
    · exact ⟨v, hv, rfl⟩
  · have hold := (Dict.values_perm_of_get? hget).countP_eq fun w => w.request.client.keyId == k
    have hnew := (c.waiters.values_insert_perm r w').countP_eq fun w => w.request.client.keyId == k
    rw [waitersOf, waitersOf, setWaiter, hw]
    rw [hnew, hold, List.countP_cons, List.countP_cons, hrequest]

/-- A waiter that leaves. -/
theorem Within.leave (h : Within permits waits maxWaiters c)
    (hwaiters : c'.waiters = c.waiters.erase r) (hactive : c'.activeByKey = c.activeByKey)
    (hglobal : c'.maxWaitersGlobal = c.maxWaitersGlobal) : Within permits waits maxWaiters c' := by
  refine h.of_waiters (fun {r' v} hv => ?_) (fun k => ?_) (fun k => ?_) hglobal
  · rw [hwaiters, Dict.get?_erase] at hv
    split_ifs at hv
    exact ⟨v, hv, rfl⟩
  · rw [activeCount, hactive]
    exact h.active k
  · rw [waitersOf, hwaiters]
    exact waitersOf_erase_le k

theorem Within.drop (h : Within permits waits maxWaiters c) (result : FutureResult) :
    Within permits waits maxWaiters (c.dropWaiter w result) :=
  h.leave dropWaiter_waiters dropWaiter_samePermits.activeByKey dropWaiter_samePermits.maxWaitersGlobal

theorem Move.within (h : Move c c') (hc : Within permits waits maxWaiters c) :
    Within permits waits maxWaiters c' := by
  cases h with
  | revised hget hrequest hfuture hsound => exact hc.revise hget hrequest hsound.requestId
  | lowered => exact ⟨hc.ceilings, hc.active, hc.waiting, hc.global⟩
  | failed fault hget => exact hc.drop _

theorem Moves.within (h : Moves c c') (hc : Within permits waits maxWaiters c) :
    Within permits waits maxWaiters c' :=
  keeps_of_steps (fun _ _ => Move.within) h hc

theorem Within.resetFallbacks (h : Within permits waits maxWaiters c) :
    Within permits waits maxWaiters c.resetFallbacks := by
  refine h.of_waiters (fun {r w} hget => ?_) h.active (fun k => le_of_eq ?_) rfl
  · obtain ⟨v, hv, hreset⟩ := exists_of_resetFallbacks hget
    exact ⟨v, hv, by rw [hreset]⟩
  · show ((c.waiters.entries.map _).map Prod.snd).countP _ = (c.waiters.entries.map Prod.snd).countP _
    rw [List.map_map, List.countP_map, List.countP_map]
    rfl

/-- A permit is taken below the ceiling of a waiter. -/
theorem Within.acquire {ceiling : RequestAuthorizationCeiling} (h : Within permits waits maxWaiters c)
    (hlimit : w.request.authorizationCeiling.maxConcurrency ≤ permits w.request.client.keyId)
    (hbelow : ceiling.Below w.request.authorizationCeiling)
    (hacquire : c.acquireActive w.request.client.keyId ceiling.maxConcurrency = some c') :
    Within permits waits maxWaiters c' := by
  have hcount := fun k => activeCount_acquire (k := k) hacquire
  obtain ⟨hfree, rfl⟩ := acquireActive_eq_some hacquire
  refine h.repermit fun k => ?_
  have hactive := h.active k
  have hk := hcount k
  show AdmissionController.activeCount _ k ≤ permits k
  rw [hk]
  by_cases heq : w.request.client.keyId = k
  · rw [← heq] at hactive ⊢
    rw [List.count_singleton_self]
    have hconcurrency := hbelow.concurrency
    omega
  · rw [List.count_eq_zero.mpr (by simpa using fun h => heq h.symm)]
    omega

theorem Within.enters {request : AdmissionRequest} (h : Within permits waits maxWaiters c)
    (henters : Enters c request w c')
    (hpermits : request.authorizationCeiling.maxConcurrency ≤ permits request.client.keyId)
    (hwaits : request.authorizationCeiling.maxWaiters ≤ waits request.client.keyId) :
    Within permits waits maxWaiters c' := by
  obtain ⟨hactive, -, -, hglobal⟩ := henters.permits
  refine ⟨fun {r v} hv => ?_, fun k => ?_, fun k => ?_, hglobal.trans h.global⟩
  · rw [henters.waiters, Dict.get?_insert] at hv
    split_ifs at hv with heq
    · cases hv
      rw [henters.asked]
      exact hpermits
    · exact h.ceilings hv
  · rw [activeCount, hactive]
    exact h.active k
  · have hnew := (c.waiters.values_insert_perm request.requestId w).countP_eq
      fun w => w.request.client.keyId == k
    rw [Dict.erase_eq_self henters.absent, List.countP_cons, henters.asked] at hnew
    have hroom := henters.keyRoom
    have hwaiting := h.waiting k
    rw [waitersOf, henters.waiters, hnew]
    rw [waitersOf] at hwaiting
    by_cases heq : request.client.keyId = k
    · rw [← heq] at hwaiting ⊢
      simp only [beq_self_eq_true, if_true]
      omega
    · simp only [beq_eq_false_iff_ne.mpr heq, Bool.false_eq_true, if_false]
      exact hwaiting

/-- Every event stays within the limits of the requests it lets in. -/
theorem Within.step (h : Within permits waits maxWaiters s.controller) (hs : s.Sound)
    (he : e.Admissible)
    (hlimits : ∀ request p, e = .acquire request p →
      request.authorizationCeiling.maxConcurrency ≤ permits request.client.keyId ∧
        request.authorizationCeiling.maxWaiters ≤ waits request.client.keyId) :
    Within permits waits maxWaiters (s.step e).controller := by
  have hstepped := hs.stepped he
  generalize s.step e = s' at hstepped ⊢
  have habandon : ∀ (k : String) (fault : AdmissionFault) (cleanup : Except AdmissionFault Unit)
      (dispatching : Bool), Within permits waits maxWaiters
        (after dispatching (s.controller.abandon k fault cleanup)).controller := by
    intro k fault cleanup dispatching
    -- a cleanup that raises leaves the permit taken, which only lowers what is free
    cases cleanup with
    | ok u => exact h.release k
    | error e => exact h.repermit h.active
  cases hstepped with
  | ignored => exact h
  | refused => exact h
  | @entered request p w c' hphase henters =>
    obtain ⟨hpermits, hwaits⟩ := hlimits request p rfl
    exact (h.enters henters hpermits hwaits).resetFallbacks
  | woken => exact h.resetFallbacks
  | turned hphase hmoves hends => cases hends <;> exact Moves.within hmoves h
  | @held p attemptId proposal previews w c' o hphase hmade hget hends =>
    have hlimit := h.ceilings hget
    cases hends with
    | dropped hmoves hsize => exact Moves.within hmoves h
    | excluded hmoves hget => exact Moves.within hmoves h
    | reserving hmoves hqueue hget' hrequest hcan hacquire hjustified =>
      exact (Moves.within hmoves h).acquire hlimit hjustified.below_admitted hacquire
    | unbuildable hmoves hbelow hacquire hquota hrange =>
      have hacquired := (Moves.within hmoves h).acquire hlimit hbelow hacquire
      exact hacquired.repermit hacquired.active
  | gate => exact h
  | reserved => exact h
  | @diverted attempt w reason cause hphase hcause hget =>
    exact (h.release attempt.keyId).revise hget rfl (hs.lockstep.sound hget).requestId
  | denied => exact h.release _
  | reserveRaised => exact habandon _ _ _ _
  | granted hphase hcommit hget =>
    exact h.leave resolve_waiters resolve_samePermits.activeByKey resolve_samePermits.maxWaitersGlobal
  | dispatchRaised => exact habandon _ _ _ _
  | @released n =>
    show Within permits waits maxWaiters (s.controller.releaseLease n)
    unfold releaseLease
    split
    · exact h
    · next g hfind =>
      have hreleased := h.release g.keyId
      exact ⟨hreleased.ceilings, hreleased.active, hreleased.waiting, hreleased.global⟩
  | cancelled => exact h.drop _

/-- The limits of a run: above the ceilings of all requests that were put to admission. -/
def Limits (permits waits : String → Nat) (es : List AdmissionEvent) : Prop :=
  ∀ request p, AdmissionEvent.acquire request p ∈ es →
    request.authorizationCeiling.maxConcurrency ≤ permits request.client.keyId ∧
      request.authorizationCeiling.maxWaiters ≤ waits request.client.keyId

theorem Run.within (h : Run maxWaiters es s) (hlimits : Limits permits waits es) :
    Within permits waits maxWaiters s.controller := by
  induction h with
  | init hinit =>
    obtain rfl := init_eq_ok hinit
    refine ⟨fun hget => ?_, fun k => Nat.zero_le _, fun k => Nat.zero_le _, rfl⟩
    cases hget
  | @step es s e hrun he ih =>
    refine (ih fun request p hmem => hlimits request p (List.mem_append_left _ hmem)).step hrun.sound he ?_
    rintro request p rfl
    exact hlimits request p (by simp)

/-- A denial that sends a waiter to a fallback. -/
def isDiversion (s : Admission) : AdmissionEvent → Bool
  | .reserved (.denied reason) => match s.phase with
    | .reserving _ => (denialCause reason).isSome
    | _ => false
  | _ => false

/-- The events of a run that satisfy a test where they happen. -/
def occurrences (test : Admission → AdmissionEvent → Bool) : Admission → List AdmissionEvent → Nat
  | _, [] => 0
  | s, e :: es => (if test s e then 1 else 0) + occurrences test (s.step e) es

/-- An event of a pump, or a release beside it. -/
def inPump : AdmissionEvent → Bool
  | .acquire _ _ => false
  | .wake => false
  | .cancel _ => false
  | _ => true

/-- What a pump with some waiters and exclusions can still do. -/
def budget (c : AdmissionController) (excluded : List RequestId) : Nat :=
  c.waiters.size * (c.waiters.size + 1) + c.pending excluded

/-- The turns a pump may still take without a diversion. -/
def potential (s : Admission) : Nat :=
  match s.phase with
  | .idle => 0
  | .pumping excluded => budget s.controller excluded + 1
  | .holding proposal => budget s.controller proposal.excluded
  | .reserving attempt => budget s.controller attempt.excluded
  | .dispatching attempt => budget s.controller attempt.excluded

theorem budget_mono {e : List RequestId} (h : c'.waiters.keys.Sublist c.waiters.keys) :
    budget c' e ≤ budget c e := by
  have hsize := size_le_of_keys h
  have hpending : c'.pending e ≤ c.pending e := pending_le_of_keys h
  have hproduct := Nat.mul_le_mul hsize (Nat.add_le_add_right hsize 1)
  unfold budget
  omega

/-- A waiter that left pays for clearing the exclusions. -/
theorem budget_of_size {e e' : List RequestId}
    (h : c'.waiters.size + 1 ≤ c.waiters.size) : budget c' e' + 1 ≤ budget c e := by
  have hpending : c'.pending e' ≤ c'.waiters.size := pending_le_size
  have hsquare := Nat.mul_le_mul h h
  unfold budget
  generalize c'.waiters.size = n at *
  generalize c.waiters.size = m at *
  have hleft : (n + 1) * (n + 1) = n * (n + 1) + (n + 1) := Nat.succ_mul n (n + 1)
  have hright : m * (m + 1) = m * m + m := Nat.mul_succ m m
  omega

/-- An exclusion pays for the next turn. -/
theorem budget_cons {excluded : List RequestId} (hget : c.waiters.get? r = some w)
    (hfresh : r ∉ excluded) : budget c (r :: excluded) + 1 = budget c excluded := by
  have hpending := pending_cons hget hfresh
  unfold budget
  omega

theorem potential_abandon {k : String} {fault : AdmissionFault} {cleanup : Except AdmissionFault Unit}
    {dispatching : Bool} : potential (after dispatching (c.abandon k fault cleanup)) = 0 := by
  cases cleanup <;> rfl

/-- A release changes neither the waiters nor the pump. -/
theorem potential_release (n : Nat) :
    potential { s.ignore with controller := s.controller.releaseLease n } = potential s := by
  have hbudget : ∀ excluded, budget (s.controller.releaseLease n) excluded =
      budget s.controller excluded := by
    intro excluded
    rw [budget, budget, pending, pending, (releaseLease_same s.controller n).2.1]
  unfold potential
  show (match s.phase with
    | .idle => 0
    | .pumping excluded => budget (s.controller.releaseLease n) excluded + 1
    | .holding proposal => budget (s.controller.releaseLease n) proposal.excluded
    | .reserving attempt => budget (s.controller.releaseLease n) attempt.excluded
    | .dispatching attempt => budget (s.controller.releaseLease n) attempt.excluded) = _
  simp only [hbudget]

/-- **A turn uses up one of the potential, a diversion gives one back.** -/
theorem potential_step (hs : s.Sound) (he : e.Admissible) (hpump : inPump e = true) :
    (if s.isTurn e then 1 else 0) + potential (s.step e) ≤
      potential s + if isDiversion s e then 1 else 0 := by
  have hstepped := hs.stepped he
  have hheld := hs.phase
  generalize s.step e = s' at hstepped ⊢
  cases hstepped with
  | ignored hquiet =>
    rw [hquiet, show potential s.ignore = potential s from rfl]
    simp only [Bool.false_eq_true, if_false]
    omega
  | refused => cases hpump
  | entered => cases hpump
  | woken => cases hpump
  -- a turn ends the pump, uses up the share of one request, or holds one
  | @turned providers excluded previews c' ends hphase hmoves hends =>
    have hmono := budget_mono (e := excluded) hmoves.keys
    have hturn : s.isTurn (.turn providers) = true := by simp [isTurn, hphase]
    have hpotential : potential s = budget s.controller excluded + 1 := by simp [potential, hphase]
    rw [hturn, hpotential, if_pos rfl]
    cases hends with
    | returned =>
      show 1 + 0 ≤ _
      omega
    | @continued r w hfresh hget =>
      have hcons := budget_cons hget hfresh
      show 1 + (budget c' (r :: excluded) + 1) ≤ _
      omega
    | @proposed proposal w hmade hexcluded hget =>
      show 1 + budget c' proposal.excluded ≤ _
      rw [hexcluded]
      omega
  | @held p attemptId proposal previews w c' o hphase hmade hget hends =>
    have hpotential : potential s = budget s.controller proposal.excluded := by simp [potential, hphase]
    show 0 + _ ≤ potential s + 0
    rw [hpotential]
    cases hends with
    | dropped hmoves hsize =>
      have hpaid : budget c' proposal.excluded + 1 ≤ budget s.controller proposal.excluded :=
        budget_of_size hsize.le
      show 0 + (budget c' proposal.excluded + 1) ≤ _
      omega
    | excluded hmoves hget' =>
      have hmono := budget_mono (e := proposal.excluded) hmoves.keys
      have hcons := budget_cons hget' hmade.fresh
      show 0 + (budget c' (proposal.selection.entry.requestId :: proposal.excluded) + 1) ≤ _
      omega
    | @reserving c₁ c'' w' attempt current hmoves hqueue hget' hrequest hcan hacquire hjustified =>
      have hmono := budget_mono (e := proposal.excluded) hmoves.keys
      obtain ⟨-, rfl⟩ := acquireActive_eq_some hacquire
      show 0 + budget c₁ attempt.excluded ≤ _
      rw [hjustified.selection.1]
      omega
    | unbuildable =>
      show 0 + 0 ≤ _
      omega
  | gate =>
    show 0 + 0 ≤ _
    omega
  | @reserved attempt hphase =>
    have hpotential : potential s = budget s.controller attempt.excluded := by simp [potential, hphase]
    show 0 + budget s.controller attempt.excluded ≤ _
    rw [hpotential]
    omega
  -- a diversion keeps the waiters and gives the request its turn back
  | @diverted attempt w reason cause hphase hcause hget =>
    have hpotential : potential s = budget s.controller attempt.excluded := by simp [potential, hphase]
    have hdiversion : isDiversion s (.reserved (.denied reason)) = true := by
      simp [isDiversion, hphase, hcause]
    have hrequest := (hs.lockstep.sound hget).requestId
    have hkeys : ((s.controller.releaseActive attempt.keyId).setWaiter
        { w with fallbackOnce := some cause }).waiters.keys = s.controller.waiters.keys := by
      apply keys_setWaiter
      show s.controller.waiters.get? w.request.requestId ≠ none
      rw [hrequest, hget]
      exact Option.some_ne_none _
    have hsublist : ((s.controller.releaseActive attempt.keyId).setWaiter
        { w with fallbackOnce := some cause }).waiters.keys.Sublist s.controller.waiters.keys := by
      rw [hkeys]
    have hmono := budget_mono (e := attempt.excluded) hsublist
    rw [hdiversion, hpotential, if_pos rfl]
    show 0 + (budget _ attempt.excluded + 1) ≤ _
    rw [Nat.zero_add]
    exact Nat.add_le_add_right hmono 1
  | @denied attempt reason hphase hcause =>
    rw [hphase] at hheld
    obtain ⟨w, hget, -⟩ := hheld.waiter
    have hcons := budget_cons hget hheld.fresh
    have hpotential : potential s = budget s.controller attempt.excluded := by simp [potential, hphase]
    show 0 + (budget s.controller (attempt.selection.entry.requestId :: attempt.excluded) + 1) ≤ _
    omega
  | reserveRaised =>
    rw [potential_abandon]
    exact Nat.zero_le _
  -- a grant takes the waiter out, which pays for starting over with nothing excluded
  | @granted attempt w queue cleanup hphase hcommit hget =>
    have hrequest := (hs.lockstep.sound hget).requestId
    have hpotential : potential s = budget s.controller attempt.excluded := by simp [potential, hphase]
    generalize hgranted : AdmissionController.resolve _ w.future _ = c'
    have hsize : c'.waiters.size + 1 ≤ s.controller.waiters.size := by
      rw [← hgranted, resolve_waiters, hrequest]
      exact (Dict.entries_perm_of_get? hget).length_eq.ge
    have hpaid : budget c' [] + 1 ≤ budget s.controller attempt.excluded := budget_of_size hsize
    show 0 + (budget c' [] + 1) ≤ potential s + 0
    omega
  | dispatchRaised =>
    rw [potential_abandon]
    exact Nat.zero_le _
  | @released n =>
    rw [potential_release]
    show 0 + potential s ≤ _
    omega
  | cancelled => cases hpump

end Admission

end LlmMaxxing
