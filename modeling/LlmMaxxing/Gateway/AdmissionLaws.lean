import LlmMaxxing.Gateway.Admission
import LlmMaxxing.Gateway.Aging
import LlmMaxxing.Gateway.Contraction
import LlmMaxxing.Gateway.RoutingLaws

/-!
# What the parts of a pump do to a controller

Waiters and queue entries stand for one another, and a waiter's entry carries a ceiling its effective
one was contracted from. While this holds the queue and the ceilings refuse nothing, so that an
evaluation of a waiter (`_current_authorization`, `_preview`) either answers or drops it. What
evaluations do to a controller is a sequence of three kinds of moves; every invariant of a pump needs
only these.
-/

namespace LlmMaxxing

open Check Fallible RequestAuthorizationCeiling

/-! ## What admission may rely on -/

/-- The engine of a valid bundle and a positive clock. -/
structure Providers.Sound (p : Providers) : Prop where
  engine : ∃ b hash, b.validate = .ok b ∧ p.engine = .index b hash
  clock : ∀ n, 1 ≤ p.clock n

/-- The ceiling was authorized by the engine of some valid bundle and has legs; the runtime identity
is in the range of its fields. -/
structure AdmissionRequest.Admissible (request : AdmissionRequest) : Prop where
  authorized : ∃ b hash, b.validate = .ok b ∧
    (RouteEngine.index b hash).authorize request.client request.profile =
      .ok request.authorizationCeiling
  legs : request.authorizationCeiling.authorizedLegs ≠ []
  fence : 1 ≤ request.runtimeIdentity.dispatcherFence ∧
    request.runtimeIdentity.dispatcherFence ≤ maxInt
  generation : 1 ≤ request.runtimeIdentity.bundleGeneration

theorem AdmissionRequest.Admissible.authorizedFor {request : AdmissionRequest}
    (h : request.Admissible) :
    RouteEngine.AuthorizedFor request.client request.profile request.authorizationCeiling := by
  obtain ⟨b, hash, hb, hauthorize⟩ := h.authorized
  exact RouteEngine.authorizedFor_of_authorize hb hauthorize

theorem RouteEngine.AuthorizedFor.sameIdentity {client : AuthenticatedClient}
    {profile : RequestProfile} {c d : RequestAuthorizationCeiling}
    (hc : RouteEngine.AuthorizedFor client profile c)
    (hd : RouteEngine.AuthorizedFor client profile d) : c.sameIdentity d :=
  ⟨hc.keyId.trans hd.keyId.symm, hc.credentialGeneration.trans hd.credentialGeneration.symm,
    hc.policyId.trans hd.policyId.symm, hc.routeGroupId.trans hd.routeGroupId.symm⟩

/-- The account of an authorized leg is in the bundle. -/
theorem Providers.Sound.quotaUnits {p : Providers} (hp : p.Sound) {client : AuthenticatedClient}
    {profile : RequestProfile} {c : RequestAuthorizationCeiling} {leg : AuthorizedLeg}
    (h : p.engine.authorize client profile = .ok c) (hleg : leg ∈ c.authorizedLegs) :
    ∃ quotaUnits, p.engine.quotaUnits leg.accountId = .ok quotaUnits := by
  obtain ⟨b, hash, hb, hengine⟩ := hp.engine
  obtain ⟨-, -, -, -, -, hconsistent⟩ := PolicyBundleV1.validate_eq_ok_self_iff.mp hb
  rw [hengine] at h ⊢
  obtain ⟨policy, hpolicy, hgrant⟩ := RouteEngine.grant_of_authorize hb h hleg
  obtain ⟨actual, groupId, hmatches⟩ := hconsistent.grants policy hpolicy leg hgrant
  obtain ⟨account, haccount, hid⟩ := List.mem_map.mp hmatches.account
  have hget : (RouteEngine.index b hash).accounts.get? leg.accountId = some account :=
    (Dict.get?_indexOn_eq_some_iff hconsistent.accounts_nodup).mpr ⟨haccount, hid⟩
  refine ⟨account.quotaUnitsPerAttempt, ?_⟩
  rw [RouteEngine.quotaUnits, hget]

/-! ## Waiters -/

/-- A waiter after an evaluation under a current ceiling. -/
def Waiter.contract (w : Waiter) (current : RequestAuthorizationCeiling) : Waiter :=
  { w with
    effectiveCeiling := w.effectiveCeiling.meet current
    effectiveDeadlineAtMs :=
      min w.effectiveDeadlineAtMs (w.admittedAtMs + (w.effectiveCeiling.meet current).deadlineMs) }

/-- A waiter whose queue entry can follow its ceiling. -/
structure Waiter.Sound (q : WDRRQueue) (r : RequestId) (w : Waiter) : Prop where
  requestId : w.request.requestId = r
  admissible : w.request.Admissible
  lagging : Lagging r w.request.authorizationCeiling q w.effectiveCeiling
  below : w.effectiveCeiling.Below w.request.authorizationCeiling
  deadline_pos : 1 ≤ w.effectiveDeadlineAtMs
  deadline_le : w.effectiveDeadlineAtMs ≤ w.request.deadlineAtMs
  keyId : ∀ item, q.queued.get? r = some item → item.entry.keyId = w.request.client.keyId

namespace Waiter.Sound

variable {q q' : WDRRQueue} {r : RequestId} {w w' : Waiter} {p : Providers}
  {current : RequestAuthorizationCeiling}

/-- Only the waiter's own entry matters. -/
theorem congr (h : w.Sound q r) (hsame : q'.queued.get? r = q.queued.get? r) : w.Sound q' r := by
  obtain ⟨hidentity, hvalid, item, carried, hitem, hrest⟩ := h.lagging
  refine { h with lagging := ⟨hidentity, hvalid, item, carried, hsame.trans hitem, hrest⟩, keyId := ?_ }
  intro item' hitem'
  apply h.keyId
  rw [← hsame]
  exact hitem'

/-- The budget and the fallback do not matter. -/
theorem revise (h : w.Sound q r) (hrequest : w'.request = w.request)
    (hceiling : w'.effectiveCeiling = w.effectiveCeiling)
    (hdeadline : w'.effectiveDeadlineAtMs = w.effectiveDeadlineAtMs) : w'.Sound q r where
  requestId := hrequest ▸ h.requestId
  admissible := hrequest ▸ h.admissible
  lagging := by
    rw [hrequest, hceiling]
    exact h.lagging
  below := by
    rw [hrequest, hceiling]
    exact h.below
  deadline_pos := hdeadline ▸ h.deadline_pos
  deadline_le := by
    rw [hrequest, hdeadline]
    exact h.deadline_le
  keyId := by
    rw [hrequest]
    exact h.keyId

theorem queued (h : w.Sound q r) : ∃ item, q.queued.get? r = some item := by
  obtain ⟨-, -, item, -, hitem, -⟩ := h.lagging
  exact ⟨item, hitem⟩

theorem routingContext_check (h : w.Sound q r) {nowMs : Nat} (hnow : 1 ≤ nowMs) :
    (w.routingContext nowMs).check = .ok () :=
  requireValue_eq_ok_iff.mpr ⟨hnow, h.deadline_pos, h.admissible.fence.1⟩

/-- What an engine authorizes is a ceiling of the waiter's identity. -/
theorem current_of_authorize (h : w.Sound q r) (hp : p.Sound)
    (hcurrent : p.engine.authorize w.request.client w.request.profile = .ok current) :
    Valid current ∧ w.effectiveCeiling.sameIdentity current := by
  obtain ⟨b, hash, hb, hengine⟩ := hp.engine
  rw [hengine] at hcurrent
  have hauthorized := RouteEngine.authorizedFor_of_authorize hb hcurrent
  obtain ⟨hkey, hcredential, hpolicy, hgroup⟩ := h.lagging.identity
  obtain ⟨hkey', hcredential', hpolicy', hgroup'⟩ :=
    h.admissible.authorizedFor.sameIdentity hauthorized
  exact ⟨hauthorized.valid, hkey.trans hkey', hcredential.trans hcredential',
    hpolicy.trans hpolicy', hgroup.trans hgroup'⟩

/-- Contracting keeps a waiter sound: its entry lags a little more. -/
theorem contract (h : w.Sound q r) (hvalid : Valid current) : (w.contract current).Sound q r := by
  obtain ⟨hidentity, hc, item, carried, hitem, hcarries, hcarried, hcontracts, hbelow⟩ := h.lagging
  have hmet := valid_meet hc hvalid
  have hdeadline : 1 ≤ (w.effectiveCeiling.meet current).deadlineMs := by
    obtain ⟨-, -, -, -, -, -, -, hdeadline, -⟩ := valid_iff.mp hmet
    exact hdeadline.1
  have hpos := h.deadline_pos
  have hle := h.deadline_le
  refine ⟨h.requestId, h.admissible, ⟨hidentity, hmet, item, carried, hitem, hcarries, hcarried,
    hcontracts.trans (contracts_meet _ _), (meet_below_left _ _).trans hbelow⟩,
    (meet_below_left _ _).trans h.below, ?_, ?_, h.keyId⟩
  · show 1 ≤ min w.effectiveDeadlineAtMs (w.admittedAtMs + _)
    omega
  · show min w.effectiveDeadlineAtMs (w.admittedAtMs + _) ≤ w.request.deadlineAtMs
    omega

end Waiter.Sound

namespace WDRRQueue

theorem cancel_queued (q : WDRRQueue) (r : RequestId) :
    (q.cancel r).2.queued = q.queued.erase r := by
  unfold cancel
  split
  · rfl
  · next habsent =>
    have hnone : q.queued.get? r = none :=
      Dict.contains_eq_false_iff.mp (Bool.not_eq_true _ ▸ habsent)
    exact (Dict.erase_eq_self hnone).symm

theorem cancel_nextSequence (q : WDRRQueue) (r : RequestId) :
    (q.cancel r).2.nextSequence = q.nextSequence := by
  unfold cancel
  split <;> rfl

end WDRRQueue

namespace AdmissionController

variable {c c' : AdmissionController} {r r' : RequestId} {w w' : Waiter} {p : Providers}
  {fault : AdmissionFault} {result : FutureResult}

/-! ## Lockstep -/

/-- Waiters and queue entries stand for one another. -/
structure Lockstep (c : AdmissionController) : Prop where
  coherent : c.queue.Coherent
  sound : ∀ {r w}, c.waiters.get? r = some w → w.Sound c.queue r
  waits : ∀ {r item}, c.queue.queued.get? r = some item → ∃ w, c.waiters.get? r = some w

@[simp] theorem setWaiter_queue : (c.setWaiter w).queue = c.queue := rfl

theorem get?_setWaiter (hw : w.request.requestId = r) :
    (c.setWaiter w).waiters.get? r' = if r' = r then some w else c.waiters.get? r' := by
  rw [setWaiter, hw]
  exact Dict.get?_insert _ _ _ _

@[simp] theorem resolve_queue {n : Nat} : (c.resolve n result).queue = c.queue := by
  unfold resolve
  split <;> rfl

@[simp] theorem resolve_waiters {n : Nat} : (c.resolve n result).waiters = c.waiters := by
  unfold resolve
  split <;> rfl

theorem dropWaiter_queue : (c.dropWaiter w result).queue = (c.queue.cancel w.request.requestId).2 :=
  resolve_queue

theorem dropWaiter_waiters :
    (c.dropWaiter w result).waiters = c.waiters.erase w.request.requestId :=
  resolve_waiters

theorem Lockstep.setWaiter (h : c.Lockstep) (hw : w.Sound c.queue r) : (c.setWaiter w).Lockstep where
  coherent := h.coherent
  sound {r' w'} hget := by
    rw [get?_setWaiter hw.requestId] at hget
    split_ifs at hget with heq
    · cases hget
      rw [heq]
      exact hw
    · exact h.sound hget
  waits {r' item} hitem := by
    rw [get?_setWaiter hw.requestId]
    split_ifs with heq
    · exact ⟨w, rfl⟩
    · exact h.waits hitem

/-- A request leaves the table and the queue together. -/
theorem Lockstep.forget (h : c.Lockstep) (hwaiters : c'.waiters = c.waiters.erase r)
    (hqueued : c'.queue.queued = c.queue.queued.erase r)
    (hnext : c'.queue.nextSequence = c.queue.nextSequence) : c'.Lockstep where
  coherent := by
    refine ⟨fun {r' item} hitem => ?_, fun {r' item} hitem => ?_⟩
    · rw [hqueued, Dict.get?_erase] at hitem
      split_ifs at hitem
      exact h.coherent.requestId_eq hitem
    · rw [hqueued, Dict.get?_erase] at hitem
      split_ifs at hitem
      rw [hnext]
      exact h.coherent.sequence_lt hitem
  sound {r' w} hget := by
    rw [hwaiters, Dict.get?_erase] at hget
    split_ifs at hget with heq
    apply (h.sound hget).congr
    rw [hqueued, Dict.get?_erase_of_ne _ heq]
  waits {r' item} hitem := by
    rw [hqueued, Dict.get?_erase] at hitem
    rw [hwaiters, Dict.get?_erase]
    split_ifs at hitem ⊢ with heq
    exact h.waits hitem

theorem Lockstep.dropWaiter (h : c.Lockstep) : (c.dropWaiter w result).Lockstep := by
  refine h.forget dropWaiter_waiters ?_ ?_
  · rw [dropWaiter_queue]
    exact WDRRQueue.cancel_queued _ _
  · rw [dropWaiter_queue]
    exact WDRRQueue.cancel_nextSequence _ _

/-! ## Moves -/

/-- What the evaluation of a waiter does to a controller: the waiter is revised, its entry lowered,
or both are dropped. -/
inductive Move : AdmissionController → AdmissionController → Prop
  | revised {c : AdmissionController} {r : RequestId} {w w' : Waiter}
      (hget : c.waiters.get? r = some w) (hrequest : w'.request = w.request)
      (hfuture : w'.future = w.future) (hsound : w'.Sound c.queue r) : Move c (c.setWaiter w')
  | lowered {c : AdmissionController} {r : RequestId} {w : Waiter} {queue : WDRRQueue}
      (hget : c.waiters.get? r = some w) (hcoherent : queue.Coherent) (hsound : w.Sound queue r)
      (helse : ∀ r', r' ≠ r → queue.queued.get? r' = c.queue.queued.get? r') :
      Move c { c with queue }
  | failed {c : AdmissionController} {r : RequestId} {w : Waiter} (fault : AdmissionFault)
      (hget : c.waiters.get? r = some w) : Move c (c.failWaiter w fault)

/-- Some moves. -/
abbrev Moves : AdmissionController → AdmissionController → Prop := Relation.ReflTransGen Move

theorem Move.lockstep (h : Move c c') (hc : c.Lockstep) : c'.Lockstep := by
  cases h with
  | revised hget hrequest hfuture hsound => exact hc.setWaiter hsound
  | @lowered r w queue hget hcoherent hsound helse =>
    refine ⟨hcoherent, fun {r' w'} hget' => ?_, fun {r' item} hitem => ?_⟩
    · by_cases heq : r' = r
      · subst heq
        cases hget.symm.trans hget'
        exact hsound
      · exact (hc.sound hget').congr (helse r' heq)
    · by_cases heq : r' = r
      · exact ⟨w, heq ▸ hget⟩
      · exact hc.waits ((helse r' heq).symm.trans hitem)
  | failed fault hget => exact hc.dropWaiter

theorem Moves.lockstep (h : Moves c c') (hc : c.Lockstep) : c'.Lockstep :=
  keeps_of_steps (fun _ _ => Move.lockstep) h hc

/-! ## Authorization -/

/-- The identity, the ceilings and the queue position allow a waiter on. -/
structure Reauthorized (c : AdmissionController) (p : Providers) (w : Waiter)
    (current : RequestAuthorizationCeiling) : Prop where
  identity : ∃ view, p.authView = some view ∧ queuedIdentityIsAuthorized w.request.client view = true
  authorized : p.engine.authorize w.request.client w.request.profile = .ok current
  legs : (w.effectiveCeiling.meet current).authorizedLegs ≠ []
  position : ∃ n, c.queue.keyPosition w.request.requestId = .ok n ∧
    n < (w.effectiveCeiling.meet current).maxWaiters

/-- **An evaluation drops a waiter or contracts it**; nothing else is raised. -/
theorem authorizeWaiter_cases (hw : w.Sound c.queue r) (hp : p.Sound) :
    (∃ message, c.authorizeWaiter p w = (c.failWaiter w (.unavailable message), .ok none)) ∨
      ∃ current, Reauthorized c p w current ∧ Valid current ∧
        c.authorizeWaiter p w = (c.setWaiter (w.contract current),
          .ok (some (w.contract current, w.effectiveCeiling.meet current))) := by
  unfold authorizeWaiter currentAuthorization
  cases hview : p.authView with
  | none => exact .inl ⟨_, rfl⟩
  | some view =>
    by_cases hidentity : queuedIdentityIsAuthorized w.request.client view = false
    · simp only [hidentity, if_true]
      exact .inl ⟨_, rfl⟩
    simp only [hidentity]
    cases hcurrent : p.engine.authorize w.request.client w.request.profile with
    | error e => exact .inl ⟨_, rfl⟩
    | ok current =>
      obtain ⟨hvalid, hsame⟩ := hw.current_of_authorize hp hcurrent
      simp only [intersection_eq hw.lagging.valid hvalid hsame]
      by_cases hlegs : (w.effectiveCeiling.meet current).authorizedLegs = []
      · simp only [hlegs, if_true]
        exact .inl ⟨_, rfl⟩
      simp only [hlegs, if_false]
      obtain ⟨item, hitem⟩ := hw.queued
      obtain ⟨n, hn⟩ : ∃ n, c.queue.keyPosition w.request.requestId = .ok n := by
        rw [WDRRQueue.keyPosition, hw.requestId, hitem]
        exact ⟨_, rfl⟩
      simp only [hn]
      by_cases hposition : (w.effectiveCeiling.meet current).maxWaiters ≤ n
      · simp only [hposition, if_true]
        exact .inl ⟨_, rfl⟩
      · simp only [hposition, if_false]
        refine .inr ⟨current, ⟨⟨view, hview, ?_⟩, hcurrent, hlegs, n, hn, ?_⟩, hvalid, rfl⟩
        · exact Bool.not_eq_false _ ▸ hidentity
        · omega

/-! ## Previews -/

/-- The entry of a contracted waiter follows its ceiling. -/
theorem contractEntry_spec (hc : c.Lockstep) (hget : c.waiters.get? r = some w)
    (hlegs : w.effectiveCeiling.authorizedLegs ≠ []) :
    ∃ c', c.contractEntry r w.effectiveCeiling = (c', .ok ()) ∧ Moves c c' ∧
      c'.waiters = c.waiters := by
  have hw := hc.sound hget
  obtain ⟨hidentity, hvalid, item, carried, hitem, hcarries, hcarried, hcontracts, hbelow⟩ := hw.lagging
  unfold contractEntry
  rw [WDRRQueue.entry, hitem]
  dsimp only
  split_ifs with hlags
  · obtain ⟨entry, queue, hcontract, hcarries', hentry⟩ :=
      contract_of_contracts hitem hcarries hcarried hvalid hcontracts hbelow hlegs
    rw [hcontract]
    obtain ⟨item', hitem', hid, hkey, -, hqueued, hnext, -⟩ := WDRRQueue.contract_spec hcontract
    cases hitem.symm.trans hitem'
    have hr : entry.requestId = r := hid.trans (hc.coherent.requestId_eq hitem)
    have hcoherent : queue.Coherent := by
      refine WDRRQueue.ItemEffect.coherent (.rewritten entry item ?_ hkey hid ?_ hnext) hc.coherent
      · rw [hr]
        exact hitem
      · rw [hr]
        exact hqueued
    have hsound : w.Sound queue r := by
      refine { hw with lagging := ?_, keyId := ?_ }
      · exact ⟨hidentity, hvalid, _, w.effectiveCeiling, hentry, hcarries', hvalid, .refl hvalid,
          .refl _⟩
      · intro item' hitem'
        cases hentry.symm.trans hitem'
        exact hkey.trans (hw.keyId item hitem)
    refine ⟨_, rfl, Relation.ReflTransGen.single (.lowered hget hcoherent hsound ?_), rfl⟩
    intro r' hne
    rw [hqueued]
    exact Dict.get?_insert_of_ne _ _ hne
  · exact ⟨c, rfl, .refl, rfl⟩

/-- A sound waiter's candidates are computed without a fault. -/
theorem candidatesOf_eq_ok (hw : w.Sound c.queue r) (hp : p.Sound)
    (authorization : RequestAuthorizationCeiling) :
    ∃ candidates, candidatesOf p w authorization = .ok candidates := by
  have hoffers : ∀ cause n, ∃ candidates, offers p w authorization cause (p.clock n) = .ok candidates := by
    intro cause n
    rw [offers, hw.routingContext_check (hp.clock n)]
    exact ⟨_, rfl⟩
  obtain ⟨candidates, hcandidates⟩ := hoffers (w.fallbackOnce.getD w.request.cause) 1
  unfold candidatesOf
  simp only [hcandidates, bind, Except.bind]
  split_ifs
  · cases RouteEngine.primaryBlockingCause p.gate p.engine authorization w.request.profile p.view with
    | none => exact ⟨candidates, rfl⟩
    | some fallback => exact hoffers fallback 2
  · exact ⟨candidates, rfl⟩

/-- **A preview raises nothing**, and changes a controller by moves. -/
theorem preview_spec (hc : c.Lockstep) (hget : c.waiters.get? r = some w) (hp : p.Sound) :
    ∃ c' candidates, c.preview p w = (c', .ok candidates) ∧ Moves c c' := by
  have hw := hc.sound hget
  unfold preview
  rcases authorizeWaiter_cases hw hp with ⟨message, h⟩ | ⟨current, hcurrent, hvalid, h⟩
  · rw [h]
    exact ⟨_, [], rfl, .single (.failed _ hget)⟩
  rw [h]
  -- the contracted waiter is stored and its entry follows
  have hsound := hw.contract hvalid
  have hrevised : Move c (c.setWaiter (w.contract current)) := .revised hget rfl rfl hsound
  have hstored : (c.setWaiter (w.contract current)).waiters.get? r = some (w.contract current) := by
    rw [get?_setWaiter hsound.requestId, if_pos rfl]
  have hlock := hrevised.lockstep hc
  obtain ⟨c₁, hentry, hmoves, hwaiters⟩ := contractEntry_spec hlock hstored hcurrent.legs
  have hget₁ : c₁.waiters.get? r = some (w.contract current) := hwaiters ▸ hstored
  have hsound₁ := (hmoves.lockstep hlock).sound hget₁
  have hreached : Moves c c₁ := .head hrevised hmoves
  have hr : (w.contract current).request.requestId = r := hsound.requestId
  simp only [andThen, hr]
  rw [show (w.effectiveCeiling.meet current) = (w.contract current).effectiveCeiling from rfl, hentry]
  dsimp only
  split_ifs
  · exact ⟨_, [], rfl, hreached.tail (.failed _ hget₁)⟩
  · exact ⟨_, [], rfl, hreached⟩
  · have hsynced : Waiter.Sound c₁.queue r { w.contract current with
        budget := (w.contract current).budget.syncRuntime p.view.dispatches } :=
      hsound₁.revise rfl rfl rfl
    obtain ⟨candidates, hcandidates⟩ :=
      candidatesOf_eq_ok hsynced hp (w.contract current).effectiveCeiling
    rw [hcandidates]
    exact ⟨_, _, rfl, hreached.tail (.revised hget₁ rfl rfl hsynced)⟩

/-- **The previews of all entries.** -/
theorem previews_spec {providers : RequestId → Providers} (hc : c.Lockstep)
    (hp : ∀ r, (providers r).Sound) :
    ∃ c' found, c.previews providers = (c', .ok found) ∧ Moves c c' ∧
      ∀ r candidates, found.get? r = some candidates → candidates ≠ [] := by
  have hgo : ∀ (entries : List QueueEntry) (found : Dict RequestId (List Candidate))
      (c : AdmissionController), c.Lockstep →
      (∀ r candidates, found.get? r = some candidates → candidates ≠ []) →
      ∃ c' found', previewEntries providers found entries c = (c', .ok found') ∧ Moves c c' ∧
        ∀ r candidates, found'.get? r = some candidates → candidates ≠ [] := by
    intro entries
    induction entries with
    | nil => exact fun found c _ hfound => ⟨c, found, rfl, .refl, hfound⟩
    | cons entry rest ih =>
      intro found c hc hfound
      rw [previewEntries]
      cases hget : c.waiters.get? entry.requestId with
      | none => exact ih found c hc hfound
      | some w =>
        obtain ⟨c₁, candidates, hpreview, hmoves⟩ := preview_spec hc hget (hp entry.requestId)
        simp only [hpreview, andThen]
        obtain ⟨c', found', hrest, hmoves', hfound'⟩ :=
          ih (if candidates = [] then found else found.insert entry.requestId candidates) c₁
            (hmoves.lockstep hc) (by
              intro r candidates' hget'
              split_ifs at hget' with hempty
              · exact hfound r candidates' hget'
              · rw [Dict.get?_insert] at hget'
                split_ifs at hget'
                · cases hget'
                  exact hempty
                · exact hfound r candidates' hget')
        exact ⟨c', found', hrest, hmoves.trans hmoves', hfound'⟩
  obtain ⟨c', found, h, hmoves, hfound⟩ := hgo c.queue.entries Dict.empty c hc (by
    intro r candidates hget
    cases hget)
  exact ⟨c', found, h, hmoves, hfound⟩

end AdmissionController

end LlmMaxxing
