import LlmMaxxing.Gateway.PumpLaws

/-!
# Every run of admission

Two kinds of invariants hold in every reachable state. Waiters, entries and futures: waiters and queue
entries stand for one another, and every call is waiting or answered, never both and never twice.
Permits: each permit taken of a key is a lease that is still out, the attempt under way, or one a
failed cleanup has left taken. From these follow that a pump raises nothing of its own, that a key
never holds more leases than it was admitted for, what every attempt rests on, and that a pump ends.
-/

namespace LlmMaxxing

open Check Fallible RequestAuthorizationCeiling

/-- The attempt a future was resolved with. -/
def FutureResult.attempt? : FutureResult → Option AttemptId
  | .dispatched attemptId => some attemptId
  | .failed _ => none
  | .cancelled => none

namespace AdmissionController

variable {c c' : AdmissionController} {r r' : RequestId} {w w' : Waiter} {p : Providers}
  {result : FutureResult} {k : String}

/-! ## Calls -/

/-- Every call is waiting or answered, and the dispatched ones hold the leases. -/
structure Answered (c : AdmissionController) : Prop where
  once : (c.futures.map Prod.fst).Nodup
  issued : ∀ n ∈ c.futures.map Prod.fst, n < c.nextFuture
  waiting : ∀ {r w}, c.waiters.get? r = some w →
    w.future < c.nextFuture ∧ w.future ∉ c.futures.map Prod.fst
  own : ∀ {r r' w w'}, c.waiters.get? r = some w → c.waiters.get? r' = some w' →
    w.future = w'.future → r = r'
  covered : ∀ n < c.nextFuture, n ∈ c.futures.map Prod.fst ∨
    ∃ r w, c.waiters.get? r = some w ∧ w.future = n
  leases : (c.futures.filterMap fun q => q.2.attempt?.map fun a => (q.1, a)) =
    c.grants.map fun g => (g.future, g.attemptId)

/-- A revised waiter keeps its future. -/
theorem Answered.revise (h : c.Answered) (hget : c.waiters.get? r = some w)
    (hw : w'.request.requestId = r) (hfuture : w'.future = w.future) : (c.setWaiter w').Answered := by
  have hfind : ∀ {r' v}, (c.setWaiter w').waiters.get? r' = some v →
      ∃ v', c.waiters.get? r' = some v' ∧ v.future = v'.future := by
    intro r' v hv
    rw [get?_setWaiter hw] at hv
    split_ifs at hv with heq
    · cases hv
      exact ⟨w, heq ▸ hget, hfuture⟩
    · exact ⟨v, hv, rfl⟩
  refine ⟨h.once, h.issued, fun {r' v} hv => ?_, fun {r₁ r₂ v₁ v₂} hv₁ hv₂ heq => ?_, fun n hn => ?_,
    h.leases⟩
  · obtain ⟨v', hv', hsame⟩ := hfind hv
    rw [hsame]
    exact h.waiting hv'
  · obtain ⟨u₁, hu₁, hsame₁⟩ := hfind hv₁
    obtain ⟨u₂, hu₂, hsame₂⟩ := hfind hv₂
    exact h.own hu₁ hu₂ (hsame₁.symm.trans (heq.trans hsame₂))
  · rcases h.covered n hn with hdone | ⟨r', v, hv, hfut⟩
    · exact .inl hdone
    · refine .inr ?_
      by_cases heq : r' = r
      · refine ⟨r, w', ?_, ?_⟩
        · rw [get?_setWaiter hw, if_pos rfl]
        · rw [heq] at hv
          cases hget.symm.trans hv
          exact hfuture.trans hfut
      · refine ⟨r', v, ?_, hfut⟩
        rw [get?_setWaiter hw, if_neg heq]
        exact hv

/-- The controller when the call of a waiter is resolved. -/
structure Resolves (c : AdmissionController) (w : Waiter) (result : FutureResult)
    (leases : List GrantedLease) (c' : AdmissionController) : Prop where
  waiters : c'.waiters = c.waiters.erase w.request.requestId
  futures : c'.futures = c.futures ++ [(w.future, result)]
  nextFuture : c'.nextFuture = c.nextFuture
  grants : c'.grants = c.grants ++ leases
  lease : (result.attempt?.map fun a => (w.future, a)).toList =
    leases.map fun g => (g.future, g.attemptId)

theorem Answered.resolves {leases : List GrantedLease} (h : c.Answered)
    (hget : c.waiters.get? r = some w) (hw : w.request.requestId = r)
    (hresolves : Resolves c w result leases c') : c'.Answered := by
  have hfresh := (h.waiting hget).2
  have hfind : ∀ {r' v}, c'.waiters.get? r' = some v → r' ≠ r ∧ c.waiters.get? r' = some v := by
    intro r' v hv
    rw [hresolves.waiters, hw, Dict.get?_erase] at hv
    split_ifs at hv with heq
    exact ⟨heq, hv⟩
  have hkeys : c'.futures.map Prod.fst = c.futures.map Prod.fst ++ [w.future] := by
    rw [hresolves.futures, List.map_append]
    rfl
  refine ⟨?_, fun n hn => ?_, fun {r' v} hv => ?_, fun {r₁ r₂ v₁ v₂} hv₁ hv₂ heq => ?_,
    fun n hn => ?_, ?_⟩
  -- the future of a waiter had no answer, so the new one is the first
  · rw [hkeys]
    exact List.nodup_append.mpr ⟨h.once, List.nodup_singleton _, fun a ha b hb heq => by
      rw [List.mem_singleton.mp hb] at heq
      exact hfresh (heq ▸ ha)⟩
  · rw [hkeys, List.mem_append, List.mem_singleton] at hn
    rw [hresolves.nextFuture]
    rcases hn with hn | rfl
    · exact h.issued n hn
    · exact (h.waiting hget).1
  · obtain ⟨hne, hv'⟩ := hfind hv
    rw [hkeys, hresolves.nextFuture, List.mem_append, List.mem_singleton, not_or]
    exact ⟨(h.waiting hv').1, (h.waiting hv').2, fun heq => hne (h.own hv' hget heq)⟩
  · exact h.own (hfind hv₁).2 (hfind hv₂).2 heq
  · rw [hresolves.nextFuture] at hn
    rw [hkeys, List.mem_append, List.mem_singleton]
    rcases h.covered n hn with hdone | ⟨r', v, hv, hfut⟩
    · exact .inl (.inl hdone)
    · by_cases heq : r' = r
      · rw [heq] at hv
        cases hget.symm.trans hv
        exact .inl (.inr hfut.symm)
      · refine .inr ⟨r', v, ?_, hfut⟩
        rw [hresolves.waiters, hw, Dict.get?_erase_of_ne _ heq]
        exact hv
  · rw [hresolves.futures, hresolves.grants, List.filterMap_append, List.map_append, h.leases,
      ← hresolves.lease]
    cases hattempt : result.attempt? with
    | none => simp [hattempt]
    | some attemptId => simp [hattempt]

/-- Resolving a call that has no answer. -/
theorem resolve_futures {n : Nat} (h : n ∉ c.futures.map Prod.fst) :
    (c.resolve n result).futures = c.futures ++ [(n, result)] := by
  rw [resolve, if_neg h]

theorem dropWaiter_resolves (h : c.Answered) (hget : c.waiters.get? r = some w)
    (hresult : result.attempt? = none) : Resolves c w result [] (c.dropWaiter w result) where
  waiters := dropWaiter_waiters
  futures := resolve_futures (h.waiting hget).2
  nextFuture := dropWaiter_samePermits.nextFuture
  grants := dropWaiter_samePermits.grants.trans (List.append_nil _).symm
  lease := by rw [hresult]; rfl

theorem Move.answered (h : Move c c') (hc : c.Lockstep) (ha : c.Answered) : c'.Answered := by
  cases h with
  | revised hget hrequest hfuture hsound => exact ha.revise hget hsound.requestId hfuture
  | lowered => exact ⟨ha.once, ha.issued, ha.waiting, ha.own, ha.covered, ha.leases⟩
  | failed fault hget =>
    exact ha.resolves hget (hc.sound hget).requestId (dropWaiter_resolves ha hget rfl)

theorem Moves.answered (h : Moves c c') (hc : c.Lockstep) (ha : c.Answered) : c'.Answered :=
  (keeps_of_steps (P := fun c => c.Lockstep ∧ c.Answered)
    (fun _ _ hmove hboth => ⟨hmove.lockstep hboth.1, hmove.answered hboth.1 hboth.2⟩) h ⟨hc, ha⟩).2

/-! ## Permits -/

/-- The leases of a key that are still out. -/
def leasesOut (c : AdmissionController) (k : String) : Nat :=
  c.grants.countP fun g => g.keyId == k && !g.released

/-- Each permit is a lease, an attempt under way or left taken. -/
def Accounted (c : AdmissionController) (attempts : List String) : Prop :=
  ∀ k, c.activeCount k = c.leasesOut k + c.stranded.count k + attempts.count k

theorem activeCount_of_samePermits (h : SamePermits c c') : c'.activeCount k = c.activeCount k := by
  rw [activeCount, activeCount, h.activeByKey]

theorem Accounted.of_samePermits {attempts : List String} (h : SamePermits c c')
    (ha : c.Accounted attempts) : c'.Accounted attempts := by
  intro k
  rw [activeCount_of_samePermits h, leasesOut, h.grants, h.stranded]
  exact ha k

theorem activeCount_acquire {j : String} {n : Nat} (h : c.acquireActive j n = some c') :
    c'.activeCount k = c.activeCount k + [j].count k := by
  obtain ⟨-, rfl⟩ := acquireActive_eq_some h
  show ((c.activeByKey.insert j (c.activeCount j + 1)).get? k).getD 0 = _
  rw [Dict.get?_insert]
  by_cases heq : k = j
  · simp [heq]
  · have hne : ¬ j = k := fun h => heq h.symm
    simp [heq, hne, activeCount]

theorem activeCount_release {j : String} :
    (c.releaseActive j).activeCount k = c.activeCount k - [j].count k := by
  unfold releaseActive
  show (Dict.get? (if c.activeCount j ≤ 1 then _ else _) k).getD 0 = _
  by_cases heq : k = j
  · subst heq
    split_ifs with hone
    · rw [Dict.get?_erase_self]
      simp
      omega
    · rw [Dict.get?_insert_self]
      simp
  · have hne : ¬ j = k := fun h => heq h.symm
    split_ifs
    · rw [Dict.get?_erase_of_ne _ heq]
      simp [hne, activeCount]
    · rw [Dict.get?_insert_of_ne _ _ heq]
      simp [hne, activeCount]

/-- Taking the permit of an attempt. -/
theorem Accounted.acquire {j : String} {n : Nat} (h : c.Accounted [])
    (hacquire : c.acquireActive j n = some c') : c'.Accounted [j] := by
  intro k
  have hk := h k
  rw [activeCount_acquire hacquire]
  obtain ⟨-, rfl⟩ := acquireActive_eq_some hacquire
  rw [List.count_nil] at hk
  show c.activeCount k + [j].count k = c.leasesOut k + c.stranded.count k + [j].count k
  omega

/-- Giving back the permit of an attempt. -/
theorem Accounted.release {j : String} (h : c.Accounted [j]) : (c.releaseActive j).Accounted [] := by
  intro k
  have hk := h k
  rw [activeCount_release]
  show _ = c.leasesOut k + c.stranded.count k + [].count k
  simp only [List.count_nil]
  omega

/-- Leaving the permit of an attempt taken. -/
theorem Accounted.strand {j : String} (h : c.Accounted [j]) :
    ({ c with stranded := j :: c.stranded } : AdmissionController).Accounted [] := by
  intro k
  have hk := h k
  show c.activeCount k = c.leasesOut k + (j :: c.stranded).count k + [].count k
  rw [List.count_cons, List.count_nil]
  rw [List.count_cons, List.count_nil] at hk
  omega

/-! ## Leases -/

/-- The leases of a dispatched future are numbered apart. -/
theorem Answered.nodup_grants (h : c.Answered) : (c.grants.map GrantedLease.future).Nodup := by
  have hsublist : ∀ l : List (Nat × FutureResult),
      ((l.filterMap fun q => q.2.attempt?.map fun a => (q.1, a)).map Prod.fst).Sublist
        (l.map Prod.fst) := by
    intro l
    induction l with
    | nil => exact List.Sublist.refl _
    | cons q rest ih =>
      rw [List.filterMap_cons]
      cases q.2.attempt? with
      | none => exact ih.cons _
      | some attemptId => exact ih.cons_cons _
  have hfutures : c.grants.map GrantedLease.future =
      (c.futures.filterMap fun q => q.2.attempt?.map fun a => (q.1, a)).map Prod.fst := by
    rw [h.leases, List.map_map]
    rfl
  rw [hfutures]
  exact h.once.sublist (hsublist c.futures)

/-- Marking one lease takes it off the leases of its key. -/
theorem countP_release {l : List GrantedLease} {g : GrantedLease}
    (hnodup : (l.map GrantedLease.future).Nodup) (hg : g ∈ l) (hout : g.released = false) :
    ((l.map fun h => if h.future = g.future then { h with released := true } else h).countP
        fun h => h.keyId == k && !h.released) + [g.keyId].count k =
      l.countP fun h => h.keyId == k && !h.released := by
  induction l with
  | nil => cases hg
  | cons a rest ih =>
    rw [List.map_cons, List.nodup_cons] at hnodup
    rw [List.map_cons, List.countP_cons, List.countP_cons]
    rcases List.mem_cons.mp hg with rfl | hmem
    · -- no other lease has its number
      have hrest : (rest.map fun h => if h.future = g.future then { h with released := true } else h) =
          rest := by
        conv_rhs => rw [← List.map_id rest]
        refine List.map_congr_left fun a ha => if_neg fun heq => hnodup.1 ?_
        rw [← heq]
        exact List.mem_map.mpr ⟨a, ha, rfl⟩
      rw [hrest, if_pos rfl]
      simp [hout, List.count_singleton]
    · have hne : a.future ≠ g.future := fun heq =>
        hnodup.1 (heq ▸ List.mem_map.mpr ⟨g, hmem, rfl⟩)
      rw [if_neg hne, ← ih hnodup.2 hmem]
      omega

/-- Releasing a lease gives back its permit, once. -/
theorem accounted_releaseLease {attempts : List String} (h : c.Accounted attempts)
    (ha : c.Answered) (n : Nat) : (c.releaseLease n).Accounted attempts := by
  unfold releaseLease
  cases hfind : c.grants.find? fun g => g.future == n && !g.released with
  | none => exact h
  | some g =>
    intro k
    have hk := h k
    have hg := List.find?_some hfind
    simp only [Bool.and_eq_true, beq_iff_eq, Bool.not_eq_true'] at hg
    obtain ⟨rfl, hout⟩ := hg
    have hcount := countP_release (k := k) ha.nodup_grants (List.mem_of_find?_eq_some hfind) hout
    have hactive := activeCount_release (c := c) (k := k) (j := g.keyId)
    show (c.releaseActive g.keyId).activeCount k = (List.countP _ (c.grants.map _)) + _ + _
    rw [hactive, hk, leasesOut, ← hcount]
    show _ = _ + c.stranded.count k + _
    omega

theorem Answered.releaseLease (h : c.Answered) (n : Nat) : (c.releaseLease n).Answered := by
  unfold AdmissionController.releaseLease
  cases c.grants.find? fun g => g.future == n && !g.released with
  | none => exact h
  | some g =>
    refine ⟨h.once, h.issued, h.waiting, h.own, h.covered, ?_⟩
    show (c.futures.filterMap fun q => q.2.attempt?.map fun a => (q.1, a)) = (c.grants.map _).map _
    rw [h.leases, List.map_map]
    refine List.map_congr_left fun a _ => ?_
    simp only [Function.comp]
    split <;> rfl

theorem releaseLease_same (c : AdmissionController) (n : Nat) :
    (c.releaseLease n).queue = c.queue ∧ (c.releaseLease n).waiters = c.waiters ∧
      (c.releaseLease n).maxWaitersGlobal = c.maxWaitersGlobal := by
  unfold releaseLease
  cases c.grants.find? fun g => g.future == n && !g.released <;> exact ⟨rfl, rfl, rfl⟩

/-! ## Admission of a request -/

/-- A request that was let in: its waiter and its entry are the new ones. -/
structure Enters (c : AdmissionController) (request : AdmissionRequest) (w : Waiter)
    (c' : AdmissionController) : Prop where
  asked : w.request = request
  numbered : w.future = c.nextFuture
  absent : c.waiters.get? request.requestId = none
  room : c.waiters.size < c.maxWaitersGlobal
  keyRoom : (c.waiters.values.countP fun w => w.request.client.keyId == request.client.keyId) <
    request.authorizationCeiling.maxWaiters
  waiters : c'.waiters = c.waiters.insert request.requestId w
  permits : c'.activeByKey = c.activeByKey ∧ c'.grants = c.grants ∧ c'.stranded = c.stranded ∧
    c'.maxWaitersGlobal = c.maxWaitersGlobal
  futures : c'.futures = c.futures ∧ c'.nextFuture = c.nextFuture + 1
  lockstep : c'.Lockstep

/-- An admissible request gives a queue entry. -/
theorem build_eq_ok {request : AdmissionRequest} (h : request.Admissible) :
    ∃ entry, QueueEntry.build request.requestId request.client.keyId
        request.authorizationCeiling.queueTier request.authorizationCeiling.queueWeight
        request.authorizationCeiling.authorizedLegs = .ok entry ∧
      entry.requestId = request.requestId ∧ entry.keyId = request.client.keyId ∧
      Carries entry request.authorizationCeiling := by
  have hauthorized := h.authorizedFor
  obtain ⟨hkey, -, -, -, hunique, hweight, -⟩ := valid_iff.mp hauthorized.valid
  rw [hauthorized.keyId] at hkey
  have hlength : request.client.keyId.toList.length = 32 := by
    simp only [isHex32, isHexOfLength, Bool.and_eq_true, beq_iff_eq] at hkey
    exact hkey.1
  have hne : request.client.keyId ≠ "" := by
    intro hempty
    rw [hempty] at hlength
    cases hlength
  have hwell : EntryWellFormed request.client.keyId request.authorizationCeiling.queueWeight
      request.authorizationCeiling.authorizedLegs :=
    ⟨hne, by omega, hweight.1, hweight.2, h.legs, hunique⟩
  have hcheck : QueueEntry.check request.client.keyId request.authorizationCeiling.queueWeight
      request.authorizationCeiling.authorizedLegs = .ok ⟨hwell⟩ := by
    rw [QueueEntry.check, dif_pos ⟨hwell.keyId_ne, hwell.keyId_le⟩,
      dif_pos ⟨hwell.weight_pos, hwell.weight_le⟩, dif_pos hwell.legs_ne, dif_pos hwell.legs_nodup]
  rw [QueueEntry.build, hcheck]
  exact ⟨_, rfl, rfl, rfl, rfl, rfl, rfl⟩

/-- A waiter as it enters. -/
def entering (c : AdmissionController) (p : Providers) (request : AdmissionRequest) : Waiter where
  request := request
  future := c.nextFuture
  effectiveCeiling := request.authorizationCeiling
  admittedAtMs := p.clock 0
  effectiveDeadlineAtMs :=
    min request.deadlineAtMs (p.clock 0 + request.authorizationCeiling.deadlineMs)
  budget := request.attemptBudget.syncRuntime p.view.dispatches

/-- Beside its queue entry a waiter enters sound. -/
theorem entering_sound {request : AdmissionRequest} {queue : WDRRQueue} {entry : QueueEntry} {n : Nat}
    (hr : request.Admissible) (hp : p.Sound) (hkey : entry.keyId = request.client.keyId)
    (hcarries : Carries entry request.authorizationCeiling)
    (hentry : queue.queued.get? request.requestId = some ⟨entry, n⟩) :
    (c.entering p request).Sound queue request.requestId := by
  have hvalid := hr.authorizedFor.valid
  have hpos := request.deadline_pos
  have hclock := hp.clock 0
  refine ⟨rfl, hr, ⟨⟨rfl, rfl, rfl, rfl⟩, hvalid, _, _, hentry, hcarries, hvalid, .refl hvalid,
    .refl _⟩, .refl _, ?_, Nat.min_le_left _ _, ?_⟩
  · show 1 ≤ min request.deadlineAtMs (p.clock 0 + _)
    omega
  · intro item hitem
    cases hentry.symm.trans hitem
    exact hkey

/-- A request without a waiter is not queued. -/
theorem Lockstep.unqueued (hc : c.Lockstep) (habsent : c.waiters.get? r = none) :
    c.queue.queued.get? r = none := by
  rw [Option.eq_none_iff_forall_ne_some]
  intro item hitem
  obtain ⟨w, hget⟩ := hc.waits hitem
  rw [habsent] at hget
  cases hget

/-- The queue with one more entry at its end. -/
def enqueued (c : AdmissionController) (entry : QueueEntry) : WDRRQueue :=
  { c.queue with
    queued := c.queue.queued.insert entry.requestId ⟨entry, c.queue.nextSequence⟩
    nextSequence := c.queue.nextSequence + 1
    version := c.queue.version + 1 }

theorem enqueue_eq_ok {entry : QueueEntry} (h : c.queue.queued.get? entry.requestId = none) :
    c.queue.enqueue entry = .ok (c.enqueued entry) := by
  rw [WDRRQueue.enqueue, if_neg]
  · rfl
  · rw [Dict.contains, h]
    exact Bool.false_ne_true

/-- A waiter and its entry, added together, keep every request in step. -/
theorem Lockstep.enter {request : AdmissionRequest} {entry : QueueEntry} (hc : c.Lockstep)
    (hr : request.Admissible) (hp : p.Sound) (habsent : c.waiters.get? request.requestId = none)
    (hid : entry.requestId = request.requestId) (hkey : entry.keyId = request.client.keyId)
    (hcarries : Carries entry request.authorizationCeiling)
    (hwaiters : c'.waiters = c.waiters.insert request.requestId (c.entering p request))
    (hqueue : c'.queue = c.enqueued entry) : c'.Lockstep := by
  have hqueued : c'.queue.queued =
      c.queue.queued.insert request.requestId ⟨entry, c.queue.nextSequence⟩ := by
    rw [hqueue, enqueued, hid]
  refine ⟨?_, ?_, ?_⟩
  · rw [hqueue]
    exact WDRRQueue.ItemEffect.coherent (.added entry (hid ▸ hc.unqueued habsent) rfl rfl) hc.coherent
  · intro r w hget
    rw [hwaiters, Dict.get?_insert] at hget
    split_ifs at hget with heq
    · cases hget
      rw [heq]
      exact entering_sound hr hp hkey hcarries (hqueued ▸ Dict.get?_insert_self _ _ _)
    · exact (hc.sound hget).congr (hqueued ▸ Dict.get?_insert_of_ne _ _ heq)
  · intro r item hitem
    rw [hqueued, Dict.get?_insert] at hitem
    rw [hwaiters, Dict.get?_insert]
    split_ifs at hitem ⊢ with heq
    · exact ⟨_, rfl⟩
    · exact hc.waits hitem

/-- **An admissible request is let in or refused by a check of `acquire`**; its queue entry is
never refused. -/
theorem enlist_cases {request : AdmissionRequest} (hc : c.Lockstep) (hr : request.Admissible)
    (hp : p.Sound) :
    (∃ fault, c.checkAdmission p request = .error fault ∧ c.enlist p request = (c, .error fault)) ∨
      ∃ w c', c.enlist p request = (c', .ok ()) ∧ Enters c request w c' := by
  unfold enlist
  cases hcheck : c.checkAdmission p request with
  | error fault => exact .inl ⟨fault, rfl, rfl⟩
  | ok u =>
    right
    simp only [checkAdmission, bind_eq_ok_iff, require_eq_ok_iff, exists_unit_and_iff] at hcheck
    obtain ⟨-, -, habsent, hroom, hkeyRoom, -⟩ := hcheck
    have habsent := Dict.contains_eq_false_iff.mp habsent
    obtain ⟨entry, hbuild, hid, hkey, hcarries⟩ := build_eq_ok hr
    have henqueue := enqueue_eq_ok (hid ▸ hc.unqueued habsent)
    refine ⟨c.entering p request, { c.setWaiter (c.entering p request) with
      nextFuture := c.nextFuture + 1, queue := c.enqueued entry }, ?_, ?_⟩
    · simp only [hbuild, setWaiter_queue, henqueue]
      rfl
    · exact ⟨rfl, rfl, habsent, hroom, hkeyRoom, rfl, ⟨rfl, rfl, rfl, rfl⟩, ⟨rfl, rfl⟩,
        hc.enter hr hp habsent hid hkey hcarries rfl rfl⟩

theorem Enters.answered {request : AdmissionRequest} (h : Enters c request w c') (ha : c.Answered) :
    c'.Answered := by
  have hfind : ∀ {r v}, c'.waiters.get? r = some v →
      (r = request.requestId ∧ v = w) ∨ c.waiters.get? r = some v := by
    intro r v hv
    rw [h.waiters, Dict.get?_insert] at hv
    split_ifs at hv with heq
    · exact .inl ⟨heq, (Option.some.inj hv).symm⟩
    · exact .inr hv
  have hfresh : c.nextFuture ∉ c.futures.map Prod.fst := fun hmem =>
    absurd (ha.issued _ hmem) (lt_irrefl _)
  obtain ⟨hfutures, hnext⟩ := h.futures
  obtain ⟨-, hgrants, -, -⟩ := h.permits
  refine ⟨?_, fun n hn => ?_, fun {r v} hv => ?_, fun {r₁ r₂ v₁ v₂} hv₁ hv₂ heq => ?_,
    fun n hn => ?_, ?_⟩
  · rw [hfutures]
    exact ha.once
  · rw [hfutures] at hn
    have := ha.issued n hn
    omega
  · rw [hfutures, hnext]
    rcases hfind hv with ⟨-, rfl⟩ | hold
    · rw [h.numbered]
      exact ⟨by omega, hfresh⟩
    · have := ha.waiting hold
      exact ⟨by omega, this.2⟩
  · -- the new future is above all others
    have hbelow : ∀ {r v}, c.waiters.get? r = some v → v.future ≠ w.future := by
      intro r v hv heq
      have := (ha.waiting hv).1
      rw [heq, h.numbered] at this
      exact lt_irrefl _ this
    rcases hfind hv₁ with ⟨rfl, rfl⟩ | hold₁
    · rcases hfind hv₂ with ⟨rfl, rfl⟩ | hold₂
      · rfl
      · exact absurd heq.symm (hbelow hold₂)
    · rcases hfind hv₂ with ⟨rfl, rfl⟩ | hold₂
      · exact absurd heq (hbelow hold₁)
      · exact ha.own hold₁ hold₂ heq
  · rw [hnext] at hn
    rw [hfutures]
    by_cases hlast : n = c.nextFuture
    · refine .inr ⟨request.requestId, w, ?_, hlast ▸ h.numbered⟩
      rw [h.waiters, Dict.get?_insert_self]
    · rcases ha.covered n (by omega) with hdone | ⟨r, v, hv, hfut⟩
      · exact .inl hdone
      · refine .inr ⟨r, v, ?_, hfut⟩
        rw [h.waiters, Dict.get?_insert_of_ne]
        · exact hv
        · intro heq
          rw [heq, h.absent] at hv
          cases hv
  · rw [hfutures, hgrants]
    exact ha.leases

/-! ## The start of a pump -/

theorem get?_resetFallbacks : c.resetFallbacks.waiters.get? r =
    (c.waiters.get? r).map fun w => { w with fallbackOnce := none } :=
  Dict.get?_mapValues _ _ _

theorem exists_of_resetFallbacks (h : c.resetFallbacks.waiters.get? r = some w) :
    ∃ v, c.waiters.get? r = some v ∧ w = { v with fallbackOnce := none } := by
  rw [get?_resetFallbacks] at h
  obtain ⟨v, hv, rfl⟩ := Option.map_eq_some_iff.mp h
  exact ⟨v, hv, rfl⟩

theorem Lockstep.resetFallbacks (h : c.Lockstep) : c.resetFallbacks.Lockstep where
  coherent := h.coherent
  sound {r w} hget := by
    obtain ⟨v, hv, rfl⟩ := exists_of_resetFallbacks hget
    exact (h.sound hv).revise rfl rfl rfl
  waits {r item} hitem := by
    obtain ⟨w, hget⟩ := h.waits hitem
    rw [get?_resetFallbacks, hget]
    exact ⟨_, rfl⟩

theorem Answered.resetFallbacks (h : c.Answered) : c.resetFallbacks.Answered := by
  refine ⟨h.once, h.issued, fun {r w} hget => ?_, fun {r₁ r₂ w₁ w₂} hget₁ hget₂ heq => ?_,
    fun n hn => ?_, h.leases⟩
  · obtain ⟨v, hv, hreset⟩ := exists_of_resetFallbacks hget
    have hold := h.waiting hv
    rw [hreset]
    exact hold
  · obtain ⟨v₁, hv₁, rfl⟩ := exists_of_resetFallbacks hget₁
    obtain ⟨v₂, hv₂, rfl⟩ := exists_of_resetFallbacks hget₂
    exact h.own hv₁ hv₂ heq
  · rcases h.covered n hn with hdone | ⟨r, v, hv, hfut⟩
    · exact .inl hdone
    · refine .inr ⟨r, { v with fallbackOnce := none }, ?_, hfut⟩
      rw [get?_resetFallbacks, hv]
      rfl

end AdmissionController

/-! ## States -/

/-- The permit a pump holds while it waits. -/
def PumpPhase.attempts : PumpPhase → List String
  | .idle => []
  | .pumping _ => []
  | .holding _ => []
  | .reserving attempt => [attempt.keyId]
  | .dispatching attempt => [attempt.keyId]

/-- An attempt whose selection is still current and whose waiter may still send it. -/
structure Attempted.Current (c : AdmissionController) (attempt : Attempted) : Prop where
  fresh : attempt.selection.entry.requestId ∉ attempt.excluded
  commits : ∃ queue, c.queue.commit attempt.selection = .ok queue
  waiter : ∃ w, c.waiters.get? attempt.selection.entry.requestId = some w ∧
    w.budget.canSend attempt.candidate = true ∧ attempt.keyId = w.request.client.keyId

/-- What a waiting pump may still rely on. -/
def PumpPhase.Sound (c : AdmissionController) : PumpPhase → Prop
  | .idle => True
  | .pumping _ => True
  | .holding proposal => ∃ previews w, proposal.Made c.queue previews ∧
      c.waiters.get? proposal.selection.entry.requestId = some w
  | .reserving attempt => attempt.Current c
  | .dispatching attempt => attempt.Current c

/-- What a pump relies on is in the queue and the table. -/
theorem PumpPhase.Sound.congr {c c' : AdmissionController} {phase : PumpPhase} (h : phase.Sound c)
    (hqueue : c'.queue = c.queue) (hwaiters : c'.waiters = c.waiters) : phase.Sound c' := by
  have hattempt : ∀ {attempt : Attempted}, attempt.Current c → attempt.Current c' := by
    intro attempt hcurrent
    refine ⟨hcurrent.fresh, ?_, ?_⟩
    · rw [hqueue]
      exact hcurrent.commits
    · rw [hwaiters]
      exact hcurrent.waiter
  cases phase with
  | idle => trivial
  | pumping excluded => trivial
  | holding proposal =>
    obtain ⟨previews, w, hmade, hget⟩ := h
    refine ⟨previews, w, ?_, ?_⟩
    · rw [hqueue]
      exact hmade
    · rw [hwaiters]
      exact hget
  | reserving attempt => exact hattempt h
  | dispatching attempt => exact hattempt h

/-- **The invariant of admission.** -/
structure Admission.Sound (s : Admission) : Prop where
  lockstep : s.controller.Lockstep
  answered : s.controller.Answered
  accounted : s.controller.Accounted s.phase.attempts
  bounded : s.controller.waiters.size ≤ s.controller.maxWaitersGlobal
  phase : s.phase.Sound s.controller

/-- What the environment of admission may be relied on for. -/
def AdmissionEvent.Admissible : AdmissionEvent → Prop
  | .acquire request p => request.Admissible ∧ p.Sound
  | .turn providers => ∀ r, (providers r).Sound
  | .hold p _ => p.Sound
  | .wake => True
  | .refuse _ => True
  | .reserved _ => True
  | .dispatched _ _ => True
  | .release _ => True
  | .cancel _ => True

namespace Admission

open AdmissionController

variable {s : Admission} {c c' : AdmissionController} {r : RequestId} {w : Waiter}

/-- Only the permits change. -/
theorem Sound.permits {phase phase' : PumpPhase} {raised raised' : Option AdmissionFault}
    {active : Dict String Nat} {stranded : List String} (h : Sound ⟨c, phase, raised⟩)
    (haccounted : ({ c with activeByKey := active, stranded } : AdmissionController).Accounted
      phase'.attempts) (hphase : phase'.Sound { c with activeByKey := active, stranded }) :
    Sound ⟨{ c with activeByKey := active, stranded }, phase', raised'⟩ where
  lockstep := ⟨h.lockstep.coherent, h.lockstep.sound, h.lockstep.waits⟩
  answered := ⟨h.answered.once, h.answered.issued, h.answered.waiting, h.answered.own,
    h.answered.covered, h.answered.leases⟩
  accounted := haccounted
  bounded := h.bounded
  phase := hphase

theorem Sound.ignore (h : s.Sound) : s.ignore.Sound := ⟨h.lockstep, h.answered, h.accounted, h.bounded, h.phase⟩

/-- Where moves lead from a sound state, with no permit under way. -/
theorem Sound.moves {phase : PumpPhase} {raised : Option AdmissionFault} (h : s.Sound)
    (hattempts : s.phase.attempts = []) (hmoves : Moves s.controller c')
    (hnone : phase.attempts = []) (hphase : phase.Sound c') : Sound ⟨c', phase, raised⟩ where
  lockstep := hmoves.lockstep h.lockstep
  answered := hmoves.answered h.lockstep h.answered
  accounted := by
    have haccounted := h.accounted.of_samePermits hmoves.samePermits
    rw [hattempts] at haccounted
    show c'.Accounted phase.attempts
    rw [hnone]
    exact haccounted
  bounded := by
    have hsize := size_le_of_keys hmoves.keys
    have hbounded := h.bounded
    show c'.waiters.size ≤ c'.maxWaitersGlobal
    rw [hmoves.samePermits.maxWaitersGlobal]
    exact hsize.trans hbounded
  phase := hphase

/-! ## Steps -/

/-- A turn taken by a pump. -/
def isTurn (s : Admission) : AdmissionEvent → Bool
  | .turn _ => match s.phase with
    | .pumping _ => true
    | _ => false
  | _ => false

/-- **What an event can do** to a sound state. -/
inductive Stepped (s : Admission) : AdmissionEvent → Admission → Prop
  | ignored {e : AdmissionEvent} (hquiet : s.isTurn e = false) : Stepped s e s.ignore
  | refused {request : AdmissionRequest} {p : Providers} {fault : AdmissionFault}
      (hphase : s.phase = .idle) (hcheck : s.controller.checkAdmission p request = .error fault) :
      Stepped s (.acquire request p) ⟨s.controller, .idle, some fault⟩
  | entered {request : AdmissionRequest} {p : Providers} {w : Waiter} {c' : AdmissionController}
      (hphase : s.phase = .idle) (henters : Enters s.controller request w c') :
      Stepped s (.acquire request p) ⟨c'.resetFallbacks, .pumping [], none⟩
  | woken (hphase : s.phase = .idle) :
      Stepped s .wake ⟨s.controller.resetFallbacks, .pumping [], none⟩
  | turned {providers : RequestId → Providers} {excluded : List RequestId}
      {previews : Dict RequestId (List Candidate)} {c' : AdmissionController} {ends : PumpStep}
      (hphase : s.phase = .pumping excluded) (hmoves : Moves s.controller c')
      (hends : TurnEnds excluded previews c' ends) :
      Stepped s (.turn providers) (after false (c', .ok ends))
  | held {p : Providers} {attemptId : AttemptId} {proposal : PumpProposal}
      {previews : Dict RequestId (List Candidate)} {w : Waiter} {c' : AdmissionController}
      {o : Except AdmissionFault PumpStep} (hphase : s.phase = .holding proposal)
      (hmade : proposal.Made s.controller.queue previews)
      (hget : s.controller.waiters.get? proposal.selection.entry.requestId = some w)
      (hends : HoldEnds s.controller p proposal w c' o) :
      Stepped s (.hold p attemptId) (after false (c', o))
  | gate {proposal : PumpProposal} {fault : AdmissionFault} (hphase : s.phase = .holding proposal) :
      Stepped s (.refuse fault) ⟨s.controller, .idle, some fault⟩
  | reserved {attempt : Attempted} (hphase : s.phase = .reserving attempt) :
      Stepped s (.reserved .granted) ⟨s.controller, .dispatching attempt, none⟩
  | diverted {attempt : Attempted} {w : Waiter} {reason : ReservationDenialReason}
      {cause : DispatchCause} (hphase : s.phase = .reserving attempt)
      (hcause : denialCause reason = some cause)
      (hget : s.controller.waiters.get? attempt.selection.entry.requestId = some w) :
      Stepped s (.reserved (.denied reason))
        ⟨(s.controller.releaseActive attempt.keyId).setWaiter { w with fallbackOnce := some cause },
          .pumping attempt.excluded, none⟩
  | denied {attempt : Attempted} {reason : ReservationDenialReason}
      (hphase : s.phase = .reserving attempt) (hcause : denialCause reason = none) :
      Stepped s (.reserved (.denied reason))
        ⟨s.controller.releaseActive attempt.keyId,
          .pumping (attempt.selection.entry.requestId :: attempt.excluded), none⟩
  | reserveRaised {attempt : Attempted} {fault : AdmissionFault}
      {cleanup : Except AdmissionFault Unit} (hphase : s.phase = .reserving attempt) :
      Stepped s (.reserved (.raised fault cleanup))
        (after true (s.controller.abandon attempt.keyId fault cleanup))
  | granted {attempt : Attempted} {w : Waiter} {queue : WDRRQueue}
      {cleanup : Except AdmissionFault Unit} (hphase : s.phase = .dispatching attempt)
      (hcommit : s.controller.queue.commit attempt.selection = .ok queue)
      (hget : s.controller.waiters.get? attempt.selection.entry.requestId = some w) :
      Stepped s (.dispatched (.ok ()) cleanup)
        ⟨{ s.controller with
            queue
            waiters := s.controller.waiters.erase w.request.requestId
            grants := s.controller.grants ++ [leaseOf w attempt] }.resolve w.future
              (.dispatched attempt.attemptId), .pumping [], none⟩
  | dispatchRaised {attempt : Attempted} {fault : AdmissionFault}
      {cleanup : Except AdmissionFault Unit} (hphase : s.phase = .dispatching attempt) :
      Stepped s (.dispatched (.error fault) cleanup)
        (after false (s.controller.abandon attempt.keyId fault cleanup))
  | released {n : Nat} :
      Stepped s (.release n) { s.ignore with controller := s.controller.releaseLease n }
  | cancelled {r : RequestId} {w : Waiter} (hphase : s.phase = .idle)
      (hget : s.controller.waiters.get? r = some w) :
      Stepped s (.cancel r) { s.ignore with controller := s.controller.dropWaiter w .cancelled }

/-- **The step lemma.** -/
theorem Sound.stepped (h : s.Sound) {e : AdmissionEvent} (he : e.Admissible) :
    Stepped s e (s.step e) := by
  have hheld := h.phase
  cases e with
  -- in each case the lock decides: an event of another phase is ignored
  | acquire request p =>
    cases hphase : s.phase with
    | idle =>
      simp only [Admission.step, hphase]
      rcases enlist_cases h.lockstep he.1 he.2 with ⟨fault, hcheck, henlist⟩ | ⟨w, c', henlist, henters⟩
      · rw [henlist]
        exact .refused hphase hcheck
      · rw [henlist]
        exact .entered hphase henters
    | _ =>
      simp only [Admission.step, hphase]
      exact .ignored rfl
  | wake =>
    cases hphase : s.phase with
    | idle =>
      simp only [Admission.step, hphase]
      exact .woken hphase
    | _ =>
      simp only [Admission.step, hphase]
      exact .ignored rfl
  | turn providers =>
    cases hphase : s.phase with
    | pumping excluded =>
      simp only [Admission.step, hphase]
      obtain ⟨c', ends, previews, hturn, hmoves, hends⟩ := turn_cases h.lockstep he excluded
      rw [hturn]
      exact .turned hphase hmoves hends
    | _ =>
      simp only [Admission.step, hphase]
      exact .ignored (by simp [isTurn, hphase])
  | hold p attemptId =>
    cases hphase : s.phase with
    | holding proposal =>
      simp only [Admission.step, hphase]
      rw [hphase] at hheld
      obtain ⟨previews, w, hmade, hget⟩ := hheld
      exact .held hphase hmade hget (hold_cases h.lockstep he hmade hget attemptId)
    | _ =>
      simp only [Admission.step, hphase]
      exact .ignored rfl
  | refuse fault =>
    cases hphase : s.phase with
    | holding proposal =>
      simp only [Admission.step, hphase]
      exact .gate hphase
    | _ =>
      simp only [Admission.step, hphase]
      exact .ignored rfl
  | reserved reply =>
    cases hphase : s.phase with
    | reserving attempt =>
      simp only [Admission.step, hphase]
      rw [hphase] at hheld
      cases reply with
      | granted => exact .reserved hphase
      | raised fault cleanup => exact .reserveRaised hphase
      | denied reason =>
        obtain ⟨-, -, w, hget, -⟩ := hheld
        have hget' : (s.controller.releaseActive attempt.keyId).waiters.get?
            attempt.selection.entry.requestId = some w := hget
        simp only [AdmissionController.reserved, hget']
        cases hcause : denialCause reason with
        | none => exact .denied hphase hcause
        | some cause => exact .diverted hphase hcause hget
    | _ =>
      simp only [Admission.step, hphase]
      exact .ignored rfl
  | dispatched reply cleanup =>
    cases hphase : s.phase with
    | dispatching attempt =>
      simp only [Admission.step, hphase]
      rw [hphase] at hheld
      obtain ⟨-, ⟨queue, hcommit⟩, w, hget, hcan, -⟩ := hheld
      cases reply with
      -- the budget has room since the hold, so recording the send does not raise
      | ok u =>
        rw [AdmissionController.dispatched]
        simp only [grant_spec hcommit hget hcan]
        exact .granted hphase hcommit hget
      | error fault => exact .dispatchRaised hphase
    | _ =>
      simp only [Admission.step, hphase]
      exact .ignored rfl
  | release n => exact .released
  | cancel r =>
    cases hphase : s.phase with
    | idle =>
      simp only [Admission.step, hphase, cancelCall]
      cases hget : s.controller.waiters.get? r with
      | none => exact .ignored rfl
      | some w => exact .cancelled hphase hget
    | _ =>
      simp only [Admission.step, hphase]
      exact .ignored rfl

/-! ## The invariant is kept -/

theorem sound_started (h : Sound ⟨c, .idle, none⟩) : Sound ⟨c.resetFallbacks, .pumping [], none⟩ where
  lockstep := h.lockstep.resetFallbacks
  answered := h.answered.resetFallbacks
  accounted := h.accounted
  bounded := by
    have hsize : c.resetFallbacks.waiters.size = c.waiters.size := List.length_map _
    show c.resetFallbacks.waiters.size ≤ c.maxWaitersGlobal
    rw [hsize]
    exact h.bounded
  phase := trivial

theorem sound_enters {request : AdmissionRequest} (h : Sound ⟨c, .idle, none⟩)
    (henters : Enters c request w c') : Sound ⟨c', .idle, none⟩ := by
  obtain ⟨hactive, hgrants, hstranded, hmax⟩ := henters.permits
  refine ⟨henters.lockstep, henters.answered h.answered, fun k => ?_, ?_, trivial⟩
  · rw [activeCount, leasesOut, hactive, hgrants, hstranded]
    exact h.accounted k
  · show c'.waiters.size ≤ c'.maxWaitersGlobal
    rw [hmax, henters.waiters, Dict.size_insert_of_get?_eq_none _ henters.absent]
    exact henters.room

/-- A pump at rest, whatever it raised. -/
theorem Sound.rest (h : s.Sound) (hattempts : s.phase.attempts = []) (raised : Option AdmissionFault) :
    Sound ⟨s.controller, .idle, raised⟩ :=
  h.moves hattempts .refl rfl trivial

theorem sound_held {p : Providers} {proposal : PumpProposal}
    {previews : Dict RequestId (List Candidate)} {o : Except AdmissionFault PumpStep} (h : s.Sound)
    (hphase : s.phase = .holding proposal) (hmade : proposal.Made s.controller.queue previews)
    (hends : HoldEnds s.controller p proposal w c' o) : (after false (c', o)).Sound := by
  have hattempts : s.phase.attempts = [] := by rw [hphase]; rfl
  cases hends with
  | dropped hmoves hsize => exact h.moves hattempts hmoves rfl trivial
  | excluded hmoves hget => exact h.moves hattempts hmoves rfl trivial
  | @reserving c₁ c'' w' attempt current hmoves hqueue hget hrequest hcan hacquire hjustified =>
    have hsound : Sound ⟨c₁, .idle, none⟩ := h.moves hattempts hmoves rfl trivial
    have haccounted : c'.Accounted [attempt.keyId] := by
      rw [hjustified.keyId]
      exact hsound.accounted.acquire hacquire
    obtain ⟨-, rfl⟩ := acquireActive_eq_some hacquire
    obtain ⟨hexcluded, hselection⟩ := hjustified.selection
    refine hsound.permits haccounted ⟨?_, ?_, w', ?_, hcan, ?_⟩
    · rw [hexcluded, hselection]
      exact hmade.fresh
    · rw [hselection]
      show ∃ queue, c₁.queue.commit proposal.selection = .ok queue
      rw [hqueue]
      exact ⟨_, hmade.current⟩
    · rw [hselection]
      exact hget
    · rw [hrequest]
      exact hjustified.keyId
  | @unbuildable c₁ c'' account quotaUnits e current hmoves hlimit hacquire hquota hrange =>
    have hsound : Sound ⟨c₁, .idle, none⟩ := h.moves hattempts hmoves rfl trivial
    have hstranded := (hsound.accounted.acquire hacquire).strand
    obtain ⟨-, rfl⟩ := acquireActive_eq_some hacquire
    exact hsound.permits hstranded trivial

/-- The cleanup of an attempt gives its permit back or leaves it taken. -/
theorem sound_abandon {attempt : Attempted} (h : s.Sound) (hattempts : s.phase.attempts = [attempt.keyId])
    (fault : AdmissionFault) (cleanup : Except AdmissionFault Unit) (dispatching : Bool) :
    (after dispatching (s.controller.abandon attempt.keyId fault cleanup)).Sound := by
  have haccounted := h.accounted
  rw [hattempts] at haccounted
  cases cleanup with
  | ok u => exact h.permits haccounted.release trivial
  | error e => exact h.permits haccounted.strand trivial

/-- The permit of a denied attempt is given back. -/
theorem Sound.releaseAttempt {attempt : Attempted} (h : s.Sound)
    (hattempts : s.phase.attempts = [attempt.keyId]) (excluded : List RequestId) :
    Sound ⟨s.controller.releaseActive attempt.keyId, .pumping excluded, none⟩ := by
  have haccounted := h.accounted
  rw [hattempts] at haccounted
  exact h.permits haccounted.release trivial

/-- **The grant of an attempt under way.** -/
theorem sound_granted {attempt : Attempted} {queue : WDRRQueue} (h : s.Sound)
    (hphase : s.phase = .dispatching attempt)
    (hcommit : s.controller.queue.commit attempt.selection = .ok queue)
    (hget : s.controller.waiters.get? attempt.selection.entry.requestId = some w) :
    Sound ⟨{ s.controller with
      queue
      waiters := s.controller.waiters.erase w.request.requestId
      grants := s.controller.grants ++ [leaseOf w attempt] }.resolve w.future
        (.dispatched attempt.attemptId), .pumping [], none⟩ := by
  have hw := (h.lockstep.sound hget).requestId
  have hqueue := WDRRQueue.commit_eq_ok hcommit
  have hfresh := (h.answered.waiting hget).2
  refine ⟨?_, ?_, ?_, ?_, trivial⟩
  · refine h.lockstep.forget (r := attempt.selection.entry.requestId) ?_ ?_ ?_
    · rw [resolve_waiters, hw]
    · rw [resolve_queue, hqueue]
    · rw [resolve_queue, hqueue]
  · have hresolves : Resolves s.controller w (.dispatched attempt.attemptId) [leaseOf w attempt]
        ({ s.controller with
          queue
          waiters := s.controller.waiters.erase w.request.requestId
          grants := s.controller.grants ++ [leaseOf w attempt] }.resolve w.future
            (.dispatched attempt.attemptId)) :=
      ⟨resolve_waiters, resolve_futures hfresh, resolve_samePermits.nextFuture,
        resolve_samePermits.grants, rfl⟩
    exact h.answered.resolves hget hw hresolves
  · have haccounted := h.accounted
    rw [hphase] at haccounted
    refine Accounted.of_samePermits resolve_samePermits fun k => ?_
    have hk : s.controller.activeCount k = s.controller.leasesOut k + s.controller.stranded.count k +
      [attempt.keyId].count k := haccounted k
    show s.controller.activeCount k = (s.controller.grants ++ [leaseOf w attempt]).countP _ +
      s.controller.stranded.count k + [].count k
    have hone : ([leaseOf w attempt].countP fun g => g.keyId == k && !g.released) =
        [attempt.keyId].count k := by
      simp [leaseOf, List.countP_cons, List.count_cons]
    rw [List.countP_append, hone, List.count_nil, hk, leasesOut]
    omega
  · show (AdmissionController.resolve _ _ _).waiters.size ≤
      (AdmissionController.resolve _ _ _).maxWaitersGlobal
    rw [resolve_waiters, resolve_samePermits.maxWaitersGlobal]
    refine le_trans ?_ h.bounded
    exact List.length_filter_le _ _

theorem sound_released (h : s.Sound) (n : Nat) :
    Sound { s.ignore with controller := s.controller.releaseLease n } := by
  obtain ⟨hqueue, hwaiters, hmax⟩ := releaseLease_same s.controller n
  have hlockstep : (s.controller.releaseLease n).Lockstep := by
    refine ⟨?_, fun {r w} hget => ?_, fun {r item} hitem => ?_⟩
    · rw [hqueue]
      exact h.lockstep.coherent
    · rw [hqueue]
      rw [hwaiters] at hget
      exact h.lockstep.sound hget
    · rw [hwaiters]
      rw [hqueue] at hitem
      exact h.lockstep.waits hitem
  refine ⟨hlockstep, h.answered.releaseLease n, accounted_releaseLease h.accounted h.answered n, ?_,
    h.phase.congr hqueue hwaiters⟩
  show (s.controller.releaseLease n).waiters.size ≤ (s.controller.releaseLease n).maxWaitersGlobal
  rw [hwaiters, hmax]
  exact h.bounded

theorem sound_cancelled (h : s.Sound) (hphase : s.phase = .idle)
    (hget : s.controller.waiters.get? r = some w) :
    Sound { s.ignore with controller := s.controller.dropWaiter w .cancelled } := by
  have hw := (h.lockstep.sound hget).requestId
  have hidle : s.ignore.phase = .idle := hphase
  refine ⟨h.lockstep.dropWaiter, ?_, h.accounted.of_samePermits dropWaiter_samePermits, ?_, ?_⟩
  · exact h.answered.resolves hget hw (dropWaiter_resolves h.answered hget rfl)
  · exact (size_le_of_keys keys_dropWaiter).trans
      (h.bounded.trans_eq dropWaiter_samePermits.maxWaitersGlobal.symm)
  · show s.ignore.phase.Sound _
    rw [hidle]
    trivial

/-- **Every event keeps the invariant.** -/
theorem Sound.step (h : s.Sound) {e : AdmissionEvent} (he : e.Admissible) : (s.step e).Sound := by
  have hstepped := h.stepped he
  generalize s.step e = s' at hstepped ⊢
  have hno : ∀ {phase : PumpPhase}, s.phase = phase → phase.attempts = [] → s.phase.attempts = [] := by
    intro phase hphase hnone
    rw [hphase]
    exact hnone
  cases hstepped with
  | ignored => exact h.ignore
  | refused hphase hcheck => exact h.rest (hno hphase rfl) _
  | entered hphase henters => exact sound_started (sound_enters (h.rest (hno hphase rfl) _) henters)
  | woken hphase => exact sound_started (h.rest (hno hphase rfl) _)
  | turned hphase hmoves hends =>
    cases hends with
    | returned => exact h.moves (hno hphase rfl) hmoves rfl trivial
    | continued hfresh hget => exact h.moves (hno hphase rfl) hmoves rfl trivial
    | @proposed proposal w hmade hexcluded hget =>
      exact h.moves (hno hphase rfl) hmoves rfl ⟨_, w, hmade, hget⟩
  | held hphase hmade hget hends => exact sound_held h hphase hmade hends
  | gate hphase => exact h.rest (hno hphase rfl) _
  | @reserved attempt hphase =>
    have haccounted := h.accounted
    have hcurrent := h.phase
    rw [hphase] at haccounted hcurrent
    exact ⟨h.lockstep, h.answered, haccounted, h.bounded, hcurrent⟩
  | @diverted attempt w reason cause hphase hcause hget =>
    -- the waiter is only told which fallback to try next
    have hattempts : s.phase.attempts = [attempt.keyId] := by rw [hphase]; rfl
    have hreleased := h.releaseAttempt hattempts attempt.excluded
    have hmove : Move (s.controller.releaseActive attempt.keyId)
        ((s.controller.releaseActive attempt.keyId).setWaiter { w with fallbackOnce := some cause }) :=
      .revised hget rfl rfl ((hreleased.lockstep.sound hget).revise rfl rfl rfl)
    exact hreleased.moves rfl (.single hmove) rfl trivial
  | denied hphase hcause => exact h.releaseAttempt (by rw [hphase]; rfl) _
  | reserveRaised hphase => exact sound_abandon h (by rw [hphase]; rfl) _ _ true
  | granted hphase hcommit hget => exact sound_granted h hphase hcommit hget
  | dispatchRaised hphase => exact sound_abandon h (by rw [hphase]; rfl) _ _ false
  | released => exact sound_released h _
  | cancelled hphase hget => exact sound_cancelled h hphase hget

end Admission

end LlmMaxxing
