import LlmMaxxing.Gateway.Fairness
import LlmMaxxing.Core.SampleBundle

/-!
# Three keys: an entry that is never granted

The cyclic key order is recomputed at every proposal from the first queued arrival of each
key. Let `a` be the oldest and let the cursor stand on `x`, with `y` last. Granting `x` moves
the cursor to `y`; re-enqueueing `x` puts it behind `y`. Now `y` stands where `x` stood and the
cursor is on it: the same state with the roles exchanged, and `a` was passed over. `Trio` is
that state and `Trio.round` the exchange.
-/

namespace LlmMaxxing

namespace WDRRQueue

/-! ## One round of the exchange -/

/-- Three keys of one class, one entry each: `a` the oldest, the cursor on `x`, `y` last, and no
deficit left over. -/
structure Trio (t : Nat) (s : Scarcity) (i : Nat) (a x y : QueueEntry) (q : WDRRQueue) :
    Prop where
  coherent : q.Coherent
  items : ∃ j k, i < j ∧ j < k ∧ q.queued.values.Perm [⟨a, i⟩, ⟨x, j⟩, ⟨y, k⟩]
  cursor_eq : q.cursor t s = some x.keyId
  deficit_eq : ∀ key, q.keyDeficit t s key = 0

/-- Three entries of one class with weight one and pairwise distinct keys. -/
structure Rivals (t : Nat) (s : Scarcity) (a x y : QueueEntry) : Prop where
  tier_a : a.tier = t
  tier_x : x.tier = t
  tier_y : y.tier = t
  scarcity_a : a.scarcity = s
  scarcity_x : x.scarcity = s
  scarcity_y : y.scarcity = s
  weight_x : x.weight = 1
  weight_y : y.weight = 1
  key_ax : a.keyId ≠ x.keyId
  key_ay : a.keyId ≠ y.keyId
  key_xy : x.keyId ≠ y.keyId

theorem Rivals.swap {t : Nat} {s : Scarcity} {a x y : QueueEntry} (h : Rivals t s a x y) :
    Rivals t s a y x :=
  ⟨h.tier_a, h.tier_y, h.tier_x, h.scarcity_a, h.scarcity_y, h.scarcity_x, h.weight_y, h.weight_x,
    h.key_ay, h.key_ax, h.key_xy.symm⟩

section Round

variable {t : Nat} {s : Scarcity} {a x y : QueueEntry} {q : WDRRQueue} {i j k : Nat}

/-- The keys of three such items, in order of arrival. -/
theorem keyOrder_trio (hr : Rivals t s a x y) {items : List Queued}
    (hperm : items.Perm [⟨a, i⟩, ⟨x, j⟩, ⟨y, k⟩]) (hij : i < j) (hjk : j < k) :
    keyOrder items = [a.keyId, x.keyId, y.keyId] := by
  have hfirst : ∀ e n, (⟨e, n⟩ : Queued) ∈ [(⟨a, i⟩ : Queued), ⟨x, j⟩, ⟨y, k⟩] →
      (firstSequence items).get? e.keyId = some n := by
    intro e n hmem
    have hone : itemsOfKey items e.keyId = [⟨e, n⟩] := by
      rw [← List.perm_singleton]
      refine (hperm.filter _).trans (List.Perm.of_eq ?_)
      have h₁ := hr.key_ax
      have h₂ := hr.key_ay
      have h₃ := hr.key_xy
      simp only [List.mem_cons, Queued.mk.injEq, List.not_mem_nil, or_false] at hmem
      rcases hmem with ⟨rfl, rfl⟩ | ⟨rfl, rfl⟩ | ⟨rfl, rfl⟩
      · simp [h₁.symm, h₂.symm]
      · simp [h₁, h₃.symm]
      · simp [h₂, h₃]
    rw [get?_firstSequence, hone]
    simp
  have hkeys : (firstSequence items).keys.Perm [a.keyId, x.keyId, y.keyId] := by
    have hnd : (firstSequence items).keys.Nodup := (firstSequence items).nodup
    refine (List.perm_ext_iff_of_nodup hnd ?_).mpr fun key => ?_
    · simp [hr.key_ax, hr.key_ay, hr.key_xy]
    · have hmem : key ∈ (firstSequence items).keys ↔ key ∈ keyOrder items :=
        (SortOn.mem_iff _).symm
      rw [hmem, mem_keyOrder]
      simp only [hperm.mem_iff]
      simp [eq_comm]
  rw [keyOrder, SortOn.eq_of_perm _ hkeys]
  · apply SortOn.eq_self
    simp only [List.pairwise_cons, List.mem_cons, List.not_mem_nil, or_false, forall_eq_or_imp,
      forall_eq, hfirst a i (by simp), hfirst x j (by simp), hfirst y k (by simp), Option.getD_some,
      Prod.Lex.toLex_le_toLex]
    refine ⟨⟨Or.inl hij, Or.inl (hij.trans hjk)⟩, Or.inl hjk, by simp⟩
  · intro b _ c _ heq
    exact congrArg (fun p => (ofLex p).2) heq

/-- Granting in the trio serves `x` and hands the cursor to `y`. -/
theorem Trio.grant (hr : Rivals t s a x y) (h : Trio t s i a x y q) :
    ∃ q', q.grant = some (x, q') ∧ q'.Coherent ∧ q'.cursor t s = some y.keyId ∧
      (∀ key, q'.keyDeficit t s key = 0) ∧ q'.nextSequence = q.nextSequence ∧
      q'.queued = q.queued.erase x.requestId := by
  obtain ⟨j, k, hij, hjk, hperm⟩ := h.items
  have hne : q.queued.values ≠ [] := by
    intro hnil
    rw [hnil] at hperm
    simpa using hperm.length_eq
  obtain ⟨e, q', hgrant⟩ := grant_isSome h.coherent hne
  obtain ⟨item, rfl, hg⟩ := grant_spec h.coherent hgrant
  -- Every queued item is in the class, so the class is the whole queue.
  have hclass : q.classItems t s = q.queued.values := by
    rw [classItems, List.filter_eq_self]
    intro item hitem
    have hitem := hperm.mem_iff.mp hitem
    simp only [List.mem_cons, List.not_mem_nil, or_false] at hitem
    rcases hitem with rfl | rfl | rfl
    · simp [hr.tier_a, hr.scarcity_a]
    · simp [hr.tier_x, hr.scarcity_x]
    · simp [hr.tier_y, hr.scarcity_y]
  have hmem : item ∈ q.queued.values := Dict.mem_values_iff.mpr ⟨_, hg.stored⟩
  have hts : item.entry.tier = t ∧ item.entry.scarcity = s := by
    rw [← hclass] at hmem
    exact (mem_classItems.mp hmem).2
  obtain ⟨ht, hs⟩ := hts
  have horder : keyOrder (q.classItems t s) = [a.keyId, x.keyId, y.keyId] :=
    keyOrder_trio hr (hclass ▸ hperm) hij hjk
  have hchosen := hg.chosen
  rw [ht, hs, h.cursor_eq, horder, chooseKey_of_mem (by simp), Option.some.injEq] at hchosen
  -- Only `x` has the chosen key.
  have hx : item.entry = x := by
    have hitem := hperm.mem_iff.mp hmem
    simp only [List.mem_cons, List.not_mem_nil, or_false] at hitem
    rcases hitem with rfl | rfl | rfl
    · exact absurd hchosen.symm hr.key_ax
    · rfl
    · exact absurd hchosen hr.key_xy
  have hquantum : keyQuantum (itemsOfKey (q.classItems t s) x.keyId) = 1 := by
    have hone : itemsOfKey (q.classItems t s) x.keyId = [⟨x, j⟩] := by
      rw [hclass, ← List.perm_singleton]
      refine (hperm.filter _).trans (List.Perm.of_eq ?_)
      simp [hr.key_ax, hr.key_xy.symm]
    simp [hone, keyQuantum, hr.weight_x]
  have hzero : q'.keyDeficit t s x.keyId = 0 := by
    have hcharged := hg.charged
    rw [hx, hr.tier_x, hr.scarcity_x, hquantum, h.deficit_eq] at hcharged
    exact hcharged
  refine ⟨q', hx ▸ hgrant, hg.itemEffect.coherent h.coherent, ?_, ?_, hg.nextSequence_eq,
    hx ▸ hg.queued_eq⟩
  · have hcursor := hg.cursor_eq
    rw [hx, hr.tier_x, hr.scarcity_x, hzero, horder] at hcursor
    rw [hcursor]
    simp [nextKey, hr.key_ax]
  · intro key
    by_cases hkey : key = x.keyId
    · rw [hkey, hzero]
    · rw [hg.deficit_other t s key, h.deficit_eq]
      rw [hx]
      simp [hkey]

/-- **The exchange.** Granting `x` and re-enqueueing it gives the trio with `x` and `y`
exchanged. -/
theorem Trio.round (hr : Rivals t s a x y) (h : Trio t s i a x y q) :
    (q.step .grant).granted (.enqueue x) = none ∧ q.granted .grant = some x ∧
      Trio t s i a y x ((q.step .grant).step (.enqueue x)) := by
  obtain ⟨q', hgrant, hco, hcur, hdef, hnext, hqueued⟩ := h.grant hr
  obtain ⟨j, k, hij, hjk, hperm⟩ := h.items
  have hstep : q.step .grant = q' := by simp [step, hgrant]
  have hxid : q.queued.get? x.requestId = some ⟨x, j⟩ :=
    h.coherent.get?_of_mem (hperm.mem_iff.mpr (by simp : (⟨x, j⟩ : Queued) ∈ _))
  have hklt : k < q'.nextSequence := by
    rw [hnext]
    exact h.coherent.sequence_lt (h.coherent.get?_of_mem (hperm.mem_iff.mpr
      (by simp : (⟨y, k⟩ : Queued) ∈ _)))
  have habs : q'.queued.get? x.requestId = none := by
    rw [hqueued, Dict.get?_erase_self]
  have henq : q'.enqueue x = .ok
      { q' with
        queued := q'.queued.insert x.requestId ⟨x, q'.nextSequence⟩
        nextSequence := q'.nextSequence + 1
        version := q'.version + 1 } := by
    simp [enqueue, Dict.contains_eq_false_iff.mpr habs]
  refine ⟨rfl, by simp [granted, hgrant], ?_⟩
  have hco' : (q'.step (.enqueue x)).Coherent := (step_itemEffect hco _).coherent hco
  rw [hstep]
  refine ⟨hco', ⟨k, q'.nextSequence, hij.trans hjk, hklt, ?_⟩, ?_, ?_⟩
  · -- The stored items: `x` left and came back last.
    have hrest : q'.queued.values.Perm [⟨a, i⟩, ⟨y, k⟩] := by
      have hcons : ((⟨x, j⟩ : Queued) :: q'.queued.values).Perm (⟨x, j⟩ :: [⟨a, i⟩, ⟨y, k⟩]) := by
        rw [hqueued]
        exact (Dict.values_perm_of_get? hxid).symm.trans
          (hperm.trans (List.Perm.swap _ _ _))
      exact hcons.cons_inv
    simp only [step, henq]
    refine (Dict.values_insert_perm _ _ _).trans ?_
    rw [Dict.erase_eq_self habs]
    refine (hrest.cons _).trans ?_
    exact (List.Perm.swap _ _ _).trans ((List.Perm.swap _ _ _).cons _)
  · simp only [step, henq]
    exact hcur
  · simp only [step, henq]
    exact hdef

/-- `n` exchanges. -/
def rounds (x y : QueueEntry) : Nat → List QueueOp
  | 0 => []
  | n + 1 => .grant :: .enqueue x :: rounds y x n

/-- Every item of the queue is of one class and of one of three keys, and `a` waits. -/
structure Passed (t : Nat) (s : Scarcity) (i : Nat) (a x y : QueueEntry) (q : WDRRQueue) :
    Prop where
  oneClass : ∀ item ∈ q.queued.values, item.entry.tier = t ∧ item.entry.scarcity = s
  keys : ∀ item ∈ q.queued.values, item.entry.keyId ∈ ({a.keyId, x.keyId, y.keyId} : Finset String)
  waits : q.Waits a.requestId i t s

theorem Passed.of_subset (hr : Rivals t s a x y) (hq : q.Coherent)
    (hsub : ∀ item ∈ q.queued.values, item ∈ [(⟨a, i⟩ : Queued), ⟨x, j⟩, ⟨y, k⟩])
    (ha : (⟨a, i⟩ : Queued) ∈ q.queued.values) : Passed t s i a x y q := by
  refine ⟨fun item hitem => ?_, fun item hitem => ?_, ?_⟩
  · have hitem := hsub item hitem
    simp only [List.mem_cons, List.not_mem_nil, or_false] at hitem
    rcases hitem with rfl | rfl | rfl
    · exact ⟨hr.tier_a, hr.scarcity_a⟩
    · exact ⟨hr.tier_x, hr.scarcity_x⟩
    · exact ⟨hr.tier_y, hr.scarcity_y⟩
  · have hitem := hsub item hitem
    simp only [List.mem_cons, List.not_mem_nil, or_false] at hitem
    rcases hitem with rfl | rfl | rfl <;> simp
  · exact ⟨⟨a, i⟩, hq.get?_of_mem ha, rfl, hr.tier_a, hr.scarcity_a⟩

theorem Passed.swap (h : Passed t s i a y x q) : Passed t s i a x y q :=
  ⟨h.oneClass, fun item hitem => by simpa [or_comm] using h.keys item hitem, h.waits⟩

theorem Trio.passed (hr : Rivals t s a x y) (h : Trio t s i a x y q) : Passed t s i a x y q := by
  obtain ⟨j, k, -, -, hperm⟩ := h.items
  exact Passed.of_subset hr h.coherent (fun item hitem => hperm.mem_iff.mp hitem)
    (hperm.mem_iff.mpr (by simp))

theorem Trio.passed_grant (hr : Rivals t s a x y) (h : Trio t s i a x y q)
    (hid : a.requestId ≠ x.requestId) : Passed t s i a x y (q.step .grant) := by
  obtain ⟨q', hgrant, hco, -, -, -, hqueued⟩ := h.grant hr
  obtain ⟨j, k, -, -, hperm⟩ := h.items
  have hstep : q.step .grant = q' := by simp [step, hgrant]
  rw [hstep]
  refine Passed.of_subset (j := j) (k := k) hr hco (fun item hitem => ?_) ?_
  · obtain ⟨r, hr'⟩ := Dict.mem_values_iff.mp hitem
    rw [hqueued, Dict.get?_erase] at hr'
    split at hr'
    · cases hr'
    · exact hperm.mem_iff.mp (Dict.mem_values_iff.mpr ⟨r, hr'⟩)
  · refine Dict.mem_values_iff.mpr ⟨a.requestId, ?_⟩
    rw [hqueued, Dict.get?_erase_of_ne _ hid]
    exact h.coherent.get?_of_mem (hperm.mem_iff.mpr (by simp : (⟨a, i⟩ : Queued) ∈ _))

/-- **`n` exchanges make `n` grants and pass `a` over in every state.** -/
theorem Trio.rounds (hr : Rivals t s a x y) (hax : a.requestId ≠ x.requestId)
    (hay : a.requestId ≠ y.requestId) (h : Trio t s i a x y q) (n : Nat) :
    q.grantsIn t s (rounds x y n) = n ∧ ∀ q' ∈ q.trace (rounds x y n), Passed t s i a x y q' := by
  induction n generalizing q x y with
  | zero =>
    refine ⟨rfl, fun q' hq' => ?_⟩
    rw [WDRRQueue.rounds, trace, List.mem_singleton] at hq'
    exact hq' ▸ h.passed hr
  | succ n ih =>
    obtain ⟨hnone, hsome, hnext⟩ := h.round hr
    obtain ⟨hcount, hpassed⟩ := ih hr.swap hay hax hnext
    refine ⟨?_, fun q' hq' => ?_⟩
    · rw [WDRRQueue.rounds, grantsIn, grantsIn, hcount, hsome, hnone]
      simp [Option.filter, hr.tier_x, hr.scarcity_x]
      omega
    · rw [WDRRQueue.rounds, trace, trace, List.mem_cons, List.mem_cons] at hq'
      rcases hq' with rfl | rfl | hq'
      · exact h.passed hr
      · exact h.passed_grant hr hax
      · exact (hpassed q' hq').swap

end Round

/-! ## The run -/

/-- One leg on one account: what each contender is authorized for. -/
def contendedLeg : AuthorizedLeg where
  legId := ⟨"leg_00000000-0000-4000-8000-000000000001", by decide⟩
  accountId := sampleAccountId
  generationId :=
    ⟨"dg1_0000000000000000000000000000000000000000000000000000000000000001", by decide⟩
  order := 1
  allowedTriggers := [.primary]
  capabilities :=
    { endpoints := [.chat], modalities := [.chat], contextTokens := 1, tools := false
      forcedTool := false, responseSchema := false, shadow := false }

/-- An entry of weight one for the contended leg. -/
def contender (requestId : RequestId) (keyId : String) (hne : keyId ≠ "")
    (hle : keyId.toList.length ≤ 160) : QueueEntry where
  requestId := requestId
  keyId := keyId
  tier := 0
  weight := 1
  authorizedLegs := [contendedLeg]
  scarcity := QueueEntry.scarcityOf [contendedLeg]
  wellFormed := ⟨hne, hle, by decide, by decide, by simp, by simp⟩

def firstOfA : QueueEntry :=
  contender ⟨"req_00000000-0000-4000-8000-0000000000a0", by decide⟩
    "0000000000000000000000000000000a" (by decide) (by decide)

def secondOfA : QueueEntry :=
  contender ⟨"req_00000000-0000-4000-8000-0000000000a1", by decide⟩
    "0000000000000000000000000000000a" (by decide) (by decide)

def entryOfB : QueueEntry :=
  contender ⟨"req_00000000-0000-4000-8000-0000000000b0", by decide⟩
    "0000000000000000000000000000000b" (by decide) (by decide)

def entryOfC : QueueEntry :=
  contender ⟨"req_00000000-0000-4000-8000-0000000000c0", by decide⟩
    "0000000000000000000000000000000c" (by decide) (by decide)

/-- Key `a` queues two entries, `b` and `c` one each, and one grant serves the first of `a`. -/
def opening : List QueueOp :=
  [.enqueue firstOfA, .enqueue secondOfA, .enqueue entryOfB, .enqueue entryOfC, .grant]

theorem rivals : Rivals 0 .scarce secondOfA entryOfB entryOfC := by
  constructor <;> decide

theorem opening_items : ((fresh 64).run opening).queued.values =
    [⟨secondOfA, 1⟩, ⟨entryOfB, 2⟩, ⟨entryOfC, 3⟩] := by
  decide

theorem opening_fairness : ((fresh 64).run opening).fairness =
    { classDeficits := [((0, .scarce), 1)]
      classCursors := [(0, .scarce)]
      keyDeficits := [((0, .scarce, secondOfA.keyId), 0)]
      keyCursors := [((0, .scarce), entryOfB.keyId)] } := by
  decide

theorem trio_opening : Trio 0 .scarce 1 secondOfA entryOfB entryOfC ((fresh 64).run opening) := by
  refine ⟨coherent_run (coherent_fresh 64) opening, ⟨2, 3, by decide, by decide, ?_⟩, ?_, ?_⟩
  · rw [opening_items]
  · rw [cursor, opening_fairness]
    decide
  · intro key
    rw [keyDeficit, opening_fairness]
    by_cases hkey : key = secondOfA.keyId
    · subst hkey
      decide
    · simp [decodeState, Dict.ofList, Dict.get?_insert, hkey]

/-- The keys of the run. -/
def contendingKeys : Finset String := {secondOfA.keyId, entryOfB.keyId, entryOfC.keyId}

/-- Every state of the opening holds entries of one class and of the three keys only. -/
theorem opening_oneClass : ∀ q ∈ (fresh 64).trace opening, ∀ item ∈ q.queued.values,
    item.entry.tier = 0 ∧ item.entry.scarcity = .scarce ∧ item.entry.keyId ∈ contendingKeys := by
  decide

/-- The states of the whole run: one tier, one class, three keys. -/
theorem starving_oneClass (n : Nat) :
    ∀ q ∈ (fresh 64).trace (opening ++ rounds entryOfB entryOfC n), ∀ item ∈ q.queued.values,
      item.entry.tier = 0 ∧ item.entry.scarcity = .scarce ∧
        item.entry.keyId ∈ contendingKeys := by
  intro q hq item hitem
  rcases (mem_trace_append _ _ _ q).mp hq with hq | hq
  · exact opening_oneClass q hq item hitem
  · have hpassed := (trio_opening.rounds rivals (by decide) (by decide) n).2 q hq
    exact ⟨(hpassed.oneClass item hitem).1, (hpassed.oneClass item hitem).2,
      hpassed.keys item hitem⟩

/-- The second entry of `a`, with no entry of its key before it, stays queued while `n` other
entries are granted. -/
theorem starving_waits (n : Nat) :
    (∀ q ∈ ((fresh 64).run opening).trace (rounds entryOfB entryOfC n),
      q.Waits secondOfA.requestId 1 0 .scarce) ∧
    ((fresh 64).run opening).position secondOfA.requestId = 0 ∧
    ((fresh 64).run opening).grantsIn 0 .scarce (rounds entryOfB entryOfC n) = n := by
  obtain ⟨hcount, hpassed⟩ := trio_opening.rounds rivals (by decide) (by decide) n
  exact ⟨fun q hq => (hpassed q hq).waits, by decide, hcount⟩

/-- Three keys allow any number of grants past a waiting entry. -/
theorem not_boundedWait_of_three_le {n : Nat} (hn : 3 ≤ n) : ¬ BoundedWait n := by
  rintro ⟨bound, hbound⟩
  -- One grant more than the bound allows.
  obtain ⟨hwaits, hpos, hcount⟩ := starving_waits (bound 0 + 1)
  have hcard : contendingKeys.card ≤ n := le_trans (by decide) hn
  have hle := hbound 64 opening (rounds entryOfB entryOfC (bound 0 + 1)) secondOfA.requestId 1 0
    .scarce contendingKeys (by decide) hcard
    (fun q hq item hitem =>
      (starving_oneClass _ q hq item (mem_classItems.mp hitem).1).2.2) hwaits
  rw [hpos, hcount] at hle
  omega

/-- **Exactly up to two keys the wait is bounded.** -/
theorem boundedWait_iff (n : Nat) : BoundedWait n ↔ n ≤ 2 := by
  constructor
  · intro h
    by_contra hn
    exact not_boundedWait_of_three_le (by omega) h
  · intro hn
    exact boundedWait_two.mono hn

/-- **No bound with three keys.** For every `n` there is a run of one tier, one class and three
keys in which an entry with no entry of its key before it stays queued while `n` others are
granted. -/
theorem wait_unbounded_with_three_keys :
    contendingKeys.card = 3 ∧
    (∀ n, (∀ q ∈ (fresh 64).trace (opening ++ rounds entryOfB entryOfC n),
        ∀ item ∈ q.queued.values, item.entry.tier = 0 ∧ item.entry.scarcity = .scarce ∧
          item.entry.keyId ∈ contendingKeys) ∧
      (∀ q ∈ ((fresh 64).run opening).trace (rounds entryOfB entryOfC n),
        q.Waits secondOfA.requestId 1 0 .scarce) ∧
      ((fresh 64).run opening).position secondOfA.requestId = 0 ∧
      ((fresh 64).run opening).grantsIn 0 .scarce (rounds entryOfB entryOfC n) = n) ∧
    ¬ BoundedWait 3 :=
  ⟨by decide, fun n => ⟨starving_oneClass n, starving_waits n⟩, not_boundedWait_of_three_le le_rfl⟩

end WDRRQueue

end LlmMaxxing
