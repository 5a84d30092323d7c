import LlmMaxxing.Gateway.Fairness

/-!
# Tier aging, class ratio and order of arrival in the fair queue

A run is any sequence of `enqueue`, `cancel`, `contract`, proposals over any eligible part of the
queue, and commits of proposals made before. A commit goes through only when nothing has happened
since its proposal, so what a proposal computed is what the commit installs. Beside the queue a run
keeps its proposals, its commits, the order of arrivals and the quantum each key deficit was last
refilled with.
-/

namespace LlmMaxxing

open Check

/-! ## What a proposal computes -/

section Tables

variable (t : FairnessTables) (streak : Nat)

@[simp] theorem decode_encode_classDeficits (k : Nat × Scarcity) :
    (decodeState (encodeState t streak)).classDeficits.get? k = t.classDeficits.get? k :=
  Dict.get?_ofList_of_perm (SortOn.perm _ _) k

@[simp] theorem decode_encode_classCursors (k : Nat) :
    (decodeState (encodeState t streak)).classCursors.get? k = t.classCursors.get? k :=
  Dict.get?_ofList_of_perm (SortOn.perm _ _) k

end Tables

namespace WDRRQueue

/-- The class a tier serves next, and the deficits its classes have left. -/
structure ClassPhase where
  cursor : Scarcity
  scarceDeficit : Nat
  flexibleDeficit : Nat
  deriving DecidableEq

/-- The phase of a tier in a stored state. -/
def classPhase (f : FairnessState) (t : Nat) : ClassPhase where
  cursor := ((decodeState f).classCursors.get? t).getD .scarce
  scarceDeficit := ((decodeState f).classDeficits.get? (t, .scarce)).getD 0
  flexibleDeficit := ((decodeState f).classDeficits.get? (t, .flexible)).getD 0

/-- The phase after a grant of a class. -/
def ClassPhase.served (p : ClassPhase) : Scarcity → ClassPhase
  | .scarce =>
    let deficit := replenish p.scarceDeficit 2 - 1
    { p with scarceDeficit := deficit, cursor := if deficit = 0 then .flexible else .scarce }
  | .flexible =>
    let deficit := replenish p.flexibleDeficit 1 - 1
    { p with flexibleDeficit := deficit, cursor := if deficit = 0 then .scarce else .flexible }

/-- The items a proposal weighs for an entry: those of its key in its tier and class. -/
def alikes (q : WDRRQueue) (eligible : QueueEntry → Bool) (excluded : List RequestId)
    (e : QueueEntry) : List Queued :=
  (q.available eligible excluded).filter fun i =>
    i.entry.tier == e.tier && i.entry.scarcity == e.scarcity && i.entry.keyId == e.keyId

theorem mem_alikes {q : WDRRQueue} {eligible : QueueEntry → Bool} {excluded : List RequestId}
    {e : QueueEntry} {i : Queued} :
    i ∈ q.alikes eligible excluded e ↔ i ∈ q.available eligible excluded ∧
      i.entry.tier = e.tier ∧ i.entry.scarcity = e.scarcity ∧ i.entry.keyId = e.keyId := by
  simp [alikes, and_assoc]

/-- What a proposal is: the tier and the class it serves, the item, and the tables it charges. -/
structure Proposes (q : WDRRQueue) (eligible : QueueEntry → Bool) (excluded : List RequestId)
    (selection : QueueSelection) (top : Nat) (item : Queued) : Prop where
  top_eq : topTier (q.available eligible excluded) = some top
  mem : item ∈ q.available eligible excluded
  entry_eq : selection.entry = item.entry
  version_eq : selection.queueVersion = q.version
  tier_eq : item.entry.tier = q.chooseTier (q.available eligible excluded) top
  class_eq : item.entry.scarcity = chooseClass (classPhase q.fairness item.entry.tier).cursor
    ((q.available eligible excluded).filter fun i => i.entry.tier == item.entry.tier)
  first : ∀ other ∈ q.alikes eligible excluded item.entry, item.arrival ≤ other.arrival
  charged : ∃ keys, selection.fairness =
    encodeState (charge (decodeState q.fairness) item.entry.tier item.entry.scarcity keys
      item.entry.keyId (keyQuantum (q.alikes eligible excluded item.entry)))
      (if lowerItems (q.available eligible excluded) top ≠ [] ∧ item.entry.tier = top then
        q.fairness.higherGrantStreak + 1 else 0)

/-- **What a proposal computes.** -/
theorem propose_eq_some {q : WDRRQueue} {eligible : QueueEntry → Bool} {excluded : List RequestId}
    {selection : QueueSelection} (h : q.propose eligible excluded = some selection) :
    ∃ top item, Proposes q eligible excluded selection top item := by
  unfold propose at h
  simp only at h
  split at h
  · cases h
  · next top htop =>
    obtain ⟨⟨item, tables⟩, htier, rfl⟩ := Option.map_eq_some_iff.mp h
    obtain ⟨s, keys, hclass, -, -, hmem, hs, hfirst, rfl⟩ := proposeInTier_eq_some htier
    obtain ⟨hitem, ht⟩ := List.mem_filter.mp hmem
    have ht := eq_of_beq ht
    -- Three filters in a row are the one that defines the alikes.
    have halikes : itemsOfKey (((q.available eligible excluded).filter fun i =>
        i.entry.tier == q.chooseTier (q.available eligible excluded) top).filter fun i =>
          i.entry.scarcity == s) item.entry.keyId = q.alikes eligible excluded item.entry := by
      rw [itemsOfKey, List.filter_filter, List.filter_filter, alikes, ← ht, ← hs]
      congr 1
      funext i
      ac_rfl
    rw [← ht, ← hs] at hclass
    refine ⟨top, item, htop, hitem, rfl, rfl, ht, hclass, fun other hother => ?_, keys, ?_⟩
    · obtain ⟨havail, hot, hos, hok⟩ := mem_alikes.mp hother
      exact hfirst other (List.mem_filter.mpr ⟨havail, by simpa [← ht] using hot⟩) (hos.trans hs) hok
    · rw [halikes, ht, hs]

variable {q : WDRRQueue} {eligible : QueueEntry → Bool} {excluded : List RequestId}
  {selection : QueueSelection} {top : Nat} {item : Queued}

theorem Proposes.mem_self (h : Proposes q eligible excluded selection top item) :
    item ∈ q.alikes eligible excluded item.entry :=
  mem_alikes.mpr ⟨h.mem, rfl, rfl, rfl⟩

/-- The phase of the served tier moves on; the other tiers keep theirs. -/
theorem Proposes.classPhase (h : Proposes q eligible excluded selection top item) (t : Nat) :
    classPhase selection.fairness t =
      if item.entry.tier = t then (classPhase q.fairness t).served item.entry.scarcity
      else classPhase q.fairness t := by
  obtain ⟨keys, hfairness⟩ := h.charged
  simp only [WDRRQueue.classPhase, hfairness, decode_encode_classDeficits, decode_encode_classCursors,
    charge]
  by_cases heq : item.entry.tier = t
  · subst heq
    rw [if_pos rfl]
    cases item.entry.scarcity <;>
      simp [ClassPhase.served, Scarcity.quantum, Scarcity.other, Dict.get?_insert] <;>
      congr
  · have hkey : ∀ s, (t, s) ≠ (item.entry.tier, item.entry.scarcity) :=
      fun s hkey => heq (congrArg Prod.fst hkey).symm
    rw [if_neg heq, Dict.get?_insert_of_ne _ _ (Ne.symm heq), Dict.get?_insert_of_ne _ _ (hkey _),
      Dict.get?_insert_of_ne _ _ (hkey _)]

/-- The streak counts a grant of the top tier past lower items, and starts over otherwise. -/
theorem Proposes.streak (h : Proposes q eligible excluded selection top item) :
    selection.fairness.higherGrantStreak =
      if lowerItems (q.available eligible excluded) top ≠ [] ∧ item.entry.tier = top then
        q.fairness.higherGrantStreak + 1 else 0 := by
  obtain ⟨keys, hfairness⟩ := h.charged
  rw [hfairness]
  rfl

/-- Past the bound the top tier is not served while a lower item is eligible. -/
theorem Proposes.streak_lt (h : Proposes q eligible excluded selection top item)
    (hlower : lowerItems (q.available eligible excluded) top ≠ []) (htop : item.entry.tier = top) :
    q.fairness.higherGrantStreak < q.maxConsecutiveHigherGrants := by
  by_contra hbound
  obtain ⟨oldestLower, hold⟩ := Option.isSome_iff_exists.mp (oldest_isSome hlower)
  have hbelow := (List.mem_filter.mp (oldest_eq_some hold).1).2
  have htier := h.tier_eq
  rw [chooseTier, hold] at htier
  simp only [if_pos (not_lt.mp hbound)] at htier
  rw [decide_eq_true_eq, ← htier, htop] at hbelow
  exact absurd hbelow (lt_irrefl top)

/-- The key deficits after a grant: the served one is read, refilled when empty, and charged. -/
theorem Proposes.keyDeficit (h : Proposes q eligible excluded selection top item)
    (k : Nat × Scarcity × String) :
    (decodeState selection.fairness).keyDeficits.get? k =
      if k = (item.entry.tier, item.entry.scarcity, item.entry.keyId) then
        some (replenish (((decodeState q.fairness).keyDeficits.get? k).getD 0)
          (keyQuantum (q.alikes eligible excluded item.entry)) - 1)
      else (decodeState q.fairness).keyDeficits.get? k := by
  obtain ⟨keys, hfairness⟩ := h.charged
  rw [hfairness, decode_encode_keyDeficits, charge, Dict.get?_insert]
  split
  · next heq => rw [heq]
  · rfl

/-- A queue that an operation other than a commit leaves behind: it is a new version, its streak and
its class tables are those before, and a key deficit can only be lower. -/
structure Carries (q q' : WDRRQueue) : Prop where
  max_eq : q'.maxConsecutiveHigherGrants = q.maxConsecutiveHigherGrants
  version_eq : q'.version = q.version + 1
  streak_eq : q'.fairness.higherGrantStreak = q.fairness.higherGrantStreak
  phase_eq : ∀ t, WDRRQueue.classPhase q'.fairness t = WDRRQueue.classPhase q.fairness t
  deficit_le : ∀ k d', (decodeState q'.fairness).keyDeficits.get? k = some d' →
    ∃ d, (decodeState q.fairness).keyDeficits.get? k = some d ∧ d' ≤ d

theorem Carries.of_fairness_eq {q q' : WDRRQueue}
    (hm : q'.maxConsecutiveHigherGrants = q.maxConsecutiveHigherGrants)
    (hv : q'.version = q.version + 1) (h : q'.fairness = q.fairness) : Carries q q' := by
  refine ⟨hm, hv, ?_, fun t => ?_, fun k d' hd => ⟨d', ?_, le_rfl⟩⟩
  · rw [h]
  · rw [h]
  · rw [← h]
    exact hd

/-- The clamp of a contraction writes one key deficit and nothing else. -/
theorem clampDeficit_cases (f : FairnessState) (old : QueueEntry) (tier weight : Nat) :
    clampDeficit f old tier weight = f ∨
      ∃ k d, (decodeState f).keyDeficits.get? k = some d ∧ clampDeficit f old tier weight =
        encodeState { decodeState f with
          keyDeficits := (decodeState f).keyDeficits.insert k (min d (8 * weight)) }
          f.higherGrantStreak := by
  unfold clampDeficit
  simp only
  split
  · split
    · next d hd => exact Or.inr ⟨_, d, hd, rfl⟩
    · exact Or.inl rfl
  · exact Or.inl rfl

theorem contract_carries {q q' : WDRRQueue} {r : RequestId} {t w : Option Nat}
    {legs : Option (List AuthorizedLeg)} {e : QueueEntry}
    (h : q.contract r t w legs = .ok (e, q')) : Carries q q' := by
  unfold contract at h
  split at h
  · cases h
  · next i _ =>
    simp only [bind_eq_ok_iff] at h
    obtain ⟨_, -, _, -, ok, -, h⟩ := h
    simp only [pure, Except.pure, Except.ok.injEq, Prod.mk.injEq] at h
    obtain ⟨-, rfl⟩ := h
    rcases clampDeficit_cases q.fairness i.entry (t.getD i.entry.tier) (w.getD i.entry.weight) with
      hsame | ⟨k, d, hd, hclamp⟩
    · exact Carries.of_fairness_eq rfl rfl hsame
    · refine ⟨rfl, rfl, ?_, fun t => ?_, fun k' d' hd' => ?_⟩
      · rw [hclamp]
        rfl
      · simp only [WDRRQueue.classPhase, hclamp, decode_encode_classDeficits,
          decode_encode_classCursors]
      · rw [hclamp, decode_encode_keyDeficits, Dict.get?_insert] at hd'
        split at hd'
        · next heq =>
          cases hd'
          exact ⟨d, heq ▸ hd, Nat.min_le_left _ _⟩
        · exact ⟨d', hd', le_rfl⟩

/-! ## Histories -/

/-- A proposal made in a run, with the queue it was computed from. -/
structure Proposal where
  queue : WDRRQueue
  eligible : QueueEntry → Bool
  excluded : List RequestId
  selection : QueueSelection
  computed : queue.propose eligible excluded = some selection

namespace Proposal

/-- The items the proposal chose from. -/
def available (p : Proposal) : List Queued := p.queue.available p.eligible p.excluded

/-- The item it chose. -/
def granted (p : Proposal) : Option Queued := p.queue.queued.get? p.selection.entry.requestId

/-- It serves the top eligible tier past an eligible entry of a lower one. -/
def Higher (p : Proposal) : Prop :=
  topTier p.available = some p.selection.entry.tier ∧
    lowerItems p.available p.selection.entry.tier ≠ []

instance : DecidablePred Higher := fun _ => inferInstanceAs (Decidable (_ ∧ _))

/-- Both classes of the tier it serves have an eligible entry. -/
def BothClasses (p : Proposal) : Prop :=
  ∀ s, ∃ i ∈ p.available, i.entry.tier = p.selection.entry.tier ∧ i.entry.scarcity = s

/-- Where the entry of arrival number `n` is queued, it is eligible and of the key, the tier and the
class that are served. -/
def Alike (p : Proposal) (n : Nat) : Prop :=
  ∀ i ∈ p.queue.queued.values, i.sequence = n →
    i ∈ p.queue.alikes p.eligible p.excluded p.selection.entry

/-- The quantum it refills a key deficit with, when the one it reads is used up. -/
def refill (p : Proposal) (k : Nat × Scarcity × String) : Option Nat :=
  let e := p.selection.entry
  let quantum := keyQuantum (p.queue.alikes p.eligible p.excluded e)
  if k = (e.tier, e.scarcity, e.keyId) ∧
      min (((decodeState p.queue.fairness).keyDeficits.get? k).getD 0) (8 * quantum) = 0 then
    some quantum
  else none

theorem proposes (p : Proposal) : ∃ top i, Proposes p.queue p.eligible p.excluded p.selection top i :=
  propose_eq_some p.computed

/-- A proposal passes over a lower item exactly when it extends the streak. -/
theorem higher_iff {p : Proposal} {top : Nat} {i : Queued}
    (hp : Proposes p.queue p.eligible p.excluded p.selection top i) :
    p.Higher ↔ lowerItems p.available top ≠ [] ∧ i.entry.tier = top := by
  have htop : topTier p.available = some top := hp.top_eq
  rw [Higher, hp.entry_eq, htop, Option.some.injEq]
  constructor
  · intro ⟨heq, hlower⟩
    exact ⟨heq ▸ hlower, heq.symm⟩
  · intro ⟨hlower, heq⟩
    exact ⟨heq.symm, heq ▸ hlower⟩

/-- With an eligible entry of each class, the class served is the one under the cursor. -/
theorem scarcity_eq_cursor {p : Proposal} (hb : p.BothClasses) :
    p.selection.entry.scarcity = (classPhase p.queue.fairness p.selection.entry.tier).cursor := by
  obtain ⟨top, i, hp⟩ := p.proposes
  have hclass := hp.class_eq
  rw [← hp.entry_eq] at hclass
  rw [hclass]
  obtain ⟨j, hj, ht, hs⟩ := hb (classPhase p.queue.fairness p.selection.entry.tier).cursor
  unfold chooseClass
  apply if_pos
  exact List.mem_map.mpr ⟨j, List.mem_filter.mpr ⟨hj, by simpa using ht⟩, hs⟩

/-- The item chosen is stored under its own request. -/
theorem granted_eq {p : Proposal} (hc : p.queue.Coherent) {top : Nat} {i : Queued}
    (hp : Proposes p.queue p.eligible p.excluded p.selection top i) : p.granted = some i := by
  rw [granted, hp.entry_eq]
  exact hc.get?_of_mem (List.mem_filter.mp hp.mem).1

theorem refill_eq {p : Proposal} {top : Nat} {i : Queued}
    (hp : Proposes p.queue p.eligible p.excluded p.selection top i) (k : Nat × Scarcity × String) :
    p.refill k =
      if k = (i.entry.tier, i.entry.scarcity, i.entry.keyId) ∧
          min (((decodeState p.queue.fairness).keyDeficits.get? k).getD 0)
            (8 * keyQuantum (p.queue.alikes p.eligible p.excluded i.entry)) = 0 then
        some (keyQuantum (p.queue.alikes p.eligible p.excluded i.entry))
      else none := by
  rw [← hp.entry_eq]
  rfl

end Proposal

/-- A queue and what has happened to it: the requests enqueued, the oldest first, and the proposals
and the commits made, the newest first. -/
structure History where
  queue : WDRRQueue
  arrivals : List RequestId
  proposals : List Proposal
  commits : List Proposal

/-- One operation of a run; `commit` takes any proposal made before, by its position. -/
inductive QueueEvent where
  | enqueue (e : QueueEntry)
  | cancel (r : RequestId)
  | contract (r : RequestId) (tier weight : Option Nat) (legs : Option (List AuthorizedLeg))
  | propose (eligible : QueueEntry → Bool) (excluded : List RequestId)
  | commit (i : Nat)

namespace History

/-- A queue as constructed. -/
def start (maxConsecutiveHigherGrants : Nat) : History :=
  ⟨fresh maxConsecutiveHigherGrants, [], [], []⟩

/-- The history after an operation; a call that raises changes nothing. -/
def step (h : History) : QueueEvent → History
  | .enqueue e => match h.queue.enqueue e with
    | .ok q' => { h with queue := q', arrivals := h.arrivals ++ [e.requestId] }
    | .error _ => h
  | .cancel r => { h with queue := (h.queue.cancel r).2 }
  | .contract r tier weight legs => match h.queue.contract r tier weight legs with
    | .ok (_, q') => { h with queue := q' }
    | .error _ => h
  | .propose eligible excluded => match hp : h.queue.propose eligible excluded with
    | some selection =>
      { h with proposals := ⟨h.queue, eligible, excluded, selection, hp⟩ :: h.proposals }
    | none => h
  | .commit i => match h.proposals[i]? with
    | some p => match h.queue.commit p.selection with
      | .ok q' => { h with queue := q', commits := p :: h.commits }
      | .error _ => h
    | none => h

/-- The history after a run. -/
def run (h : History) (events : List QueueEvent) : History := events.foldl step h

/-- The quantum a key deficit was last refilled with. -/
def lastRefill (commits : List Proposal) (k : Nat × Scarcity × String) : Option Nat :=
  commits.findSome? fun p => p.refill k

/-- The commits of a tier, the newest first. -/
def commitsOf (h : History) (t : Nat) : List Proposal :=
  h.commits.filter fun p => p.selection.entry.tier == t

/-- **Tier aging, class ratio and order of arrival** over the commits of a history. -/
structure Fair (maxConsecutiveHigherGrants : Nat) (h : History) : Prop where
  aging : ∀ segment, segment <:+: h.commits → (∀ p ∈ segment, p.Higher) →
    segment.length ≤ maxConsecutiveHigherGrants
  ratio : ∀ t a b c, [c, b, a] <:+: h.commitsOf t → (∀ p ∈ [c, b, a], p.BothClasses) →
    [c, b, a].countP (fun p => p.selection.entry.scarcity == .scarce) = 2 ∧
      [c, b, a].countP (fun p => p.selection.entry.scarcity == .flexible) = 1
  arrival : ∀ p ∈ h.commits, ∃ i, p.granted = some i ∧ i.entry = p.selection.entry ∧
    h.arrivals[i.sequence]? = some i.entry.requestId
  fifo : h.commits.Pairwise fun later earlier => ∀ i j, later.granted = some i →
    earlier.granted = some j → earlier.Alike i.sequence → j.sequence < i.sequence
  classDeficit : ∀ t s d, (decodeState h.queue.fairness).classDeficits.get? (t, s) = some d →
    d < s.quantum
  keyDeficit : ∀ k d, (decodeState h.queue.fairness).keyDeficits.get? k = some d →
    ∃ quantum, lastRefill h.commits k = some quantum ∧ d < quantum

/-! ## What a step does -/

/-- One step of a history: nothing, an arrival, an operation that carries the fairness state over, a
proposal, or the commit of a proposal computed from this very queue. -/
inductive Moved (h : History) : History → Prop where
  | idle : Moved h h
  | enqueued (e : QueueEntry) (habs : h.queue.queued.get? e.requestId = none) :
      Moved h
        { h with
          queue :=
            { h.queue with
              queued := h.queue.queued.insert e.requestId ⟨e, h.queue.nextSequence⟩
              nextSequence := h.queue.nextSequence + 1
              version := h.queue.version + 1 }
          arrivals := h.arrivals ++ [e.requestId] }
  | carried (q' : WDRRQueue) (hc : Carries h.queue q') (hcoherent : q'.Coherent)
      (hn : q'.nextSequence = h.queue.nextSequence)
      (items : ∀ r i, q'.queued.get? r = some i →
        ∃ i₀, h.queue.queued.get? r = some i₀ ∧ i₀.sequence = i.sequence) :
      Moved h { h with queue := q' }
  | proposed (p : Proposal) (hq : p.queue = h.queue) :
      Moved h { h with proposals := p :: h.proposals }
  | committed (p : Proposal) (hq : p.queue = h.queue) :
      Moved h
        { h with
          queue :=
            { h.queue with
              fairness := p.selection.fairness
              queued := h.queue.queued.erase p.selection.entry.requestId
              version := h.queue.version + 1 }
          commits := p :: h.commits }

/-- The table is coherent, and a proposal of the current version was computed from this queue. -/
structure Sound (h : History) : Prop where
  coherent : h.queue.Coherent
  version_le : ∀ p ∈ h.proposals, p.queue.version ≤ h.queue.version
  current : ∀ p ∈ h.proposals, p.queue.version = h.queue.version → p.queue = h.queue

/-- **The step lemma.** -/
theorem Sound.moved {h : History} (hs : Sound h) (event : QueueEvent) :
    Moved h (h.step event) := by
  cases event with
  | enqueue e =>
    simp only [step]
    split
    · next q' hok =>
      obtain ⟨habs, rfl⟩ := enqueue_eq_ok hok
      exact .enqueued e habs
    · exact .idle
  | cancel r =>
    have hcoherent := (step_itemEffect hs.coherent (.cancel r)).coherent hs.coherent
    simp only [step]
    simp only [WDRRQueue.step, WDRRQueue.cancel] at hcoherent ⊢
    split
    · next hin =>
      rw [if_pos hin] at hcoherent
      refine .carried _ (Carries.of_fairness_eq rfl rfl rfl) hcoherent rfl fun r' i hi => ⟨i, ?_, rfl⟩
      rw [Dict.get?_erase] at hi
      split at hi
      · cases hi
      · exact hi
    · exact .idle
  | contract r tier weight legs =>
    have hcoherent := (step_itemEffect hs.coherent (.contract r tier weight legs)).coherent hs.coherent
    simp only [step]
    simp only [WDRRQueue.step] at hcoherent
    split
    · next e q' hok =>
      rw [hok] at hcoherent
      obtain ⟨i₀, hi₀, -, -, -, hqueued, hn, -⟩ := contract_spec hok
      refine .carried q' (contract_carries hok) hcoherent hn fun r' i hi => ?_
      rw [hqueued, Dict.get?_insert] at hi
      split at hi
      · next heq =>
        cases hi
        exact ⟨i₀, heq ▸ hi₀, rfl⟩
      · exact ⟨i, hi, rfl⟩
    · exact .idle
  | propose eligible excluded =>
    simp only [step]
    split
    · exact .proposed _ rfl
    · exact .idle
  | commit n =>
    simp only [step]
    split
    · next p hp =>
      split
      · next q' hok =>
        have hq' := commit_eq_ok hok
        have hversion : p.selection.queueVersion = h.queue.version := by
          unfold commit at hok
          split at hok
          · next hfresh => exact hfresh.1
          · cases hok
        obtain ⟨top, i, hi⟩ := p.proposes
        have hcurrent := hs.current p (List.mem_of_getElem? hp) (hi.version_eq.symm.trans hversion)
        subst hq'
        exact .committed p hcurrent
      · exact .idle
    · exact .idle

theorem Sound.of_moved {h h' : History} (hs : Sound h) (hm : Moved h h') : Sound h' := by
  -- A new version has no proposal yet, so nothing is claimed of the old ones.
  have hnew : ∀ q' : WDRRQueue, q'.version = h.queue.version + 1 → q'.Coherent →
      ∀ arrivals commits, Sound ⟨q', arrivals, h.proposals, commits⟩ := by
    intro q' hversion hc arrivals commits
    refine ⟨hc, fun p hp => ?_, fun p hp heq => ?_⟩ <;> have := hs.version_le p hp <;>
      simp only [hversion] at * <;> omega
  cases hm with
  | idle => exact hs
  | enqueued e habs =>
    exact hnew _ rfl ((ItemEffect.added e habs rfl rfl).coherent hs.coherent) _ _
  | carried q' hc hcoherent hn items => exact hnew _ hc.version_eq hcoherent _ _
  | proposed p hq =>
    refine ⟨hs.coherent, fun p' hp => ?_, fun p' hp heq => ?_⟩
    · rcases List.mem_cons.mp hp with rfl | hp
      · rw [hq]
      · exact hs.version_le p' hp
    · rcases List.mem_cons.mp hp with rfl | hp
      · exact hq
      · exact hs.current p' hp heq
  | committed p hq =>
    refine hnew _ rfl ⟨fun hg => ?_, fun hg => ?_⟩ _ _
    all_goals
      rw [Dict.get?_erase] at hg
      split at hg
      · cases hg
    · exact hs.coherent.requestId_eq hg
    · exact hs.coherent.sequence_lt hg

/-- **The run lemma.** What holds of a fresh queue and is kept by every step of a sound history holds
along every run. -/
theorem run_invariant {m : Nat} {I : History → Prop} (hstart : I (start m))
    (hstep : ∀ h h', Sound h → I h → Moved h h' → I h') (events : List QueueEvent) :
    I ((start m).run events) := by
  have hsound : Sound (start m) :=
    ⟨coherent_fresh m, fun _ hp => (by cases hp), fun _ hp => (by cases hp)⟩
  generalize start m = h at hstart hsound
  induction events generalizing h with
  | nil => exact hstart
  | cons event rest ih =>
    have hm := hsound.moved event
    exact ih _ (hstep h _ hsound hstart hm) (hsound.of_moved hm)

/-! ## Tier aging -/

/-- The streak counts the newest commits that passed over a lower item. -/
structure Ages (m : Nat) (h : History) : Prop where
  max_eq : h.queue.maxConsecutiveHigherGrants = m
  streak_eq : h.queue.fairness.higherGrantStreak =
    (h.commits.takeWhile fun p => decide p.Higher).length
  streak_le : h.queue.fairness.higherGrantStreak ≤ m
  aging : ∀ segment, segment <:+: h.commits → (∀ p ∈ segment, p.Higher) → segment.length ≤ m

theorem Ages.start (m : Nat) : Ages m (start m) := by
  refine ⟨rfl, rfl, Nat.zero_le m, fun segment hseg _ => ?_⟩
  rw [List.infix_nil.mp hseg]
  exact Nat.zero_le m

/-- A run of higher commits that starts with the newest is part of the streak. -/
theorem length_le_takeWhile {segment commits : List Proposal} (hpre : segment <+: commits)
    (hall : ∀ p ∈ segment, p.Higher) :
    segment.length ≤ (commits.takeWhile fun p => decide p.Higher).length := by
  obtain ⟨rest, rfl⟩ := hpre
  rw [List.takeWhile_append_of_pos fun p hp => decide_eq_true (hall p hp), List.length_append]
  omega

theorem Ages.of_moved {m : Nat} {h h' : History} (ha : Ages m h) (hm : Moved h h') : Ages m h' := by
  cases hm with
  | idle => exact ha
  | enqueued e habs => exact ⟨ha.max_eq, ha.streak_eq, ha.streak_le, ha.aging⟩
  | carried q' hc _ hn items =>
    exact ⟨hc.max_eq.trans ha.max_eq, hc.streak_eq.trans ha.streak_eq,
      hc.streak_eq.trans_le ha.streak_le, ha.aging⟩
  | proposed p hq => exact ⟨ha.max_eq, ha.streak_eq, ha.streak_le, ha.aging⟩
  | committed p hq =>
    obtain ⟨top, i, hp⟩ := p.proposes
    -- The streak grows by one with a higher commit, and starts over with any other.
    have hstreak : p.selection.fairness.higherGrantStreak =
        ((p :: h.commits).takeWhile fun p => decide p.Higher).length := by
      rw [hp.streak, hq, ha.streak_eq, List.takeWhile_cons]
      by_cases hh : p.Higher
      · have hlower := (Proposal.higher_iff hp).mp hh
        rw [Proposal.available, hq] at hlower
        rw [if_pos hlower, if_pos (decide_eq_true hh), List.length_cons]
      · have hlower := mt (Proposal.higher_iff hp).mpr hh
        rw [Proposal.available, hq] at hlower
        rw [if_neg hlower, if_neg (by simpa using hh), List.length_nil]
    have hle : p.selection.fairness.higherGrantStreak ≤ m := by
      rw [hp.streak]
      split
      · next hlower =>
        have hlt := hp.streak_lt hlower.1 hlower.2
        rw [hq, ha.max_eq] at hlt
        rw [hq]
        exact hlt
      · exact Nat.zero_le m
    refine ⟨ha.max_eq, hstreak, hle, fun segment hseg hall => ?_⟩
    rcases List.infix_cons_iff.mp hseg with hpre | hseg
    · exact (length_le_takeWhile hpre hall).trans (hstreak.symm.trans_le hle)
    · exact ha.aging segment hseg hall

/-! ## The class ratio -/

/-- The phase of a tier after its commits, the newest first. -/
def rotation (commits : List Proposal) : ClassPhase :=
  commits.foldr (fun p phase => phase.served p.selection.entry.scarcity) ⟨.scarce, 0, 0⟩

/-- The phase of a tier is what its commits have made of it, at each of them and now. -/
structure Rotates (h : History) : Prop where
  phase_eq : ∀ t, classPhase h.queue.fairness t = rotation (h.commitsOf t)
  phases_eq : ∀ t p older, p :: older <:+ h.commitsOf t →
    classPhase p.queue.fairness t = rotation older

theorem Rotates.start (m : Nat) : Rotates (start m) :=
  ⟨fun _ => rfl, fun _ _ _ h => absurd (List.suffix_nil.mp h) (List.cons_ne_nil _ _)⟩

theorem Rotates.of_moved {h h' : History} (hr : Rotates h) (hm : Moved h h') : Rotates h' := by
  cases hm with
  | idle => exact hr
  | enqueued e habs => exact ⟨hr.phase_eq, hr.phases_eq⟩
  | carried q' hc _ hn items => exact ⟨fun t => (hc.phase_eq t).trans (hr.phase_eq t), hr.phases_eq⟩
  | proposed p hq => exact ⟨hr.phase_eq, hr.phases_eq⟩
  | committed p hq =>
    obtain ⟨top, i, hp⟩ := p.proposes
    have hcons : ∀ t, commitsOf { h with commits := p :: h.commits } t =
        if p.selection.entry.tier = t then p :: h.commitsOf t else h.commitsOf t := by
      intro t
      simp only [commitsOf, List.filter_cons, beq_iff_eq]
    refine ⟨fun t => ?_, fun t p' older hsuf => ?_⟩
    · show classPhase p.selection.fairness t =
        rotation (commitsOf { h with commits := p :: h.commits } t)
      rw [hp.classPhase, hcons, hq, hr.phase_eq, ← hp.entry_eq]
      split <;> rfl
    · change p' :: older <:+ commitsOf { h with commits := p :: h.commits } t at hsuf
      rw [hcons] at hsuf
      split at hsuf
      · rcases List.suffix_cons_iff.mp hsuf with heq | hsuf
        · cases heq
          rw [hq]
          exact hr.phase_eq t
        · exact hr.phases_eq t p' older hsuf
      · exact hr.phases_eq t p' older hsuf

/-- A tier is at one of three places: two scarce grants to go, one to go, or a flexible one. -/
theorem rotation_cases (commits : List Proposal) :
    rotation commits = ⟨.scarce, 0, 0⟩ ∨ rotation commits = ⟨.scarce, 1, 0⟩ ∨
      rotation commits = ⟨.flexible, 0, 0⟩ := by
  induction commits with
  | nil => exact Or.inl rfl
  | cons p older ih =>
    show (rotation older).served _ = _ ∨ (rotation older).served _ = _ ∨
      (rotation older).served _ = _
    rcases ih with h | h | h <;> rw [h] <;> cases p.selection.entry.scarcity <;> decide

theorem Rotates.ratio {h : History} (hr : Rotates h) {t : Nat} {a b c : Proposal}
    (hseg : [c, b, a] <:+: h.commitsOf t) (hboth : ∀ p ∈ [c, b, a], p.BothClasses) :
    [c, b, a].countP (fun p => p.selection.entry.scarcity == .scarce) = 2 ∧
      [c, b, a].countP (fun p => p.selection.entry.scarcity == .flexible) = 1 := by
  obtain ⟨newer, older, hlist⟩ := hseg
  -- Each of the three serves the class its tier has come to.
  have hserved : ∀ p rest, p ∈ [c, b, a] → p :: rest <:+ h.commitsOf t →
      p.selection.entry.scarcity = (rotation rest).cursor := by
    intro p rest hp hsuf
    have htier : p.selection.entry.tier = t := by
      have hmem := (List.mem_filter.mp (hsuf.subset List.mem_cons_self)).2
      exact eq_of_beq hmem
    rw [Proposal.scarcity_eq_cursor (hboth p hp), htier, hr.phases_eq t p rest hsuf]
  have ha := hserved a older (by simp) ⟨newer ++ [c, b], by rw [← hlist]; simp⟩
  have hb := hserved b (a :: older) (by simp) ⟨newer ++ [c], by rw [← hlist]; simp⟩
  have hc := hserved c (b :: a :: older) (by simp) ⟨newer, by rw [← hlist]; simp⟩
  change _ = ((rotation older).served _).cursor at hb
  change _ = (((rotation older).served _).served _).cursor at hc
  rw [ha] at hb
  rw [hb, ha] at hc
  simp only [List.countP_cons, List.countP_nil, ha, hb, hc]
  rcases rotation_cases older with h | h | h <;> rw [h] <;> decide

theorem Rotates.classDeficit {h : History} (hr : Rotates h) {t : Nat} {s : Scarcity} {d : Nat}
    (hd : (decodeState h.queue.fairness).classDeficits.get? (t, s) = some d) : d < s.quantum := by
  have hphase := hr.phase_eq t
  have hscarce := congrArg ClassPhase.scarceDeficit hphase
  have hflexible := congrArg ClassPhase.flexibleDeficit hphase
  simp only [classPhase] at hscarce hflexible
  have hbounds : (rotation (h.commitsOf t)).scarceDeficit < 2 ∧
      (rotation (h.commitsOf t)).flexibleDeficit < 1 := by
    rcases rotation_cases (h.commitsOf t) with h | h | h <;> rw [h] <;> decide
  cases s with
  | scarce =>
    rw [hd] at hscarce
    exact hscarce.trans_lt hbounds.1
  | flexible =>
    rw [hd] at hflexible
    exact hflexible.trans_lt hbounds.2

/-! ## The key deficits -/

/-- Every stored key deficit is below the quantum it was last refilled with. -/
def Refilled (h : History) : Prop :=
  ∀ k d, (decodeState h.queue.fairness).keyDeficits.get? k = some d →
    ∃ quantum, lastRefill h.commits k = some quantum ∧ d < quantum

theorem Refilled.of_moved {h h' : History} (hr : Refilled h) (hm : Moved h h') : Refilled h' := by
  cases hm with
  | idle => exact hr
  | enqueued e habs => exact hr
  | carried q' hc _ hn items =>
    intro k d' hd'
    obtain ⟨d, hd, hle⟩ := hc.deficit_le k d' hd'
    obtain ⟨quantum, hlast, hlt⟩ := hr k d hd
    exact ⟨quantum, hlast, by omega⟩
  | proposed p hq => exact hr
  | committed p hq =>
    obtain ⟨top, i, hp⟩ := p.proposes
    intro k d hd
    change (decodeState p.selection.fairness).keyDeficits.get? k = some d at hd
    rw [hp.keyDeficit] at hd
    have hpos := (keyQuantum_bounds (List.ne_nil_of_mem hp.mem_self)).1
    have hrefill := Proposal.refill_eq hp k
    simp only [lastRefill, List.findSome?_cons]
    split at hd
    · next hk =>
      have hd := Option.some.inj hd
      by_cases hz : min (((decodeState p.queue.fairness).keyDeficits.get? k).getD 0)
          (8 * keyQuantum (p.queue.alikes p.eligible p.excluded i.entry)) = 0
      · -- The deficit was used up: the commit refills it and charges one.
        rw [if_pos ⟨hk, hz⟩] at hrefill
        rw [hrefill]
        refine ⟨_, rfl, ?_⟩
        unfold replenish at hd
        simp only [hz, if_true] at hd
        omega
      · -- Some of it was left, so it is stored and below its last refill already.
        rw [if_neg fun h => hz h.2] at hrefill
        rw [hrefill]
        cases hstored : (decodeState p.queue.fairness).keyDeficits.get? k with
        | none => simp [hstored] at hz
        | some stored =>
          obtain ⟨quantum, hlast, hlt⟩ := hr k stored (hq ▸ hstored)
          refine ⟨quantum, hlast, ?_⟩
          rw [hstored, Option.getD_some] at hd hz
          unfold replenish at hd
          simp only [hz, if_false] at hd
          omega
    · next hk =>
      rw [if_neg fun h => hk h.1] at hrefill
      rw [hrefill]
      exact hr k d (hq ▸ hd)

/-! ## Order of arrival -/

/-- The arrival numbers of a queue are positions in the list of arrivals. -/
def Numbered (arrivals : List RequestId) (q : WDRRQueue) : Prop :=
  ∀ r i, q.queued.get? r = some i → arrivals[i.sequence]? = some r

/-- What an entry that waits now was when an earlier proposal `p` was committed: it had not arrived,
or it was queued beside the entry granted. -/
structure Since (h : History) (p : Proposal) : Prop where
  coherent : p.queue.Coherent
  numbered : Numbered h.arrivals p.queue
  next_le : p.queue.nextSequence ≤ h.queue.nextSequence
  waited : ∀ r i, h.queue.queued.get? r = some i → i.sequence < p.queue.nextSequence →
    r ≠ p.selection.entry.requestId ∧
      ∃ i₀, p.queue.queued.get? r = some i₀ ∧ i₀.sequence = i.sequence

/-- Entries leave the queue in the order they came, as far as they were eligible together. -/
structure InOrder (h : History) : Prop where
  count : h.queue.nextSequence = h.arrivals.length
  numbered : Numbered h.arrivals h.queue
  since : ∀ p ∈ h.commits, Since h p
  fifo : h.commits.Pairwise fun later earlier => ∀ i j, later.granted = some i →
    earlier.granted = some j → earlier.Alike i.sequence → j.sequence < i.sequence

theorem InOrder.start (m : Nat) : InOrder (start m) :=
  ⟨rfl, fun _ _ h => (by cases h), fun _ hp => (by cases hp), List.Pairwise.nil⟩

theorem Numbered.append {arrivals : List RequestId} {q : WDRRQueue} (h : Numbered arrivals q)
    (more : List RequestId) : Numbered (arrivals ++ more) q := by
  intro r i hi
  have hlt := (List.getElem?_eq_some_iff.mp (h r i hi)).1
  rw [List.getElem?_append_left hlt]
  exact h r i hi

/-- An entry queued at a commit came before all that arrived later and, where the two were alike, all
that waited beside it. -/
theorem Since.sequence_lt {h : History} {p : Proposal} (hs : Since h p) {i j : Queued} {r : RequestId}
    (hi : h.queue.queued.get? r = some i) (hj : p.granted = some j) (halike : p.Alike i.sequence) :
    j.sequence < i.sequence := by
  obtain ⟨top, j', hp⟩ := p.proposes
  rw [Proposal.granted_eq hs.coherent hp] at hj
  cases hj
  by_cases hlt : i.sequence < p.queue.nextSequence
  · obtain ⟨hne, i₀, hi₀, hseq⟩ := hs.waited r i hi hlt
    have hmember := halike i₀ (Dict.mem_values_iff.mpr ⟨r, hi₀⟩) hseq
    rw [hp.entry_eq] at hmember
    have hle : j.sequence ≤ i₀.sequence := by
      have harrival := hp.first i₀ hmember
      rcases Prod.Lex.toLex_le_toLex.mp harrival with hlt | ⟨heq, -⟩
      · exact hlt.le
      · exact heq.le
    -- One arrival number is one request, and the granted one is not the one that waits.
    have hj := hs.coherent.get?_of_mem (List.mem_filter.mp hp.mem).1
    have hne' : j.sequence ≠ i₀.sequence := by
      intro heq
      have hr := (hs.numbered r i₀ hi₀).symm.trans (heq ▸ hs.numbered _ j hj)
      rw [hp.entry_eq] at hne
      exact hne (Option.some.inj hr)
    omega
  · have hj := hs.coherent.get?_of_mem (List.mem_filter.mp hp.mem).1
    have := hs.coherent.sequence_lt hj
    omega

/-- Every item of the new table waited in the old one under the same arrival number. -/
theorem Since.of_items {h : History} {p : Proposal} (hs : Since h p) {q' : WDRRQueue}
    (hn : q'.nextSequence = h.queue.nextSequence) (proposals commits : List Proposal)
    (items : ∀ r i, q'.queued.get? r = some i →
      ∃ i₀, h.queue.queued.get? r = some i₀ ∧ i₀.sequence = i.sequence) :
    Since ⟨q', h.arrivals, proposals, commits⟩ p := by
  refine ⟨hs.coherent, hs.numbered, hs.next_le.trans hn.ge, fun r i hi hlt => ?_⟩
  obtain ⟨i₁, hi₁, hseq⟩ := items r i hi
  rw [← hseq] at hlt ⊢
  exact hs.waited r i₁ hi₁ hlt

theorem Since.enqueued {h : History} {p : Proposal} (hs : Since h p) (e : QueueEntry) :
    Since
      { h with
        queue :=
          { h.queue with
            queued := h.queue.queued.insert e.requestId ⟨e, h.queue.nextSequence⟩
            nextSequence := h.queue.nextSequence + 1
            version := h.queue.version + 1 }
        arrivals := h.arrivals ++ [e.requestId] } p := by
  refine ⟨hs.coherent, hs.numbered.append _, hs.next_le.trans (Nat.le_succ _), fun r i hi hlt => ?_⟩
  rw [Dict.get?_insert] at hi
  split at hi
  · -- The new entry has the next number, which no earlier queue had given.
    cases hi
    have := hs.next_le
    dsimp only at hlt
    omega
  · exact hs.waited r i hi hlt

theorem InOrder.of_moved {h h' : History} (hsound : Sound h) (ho : InOrder h) (hm : Moved h h') :
    InOrder h' := by
  cases hm with
  | idle => exact ho
  | enqueued e habs =>
    refine ⟨?_, fun r i hi => ?_, fun p hp => (ho.since p hp).enqueued e, ho.fifo⟩
    · rw [List.length_append, ← ho.count]
      rfl
    · rw [Dict.get?_insert] at hi
      split at hi
      · next heq =>
        cases hi
        rw [ho.count, List.getElem?_concat_length, heq]
      · exact ho.numbered.append _ r i hi
  | carried q' hc _ hn items =>
    refine ⟨hn.trans ho.count, fun r i hi => ?_, fun p hp => (ho.since p hp).of_items hn _ _ items,
      ho.fifo⟩
    obtain ⟨i₀, hi₀, hseq⟩ := items r i hi
    rw [← hseq]
    exact ho.numbered r i₀ hi₀
  | proposed p hq =>
    refine ⟨ho.count, ho.numbered, fun p' hp' => ?_, ho.fifo⟩
    exact (ho.since p' hp').of_items rfl _ _ fun r i hi => ⟨i, hi, rfl⟩
  | committed p hq =>
    have hkept : ∀ r i, (h.queue.queued.erase p.selection.entry.requestId).get? r = some i →
        r ≠ p.selection.entry.requestId ∧ h.queue.queued.get? r = some i := by
      intro r i hi
      rw [Dict.get?_erase] at hi
      split at hi
      · cases hi
      · next hne => exact ⟨hne, hi⟩
    refine ⟨ho.count, fun r i hi => ho.numbered r i (hkept r i hi).2, fun p' hp' => ?_, ?_⟩
    · rcases List.mem_cons.mp hp' with rfl | hp'
      · refine ⟨hq ▸ hsound.coherent, hq ▸ ho.numbered, hq ▸ le_rfl, fun r i hi _ => ?_⟩
        exact ⟨(hkept r i hi).1, i, hq ▸ (hkept r i hi).2, rfl⟩
      · refine (ho.since p' hp').of_items ?_ _ _ fun r i hi => ?_
        · rfl
        · exact ⟨i, (hkept r i hi).2, rfl⟩
    · refine List.Pairwise.cons (fun earlier he i j hi hj halike => ?_) ho.fifo
      rw [Proposal.granted, hq] at hi
      exact (ho.since earlier he).sequence_lt hi hj halike

theorem InOrder.arrival {h : History} (ho : InOrder h) {p : Proposal} (hp : p ∈ h.commits) :
    ∃ i, p.granted = some i ∧ i.entry = p.selection.entry ∧
      h.arrivals[i.sequence]? = some i.entry.requestId := by
  have hs := ho.since p hp
  obtain ⟨top, i, hi⟩ := p.proposes
  have hmem := (List.mem_filter.mp hi.mem).1
  exact ⟨i, Proposal.granted_eq hs.coherent hi, hi.entry_eq.symm,
    hs.numbered _ i (hs.coherent.get?_of_mem hmem)⟩

/-- **Every run is fair.** Whatever is enqueued, cancelled, contracted, proposed over any eligible part
of the queue, abandoned or committed: no more than the configured number of consecutive commits pass
over an eligible entry of a lower tier; three consecutive commits of a tier with both classes eligible
are two scarce and one flexible; entries of one key, tier and class that are eligible together leave
in the order they were enqueued; and a stored deficit is below the quantum it was refilled with. -/
theorem run_fair (maxConsecutiveHigherGrants : Nat) (events : List QueueEvent) :
    ((start maxConsecutiveHigherGrants).run events).Fair maxConsecutiveHigherGrants := by
  have hages := run_invariant (Ages.start maxConsecutiveHigherGrants)
    (fun _ _ _ hi hm => hi.of_moved hm) events
  have hrotates := run_invariant (Rotates.start maxConsecutiveHigherGrants)
    (fun _ _ _ hi hm => hi.of_moved hm) events
  have horder := run_invariant (InOrder.start maxConsecutiveHigherGrants)
    (fun _ _ hs hi hm => hi.of_moved hs hm) events
  have hrefilled := run_invariant (m := maxConsecutiveHigherGrants) (I := Refilled)
    (fun _ _ hd => (by cases hd)) (fun _ _ _ hi hm => hi.of_moved hm) events
  exact
    { aging := hages.aging
      ratio := fun t a b c => hrotates.ratio
      arrival := fun p hp => horder.arrival hp
      fifo := horder.fifo
      classDeficit := fun t s d => hrotates.classDeficit
      keyDeficit := hrefilled }

end History

end WDRRQueue

end LlmMaxxing
