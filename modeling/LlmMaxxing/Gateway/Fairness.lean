import LlmMaxxing.Gateway.QueueLaws
import Mathlib.Data.Finset.Card

/-!
# Waiting time in the fair queue

A run is any sequence of `enqueue`, `cancel`, `contract` and grants (a proposal over the whole
queue and its commit). An entry waits while it keeps its place in one tier and one class. With
at most two keys in that class the wait is bounded by `65` grants of the class for each entry of
its own key ahead of it, plus `64`: the potential `65 * ahead + debt` drops at every grant of
the class and never rises. With three keys there is no bound: the cyclic order is recomputed
from the first queued arrivals, so two keys that re-enqueue in turn hand the cursor to each
other past the third.
-/

namespace LlmMaxxing

open Check

/-! ## Runs -/

/-- One operation on the queue; `grant` is a proposal with every entry eligible and none
excluded, followed by its commit. -/
inductive QueueOp where
  | enqueue (e : QueueEntry)
  | cancel (r : RequestId)
  | contract (r : RequestId) (tier weight : Option Nat) (legs : Option (List AuthorizedLeg))
  | grant

namespace WDRRQueue

/-- The state after an operation; a call that raises changes nothing. -/
def step (q : WDRRQueue) : QueueOp → WDRRQueue
  | .enqueue e => match q.enqueue e with
    | .ok q' => q'
    | .error _ => q
  | .cancel r => (q.cancel r).2
  | .contract r tier weight legs => match q.contract r tier weight legs with
    | .ok (_, q') => q'
    | .error _ => q
  | .grant => match q.grant with
    | some (_, q') => q'
    | none => q

/-- The entry an operation grants. -/
def granted (q : WDRRQueue) : QueueOp → Option QueueEntry
  | .grant => q.grant.map Prod.fst
  | _ => none

/-- The state after a run. -/
def run (q : WDRRQueue) (ops : List QueueOp) : WDRRQueue := ops.foldl step q

/-- The states of a run, the first included. -/
def trace (q : WDRRQueue) : List QueueOp → List WDRRQueue
  | [] => [q]
  | op :: ops => q :: (q.step op).trace ops

/-- The number of grants of one tier and class in a run. -/
def grantsIn (t : Nat) (s : Scarcity) (q : WDRRQueue) : List QueueOp → Nat
  | [] => 0
  | op :: ops =>
    ((q.granted op).filter fun e => e.tier == t && e.scarcity == s).toList.length +
      grantsIn t s (q.step op) ops

/-- The request is queued in the class with this arrival number. -/
def Waits (q : WDRRQueue) (r : RequestId) (sequence t : Nat) (s : Scarcity) : Prop :=
  ∃ item, q.queued.get? r = some item ∧ item.sequence = sequence ∧ item.entry.tier = t ∧
    item.entry.scarcity = s

/-- `key_position`, zero when the request is not queued. -/
def position (q : WDRRQueue) (r : RequestId) : Nat :=
  match q.keyPosition r with
  | .ok n => n
  | .error _ => 0

/-- A queue as constructed. -/
def fresh (maxConsecutiveHigherGrants : Nat) : WDRRQueue := { maxConsecutiveHigherGrants }

/-! ## What the other operations do -/

/-- The entries of `key` that arrived before `a`. -/
def ahead (q : WDRRQueue) (key : String) (a : Nat ×ₗ String) : Nat :=
  q.queued.values.countP fun item => decide (item.entry.keyId = key ∧ item.arrival < a)

/-- A step that moves no cursor and only lowers deficits, keeping which ones are used up. -/
structure Quiet (q q' : WDRRQueue) : Prop where
  cursor_eq : ∀ t s, q'.cursor t s = q.cursor t s
  deficit_le : ∀ t s key, q'.keyDeficit t s key ≤ q.keyDeficit t s key
  deficit_zero : ∀ t s key, q'.keyDeficit t s key = 0 → q.keyDeficit t s key = 0

theorem Quiet.of_fairness_eq {q q' : WDRRQueue} (h : q'.fairness = q.fairness) : Quiet q q' where
  cursor_eq _ _ := by rw [cursor, cursor, h]
  deficit_le _ _ _ := by rw [keyDeficit, keyDeficit, h]
  deficit_zero _ _ _ := by rw [keyDeficit, keyDeficit, h]; exact id

theorem clampDeficit_cursor (f : FairnessState) (old : QueueEntry) (tier weight : Nat)
    (k : Nat × Scarcity) :
    (decodeState (clampDeficit f old tier weight)).keyCursors.get? k =
      (decodeState f).keyCursors.get? k := by
  unfold clampDeficit
  simp only
  split
  · split
    · exact decode_encode_keyCursors _ _ _
    · rfl
  · rfl

/-- The clamp keeps every deficit but one, which becomes its minimum with a positive bound. -/
theorem clampDeficit_deficit (f : FairnessState) (old : QueueEntry) (tier : Nat) {weight : Nat}
    (hw : 1 ≤ weight) (k : Nat × Scarcity × String) :
    ∃ bound, 0 < bound ∧
      ((decodeState (clampDeficit f old tier weight)).keyDeficits.get? k).getD 0 =
        min (((decodeState f).keyDeficits.get? k).getD 0) bound := by
  have hsame : ∃ bound, 0 < bound ∧ (((decodeState f).keyDeficits.get? k).getD 0) =
      min (((decodeState f).keyDeficits.get? k).getD 0) bound :=
    ⟨((decodeState f).keyDeficits.get? k).getD 0 + 1, by omega, by omega⟩
  unfold clampDeficit
  simp only
  split
  · split
    · next d hd =>
      by_cases hk : k = (old.tier, old.scarcity, old.keyId)
      · refine ⟨8 * weight, by omega, ?_⟩
        rw [decode_encode_keyDeficits, hk, hd, Dict.get?_insert_self]
        rfl
      · rw [decode_encode_keyDeficits, Dict.get?_insert_of_ne _ _ hk]
        exact hsame
    · exact hsame
  · exact hsame

/-- A successful contraction keeps the request, its key, its class and its arrival. -/
theorem contract_spec {q q' : WDRRQueue} {r : RequestId} {tier weight : Option Nat}
    {legs : Option (List AuthorizedLeg)} {e : QueueEntry}
    (h : q.contract r tier weight legs = .ok (e, q')) :
    ∃ item, q.queued.get? r = some item ∧ e.requestId = item.entry.requestId ∧
      e.keyId = item.entry.keyId ∧ e.scarcity = item.entry.scarcity ∧
      q'.queued = q.queued.insert r ⟨e, item.sequence⟩ ∧ q'.nextSequence = q.nextSequence ∧
      Quiet q q' := by
  unfold contract at h
  split at h
  · cases h
  · next item hitem =>
    simp only [bind_eq_ok_iff] at h
    obtain ⟨_, -, _, -, ok, hok, h⟩ := h
    simp only [pure, Except.pure, Except.ok.injEq, Prod.mk.injEq] at h
    obtain ⟨rfl, rfl⟩ := h
    refine ⟨item, hitem, rfl, rfl, rfl, rfl, rfl, ?_⟩
    have hw := ok.down.weight_pos
    refine ⟨fun t s => clampDeficit_cursor _ _ _ _ _, fun t s key => ?_, fun t s key hz => ?_⟩
    · obtain ⟨bound, hb, heq⟩ := clampDeficit_deficit q.fairness item.entry
        (tier.getD item.entry.tier) hw (t, s, key)
      exact heq.trans_le (Nat.min_le_left _ _)
    · obtain ⟨bound, hb, heq⟩ := clampDeficit_deficit q.fairness item.entry
        (tier.getD item.entry.tier) hw (t, s, key)
      have hz' := heq.symm.trans hz
      simp only [keyDeficit]
      omega

theorem enqueue_eq_ok {q q' : WDRRQueue} {e : QueueEntry} (h : q.enqueue e = .ok q') :
    q.queued.get? e.requestId = none ∧
      q' = { q with
        queued := q.queued.insert e.requestId ⟨e, q.nextSequence⟩
        nextSequence := q.nextSequence + 1
        version := q.version + 1 } := by
  unfold enqueue at h
  split at h
  · cases h
  · next habs =>
    exact ⟨Dict.contains_eq_false_iff.mp (Bool.not_eq_true _ ▸ habs), (Except.ok.inj h).symm⟩

/-- What one operation does to the stored items. -/
inductive ItemEffect (q q' : WDRRQueue) : Prop where
  | same (h : q'.queued = q.queued) (hn : q'.nextSequence = q.nextSequence)
  | added (e : QueueEntry) (habs : q.queued.get? e.requestId = none)
      (h : q'.queued = q.queued.insert e.requestId ⟨e, q.nextSequence⟩)
      (hn : q'.nextSequence = q.nextSequence + 1)
  | removed (item : Queued) (hin : q.queued.get? item.entry.requestId = some item)
      (h : q'.queued = q.queued.erase item.entry.requestId)
      (hn : q'.nextSequence = q.nextSequence)
  | rewritten (e : QueueEntry) (item : Queued) (hin : q.queued.get? e.requestId = some item)
      (hkey : e.keyId = item.entry.keyId) (hid : e.requestId = item.entry.requestId)
      (h : q'.queued = q.queued.insert e.requestId ⟨e, item.sequence⟩)
      (hn : q'.nextSequence = q.nextSequence)

/-- **The step lemma.** An operation is quiet and changes the items in one of four ways, or it is
a grant with its effect. -/
theorem step_effect {q : WDRRQueue} (hq : q.Coherent) (op : QueueOp) :
    (q.granted op = none ∧ Quiet q (q.step op) ∧ ItemEffect q (q.step op)) ∨
      ∃ item, q.granted op = some item.entry ∧ q.GrantEffect item (q.step op) := by
  cases op with
  | enqueue e =>
    refine Or.inl ⟨rfl, ?_⟩
    simp only [step]
    split
    · next q' h =>
      obtain ⟨habs, rfl⟩ := enqueue_eq_ok h
      exact ⟨Quiet.of_fairness_eq rfl, .added e habs rfl rfl⟩
    · exact ⟨Quiet.of_fairness_eq rfl, .same rfl rfl⟩
  | cancel r =>
    refine Or.inl ⟨rfl, ?_⟩
    simp only [step, cancel]
    split
    · next h =>
      obtain ⟨item, hitem⟩ := Dict.contains_iff.mp h
      have hid := hq.requestId_eq hitem
      subst hid
      exact ⟨Quiet.of_fairness_eq rfl, .removed item hitem rfl rfl⟩
    · exact ⟨Quiet.of_fairness_eq rfl, .same rfl rfl⟩
  | contract r tier weight legs =>
    refine Or.inl ⟨rfl, ?_⟩
    simp only [step]
    split
    · next e q' h =>
      obtain ⟨item, hitem, hid, hkey, -, hqueued, hn, hquiet⟩ := contract_spec h
      have hr : r = e.requestId := by rw [hid, hq.requestId_eq hitem]
      subst hr
      exact ⟨hquiet, .rewritten e item hitem hkey hid hqueued hn⟩
    · exact ⟨Quiet.of_fairness_eq rfl, .same rfl rfl⟩
  | grant =>
    simp only [step, granted]
    cases hg : q.grant with
    | none => exact Or.inl ⟨rfl, Quiet.of_fairness_eq rfl, .same rfl rfl⟩
    | some p =>
      obtain ⟨e, q'⟩ := p
      obtain ⟨item, rfl, heff⟩ := grant_spec hq hg
      exact Or.inr ⟨item, rfl, heff⟩

theorem GrantEffect.itemEffect {q q' : WDRRQueue} {item : Queued} (h : q.GrantEffect item q') :
    ItemEffect q q' :=
  .removed item h.stored h.queued_eq h.nextSequence_eq

theorem step_itemEffect {q : WDRRQueue} (hq : q.Coherent) (op : QueueOp) :
    ItemEffect q (q.step op) := by
  rcases step_effect hq op with ⟨-, -, h⟩ | ⟨item, -, h⟩
  · exact h
  · exact h.itemEffect

theorem ItemEffect.coherent {q q' : WDRRQueue} (h : ItemEffect q q') (hq : q.Coherent) :
    q'.Coherent := by
  cases h with
  | same h hn => exact ⟨fun hg => hq.requestId_eq (h ▸ hg), fun hg => hn ▸ hq.sequence_lt (h ▸ hg)⟩
  | added e habs h hn =>
    refine ⟨fun {r item} hg => ?_, fun {r item} hg => ?_⟩
    · rw [h, Dict.get?_insert] at hg
      split at hg
      · next hr => cases hg; exact hr.symm
      · exact hq.requestId_eq hg
    · rw [h, Dict.get?_insert] at hg
      split at hg
      · cases hg; simp [hn]
      · have := hq.sequence_lt hg
        omega
  | removed item hin h hn =>
    refine ⟨fun {r item'} hg => ?_, fun {r item'} hg => ?_⟩
    · rw [h, Dict.get?_erase] at hg
      split at hg
      · cases hg
      · exact hq.requestId_eq hg
    · rw [h, Dict.get?_erase] at hg
      split at hg
      · cases hg
      · exact hn ▸ hq.sequence_lt hg
  | rewritten e item hin hkey hid h hn =>
    refine ⟨fun {r item'} hg => ?_, fun {r item'} hg => ?_⟩
    · rw [h, Dict.get?_insert] at hg
      split at hg
      · next hr => cases hg; exact hr.symm
      · exact hq.requestId_eq hg
    · rw [h, Dict.get?_insert] at hg
      split at hg
      · cases hg
        have hlt := hq.sequence_lt hin
        simpa [hn] using hlt
      · exact hn ▸ hq.sequence_lt hg

theorem coherent_fresh (m : Nat) : (fresh m).Coherent :=
  ⟨fun h => by simp [fresh] at h, fun h => by simp [fresh] at h⟩

theorem coherent_run {q : WDRRQueue} (hq : q.Coherent) (ops : List QueueOp) :
    (q.run ops).Coherent := by
  induction ops generalizing q with
  | nil => exact hq
  | cons op rest ih => exact ih ((step_itemEffect hq op).coherent hq)

/-! ## The entries ahead -/

/-- No operation puts an entry ahead of one that is already queued. -/
theorem ItemEffect.ahead_le {q q' : WDRRQueue} (h : ItemEffect q q') (key : String)
    {a : Nat ×ₗ String} (ha : (ofLex a).1 < q.nextSequence) : q'.ahead key a ≤ q.ahead key a := by
  unfold ahead
  cases h with
  | same h _ => rw [h]
  | added e habs h _ =>
    have hnot : ¬ (⟨e, q.nextSequence⟩ : Queued).arrival < a := by
      rw [Prod.Lex.lt_iff]
      simp only [Queued.arrival, ofLex_toLex]
      omega
    rw [h, (Dict.values_insert_perm _ _ _).countP_eq, List.countP_cons, Dict.erase_eq_self habs]
    simp [hnot]
  | removed item hin h _ =>
    rw [h, (Dict.values_perm_of_get? hin).countP_eq, List.countP_cons]
    exact Nat.le_add_right _ _
  | rewritten e item hin hkey hid h _ =>
    have harr : (⟨e, item.sequence⟩ : Queued).arrival = item.arrival := by
      simp only [Queued.arrival, hid]
    rw [h, (Dict.values_insert_perm _ _ _).countP_eq, (Dict.values_perm_of_get? hin).countP_eq,
      List.countP_cons, List.countP_cons, harr, hkey]

/-- Granting an entry of the same key that is ahead leaves one fewer. -/
theorem GrantEffect.ahead_lt {q q' : WDRRQueue} {item : Queued} (h : q.GrantEffect item q')
    {a : Nat ×ₗ String} (ha : item.arrival < a) :
    q'.ahead item.entry.keyId a < q.ahead item.entry.keyId a := by
  unfold ahead
  rw [h.queued_eq, (Dict.values_perm_of_get? h.stored).countP_eq, List.countP_cons]
  simp [ha]

/-! ## The potential of a waiting entry -/

/-- Grants of other keys that can still come before the next grant of `key`, when only one
other key is around. -/
def debt (q : WDRRQueue) (t : Nat) (s : Scarcity) (key : String) : Nat :=
  match q.cursor t s with
  | some c =>
    if c = key then 0 else if q.keyDeficit t s c = 0 then 64 else q.keyDeficit t s c
  | none => 64

/-- Grants of the class that can still come before the entry that arrived at `a` is granted. -/
def potential (q : WDRRQueue) (t : Nat) (s : Scarcity) (key : String) (a : Nat ×ₗ String) : Nat :=
  65 * q.ahead key a + q.debt t s key

/-- What a run keeps about the round-robin state of one class whose keys lie in `keys`. -/
structure ClassInv (keys : Finset String) (t : Nat) (s : Scarcity) (q : WDRRQueue) : Prop where
  coherent : q.Coherent
  deficit_le : ∀ key, q.keyDeficit t s key ≤ 63
  cursor_mem : ∀ c, q.cursor t s = some c → c ∈ keys

theorem ClassInv.debt_le {keys : Finset String} {t : Nat} {s : Scarcity} {q : WDRRQueue}
    (h : ClassInv keys t s q) (key : String) : q.debt t s key ≤ 64 := by
  unfold debt
  split
  · next c _ =>
    have := h.deficit_le c
    split_ifs <;> omega
  · exact le_rfl

theorem Quiet.debt_le {q q' : WDRRQueue} (h : Quiet q q') (t : Nat) (s : Scarcity) (key : String)
    (hle : ∀ k, q.keyDeficit t s k ≤ 63) : q'.debt t s key ≤ q.debt t s key := by
  unfold debt
  rw [h.cursor_eq t s]
  split
  · next c _ =>
    have h₁ := h.deficit_le t s c
    have h₂ := h.deficit_zero t s c
    have h₃ := hle c
    split_ifs <;> omega
  · exact le_rfl

theorem GrantEffect.deficit_lt {q q' : WDRRQueue} {item : Queued} (h : q.GrantEffect item q') :
    q'.keyDeficit item.entry.tier item.entry.scarcity item.entry.keyId <
      if q.keyDeficit item.entry.tier item.entry.scarcity item.entry.keyId = 0 then 64
      else q.keyDeficit item.entry.tier item.entry.scarcity item.entry.keyId := by
  obtain ⟨first, hfirst, hfk⟩ := mem_keyOrder.mp (chooseKey_mem h.chosen)
  have hitems : itemsOfKey (q.classItems item.entry.tier item.entry.scarcity) item.entry.keyId ≠ [] :=
    List.ne_nil_of_mem (List.mem_filter.mpr ⟨hfirst, by simpa using hfk⟩)
  obtain ⟨hpos, hle⟩ := keyQuantum_bounds hitems
  obtain ⟨hrpos, hrle⟩ := replenish_bounds
    (q.keyDeficit item.entry.tier item.entry.scarcity item.entry.keyId) hpos
  rw [h.charged]
  split_ifs at hrle ⊢ <;> omega

theorem nextKey_mem {keys : List String} {key : String} (h : key ∈ keys) :
    nextKey keys key ∈ keys := by
  have hlen : (keys.idxOf key + 1) % keys.length < keys.length :=
    Nat.mod_lt _ (List.length_pos_of_mem h)
  rw [nextKey, List.getD_eq_getElem?_getD, List.getElem?_eq_getElem hlen]
  exact List.getElem_mem hlen

/-- Among two keys the next one after `b` is the other. -/
theorem nextKey_of_two {keys : List String} {a b : String} (hnd : keys.Nodup) (ha : a ∈ keys)
    (hb : b ∈ keys) (hab : a ≠ b) (hall : ∀ k ∈ keys, k = a ∨ k = b) : nextKey keys b = a := by
  have hperm : keys.Perm [a, b] := by
    refine (List.perm_ext_iff_of_nodup hnd (by simpa using hab)).mpr fun k => ?_
    constructor
    · intro hk
      rcases hall k hk with rfl | rfl <;> simp
    · intro hk
      rcases List.mem_pair.mp hk with rfl | rfl
      · exact ha
      · exact hb
  have hba : ¬ b = a := fun e => hab e.symm
  match keys, hperm.length_eq with
  | [x, y], _ =>
    rcases hall x (by simp) with rfl | rfl
    · have hy : y = b := by
        rcases hall y (by simp) with rfl | hy
        · simp at hnd
        · exact hy
      subst hy
      simp [nextKey, hab]
    · have hy : y = a := by
        rcases hall y (by simp) with hy | rfl
        · exact hy
        · simp at hnd
      subst hy
      simp [nextKey]

theorem mem_pair_of_card_le_two {keys : Finset String} {a b k : String} (hcard : keys.card ≤ 2)
    (ha : a ∈ keys) (hb : b ∈ keys) (hab : a ≠ b) (hk : k ∈ keys) : k = a ∨ k = b := by
  by_contra hne
  rw [not_or] at hne
  have hsub : ({a, b, k} : Finset String) ⊆ keys := by
    intro x hx
    simp only [Finset.mem_insert, Finset.mem_singleton] at hx
    rcases hx with rfl | rfl | rfl
    · exact ha
    · exact hb
    · exact hk
  have hthree : ({a, b, k} : Finset String).card = 3 := by
    rw [Finset.card_insert_of_notMem, Finset.card_pair (fun e => hne.2 e.symm)]
    simp only [Finset.mem_insert, Finset.mem_singleton, not_or]
    exact ⟨hab, fun e => hne.1 e.symm⟩
  have := Finset.card_le_card hsub
  omega

/-! ## Two keys: every grant of the class pays -/

section TwoKeys

variable {keys : Finset String} {t : Nat} {s : Scarcity} {q : WDRRQueue}

/-- The invariant after a grant of the class. -/
theorem ClassInv.of_grant (h : ClassInv keys t s q) (hkeys : ∀ i ∈ q.classItems t s,
    i.entry.keyId ∈ keys) {q' : WDRRQueue} {item : Queued} (hg : q.GrantEffect item q') :
    ClassInv keys t s q' := by
  refine ⟨hg.itemEffect.coherent h.coherent, fun key => ?_, fun c hc => ?_⟩
  · by_cases hk : (t, s, key) = (item.entry.tier, item.entry.scarcity, item.entry.keyId)
    · simp only [Prod.mk.injEq] at hk
      obtain ⟨rfl, rfl, rfl⟩ := hk
      have hlt := hg.deficit_lt
      have hle := h.deficit_le item.entry.keyId
      split_ifs at hlt <;> omega
    · rw [hg.deficit_other t s key hk]
      exact h.deficit_le key
  · by_cases hk : (t, s) = (item.entry.tier, item.entry.scarcity)
    · simp only [Prod.mk.injEq] at hk
      obtain ⟨rfl, rfl⟩ := hk
      have horder : ∀ k ∈ keyOrder (q.classItems item.entry.tier item.entry.scarcity), k ∈ keys := by
        intro k hk
        obtain ⟨i, hi, rfl⟩ := mem_keyOrder.mp hk
        exact hkeys i hi
      have hin := chooseKey_mem hg.chosen
      rw [hg.cursor_eq, Option.some.injEq] at hc
      subst hc
      split_ifs
      · exact horder _ (nextKey_mem hin)
      · exact horder _ hin
    · rw [hg.cursor_other t s hk] at hc
      exact h.cursor_mem c hc

theorem ClassInv.step (h : ClassInv keys t s q)
    (hkeys : ∀ i ∈ q.classItems t s, i.entry.keyId ∈ keys) (op : QueueOp) :
    ClassInv keys t s (q.step op) := by
  rcases step_effect h.coherent op with ⟨-, hquiet, hitems⟩ | ⟨item, -, hg⟩
  · refine ⟨hitems.coherent h.coherent, fun key => ?_, fun c hc => ?_⟩
    · exact (hquiet.deficit_le t s key).trans (h.deficit_le key)
    · exact h.cursor_mem c (hquiet.cursor_eq t s ▸ hc)
  · exact h.of_grant hkeys hg

/-- A grant of the other key lowers the debt. -/
theorem GrantEffect.debt_lt (h : ClassInv keys t s q) (hcard : keys.card ≤ 2)
    (hkeys : ∀ i ∈ q.classItems t s, i.entry.keyId ∈ keys) {q' : WDRRQueue} {item : Queued}
    (hg : q.GrantEffect item q') (ht : item.entry.tier = t) (hs : item.entry.scarcity = s)
    {key : String} (hkey : ∃ i ∈ q.classItems t s, i.entry.keyId = key)
    (hne : key ≠ item.entry.keyId) : q'.debt t s key < q.debt t s key := by
  subst ht hs
  have hin := chooseKey_mem hg.chosen
  have hkeyIn : key ∈ keyOrder (q.classItems item.entry.tier item.entry.scarcity) :=
    mem_keyOrder.mpr hkey
  have horder : ∀ k ∈ keyOrder (q.classItems item.entry.tier item.entry.scarcity), k ∈ keys := by
    intro k hk
    obtain ⟨i, hi, rfl⟩ := mem_keyOrder.mp hk
    exact hkeys i hi
  have htwo : ∀ k ∈ keys, k = key ∨ k = item.entry.keyId := fun k hk =>
    mem_pair_of_card_le_two hcard (horder _ hkeyIn) (horder _ hin) hne hk
  have hnext := nextKey_of_two (nodup_keyOrder _) hkeyIn hin hne fun k hk => htwo k (horder k hk)
  have hlt := hg.deficit_lt
  have hbound := h.deficit_le item.entry.keyId
  -- The cursor was on the granted key or nowhere: on `key` it would have been followed.
  have hdebt : q.debt item.entry.tier item.entry.scarcity key ≥
      if q.keyDeficit item.entry.tier item.entry.scarcity item.entry.keyId = 0 then 64
      else q.keyDeficit item.entry.tier item.entry.scarcity item.entry.keyId := by
    unfold debt
    cases hc : q.cursor item.entry.tier item.entry.scarcity with
    | none => simp only; split_ifs <;> omega
    | some c =>
      have hck : c ≠ key := by
        rintro rfl
        have hchosen := hg.chosen
        rw [hc, chooseKey_of_mem hkeyIn] at hchosen
        exact hne (Option.some.inj hchosen)
      have hcb : c = item.entry.keyId := (htwo c (h.cursor_mem c hc)).resolve_left hck
      subst hcb
      simp only [hck, if_false]
      exact le_rfl
  have hdebt' : q'.debt item.entry.tier item.entry.scarcity key =
      q'.keyDeficit item.entry.tier item.entry.scarcity item.entry.keyId := by
    unfold debt
    rw [hg.cursor_eq, hnext]
    by_cases hz : q'.keyDeficit item.entry.tier item.entry.scarcity item.entry.keyId = 0
    · simp [hz]
    · simp [hz, hne.symm]
  omega

/-- The entry of a request that stays queued keeps its key. -/
theorem ItemEffect.keyId_eq {q' : WDRRQueue} (h : ItemEffect q q') {r : RequestId}
    {a b : Queued} (ha : q.queued.get? r = some a) (hb : q'.queued.get? r = some b) :
    b.entry.keyId = a.entry.keyId := by
  cases h with
  | same h _ =>
    rw [h, ha] at hb
    cases hb
    rfl
  | added e habs h _ =>
    have hne : r ≠ e.requestId := by
      rintro rfl
      rw [habs] at ha
      cases ha
    rw [h, Dict.get?_insert_of_ne _ _ hne, ha] at hb
    cases hb
    rfl
  | removed item hin h _ =>
    rw [h, Dict.get?_erase] at hb
    split at hb
    · cases hb
    · rw [ha] at hb
      cases hb
      rfl
  | rewritten e item hin hkey hid h _ =>
    rw [h, Dict.get?_insert] at hb
    split at hb
    · next hr =>
      subst hr
      rw [ha] at hin
      cases hin
      cases hb
      exact hkey
    · rw [ha] at hb
      cases hb
      rfl

/-- **The potential pays for every grant of the class** while the entry keeps waiting. -/
theorem potential_step (h : ClassInv keys t s q) (hcard : keys.card ≤ 2)
    (hkeys : ∀ i ∈ q.classItems t s, i.entry.keyId ∈ keys) {item : Queued}
    (hitem : q.queued.get? item.entry.requestId = some item) (ht : item.entry.tier = t)
    (hs : item.entry.scarcity = s) (op : QueueOp)
    (hstay : ((q.step op).queued.get? item.entry.requestId).isSome) :
    ((q.granted op).filter fun e => e.tier == t && e.scarcity == s).toList.length +
        (q.step op).potential t s item.entry.keyId item.arrival ≤
      q.potential t s item.entry.keyId item.arrival := by
  have hmem : item ∈ q.queued.values := Dict.mem_values_iff.mpr ⟨_, hitem⟩
  have hclass : item ∈ q.classItems t s := mem_classItems.mpr ⟨hmem, ht, hs⟩
  have hseq : (ofLex item.arrival).1 < q.nextSequence := h.coherent.sequence_lt hitem
  unfold potential
  rcases step_effect h.coherent op with ⟨hnone, hquiet, hitems⟩ | ⟨got, hgot, hg⟩
  · have h₁ := hitems.ahead_le item.entry.keyId hseq
    have h₂ := hquiet.debt_le t s item.entry.keyId h.deficit_le
    rw [hnone]
    simp only [Option.filter_none, Option.toList_none, List.length_nil]
    omega
  · have h₁ := hg.itemEffect.ahead_le item.entry.keyId hseq
    have hinv' := h.of_grant hkeys hg
    by_cases hin : got.entry.tier = t ∧ got.entry.scarcity = s
    · obtain ⟨hgt, hgs⟩ := hin
      have hone : ((some got.entry).filter fun e => e.tier == t && e.scarcity == s).toList.length
          = 1 := by
        simp [Option.filter, hgt, hgs]
      rw [hgot, hone]
      by_cases hkey : item.entry.keyId = got.entry.keyId
      · -- The class serves the waiting entry's own key: one fewer ahead.
        have hle : got.arrival ≤ item.arrival :=
          hg.first item (hgt ▸ hgs ▸ hclass) hkey
        have hne : got.arrival ≠ item.arrival := by
          intro heq
          have hgotMem : got ∈ q.queued.values := Dict.mem_values_iff.mpr ⟨_, hg.stored⟩
          have hsame := h.coherent.eq_of_arrival_eq hgotMem hmem heq
          subst hsame
          rw [hg.queued_eq, Dict.get?_erase_self] at hstay
          cases hstay
        have hlt := hg.ahead_lt (lt_of_le_of_ne hle hne)
        have hdebt := hinv'.debt_le item.entry.keyId
        rw [← hkey] at hlt
        omega
      · -- The class serves the other key: the debt pays.
        have hlt := GrantEffect.debt_lt h hcard hkeys hg hgt hgs ⟨item, hclass, rfl⟩ hkey
        omega
    · have hzero : ((some got.entry).filter fun e => e.tier == t && e.scarcity == s).toList.length
          = 0 := by
        simpa [Option.filter] using hin
      have hother : (t, s) ≠ (got.entry.tier, got.entry.scarcity) := by
        intro heq
        simp only [Prod.mk.injEq] at heq
        exact hin ⟨heq.1.symm, heq.2.symm⟩
      have hdebt : (q.step op).debt t s item.entry.keyId = q.debt t s item.entry.keyId := by
        unfold debt
        rw [hg.cursor_other t s hother]
        split
        · next c _ =>
          have hc : (t, s, c) ≠ (got.entry.tier, got.entry.scarcity, got.entry.keyId) := by
            intro heq
            simp only [Prod.mk.injEq] at heq
            exact hin ⟨heq.1.symm, heq.2.1.symm⟩
          rw [hg.deficit_other t s c hc]
        · rfl
      rw [hgot, hzero, hdebt]
      omega

theorem mem_trace_self (q : WDRRQueue) (ops : List QueueOp) : q ∈ q.trace ops := by
  cases ops <;> simp [trace]

theorem mem_trace_append (q : WDRRQueue) (before after : List QueueOp) (q' : WDRRQueue) :
    q' ∈ q.trace (before ++ after) ↔
      q' ∈ q.trace before ∨ q' ∈ (q.run before).trace after := by
  induction before generalizing q with
  | nil =>
    simp only [List.nil_append, trace, List.mem_singleton, run, List.foldl_nil]
    exact ⟨Or.inr, fun h => h.elim (fun e => e ▸ mem_trace_self q after) id⟩
  | cons op rest ih =>
    simp only [List.cons_append, trace, List.mem_cons, run, List.foldl_cons, or_assoc]
    rw [ih]
    rfl

/-- The invariant along a run whose class keys stay in `keys`. -/
theorem ClassInv.run (h : ClassInv keys t s q) (ops : List QueueOp)
    (hkeys : ∀ q' ∈ q.trace ops, ∀ i ∈ q'.classItems t s, i.entry.keyId ∈ keys) :
    ClassInv keys t s (q.run ops) := by
  induction ops generalizing q with
  | nil => exact h
  | cons op rest ih =>
    exact ih (h.step (hkeys q (mem_trace_self q _)) op)
      fun q' hq' => hkeys q' (List.mem_cons_of_mem _ hq')

/-- **The run lemma.** While an entry waits, the grants of its class are at most its potential
when the wait began. -/
theorem grantsIn_le_potential (h : ClassInv keys t s q) (hcard : keys.card ≤ 2)
    {r : RequestId} {sequence : Nat} {item : Queued} (hitem : q.queued.get? r = some item)
    (ops : List QueueOp)
    (hkeys : ∀ q' ∈ q.trace ops, ∀ i ∈ q'.classItems t s, i.entry.keyId ∈ keys)
    (hwait : ∀ q' ∈ q.trace ops, q'.Waits r sequence t s) :
    q.grantsIn t s ops ≤ q.potential t s item.entry.keyId item.arrival := by
  induction ops generalizing q item with
  | nil => exact Nat.zero_le _
  | cons op rest ih =>
    have hr : item.entry.requestId = r := h.coherent.requestId_eq hitem
    have hkeysHere := hkeys q (mem_trace_self q _)
    have hnext : q.step op ∈ (q.step op).trace rest := mem_trace_self _ _
    -- The same entry, before and after the step: one key, one arrival.
    obtain ⟨here, hhere, hseq, ht, hs⟩ := hwait q (mem_trace_self q _)
    obtain ⟨item', hitem', hseq', -, -⟩ := hwait _ (List.mem_cons_of_mem _ hnext)
    rw [hitem] at hhere
    cases hhere
    have hinv' := h.step hkeysHere op
    have hr' : item'.entry.requestId = r := hinv'.coherent.requestId_eq hitem'
    have hkey' := (step_itemEffect h.coherent op).keyId_eq hitem hitem'
    have harr : item'.arrival = item.arrival := by
      simp only [Queued.arrival, hseq, hseq', hr, hr']
    have hrest := ih hinv' hitem' (fun q' hq' => hkeys q' (List.mem_cons_of_mem _ hq'))
      fun q' hq' => hwait q' (List.mem_cons_of_mem _ hq')
    rw [hkey', harr] at hrest
    have hstay : ((q.step op).queued.get? item.entry.requestId).isSome := by
      rw [hr, hitem']
      rfl
    have hpay := potential_step h hcard hkeysHere (hr.symm ▸ hitem) ht hs op hstay
    rw [grantsIn]
    omega

end TwoKeys

/-! ## The waiting bound -/

/-- **Bounded waiting with `n` keys.** Over every run from a constructed queue in which at most
`n` keys ever appear in one tier and class, the grants of that class while an entry of it stays
queued are bounded by a function of the entries of its own key queued before it. -/
def BoundedWait (n : Nat) : Prop :=
  ∃ bound : Nat → Nat, ∀ (m : Nat) (before after : List QueueOp) (r : RequestId)
    (sequence t : Nat) (s : Scarcity) (keys : Finset String), 1 ≤ m → keys.card ≤ n →
    (∀ q ∈ (fresh m).trace (before ++ after), ∀ i ∈ q.classItems t s, i.entry.keyId ∈ keys) →
    (∀ q ∈ ((fresh m).run before).trace after, q.Waits r sequence t s) →
    ((fresh m).run before).grantsIn t s after ≤ bound (((fresh m).run before).position r)

theorem classInv_fresh (keys : Finset String) (t : Nat) (s : Scarcity) (m : Nat) :
    ClassInv keys t s (fresh m) :=
  ⟨coherent_fresh m, fun _ => Nat.zero_le _, fun _ hc => by cases hc⟩

theorem position_eq_ahead {q : WDRRQueue} {r : RequestId} {item : Queued}
    (h : q.queued.get? r = some item) : q.position r = q.ahead item.entry.keyId item.arrival := by
  simp [position, keyPosition, h, ahead]

theorem boundedWait_two : BoundedWait 2 := by
  refine ⟨fun p => 65 * p + 64, ?_⟩
  intro m before after r sequence t s keys _ hcard hkeys hwait
  have hinv : ClassInv keys t s ((fresh m).run before) :=
    (classInv_fresh keys t s m).run before fun q hq =>
      hkeys q ((mem_trace_append _ before after q).mpr (Or.inl hq))
  obtain ⟨item, hitem, -⟩ := hwait _ (mem_trace_self _ after)
  have hrun := grantsIn_le_potential hinv hcard hitem after
    (fun q hq => hkeys q ((mem_trace_append _ before after q).mpr (Or.inr hq))) hwait
  have hdebt := hinv.debt_le item.entry.keyId
  rw [position_eq_ahead hitem]
  unfold potential at hrun
  show _ ≤ 65 * _ + 64
  omega

theorem BoundedWait.mono {m n : Nat} (hmn : m ≤ n) (h : BoundedWait n) : BoundedWait m := by
  obtain ⟨bound, hbound⟩ := h
  refine ⟨bound, ?_⟩
  intro k before after r sequence t s keys hk hcard
  exact hbound k before after r sequence t s keys hk (hcard.trans hmn)

end WDRRQueue

end LlmMaxxing
