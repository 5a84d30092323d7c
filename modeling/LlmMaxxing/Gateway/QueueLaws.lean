import LlmMaxxing.Gateway.Queue

/-!
# What one queue operation does

One lemma per operation of `WDRRQueue`, in terms of three reads of the queue: the stored
items, the key cursor of a class and the key deficit of a key in a class. `grant_spec` says
what a proposal over the whole queue followed by its commit does; every later result about
the round robin cites it and never opens `propose`.
-/

namespace LlmMaxxing

open Check

/-! ## The stored tables -/

section Tables

variable (t : FairnessTables) (streak : Nat)

@[simp] theorem decode_encode_keyDeficits (k : Nat × Scarcity × String) :
    (decodeState (encodeState t streak)).keyDeficits.get? k = t.keyDeficits.get? k :=
  Dict.get?_ofList_of_perm (SortOn.perm _ _) k

@[simp] theorem decode_encode_keyCursors (k : Nat × Scarcity) :
    (decodeState (encodeState t streak)).keyCursors.get? k = t.keyCursors.get? k :=
  Dict.get?_ofList_of_perm (SortOn.perm _ _) k

end Tables

namespace WDRRQueue

/-- The key cursor of a class. -/
def cursor (q : WDRRQueue) (t : Nat) (s : Scarcity) : Option String :=
  (decodeState q.fairness).keyCursors.get? (t, s)

/-- The stored deficit of a key in a class. -/
def keyDeficit (q : WDRRQueue) (t : Nat) (s : Scarcity) (key : String) : Nat :=
  ((decodeState q.fairness).keyDeficits.get? (t, s, key)).getD 0

/-- The queued items of one tier and one class. -/
def classItems (q : WDRRQueue) (t : Nat) (s : Scarcity) : List Queued :=
  q.queued.values.filter fun item => item.entry.tier == t && item.entry.scarcity == s

theorem mem_classItems {q : WDRRQueue} {t : Nat} {s : Scarcity} {item : Queued} :
    item ∈ q.classItems t s ↔
      item ∈ q.queued.values ∧ item.entry.tier = t ∧ item.entry.scarcity = s := by
  simp [classItems]

/-- The table of items is keyed by the items' own request ids, and arrival numbers stay below
the next one. -/
structure Coherent (q : WDRRQueue) : Prop where
  requestId_eq : ∀ {r item}, q.queued.get? r = some item → item.entry.requestId = r
  sequence_lt : ∀ {r item}, q.queued.get? r = some item → item.sequence < q.nextSequence

theorem Coherent.get?_of_mem {q : WDRRQueue} (hq : q.Coherent) {item : Queued}
    (h : item ∈ q.queued.values) : q.queued.get? item.entry.requestId = some item := by
  obtain ⟨r, hr⟩ := Dict.mem_values_iff.mp h
  rw [hq.requestId_eq hr]
  exact hr

/-- Two stored items with one arrival are one item. -/
theorem Coherent.eq_of_arrival_eq {q : WDRRQueue} (hq : q.Coherent) {a b : Queued}
    (ha : a ∈ q.queued.values) (hb : b ∈ q.queued.values) (h : a.arrival = b.arrival) :
    a = b := by
  have htext : a.entry.requestId.text = b.entry.requestId.text :=
    congrArg (fun p => (ofLex p).2) h
  have hid : a.entry.requestId = b.entry.requestId := TypedId.ext htext
  have ha' := hq.get?_of_mem ha
  rw [hid, hq.get?_of_mem hb] at ha'
  exact (Option.some.inj ha').symm

/-! ## Helpers of the proposal -/

theorem oldest_eq_some {items : List Queued} {item : Queued} (h : oldest items = some item) :
    item ∈ items ∧ ∀ other ∈ items, item.arrival ≤ other.arrival := by
  have hsort : sortOn Queued.arrival items = item :: (sortOn Queued.arrival items).tail :=
    List.eq_cons_of_mem_head? (Option.mem_def.mpr h)
  have hpair := SortOn.pairwise Queued.arrival items
  rw [hsort, List.pairwise_cons] at hpair
  refine ⟨(SortOn.mem_iff _).mp (hsort ▸ List.mem_cons_self), fun other hother => ?_⟩
  have hmem : other ∈ sortOn Queued.arrival items := (SortOn.mem_iff _).mpr hother
  rw [hsort, List.mem_cons] at hmem
  rcases hmem with rfl | hmem
  · exact le_rfl
  · exact hpair.1 other hmem

theorem oldest_isSome {items : List Queued} (h : items ≠ []) : (oldest items).isSome := by
  rw [oldest, List.isSome_head?]
  intro hnil
  have hlen := SortOn.length_eq Queued.arrival items
  rw [hnil] at hlen
  exact h (List.length_eq_zero_iff.mp hlen.symm)

/-- The deficit read by a proposal is positive and at most the stored one or the quantum. -/
theorem replenish_bounds (stored : Nat) {quantum : Nat} (hq : 0 < quantum) :
    0 < replenish stored quantum ∧
      replenish stored quantum ≤ (if stored = 0 then quantum else stored) := by
  unfold replenish
  by_cases h : stored = 0
  · subst h
    simp
    omega
  · have hpos : min stored (8 * quantum) ≠ 0 := by omega
    simp only [hpos, if_false, h]
    omega

/-- The arrival numbers of the items of a key, smallest kept. -/
theorem get?_firstSequence_foldl (items : List Queued) (acc : Dict String Nat) (key : String) :
    (items.foldl
        (fun d item => d.insert item.entry.keyId
          (min item.sequence ((d.get? item.entry.keyId).getD item.sequence))) acc).get? key =
      (itemsOfKey items key).foldl
        (fun o item => some (min item.sequence (o.getD item.sequence))) (acc.get? key) := by
  induction items generalizing acc with
  | nil => rfl
  | cons item rest ih =>
    rw [List.foldl_cons, ih]
    by_cases hk : item.entry.keyId = key
    · subst hk
      simp [itemsOfKey]
    · have hk' : ¬ key = item.entry.keyId := fun e => hk e.symm
      simp [itemsOfKey, hk, Dict.get?_insert_of_ne _ _ hk']

theorem get?_firstSequence (items : List Queued) (key : String) :
    (firstSequence items).get? key =
      (itemsOfKey items key).foldl
        (fun o item => some (min item.sequence (o.getD item.sequence))) none := by
  rw [firstSequence, get?_firstSequence_foldl, Dict.get?_empty]

theorem mem_keyOrder {items : List Queued} {key : String} :
    key ∈ keyOrder items ↔ ∃ item ∈ items, item.entry.keyId = key := by
  rw [keyOrder, SortOn.mem_iff, Dict.mem_keys_iff, get?_firstSequence]
  have hfold : ∀ (l : List Queued) (o : Option Nat), o.isSome = true →
      (l.foldl (fun o item => some (min item.sequence (o.getD item.sequence))) o).isSome =
        true := by
    intro l
    induction l with
    | nil => exact fun o h => h
    | cons a rest ih => exact fun o _ => ih _ rfl
  constructor
  · rintro ⟨v, hv⟩
    cases hi : itemsOfKey items key with
    | nil => simp [hi] at hv
    | cons a rest =>
      have ha : a ∈ itemsOfKey items key := hi ▸ List.mem_cons_self
      rw [itemsOfKey, List.mem_filter] at ha
      exact ⟨a, ha.1, by simpa using ha.2⟩
  · rintro ⟨item, hmem, hkey⟩
    have hin : item ∈ itemsOfKey items key := List.mem_filter.mpr ⟨hmem, by simpa using hkey⟩
    cases hi : itemsOfKey items key with
    | nil => simp [hi] at hin
    | cons a rest => exact Option.isSome_iff_exists.mp (hfold rest _ rfl)

theorem nodup_keyOrder (items : List Queued) : (keyOrder items).Nodup :=
  (SortOn.perm _ _).nodup_iff.mpr (firstSequence items).nodup

theorem chooseKey_mem {c : Option String} {keys : List String} {key : String}
    (h : chooseKey c keys = some key) : key ∈ keys := by
  unfold chooseKey at h
  cases c with
  | none => exact List.mem_of_mem_head? h
  | some k =>
    by_cases hk : k ∈ keys
    · simp only [hk, if_true, Option.some.injEq] at h
      exact h ▸ hk
    · simp only [hk, if_false] at h
      exact List.mem_of_mem_head? h

/-- A cursor on a present key is followed. -/
theorem chooseKey_of_mem {keys : List String} {key : String} (h : key ∈ keys) :
    chooseKey (some key) keys = some key := by
  simp [chooseKey, h]

theorem keyQuantum_bounds {items : List Queued} (h : items ≠ []) :
    0 < keyQuantum items ∧ keyQuantum items ≤ 64 := by
  unfold keyQuantum
  cases hm : (items.map fun item => item.entry.weight).min? with
  | none => exact absurd (List.map_eq_nil_iff.mp (List.min?_eq_none_iff.mp hm)) h
  | some w =>
    obtain ⟨hmem, -⟩ := List.min?_eq_some_iff.mp hm
    obtain ⟨item, -, rfl⟩ := List.mem_map.mp hmem
    exact ⟨item.entry.wellFormed.weight_pos, item.entry.wellFormed.weight_le⟩

/-! ## Granting: a proposal over the whole queue and its commit -/

/-- `propose` with every entry eligible and none excluded, followed by `commit`. -/
def grant (q : WDRRQueue) : Option (QueueEntry × WDRRQueue) :=
  match q.propose (fun _ => true) [] with
  | none => none
  | some selection =>
    match q.commit selection with
    | .ok q' => some (selection.entry, q')
    | .error _ => none

/-- What a proposal in a tier serves: the oldest item of the chosen key of a class, and the
tables charged for it. -/
theorem proposeInTier_eq_some {q : WDRRQueue} {t : Nat} {items : List Queued} {item : Queued}
    {tables : FairnessTables} (h : q.proposeInTier t items = some (item, tables)) :
    ∃ s keys, s = chooseClass (((decodeState q.fairness).classCursors.get? t).getD .scarce) items ∧
      keys = keyOrder (items.filter fun i => i.entry.scarcity == s) ∧
      chooseKey (q.cursor t s) keys = some item.entry.keyId ∧
      item ∈ items ∧ item.entry.scarcity = s ∧
      (∀ other ∈ items, other.entry.scarcity = s → other.entry.keyId = item.entry.keyId →
        item.arrival ≤ other.arrival) ∧
      tables = charge (decodeState q.fairness) t s keys item.entry.keyId
        (keyQuantum (itemsOfKey (items.filter fun i => i.entry.scarcity == s)
          item.entry.keyId)) := by
  unfold proposeInTier at h
  simp only at h
  split at h
  · cases h
  · next key hkey =>
    obtain ⟨selected, hold, heq⟩ := Option.map_eq_some_iff.mp h
    simp only [Prod.mk.injEq] at heq
    obtain ⟨rfl, rfl⟩ := heq
    obtain ⟨hmem, hmin⟩ := oldest_eq_some hold
    rw [itemsOfKey, List.mem_filter, List.mem_filter] at hmem
    obtain ⟨⟨hitems, hclass⟩, hkeyEq⟩ := hmem
    have hclass := eq_of_beq hclass
    have hkeyEq := eq_of_beq hkeyEq
    subst hkeyEq
    refine ⟨_, _, rfl, rfl, hkey, hitems, hclass, ?_, rfl⟩
    intro other hother hs hk
    apply hmin
    rw [itemsOfKey, List.mem_filter, List.mem_filter]
    exact ⟨⟨hother, by simpa using hs⟩, by simpa using hk⟩

/-- The items of the served tier and class are those of the queue. -/
theorem filter_available (q : WDRRQueue) (t : Nat) (s : Scarcity) :
    ((q.available (fun _ => true) []).filter (fun item => item.entry.tier == t)).filter
      (fun item => item.entry.scarcity == s) = q.classItems t s := by
  simp [available, classItems, List.filter_filter, Bool.and_comm]

/-- A proposal over the whole queue. -/
theorem propose_all_eq_some {q : WDRRQueue} {selection : QueueSelection}
    (h : q.propose (fun _ => true) [] = some selection) :
    ∃ item streak, item ∈ q.queued.values ∧ selection.entry = item.entry ∧
      selection.queueVersion = q.version ∧
      chooseKey (q.cursor item.entry.tier item.entry.scarcity)
        (keyOrder (q.classItems item.entry.tier item.entry.scarcity)) = some item.entry.keyId ∧
      (∀ other ∈ q.classItems item.entry.tier item.entry.scarcity,
        other.entry.keyId = item.entry.keyId → item.arrival ≤ other.arrival) ∧
      selection.fairness = encodeState
        (charge (decodeState q.fairness) item.entry.tier item.entry.scarcity
          (keyOrder (q.classItems item.entry.tier item.entry.scarcity)) item.entry.keyId
          (keyQuantum (itemsOfKey (q.classItems item.entry.tier item.entry.scarcity)
            item.entry.keyId)))
        streak := by
  unfold propose at h
  simp only at h
  split at h
  · cases h
  · next top _ =>
    obtain ⟨⟨item, tables⟩, htier, rfl⟩ := Option.map_eq_some_iff.mp h
    obtain ⟨s, keys, -, hkeys, hchosen, hmem, hs, hfirst, htables⟩ := proposeInTier_eq_some htier
    obtain ⟨havail, ht⟩ := List.mem_filter.mp hmem
    have ht := eq_of_beq ht
    rw [filter_available] at hkeys htables
    rw [← ht, ← hs] at hkeys hchosen htables
    subst hkeys htables
    refine ⟨item, _, (List.mem_filter.mp havail).1, rfl, rfl, hchosen, ?_, rfl⟩
    intro other hother hk
    obtain ⟨hval, hot, hos⟩ := mem_classItems.mp hother
    refine hfirst other (List.mem_filter.mpr ⟨?_, ?_⟩) (hos.trans hs) hk
    · simpa [available] using hval
    · simpa [← ht] using hot

theorem commit_eq_ok {q q' : WDRRQueue} {selection : QueueSelection}
    (h : q.commit selection = .ok q') :
    q' = { q with
      fairness := selection.fairness
      queued := q.queued.erase selection.entry.requestId
      version := q.version + 1 } := by
  unfold commit at h
  split at h
  · exact (Except.ok.inj h).symm
  · cases h

/-- **What a grant does.** The granted item is the oldest of the key its class chose; it leaves
the queue, its key is charged, the cursor moves exactly when the deficit is used up, and
nothing else of the round-robin state changes. -/
structure GrantEffect (q : WDRRQueue) (item : Queued) (q' : WDRRQueue) : Prop where
  stored : q.queued.get? item.entry.requestId = some item
  chosen : chooseKey (q.cursor item.entry.tier item.entry.scarcity)
    (keyOrder (q.classItems item.entry.tier item.entry.scarcity)) = some item.entry.keyId
  first : ∀ other ∈ q.classItems item.entry.tier item.entry.scarcity,
    other.entry.keyId = item.entry.keyId → item.arrival ≤ other.arrival
  queued_eq : q'.queued = q.queued.erase item.entry.requestId
  nextSequence_eq : q'.nextSequence = q.nextSequence
  charged : q'.keyDeficit item.entry.tier item.entry.scarcity item.entry.keyId =
    replenish (q.keyDeficit item.entry.tier item.entry.scarcity item.entry.keyId)
      (keyQuantum (itemsOfKey (q.classItems item.entry.tier item.entry.scarcity)
        item.entry.keyId)) - 1
  cursor_eq : q'.cursor item.entry.tier item.entry.scarcity =
    some (if q'.keyDeficit item.entry.tier item.entry.scarcity item.entry.keyId = 0 then
      nextKey (keyOrder (q.classItems item.entry.tier item.entry.scarcity)) item.entry.keyId
    else item.entry.keyId)
  cursor_other : ∀ t s, (t, s) ≠ (item.entry.tier, item.entry.scarcity) →
    q'.cursor t s = q.cursor t s
  deficit_other : ∀ t s key,
    (t, s, key) ≠ (item.entry.tier, item.entry.scarcity, item.entry.keyId) →
    q'.keyDeficit t s key = q.keyDeficit t s key

theorem grant_spec {q q' : WDRRQueue} {e : QueueEntry} (hq : q.Coherent)
    (h : q.grant = some (e, q')) : ∃ item, item.entry = e ∧ q.GrantEffect item q' := by
  unfold grant at h
  split at h
  · cases h
  · next selection hprop =>
    split at h
    · next committed hcommit =>
      simp only [Option.some.injEq, Prod.mk.injEq] at h
      obtain ⟨rfl, rfl⟩ := h
      obtain ⟨item, streak, hmem, hentry, -, hchosen, hfirst, hfair⟩ := propose_all_eq_some hprop
      have hq' := commit_eq_ok hcommit
      -- The committed tables are the charged ones, so every read goes through `charge`.
      have hdef : ∀ t s key, committed.keyDeficit t s key = _ := fun t s key => by
        rw [keyDeficit, hq', hfair, decode_encode_keyDeficits]
      have hcur : ∀ t s, committed.cursor t s = _ := fun t s => by
        rw [cursor, hq', hfair, decode_encode_keyCursors]
      refine ⟨item, hentry.symm,
        { stored := hq.get?_of_mem hmem
          chosen := hchosen
          first := hfirst
          queued_eq := by rw [hq', hentry]
          nextSequence_eq := by rw [hq']
          charged := ?_
          cursor_eq := ?_
          cursor_other := ?_
          deficit_other := ?_ }⟩
      · rw [hdef]
        simp [charge, keyDeficit]
      · rw [hdef, hcur]
        simp [charge]
      · intro t s hne
        rw [hcur, charge, Dict.get?_insert_of_ne _ _ hne, cursor]
      · intro t s key hne
        rw [hdef, charge, Dict.get?_insert_of_ne _ _ hne, keyDeficit]
    · cases h

/-! ## Progress: a nonempty queue proposes, and the proposal commits -/

theorem chooseKey_isSome {keys : List String} (h : keys ≠ []) (c : Option String) :
    (chooseKey c keys).isSome := by
  have hhead : keys.head?.isSome := List.isSome_head?.mpr h
  unfold chooseKey
  cases c with
  | none => exact hhead
  | some k => by_cases hk : k ∈ keys <;> simp [hk, hhead]

theorem chooseClass_mem {c : Scarcity} {items : List Queued} (h : items ≠ []) :
    ∃ item ∈ items, item.entry.scarcity = chooseClass c items := by
  obtain ⟨item, hitem⟩ := List.exists_mem_of_ne_nil items h
  have hcase : item.entry.scarcity = c ∨ item.entry.scarcity = c.other := by
    cases item.entry.scarcity <;> cases c <;> simp [Scarcity.other]
  unfold chooseClass
  simp only [List.mem_map]
  split_ifs with h₁ h₂
  · exact h₁
  · exact h₂
  · rcases hcase with hc | hc
    · exact absurd ⟨item, hitem, hc⟩ h₁
    · exact absurd ⟨item, hitem, hc⟩ h₂

theorem proposeInTier_isSome (q : WDRRQueue) (t : Nat) {items : List Queued} (h : items ≠ []) :
    (q.proposeInTier t items).isSome := by
  unfold proposeInTier
  simp only
  obtain ⟨item, hitem, hclass⟩ :=
    chooseClass_mem (c := (((decodeState q.fairness).classCursors.get? t).getD .scarce)) h
  have hkeys : item.entry.keyId ∈ keyOrder (items.filter fun i => i.entry.scarcity ==
      chooseClass (((decodeState q.fairness).classCursors.get? t).getD .scarce) items) :=
    mem_keyOrder.mpr ⟨item, List.mem_filter.mpr ⟨hitem, by simpa using hclass⟩, rfl⟩
  split
  · next hnone =>
    have hsome := chooseKey_isSome (List.ne_nil_of_mem hkeys)
      ((decodeState q.fairness).keyCursors.get? (t,
        chooseClass (((decodeState q.fairness).classCursors.get? t).getD .scarce) items))
    rw [hnone] at hsome
    cases hsome
  · next key hkey =>
    obtain ⟨first, hfirst, hfk⟩ := mem_keyOrder.mp (chooseKey_mem hkey)
    rw [Option.isSome_map]
    exact oldest_isSome (List.ne_nil_of_mem (List.mem_filter.mpr ⟨hfirst, by simpa using hfk⟩))

theorem chooseTier_mem {q : WDRRQueue} {items : List Queued} {top : Nat}
    (h : topTier items = some top) : ∃ item ∈ items, item.entry.tier = q.chooseTier items top := by
  have htop : ∃ item ∈ items, item.entry.tier = top :=
    List.mem_map.mp (List.min?_eq_some_iff.mp h).1
  unfold chooseTier
  split
  · next item hold =>
    split_ifs
    · have hmem := (oldest_eq_some hold).1
      exact ⟨item, (List.mem_filter.mp hmem).1, rfl⟩
    · exact htop
  · exact htop

theorem grant_isSome {q : WDRRQueue} (hq : q.Coherent) (h : q.queued.values ≠ []) :
    ∃ e q', q.grant = some (e, q') := by
  have havail : q.available (fun _ => true) [] = q.queued.values := by simp [available]
  have hprop : (q.propose (fun _ => true) []).isSome := by
    unfold propose
    simp only [havail]
    cases htop : topTier q.queued.values with
    | none =>
      rw [topTier, List.min?_eq_none_iff, List.map_eq_nil_iff] at htop
      exact absurd htop h
    | some top =>
      obtain ⟨item, hitem, ht⟩ := chooseTier_mem (q := q) htop
      rw [Option.isSome_map]
      apply proposeInTier_isSome
      exact List.ne_nil_of_mem (List.mem_filter.mpr ⟨hitem, by simpa using ht⟩)
  obtain ⟨selection, hsel⟩ := Option.isSome_iff_exists.mp hprop
  obtain ⟨item, streak, hmem, hentry, hver, -⟩ := propose_all_eq_some hsel
  have hcommit : ∃ q', q.commit selection = .ok q' := by
    unfold commit
    rw [hentry, hver, hq.get?_of_mem hmem]
    simp
  obtain ⟨q', hq'⟩ := hcommit
  exact ⟨selection.entry, q', by simp [grant, hsel, hq']⟩

end WDRRQueue

end LlmMaxxing
