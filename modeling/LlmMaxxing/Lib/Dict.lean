import Mathlib.Data.List.Nodup
import Mathlib.Data.List.Perm.Basic
import Mathlib.Data.List.Sort
import Mathlib.Tactic.Common

/-!
# Insertion-ordered dictionaries

A dictionary is a list of key/value pairs in insertion order whose keys are pairwise
distinct. Assigning to a present key keeps its place; assigning to an absent key appends.
The distinctness of the keys is a field, so a dictionary with a doubled key cannot be
built and every lookup lemma is unconditional.

Two dictionaries are compared through `get?`: iteration order is observable, but two
programs that agree on every lookup agree on every keyed read.
-/

namespace Dict

/-! ## Association lists -/

section Assoc

variable {κ ν μ : Type*} [DecidableEq κ]

/-- The value of the first pair with key `k`. -/
def lookup (k : κ) : List (κ × ν) → Option ν
  | [] => none
  | (k', v) :: rest => if k' = k then some v else lookup k rest

/-- Assign in place when the key is present, else append. -/
def upsert (k : κ) (v : ν) : List (κ × ν) → List (κ × ν)
  | [] => [(k, v)]
  | (k', v') :: rest => if k' = k then (k, v) :: rest else (k', v') :: upsert k v rest

theorem lookup_eq_none_iff {k : κ} {l : List (κ × ν)} :
    lookup k l = none ↔ k ∉ l.map Prod.fst := by
  induction l with
  | nil => simp [lookup]
  | cons p rest ih =>
    obtain ⟨k', v'⟩ := p
    by_cases h : k' = k
    · simp [lookup, h]
    · simp only [lookup, if_neg h, List.map_cons, List.mem_cons, not_or, ih]
      exact ⟨fun hr => ⟨fun e => h e.symm, hr⟩, fun hr => hr.2⟩

theorem mem_of_lookup {k : κ} {v : ν} {l : List (κ × ν)} (h : lookup k l = some v) :
    (k, v) ∈ l := by
  induction l with
  | nil => simp [lookup] at h
  | cons p rest ih =>
    obtain ⟨k', v'⟩ := p
    by_cases hk : k' = k
    · rw [lookup, if_pos hk] at h
      cases h
      simp [hk]
    · rw [lookup, if_neg hk] at h
      exact List.mem_cons_of_mem _ (ih h)

theorem lookup_of_mem {k : κ} {v : ν} {l : List (κ × ν)}
    (hnd : (l.map Prod.fst).Nodup) (h : (k, v) ∈ l) : lookup k l = some v := by
  induction l with
  | nil => simp at h
  | cons p rest ih =>
    obtain ⟨k', v'⟩ := p
    rw [List.map_cons, List.nodup_cons] at hnd
    rcases List.mem_cons.mp h with heq | hrest
    · cases heq
      simp [lookup]
    · have hne : k' ≠ k := by
        rintro rfl
        exact hnd.1 (List.mem_map.mpr ⟨(k', v), hrest, rfl⟩)
      rw [lookup, if_neg hne]
      exact ih hnd.2 hrest

theorem lookup_upsert (k k' : κ) (v : ν) (l : List (κ × ν)) :
    lookup k' (upsert k v l) = if k' = k then some v else lookup k' l := by
  induction l with
  | nil => by_cases h : k = k' <;> simp [upsert, lookup, h, eq_comm]
  | cons p rest ih =>
    obtain ⟨k₀, v₀⟩ := p
    by_cases h₀ : k₀ = k
    · subst h₀
      by_cases h : k₀ = k'
      · simp [upsert, lookup, h]
      · have h' : ¬ k' = k₀ := fun e => h e.symm
        simp [upsert, lookup, h, h']
    · rw [upsert, if_neg h₀, lookup, lookup, ih]
      by_cases h : k₀ = k'
      · subst h
        simp [h₀]
      · simp [h]

theorem map_fst_upsert (k : κ) (v : ν) (l : List (κ × ν)) :
    (upsert k v l).map Prod.fst =
      if k ∈ l.map Prod.fst then l.map Prod.fst else l.map Prod.fst ++ [k] := by
  induction l with
  | nil => simp [upsert]
  | cons p rest ih =>
    obtain ⟨k₀, v₀⟩ := p
    by_cases h₀ : k₀ = k
    · subst h₀
      simp [upsert]
    · rw [upsert, if_neg h₀, List.map_cons, ih, List.map_cons]
      have hmem : (k ∈ k₀ :: rest.map Prod.fst) ↔ k ∈ rest.map Prod.fst := by
        rw [List.mem_cons]
        exact ⟨fun h => h.resolve_left (fun e => h₀ e.symm), Or.inr⟩
      by_cases hk : k ∈ rest.map Prod.fst
      · rw [if_pos hk, if_pos (hmem.mpr hk)]
      · rw [if_neg hk, if_neg (fun h => hk (hmem.mp h)), List.cons_append]

theorem upsert_of_notMem {q : κ × ν} {l : List (κ × ν)} (h : q.1 ∉ l.map Prod.fst) :
    upsert q.1 q.2 l = l ++ [q] := by
  induction l with
  | nil => rfl
  | cons p rest ih =>
    rw [List.map_cons, List.mem_cons, not_or] at h
    rw [upsert, if_neg (fun e => h.1 e.symm), ih h.2, List.cons_append]

theorem upsert_of_lookup {k : κ} {v : ν} {l : List (κ × ν)} (h : lookup k l = some v) :
    upsert k v l = l := by
  induction l with
  | nil => cases h
  | cons q rest ih =>
    simp only [lookup] at h
    simp only [upsert]
    split at h
    · next heq =>
      cases h
      rw [if_pos heq, ← heq]
    · next hne => rw [if_neg hne, ih h]

theorem nodup_upsert {k : κ} {v : ν} {l : List (κ × ν)} (h : (l.map Prod.fst).Nodup) :
    ((upsert k v l).map Prod.fst).Nodup := by
  rw [map_fst_upsert]
  split
  · exact h
  · next hk => exact List.Nodup.append h (List.nodup_singleton k) (by simpa using hk)

theorem lookup_filter {k : κ} {p : κ × ν → Bool} {l : List (κ × ν)}
    (hnd : (l.map Prod.fst).Nodup) :
    lookup k (l.filter p) = (lookup k l).filter (fun v => p (k, v)) := by
  induction l with
  | nil => simp [lookup]
  | cons q rest ih =>
    obtain ⟨k₀, v₀⟩ := q
    rw [List.map_cons, List.nodup_cons] at hnd
    have ih := ih hnd.2
    by_cases h : k₀ = k
    · subst h
      have habs : lookup k₀ rest = none := lookup_eq_none_iff.mpr hnd.1
      cases hp : p (k₀, v₀) with
      | true => simp [hp, lookup, Option.filter]
      | false => simp [hp, lookup, ih, habs, Option.filter]
    · cases hp : p (k₀, v₀) <;> simp [hp, lookup, h, ih]

/-- Dropping other keys does not change a lookup. -/
theorem lookup_filter_of_kept {k : κ} {p : κ → Bool} (l : List (κ × ν)) (hk : p k = true) :
    lookup k (l.filter fun q => p q.1) = lookup k l := by
  induction l with
  | nil => rfl
  | cons q rest ih =>
    obtain ⟨k₀, v₀⟩ := q
    by_cases h : k₀ = k
    · subst h
      simp [hk, lookup]
    · cases hp : p k₀ <;> simp [hp, lookup, h, ih]

theorem lookup_map (k : κ) (f : κ → ν → μ) (l : List (κ × ν)) :
    lookup k (l.map fun q => (q.1, f q.1 q.2)) = (lookup k l).map (f k) := by
  induction l with
  | nil => simp [lookup]
  | cons q rest ih =>
    obtain ⟨k₀, v₀⟩ := q
    by_cases h : k₀ = k
    · subst h
      simp [lookup]
    · simp [lookup, h, ih]

/-- Lookups of a list with distinct keys depend on its members only. -/
theorem lookup_eq_of_perm {k : κ} {l₁ l₂ : List (κ × ν)} (hnd : (l₁.map Prod.fst).Nodup)
    (h : l₁.Perm l₂) : lookup k l₁ = lookup k l₂ := by
  have hnd₂ : (l₂.map Prod.fst).Nodup := (h.map Prod.fst).nodup_iff.mp hnd
  cases h₂ : lookup k l₂ with
  | none =>
    rw [lookup_eq_none_iff] at h₂ ⊢
    exact fun hk => h₂ ((h.map Prod.fst).mem_iff.mp hk)
  | some v => exact lookup_of_mem hnd (h.mem_iff.mpr (mem_of_lookup h₂))

/-- Assigning moves the pair out and back in. -/
theorem upsert_perm (k : κ) (v : ν) {l : List (κ × ν)} (hnd : (l.map Prod.fst).Nodup) :
    (upsert k v l).Perm ((k, v) :: l.filter fun q => decide (q.1 ≠ k)) := by
  induction l with
  | nil => simp [upsert]
  | cons q rest ih =>
    obtain ⟨k₀, v₀⟩ := q
    rw [List.map_cons, List.nodup_cons] at hnd
    by_cases h : k₀ = k
    · subst h
      have hrest : rest.filter (fun q => decide (q.1 ≠ k₀)) = rest := by
        rw [List.filter_eq_self]
        intro q hq
        have hne : q.1 ≠ k₀ := fun e => hnd.1 (e ▸ List.mem_map.mpr ⟨q, hq, rfl⟩)
        simpa using hne
      simp only [upsert, if_true, List.filter_cons, ne_eq, not_true_eq_false, decide_false,
        Bool.false_eq_true, if_false]
      rw [hrest]
    · have hkeep : List.filter (fun q : κ × ν => decide (q.1 ≠ k)) ((k₀, v₀) :: rest) =
          (k₀, v₀) :: rest.filter fun q => decide (q.1 ≠ k) := by
        simp [h]
      rw [upsert, if_neg h, hkeep]
      exact ((ih hnd.2).cons (k₀, v₀)).trans (List.Perm.swap _ _ _)

/-- Assigning pairs with fresh keys one after the other appends them. -/
theorem foldl_upsert_of_nodup {acc l : List (κ × ν)} (h : ((acc ++ l).map Prod.fst).Nodup) :
    l.foldl (fun acc q => upsert q.1 q.2 acc) acc = acc ++ l := by
  induction l generalizing acc with
  | nil => simp
  | cons q rest ih =>
    have habs : q.1 ∉ acc.map Prod.fst := by
      rw [List.map_append, List.map_cons, List.nodup_append] at h
      exact fun hq => h.2.2 _ hq _ List.mem_cons_self rfl
    have happ : upsert q.1 q.2 acc = acc ++ [q] := upsert_of_notMem habs
    rw [List.foldl_cons, happ, ih (by simpa using h), List.append_assoc, List.singleton_append]

end Assoc

end Dict

/-! ## The dictionary type -/

/-- An insertion-ordered dictionary: pairs with pairwise distinct keys. -/
structure Dict (κ ν : Type*) where
  entries : List (κ × ν)
  nodup : (entries.map Prod.fst).Nodup
  deriving DecidableEq

namespace Dict

variable {κ ν μ : Type*}

instance : Inhabited (Dict κ ν) := ⟨⟨[], List.nodup_nil⟩⟩

/-- The empty dictionary. -/
def empty : Dict κ ν := ⟨[], List.nodup_nil⟩

/-- Keys in insertion order. -/
def keys (d : Dict κ ν) : List κ := d.entries.map Prod.fst

/-- Values in insertion order. -/
def values (d : Dict κ ν) : List ν := d.entries.map Prod.snd

/-- Number of keys. -/
def size (d : Dict κ ν) : Nat := d.entries.length

/-- Keep the pairs that satisfy `p`. -/
def filter (d : Dict κ ν) (p : κ × ν → Bool) : Dict κ ν :=
  ⟨d.entries.filter p, d.nodup.sublist ((List.filter_sublist (l := d.entries)).map _)⟩

/-- Rewrite every value, keeping the keys and their order. -/
def mapValues (d : Dict κ ν) (f : κ → ν → μ) : Dict κ μ :=
  ⟨d.entries.map fun q => (q.1, f q.1 q.2), by
    rw [List.map_map, show (Prod.fst ∘ fun q : κ × ν => (q.1, f q.1 q.2)) = Prod.fst from rfl]
    exact d.nodup⟩

variable [DecidableEq κ]

/-- The value at `k`. -/
def get? (d : Dict κ ν) (k : κ) : Option ν := lookup k d.entries

/-- Whether `k` is a key. -/
def contains (d : Dict κ ν) (k : κ) : Bool := (d.get? k).isSome

/-- Assign `v` to `k`. -/
def insert (d : Dict κ ν) (k : κ) (v : ν) : Dict κ ν :=
  ⟨upsert k v d.entries, nodup_upsert d.nodup⟩

/-- Remove `k` if present. -/
def erase (d : Dict κ ν) (k : κ) : Dict κ ν := d.filter fun q => decide (q.1 ≠ k)

/-- Rewrite the value at `k` if present. -/
def modify (d : Dict κ ν) (k : κ) (f : ν → ν) : Dict κ ν :=
  d.mapValues fun k' v => if k' = k then f v else v

/-- Build a dictionary from pairs, later pairs overwriting earlier ones. -/
def ofList (l : List (κ × ν)) : Dict κ ν := l.foldl (fun d q => d.insert q.1 q.2) empty

@[simp] theorem get?_empty (k : κ) : (empty : Dict κ ν).get? k = none := rfl

theorem get?_insert (d : Dict κ ν) (k k' : κ) (v : ν) :
    (d.insert k v).get? k' = if k' = k then some v else d.get? k' :=
  lookup_upsert k k' v d.entries

@[simp] theorem get?_insert_self (d : Dict κ ν) (k : κ) (v : ν) :
    (d.insert k v).get? k = some v := by
  rw [get?_insert, if_pos rfl]

theorem get?_insert_of_ne (d : Dict κ ν) {k k' : κ} (v : ν) (h : k' ≠ k) :
    (d.insert k v).get? k' = d.get? k' := by
  rw [get?_insert, if_neg h]

theorem get?_filter (d : Dict κ ν) (p : κ × ν → Bool) (k : κ) :
    (d.filter p).get? k = (d.get? k).filter (fun v => p (k, v)) :=
  lookup_filter d.nodup

theorem get?_erase (d : Dict κ ν) (k k' : κ) :
    (d.erase k).get? k' = if k' = k then none else d.get? k' := by
  rw [erase, get?_filter]
  by_cases h : k' = k
  · rw [if_pos h]
    cases d.get? k' <;> simp [Option.filter, h]
  · rw [if_neg h]
    cases d.get? k' <;> simp [Option.filter, h]

@[simp] theorem get?_erase_self (d : Dict κ ν) (k : κ) : (d.erase k).get? k = none := by
  rw [get?_erase, if_pos rfl]

theorem get?_erase_of_ne (d : Dict κ ν) {k k' : κ} (h : k' ≠ k) :
    (d.erase k).get? k' = d.get? k' := by
  rw [get?_erase, if_neg h]

theorem get?_mapValues (d : Dict κ ν) (f : κ → ν → μ) (k : κ) :
    (d.mapValues f).get? k = (d.get? k).map (f k) :=
  lookup_map k f d.entries

theorem get?_modify (d : Dict κ ν) (k k' : κ) (f : ν → ν) :
    (d.modify k f).get? k' = if k' = k then (d.get? k').map f else d.get? k' := by
  rw [modify, get?_mapValues]
  by_cases h : k' = k
  · simp [h]
  · simp [h]

/-! ## Membership -/

theorem mem_entries_iff {d : Dict κ ν} {k : κ} {v : ν} :
    (k, v) ∈ d.entries ↔ d.get? k = some v :=
  ⟨lookup_of_mem d.nodup, mem_of_lookup⟩

theorem mem_keys_iff {d : Dict κ ν} {k : κ} : k ∈ d.keys ↔ ∃ v, d.get? k = some v := by
  rw [← Option.isSome_iff_exists, ← not_iff_not, Bool.not_eq_true, Option.isSome_eq_false_iff,
    Option.isNone_iff_eq_none]
  exact (lookup_eq_none_iff (l := d.entries)).symm

theorem mem_values_iff {d : Dict κ ν} {v : ν} : v ∈ d.values ↔ ∃ k, d.get? k = some v := by
  rw [values, List.mem_map]
  constructor
  · rintro ⟨⟨k, v'⟩, hmem, rfl⟩
    exact ⟨k, mem_entries_iff.mp hmem⟩
  · rintro ⟨k, hk⟩
    exact ⟨(k, v), mem_entries_iff.mpr hk, rfl⟩

/-! ## Members after an update -/

/-- Assigning pairs with distinct keys one after the other overwrites with them. -/
theorem get?_foldl_insert (f : ν → μ) {l : List (κ × ν)} (hnd : (l.map Prod.fst).Nodup)
    (acc : Dict κ μ) (k : κ) :
    (l.foldl (fun d q => d.insert q.1 (f q.2)) acc).get? k =
      ((lookup k l).map f).or (acc.get? k) := by
  induction l generalizing acc with
  | nil => simp [lookup]
  | cons q rest ih =>
    obtain ⟨k₀, v₀⟩ := q
    rw [List.map_cons, List.nodup_cons] at hnd
    rw [List.foldl_cons, ih hnd.2, get?_insert]
    by_cases hk : k = k₀
    · subst hk
      have hnone : lookup k rest = none := lookup_eq_none_iff.mpr hnd.1
      simp [lookup, hnone]
    · have hk' : ¬ k₀ = k := fun e => hk e.symm
      simp [lookup, hk, hk']

/-- A value of a table built from pairs is that of one of the pairs. -/
theorem mem_of_get?_ofList {l : List (κ × ν)} {k : κ} {v : ν} (h : (ofList l).get? k = some v) :
    (k, v) ∈ l := by
  have hfold : ∀ (l : List (κ × ν)) (acc : Dict κ ν),
      (l.foldl (fun d q => d.insert q.1 q.2) acc).get? k = some v →
      (k, v) ∈ l ∨ acc.get? k = some v := by
    intro l
    induction l with
    | nil => exact fun acc h => .inr h
    | cons q rest ih =>
      intro acc h
      rcases ih _ h with hmem | hacc
      · exact .inl (List.mem_cons_of_mem _ hmem)
      · rw [get?_insert] at hacc
        split at hacc
        · next heq =>
          cases hacc
          rw [heq]
          exact .inl List.mem_cons_self
        · exact .inr hacc
  exact (hfold l empty h).resolve_right fun hnone => by cases hnone

/-- Every key of the pairs is a key of the table. -/
theorem exists_get?_ofList {l : List (κ × ν)} {k : κ} (h : k ∈ l.map Prod.fst) :
    ∃ v, (ofList l).get? k = some v := by
  have hfold : ∀ (l : List (κ × ν)) (acc : Dict κ ν),
      k ∈ l.map Prod.fst ∨ (∃ v, acc.get? k = some v) →
      ∃ v, (l.foldl (fun d q => d.insert q.1 q.2) acc).get? k = some v := by
    intro l
    induction l with
    | nil => exact fun acc h => h.resolve_left List.not_mem_nil
    | cons q rest ih =>
      intro acc h
      refine ih _ ?_
      rw [get?_insert]
      by_cases heq : k = q.1
      · exact .inr ⟨q.2, if_pos heq⟩
      · rw [if_neg heq]
        rw [List.map_cons, List.mem_cons, or_iff_right heq] at h
        exact h
  exact hfold l empty (.inl h)

/-- Building from the pairs of a dictionary, in any order, gives back its lookups. -/
theorem get?_ofList_of_perm {d : Dict κ ν} {l : List (κ × ν)} (h : l.Perm d.entries) (k : κ) :
    (ofList l).get? k = d.get? k := by
  have hnd : (l.map Prod.fst).Nodup := (h.map Prod.fst).nodup_iff.mpr d.nodup
  have hfold := get?_foldl_insert id hnd empty k
  rw [Option.map_id, id, get?_empty, Option.or_none] at hfold
  exact hfold.trans (lookup_eq_of_perm hnd h)

/-- Building from pairs with distinct keys looks up exactly these pairs. -/
theorem get?_ofList_eq_some_iff {l : List (κ × ν)} (h : (l.map Prod.fst).Nodup) {k : κ} {v : ν} :
    (ofList l).get? k = some v ↔ (k, v) ∈ l := by
  rw [get?_ofList_of_perm (d := ⟨l, h⟩) (List.Perm.refl l), ← mem_entries_iff]

/-- The members of a list by a key; where two have the same, the later one. -/
def indexOn {α : Type*} (f : α → κ) (l : List α) : Dict κ α := ofList (l.map fun a => (f a, a))

theorem get?_indexOn_eq_some_iff {α : Type*} {f : α → κ} {l : List α} (h : (l.map f).Nodup) {k : κ}
    {a : α} : (indexOn f l).get? k = some a ↔ a ∈ l ∧ f a = k := by
  have hkeys : ((l.map fun a => (f a, a)).map Prod.fst).Nodup := by
    rw [List.map_map]
    exact h
  rw [indexOn, get?_ofList_eq_some_iff hkeys, List.mem_map]
  constructor
  · rintro ⟨a', ha', heq⟩
    cases heq
    exact ⟨ha', rfl⟩
  · rintro ⟨ha, rfl⟩
    exact ⟨a, ha, rfl⟩

/-- Where the key separates the members, the index depends on the members only. -/
theorem get?_indexOn_of_perm {α : Type*} {f : α → κ} {l l' : List α} (hperm : l.Perm l')
    (h : (l.map f).Nodup) (k : κ) : (indexOn f l).get? k = (indexOn f l').get? k := by
  refine Option.ext fun a => ?_
  rw [get?_indexOn_eq_some_iff h, get?_indexOn_eq_some_iff ((hperm.map f).nodup_iff.mp h),
    hperm.mem_iff]

theorem entries_insert_perm (d : Dict κ ν) (k : κ) (v : ν) :
    (d.insert k v).entries.Perm ((k, v) :: (d.erase k).entries) :=
  upsert_perm k v d.nodup

theorem entries_perm_of_get? {d : Dict κ ν} {k : κ} {v : ν} (h : d.get? k = some v) :
    d.entries.Perm ((k, v) :: (d.erase k).entries) := by
  have hself : (d.insert k v).entries.Perm d.entries := by
    refine (List.perm_ext_iff_of_nodup (d.insert k v).nodup.of_map d.nodup.of_map).mpr ?_
    rintro ⟨k', v'⟩
    rw [mem_entries_iff, mem_entries_iff, get?_insert]
    by_cases hk : k' = k
    · rw [if_pos hk, hk, h]
    · rw [if_neg hk]
  exact hself.symm.trans (d.entries_insert_perm k v)

theorem values_insert_perm (d : Dict κ ν) (k : κ) (v : ν) :
    (d.insert k v).values.Perm (v :: (d.erase k).values) :=
  (d.entries_insert_perm k v).map Prod.snd

theorem values_perm_of_get? {d : Dict κ ν} {k : κ} {v : ν} (h : d.get? k = some v) :
    d.values.Perm (v :: (d.erase k).values) :=
  (entries_perm_of_get? h).map Prod.snd

theorem insert_eq_self {d : Dict κ ν} {k : κ} {v : ν} (h : d.get? k = some v) :
    d.insert k v = d := by
  obtain ⟨entries, hnodup⟩ := d
  simp only [insert, Dict.mk.injEq]
  exact upsert_of_lookup h

theorem erase_eq_self {d : Dict κ ν} {k : κ} (h : d.get? k = none) : d.erase k = d := by
  have hfilter : d.entries.filter (fun q => decide (q.1 ≠ k)) = d.entries := by
    rw [List.filter_eq_self]
    rintro ⟨k', v'⟩ hmem
    have hne : k' ≠ k := by
      rintro rfl
      rw [mem_entries_iff.mp hmem] at h
      cases h
    simpa using hne
  cases d
  simp only [erase, filter, Dict.mk.injEq]
  exact hfilter

/-- Assigning to a key that is there keeps the keys. -/
theorem keys_insert_of_get? {d : Dict κ ν} {k : κ} {v : ν} (h : d.get? k ≠ none) :
    (d.insert k v).keys = d.keys := by
  obtain ⟨v', hget⟩ := Option.ne_none_iff_exists'.mp h
  have hmem : k ∈ d.keys := mem_keys_iff.mpr ⟨v', hget⟩
  exact (map_fst_upsert k v d.entries).trans (if_pos hmem)

theorem keys_erase_sublist (d : Dict κ ν) (k : κ) : (d.erase k).keys.Sublist d.keys :=
  List.filter_sublist.map _

/-- A new key is one more. -/
theorem size_insert_of_get?_eq_none {d : Dict κ ν} {k : κ} (v : ν) (h : d.get? k = none) :
    (d.insert k v).size = d.size + 1 := by
  have hperm := d.entries_insert_perm k v
  rw [erase_eq_self h] at hperm
  exact hperm.length_eq

theorem contains_iff {d : Dict κ ν} {k : κ} : d.contains k = true ↔ ∃ v, d.get? k = some v :=
  Option.isSome_iff_exists

theorem contains_eq_false_iff {d : Dict κ ν} {k : κ} :
    d.contains k = false ↔ d.get? k = none := by
  rw [contains, Option.isSome_eq_false_iff, Option.isNone_iff_eq_none]

end Dict
