import LlmMaxxing.Lib.PyValue
import LlmMaxxing.Lib.JsonRoundTrip
import Mathlib.Data.List.TakeWhile

/-!
# Canonical text tells values apart

Two values that have a canonical text share it exactly when they are equal as Python values, once
frozen, and hold values of the same kind in every place (`canonicalBytes_eq_iff`). Read with the
text that follows, a value ends where its text does, so the proof goes over texts with a rest.
-/

namespace PyValue

open Json

/-- Induction with the hypothesis for every member of a container. -/
theorem induct {P : PyValue → Prop} (none : P .none) (bool : ∀ b, P (.bool b))
    (int : ∀ n, P (.int n)) (float : ∀ x, P (.float x)) (str : ∀ s, P (.str s))
    (list : ∀ items : List PyValue, (∀ v ∈ items, P v) → P (.list items))
    (tuple : ∀ items : List PyValue, (∀ v ∈ items, P v) → P (.tuple items))
    (dict : ∀ fields : List (String × PyValue), (∀ q ∈ fields, P q.2) → P (.dict fields))
    (secret : ∀ v, P v → P (.secret v)) : ∀ v, P v := by
  intro v
  refine @PyValue.rec P (fun items => ∀ v ∈ items, P v) (fun fields => ∀ q ∈ fields, P q.2)
    (fun q => P q.2) none bool int float str list tuple dict secret ?_ ?_ ?_ ?_ ?_ v
  · simp
  · intro head tail hhead htail
    exact List.forall_mem_cons.mpr ⟨hhead, htail⟩
  · simp
  · intro head tail hhead htail
    exact List.forall_mem_cons.mpr ⟨hhead, htail⟩
  · exact fun _ _ h => h

/-! ## Containers -/

theorem serializable_list_iff {items : List PyValue} :
    (PyValue.list items).serializable = true ↔ ∀ v ∈ items, v.serializable = true := by
  rw [serializable]
  induction items with
  | nil => simp [serializableItems]
  | cons v rest ih => simp [serializableItems, ih]

theorem serializable_dict_iff {fields : List (String × PyValue)} :
    (PyValue.dict fields).serializable = true ↔ ∀ q ∈ fields, q.2.serializable = true := by
  rw [serializable]
  induction fields with
  | nil => simp [serializableFields]
  | cons q rest ih =>
    rw [serializableFields, List.forall_mem_cons, Bool.and_eq_true, ih]

theorem distinct_list_iff {items : List PyValue} :
    (PyValue.list items).distinct = true ↔ ∀ v ∈ items, v.distinct = true := by
  rw [distinct]
  induction items with
  | nil => simp [distinctItems]
  | cons v rest ih => simp [distinctItems, ih]

theorem distinct_dict_iff {fields : List (String × PyValue)} :
    (PyValue.dict fields).distinct = true ↔
      (fields.map Prod.fst).Nodup ∧ ∀ q ∈ fields, q.2.distinct = true := by
  have hfields : distinctFields fields = true ↔ ∀ q ∈ fields, q.2.distinct = true := by
    induction fields with
    | nil => simp [distinctFields]
    | cons q rest ih => rw [distinctFields, List.forall_mem_cons, Bool.and_eq_true, ih]
  rw [distinct, Bool.and_eq_true, decide_eq_true_iff, hfields]

theorem freezeItems_eq (items : List PyValue) : freezeItems items = items.map freeze := by
  induction items with
  | nil => rfl
  | cons v rest ih => rw [freezeItems, ih, List.map_cons]

theorem freezeFields_eq (fields : List (String × PyValue)) :
    freezeFields fields = fields.map fun q => (q.1, q.2.freeze) := by
  induction fields with
  | nil => rfl
  | cons q rest ih => rw [freezeFields, ih, List.map_cons]

/-- Equal once frozen, and of one kind in every place. -/
structure Alike (a b : PyValue) : Prop where
  eq_freeze : eq a.freeze b.freeze = true
  kinds : sameKinds a b = true

theorem eqItems_iff {as bs : List PyValue} :
    eqItems as bs = true ↔ List.Forall₂ (fun a b => eq a b = true) as bs := by
  induction as generalizing bs with
  | nil => cases bs <;> simp [eqItems]
  | cons a as ih => cases bs <;> simp [eqItems, ih]

theorem alike_list_iff {as bs : List PyValue} :
    Alike (.list as) (.list bs) ↔ List.Forall₂ Alike as bs := by
  have heq : eq (PyValue.list as).freeze (PyValue.list bs).freeze = true ↔
      List.Forall₂ (fun a b => eq a.freeze b.freeze = true) as bs := by
    rw [freeze, freeze, eq, eqItems_iff, freezeItems_eq, freezeItems_eq, List.forall₂_map_left_iff,
      List.forall₂_map_right_iff]
  constructor
  · rintro ⟨h, hkinds⟩
    rw [heq] at h
    rw [sameKinds] at hkinds
    induction h with
    | nil => exact .nil
    | cons hab _ ih =>
      rw [sameKindsItems, Bool.and_eq_true] at hkinds
      exact .cons ⟨hab, hkinds.1⟩ (ih (by rw [freeze, freeze, eq, eqItems_iff, freezeItems_eq,
        freezeItems_eq, List.forall₂_map_left_iff, List.forall₂_map_right_iff]) hkinds.2)
  · intro h
    refine ⟨heq.mpr (h.imp fun _ _ hab => hab.eq_freeze), ?_⟩
    rw [sameKinds]
    clear heq
    induction h with
    | nil => rfl
    | cons hab _ ih => rw [sameKindsItems, hab.kinds, ih]; rfl

theorem eqFields_iff {as bs : List (String × PyValue)} :
    eqFields as bs = true ↔ ∀ q ∈ as, ∃ b, Dict.lookup q.1 bs = some b ∧ eq q.2 b = true := by
  induction as with
  | nil => simp [eqFields]
  | cons q rest ih =>
    rw [eqFields, Bool.and_eq_true, ih, List.forall_mem_cons]
    cases Dict.lookup q.1 bs <;> simp

theorem sameKindsFields_iff {as bs : List (String × PyValue)} :
    sameKindsFields as bs = true ↔
      ∀ q ∈ as, ∀ b, Dict.lookup q.1 bs = some b → sameKinds q.2 b = true := by
  induction as with
  | nil => simp [sameKindsFields]
  | cons q rest ih =>
    rw [sameKindsFields, Bool.and_eq_true, ih, List.forall_mem_cons]
    cases Dict.lookup q.1 bs <;> simp

/-- A JSON value equals itself. -/
theorem eq_self (a : PyValue) : a.distinct = true → a.serializable = true → eq a a = true := by
  induction a using PyValue.induct with
  | none => exact fun _ _ => by simp [eq]
  | bool b => exact fun _ _ => by simp [eq, number?]
  | int n => exact fun _ _ => by simp [eq, number?]
  | float x =>
    intro _ hs
    obtain ⟨y, hy⟩ := Option.isSome_iff_exists.mp hs
    simp [eq, number?, hy]
  | str s => exact fun _ _ => by simp [eq]
  | list items ih =>
    intro hd hs
    rw [distinct_list_iff] at hd
    rw [serializable_list_iff] at hs
    rw [eq, eqItems_iff, List.forall₂_same]
    exact fun v hv => ih v hv (hd v hv) (hs v hv)
  | dict fields ih =>
    intro hd hs
    rw [distinct_dict_iff] at hd
    rw [serializable_dict_iff] at hs
    rw [eq, beq_self_eq_true, Bool.true_and, eqFields_iff]
    exact fun q hq => ⟨q.2, Dict.lookup_of_mem hd.1 hq, ih q hq (hd.2 q hq) (hs q hq)⟩
  | tuple items => exact fun _ hs => absurd hs (by simp [serializable])
  | secret v => exact fun _ hs => absurd hs (by simp [serializable])

/-- Dictionaries are alike when they have as many entries and alike values under each key. -/
theorem alike_dict_iff {as bs : List (String × PyValue)} :
    Alike (.dict as) (.dict bs) ↔ as.length = bs.length ∧
      ∀ q ∈ as, ∃ b, Dict.lookup q.1 bs = some b ∧ Alike q.2 b := by
  have heq : eq (PyValue.dict as).freeze (PyValue.dict bs).freeze = true ↔
      as.length = bs.length ∧
        ∀ q ∈ as, ∃ b, Dict.lookup q.1 bs = some b ∧ eq q.2.freeze b.freeze = true := by
    rw [freeze, freeze, eq, freezeFields_eq, freezeFields_eq, Bool.and_eq_true, beq_iff_eq,
      List.length_map, List.length_map, eqFields_iff, List.forall_mem_map]
    simp only [Dict.lookup_map _ fun _ v => freeze v, Option.map_eq_some_iff]
    refine and_congr_right fun _ => forall₂_congr fun q _ => ?_
    constructor
    · rintro ⟨_, ⟨b, hb, rfl⟩, h⟩
      exact ⟨b, hb, h⟩
    · rintro ⟨b, hb, h⟩
      exact ⟨_, ⟨b, hb, rfl⟩, h⟩
  constructor
  · rintro ⟨h, hkinds⟩
    obtain ⟨hlen, hall⟩ := heq.mp h
    rw [sameKinds, sameKindsFields_iff] at hkinds
    refine ⟨hlen, fun q hq => ?_⟩
    obtain ⟨b, hb, hqb⟩ := hall q hq
    exact ⟨b, hb, hqb, hkinds q hq b hb⟩
  · rintro ⟨hlen, hall⟩
    refine ⟨heq.mpr ⟨hlen, fun q hq => ?_⟩, ?_⟩
    · obtain ⟨b, hb, hqb⟩ := hall q hq
      exact ⟨b, hb, hqb.eq_freeze⟩
    · rw [sameKinds, sameKindsFields_iff]
      intro q hq b hb
      obtain ⟨b', hb', hqb⟩ := hall q hq
      rw [hb] at hb'
      exact Option.some.inj hb' ▸ hqb.kinds

/-! ## Numbers -/

theorem isNumberChar_of_mem_intText {n : Int} {c : Char} (h : c ∈ intText n) :
    isNumberChar c = true := by
  have hdigit : ∀ {m : Nat}, c ∈ Nat.toDigits 10 m → isNumberChar c = true := fun hm => by
    rw [isNumberChar, Nat.isDigit_of_mem_toDigits (by decide) (by decide) hm]
    rfl
  cases n with
  | ofNat m => exact hdigit h
  | negSucc m =>
    rcases List.mem_cons.mp h with rfl | h
    · rfl
    · exact hdigit h

theorem toDigits_injective : Function.Injective (Nat.toDigits 10) := fun m n h => by
  rw [← Nat.ofDigitChars_ten_toDigits (n := m), h, Nat.ofDigitChars_ten_toDigits]

theorem toDigits_ne_minus (m : Nat) (cs : List Char) : Nat.toDigits 10 m ≠ '-' :: cs := by
  intro h
  have hdigit : '-'.isDigit = true :=
    Nat.isDigit_of_mem_toDigits (by decide) (by decide) (h ▸ List.mem_cons_self)
  exact absurd hdigit (by decide)

theorem intText_injective : Function.Injective intText := by
  intro m n h
  cases m with
  | ofNat a =>
    cases n with
    | ofNat b => rw [toDigits_injective h]
    | negSucc b => exact absurd h (toDigits_ne_minus a _)
  | negSucc a =>
    cases n with
    | ofNat b => exact absurd h.symm (toDigits_ne_minus b _)
    | negSucc b =>
      have hab := toDigits_injective (List.cons.inj h).2
      rw [Nat.succ.inj hab]

/-- The numerator, and the denominator after a point where there is one. -/
def fractionText (x : ℚ) : List Char :=
  if x.den = 1 then intText x.num else intText x.num ++ '.' :: Nat.toDigits 10 x.den

theorem ne_point_of_mem_intText {n : Int} {c : Char} (h : c ∈ intText n) : (c != '.') = true := by
  have hdigit : ∀ {m : Nat}, c ∈ Nat.toDigits 10 m → (c != '.') = true := fun {m} hm => by
    have hd := Nat.isDigit_of_mem_toDigits (by decide) (by decide) hm
    rw [bne_iff_ne]
    rintro rfl
    exact absurd hd (by decide)
  cases n with
  | ofNat m => exact hdigit h
  | negSucc m =>
    rcases List.mem_cons.mp h with rfl | h
    · rfl
    · exact hdigit h

theorem fractionText_injective : Function.Injective fractionText := by
  intro x y h
  have htake : ∀ z : ℚ, (fractionText z).takeWhile (· != '.') = intText z.num := by
    intro z
    rw [fractionText]
    split
    · exact List.takeWhile_eq_self_iff.mpr fun c hc => ne_point_of_mem_intText hc
    · rw [List.takeWhile_append_of_pos fun c hc => ne_point_of_mem_intText hc]
      simp
  have hdrop : ∀ z : ℚ, (fractionText z).dropWhile (· != '.') =
      if z.den = 1 then [] else '.' :: Nat.toDigits 10 z.den := by
    intro z
    rw [fractionText]
    split
    · exact List.dropWhile_eq_nil_iff.mpr fun c hc => ne_point_of_mem_intText hc
    · rw [List.dropWhile_append_of_pos fun c hc => ne_point_of_mem_intText hc]
      simp
  have hnum : x.num = y.num := intText_injective (by rw [← htake, ← htake, h])
  have hden : x.den = y.den := by
    have hd := hdrop x
    rw [h, hdrop] at hd
    split at hd <;> split at hd
    · simp_all
    · cases hd
    · cases hd
    · exact (toDigits_injective (List.cons.inj hd).2).symm
  exact Rat.ext hnum hden

/-- Fractions as texts. -/
def FloatText.fractions : FloatText where
  text := fractionText
  injective := fractionText_injective
  int_text n _ := by simp [fractionText]
  ne_nil x := by
    have hne : intText x.num ≠ [] := by
      obtain ⟨c, cs, h, -⟩ := intText_head x.num
      rw [h]
      exact List.cons_ne_nil c cs
    rw [fractionText]
    split <;> simp [hne]
  chars x c hc := by
    rw [fractionText] at hc
    split at hc
    · exact isNumberChar_of_mem_intText hc
    · rcases List.mem_append.mp hc with hc | hc
      · exact isNumberChar_of_mem_intText hc
      · rcases List.mem_cons.mp hc with rfl | hc
        · rfl
        · exact isNumberChar_of_mem_intText (n := x.den) hc

/-! ## Keys -/

/-- The code units of a character, before any rest, tell it from every other. -/
theorem codeUnits_append_inj {c d : Char} {r s : List Nat}
    (h : (if c.toNat < 0x10000 then [c.toNat]
        else [0xd800 + (c.toNat - 0x10000) / 0x400, 0xdc00 + (c.toNat - 0x10000) % 0x400]) ++ r =
      (if d.toNat < 0x10000 then [d.toNat]
        else [0xd800 + (d.toNat - 0x10000) / 0x400, 0xdc00 + (d.toNat - 0x10000) % 0x400]) ++ s) :
    c = d ∧ r = s := by
  have hvalid : ∀ e : Char, e.toNat < 0xd800 ∨ (0xdfff < e.toNat ∧ e.toNat < 0x110000) :=
    fun e => e.valid
  have hc := hvalid c
  have hd := hvalid d
  have heq : c.toNat = d.toNat → c = d := fun h => by
    rw [← Char.ofNat_toNat c, h, Char.ofNat_toNat]
  -- A single unit is no surrogate, so the first unit says how many there are.
  split at h <;> split at h <;>
    simp only [List.cons_append, List.nil_append, List.cons.injEq] at h
  · exact ⟨heq h.1, h.2⟩
  · omega
  · omega
  · exact ⟨heq (by omega), h.2.2⟩

theorem utf16_injective : Function.Injective utf16 := by
  have hlist : ∀ l m : List Char,
      l.flatMap (fun c => if c.toNat < 0x10000 then [c.toNat]
        else [0xd800 + (c.toNat - 0x10000) / 0x400, 0xdc00 + (c.toNat - 0x10000) % 0x400]) =
      m.flatMap (fun c => if c.toNat < 0x10000 then [c.toNat]
        else [0xd800 + (c.toNat - 0x10000) / 0x400, 0xdc00 + (c.toNat - 0x10000) % 0x400]) →
      l = m := by
    intro l
    induction l with
    | nil =>
      intro m h
      cases m with
      | nil => rfl
      | cons d m =>
        rw [List.flatMap_nil, List.flatMap_cons] at h
        split at h <;> cases h
    | cons c l ih =>
      intro m h
      cases m with
      | nil =>
        rw [List.flatMap_nil, List.flatMap_cons] at h
        split at h <;> cases h
      | cons d m =>
        rw [List.flatMap_cons, List.flatMap_cons] at h
        obtain ⟨rfl, hrest⟩ := codeUnits_append_inj h
        rw [ih m hrest]
  intro a b h
  exact String.toList_inj.mp (hlist _ _ h)

/-! ## Texts with a rest -/

section Texts

variable {F : FloatText}

theorem textItems_eq (items : List PyValue) : textItems F items = items.map (text F) := by
  induction items with
  | nil => rfl
  | cons v rest ih => rw [textItems, ih, List.map_cons]

theorem textFields_eq (fields : List (String × PyValue)) :
    textFields F fields = fields.map fun q => (q.1, q.2.text F) := by
  induction fields with
  | nil => rfl
  | cons q rest ih => rw [textFields, ih, List.map_cons]

/-- What a text that starts with the character is: all numbers are one. -/
def charShape (c : Char) : Char := if isNumberChar c then '0' else c

def shape : PyValue → Char
  | .none => 'n'
  | .bool true => 't'
  | .bool false => 'f'
  | .int _ | .float _ => '0'
  | .str _ => '"'
  | .list _ => '['
  | .dict _ => '{'
  | .tuple _ | .secret _ => '?'

theorem eq_int_or_float {v : PyValue} (h : v.shape = '0') :
    (∃ n, v = .int n) ∨ ∃ x, v = .float x := by
  cases v with
  | int n => exact Or.inl ⟨n, rfl⟩
  | float x => exact Or.inr ⟨x, rfl⟩
  | bool b => cases b <;> simp [shape] at h
  | _ => simp [shape] at h

/-- Numbers are equal when their values are. -/
theorem eq_freeze_number_iff {a b : PyValue} (ha : a.shape = '0') (hb : b.shape = '0') :
    eq a.freeze b.freeze = true ↔ ∃ x, a.number? = some x ∧ b.number? = some x := by
  have hcompare : eq a.freeze b.freeze =
      a.number?.elim false fun x => b.number?.elim false fun y => x == y := by
    rcases eq_int_or_float ha with ⟨n, rfl⟩ | ⟨x, rfl⟩ <;>
      rcases eq_int_or_float hb with ⟨m, rfl⟩ | ⟨y, rfl⟩ <;> simp only [freeze, eq] <;>
      cases number? _ <;> cases number? _ <;> rfl
  rw [hcompare]
  cases hx : a.number? with
  | none => simp
  | some x =>
    cases hy : b.number? with
    | none => simp
    | some y =>
      constructor
      · intro h
        exact ⟨x, rfl, by rw [beq_iff_eq.mp h]⟩
      · rintro ⟨z, hxz, hyz⟩
        exact beq_iff_eq.mpr ((Option.some.inj hxz).trans (Option.some.inj hyz).symm)

/-- The text of a number is that of its value. -/
theorem number_text {v : PyValue} (hv : v.serializable = true) (hshape : v.shape = '0') :
    ∃ x, v.number? = some x ∧ v.text F = F.text x := by
  rcases eq_int_or_float hshape with ⟨n, rfl⟩ | ⟨x, rfl⟩
  · exact ⟨n, rfl, (F.int_text n hv).symm⟩
  · obtain ⟨y, hy⟩ := Option.isSome_iff_exists.mp hv
    refine ⟨y, hy, ?_⟩
    rw [text, hy]
    rfl

/-- The first character tells the shape. -/
theorem text_head {v : PyValue} (hv : v.serializable = true) :
    ∃ c cs, v.text F = c :: cs ∧ charShape c = v.shape := by
  by_cases hnum : v.shape = '0'
  · obtain ⟨x, -, htext⟩ := number_text (F := F) hv hnum
    obtain ⟨c, cs, hcs⟩ := List.exists_cons_of_ne_nil (F.ne_nil x)
    refine ⟨c, cs, htext.trans hcs, ?_⟩
    rw [charShape, F.chars x c (hcs ▸ List.mem_cons_self), if_pos rfl, hnum]
  · cases v with
    | none => exact ⟨_, _, rfl, rfl⟩
    | bool b => cases b <;> exact ⟨_, _, rfl, rfl⟩
    | str s => exact ⟨_, _, rfl, rfl⟩
    | list items => exact ⟨_, _, rfl, rfl⟩
    | dict fields => exact ⟨_, _, rfl, rfl⟩
    | int n => exact absurd rfl hnum
    | float x => exact absurd rfl hnum
    | tuple items => exact absurd hv (by simp [serializable])
    | secret v => exact absurd hv (by simp [serializable])

/-- Numbers of one value are alike. -/
theorem alike_of_number {a b : PyValue} (ha : a.serializable = true) (hb : b.serializable = true)
    (hashape : a.shape = '0') (hbshape : b.shape = '0') (h : a.number? = b.number?) :
    Alike a b := by
  obtain ⟨x, hx, -⟩ := number_text (F := .fractions) ha hashape
  have hy : b.number? = some x := h.symm.trans hx
  refine ⟨(eq_freeze_number_iff hashape hbshape).mpr ⟨x, hx, hy⟩, ?_⟩
  rcases eq_int_or_float hashape with ⟨n, rfl⟩ | ⟨y, rfl⟩ <;>
    rcases eq_int_or_float hbshape with ⟨m, rfl⟩ | ⟨z, rfl⟩
  · exact ha
  · exact ha
  · rfl
  · rfl

/-- The rest does not go on with a number. -/
def Ends (rest : List Char) : Prop := ∀ c, rest.head? = some c → isNumberChar c = false

theorem ends_cons {c : Char} (cs : List Char) (h : isNumberChar c = false) : Ends (c :: cs) := by
  intro d hd
  cases hd
  exact h

/-- The text of the value, before any rest, tells it from every other value. -/
def Tells (F : FloatText) (a : PyValue) : Prop :=
  ∀ (b : PyValue) (r s : List Char), b.serializable = true → b.distinct = true → Ends r → Ends s →
    a.text F ++ r = b.text F ++ s → Alike a b ∧ r = s

/-- Values whose texts begin alike have one shape. -/
theorem shape_eq {a b : PyValue} {r s : List Char} (ha : a.serializable = true)
    (hb : b.serializable = true) (h : a.text F ++ r = b.text F ++ s) : a.shape = b.shape := by
  obtain ⟨c, cs, hc, hcshape⟩ := text_head (F := F) ha
  obtain ⟨d, ds, hd, hdshape⟩ := text_head (F := F) hb
  rw [hc, hd, List.cons_append, List.cons_append] at h
  rw [← hcshape, ← hdshape, (List.cons.inj h).1]

theorem tells_number {a : PyValue} (ha : a.serializable = true) (hashape : a.shape = '0') :
    Tells F a := by
  intro b r s hb _ hr hs h
  have hbshape : b.shape = '0' := (shape_eq ha hb h).symm.trans hashape
  obtain ⟨x, hx, hatext⟩ := number_text (F := F) ha hashape
  obtain ⟨y, hy, hbtext⟩ := number_text (F := F) hb hbshape
  rw [hatext, hbtext] at h
  have hsplit : ∀ (z : ℚ) (rest : List Char), Ends rest →
      (F.text z ++ rest).takeWhile isNumberChar = F.text z ∧
        (F.text z ++ rest).dropWhile isNumberChar = rest := by
    intro z rest hrest
    have hall := F.chars z
    rw [List.takeWhile_append_of_pos hall, List.dropWhile_append_of_pos hall]
    cases rest with
    | nil => simp
    | cons c cs =>
      have hc := hrest c rfl
      simp [hc]
  obtain ⟨hxtake, hxdrop⟩ := hsplit x r hr
  obtain ⟨hytake, hydrop⟩ := hsplit y s hs
  have hxy : x = y := F.injective (by rw [← hxtake, ← hytake, h])
  exact ⟨alike_of_number ha hb hashape hbshape (by rw [hx, hy, hxy]), by rw [← hxdrop, ← hydrop, h]⟩

theorem quote_append_inj {x y : String} {r s : List Char} (h : quote x ++ r = quote y ++ s) :
    x = y ∧ r = s := by
  have hparse : ∀ (z : String) (rest : List Char),
      parseString ((quote z ++ rest).tail) = some (z.toList, rest) := by
    intro z rest
    rw [quote, List.cons_append, List.tail_cons, List.append_assoc, List.singleton_append,
      parseString_escape]
  have hx := hparse x r
  rw [h, hparse] at hx
  obtain ⟨hlist, hrest⟩ := Prod.mk.inj (Option.some.inj hx)
  exact ⟨String.toList_inj.mp hlist.symm, hrest.symm⟩

/-- Items between commas are told apart when each item is. -/
theorem commaSep_tells {α : Type*} {f : α → List Char} {R : α → α → Prop} {close : Char}
    (hclose : isNumberChar close = false) (hcomma : close ≠ ',') {as bs : List α}
    (htells : ∀ a ∈ as, ∀ b ∈ bs, ∀ r s, Ends r → Ends s → f a ++ r = f b ++ s → R a b ∧ r = s)
    (hahead : ∀ a ∈ as, (f a).head?.any (· != close) = true)
    (hbhead : ∀ b ∈ bs, (f b).head?.any (· != close) = true) {r s : List Char}
    (h : commaSep (as.map f) ++ close :: r = commaSep (bs.map f) ++ close :: s) :
    List.Forall₂ R as bs ∧ r = s := by
  have hopen : ∀ (x : α) (rest after : List Char), (f x).head?.any (· != close) = true →
      f x ++ rest ≠ close :: after := by
    intro x rest after hx heq
    cases hfx : f x with
    | nil => simp [hfx] at hx
    | cons c cs =>
      rw [hfx, List.cons_append] at heq
      simp [hfx, (List.cons.inj heq).1] at hx
  have hends : Ends (close :: r) ∧ Ends (close :: s) :=
    ⟨ends_cons r hclose, ends_cons s hclose⟩
  have hcommas : ∀ rest, Ends (',' :: rest) := fun rest => ends_cons rest (by decide)
  induction as generalizing bs with
  | nil =>
    cases bs with
    | nil => exact ⟨.nil, (List.cons.inj h).2⟩
    | cons b bs =>
      have hb := hbhead b List.mem_cons_self
      cases bs with
      | nil => exact absurd h.symm (hopen b _ _ hb)
      | cons b' bs =>
        rw [List.map_cons, List.map_cons, commaSep, List.append_assoc] at h
        exact absurd h.symm (hopen b _ _ hb)
  | cons a as ih =>
    have ha := hahead a List.mem_cons_self
    cases bs with
    | nil =>
      cases as with
      | nil => exact absurd h (hopen a _ _ ha)
      | cons a' as =>
        rw [List.map_cons, List.map_cons, commaSep, List.append_assoc] at h
        exact absurd h (hopen a _ _ ha)
    | cons b bs =>
      have hfirst := htells a List.mem_cons_self b List.mem_cons_self
      cases as with
      | nil =>
        cases bs with
        | nil =>
          obtain ⟨hab, hrest⟩ := hfirst _ _ hends.1 hends.2 h
          exact ⟨.cons hab .nil, (List.cons.inj hrest).2⟩
        | cons b' bs =>
          rw [List.map_cons, List.map_nil, List.map_cons, List.map_cons, commaSep, commaSep,
            List.append_assoc] at h
          obtain ⟨-, hrest⟩ := hfirst _ _ hends.1 (hcommas _) h
          exact absurd (List.cons.inj hrest).1 hcomma
      | cons a' as =>
        cases bs with
        | nil =>
          rw [List.map_cons, List.map_cons, List.map_cons, List.map_nil, commaSep, commaSep,
            List.append_assoc] at h
          obtain ⟨-, hrest⟩ := hfirst _ _ (hcommas _) hends.2 h
          exact absurd (List.cons.inj hrest).1.symm hcomma
        | cons b' bs =>
          rw [List.map_cons, List.map_cons, List.map_cons, List.map_cons, commaSep, commaSep,
            List.append_assoc, List.append_assoc] at h
          obtain ⟨hab, hrest⟩ := hfirst _ _ (hcommas _) (hcommas _) h
          obtain ⟨htail, hrs⟩ := ih
            (fun x hx y hy => htells x (List.mem_cons_of_mem a hx) y (List.mem_cons_of_mem b hy))
            (fun x hx => hahead x (List.mem_cons_of_mem a hx))
            (fun y hy => hbhead y (List.mem_cons_of_mem b hy)) (List.cons.inj hrest).2
          exact ⟨.cons hab htail, hrs⟩

theorem tells_str (x : String) : Tells F (.str x) := by
  intro b r s hb _ _ _ h
  have hshape : b.shape = '"' := (shape_eq rfl hb h).symm
  cases b with
  | str y =>
    obtain ⟨rfl, hrest⟩ := quote_append_inj h
    exact ⟨⟨by simp [freeze, eq], rfl⟩, hrest⟩
  | bool b => cases b <;> simp [shape] at hshape
  | _ => simp [shape] at hshape

/-- No value begins like the end of a list. -/
theorem text_head_ne {v : PyValue} (hv : v.serializable = true) :
    (v.text F).head?.any (· != ']') = true := by
  obtain ⟨c, cs, hc, hshape⟩ := text_head (F := F) hv
  have hne : c ≠ ']' := by
    rintro rfl
    cases v with
    | bool b => cases b <;> exact absurd hshape (by simp [shape]; decide)
    | _ => exact absurd hshape (by simp [shape]; decide)
  simp [hc, hne]

theorem tells_list {items : List PyValue} (hs : (PyValue.list items).serializable = true)
    (h : ∀ v ∈ items, Tells F v) : Tells F (.list items) := by
  intro b r s hb hd _ _ heq
  have hshape : b.shape = '[' := (shape_eq hs hb heq).symm
  cases b with
  | list bs =>
    rw [serializable_list_iff] at hs hb
    rw [distinct_list_iff] at hd
    rw [text, text, textItems_eq, textItems_eq, List.cons_append, List.cons_append,
      List.append_assoc, List.append_assoc] at heq
    obtain ⟨hall, hrest⟩ := commaSep_tells (R := Alike) (by decide) (by decide)
      (fun x hx y hy r s hr hs => h x hx y r s (hb y hy) (hd y hy) hr hs)
      (fun x hx => text_head_ne (hs x hx)) (fun y hy => text_head_ne (hb y hy))
      (List.cons.inj heq).2
    exact ⟨alike_list_iff.mpr hall, hrest⟩
  | bool b => cases b <;> simp [shape] at hshape
  | _ => simp [shape] at hshape

/-- The text of one entry. -/
def memberText (F : FloatText) (q : String × PyValue) : List Char :=
  quote q.1 ++ ':' :: q.2.text F

theorem text_dict (fields : List (String × PyValue)) :
    (PyValue.dict fields).text F =
      '{' :: (commaSep ((sortOn (fun q => utf16 q.1) fields).map (memberText F)) ++ ['}']) := by
  rw [text, textFields_eq, SortOn.map_eq, List.map_map]
  rfl

theorem tells_dict {fields : List (String × PyValue)}
    (hs : (PyValue.dict fields).serializable = true)
    (h : ∀ q ∈ fields, Tells F q.2) : Tells F (.dict fields) := by
  intro b r s hb hd _ _ heq
  have hshape : b.shape = '{' := (shape_eq hs hb heq).symm
  cases b with
  | dict bs =>
    rw [serializable_dict_iff] at hb
    rw [distinct_dict_iff] at hd
    rw [text_dict, text_dict, List.cons_append, List.cons_append, List.append_assoc,
      List.append_assoc] at heq
    have hhead : ∀ q : String × PyValue, (memberText F q).head?.any (· != '}') = true := by
      intro q
      simp [memberText, quote]
    have htells : ∀ q ∈ sortOn (fun q => utf16 q.1) fields, ∀ p ∈ sortOn (fun q => utf16 q.1) bs,
        ∀ r s, Ends r → Ends s → memberText F q ++ r = memberText F p ++ s →
          (q.1 = p.1 ∧ Alike q.2 p.2) ∧ r = s := by
      intro q hq p hp r s hr hs hqp
      rw [SortOn.mem_iff] at hq hp
      rw [memberText, memberText, List.append_assoc, List.append_assoc] at hqp
      obtain ⟨hkey, hrest⟩ := quote_append_inj hqp
      obtain ⟨halike, hrs⟩ := h q hq p.2 r s (hb p hp) (hd.2 p hp) hr hs (List.cons.inj hrest).2
      exact ⟨⟨hkey, halike⟩, hrs⟩
    obtain ⟨hall, hrest⟩ := commaSep_tells (by decide) (by decide) htells (fun q _ => hhead q)
      (fun p _ => hhead p) (List.cons.inj heq).2
    refine ⟨alike_dict_iff.mpr ⟨?_, fun q hq => ?_⟩, hrest⟩
    · have hlen := hall.length_eq
      rwa [SortOn.length_eq, SortOn.length_eq] at hlen
    · have hmem : ∀ {as : List (String × PyValue)} {cs : List (String × PyValue)},
          List.Forall₂ (fun q p => q.1 = p.1 ∧ Alike q.2 p.2) as cs → q ∈ as →
            ∃ p ∈ cs, q.1 = p.1 ∧ Alike q.2 p.2 := by
        intro as cs hac hqa
        induction hac with
        | nil => cases hqa
        | cons hab _ ih =>
          rcases List.mem_cons.mp hqa with rfl | hqa
          · exact ⟨_, List.mem_cons_self, hab⟩
          · obtain ⟨p, hp, hqp⟩ := ih hqa
            exact ⟨p, List.mem_cons_of_mem _ hp, hqp⟩
      obtain ⟨p, hp, hkey, halike⟩ := hmem hall ((SortOn.mem_iff _).mpr hq)
      rw [SortOn.mem_iff] at hp
      exact ⟨p.2, hkey ▸ Dict.lookup_of_mem hd.1 hp, halike⟩
  | bool b => cases b <;> simp [shape] at hshape
  | _ => simp [shape] at hshape

/-- **Canonical text, followed by anything, tells a value from every other.** -/
theorem tells_of_serializable (a : PyValue) (ha : a.serializable = true) : Tells F a := by
  induction a using PyValue.induct with
  | none =>
    intro b r s hb _ _ _ h
    have hshape : b.shape = 'n' := (shape_eq rfl hb h).symm
    cases b with
    | none => exact ⟨⟨rfl, rfl⟩, List.append_cancel_left h⟩
    | bool b => cases b <;> simp [shape] at hshape
    | _ => simp [shape] at hshape
  | bool x =>
    intro b r s hb _ _ _ h
    have hshape : b.shape = (PyValue.bool x).shape := (shape_eq rfl hb h).symm
    cases b with
    | bool y =>
      cases x <;> cases y <;>
        first
        | exact ⟨⟨rfl, rfl⟩, List.append_cancel_left h⟩
        | simp [shape] at hshape
    | _ => cases x <;> simp [shape] at hshape
  | int n => exact tells_number ha rfl
  | float x => exact tells_number ha rfl
  | str x => exact tells_str x
  | list items ih =>
    exact tells_list ha fun v hv => ih v hv (serializable_list_iff.mp ha v hv)
  | dict fields ih =>
    exact tells_dict ha fun q hq => ih q hq (serializable_dict_iff.mp ha q hq)
  | tuple items => simp [serializable] at ha
  | secret v => simp [serializable] at ha

/-! ## Alike values share their text -/

/-- The members of alike dictionaries have the same texts. -/
theorem textFields_perm {as bs : List (String × PyValue)} (ha : (as.map Prod.fst).Nodup)
    (hlen : as.length = bs.length)
    (h : ∀ q ∈ as, ∃ b, Dict.lookup q.1 bs = some b ∧ q.2.text F = b.text F) :
    (textFields F as).Perm (textFields F bs) := by
  rw [textFields_eq, textFields_eq]
  have hkeys : (as.map fun q => (q.1, q.2.text F)).Nodup := by
    apply List.Nodup.of_map Prod.fst
    rwa [List.map_map]
  have hsub : (as.map fun q => (q.1, q.2.text F)) ⊆ bs.map fun q => (q.1, q.2.text F) := by
    intro x hx
    obtain ⟨q, hq, rfl⟩ := List.mem_map.mp hx
    obtain ⟨b, hb, htext⟩ := h q hq
    exact List.mem_map.mpr ⟨(q.1, b), Dict.mem_of_lookup hb, by rw [htext]⟩
  refine (List.subperm_of_subset hkeys hsub).perm_of_length_le ?_
  rw [List.length_map, List.length_map, hlen]

/-- **Alike values share their canonical text.** -/
theorem text_eq_of_alike (a : PyValue) : ∀ b : PyValue, a.distinct = true → b.distinct = true →
    b.serializable = true → Alike a b → a.serializable = true ∧ a.text F = b.text F := by
  induction a using PyValue.induct with
  | none =>
    intro b _ _ _ h
    have hkinds := h.kinds
    cases b <;> first | exact ⟨rfl, rfl⟩ | simp [sameKinds] at hkinds
  | bool x =>
    intro b _ _ _ h
    have hkinds := h.kinds
    have heq := h.eq_freeze
    cases b with
    | bool y => cases x <;> cases y <;> first | exact ⟨rfl, rfl⟩ | simp [freeze, eq, number?] at heq
    | _ => simp [sameKinds] at hkinds
  | int n =>
    intro b _ _ hb h
    have hsafe : isSafe n = true := by
      have hkinds := h.kinds
      cases b <;> first | exact hkinds | simp [sameKinds] at hkinds
    have hbshape : b.shape = '0' := by
      have hkinds := h.kinds
      cases b <;> first | rfl | simp [sameKinds] at hkinds
    obtain ⟨y, hy, hbtext⟩ := number_text (F := F) hb hbshape
    obtain ⟨x, hx, hy'⟩ := (eq_freeze_number_iff rfl hbshape).mp h.eq_freeze
    have hny : (n : ℚ) = y := (Option.some.inj hx).trans (Option.some.inj (hy'.symm.trans hy))
    exact ⟨hsafe, by rw [hbtext, ← hny, F.int_text n hsafe, text]⟩
  | float x =>
    intro b _ _ hb h
    have hbshape : b.shape = '0' := by
      have hkinds := h.kinds
      cases b <;> first | rfl | simp [sameKinds] at hkinds
    obtain ⟨y, hy, hbtext⟩ := number_text (F := F) hb hbshape
    obtain ⟨w, hw, hy'⟩ := (eq_freeze_number_iff rfl hbshape).mp h.eq_freeze
    have hxy : x.value? = some y := hw.trans (hy'.symm.trans hy)
    refine ⟨by rw [serializable, hxy]; rfl, ?_⟩
    rw [hbtext, text, hxy]
    rfl
  | str x =>
    intro b _ _ _ h
    have hkinds := h.kinds
    have heq := h.eq_freeze
    cases b with
    | str y =>
      have hxy : x = y := by simpa [freeze, eq] using heq
      exact ⟨rfl, by rw [hxy]⟩
    | _ => simp [sameKinds] at hkinds
  | list items ih =>
    intro b hda hdb hb h
    have hkinds := h.kinds
    cases b with
    | list bs =>
      rw [distinct_list_iff] at hda hdb
      rw [serializable_list_iff] at hb ⊢
      rw [alike_list_iff] at h
      have hall : List.Forall₂ (fun v w => v.serializable = true ∧ v.text F = w.text F) items bs :=
        List.forall₂_iff_get.mpr ⟨h.length_eq, fun i hi hi' =>
          ih _ (List.get_mem items ⟨i, hi⟩) _ (hda _ (List.get_mem items ⟨i, hi⟩))
            (hdb _ (List.get_mem bs ⟨i, hi'⟩)) (hb _ (List.get_mem bs ⟨i, hi'⟩))
            ((List.forall₂_iff_get.mp h).2 i hi hi')⟩
      have htexts : items.map (text F) = bs.map (text F) := by
        clear ih hda hdb hb h hkinds
        induction hall with
        | nil => rfl
        | cons hab _ ih => rw [List.map_cons, List.map_cons, hab.2, ih]
      refine ⟨fun v hv => ?_, by rw [text, text, textItems_eq, textItems_eq, htexts]⟩
      obtain ⟨i, rfl⟩ := List.get_of_mem hv
      have hi : (i : Nat) < bs.length := h.length_eq ▸ i.2
      exact ((List.forall₂_iff_get.mp hall).2 i i.2 hi).1
    | _ => simp [sameKinds] at hkinds
  | dict fields ih =>
    intro b hda hdb hb h
    have hkinds := h.kinds
    cases b with
    | dict bs =>
      rw [distinct_dict_iff] at hda hdb
      rw [serializable_dict_iff] at hb ⊢
      obtain ⟨hlen, hall⟩ := alike_dict_iff.mp h
      have hvalues : ∀ q ∈ fields, ∃ b, Dict.lookup q.1 bs = some b ∧
          q.2.serializable = true ∧ q.2.text F = b.text F := by
        intro q hq
        obtain ⟨b, hb', halike⟩ := hall q hq
        have hmem := Dict.mem_of_lookup hb'
        exact ⟨b, hb', ih q hq b (hda.2 q hq) (hdb.2 _ hmem) (hb _ hmem) halike⟩
      refine ⟨fun q hq => ?_, ?_⟩
      · obtain ⟨-, -, hser, -⟩ := hvalues q hq
        exact hser
      · have hperm := textFields_perm (F := F) hda.1 hlen fun q hq => by
          obtain ⟨b, hb', -, htext⟩ := hvalues q hq
          exact ⟨b, hb', htext⟩
        have hkeys : ((textFields F fields).map Prod.fst).Nodup := by
          rw [textFields_eq, List.map_map]
          exact hda.1
        have hsort := SortOn.eq_of_perm (fun q : String × List Char => utf16 q.1) hperm
          fun x hx y hy hxy => List.inj_on_of_nodup_map hkeys hx hy (utf16_injective hxy)
        rw [text, text, hsort]
    | _ => simp [sameKinds] at hkinds
  | tuple items _ =>
    intro b _ _ _ h
    have hkinds := h.kinds
    cases b <;> simp [sameKinds] at hkinds
  | secret v _ =>
    intro b _ _ _ h
    have hkinds := h.kinds
    cases b <;> simp [sameKinds] at hkinds

/-- **Two values share their canonical JSON exactly when they are alike.** -/
theorem canonicalBytes_eq_iff {a b : PyValue} (ha : a.distinct = true) (hb : b.distinct = true)
    (hs : b.serializable = true) : a.canonicalBytes F = b.canonicalBytes F ↔ Alike a b := by
  constructor
  · intro h
    rw [canonicalBytes, canonicalBytes, if_pos hs] at h
    split at h
    · next has =>
      have htext : a.text F ++ [] = b.text F ++ [] := by
        rw [utf8_injective (Option.some.inj h)]
      exact (tells_of_serializable a has b [] [] hs hb (fun _ hc => nomatch hc)
        (fun _ hc => nomatch hc) htext).1
    · cases h
  · intro h
    obtain ⟨has, htext⟩ := text_eq_of_alike (F := F) a b ha hb hs h
    rw [canonicalBytes, canonicalBytes, if_pos has, if_pos hs, htext]

end Texts

end PyValue
