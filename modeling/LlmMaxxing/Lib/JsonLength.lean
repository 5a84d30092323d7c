import Mathlib.Algebra.Ring.Nat
import LlmMaxxing.Lib.JsonRoundTrip
import Mathlib.Algebra.BigOperators.Group.List.Basic
import Mathlib.Algebra.Order.BigOperators.Group.List

/-!
# The length of canonical text

`textBound` bounds the number of characters of the canonical text of a value and `byteBound` the
number of its bytes, both without rendering it. The two are one bound for two weights of a
character, `weigh_render_le`.
-/

namespace Json

/-! ## Weighing a text -/

/-- The weight of a text, given the weight of each character. -/
def weigh (w : Char → Nat) (cs : List Char) : Nat := (cs.map w).sum

/-- Letters, digits and punctuation of JSON weigh one. -/
def WeighsAscii (w : Char → Nat) : Prop := ∀ c : Char, c.toNat < 128 → w c = 1

theorem weigh_append (w : Char → Nat) (cs ds : List Char) :
    weigh w (cs ++ ds) = weigh w cs + weigh w ds := by
  rw [weigh, List.map_append, List.sum_append]
  rfl

theorem weigh_cons (w : Char → Nat) (c : Char) (cs : List Char) :
    weigh w (c :: cs) = w c + weigh w cs := rfl

theorem weigh_one (cs : List Char) : weigh (fun _ => 1) cs = cs.length := by
  induction cs with
  | nil => rfl
  | cons c cs ih => rw [weigh_cons, ih, List.length_cons, Nat.add_comm]

theorem weigh_utf8Size (cs : List Char) : weigh Char.utf8Size cs = (utf8 cs).length := by
  induction cs with
  | nil => rfl
  | cons c cs ih =>
    rw [weigh_cons, ih, utf8, utf8, List.flatMap_cons, List.length_append,
      String.length_utf8EncodeChar]

theorem weighsAscii_one : WeighsAscii fun _ => 1 := fun _ _ => rfl

theorem weighsAscii_utf8Size : WeighsAscii Char.utf8Size := fun c hc =>
  Char.utf8Size_eq_one_iff.mpr (by
    rw [UInt32.le_iff_toNat_le]
    exact Nat.lt_succ_iff.mp hc)

/-- A text of light characters weighs its length. -/
theorem weigh_ascii {w : Char → Nat} (hw : WeighsAscii w) {cs : List Char}
    (h : ∀ c ∈ cs, c.toNat < 128) : weigh w cs = cs.length := by
  induction cs with
  | nil => rfl
  | cons c cs ih =>
    rw [weigh_cons, hw c (h c List.mem_cons_self), ih fun d hd => h d (List.mem_cons_of_mem c hd),
      List.length_cons, Nat.add_comm]

/-! ## Bounds -/

mutual

/-- A bound on the weight of the canonical text, given one for every quoted string. -/
def boundBy (cost : String → Nat) : Json → Nat
  | .null => 4
  | .bool _ => 5
  | .num n => (intText n).length
  | .str s => cost s
  | .arr items => boundItemsBy cost items + 2
  | .obj fields => boundFieldsBy cost fields + 2

def boundItemsBy (cost : String → Nat) : List Json → Nat
  | [] => 0
  | v :: rest => v.boundBy cost + 1 + boundItemsBy cost rest

def boundFieldsBy (cost : String → Nat) : List (String × Json) → Nat
  | [] => 0
  | (k, v) :: rest => cost k + (v.boundBy cost + 2) + boundFieldsBy cost rest

end

theorem boundItemsBy_eq (cost : String → Nat) (items : List Json) :
    boundItemsBy cost items = (items.map fun v => v.boundBy cost + 1).sum := by
  induction items with
  | nil => rfl
  | cons v rest ih => rw [boundItemsBy, ih, List.map_cons, List.sum_cons]

theorem boundFieldsBy_eq (cost : String → Nat) (fields : List (String × Json)) :
    boundFieldsBy cost fields =
      (fields.map fun q => cost q.1 + (q.2.boundBy cost + 2)).sum := by
  induction fields with
  | nil => rfl
  | cons q rest ih => rw [boundFieldsBy, ih, List.map_cons, List.sum_cons]

theorem boundFieldsBy_le {cost : String → Nat} {m : Nat} {fields : List (String × Json)}
    (h : ∀ q ∈ fields, cost q.1 + (q.2.boundBy cost + 2) ≤ m) :
    boundFieldsBy cost fields ≤ fields.length * m := by
  induction fields with
  | nil => exact Nat.zero_le _
  | cons q rest ih =>
    have hq := h q List.mem_cons_self
    have hrest := ih fun r hr => h r (List.mem_cons_of_mem _ hr)
    rw [boundFieldsBy, List.length_cons, Nat.succ_mul]
    omega

/-- Sorting the members does not change the bound. -/
theorem boundBy_norm (cost : String → Nat) (v : Json) : v.norm.boundBy cost = v.boundBy cost := by
  induction v using Json.induct with
  | null => rfl
  | bool b => rfl
  | num n => rfl
  | str s => rfl
  | arr items ih =>
    rw [norm, boundBy, boundBy, boundItemsBy_eq, boundItemsBy_eq, normItems_eq, List.map_map]
    congr 2
    refine List.map_congr_left fun v hv => ?_
    rw [Function.comp_apply, ih v hv]
  | obj fields ih =>
    have hperm := (SortOn.perm (fun q : String × Json => utf16 q.1)
      (fields.map fun q => (q.1, q.2.norm))).map fun q => cost q.1 + (q.2.boundBy cost + 2)
    rw [norm, boundBy, boundBy, boundFieldsBy_eq, boundFieldsBy_eq, normFields_eq, hperm.sum_eq,
      List.map_map]
    congr 2
    refine List.map_congr_left fun q hq => ?_
    rw [Function.comp_apply, ih q hq]

section Weigh

variable {w : Char → Nat} (hw : WeighsAscii w)

include hw

theorem weigh_commaSep_le (ts : List (List Char)) :
    weigh w (commaSep ts) ≤ (ts.map fun t => weigh w t + 1).sum := by
  have hcomma : w ',' = 1 := hw ',' (by decide)
  induction ts using commaSep.induct with
  | case1 => simp [commaSep, weigh]
  | case2 t => simp [commaSep]
  | case3 t u rest ih =>
    simp only [commaSep, weigh_append, weigh_cons, hcomma, List.map_cons, List.sum_cons] at ih ⊢
    omega

theorem weigh_intText (n : Int) : weigh w (intText n) = (intText n).length := by
  refine weigh_ascii hw fun c hc => ?_
  have hdigit : ∀ {m : Nat}, c ∈ Nat.toDigits 10 m → c.toNat < 128 := fun hm => by
    have hd := Nat.isDigit_of_mem_toDigits (by decide) (by decide) hm
    simp only [Char.isDigit, ge_iff_le, Bool.and_eq_true, decide_eq_true_eq] at hd
    have h9 := UInt32.le_iff_toNat_le.mp hd.2
    exact lt_of_le_of_lt h9 (by decide)
  cases n with
  | ofNat m => exact hdigit hc
  | negSucc m =>
    rcases List.mem_cons.mp hc with rfl | hc
    · decide
    · exact hdigit hc

/-- **The weight of canonical text** is bounded when that of every quoted string is. -/
theorem weigh_render_le {cost : String → Nat} (hcost : ∀ s, weigh w (quote s) ≤ cost s) (v : Json) :
    weigh w v.render ≤ v.boundBy cost := by
  have hword : ∀ t : List Char, (t.all fun c => c.toNat < 128) = true → weigh w t = t.length :=
    fun t ht => weigh_ascii hw fun c hc => of_decide_eq_true (List.all_eq_true.mp ht c hc)
  induction v using Json.induct with
  | null => rw [render, hword _ (by decide), boundBy]; decide
  | bool b =>
    cases b with
    | false => rw [render, hword _ (by decide), boundBy]; decide
    | true => rw [render, hword _ (by decide), boundBy]; decide
  | num n => exact (weigh_intText hw n).le
  | str s => exact hcost s
  | arr items ih =>
    have hsep := weigh_commaSep_le hw (items.map render)
    have hsum : ((items.map render).map fun t => weigh w t + 1).sum ≤ boundItemsBy cost items := by
      rw [boundItemsBy_eq, List.map_map]
      exact List.sum_le_sum fun v hv => Nat.succ_le_succ (ih v hv)
    have hopen : w '[' = 1 := hw '[' (by decide)
    have hclose : weigh w [']'] = 1 := hword _ (by decide)
    simp only [render, boundBy, renderItems_eq, weigh_cons, weigh_append, hopen, hclose]
    omega
  | obj fields ih =>
    -- sorting the members does not change their total weight
    have hperm := (SortOn.perm (fun q : String × List Char => utf16 q.1)
      (fields.map fun q => (q.1, q.2.render))).map fun q => quote q.1 ++ ':' :: q.2
    have hsep := weigh_commaSep_le hw ((sortOn (fun q : String × List Char => utf16 q.1)
      (fields.map fun q => (q.1, q.2.render))).map fun q => quote q.1 ++ ':' :: q.2)
    have hcolon : w ':' = 1 := hw ':' (by decide)
    have hsum : (((sortOn (fun q : String × List Char => utf16 q.1)
        (fields.map fun q => (q.1, q.2.render))).map fun q => quote q.1 ++ ':' :: q.2).map
          fun t => weigh w t + 1).sum ≤ boundFieldsBy cost fields := by
      rw [(hperm.map fun t => weigh w t + 1).sum_eq, boundFieldsBy_eq, List.map_map, List.map_map]
      refine List.sum_le_sum fun q hq => ?_
      have hname := hcost q.1
      have hvalue := ih q hq
      simp only [Function.comp_apply, weigh_append, weigh_cons, hcolon]
      omega
    have hopen : w '{' = 1 := hw '{' (by decide)
    have hclose : weigh w ['}'] = 1 := hword _ (by decide)
    simp only [render, boundBy, renderFields_eq, weigh_cons, weigh_append, hopen, hclose]
    omega

end Weigh

/-! ## Characters -/

mutual

/-- A bound on the length of the canonical text. -/
def textBound : Json → Nat
  | .null => 4
  | .bool _ => 5
  | .num n => (intText n).length
  | .str s => 6 * s.toList.length + 2
  | .arr items => boundItems items + 2
  | .obj fields => boundFields fields + 2

def boundItems : List Json → Nat
  | [] => 0
  | v :: rest => v.textBound + 1 + boundItems rest

def boundFields : List (String × Json) → Nat
  | [] => 0
  | (k, v) :: rest => 6 * k.toList.length + 2 + (v.textBound + 2) + boundFields rest

end

theorem escapeChar_length_le (c : Char) : (escapeChar c).length ≤ 6 := by
  unfold escapeChar
  split_ifs <;> simp

theorem quote_length_le (s : String) : (quote s).length ≤ 6 * s.toList.length + 2 := by
  have hflat : ∀ cs : List Char, (cs.flatMap escapeChar).length ≤ 6 * cs.length := by
    intro cs
    induction cs with
    | nil => simp
    | cons c cs ih =>
      have hc := escapeChar_length_le c
      simp only [List.flatMap_cons, List.length_append, List.length_cons]
      omega
  have hs := hflat s.toList
  simp only [quote, List.length_cons, List.length_append, List.length_nil]
  omega

theorem textBound_eq (v : Json) : v.textBound = v.boundBy fun s => 6 * s.toList.length + 2 := by
  induction v using Json.induct with
  | null => rfl
  | bool b => rfl
  | num n => rfl
  | str s => rfl
  | arr items ih =>
    have hitems : boundItems items = boundItemsBy (fun s => 6 * s.toList.length + 2) items := by
      induction items with
      | nil => rfl
      | cons v rest ihrest =>
        rw [boundItems, boundItemsBy, ih v List.mem_cons_self,
          ihrest fun v hv => ih v (List.mem_cons_of_mem _ hv)]
    rw [textBound, boundBy, hitems]
  | obj fields ih =>
    have hfields : boundFields fields = boundFieldsBy (fun s => 6 * s.toList.length + 2) fields := by
      induction fields with
      | nil => rfl
      | cons q rest ihrest =>
        rw [boundFields, boundFieldsBy, ih q List.mem_cons_self,
          ihrest fun q hq => ih q (List.mem_cons_of_mem _ hq)]
    rw [textBound, boundBy, hfields]

theorem render_length_le (v : Json) : v.render.length ≤ v.textBound := by
  rw [← weigh_one, textBound_eq]
  exact weigh_render_le weighsAscii_one (fun s => by rw [weigh_one]; exact quote_length_le s) v

theorem utf8_length_le (cs : List Char) : (utf8 cs).length ≤ 4 * cs.length := by
  induction cs with
  | nil => simp [utf8]
  | cons c cs ih =>
    have hc : (String.utf8EncodeChar c).length ≤ 4 := by
      rw [String.length_utf8EncodeChar]
      exact c.utf8Size_le_four
    simp only [utf8, List.flatMap_cons, List.length_append, List.length_cons] at ih ⊢
    omega

/-! ## Bytes -/

/-- The number of bytes of a quoted string. -/
def quotedBytes (s : String) : Nat := (utf8 (quote s)).length

/-- A bound on the number of bytes of the canonical text. -/
def byteBound (v : Json) : Nat := v.boundBy quotedBytes

theorem utf8_render_length_le (v : Json) : (utf8 v.render).length ≤ v.byteBound := by
  rw [← weigh_utf8Size]
  exact weigh_render_le weighsAscii_utf8Size (fun s => (weigh_utf8Size _).le) v

/-- Characters that JSON writes as they are, in one byte. -/
def isPlain (c : Char) : Bool := 0x20 ≤ c.toNat && c.toNat < 128 && c != '"' && c != '\\'

theorem escapeChar_of_plain {c : Char} (h : isPlain c = true) : escapeChar c = [c] := by
  simp only [isPlain, Bool.and_eq_true, decide_eq_true_eq, bne_iff_ne, ne_eq] at h
  obtain ⟨⟨⟨hlow, -⟩, hquote⟩, hslash⟩ := h
  have hcontrol : ∀ d : Char, d.toNat < 0x20 → c ≠ d := fun d hd e => by
    subst e
    omega
  rw [escapeChar, if_neg hquote, if_neg hslash, if_neg (hcontrol '\n' (by decide)),
    if_neg (hcontrol '\r' (by decide)), if_neg (hcontrol '\t' (by decide)),
    if_neg (hcontrol '\x08' (by decide)), if_neg (hcontrol '\x0c' (by decide)), if_neg (by omega)]

/-- A plain string is written as it is between its quotes. -/
theorem quotedBytes_of_plain {s : String} (h : ∀ c ∈ s.toList, isPlain c = true) :
    quotedBytes s = s.toList.length + 2 := by
  have hflat : ∀ cs : List Char, (∀ c ∈ cs, isPlain c = true) → cs.flatMap escapeChar = cs := by
    intro cs hcs
    induction cs with
    | nil => rfl
    | cons c cs ih =>
      rw [List.flatMap_cons, escapeChar_of_plain (hcs c List.mem_cons_self),
        ih fun d hd => hcs d (List.mem_cons_of_mem c hd)]
      rfl
  have hascii : ∀ c ∈ quote s, c.toNat < 128 := by
    intro c hc
    rw [quote, hflat _ h] at hc
    rcases List.mem_cons.mp hc with rfl | hc
    · decide
    · rcases List.mem_append.mp hc with hc | hc
      · have hplain := h c hc
        simp only [isPlain, Bool.and_eq_true, decide_eq_true_eq] at hplain
        exact hplain.1.1.2
      · rw [List.mem_singleton] at hc
        subst hc
        decide
  rw [quotedBytes, ← weigh_utf8Size, weigh_ascii weighsAscii_utf8Size hascii, quote, hflat _ h]
  simp

end Json
