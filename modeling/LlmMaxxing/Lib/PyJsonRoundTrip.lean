import LlmMaxxing.Lib.Check
import LlmMaxxing.Lib.JsonRoundTrip
import LlmMaxxing.Lib.PyJson
import LlmMaxxing.Lib.PyValueText

/-!
# What is printed and what is read back

`loads_dumps_iff` says when the text of a value reads back: exactly when every float in it is finite,
and then as the value itself. A float that is not prints as a constant, which the reader refuses.
-/

/-- A float with a value. -/
def PyFloat.isFinite : PyFloat → Bool
  | .finite _ | .negZero => true
  | .inf _ | .nan => false

/-- The text of a float with a value: digits, then a fraction, an exponent, or both. -/
structure FloatLiteral where
  neg : Bool
  whole : Nat
  fraction : List Char
  exponent : Option (Bool × List Char)
  fraction_digits : ∀ c ∈ fraction, c.isDigit = true
  exponent_digits : ∀ q ∈ exponent, q.2 ≠ [] ∧ ∀ c ∈ q.2, c.isDigit = true
  isFloat : fraction ≠ [] ∨ exponent.isSome

namespace FloatLiteral

def signText (neg : Bool) : List Char := if neg then ['-'] else []

def pointText (digits : List Char) : List Char := if digits = [] then [] else '.' :: digits

def exponentText : Option (Bool × List Char) → List Char
  | none => []
  | some (neg, digits) => 'e' :: (if neg then '-' else '+') :: digits

def text (l : FloatLiteral) : List Char :=
  signText l.neg ++ Nat.toDigits 10 l.whole ++ pointText l.fraction ++ exponentText l.exponent

end FloatLiteral

/-- What the interpreter guarantees of floats: one that a text reads to prints as a literal that
reads to it again, and the others print as constants. -/
structure FloatCodec.Lawful (C : FloatCodec) : Prop where
  repr_read : ∀ text, (C.read text).isFinite = true →
    ∃ l : FloatLiteral, C.repr (C.read text) = l.text ∧ C.read l.text = C.read text
  repr_inf : ∀ neg, C.repr (.inf neg) = (if neg then "-Infinity" else "Infinity").toList
  repr_nan : C.repr .nan = "NaN".toList

namespace PyValue

open Json Check FloatLiteral

/-! ## Values of a document -/

mutual

/-- Every float has a value. -/
def finite : PyValue → Bool
  | .float x => x.isFinite
  | .list items | .tuple items => finiteItems items
  | .dict fields => finiteFields fields
  | .secret v => v.finite
  | _ => true

def finiteItems : List PyValue → Bool
  | [] => true
  | v :: rest => v.finite && finiteItems rest

def finiteFields : List (String × PyValue) → Bool
  | [] => true
  | (_, v) :: rest => v.finite && finiteFields rest

end

variable (C : FloatCodec)

mutual

/-- What a document can hold: the names of an object are distinct, an integer has no more digits
than the interpreter prints, and a float with a value is one that a text reads to. -/
def IsJson : PyValue → Prop
  | .none | .bool _ | .str _ => True
  | .int n => Readable n
  | .float x => x.isFinite = true → ∃ text, C.read text = x
  | .list items => IsJsonItems items
  | .dict fields => (fields.map Prod.fst).Nodup ∧ IsJsonFields fields
  | .tuple _ | .secret _ => False

def IsJsonItems : List PyValue → Prop
  | [] => True
  | v :: rest => v.IsJson ∧ IsJsonItems rest

def IsJsonFields : List (String × PyValue) → Prop
  | [] => True
  | (_, v) :: rest => v.IsJson ∧ IsJsonFields rest

end

variable {C}

theorem isJsonItems_iff {items : List PyValue} : IsJsonItems C items ↔ ∀ v ∈ items, v.IsJson C := by
  induction items with
  | nil => exact ⟨fun _ _ h => (by cases h), fun _ => trivial⟩
  | cons v rest ih => rw [IsJsonItems, ih, List.forall_mem_cons]

theorem isJsonFields_iff {fields : List (String × PyValue)} :
    IsJsonFields C fields ↔ ∀ q ∈ fields, q.2.IsJson C := by
  induction fields with
  | nil => exact ⟨fun _ _ h => (by cases h), fun _ => trivial⟩
  | cons q rest ih => rw [IsJsonFields, ih, List.forall_mem_cons]

theorem finiteItems_iff {items : List PyValue} :
    finiteItems items = true ↔ ∀ v ∈ items, v.finite = true := by
  induction items with
  | nil => exact ⟨fun _ _ h => (by cases h), fun _ => rfl⟩
  | cons v rest ih => rw [finiteItems, Bool.and_eq_true, ih, List.forall_mem_cons]

theorem finiteFields_iff {fields : List (String × PyValue)} :
    finiteFields fields = true ↔ ∀ q ∈ fields, q.2.finite = true := by
  induction fields with
  | nil => exact ⟨fun _ _ h => (by cases h), fun _ => rfl⟩
  | cons q rest ih => rw [finiteFields, Bool.and_eq_true, ih, List.forall_mem_cons]

theorem dumpsItems_eq (items : List PyValue) : dumpsItems C items = items.map (dumps C) := by
  induction items with
  | nil => rfl
  | cons v rest ih => rw [dumpsItems, ih, List.map_cons]

/-- The text of one member. -/
def dumpsMember (C : FloatCodec) (q : String × PyValue) : List Char := quote q.1 ++ ':' :: q.2.dumps C

theorem dumpsFields_eq (fields : List (String × PyValue)) :
    dumpsFields C fields = fields.map (dumpsMember C) := by
  induction fields with
  | nil => rfl
  | cons q rest ih =>
    rw [dumpsFields, ih, List.map_cons]
    rfl

/-! ## Numbers -/

/-- No digit goes on. -/
def StopsDigits (rest : List Char) : Prop := ∀ c, rest.head? = some c → c.isDigit = false

theorem takeWhile_digits {digits rest : List Char} (hdigits : ∀ c ∈ digits, c.isDigit = true)
    (hrest : StopsDigits rest) : (digits ++ rest).takeWhile Char.isDigit = digits := by
  rw [List.takeWhile_append_of_pos hdigits]
  cases rest with
  | nil => rw [List.takeWhile_nil, List.append_nil]
  | cons c after =>
    rw [List.takeWhile_cons, hrest c rfl, if_neg (by decide), List.append_nil]

theorem drop_length_append {α : Type} (a b : List α) : (a ++ b).drop a.length = b :=
  List.drop_left

theorem isDigit_toDigits {n : Nat} : ∀ c ∈ Nat.toDigits 10 n, c.isDigit = true :=
  fun _ hc => Nat.isDigit_of_mem_toDigits (by decide) (by decide) hc

theorem integerPart_toDigits (neg : Bool) (n : Nat) {rest : List Char} (hrest : StopsDigits rest) :
    integerPart (signText neg ++ (Nat.toDigits 10 n ++ rest)) =
      some (signText neg ++ Nat.toDigits 10 n, rest) := by
  obtain ⟨c, cs, hcs⟩ := List.exists_cons_of_ne_nil (Nat.toDigits_ne_nil (b := 10) (n := n))
  have hc : c.isDigit = true := isDigit_toDigits c (hcs ▸ List.mem_cons_self)
  have hminus : (c == '-') = false := by
    rw [beq_eq_false_iff_ne]
    rintro rfl
    exact absurd hc (by decide)
  have hsign : ((signText neg ++ (Nat.toDigits 10 n ++ rest)).takeWhile (· == '-')).take 1 =
      signText neg := by
    rw [hcs]
    cases neg with
    | false =>
      show ((c :: (cs ++ rest)).takeWhile (· == '-')).take 1 = []
      rw [List.takeWhile_cons, hminus, if_neg (by decide)]
      rfl
    | true => rfl
  have hafter : (signText neg ++ (Nat.toDigits 10 n ++ rest)).drop (signText neg).length =
      Nat.toDigits 10 n ++ rest := List.drop_left
  unfold integerPart
  dsimp only
  rw [hsign, hafter]
  split
  · -- a leading zero is all of the digits
    rename_i after heq
    have hzero : n = 0 := by
      by_contra hne
      refine toDigits_head_ne_zero (Nat.pos_of_ne_zero hne) ?_
      rw [hcs, List.cons_append] at heq
      rw [hcs, (List.cons.inj heq).1]
      rfl
    subst hzero
    rw [Nat.toDigits_zero] at heq ⊢
    have hrest' : rest = after := (List.cons.inj heq).2
    rw [hrest']
  · rw [takeWhile_digits isDigit_toDigits hrest, if_neg Nat.toDigits_ne_nil, List.drop_left]

theorem fractionPart_digits {digits rest : List Char} (hdigits : ∀ c ∈ digits, c.isDigit = true)
    (hrest : StopsDigits rest) (hpoint : rest.head? ≠ some '.') :
    fractionPart (pointText digits ++ rest) = (pointText digits, rest) := by
  unfold pointText
  split
  · rw [List.nil_append, fractionPart]
    rintro after rfl
    exact hpoint rfl
  · rename_i hne
    rw [List.cons_append, fractionPart, takeWhile_digits hdigits hrest, if_neg hne, List.drop_left]

theorem exponentPart_none {rest : List Char} (he : rest.head? ≠ some 'e')
    (hE : rest.head? ≠ some 'E') : exponentPart rest = ([], rest) := by
  cases rest with
  | nil => rfl
  | cons c after =>
    rw [exponentPart, if_neg]
    rintro (rfl | rfl)
    · exact he rfl
    · exact hE rfl

theorem exponentPart_digits {q : Bool × List Char} (hne : q.2 ≠ [])
    (hdigits : ∀ c ∈ q.2, c.isDigit = true) {rest : List Char} (hrest : StopsDigits rest) :
    exponentPart (exponentText (some q) ++ rest) = (exponentText (some q), rest) := by
  obtain ⟨neg, digits⟩ := q
  obtain ⟨c, cs, hcs⟩ := List.exists_cons_of_ne_nil hne
  have hc : (c == '-' || c == '+') = false := by
    rw [Bool.or_eq_false_iff, beq_eq_false_iff_ne, beq_eq_false_iff_ne]
    have hdigit := hdigits c (hcs ▸ List.mem_cons_self)
    constructor
    all_goals
      rintro rfl
      exact absurd hdigit (by decide)
  have hsign : (((if neg then '-' else '+') :: (digits ++ rest)).takeWhile
      fun c => c == '-' || c == '+').take 1 = [if neg then '-' else '+'] := by
    rw [List.takeWhile_cons, if_pos (by cases neg <;> rfl)]
    rfl
  rw [exponentText, List.cons_append, List.cons_append, exponentPart, if_pos (.inl rfl)]
  dsimp only
  rw [hsign]
  show (if (digits ++ rest).takeWhile Char.isDigit = [] then _ else
    ('e' :: ([if neg then '-' else '+'] ++ (digits ++ rest).takeWhile Char.isDigit),
      ((if neg then '-' else '+') :: (digits ++ rest)).drop
        (1 + ((digits ++ rest).takeWhile Char.isDigit).length))) = _
  rw [takeWhile_digits hdigits hrest, if_neg hne, Nat.add_comm, List.drop_succ_cons, List.drop_left]
  rfl

theorem stopsDigits_of_endsNumber {rest : List Char} (h : EndsNumber rest) : StopsDigits rest :=
  fun c hc => (h c hc).1

theorem intText_eq (n : Int) :
    intText n = signText (decide (n < 0)) ++ Nat.toDigits 10 n.natAbs := by
  cases n with
  | ofNat m =>
    show _ = signText (decide ((m : Int) < 0)) ++ _
    rw [decide_eq_false (Int.not_lt.mpr (Int.natCast_nonneg m))]
    rfl
  | negSucc m =>
    rw [intText, decide_eq_true (Int.negSucc_lt_zero m)]
    rfl

theorem integerOf_intText {n : Int} (hn : Readable n) : integerOf (intText n) = .ok n := by
  unfold Readable at hn
  cases n with
  | ofNat m =>
    have hlen : ¬ 4300 < (Nat.toDigits 10 m).length := Nat.not_lt.mpr hn
    rw [intText]
    unfold integerOf
    split
    · rename_i digits heq
      have hdigit : ('-').isDigit = true := isDigit_toDigits (n := m) '-' (heq ▸ List.mem_cons_self)
      exact absurd hdigit (by decide)
    · rw [if_neg hlen, Nat.ofDigitChars_ten_toDigits]
      rfl
  | negSucc m =>
    have hlen : ¬ 4300 < (Nat.toDigits 10 (m + 1)).length := Nat.not_lt.mpr hn
    rw [intText, integerOf, if_neg hlen, Nat.ofDigitChars_ten_toDigits]
    rfl

theorem loadNumber_intText {n : Int} (hn : Readable n) {rest : List Char} (hrest : EndsNumber rest) :
    loadNumber C (intText n ++ rest) = .ok (.int n, rest) := by
  have hinteger : integerPart (intText n ++ rest) = some (intText n, rest) := by
    rw [intText_eq, List.append_assoc]
    exact integerPart_toDigits _ _ (stopsDigits_of_endsNumber hrest)
  have hfraction : fractionPart rest = ([], rest) :=
    @fractionPart_digits [] rest (fun _ h => (by cases h)) (stopsDigits_of_endsNumber hrest)
      fun h => (hrest _ h).2.1 rfl
  have hexponent : exponentPart rest = ([], rest) :=
    exponentPart_none (fun h => (hrest _ h).2.2.1 rfl) fun h => (hrest _ h).2.2.2 rfl
  rw [loadNumber, hinteger]
  dsimp only
  rw [hfraction]
  dsimp only
  rw [hexponent, if_pos ⟨rfl, rfl⟩, integerOf_intText hn]
  rfl

/-- A literal reads as a float. -/
theorem loadNumber_literal (l : FloatLiteral) {rest : List Char} (hrest : EndsNumber rest) :
    loadNumber C (l.text ++ rest) = .ok (.float (C.read l.text), rest) := by
  have hstop := stopsDigits_of_endsNumber hrest
  -- what follows the digits of each part
  have hafterFraction : StopsDigits (exponentText l.exponent ++ rest) ∧
      (exponentText l.exponent ++ rest).head? ≠ some '.' := by
    cases l.exponent with
    | none => exact ⟨hstop, fun h => (hrest _ h).2.1 rfl⟩
    | some q =>
      refine ⟨fun c hc => ?_, fun h => ?_⟩
      · cases hc
        decide
      · cases h
  have hafterWhole : StopsDigits (pointText l.fraction ++ (exponentText l.exponent ++ rest)) := by
    unfold pointText
    split
    · exact hafterFraction.1
    · intro c hc
      cases hc
      decide
  have hexponent : exponentPart (exponentText l.exponent ++ rest) =
      (exponentText l.exponent, rest) := by
    cases hcase : l.exponent with
    | none => exact exponentPart_none (fun h => (hrest _ h).2.2.1 rfl) fun h => (hrest _ h).2.2.2 rfl
    | some q =>
      obtain ⟨hne, hdigits⟩ := l.exponent_digits q (hcase ▸ Option.mem_some_self q)
      exact exponentPart_digits hne hdigits hstop
  have hfloat : ¬ (pointText l.fraction = [] ∧ exponentText l.exponent = []) := by
    rintro ⟨hfraction, hexponent⟩
    unfold pointText at hfraction
    rcases l.isFloat with h | h
    · rw [if_neg h] at hfraction
      cases hfraction
    · obtain ⟨q, hq⟩ := Option.isSome_iff_exists.mp h
      rw [hq] at hexponent
      cases hexponent
  have htext : l.text ++ rest = signText l.neg ++ (Nat.toDigits 10 l.whole ++
      (pointText l.fraction ++ (exponentText l.exponent ++ rest))) := by
    simp only [FloatLiteral.text, List.append_assoc]
  rw [loadNumber, htext, integerPart_toDigits _ _ hafterWhole]
  dsimp only
  rw [fractionPart_digits l.fraction_digits hafterFraction.1 hafterFraction.2]
  dsimp only
  rw [hexponent, if_neg hfloat]
  rfl

/-! ## The head of a text -/

/-- A number opens with its sign or a digit. -/
def NumberHead (cs : List Char) : Prop :=
  ∃ c rest, cs = c :: rest ∧ (c.isDigit = true ∨ c = '-' ∧ ∃ d after, rest = d :: after ∧
    d.isDigit = true)

theorem numberHead_append {cs : List Char} (h : NumberHead cs) (rest : List Char) :
    NumberHead (cs ++ rest) := by
  obtain ⟨c, cs', rfl, hc | ⟨hc, d, after, rfl, hd⟩⟩ := h
  · exact ⟨c, cs' ++ rest, rfl, .inl hc⟩
  · exact ⟨c, d :: (after ++ rest), rfl, .inr ⟨hc, d, after ++ rest, rfl, hd⟩⟩

theorem numberHead_signed (neg : Bool) (n : Nat) (rest : List Char) :
    NumberHead (signText neg ++ Nat.toDigits 10 n ++ rest) := by
  obtain ⟨c, cs, hcs⟩ := List.exists_cons_of_ne_nil (Nat.toDigits_ne_nil (b := 10) (n := n))
  have hc : c.isDigit = true := isDigit_toDigits c (hcs ▸ List.mem_cons_self)
  rw [hcs]
  cases neg with
  | false => exact ⟨c, cs ++ rest, rfl, .inl hc⟩
  | true => exact ⟨'-', c :: (cs ++ rest), rfl, .inr ⟨rfl, c, cs ++ rest, rfl, hc⟩⟩

theorem numberHead_intText (n : Int) : NumberHead (intText n) := by
  rw [intText_eq, ← List.append_nil (_ ++ _)]
  exact numberHead_signed _ _ []

theorem numberHead_literal (l : FloatLiteral) : NumberHead l.text := by
  rw [FloatLiteral.text, List.append_assoc (_ ++ _)]
  exact numberHead_signed _ _ _

theorem not_isConstant_of_numberHead {cs : List Char} (h : NumberHead cs) :
    isConstant cs = false := by
  have hNaN : "NaN".toList = ['N', 'a', 'N'] := rfl
  have hInf : "Infinity".toList = ['I', 'n', 'f', 'i', 'n', 'i', 't', 'y'] := rfl
  have hNegInf : "-Infinity".toList = ['-', 'I', 'n', 'f', 'i', 'n', 'i', 't', 'y'] := rfl
  have hne : ∀ {c d : Char}, c.isDigit = true → d.isDigit = false → (d == c) = false := by
    intro c d hc hd
    refine beq_false_of_ne ?_
    rintro rfl
    rw [hc] at hd
    cases hd
  rw [isConstant, hNaN, hInf, hNegInf]
  obtain ⟨c, rest, rfl, hc | ⟨rfl, d, after, rfl, hd⟩⟩ := h
  · simp only [List.isPrefixOf, hne hc (by decide : ('N').isDigit = false),
      hne hc (by decide : ('I').isDigit = false), hne hc (by decide : ('-').isDigit = false),
      Bool.false_and, Bool.or_false]
  · simp only [List.isPrefixOf, (by decide : ('N' == '-') = false), (by decide : ('I' == '-') = false),
      hne hd (by decide : ('I').isDigit = false), Bool.false_and, Bool.and_false, Bool.or_false]

theorem loadValue_number {fuel : Nat} {cs : List Char} (h : NumberHead cs) :
    loadValue C (fuel + 1) cs = loadNumber C cs := by
  have hconstant := not_isConstant_of_numberHead h
  obtain ⟨c, rest, rfl, hc⟩ := h
  have hne : ∀ x : Char, x.isDigit = false → x ≠ '-' → ∀ after, c :: rest ≠ x :: after := by
    intro x hx hminus after heq
    obtain ⟨rfl, -⟩ := List.cons.inj heq
    rcases hc with hc | ⟨hc, -⟩
    · exact absurd hc (by rw [hx]; decide)
    · exact hminus hc
  unfold loadValue
  split
  · rename_i heq
    exact absurd heq (hne _ (by decide) (by decide) _)
  · rename_i heq
    exact absurd heq (hne _ (by decide) (by decide) _)
  · rename_i heq
    exact absurd heq (hne _ (by decide) (by decide) _)
  · rename_i heq
    exact absurd heq (hne _ (by decide) (by decide) _)
  · rename_i heq
    exact absurd heq (hne _ (by decide) (by decide) _)
  · rename_i heq
    exact absurd heq (hne _ (by decide) (by decide) _)
  · rw [hconstant, if_neg (by decide)]

/-- A text that opens with a constant is refused. -/
theorem loadValue_constant {fuel : Nat} {cs rest : List Char}
    (h : cs = "NaN".toList ∨ cs = "Infinity".toList ∨ cs = "-Infinity".toList) :
    loadValue C (fuel + 1) (cs ++ rest) = .error .constant := by
  rcases h with rfl | rfl | rfl
  all_goals rfl

/-- The first character of a text. -/
theorem dumps_head (hC : C.Lawful) {v : PyValue} (hv : v.IsJson C) :
    ∃ c cs, v.dumps C = c :: cs ∧ Opens c := by
  have hnumber : ∀ {cs : List Char}, NumberHead cs → ∃ c rest, cs = c :: rest ∧ Opens c := by
    rintro cs ⟨c, rest, rfl, hc | ⟨rfl, -⟩⟩
    · exact ⟨c, rest, rfl, opens_of_isDigit hc⟩
    · exact ⟨'-', rest, rfl, by decide, by decide, by decide⟩
  cases v with
  | none => exact ⟨_, _, rfl, by decide, by decide, by decide⟩
  | bool b => cases b <;> exact ⟨_, _, rfl, by decide, by decide, by decide⟩
  | int n => exact hnumber (numberHead_intText n)
  | float x =>
    cases hx : x.isFinite with
    | true =>
      obtain ⟨text, rfl⟩ := hv hx
      obtain ⟨l, hl, -⟩ := hC.repr_read text hx
      rw [dumps, hl]
      exact hnumber (numberHead_literal l)
    | false =>
      cases x with
      | finite q => cases hx
      | negZero => cases hx
      | inf neg =>
        rw [dumps, hC.repr_inf]
        cases neg <;> exact ⟨_, _, rfl, by decide, by decide, by decide⟩
      | nan =>
        rw [dumps, hC.repr_nan]
        exact ⟨_, _, rfl, by decide, by decide, by decide⟩
  | str s => exact ⟨_, _, rfl, by decide, by decide, by decide⟩
  | list items => exact ⟨_, _, rfl, by decide, by decide, by decide⟩
  | dict fields => exact ⟨_, _, rfl, by decide, by decide, by decide⟩
  | tuple items => exact hv.elim
  | secret v => exact hv.elim

/-! ## Values -/

/-- What the induction proves of a value: its text reads back when its floats have values, and is
refused otherwise. -/
def Reads (C : FloatCodec) (v : PyValue) : Prop :=
  ∀ fuel rest, (v.dumps C).length ≤ fuel → EndsNumber rest →
    ∀ r, loadValue C fuel (v.dumps C ++ rest) = .ok r ↔ v.finite = true ∧ r = (v, rest)

theorem endsNumber_of {c : Char} (h : c = ',' ∨ c = ']' ∨ c = '\x7d') (rest : List Char) :
    EndsNumber (c :: rest) := by
  rcases h with rfl | rfl | rfl
  all_goals exact endsNumber_cons (by decide) (by decide) (by decide) (by decide)

theorem skipSpace_commaSep {ts : List (List Char)} {t : List Char} {c : Char} {cs : List Char}
    (h : t = c :: cs) (hc : isSpace c = false) (rest : List Char) :
    skipSpace (commaSep (t :: ts) ++ rest) = commaSep (t :: ts) ++ rest := by
  obtain ⟨cs', hstart⟩ := commaSep_head ts h
  rw [hstart, List.cons_append, skipSpace_of_head hc]

theorem loadItems_comma {fuel : Nat} {cs after next : List Char} {v : PyValue}
    (hvalue : loadValue C fuel cs = .ok (v, after)) (h : skipSpace after = ',' :: next) :
    loadItems C (fuel + 1) cs =
      (loadItems C fuel (skipSpace next)).map fun q => (v :: q.1, q.2) := by
  rw [loadItems]
  simp only [hvalue, bind, Except.bind, h]
  cases loadItems C fuel (skipSpace next) <;> rfl

theorem loadItems_close {fuel : Nat} {cs after rest : List Char} {v : PyValue}
    (hvalue : loadValue C fuel cs = .ok (v, after)) (h : skipSpace after = ']' :: rest) :
    loadItems C (fuel + 1) cs = .ok ([v], rest) := by
  rw [loadItems]
  simp only [hvalue, bind, Except.bind, h]
  rfl

/-- Items read back when the first does and the others do. -/
theorem loadItems_dumps (hC : C.Lawful) {items : List PyValue} (hne : items ≠ [])
    (hjson : ∀ v ∈ items, v.IsJson C) (hreads : ∀ v ∈ items, v.Reads C) (fuel : Nat)
    (rest : List Char) (hfuel : (commaSep (items.map (dumps C))).length + 1 ≤ fuel) (r) :
    loadItems C fuel (commaSep (items.map (dumps C)) ++ ']' :: rest) = .ok r ↔
      finiteItems items = true ∧ r = (items, rest) := by
  induction items generalizing fuel r with
  | nil => exact absurd rfl hne
  | cons v tail ih =>
    obtain ⟨fuel, rfl⟩ : ∃ m, fuel = m + 1 := ⟨fuel - 1, by omega⟩
    have hv := hreads v List.mem_cons_self
    -- a first item that is refused refuses the list
    have hrefused : ∀ cs, (∀ q, loadValue C fuel cs ≠ .ok q) →
        loadItems C (fuel + 1) cs ≠ .ok r := by
      intro cs hcs h
      rw [loadItems] at h
      obtain ⟨q, hq, -⟩ := bind_eq_ok_iff.mp h
      exact hcs q hq
    cases tail with
    | nil =>
      simp only [List.map_cons, List.map_nil, commaSep] at hfuel ⊢
      have hvalue := hv fuel (']' :: rest) (by omega) (endsNumber_of (.inr (.inl rfl)) rest)
      rw [finiteItems, finiteItems, Bool.and_true]
      cases hfinite : v.finite with
      | true =>
        rw [loadItems_close ((hvalue _).mpr ⟨hfinite, rfl⟩) (skipSpace_of_head (by decide)),
          Except.ok.injEq]
        exact ⟨fun h => ⟨rfl, h.symm⟩, fun h => h.2.symm⟩
      | false =>
        refine ⟨fun h => absurd h (hrefused _ fun q hq => ?_), fun h => (by cases h.1)⟩
        rw [hvalue, hfinite] at hq
        cases hq.1
    | cons w more =>
      simp only [List.map_cons, commaSep, List.length_append, List.length_cons] at hfuel ⊢
      obtain ⟨c, cs, hhead, hopens⟩ := dumps_head hC
        (hjson w (List.mem_cons_of_mem _ List.mem_cons_self))
      have htail := ih (List.cons_ne_nil _ _) (fun u hu => hjson u (List.mem_cons_of_mem _ hu))
        (fun u hu => hreads u (List.mem_cons_of_mem _ hu)) fuel
        (by simp only [List.map_cons]; omega)
      rw [List.map_cons] at htail
      have hvalue := hv fuel (',' :: (commaSep (w.dumps C :: more.map (dumps C)) ++ ']' :: rest))
        (by omega) (endsNumber_of (.inl rfl) _)
      rw [List.append_assoc, List.cons_append, finiteItems, Bool.and_eq_true]
      cases hfinite : v.finite with
      | true =>
        rw [loadItems_comma ((hvalue _).mpr ⟨hfinite, rfl⟩) (skipSpace_of_head (by decide)),
          skipSpace_commaSep hhead hopens.1]
        constructor
        · intro h
          cases hresult : loadItems C fuel (commaSep (w.dumps C :: more.map (dumps C)) ++ ']' :: rest) with
          | error e =>
            rw [hresult] at h
            cases h
          | ok q =>
            obtain ⟨hrest, rfl⟩ := (htail q).mp hresult
            rw [hresult] at h
            exact ⟨⟨rfl, hrest⟩, (Except.ok.inj h).symm⟩
        · rintro ⟨⟨-, hrest⟩, rfl⟩
          rw [(htail _).mpr ⟨hrest, rfl⟩]
          rfl
      | false =>
        refine ⟨fun h => absurd h (hrefused _ fun q hq => ?_), fun h => (by cases h.1.1)⟩
        rw [hvalue, hfinite] at hq
        cases hq.1

/-- A member up to its value. -/
theorem loadMembers_quote (fuel : Nat) (k : String) (text : List Char) :
    loadMembers C (fuel + 1) (quote k ++ ':' :: text) =
      loadValue C fuel (skipSpace text) >>= fun p =>
        match skipSpace p.2 with
        | ',' :: next => loadMembers C fuel (skipSpace next) >>= fun q => .ok ((k, p.1) :: q.1, q.2)
        | '\x7d' :: after => .ok ([(k, p.1)], after)
        | _ => .error .malformed := by
  have htext : quote k ++ ':' :: text =
      '"' :: (k.toList.flatMap escapeChar ++ '"' :: ':' :: text) := by
    rw [quote, List.cons_append, List.append_assoc]
    rfl
  rw [htext, loadMembers, parseString_escape]
  dsimp only
  rw [skipSpace_of_head (by decide : isSpace ':' = false), String.ofList_toList]
  rfl

theorem loadMembers_comma {fuel : Nat} {k : String} {text after next : List Char} {v : PyValue}
    (hvalue : loadValue C fuel (skipSpace text) = .ok (v, after))
    (h : skipSpace after = ',' :: next) :
    loadMembers C (fuel + 1) (quote k ++ ':' :: text) =
      (loadMembers C fuel (skipSpace next)).map fun q => ((k, v) :: q.1, q.2) := by
  rw [loadMembers_quote, hvalue, ok_bind]
  dsimp only
  rw [h]
  show (loadMembers C fuel (skipSpace next) >>= fun q => .ok ((k, v) :: q.1, q.2)) = _
  cases loadMembers C fuel (skipSpace next) <;> rfl

theorem loadMembers_close {fuel : Nat} {k : String} {text after rest : List Char} {v : PyValue}
    (hvalue : loadValue C fuel (skipSpace text) = .ok (v, after))
    (h : skipSpace after = '\x7d' :: rest) :
    loadMembers C (fuel + 1) (quote k ++ ':' :: text) = .ok ([(k, v)], rest) := by
  rw [loadMembers_quote, hvalue, ok_bind]
  dsimp only
  rw [h]
  rfl

theorem loadMembers_dumps (hC : C.Lawful) {fields : List (String × PyValue)} (hne : fields ≠ [])
    (hjson : ∀ q ∈ fields, q.2.IsJson C) (hreads : ∀ q ∈ fields, q.2.Reads C) (fuel : Nat)
    (rest : List Char) (hfuel : (commaSep (fields.map (dumpsMember C))).length + 1 ≤ fuel) (r) :
    loadMembers C fuel (commaSep (fields.map (dumpsMember C)) ++ '\x7d' :: rest) = .ok r ↔
      finiteFields fields = true ∧ r = (fields, rest) := by
  induction fields generalizing fuel r with
  | nil => exact absurd rfl hne
  | cons q tail ih =>
    obtain ⟨fuel, rfl⟩ : ∃ m, fuel = m + 1 := ⟨fuel - 1, by omega⟩
    obtain ⟨k, v⟩ := q
    have hv : v.Reads C := hreads (k, v) List.mem_cons_self
    obtain ⟨c, cs, hhead, hopens⟩ := dumps_head hC (hjson (k, v) List.mem_cons_self)
    have hskip : ∀ after, skipSpace (v.dumps C ++ after) = v.dumps C ++ after := by
      intro after
      rw [hhead, List.cons_append, skipSpace_of_head hopens.1]
    have hmember : ∀ after, dumpsMember C (k, v) ++ after = quote k ++ ':' :: (v.dumps C ++ after) := by
      intro after
      rw [dumpsMember, List.append_assoc, List.cons_append]
    have hlen : (v.dumps C).length + 1 ≤ (dumpsMember C (k, v)).length := by
      simp only [dumpsMember, quote, List.length_append, List.length_cons]
      omega
    -- a value that is refused refuses the object
    have hrefused : ∀ text, (∀ q, loadValue C fuel (skipSpace text) ≠ .ok q) →
        loadMembers C (fuel + 1) (quote k ++ ':' :: text) ≠ .ok r := by
      intro text htext h
      rw [loadMembers_quote] at h
      obtain ⟨q, hq, -⟩ := bind_eq_ok_iff.mp h
      exact htext q hq
    cases tail with
    | nil =>
      simp only [List.map_cons, List.map_nil, commaSep] at hfuel ⊢
      have hvalue := hv fuel ('\x7d' :: rest) (by omega) (endsNumber_of (.inr (.inr rfl)) rest)
      rw [finiteFields, finiteFields, Bool.and_true, hmember]
      cases hfinite : v.finite with
      | true =>
        rw [loadMembers_close (by rw [hskip]; exact (hvalue _).mpr ⟨hfinite, rfl⟩)
          (skipSpace_of_head (by decide)), Except.ok.injEq]
        exact ⟨fun h => ⟨rfl, h.symm⟩, fun h => h.2.symm⟩
      | false =>
        refine ⟨fun h => absurd h (hrefused _ fun q hq => ?_), fun h => (by cases h.1)⟩
        rw [hskip, hvalue, hfinite] at hq
        cases hq.1
    | cons w more =>
      simp only [List.map_cons, commaSep, List.length_append, List.length_cons] at hfuel ⊢
      have htail := ih (List.cons_ne_nil _ _) (fun u hu => hjson u (List.mem_cons_of_mem _ hu))
        (fun u hu => hreads u (List.mem_cons_of_mem _ hu)) fuel
        (by simp only [List.map_cons]; omega)
      rw [List.map_cons] at htail
      have hvalue := hv fuel
        (',' :: (commaSep (dumpsMember C w :: more.map (dumpsMember C)) ++ '\x7d' :: rest))
        (by omega) (endsNumber_of (.inl rfl) _)
      have hnext : skipSpace (commaSep (dumpsMember C w :: more.map (dumpsMember C)) ++
          '\x7d' :: rest) = commaSep (dumpsMember C w :: more.map (dumpsMember C)) ++
          '\x7d' :: rest :=
        skipSpace_commaSep (rfl : dumpsMember C w = '"' :: _) (by decide) _
      rw [List.append_assoc, List.cons_append, finiteFields, Bool.and_eq_true, hmember]
      cases hfinite : v.finite with
      | true =>
        rw [loadMembers_comma (by rw [hskip]; exact (hvalue _).mpr ⟨hfinite, rfl⟩)
          (skipSpace_of_head (by decide)), hnext]
        constructor
        · intro h
          cases hresult : loadMembers C fuel
              (commaSep (dumpsMember C w :: more.map (dumpsMember C)) ++ '\x7d' :: rest) with
          | error e =>
            rw [hresult] at h
            cases h
          | ok q =>
            obtain ⟨hrest, rfl⟩ := (htail q).mp hresult
            rw [hresult] at h
            exact ⟨⟨rfl, hrest⟩, (Except.ok.inj h).symm⟩
        · rintro ⟨⟨-, hrest⟩, rfl⟩
          rw [(htail _).mpr ⟨hrest, rfl⟩]
          rfl
      | false =>
        refine ⟨fun h => absurd h (hrefused _ fun q hq => ?_), fun h => (by cases h.1.1)⟩
        rw [hskip, hvalue, hfinite] at hq
        cases hq.1

theorem reads_list (hC : C.Lawful) {items : List PyValue} (hjson : ∀ v ∈ items, v.IsJson C)
    (hreads : ∀ v ∈ items, v.Reads C) : (PyValue.list items).Reads C := by
  intro fuel rest hfuel _ r
  rw [dumps, dumpsItems_eq] at hfuel ⊢
  simp only [List.length_cons, List.length_append, List.length_nil] at hfuel
  obtain ⟨fuel, rfl⟩ : ∃ m, fuel = m + 1 := ⟨fuel - 1, by omega⟩
  rw [List.cons_append, loadValue, List.append_assoc, List.singleton_append, finite]
  cases items with
  | nil =>
    show Except.ok (PyValue.list [], rest) = .ok r ↔ _
    rw [Except.ok.injEq]
    exact ⟨fun h => ⟨rfl, h.symm⟩, fun h => h.2.symm⟩
  | cons v tail =>
    obtain ⟨c, cs, hhead, hspace, hclose, -⟩ := dumps_head hC (hjson v List.mem_cons_self)
    obtain ⟨cs', hstart⟩ := commaSep_head (tail.map (dumps C)) hhead
    have hitems := loadItems_dumps hC (List.cons_ne_nil v tail) hjson hreads fuel rest (by omega)
    rw [List.map_cons] at hitems ⊢
    rw [skipSpace_commaSep hhead hspace]
    split
    · rename_i heq
      rw [hstart, List.cons_append] at heq
      exact absurd (List.cons.inj heq).1 hclose
    · cases hresult : loadItems C fuel (commaSep (v.dumps C :: tail.map (dumps C)) ++ ']' :: rest) with
      | error e =>
        refine ⟨fun h => (by cases h), fun h => ?_⟩
        rw [(hitems _).mpr ⟨h.1, rfl⟩] at hresult
        cases hresult
      | ok q =>
        obtain ⟨hfinite, rfl⟩ := (hitems q).mp hresult
        rw [ok_bind]
        dsimp only
        rw [pure_eq_ok, Except.ok.injEq]
        exact ⟨fun h => ⟨hfinite, h.symm⟩, fun h => h.2.symm⟩

theorem reads_dict (hC : C.Lawful) {fields : List (String × PyValue)}
    (hnd : (fields.map Prod.fst).Nodup) (hjson : ∀ q ∈ fields, q.2.IsJson C)
    (hreads : ∀ q ∈ fields, q.2.Reads C) : (PyValue.dict fields).Reads C := by
  intro fuel rest hfuel _ r
  rw [dumps, dumpsFields_eq] at hfuel ⊢
  simp only [List.length_cons, List.length_append, List.length_nil] at hfuel
  obtain ⟨fuel, rfl⟩ : ∃ m, fuel = m + 1 := ⟨fuel - 1, by omega⟩
  rw [List.cons_append, loadValue, List.append_assoc, List.singleton_append, finite]
  cases fields with
  | nil =>
    show Except.ok (PyValue.dict [], rest) = .ok r ↔ _
    rw [Except.ok.injEq]
    exact ⟨fun h => ⟨rfl, h.symm⟩, fun h => h.2.symm⟩
  | cons q tail =>
    have hquote : dumpsMember C q = '"' :: _ := rfl
    obtain ⟨cs', hstart⟩ := commaSep_head (tail.map (dumpsMember C)) hquote
    have hmembers := loadMembers_dumps hC (List.cons_ne_nil q tail) hjson hreads fuel rest (by omega)
    rw [List.map_cons] at hmembers ⊢
    rw [skipSpace_commaSep hquote (by decide)]
    split
    · rename_i heq
      rw [hstart, List.cons_append] at heq
      exact absurd (List.cons.inj heq).1 (by decide)
    · cases hresult : loadMembers C fuel
          (commaSep (dumpsMember C q :: tail.map (dumpsMember C)) ++ '\x7d' :: rest) with
      | error e =>
        refine ⟨fun h => (by cases h), fun h => ?_⟩
        rw [(hmembers _).mpr ⟨h.1, rfl⟩] at hresult
        cases hresult
      | ok p =>
        obtain ⟨hfinite, rfl⟩ := (hmembers p).mp hresult
        rw [ok_bind]
        dsimp only
        rw [if_pos hnd, pure_eq_ok, Except.ok.injEq]
        exact ⟨fun h => ⟨hfinite, h.symm⟩, fun h => h.2.symm⟩

theorem reads_float (hC : C.Lawful) {x : PyFloat} (hx : (PyValue.float x).IsJson C) :
    (PyValue.float x).Reads C := by
  intro fuel rest hfuel hrest r
  obtain ⟨c, cs, hhead, -⟩ := dumps_head hC hx
  obtain ⟨fuel, rfl⟩ : ∃ m, fuel = m + 1 := ⟨fuel - 1, by
    rw [hhead, List.length_cons] at hfuel
    omega⟩
  rw [dumps, finite]
  cases hfinite : x.isFinite with
  | true =>
    obtain ⟨text, rfl⟩ := hx hfinite
    obtain ⟨l, hl, hread⟩ := hC.repr_read text hfinite
    rw [hl, loadValue_number (numberHead_append (numberHead_literal l) rest),
      loadNumber_literal l hrest, hread, Except.ok.injEq]
    exact ⟨fun h => ⟨rfl, h.symm⟩, fun h => h.2.symm⟩
  | false =>
    have hconstant : C.repr x = "NaN".toList ∨ C.repr x = "Infinity".toList ∨
        C.repr x = "-Infinity".toList := by
      cases x with
      | finite q => cases hfinite
      | negZero => cases hfinite
      | inf neg =>
        rw [hC.repr_inf]
        cases neg
        · exact .inr (.inl rfl)
        · exact .inr (.inr rfl)
      | nan => exact .inl hC.repr_nan
    rw [loadValue_constant hconstant]
    exact ⟨fun h => (by cases h), fun h => (by cases h.1)⟩

theorem reads_of_isJson (hC : C.Lawful) (v : PyValue) (hv : v.IsJson C) : v.Reads C := by
  induction v using PyValue.induct with
  | none =>
    intro fuel rest hfuel _ r
    obtain ⟨fuel, rfl⟩ : ∃ m, fuel = m + 1 := ⟨fuel - 1, by
      have hlen : (dumps C .none).length = 4 := rfl
      omega⟩
    show Except.ok (PyValue.none, rest) = .ok r ↔ _
    rw [Except.ok.injEq]
    exact ⟨fun h => ⟨rfl, h.symm⟩, fun h => h.2.symm⟩
  | bool b =>
    intro fuel rest hfuel _ r
    obtain ⟨fuel, rfl⟩ : ∃ m, fuel = m + 1 := ⟨fuel - 1, by
      have hlen : 4 ≤ (dumps C (.bool b)).length := by
        cases b
        · exact Nat.le_succ 4
        · exact le_rfl (a := 4)
      omega⟩
    have hread : loadValue C (fuel + 1) (dumps C (.bool b) ++ rest) = .ok (.bool b, rest) := by
      cases b <;> rfl
    rw [hread, Except.ok.injEq]
    exact ⟨fun h => ⟨rfl, h.symm⟩, fun h => h.2.symm⟩
  | int n =>
    intro fuel rest hfuel hrest r
    obtain ⟨c, cs, hhead, -⟩ := numberHead_intText n
    obtain ⟨fuel, rfl⟩ : ∃ m, fuel = m + 1 := ⟨fuel - 1, by
      rw [dumps, hhead, List.length_cons] at hfuel
      omega⟩
    rw [dumps, loadValue_number (numberHead_append (numberHead_intText n) rest),
      loadNumber_intText hv hrest, Except.ok.injEq]
    exact ⟨fun h => ⟨rfl, h.symm⟩, fun h => h.2.symm⟩
  | float x => exact reads_float hC hv
  | str s =>
    intro fuel rest hfuel _ r
    rw [dumps, quote] at hfuel ⊢
    obtain ⟨fuel, rfl⟩ : ∃ m, fuel = m + 1 := ⟨fuel - 1, by
      rw [List.length_cons] at hfuel
      omega⟩
    rw [List.cons_append, List.append_assoc, List.singleton_append, loadValue, parseString_escape]
    dsimp only
    rw [String.ofList_toList, Except.ok.injEq]
    exact ⟨fun h => ⟨rfl, h.symm⟩, fun h => h.2.symm⟩
  | list items ih =>
    have hjson := isJsonItems_iff.mp hv
    exact reads_list hC hjson fun v hmem => ih v hmem (hjson v hmem)
  | tuple items => exact hv.elim
  | dict fields ih =>
    have hjson := isJsonFields_iff.mp hv.2
    exact reads_dict hC hv.1 hjson fun q hq => ih q hq (hjson q hq)
  | secret v => exact hv.elim

/-! ## What a document loads to -/

theorem ofDigitChars_lt {digits : List Char} (h : ∀ c ∈ digits, c.isDigit = true) (init : Nat) :
    Nat.ofDigitChars 10 digits init < (init + 1) * 10 ^ digits.length := by
  induction digits generalizing init with
  | nil =>
    rw [Nat.ofDigitChars_nil, List.length_nil, Nat.pow_zero, Nat.mul_one]
    exact Nat.lt_succ_self init
  | cons c cs ih =>
    have hc : c.isDigit = true := h c List.mem_cons_self
    have hvalue : c.toNat - '0'.toNat < 10 := by
      rw [Char.isDigit, Bool.and_eq_true, decide_eq_true_eq, decide_eq_true_eq] at hc
      have hle : c.toNat ≤ 57 := hc.2
      have hzero : '0'.toNat = 48 := rfl
      omega
    rw [Nat.ofDigitChars_cons, List.length_cons, Nat.pow_succ]
    calc Nat.ofDigitChars 10 cs (10 * init + (c.toNat - '0'.toNat))
        < (10 * init + (c.toNat - '0'.toNat) + 1) * 10 ^ cs.length :=
          ih (fun x hx => h x (List.mem_cons_of_mem _ hx)) _
      _ ≤ ((init + 1) * 10) * 10 ^ cs.length := Nat.mul_le_mul_right _ (by omega)
      _ = (init + 1) * (10 ^ cs.length * 10) := by rw [Nat.mul_assoc, Nat.mul_comm 10]

/-- Digits print as no more digits. -/
theorem length_toDigits_le {digits : List Char} (h : ∀ c ∈ digits, c.isDigit = true) {k : Nat}
    (hk : 0 < k) (hlen : digits.length ≤ k) :
    (Nat.toDigits 10 (Nat.ofDigitChars 10 digits 0)).length ≤ k := by
  refine (Nat.length_toDigits_le_iff (by decide) hk).mpr ?_
  have hlt := ofDigitChars_lt h 0
  rw [Nat.zero_add, Nat.one_mul] at hlt
  exact hlt.trans_le (Nat.pow_le_pow_right (by decide) hlen)

theorem digits_of_integerPart {cs whole rest : List Char} (h : integerPart cs = some (whole, rest)) :
    ∃ neg digits, whole = signText neg ++ digits ∧ digits ≠ [] ∧ ∀ c ∈ digits, c.isDigit = true := by
  have hsign : ∃ neg, (cs.takeWhile (· == '-')).take 1 = signText neg := by
    cases cs with
    | nil => exact ⟨false, rfl⟩
    | cons c cs =>
      rw [List.takeWhile_cons]
      split
      · rename_i hc
        rw [beq_iff_eq.mp hc]
        exact ⟨true, rfl⟩
      · exact ⟨false, rfl⟩
  obtain ⟨neg, hneg⟩ := hsign
  unfold integerPart at h
  dsimp only at h
  rw [hneg] at h
  split at h
  · obtain ⟨rfl, -⟩ := Prod.mk.inj (Option.some.inj h)
    exact ⟨neg, ['0'], rfl, List.cons_ne_nil _ _, fun c hc => by
      rw [List.mem_singleton.mp hc]
      decide⟩
  · split at h
    · cases h
    · rename_i hne
      obtain ⟨rfl, -⟩ := Prod.mk.inj (Option.some.inj h)
      exact ⟨neg, _, rfl, hne, fun c hc => List.all_eq_true.mp List.all_takeWhile c hc⟩

theorem readable_of_integerOf {neg : Bool} {digits : List Char} {n : Int} (hne : digits ≠ [])
    (hdigits : ∀ c ∈ digits, c.isDigit = true) (h : integerOf (signText neg ++ digits) = .ok n) :
    Readable n := by
  obtain ⟨c, cs, rfl⟩ := List.exists_cons_of_ne_nil hne
  unfold Readable
  cases neg with
  | true =>
    rw [signText, if_pos rfl, List.singleton_append, integerOf] at h
    split_ifs at h with hlen
    obtain rfl := Except.ok.inj h
    rw [Int.natAbs_neg, Int.natAbs_natCast]
    exact length_toDigits_le hdigits (by decide) (Nat.not_lt.mp hlen)
  | false =>
    have hc : c ≠ '-' := by
      rintro rfl
      exact absurd (hdigits '-' List.mem_cons_self) (by decide)
    rw [signText, if_neg (by decide), List.nil_append] at h
    unfold integerOf at h
    split at h
    · rename_i heq
      exact absurd (List.cons.inj heq).1 hc
    · split_ifs at h with hlen
      obtain rfl := Except.ok.inj h
      rw [Int.natAbs_natCast]
      exact length_toDigits_le hdigits (by decide) (Nat.not_lt.mp hlen)

theorem isJson_of_loadNumber {cs rest : List Char} {v : PyValue}
    (h : loadNumber C cs = .ok (v, rest)) : v.IsJson C := by
  unfold loadNumber at h
  split at h
  · cases h
  · rename_i whole after hwhole
    obtain ⟨neg, digits, rfl, hne, hdigits⟩ := digits_of_integerPart hwhole
    dsimp only at h
    split at h
    · obtain ⟨n, hn, h⟩ := bind_eq_ok_iff.mp h
      obtain ⟨rfl, -⟩ := Prod.mk.inj (Except.ok.inj h)
      exact readable_of_integerOf hne hdigits hn
    · obtain ⟨rfl, -⟩ := Prod.mk.inj (Except.ok.inj h)
      exact fun _ => ⟨_, rfl⟩

theorem isJson_of_loadValue (fuel : Nat) :
    (∀ cs v rest, loadValue C fuel cs = .ok (v, rest) → v.IsJson C) ∧
    (∀ cs vs rest, loadItems C fuel cs = .ok (vs, rest) → ∀ v ∈ vs, v.IsJson C) ∧
    ∀ cs ms rest, loadMembers C fuel cs = .ok (ms, rest) → ∀ q ∈ ms, q.2.IsJson C := by
  induction fuel with
  | zero => exact ⟨fun _ _ _ h => (by cases h), fun _ _ _ h => (by cases h), fun _ _ _ h => (by cases h)⟩
  | succ fuel ih =>
    obtain ⟨ihvalue, ihitems, ihmembers⟩ := ih
    refine ⟨fun cs v rest h => ?_, fun cs vs rest h => ?_, fun cs ms rest h => ?_⟩
    · unfold loadValue at h
      split at h
      · split at h
        · obtain ⟨rfl, -⟩ := Prod.mk.inj (Except.ok.inj h)
          trivial
        · cases h
      · split at h
        · obtain ⟨rfl, -⟩ := Prod.mk.inj (Except.ok.inj h)
          trivial
        · obtain ⟨⟨vs, after⟩, hvs, h⟩ := bind_eq_ok_iff.mp h
          obtain ⟨rfl, -⟩ := Prod.mk.inj (Except.ok.inj h)
          exact isJsonItems_iff.mpr (ihitems _ _ _ hvs)
      · split at h
        · obtain ⟨rfl, -⟩ := Prod.mk.inj (Except.ok.inj h)
          exact ⟨List.nodup_nil, trivial⟩
        · obtain ⟨⟨ms, after⟩, hms, h⟩ := bind_eq_ok_iff.mp h
          dsimp only at h
          split at h
          · rename_i hnd
            obtain ⟨rfl, -⟩ := Prod.mk.inj (Except.ok.inj h)
            exact ⟨hnd, isJsonFields_iff.mpr (ihmembers _ _ _ hms)⟩
          · cases h
      · obtain ⟨rfl, -⟩ := Prod.mk.inj (Except.ok.inj h)
        trivial
      · obtain ⟨rfl, -⟩ := Prod.mk.inj (Except.ok.inj h)
        trivial
      · obtain ⟨rfl, -⟩ := Prod.mk.inj (Except.ok.inj h)
        trivial
      · split at h
        · cases h
        · exact isJson_of_loadNumber h
    · rw [loadItems] at h
      obtain ⟨⟨v, after⟩, hv, h⟩ := bind_eq_ok_iff.mp h
      have hfirst := ihvalue _ _ _ hv
      dsimp only at h
      split at h
      · obtain ⟨⟨vs', last⟩, hvs, h⟩ := bind_eq_ok_iff.mp h
        obtain ⟨rfl, -⟩ := Prod.mk.inj (Except.ok.inj h)
        exact List.forall_mem_cons.mpr ⟨hfirst, ihitems _ _ _ hvs⟩
      · obtain ⟨rfl, -⟩ := Prod.mk.inj (Except.ok.inj h)
        exact List.forall_mem_singleton.mpr hfirst
      · cases h
    · unfold loadMembers at h
      split at h
      · split at h
        · cases h
        · split at h
          · obtain ⟨⟨v, after⟩, hv, h⟩ := bind_eq_ok_iff.mp h
            have hfirst := ihvalue _ _ _ hv
            dsimp only at h
            split at h
            · obtain ⟨⟨ms', last⟩, hms, h⟩ := bind_eq_ok_iff.mp h
              obtain ⟨rfl, -⟩ := Prod.mk.inj (Except.ok.inj h)
              exact List.forall_mem_cons.mpr ⟨hfirst, ihmembers _ _ _ hms⟩
            · obtain ⟨rfl, -⟩ := Prod.mk.inj (Except.ok.inj h)
              exact List.forall_mem_singleton.mpr hfirst
            · cases h
          · cases h
      · cases h

/-- A document loads to what a document can hold. -/
theorem isJson_of_loads {cs : List Char} {v : PyValue} (h : loads C cs = .ok v) : v.IsJson C := by
  obtain ⟨⟨v', rest⟩, hvalue, h⟩ := bind_eq_ok_iff.mp h
  dsimp only at h
  split at h
  · obtain rfl := Except.ok.inj h
    exact (isJson_of_loadValue _).1 _ _ _ hvalue
  · cases h

/-- **What is printed reads back** as the same value exactly when every float has a value; it is
refused otherwise. -/
theorem loads_dumps_iff (hC : C.Lawful) {v : PyValue} (hv : v.IsJson C) (r : PyValue) :
    loads C (v.dumps C) = .ok r ↔ v.finite = true ∧ r = v := by
  obtain ⟨c, cs, hhead, hopens⟩ := dumps_head hC hv
  have hskip : skipSpace (v.dumps C) = v.dumps C := by
    rw [hhead, skipSpace_of_head hopens.1]
  have hreads := reads_of_isJson hC v hv ((v.dumps C).length + 1) [] (Nat.le_succ _)
    fun _ h => (by cases h)
  rw [List.append_nil] at hreads
  rw [loads, hskip, bind_eq_ok_iff]
  constructor
  · rintro ⟨q, hq, h⟩
    obtain ⟨hfinite, rfl⟩ := (hreads q).mp hq
    exact ⟨hfinite, (Except.ok.inj h).symm⟩
  · rintro ⟨hfinite, rfl⟩
    exact ⟨_, (hreads _).mpr ⟨hfinite, rfl⟩, rfl⟩

end PyValue
