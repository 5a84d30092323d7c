import Mathlib.Algebra.Ring.Nat
import LlmMaxxing.Lib.Check
import LlmMaxxing.Lib.JsonRoundTrip
import LlmMaxxing.Lib.PyJson

/-!
# The shape of a JSON text

`readValue` reads JSON by the grammar alone: it keeps the shape of what it read, with the bytes each
string takes in the text, and tells how many containers it had open at once, also where the text is
rejected. `readValue_of_loadValue` says that what `PyValue.loads` accepts has a shape, with the
elements of the value and strings at least as long.
-/

namespace JsonShape

open Json

/-- The shape of a value: a string has its bytes between the quotes. -/
inductive Shape where
  | scalar
  | string (bytes : Nat)
  | list (items : List Shape)
  | dict (members : List (Nat × Shape))

namespace Shape

mutual

/-- The containers, scalars, strings and names. -/
def count : Shape → Nat
  | .scalar | .string _ => 1
  | .list items => 1 + countItems items
  | .dict members => 1 + countMembers members

def countItems : List Shape → Nat
  | [] => 0
  | s :: rest => s.count + countItems rest

def countMembers : List (Nat × Shape) → Nat
  | [] => 0
  | (_, s) :: rest => 1 + s.count + countMembers rest

end

mutual

/-- The most containers inside one another. -/
def depth : Shape → Nat
  | .scalar | .string _ => 0
  | .list items => 1 + depthItems items
  | .dict members => 1 + depthMembers members

def depthItems : List Shape → Nat
  | [] => 0
  | s :: rest => max s.depth (depthItems rest)

def depthMembers : List (Nat × Shape) → Nat
  | [] => 0
  | (_, s) :: rest => max s.depth (depthMembers rest)

end

mutual

/-- The bytes of every string and name. -/
def strings : Shape → List Nat
  | .scalar => []
  | .string bytes => [bytes]
  | .list items => stringsItems items
  | .dict members => stringsMembers members

def stringsItems : List Shape → List Nat
  | [] => []
  | s :: rest => s.strings ++ stringsItems rest

def stringsMembers : List (Nat × Shape) → List Nat
  | [] => []
  | (bytes, s) :: rest => bytes :: (s.strings ++ stringsMembers rest)

end

end Shape

/-! ## Tokens -/

/-- The rest of a string after its opening quote: its bytes up to the closing quote, and what follows.
Any four hexadecimal digits may follow a `u`. -/
def readString : List Char → Option (Nat × List Char)
  | [] => none
  | '"' :: rest => some (0, rest)
  | '\\' :: 'u' :: a :: b :: c :: d :: rest =>
    if (hex4? a b c d).isSome then (readString rest).map fun q => (6 + q.1, q.2) else none
  | '\\' :: e :: rest =>
    if (simpleEscape? e).isSome then (readString rest).map fun q => (2 + q.1, q.2) else none
  | c :: rest =>
    if c.toNat < 0x20 ∨ c = '\\' then none
    else (readString rest).map fun q => ((String.utf8EncodeChar c).length + q.1, q.2)

/-- A literal or a number at the head of the text. -/
def readScalar (cs : List Char) : Option (List Char) :=
  match cs with
  | 'n' :: 'u' :: 'l' :: 'l' :: after => some after
  | 't' :: 'r' :: 'u' :: 'e' :: after => some after
  | 'f' :: 'a' :: 'l' :: 's' :: 'e' :: after => some after
  | cs =>
    (PyValue.integerPart cs).map fun q =>
      (PyValue.exponentPart (PyValue.fractionPart q.2).2).2

/-! ## Values -/

/-- What a reader found, and the most containers it had open at once. -/
structure Read (α : Type) where
  opened : Nat
  result : Option α

mutual

/-- One value at the head of the text. -/
def readValue : Nat → List Char → Read (Shape × List Char)
  | 0, _ => ⟨0, none⟩
  | fuel + 1, cs =>
    match cs with
    | '"' :: rest => ⟨0, (readString rest).map fun q => (.string q.1, q.2)⟩
    | '[' :: rest =>
      match skipSpace rest with
      | ']' :: after => ⟨1, some (.list [], after)⟩
      | rest' =>
        let r := readItems fuel rest'
        ⟨1 + r.opened, r.result.map fun q => (.list q.1, q.2)⟩
    | '{' :: rest =>
      match skipSpace rest with
      | '}' :: after => ⟨1, some (.dict [], after)⟩
      | rest' =>
        let r := readMembers fuel rest'
        ⟨1 + r.opened, r.result.map fun q => (.dict q.1, q.2)⟩
    | cs => ⟨0, (readScalar cs).map fun after => (.scalar, after)⟩

/-- The items of an array up to its closing bracket. -/
def readItems : Nat → List Char → Read (List Shape × List Char)
  | 0, _ => ⟨0, none⟩
  | fuel + 1, cs =>
    let v := readValue fuel cs
    match v.result with
    | none => ⟨v.opened, none⟩
    | some (s, rest) =>
      match skipSpace rest with
      | ',' :: rest' =>
        let r := readItems fuel (skipSpace rest')
        ⟨max v.opened r.opened, r.result.map fun q => (s :: q.1, q.2)⟩
      | ']' :: after => ⟨v.opened, some ([s], after)⟩
      | _ => ⟨v.opened, none⟩

/-- The members of an object up to its closing brace, at the quote of the first name. -/
def readMembers : Nat → List Char → Read (List (Nat × Shape) × List Char)
  | 0, _ => ⟨0, none⟩
  | fuel + 1, cs =>
    match cs with
    | '"' :: afterQuote =>
      match readString afterQuote with
      | none => ⟨0, none⟩
      | some (name, rest) =>
        match skipSpace rest with
        | ':' :: rest' =>
          let v := readValue fuel (skipSpace rest')
          match v.result with
          | none => ⟨v.opened, none⟩
          | some (s, rest'') =>
            match skipSpace rest'' with
            | ',' :: next =>
              let r := readMembers fuel (skipSpace next)
              ⟨max v.opened r.opened, r.result.map fun q => ((name, s) :: q.1, q.2)⟩
            | '}' :: after => ⟨v.opened, some ([(name, s)], after)⟩
            | _ => ⟨v.opened, none⟩
        | _ => ⟨0, none⟩
    | _ => ⟨0, none⟩

end

/-- A whole text: one value with whitespace around it. -/
def readText (fuel : Nat) (cs : List Char) : Read Shape :=
  let v := readValue fuel (skipSpace cs)
  ⟨v.opened, v.result.bind fun q => if skipSpace q.2 = [] then some q.1 else none⟩

/-! ## What a text loads to -/

namespace Shape

mutual

/-- The containers, scalars, strings and names of a value. -/
def elements : PyValue → Nat
  | .list items | .tuple items => 1 + elementsItems items
  | .dict fields => 1 + elementsFields fields
  | .secret v => elements v
  | _ => 1

def elementsItems : List PyValue → Nat
  | [] => 0
  | v :: rest => elements v + elementsItems rest

def elementsFields : List (String × PyValue) → Nat
  | [] => 0
  | (_, v) :: rest => 1 + elements v + elementsFields rest

end

mutual

/-- The strings and names of a value. -/
def texts : PyValue → List String
  | .str s => [s]
  | .list items | .tuple items => textsItems items
  | .dict fields => textsFields fields
  | .secret v => texts v
  | _ => []

def textsItems : List PyValue → List String
  | [] => []
  | v :: rest => texts v ++ textsItems rest

def textsFields : List (String × PyValue) → List String
  | [] => []
  | (k, v) :: rest => k :: (texts v ++ textsFields rest)

end

end Shape

open Shape

/-- Every text is at most as long as one of the strings. -/
def Covers (strings : List Nat) (texts : List String) : Prop :=
  ∀ t ∈ texts, ∃ n ∈ strings, (utf8 t.toList).length ≤ n

theorem Covers.append {a b : List Nat} {s t : List String} (ha : Covers a s) (hb : Covers b t) :
    Covers (a ++ b) (s ++ t) := by
  intro x hx
  rcases List.mem_append.mp hx with hx | hx
  · obtain ⟨n, hn, hle⟩ := ha x hx
    exact ⟨n, List.mem_append_left _ hn, hle⟩
  · obtain ⟨n, hn, hle⟩ := hb x hx
    exact ⟨n, List.mem_append_right _ hn, hle⟩

theorem Covers.cons {n : Nat} {a : List Nat} {s : String} {t : List String}
    (hn : (utf8 s.toList).length ≤ n) (ha : Covers a t) : Covers (n :: a) (s :: t) :=
  Covers.append (a := [n]) (s := [s]) (fun x hx => ⟨n, List.mem_singleton_self n,
    by rw [List.mem_singleton.mp hx]; exact hn⟩) ha

theorem length_utf8_cons (c : Char) (cs : List Char) :
    (utf8 (c :: cs)).length = (String.utf8EncodeChar c).length + (utf8 cs).length := by
  rw [utf8, List.flatMap_cons, List.length_append]
  rfl

theorem length_utf8EncodeChar_le (c : Char) : (String.utf8EncodeChar c).length ≤ 4 := by
  rw [String.length_utf8EncodeChar]
  exact Char.utf8Size_le_four c

/-- A string that parses has a shape, and is at most as long. -/
theorem readString_of_parseString {cs s rest : List Char} (h : parseString cs = some (s, rest)) :
    ∃ n, readString cs = some (n, rest) ∧ (utf8 s).length ≤ n := by
  have hchar : ∀ (c : Char) (cs : List Char) {n k : Nat}, (utf8 cs).length ≤ n → 4 ≤ k →
      (utf8 (c :: cs)).length ≤ k + n := by
    intro c cs n k hn hk
    have := length_utf8EncodeChar_le c
    rw [length_utf8_cons]
    omega
  induction cs using parseString.induct generalizing s rest with
  | case1 => cases h
  | case2 r =>
    simp only [parseString, Option.some.injEq, Prod.mk.injEq] at h
    obtain ⟨rfl, rfl⟩ := h
    exact ⟨0, rfl, le_rfl⟩
  | case3 a b c d r ihpair ih =>
    rw [parseString] at h
    obtain ⟨high, hhigh, h⟩ := Option.bind_eq_some_iff.mp h
    rw [readString, hhigh, Option.isSome_some, if_pos rfl]
    split at h
    · split at h
      · -- a surrogate pair: two escapes, one character
        rename_i a' b' c' d' r'
        obtain ⟨low, hlow, h⟩ := Option.bind_eq_some_iff.mp h
        split at h
        · obtain ⟨⟨t, after⟩, ht, h⟩ := Option.bind_eq_some_iff.mp h
          obtain ⟨rfl, rfl⟩ := Prod.mk.inj (Option.some.inj h)
          obtain ⟨n, hn, hle⟩ := ihpair ht
          rw [readString, hlow, Option.isSome_some, if_pos rfl, hn]
          exact ⟨6 + (6 + n), rfl, hchar _ _ (Nat.le_add_left_of_le hle) (by decide)⟩
        · cases h
      · cases h
    · obtain ⟨ch, -, h⟩ := Option.bind_eq_some_iff.mp h
      obtain ⟨⟨t, after⟩, ht, h⟩ := Option.bind_eq_some_iff.mp h
      obtain ⟨rfl, rfl⟩ := Prod.mk.inj (Option.some.inj h)
      obtain ⟨n, hn, hle⟩ := ih ht
      rw [hn]
      exact ⟨6 + n, rfl, hchar _ _ hle (by decide)⟩
  | case4 e r hu ih =>
    rw [parseString.eq_4 _ _ hu] at h
    rw [readString.eq_4 _ _ hu]
    obtain ⟨ch, hch, h⟩ := Option.bind_eq_some_iff.mp h
    obtain ⟨⟨t, after⟩, ht, h⟩ := Option.bind_eq_some_iff.mp h
    obtain ⟨rfl, rfl⟩ := Prod.mk.inj (Option.some.inj h)
    obtain ⟨n, hn, hle⟩ := ih ht
    rw [hch, Option.isSome_some, if_pos rfl, hn]
    refine ⟨2 + n, rfl, ?_⟩
    have hsmall : (String.utf8EncodeChar ch).length = 1 := by
      unfold simpleEscape? at hch
      split_ifs at hch
      all_goals
        cases hch
        decide
    rw [length_utf8_cons, hsmall]
    omega
  | case5 c r hquote hescape hsimple hcontrol =>
    rw [parseString.eq_5 _ _ hquote hescape hsimple, if_pos hcontrol] at h
    cases h
  | case6 c r hquote hescape hsimple hplain ih =>
    rw [parseString.eq_5 _ _ hquote hescape hsimple, if_neg hplain] at h
    rw [readString.eq_5 _ _ hquote hescape hsimple, if_neg hplain]
    obtain ⟨⟨t, after⟩, ht, h⟩ := Option.bind_eq_some_iff.mp h
    obtain ⟨rfl, rfl⟩ := Prod.mk.inj (Option.some.inj h)
    obtain ⟨n, hn, hle⟩ := ih ht
    rw [hn]
    refine ⟨_, rfl, ?_⟩
    rw [length_utf8_cons]
    exact Nat.add_le_add_left hle _

/-- What follows a scalar or a container. -/
theorem readValue_scalar {fuel : Nat} {c : Char} {cs : List Char} (hquote : c ≠ '"') (hlist : c ≠ '[')
    (hdict : c ≠ '\x7b') :
    readValue (fuel + 1) (c :: cs) = ⟨0, (readScalar (c :: cs)).map fun after => (.scalar, after)⟩ := by
  rw [readValue]
  · rintro _ heq
    exact hquote (List.cons.inj heq).1
  · rintro _ heq
    exact hlist (List.cons.inj heq).1
  · rintro _ heq
    exact hdict (List.cons.inj heq).1

theorem readScalar_of_loadValue {C : FloatCodec} {fuel : Nat} {c : Char} {cs rest : List Char}
    {v : PyValue} (hquote : c ≠ '"') (hlist : c ≠ '[') (hdict : c ≠ '\x7b')
    (h : PyValue.loadValue C (fuel + 1) (c :: cs) = .ok (v, rest)) :
    readScalar (c :: cs) = some rest ∧ elements v = 1 ∧ texts v = [] := by
  unfold PyValue.loadValue at h
  split at h
  · rename_i heq
    exact absurd (List.cons.inj heq).1 hquote
  · rename_i heq
    exact absurd (List.cons.inj heq).1 hlist
  · rename_i heq
    exact absurd (List.cons.inj heq).1 hdict
  · rename_i heq
    obtain ⟨rfl, rfl⟩ := Prod.mk.inj (Except.ok.inj h)
    rw [heq]
    exact ⟨rfl, rfl, rfl⟩
  · rename_i heq
    obtain ⟨rfl, rfl⟩ := Prod.mk.inj (Except.ok.inj h)
    rw [heq]
    exact ⟨rfl, rfl, rfl⟩
  · rename_i heq
    obtain ⟨rfl, rfl⟩ := Prod.mk.inj (Except.ok.inj h)
    rw [heq]
    exact ⟨rfl, rfl, rfl⟩
  · rename_i hnull htrue hfalse
    split at h
    · cases h
    · rw [readScalar.eq_4 _ hnull htrue hfalse]
      unfold PyValue.loadNumber at h
      split at h
      · cases h
      · rename_i whole after hwhole
        rw [hwhole]
        dsimp only at h
        split at h
        · obtain ⟨n, -, h⟩ := Check.bind_eq_ok_iff.mp h
          obtain ⟨rfl, rfl⟩ := Prod.mk.inj (Except.ok.inj h)
          exact ⟨rfl, rfl, rfl⟩
        · obtain ⟨rfl, rfl⟩ := Prod.mk.inj (Except.ok.inj h)
          exact ⟨rfl, rfl, rfl⟩

section Equations

variable {fuel n : Nat} {cs cs' after after' rest : List Char} {s : Shape}

theorem readItems_comma (hs : (readValue fuel cs).result = some (s, after))
    (hcomma : skipSpace after = ',' :: rest) :
    (readItems (fuel + 1) cs).result =
      (readItems fuel (skipSpace rest)).result.map fun q => (s :: q.1, q.2) := by
  rw [readItems]
  simp only [hs, hcomma]

theorem readItems_close (hs : (readValue fuel cs).result = some (s, after))
    (hclose : skipSpace after = ']' :: rest) :
    (readItems (fuel + 1) cs).result = some ([s], rest) := by
  rw [readItems]
  simp only [hs, hclose]

theorem readMembers_comma (hn : readString cs = some (n, after))
    (hcolon : skipSpace after = ':' :: cs')
    (hs : (readValue fuel (skipSpace cs')).result = some (s, after'))
    (hcomma : skipSpace after' = ',' :: rest) :
    (readMembers (fuel + 1) ('"' :: cs)).result =
      (readMembers fuel (skipSpace rest)).result.map fun q => ((n, s) :: q.1, q.2) := by
  rw [readMembers]
  simp only [hn, hcolon, hs, hcomma]

theorem readMembers_close (hn : readString cs = some (n, after))
    (hcolon : skipSpace after = ':' :: cs')
    (hs : (readValue fuel (skipSpace cs')).result = some (s, after'))
    (hclose : skipSpace after' = '\x7d' :: rest) :
    (readMembers (fuel + 1) ('"' :: cs)).result = some ([(n, s)], rest) := by
  rw [readMembers]
  simp only [hn, hcolon, hs, hclose]

end Equations

/-- **What loads has a shape**, of as many elements, whose strings are at least as long. -/
theorem readValue_of_loadValue (C : FloatCodec) (fuel : Nat) :
    (∀ cs v rest, PyValue.loadValue C fuel cs = .ok (v, rest) →
      ∃ s, (readValue fuel cs).result = some (s, rest) ∧ s.count = elements v ∧
        Covers s.strings (texts v)) ∧
    (∀ cs vs rest, PyValue.loadItems C fuel cs = .ok (vs, rest) →
      ∃ ss, (readItems fuel cs).result = some (ss, rest) ∧ countItems ss = elementsItems vs ∧
        Covers (stringsItems ss) (textsItems vs)) ∧
    ∀ cs ms rest, PyValue.loadMembers C fuel cs = .ok (ms, rest) →
      ∃ ss, (readMembers fuel cs).result = some (ss, rest) ∧ countMembers ss = elementsFields ms ∧
        Covers (stringsMembers ss) (textsFields ms) := by
  induction fuel with
  | zero => exact ⟨fun _ _ _ h => (by cases h), fun _ _ _ h => (by cases h), fun _ _ _ h => (by cases h)⟩
  | succ fuel ih =>
    obtain ⟨ihvalue, ihitems, ihmembers⟩ := ih
    refine ⟨fun cs v rest h => ?_, fun cs vs rest h => ?_, fun cs ms rest h => ?_⟩
    · cases cs with
      | nil => cases h
      | cons c cs =>
        by_cases hquote : c = '"'
        · subst hquote
          rw [PyValue.loadValue] at h
          split at h
          · rename_i t after ht
            obtain ⟨rfl, rfl⟩ := Prod.mk.inj (Except.ok.inj h)
            obtain ⟨n, hn, hle⟩ := readString_of_parseString ht
            rw [readValue, hn]
            refine ⟨.string n, rfl, rfl, Covers.cons ?_ fun _ ht => (by cases ht)⟩
            rw [String.toList_ofList]
            exact hle
          · cases h
        by_cases hlist : c = '['
        · subst hlist
          rw [PyValue.loadValue] at h
          split at h
          · rename_i after hskip
            obtain ⟨rfl, rfl⟩ := Prod.mk.inj (Except.ok.inj h)
            rw [readValue, hskip]
            exact ⟨.list [], rfl, rfl, fun _ ht => (by cases ht)⟩
          · rename_i hskip
            obtain ⟨⟨vs, after⟩, hvs, h⟩ := Check.bind_eq_ok_iff.mp h
            obtain ⟨rfl, rfl⟩ := Prod.mk.inj (Except.ok.inj h)
            obtain ⟨ss, hss, hcount, hcovers⟩ := ihitems _ _ _ hvs
            rw [readValue]
            split
            · rename_i heq
              exact absurd heq (hskip _)
            · dsimp only
              rw [hss]
              refine ⟨.list ss, rfl, ?_, hcovers⟩
              rw [count, elements, hcount]
        by_cases hdict : c = '\x7b'
        · subst hdict
          rw [PyValue.loadValue] at h
          split at h
          · rename_i after hskip
            obtain ⟨rfl, rfl⟩ := Prod.mk.inj (Except.ok.inj h)
            rw [readValue, hskip]
            exact ⟨.dict [], rfl, rfl, fun _ ht => (by cases ht)⟩
          · rename_i hskip
            obtain ⟨⟨ms, after⟩, hms, h⟩ := Check.bind_eq_ok_iff.mp h
            dsimp only at h
            split at h
            · obtain ⟨rfl, rfl⟩ := Prod.mk.inj (Except.ok.inj h)
              obtain ⟨ss, hss, hcount, hcovers⟩ := ihmembers _ _ _ hms
              rw [readValue]
              split
              · rename_i heq
                exact absurd heq (hskip _)
              · dsimp only
                rw [hss]
                refine ⟨.dict ss, rfl, ?_, hcovers⟩
                rw [count, elements, hcount]
            · cases h
        · obtain ⟨hscalar, hcount, htexts⟩ := readScalar_of_loadValue hquote hlist hdict h
          rw [readValue_scalar hquote hlist hdict, hscalar]
          exact ⟨.scalar, rfl, hcount.symm, htexts ▸ fun _ ht => (by cases ht)⟩
    · rw [PyValue.loadItems] at h
      obtain ⟨⟨v, after⟩, hv, h⟩ := Check.bind_eq_ok_iff.mp h
      obtain ⟨s, hs, hcount, hcovers⟩ := ihvalue _ _ _ hv
      dsimp only at h
      split at h
      · rename_i hskip
        obtain ⟨⟨vs, last⟩, hvs, h⟩ := Check.bind_eq_ok_iff.mp h
        obtain ⟨rfl, rfl⟩ := Prod.mk.inj (Except.ok.inj h)
        obtain ⟨ss, hss, hcounts, hcovers'⟩ := ihitems _ _ _ hvs
        refine ⟨s :: ss, ?_, ?_, hcovers.append hcovers'⟩
        · rw [readItems_comma hs hskip, hss]
          rfl
        · rw [countItems, elementsItems, hcount, hcounts]
      · rename_i hskip
        obtain ⟨rfl, rfl⟩ := Prod.mk.inj (Except.ok.inj h)
        refine ⟨[s], readItems_close hs hskip, ?_, hcovers.append fun _ ht => (by cases ht)⟩
        rw [countItems, elementsItems, hcount]
        rfl
      · cases h
    · unfold PyValue.loadMembers at h
      split at h
      · rename_i afterQuote
        split at h
        · cases h
        · rename_i name after hname
          obtain ⟨n, hn, hle⟩ := readString_of_parseString hname
          split at h
          · rename_i rest' hcolon
            obtain ⟨⟨v, after'⟩, hv, h⟩ := Check.bind_eq_ok_iff.mp h
            obtain ⟨s, hs, hcount, hcovers⟩ := ihvalue _ _ _ hv
            have hname' : (utf8 (String.ofList name).toList).length ≤ n := by
              rw [String.toList_ofList]
              exact hle
            dsimp only at h
            split at h
            · rename_i hcomma
              obtain ⟨⟨ms, last⟩, hms, h⟩ := Check.bind_eq_ok_iff.mp h
              obtain ⟨rfl, rfl⟩ := Prod.mk.inj (Except.ok.inj h)
              obtain ⟨ss, hss, hcounts, hcovers'⟩ := ihmembers _ _ _ hms
              refine ⟨(n, s) :: ss, ?_, ?_, .cons hname' (hcovers.append hcovers')⟩
              · rw [readMembers_comma hn hcolon hs hcomma, hss]
                rfl
              · rw [countMembers, elementsFields, hcount, hcounts]
            · rename_i hclose
              obtain ⟨rfl, rfl⟩ := Prod.mk.inj (Except.ok.inj h)
              refine ⟨[(n, s)], readMembers_close hn hcolon hs hclose, ?_,
                .cons hname' (hcovers.append fun _ ht => (by cases ht))⟩
              rw [countMembers, elementsFields, hcount]
              rfl
            · cases h
          · cases h
      · cases h

/-! ## Tokens of a scalar -/

/-- The characters of literals and numbers. -/
def IsTokenChar (c : Char) : Prop := c.isAlphanum = true ∨ c = '-' ∨ c = '+' ∨ c = '.'

theorem isTokenChar_of_isDigit {c : Char} (h : c.isDigit = true) : IsTokenChar c :=
  .inl (by rw [Char.isAlphanum, h, Bool.or_true])

/-- A run of such characters is taken off the front of a text. -/
def Takes (cs rest : List Char) : Prop :=
  ∃ token, cs = token ++ rest ∧ ∀ c ∈ token, IsTokenChar c

theorem Takes.refl (cs : List Char) : Takes cs cs := ⟨[], rfl, fun _ h => (by cases h)⟩

theorem Takes.trans {a b c : List Char} (hab : Takes a b) (hbc : Takes b c) : Takes a c := by
  obtain ⟨t, rfl, ht⟩ := hab
  obtain ⟨u, rfl, hu⟩ := hbc
  refine ⟨t ++ u, (List.append_assoc _ _ _).symm, fun x hx => ?_⟩
  rcases List.mem_append.mp hx with hx | hx
  · exact ht x hx
  · exact hu x hx

theorem Takes.cons {c : Char} {cs rest : List Char} (hc : IsTokenChar c) (h : Takes cs rest) :
    Takes (c :: cs) rest :=
  Takes.trans ⟨[c], rfl, fun _ hx => (List.mem_singleton.mp hx) ▸ hc⟩ h

/-- The longest run of characters that satisfy a test. -/
theorem takes_takeWhile {p : Char → Bool} (hp : ∀ c, p c = true → IsTokenChar c) (cs : List Char) :
    Takes cs (cs.drop (cs.takeWhile p).length) := by
  induction cs with
  | nil => exact Takes.refl _
  | cons c cs ih =>
    rw [List.takeWhile_cons]
    split
    · rename_i hc
      exact Takes.cons (hp c hc) ih
    · exact Takes.refl _

/-- A sign, when there is one. -/
theorem takes_sign {p : Char → Bool} (hp : ∀ c, p c = true → IsTokenChar c) (cs : List Char) :
    Takes cs (cs.drop ((cs.takeWhile p).take 1).length) := by
  cases cs with
  | nil => exact Takes.refl _
  | cons c cs =>
    rw [List.takeWhile_cons]
    split
    · rename_i hc
      exact Takes.cons (hp c hc) (Takes.refl _)
    · exact Takes.refl _

theorem takes_fractionPart (cs : List Char) : Takes cs (PyValue.fractionPart cs).2 := by
  unfold PyValue.fractionPart
  split
  · rename_i rest
    dsimp only
    split
    · exact Takes.refl _
    · exact Takes.cons (.inr (.inr (.inr rfl)))
        (takes_takeWhile (fun _ h => isTokenChar_of_isDigit h) rest)
  · exact Takes.refl _

theorem takes_exponentPart (cs : List Char) : Takes cs (PyValue.exponentPart cs).2 := by
  have hsign : ∀ c : Char, (c == '-' || c == '+') = true → IsTokenChar c := by
    intro c hc
    rcases Bool.or_eq_true_iff.mp hc with hc | hc
    · exact .inr (.inl (beq_iff_eq.mp hc))
    · exact .inr (.inr (.inl (beq_iff_eq.mp hc)))
  unfold PyValue.exponentPart
  split
  · rename_i e rest
    split
    · rename_i he
      dsimp only
      split
      · exact Takes.refl _
      · refine Takes.cons ?_ ?_
        · rcases he with rfl | rfl
          · exact .inl (by decide)
          · exact .inl (by decide)
        · rw [← List.drop_drop]
          exact (takes_sign hsign rest).trans (takes_takeWhile (fun _ h => isTokenChar_of_isDigit h) _)
    · exact Takes.refl _
  · exact Takes.refl _

/-- The digits of an integer are at least one. -/
theorem takes_integerPart {cs rest whole : List Char}
    (h : PyValue.integerPart cs = some (whole, rest)) :
    ∃ c cs', cs = c :: cs' ∧ IsTokenChar c ∧ Takes cs' rest := by
  have hminus : ∀ c : Char, (c == '-') = true → IsTokenChar c :=
    fun c hc => .inr (.inl (beq_iff_eq.mp hc))
  have hzero : IsTokenChar '0' := isTokenChar_of_isDigit (by decide)
  have hdigit : ∀ c : Char, c.isDigit = true → IsTokenChar c := fun _ h => isTokenChar_of_isDigit h
  have hhead : ∀ {cs : List Char}, (cs.takeWhile Char.isDigit) ≠ [] →
      ∃ c cs', cs = c :: cs' ∧ IsTokenChar c ∧
        Takes cs' (cs.drop (cs.takeWhile Char.isDigit).length) := by
    intro cs hne
    cases cs with
    | nil => exact absurd rfl hne
    | cons c cs =>
      rw [List.takeWhile_cons] at hne ⊢
      split at hne
      · rename_i hc
        rw [if_pos hc]
        exact ⟨c, cs, rfl, hdigit c hc, takes_takeWhile hdigit cs⟩
      · exact absurd rfl hne
  -- with a sign the head is the sign; without one it is the first digit
  have hbody : ∀ {after : List Char}, cs.drop ((cs.takeWhile (· == '-')).take 1).length = after →
      (∃ c cs', after = c :: cs' ∧ IsTokenChar c ∧ Takes cs' rest) →
      ∃ c cs', cs = c :: cs' ∧ IsTokenChar c ∧ Takes cs' rest := by
    rintro after hafter ⟨c, cs', rfl, hc, htakes⟩
    cases cs with
    | nil => cases hafter
    | cons d ds =>
      rw [List.takeWhile_cons] at hafter
      split at hafter
      · rename_i hd
        refine ⟨d, ds, rfl, hminus d hd, ?_⟩
        have hds : ds = c :: cs' := hafter
        exact hds ▸ Takes.cons hc htakes
      · obtain ⟨rfl, rfl⟩ := List.cons.inj hafter
        exact ⟨d, ds, rfl, hc, htakes⟩
  unfold PyValue.integerPart at h
  dsimp only at h
  split at h
  · rename_i after hafter
    obtain ⟨-, rfl⟩ := Prod.mk.inj (Option.some.inj h)
    exact hbody hafter ⟨'0', after, rfl, hzero, Takes.refl _⟩
  · split at h
    · cases h
    · rename_i hne
      obtain ⟨-, rfl⟩ := Prod.mk.inj (Option.some.inj h)
      exact hbody rfl (hhead hne)

/-- **What a scalar takes** is a run of letters, digits, signs and points, of at least one. -/
theorem takes_readScalar {cs rest : List Char} (h : readScalar cs = some rest) :
    ∃ c cs', cs = c :: cs' ∧ IsTokenChar c ∧ Takes cs' rest := by
  have hletter : ∀ token : List Char, token.all Char.isAlphanum = true →
      ∀ c ∈ token, IsTokenChar c :=
    fun _ h c hc => .inl (List.all_eq_true.mp h c hc)
  unfold readScalar at h
  split at h
  · obtain rfl := Option.some.inj h
    exact ⟨_, _, rfl, hletter ['n'] rfl _ (.head _), "ull".toList, rfl, hletter _ (by decide)⟩
  · obtain rfl := Option.some.inj h
    exact ⟨_, _, rfl, hletter ['t'] rfl _ (.head _), "rue".toList, rfl, hletter _ (by decide)⟩
  · obtain rfl := Option.some.inj h
    exact ⟨_, _, rfl, hletter ['f'] rfl _ (.head _), "alse".toList, rfl, hletter _ (by decide)⟩
  · obtain ⟨⟨whole, after⟩, hwhole, rfl⟩ := Option.map_eq_some_iff.mp h
    obtain ⟨c, cs', hcs, hc, htakes⟩ := takes_integerPart hwhole
    exact ⟨c, cs', hcs, hc, htakes.trans ((takes_fractionPart after).trans (takes_exponentPart _))⟩

/-! ## What a reader did -/

section Inversion

variable {fuel : Nat} {cs rest : List Char}

/-- How a value was read. -/
theorem readValue_cases {s : Shape} (h : (readValue (fuel + 1) cs).result = some (s, rest)) :
    (∃ after bytes, cs = '"' :: after ∧ readString after = some (bytes, rest) ∧ s = .string bytes) ∨
    (∃ after, cs = '[' :: after ∧ skipSpace after = ']' :: rest ∧ s = .list []) ∨
    (∃ after items, cs = '[' :: after ∧ (readItems fuel (skipSpace after)).result = some (items, rest) ∧
      s = .list items) ∨
    (∃ after, cs = '\x7b' :: after ∧ skipSpace after = '}' :: rest ∧ s = .dict []) ∨
    (∃ after members, cs = '\x7b' :: after ∧
      (readMembers fuel (skipSpace after)).result = some (members, rest) ∧ s = .dict members) ∨
    readScalar cs = some rest ∧ s = .scalar := by
  unfold readValue at h
  split at h
  · rename_i after
    obtain ⟨⟨bytes, rest'⟩, hread, heq⟩ := Option.map_eq_some_iff.mp h
    obtain ⟨rfl, rfl⟩ := Prod.mk.inj heq
    exact .inl ⟨after, bytes, rfl, hread, rfl⟩
  · rename_i after
    split at h
    · rename_i rest' hskip
      obtain ⟨rfl, rfl⟩ := Prod.mk.inj (Option.some.inj h)
      exact .inr (.inl ⟨after, rfl, hskip, rfl⟩)
    · obtain ⟨⟨items, rest'⟩, hread, heq⟩ := Option.map_eq_some_iff.mp h
      obtain ⟨rfl, rfl⟩ := Prod.mk.inj heq
      exact .inr (.inr (.inl ⟨after, items, rfl, hread, rfl⟩))
  · rename_i after
    split at h
    · rename_i rest' hskip
      obtain ⟨rfl, rfl⟩ := Prod.mk.inj (Option.some.inj h)
      exact .inr (.inr (.inr (.inl ⟨after, rfl, hskip, rfl⟩)))
    · obtain ⟨⟨members, rest'⟩, hread, heq⟩ := Option.map_eq_some_iff.mp h
      obtain ⟨rfl, rfl⟩ := Prod.mk.inj heq
      exact .inr (.inr (.inr (.inr (.inl ⟨after, members, rfl, hread, rfl⟩))))
  · obtain ⟨rest', hread, heq⟩ := Option.map_eq_some_iff.mp h
    obtain ⟨rfl, rfl⟩ := Prod.mk.inj heq
    exact .inr (.inr (.inr (.inr (.inr ⟨hread, rfl⟩))))

theorem readItems_cases {ss : List Shape} (h : (readItems (fuel + 1) cs).result = some (ss, rest)) :
    ∃ s after, (readValue fuel cs).result = some (s, after) ∧
      ((∃ next ss', skipSpace after = ',' :: next ∧
          (readItems fuel (skipSpace next)).result = some (ss', rest) ∧ ss = s :: ss') ∨
        skipSpace after = ']' :: rest ∧ ss = [s]) := by
  rw [readItems] at h
  dsimp only at h
  split at h
  · cases h
  · rename_i s after hvalue
    refine ⟨s, after, hvalue, ?_⟩
    split at h
    · rename_i next hskip
      obtain ⟨⟨ss', rest'⟩, hread, heq⟩ := Option.map_eq_some_iff.mp h
      obtain ⟨rfl, rfl⟩ := Prod.mk.inj heq
      exact .inl ⟨next, ss', hskip, hread, rfl⟩
    · rename_i hskip
      obtain ⟨rfl, rfl⟩ := Prod.mk.inj (Option.some.inj h)
      exact .inr ⟨hskip, rfl⟩
    · cases h

theorem readMembers_cases {ss : List (Nat × Shape)}
    (h : (readMembers (fuel + 1) cs).result = some (ss, rest)) :
    ∃ afterQuote name colon value s after, cs = '"' :: afterQuote ∧
      readString afterQuote = some (name, colon) ∧ skipSpace colon = ':' :: value ∧
      (readValue fuel (skipSpace value)).result = some (s, after) ∧
      ((∃ next ss', skipSpace after = ',' :: next ∧
          (readMembers fuel (skipSpace next)).result = some (ss', rest) ∧ ss = (name, s) :: ss') ∨
        skipSpace after = '}' :: rest ∧ ss = [(name, s)]) := by
  unfold readMembers at h
  split at h
  · rename_i afterQuote
    split at h
    · cases h
    · rename_i name colon hname
      split at h
      · rename_i value hcolon
        dsimp only at h
        split at h
        · cases h
        · rename_i s after hvalue
          refine ⟨afterQuote, name, colon, value, s, after, rfl, hname, hcolon, hvalue, ?_⟩
          split at h
          · rename_i next hskip
            obtain ⟨⟨ss', rest'⟩, hread, heq⟩ := Option.map_eq_some_iff.mp h
            obtain ⟨rfl, rfl⟩ := Prod.mk.inj heq
            exact .inl ⟨next, ss', hskip, hread, rfl⟩
          · rename_i hskip
            obtain ⟨rfl, rfl⟩ := Prod.mk.inj (Option.some.inj h)
            exact .inr ⟨hskip, rfl⟩
          · cases h
      · cases h
  · cases h

/-- Where containers are opened. -/
theorem readValue_opened (fuel : Nat) (cs : List Char) :
    (readValue (fuel + 1) cs).opened = 0 ∨
    (∃ after, cs = '[' :: after ∧ ((readValue (fuel + 1) cs).opened = 1 ∨
      (readValue (fuel + 1) cs).opened = 1 + (readItems fuel (skipSpace after)).opened)) ∨
    ∃ after, cs = '\x7b' :: after ∧ ((readValue (fuel + 1) cs).opened = 1 ∨
      (readValue (fuel + 1) cs).opened = 1 + (readMembers fuel (skipSpace after)).opened) := by
  unfold readValue
  split
  · exact .inl rfl
  · rename_i after
    refine .inr (.inl ⟨after, rfl, ?_⟩)
    split
    · exact .inl rfl
    · exact .inr rfl
  · rename_i after
    refine .inr (.inr ⟨after, rfl, ?_⟩)
    split
    · exact .inl rfl
    · exact .inr rfl
  · exact .inl rfl

theorem readItems_opened (fuel : Nat) (cs : List Char) :
    (readItems (fuel + 1) cs).opened = (readValue fuel cs).opened ∨
    ∃ s after next, (readValue fuel cs).result = some (s, after) ∧ skipSpace after = ',' :: next ∧
      (readItems (fuel + 1) cs).opened =
        max (readValue fuel cs).opened (readItems fuel (skipSpace next)).opened := by
  rw [readItems]
  dsimp only
  split
  · exact .inl rfl
  · rename_i s after hvalue
    split
    · rename_i next hskip
      exact .inr ⟨s, after, next, hvalue, hskip, rfl⟩
    · exact .inl rfl
    · exact .inl rfl

theorem readMembers_opened (fuel : Nat) (cs : List Char) :
    (readMembers (fuel + 1) cs).opened = 0 ∨
    ∃ afterQuote name colon value, cs = '"' :: afterQuote ∧
      readString afterQuote = some (name, colon) ∧ skipSpace colon = ':' :: value ∧
      ((readMembers (fuel + 1) cs).opened = (readValue fuel (skipSpace value)).opened ∨
        ∃ s after next, (readValue fuel (skipSpace value)).result = some (s, after) ∧
          skipSpace after = ',' :: next ∧ (readMembers (fuel + 1) cs).opened =
            max (readValue fuel (skipSpace value)).opened
              (readMembers fuel (skipSpace next)).opened) := by
  rw [readMembers.eq_def (fuel + 1) cs]
  dsimp only
  split
  · rename_i afterQuote
    split
    · exact .inl rfl
    · rename_i name colon hname
      split
      · rename_i value hcolon
        refine .inr ⟨afterQuote, name, colon, value, rfl, hname, hcolon, ?_⟩
        split
        · exact .inl rfl
        · rename_i s after hvalue
          split
          · rename_i next hskip
            exact .inr ⟨s, after, next, hvalue, hskip, rfl⟩
          · exact .inl rfl
          · exact .inl rfl
      · exact .inl rfl
  · exact .inl rfl

end Inversion

end JsonShape
