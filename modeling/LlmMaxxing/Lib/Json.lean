import LlmMaxxing.Lib.Dict
import LlmMaxxing.Lib.SortOn
import Mathlib.Data.List.Lex

/-!
# Canonical JSON text and its parser

JSON values without floats, their canonical text (object members sorted by the UTF-16 code
units of their names, no whitespace, minimal escapes) and a parser for JSON text. Numbers with
a fraction or an exponent are refused by the parser: they denote floats.

The parser is a recursive descent with fuel; the length of the text is always enough. The main
result is in `Json.RoundTrip`: reading canonical text gives the value back with its members
sorted.
-/

/-- A JSON value without floats. The members of an object are in insertion order. -/
inductive Json where
  | null
  | bool (b : Bool)
  | num (n : Int)
  | str (s : String)
  | arr (items : List Json)
  | obj (fields : List (String × Json))

namespace Json

mutual

/-- Equality of values; members are compared in order. -/
def decEq : (a b : Json) → Decidable (a = b)
  | .null, .null => isTrue rfl
  | .bool a, .bool b => if h : a = b then isTrue (h ▸ rfl) else isFalse fun e => h (by cases e; rfl)
  | .num a, .num b => if h : a = b then isTrue (h ▸ rfl) else isFalse fun e => h (by cases e; rfl)
  | .str a, .str b => if h : a = b then isTrue (h ▸ rfl) else isFalse fun e => h (by cases e; rfl)
  | .arr a, .arr b =>
    match decEqItems a b with
    | isTrue h => isTrue (h ▸ rfl)
    | isFalse h => isFalse fun e => h (by cases e; rfl)
  | .obj a, .obj b =>
    match decEqFields a b with
    | isTrue h => isTrue (h ▸ rfl)
    | isFalse h => isFalse fun e => h (by cases e; rfl)
  | .null, .bool _ | .null, .num _ | .null, .str _ | .null, .arr _ | .null, .obj _
  | .bool _, .null | .bool _, .num _ | .bool _, .str _ | .bool _, .arr _ | .bool _, .obj _
  | .num _, .null | .num _, .bool _ | .num _, .str _ | .num _, .arr _ | .num _, .obj _
  | .str _, .null | .str _, .bool _ | .str _, .num _ | .str _, .arr _ | .str _, .obj _
  | .arr _, .null | .arr _, .bool _ | .arr _, .num _ | .arr _, .str _ | .arr _, .obj _
  | .obj _, .null | .obj _, .bool _ | .obj _, .num _ | .obj _, .str _ | .obj _, .arr _ =>
    isFalse fun e => by cases e

def decEqItems : (a b : List Json) → Decidable (a = b)
  | [], [] => isTrue rfl
  | [], _ :: _ | _ :: _, [] => isFalse fun e => by cases e
  | a :: as, b :: bs =>
    match decEq a b, decEqItems as bs with
    | isTrue h, isTrue h' => isTrue (h ▸ h' ▸ rfl)
    | isFalse h, _ => isFalse fun e => h (by cases e; rfl)
    | _, isFalse h => isFalse fun e => h (by cases e; rfl)

def decEqFields : (a b : List (String × Json)) → Decidable (a = b)
  | [], [] => isTrue rfl
  | [], _ :: _ | _ :: _, [] => isFalse fun e => by cases e
  | (k, a) :: as, (l, b) :: bs =>
    if hk : k = l then
      match decEq a b, decEqFields as bs with
      | isTrue h, isTrue h' => isTrue (hk ▸ h ▸ h' ▸ rfl)
      | isFalse h, _ => isFalse fun e => h (by cases e; rfl)
      | _, isFalse h => isFalse fun e => h (by cases e; rfl)
    else isFalse fun e => hk (by cases e; rfl)

end

instance : DecidableEq Json := decEq

/-! ## Bytes -/

/-- A byte string. -/
abbrev Bytes := List UInt8

/-- UTF-8 encoding. -/
def utf8 (cs : List Char) : Bytes := cs.flatMap String.utf8EncodeChar

/-- UTF-8 decoding; `none` when the bytes are not UTF-8. -/
def utf8Decode? (b : Bytes) : Option (List Char) := b.toByteArray.utf8Decode?.map Array.toList

/-- The order of byte strings, as lists of numbers. -/
def byteOrder (b : Bytes) : List Nat := b.map UInt8.toNat

/-- The UTF-16 code units of a text; comparing these compares the big-endian bytes. -/
def utf16 (s : String) : List Nat :=
  s.toList.flatMap fun c =>
    if c.toNat < 0x10000 then [c.toNat]
    else [0xd800 + (c.toNat - 0x10000) / 0x400, 0xdc00 + (c.toNat - 0x10000) % 0x400]

/-! ## Canonical text -/

/-- A hexadecimal digit, lower case. -/
def hexDigit (n : Nat) : Char := Nat.digitChar n

/-- The escape of one character inside a string. -/
def escapeChar (c : Char) : List Char :=
  if c = '"' then ['\\', '"']
  else if c = '\\' then ['\\', '\\']
  else if c = '\n' then ['\\', 'n']
  else if c = '\r' then ['\\', 'r']
  else if c = '\t' then ['\\', 't']
  else if c = '\x08' then ['\\', 'b']
  else if c = '\x0c' then ['\\', 'f']
  else if c.toNat < 0x20 then
    ['\\', 'u', '0', '0', hexDigit (c.toNat / 16), hexDigit (c.toNat % 16)]
  else [c]

/-- A quoted string. -/
def quote (s : String) : List Char := '"' :: (s.toList.flatMap escapeChar ++ ['"'])

/-- Decimal text of an integer. -/
def intText : Int → List Char
  | .ofNat n => Nat.toDigits 10 n
  | .negSucc n => '-' :: Nat.toDigits 10 (n + 1)

/-- Texts separated by commas. -/
def commaSep : List (List Char) → List Char
  | [] => []
  | [t] => t
  | t :: u :: rest => t ++ ',' :: commaSep (u :: rest)

mutual

/-- Canonical text. -/
def render : Json → List Char
  | .null => ['n', 'u', 'l', 'l']
  | .bool true => ['t', 'r', 'u', 'e']
  | .bool false => ['f', 'a', 'l', 's', 'e']
  | .num n => intText n
  | .str s => quote s
  | .arr items => '[' :: (commaSep (renderItems items) ++ [']'])
  | .obj fields =>
    '{' :: (commaSep ((sortOn (fun q => utf16 q.1) (renderFields fields)).map
      fun q => quote q.1 ++ ':' :: q.2) ++ ['}'])

/-- The text of each item. -/
def renderItems : List Json → List (List Char)
  | [] => []
  | v :: rest => v.render :: renderItems rest

/-- The name and the text of each member. -/
def renderFields : List (String × Json) → List (String × List Char)
  | [] => []
  | (k, v) :: rest => (k, v.render) :: renderFields rest

end

mutual

/-- The value with the members of every object sorted by name. -/
def norm : Json → Json
  | .arr items => .arr (normItems items)
  | .obj fields => .obj (sortOn (fun q => utf16 q.1) (normFields fields))
  | v => v

def normItems : List Json → List Json
  | [] => []
  | v :: rest => v.norm :: normItems rest

def normFields : List (String × Json) → List (String × Json)
  | [] => []
  | (k, v) :: rest => (k, v.norm) :: normFields rest

end

mutual

/-- Every integer satisfies `p` and the member names of every object are distinct. -/
def Holds (p : Int → Prop) : Json → Prop
  | .num n => p n
  | .arr items => HoldsItems p items
  | .obj fields => (fields.map Prod.fst).Nodup ∧ HoldsFields p fields
  | _ => True

def HoldsItems (p : Int → Prop) : List Json → Prop
  | [] => True
  | v :: rest => v.Holds p ∧ HoldsItems p rest

def HoldsFields (p : Int → Prop) : List (String × Json) → Prop
  | [] => True
  | (_, v) :: rest => v.Holds p ∧ HoldsFields p rest

end

/-! ## Parser -/

/-- JSON whitespace. -/
def isSpace (c : Char) : Bool := c == ' ' || c == '\t' || c == '\n' || c == '\r'

/-- Drop leading whitespace. -/
def skipSpace (cs : List Char) : List Char := cs.dropWhile isSpace

/-- The value of a hexadecimal digit of either case. -/
def hexValue? (c : Char) : Option Nat :=
  if '0' ≤ c ∧ c ≤ '9' then some (c.toNat - '0'.toNat)
  else if 'a' ≤ c ∧ c ≤ 'f' then some (c.toNat - 'a'.toNat + 10)
  else if 'A' ≤ c ∧ c ≤ 'F' then some (c.toNat - 'A'.toNat + 10)
  else none

/-- Four hexadecimal digits. -/
def hex4? (a b c d : Char) : Option Nat := do
  return (((← hexValue? a) * 16 + (← hexValue? b)) * 16 + (← hexValue? c)) * 16 + (← hexValue? d)

/-- The character of a one-letter escape. -/
def simpleEscape? (c : Char) : Option Char :=
  if c = '"' then some '"'
  else if c = '\\' then some '\\'
  else if c = '/' then some '/'
  else if c = 'b' then some '\x08'
  else if c = 'f' then some '\x0c'
  else if c = 'n' then some '\n'
  else if c = 'r' then some '\r'
  else if c = 't' then some '\t'
  else none

/-- The character of a code point that is not a surrogate. -/
def scalar? (n : Nat) : Option Char :=
  if n < 0xd800 ∨ (0xdfff < n ∧ n < 0x110000) then some (Char.ofNat n) else none

/-- The rest of a string after its opening quote: the characters and what follows. A surrogate
pair is one character; a lone surrogate is refused. -/
def parseString : List Char → Option (List Char × List Char)
  | [] => none
  | '"' :: rest => some ([], rest)
  | '\\' :: 'u' :: a :: b :: c :: d :: rest => do
    let high ← hex4? a b c d
    if 0xd800 ≤ high ∧ high ≤ 0xdbff then
      match rest with
      | '\\' :: 'u' :: a' :: b' :: c' :: d' :: rest' => do
        let low ← hex4? a' b' c' d'
        if 0xdc00 ≤ low ∧ low ≤ 0xdfff then
          let (s, after) ← parseString rest'
          return (Char.ofNat (0x10000 + (high - 0xd800) * 0x400 + (low - 0xdc00)) :: s, after)
        else none
      | _ => none
    else do
      let ch ← scalar? high
      let (s, after) ← parseString rest
      return (ch :: s, after)
  | '\\' :: e :: rest => do
    let ch ← simpleEscape? e
    let (s, after) ← parseString rest
    return (ch :: s, after)
  | c :: rest =>
    if c.toNat < 0x20 ∨ c = '\\' then none
    else do
      let (s, after) ← parseString rest
      return (c :: s, after)

/-- A natural number without leading zeros; the interpreter refuses more than 4300 digits. -/
def parseNat (cs : List Char) : Option (Nat × List Char) :=
  let digits := cs.takeWhile Char.isDigit
  let rest := cs.dropWhile Char.isDigit
  if digits = [] ∨ (digits.head? = some '0' ∧ digits ≠ ['0']) ∨ 4300 < digits.length then none
  else if rest.head? = some '.' ∨ rest.head? = some 'e' ∨ rest.head? = some 'E' then none
  else some (Nat.ofDigitChars 10 digits 0, rest)

/-- An integer. -/
def parseInt : List Char → Option (Int × List Char)
  | '-' :: rest => (parseNat rest).map fun (n, after) => (-(n : Int), after)
  | cs => (parseNat cs).map fun (n, after) => ((n : Int), after)

/-- The members as a dictionary: a later member replaces an earlier one of its name. -/
def ofMembers (members : List (String × Json)) : List (String × Json) :=
  members.foldl (fun acc q => Dict.upsert q.1 q.2 acc) []

mutual

/-- One value at the head of the text. -/
def parseValue : Nat → List Char → Option (Json × List Char)
  | 0, _ => none
  | fuel + 1, cs =>
    match cs with
    | '"' :: rest => (parseString rest).map fun (s, after) => (.str (String.ofList s), after)
    | '[' :: rest =>
      match skipSpace rest with
      | ']' :: after => some (.arr [], after)
      | rest' => (parseItems fuel rest').map fun (items, after) => (.arr items, after)
    | '{' :: rest =>
      match skipSpace rest with
      | '}' :: after => some (.obj [], after)
      | rest' => (parseMembers fuel rest').map fun (ms, after) => (.obj (ofMembers ms), after)
    | 'n' :: 'u' :: 'l' :: 'l' :: after => some (.null, after)
    | 't' :: 'r' :: 'u' :: 'e' :: after => some (.bool true, after)
    | 'f' :: 'a' :: 'l' :: 's' :: 'e' :: after => some (.bool false, after)
    | cs => (parseInt cs).map fun (n, after) => (.num n, after)

/-- The items of an array up to its closing bracket, at the head of the first one. -/
def parseItems : Nat → List Char → Option (List Json × List Char)
  | 0, _ => none
  | fuel + 1, cs => do
    let (v, rest) ← parseValue fuel cs
    match skipSpace rest with
    | ',' :: rest' => do
      let (vs, after) ← parseItems fuel (skipSpace rest')
      return (v :: vs, after)
    | ']' :: after => return ([v], after)
    | _ => none

/-- The members of an object up to its closing brace, at the quote of the first name. -/
def parseMembers : Nat → List Char → Option (List (String × Json) × List Char)
  | 0, _ => none
  | fuel + 1, cs =>
    match cs with
    | '"' :: afterQuote => do
      let (name, rest) ← parseString afterQuote
      match skipSpace rest with
      | ':' :: rest' => do
        let (v, rest'') ← parseValue fuel (skipSpace rest')
        match skipSpace rest'' with
        | ',' :: next => do
          let (ms, after) ← parseMembers fuel (skipSpace next)
          return ((String.ofList name, v) :: ms, after)
        | '}' :: after => return ([(String.ofList name, v)], after)
        | _ => none
      | _ => none
    | _ => none

end

/-- A whole text: one value with whitespace around it. -/
def parseText (cs : List Char) : Option Json :=
  match parseValue cs.length (skipSpace cs) with
  | some (v, rest) => if skipSpace rest = [] then some v else none
  | none => none

/-- A whole UTF-8 document. -/
def parse (b : Bytes) : Option Json := (utf8Decode? b).bind parseText

end Json
