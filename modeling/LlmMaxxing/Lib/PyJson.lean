import LlmMaxxing.Lib.PyValue

/-!
# JSON text as Python reads and writes it

`loads` reads a JSON document into a Python value, with hooks that refuse a repeated member name and
the constants that are not JSON; integers and floats are told apart by their spelling. `dumps`
writes a value without spaces, its members in their order. How a float reads and prints is a
parameter.
-/

/-- The float a decimal text denotes, and `float.__repr__`. -/
structure FloatCodec where
  read : List Char → PyFloat
  repr : PyFloat → List Char

namespace PyValue

open Json

/-- What reading raises: the text is not JSON, or a hook or the integer conversion refused it. -/
inductive LoadError where
  | malformed
  | duplicateKey
  | constant
  | integerTooLong
  deriving DecidableEq, Repr

variable (C : FloatCodec)

/-! ## Numbers -/

/-- `-?(0|[1-9][0-9]*)`: the text and what follows. -/
def integerPart (cs : List Char) : Option (List Char × List Char) :=
  let sign := cs.takeWhile (· == '-') |>.take 1
  let rest := cs.drop sign.length
  match rest with
  | '0' :: after => some (sign ++ ['0'], after)
  | _ =>
    let digits := rest.takeWhile Char.isDigit
    if digits = [] then Option.none else some (sign ++ digits, rest.drop digits.length)

/-- `(\.[0-9]+)?`. -/
def fractionPart (cs : List Char) : List Char × List Char :=
  match cs with
  | '.' :: rest =>
    let digits := rest.takeWhile Char.isDigit
    if digits = [] then ([], cs) else ('.' :: digits, rest.drop digits.length)
  | _ => ([], cs)

/-- `([eE][-+]?[0-9]+)?`. -/
def exponentPart (cs : List Char) : List Char × List Char :=
  match cs with
  | e :: rest =>
    if e = 'e' ∨ e = 'E' then
      let sign := rest.takeWhile (fun c => c == '-' || c == '+') |>.take 1
      let digits := (rest.drop sign.length).takeWhile Char.isDigit
      if digits = [] then ([], cs)
      else (e :: (sign ++ digits), rest.drop (sign.length + digits.length))
    else ([], cs)
  | [] => ([], cs)

/-- The integer of a text; the interpreter refuses more than 4300 digits. -/
def integerOf (text : List Char) : Except LoadError Int :=
  match text with
  | '-' :: digits =>
    if 4300 < digits.length then .error .integerTooLong
    else .ok (-(Nat.ofDigitChars 10 digits 0 : Int))
  | digits =>
    if 4300 < digits.length then .error .integerTooLong else .ok (Nat.ofDigitChars 10 digits 0 : Int)

/-- A number at the head of the text: a fraction or an exponent makes it a float. -/
def loadNumber (cs : List Char) : Except LoadError (PyValue × List Char) :=
  match integerPart cs with
  | Option.none => .error .malformed
  | some (whole, rest) =>
    let (fraction, rest) := fractionPart rest
    let (exponent, rest) := exponentPart rest
    if fraction = [] ∧ exponent = [] then do
      let n ← integerOf whole
      return (.int n, rest)
    else .ok (.float (C.read (whole ++ fraction ++ exponent)), rest)

/-- The constants of the reader that are not JSON. -/
def isConstant (cs : List Char) : Bool :=
  "NaN".toList.isPrefixOf cs || "Infinity".toList.isPrefixOf cs || "-Infinity".toList.isPrefixOf cs

/-! ## Values -/

mutual

/-- One value at the head of the text. -/
def loadValue : Nat → List Char → Except LoadError (PyValue × List Char)
  | 0, _ => .error .malformed
  | fuel + 1, cs =>
    match cs with
    | '"' :: rest =>
      match parseString rest with
      | some (s, after) => .ok (.str (String.ofList s), after)
      | Option.none => .error .malformed
    | '[' :: rest =>
      match skipSpace rest with
      | ']' :: after => .ok (.list [], after)
      | rest' => do
        let (items, after) ← loadItems fuel rest'
        return (.list items, after)
    | '{' :: rest =>
      match skipSpace rest with
      | '}' :: after => .ok (.dict [], after)
      | rest' => do
        let (members, after) ← loadMembers fuel rest'
        if (members.map Prod.fst).Nodup then return (.dict members, after)
        else .error .duplicateKey
    | 'n' :: 'u' :: 'l' :: 'l' :: after => .ok (.none, after)
    | 't' :: 'r' :: 'u' :: 'e' :: after => .ok (.bool true, after)
    | 'f' :: 'a' :: 'l' :: 's' :: 'e' :: after => .ok (.bool false, after)
    | cs => if isConstant cs then .error .constant else loadNumber C cs

/-- The items of an array up to its closing bracket. -/
def loadItems : Nat → List Char → Except LoadError (List PyValue × List Char)
  | 0, _ => .error .malformed
  | fuel + 1, cs => do
    let (v, rest) ← loadValue fuel cs
    match skipSpace rest with
    | ',' :: rest' => do
      let (vs, after) ← loadItems fuel (skipSpace rest')
      return (v :: vs, after)
    | ']' :: after => return ([v], after)
    | _ => .error .malformed

/-- The members of an object up to its closing brace, at the quote of the first name. -/
def loadMembers : Nat → List Char → Except LoadError (List (String × PyValue) × List Char)
  | 0, _ => .error .malformed
  | fuel + 1, cs =>
    match cs with
    | '"' :: afterQuote =>
      match parseString afterQuote with
      | Option.none => .error .malformed
      | some (name, rest) =>
        match skipSpace rest with
        | ':' :: rest' => do
          let (v, rest'') ← loadValue fuel (skipSpace rest')
          match skipSpace rest'' with
          | ',' :: next => do
            let (ms, after) ← loadMembers fuel (skipSpace next)
            return ((String.ofList name, v) :: ms, after)
          | '}' :: after => return ([(String.ofList name, v)], after)
          | _ => .error .malformed
        | _ => .error .malformed
    | _ => .error .malformed

end

/-- A whole document. -/
def loads (cs : List Char) : Except LoadError PyValue := do
  let (v, rest) ← loadValue C (cs.length + 1) (skipSpace cs)
  if skipSpace rest = [] then return v else .error .malformed

/-! ## Text -/

mutual

/-- `json.dumps` without spaces and without escaping what is not ASCII. -/
def dumps : PyValue → List Char
  | .none => "null".toList
  | .bool b => (if b then "true" else "false").toList
  | .int n => intText n
  | .float x => C.repr x
  | .str s => quote s
  | .list items | .tuple items => '[' :: (commaSep (dumpsItems items) ++ [']'])
  | .dict fields => '{' :: (commaSep (dumpsFields fields) ++ ['}'])
  | .secret v => v.dumps

def dumpsItems : List PyValue → List (List Char)
  | [] => []
  | v :: rest => v.dumps :: dumpsItems rest

def dumpsFields : List (String × PyValue) → List (List Char)
  | [] => []
  | (k, v) :: rest => (quote k ++ ':' :: v.dumps) :: dumpsFields rest

end

end PyValue
