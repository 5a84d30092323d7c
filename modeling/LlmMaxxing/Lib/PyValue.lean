import LlmMaxxing.Lib.Json
import Mathlib.Data.Rat.Defs

/-!
# Python values, their equality and their canonical JSON text

The values a JSON document loads to, and what a program may put beside them: tuples and wrapped
secrets. `eq` is Python's `==`: booleans, integers and floats compare by their value, lists and
tuples item by item and never with each other, dictionaries by key. `canonicalBytes` is the
RFC 8785 text of a value; tuples, secrets, floats that are not finite and integers outside the
safe range have none.
-/

/-- A float: its exact value where it has one. -/
inductive PyFloat where
  | finite (x : ℚ)
  | negZero
  | inf (neg : Bool)
  | nan

/-- The value of a finite float. -/
def PyFloat.value? : PyFloat → Option ℚ
  | .finite x => some x
  | .negZero => some 0
  | .inf _ | .nan => none

/-- A Python value. The entries of a dictionary are in insertion order. -/
inductive PyValue where
  | none
  | bool (b : Bool)
  | int (n : Int)
  | float (x : PyFloat)
  | str (s : String)
  | list (items : List PyValue)
  | tuple (items : List PyValue)
  | dict (fields : List (String × PyValue))
  | secret (value : PyValue)

namespace PyValue

instance : Inhabited PyValue := ⟨.none⟩

/-! ## Well-formedness -/

mutual

/-- The keys of every dictionary are distinct. -/
def distinct : PyValue → Bool
  | .list items | .tuple items => distinctItems items
  | .dict fields => decide (fields.map Prod.fst).Nodup && distinctFields fields
  | .secret v => v.distinct
  | _ => true

def distinctItems : List PyValue → Bool
  | [] => true
  | v :: rest => v.distinct && distinctItems rest

def distinctFields : List (String × PyValue) → Bool
  | [] => true
  | (_, v) :: rest => v.distinct && distinctFields rest

end

/-! ## Equality -/

/-- The value that a number or a boolean compares by. -/
def number? : PyValue → Option ℚ
  | .bool b => some (if b then 1 else 0)
  | .int n => some n
  | .float x => x.value?
  | _ => Option.none

mutual

/-- Python's `==`. -/
def eq : PyValue → PyValue → Bool
  | .none, .none => true
  | .str a, .str b => a == b
  | .list as, .list bs => eqItems as bs
  | .tuple as, .tuple bs => eqItems as bs
  | .dict as, .dict bs => as.length == bs.length && eqFields as bs
  | .secret a, .secret b => eq a b
  | a, b =>
    match a.number?, b.number? with
    | some x, some y => x == y
    | _, _ => false

def eqItems : List PyValue → List PyValue → Bool
  | [], [] => true
  | a :: as, b :: bs => eq a b && eqItems as bs
  | _, _ => false

/-- Every entry of the first dictionary is an entry of the second. -/
def eqFields : List (String × PyValue) → List (String × PyValue) → Bool
  | [], _ => true
  | (k, a) :: rest, bs =>
    (match Dict.lookup k bs with
      | some b => eq a b
      | Option.none => false) && eqFields rest bs

end

/-- The integer is one that a float holds exactly and canonical JSON admits. -/
def isSafe (n : Int) : Bool := n.natAbs ≤ 2 ^ 53 - 1

mutual

/-- Every value of the first stands for a JSON value of the kind that the second has in its place:
a number for a number, a boolean for a boolean, a list for a list. -/
def sameKinds : PyValue → PyValue → Bool
  | .none, .none | .bool _, .bool _ | .str _, .str _ => true
  | .int n, .int _ | .int n, .float _ => isSafe n
  | .float _, .int _ | .float _, .float _ => true
  | .list as, .list bs => sameKindsItems as bs
  | .dict as, .dict bs => sameKindsFields as bs
  | _, _ => false

def sameKindsItems : List PyValue → List PyValue → Bool
  | a :: as, b :: bs => sameKinds a b && sameKindsItems as bs
  | _, _ => true

def sameKindsFields : List (String × PyValue) → List (String × PyValue) → Bool
  | [], _ => true
  | (k, a) :: rest, bs =>
    (match Dict.lookup k bs with
      | some b => sameKinds a b
      | Option.none => true) && sameKindsFields rest bs

end

/-! ## Freezing -/

mutual

/-- Lists become tuples, also inside lists and dictionaries. Dictionaries become read-only views,
which compare like dictionaries. -/
def freeze : PyValue → PyValue
  | .list items => .tuple (freezeItems items)
  | .dict fields => .dict (freezeFields fields)
  | v => v

def freezeItems : List PyValue → List PyValue
  | [] => []
  | v :: rest => v.freeze :: freezeItems rest

def freezeFields : List (String × PyValue) → List (String × PyValue)
  | [] => []
  | (k, v) :: rest => (k, v.freeze) :: freezeFields rest

end

/-! ## Canonical JSON -/

/-- The characters of a number. -/
def isNumberChar (c : Char) : Bool := c.isDigit || c == '-' || c == '+' || c == '.' || c == 'e'

/-- The texts of the finite floats. The shortest decimal that reads back to a float tells it
from every other one, and a whole float in the safe range is written like the integer. -/
structure FloatText where
  text : ℚ → List Char
  injective : Function.Injective text
  int_text : ∀ n : Int, isSafe n = true → text n = Json.intText n
  ne_nil : ∀ x, text x ≠ []
  chars : ∀ x, ∀ c ∈ text x, isNumberChar c = true

variable (F : FloatText)

mutual

/-- The value has a canonical text. -/
def serializable : PyValue → Bool
  | .none | .bool _ | .str _ => true
  | .int n => isSafe n
  | .float x => x.value?.isSome
  | .list items => serializableItems items
  | .dict fields => serializableFields fields
  | .tuple _ | .secret _ => false

def serializableItems : List PyValue → Bool
  | [] => true
  | v :: rest => v.serializable && serializableItems rest

def serializableFields : List (String × PyValue) → Bool
  | [] => true
  | (_, v) :: rest => v.serializable && serializableFields rest

end

mutual

/-- The canonical text of a value that has one. -/
def text : PyValue → List Char
  | .none => "null".toList
  | .bool b => (if b then "true" else "false").toList
  | .int n => Json.intText n
  | .float x => F.text (x.value?.getD 0)
  | .str s => Json.quote s
  | .list items => '[' :: (Json.commaSep (textItems items) ++ [']'])
  | .dict fields =>
    '{' :: (Json.commaSep ((sortOn (fun q => Json.utf16 q.1) (textFields fields)).map
      fun q => Json.quote q.1 ++ ':' :: q.2) ++ ['}'])
  | .tuple _ | .secret _ => []

def textItems : List PyValue → List (List Char)
  | [] => []
  | v :: rest => v.text :: textItems rest

def textFields : List (String × PyValue) → List (String × List Char)
  | [] => []
  | (k, v) :: rest => (k, v.text) :: textFields rest

end

/-- `canonical_json_bytes`; `none` when it raises. -/
def canonicalBytes (v : PyValue) : Option Json.Bytes :=
  if v.serializable then some (Json.utf8 (v.text F)) else Option.none

end PyValue
