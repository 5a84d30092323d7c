import Mathlib.Data.List.Basic
import Mathlib.Tactic.Common
import Mathlib.Tactic.IntervalCases

/-!
# URL-safe base64

Three bytes are four symbols of six bits; one or two bytes at the end leave spare bits, which the
encoder clears, and are padded with `=`. The decoder is strict about the alphabet and the padding
but drops the spare bits, so two texts may decode to the same bytes. `decode_encode` is the round
trip; `unpad` takes the padding off and `repad` puts it back.
-/

namespace Base64

/-! ## Symbols -/

/-- The symbol of six bits. -/
def symbol (n : Nat) : Char :=
  if n < 26 then Char.ofNat (65 + n)
  else if n < 52 then Char.ofNat (97 + (n - 26))
  else if n < 62 then Char.ofNat (48 + (n - 52))
  else if n = 62 then '-'
  else '_'

/-- The six bits of a symbol. The two symbols of the standard alphabet that the URL-safe one
replaces are read as well. -/
def value? (c : Char) : Option Nat :=
  if 'A' ≤ c ∧ c ≤ 'Z' then some (c.toNat - 65)
  else if 'a' ≤ c ∧ c ≤ 'z' then some (c.toNat - 97 + 26)
  else if '0' ≤ c ∧ c ≤ '9' then some (c.toNat - 48 + 52)
  else if c = '-' ∨ c = '+' then some 62
  else if c = '_' ∨ c = '/' then some 63
  else none

/-- `[A-Za-z0-9_-]`. -/
def isSymbol (c : Char) : Bool :=
  ('A' ≤ c && c ≤ 'Z') || ('a' ≤ c && c ≤ 'z') || ('0' ≤ c && c ≤ '9') || c == '_' || c == '-'

theorem value?_symbol {n : Nat} (h : n < 64) : value? (symbol n) = some n := by
  have hall : ∀ n : Fin 64, value? (symbol n) = some (n : Nat) := by decide
  exact hall ⟨n, h⟩

theorem isSymbol_symbol {n : Nat} (h : n < 64) : isSymbol (symbol n) = true := by
  have hall : ∀ n : Fin 64, isSymbol (symbol n) = true := by decide
  exact hall ⟨n, h⟩

theorem ne_pad_of_isSymbol {c : Char} (h : isSymbol c = true) : c ≠ '=' := by
  rintro rfl
  revert h
  decide

/-! ## Encoding -/

/-- The symbols of the bytes, without padding. -/
def encodeBody : List UInt8 → List Char
  | a :: b :: c :: rest =>
    symbol (a.toNat / 4) :: symbol (a.toNat % 4 * 16 + b.toNat / 16) ::
      symbol (b.toNat % 16 * 4 + c.toNat / 64) :: symbol (c.toNat % 64) :: encodeBody rest
  | [a, b] =>
    [symbol (a.toNat / 4), symbol (a.toNat % 4 * 16 + b.toNat / 16), symbol (b.toNat % 16 * 4)]
  | [a] => [symbol (a.toNat / 4), symbol (a.toNat % 4 * 16)]
  | [] => []

/-- The padding that completes the last group of four. -/
def padding (bs : List UInt8) : List Char :=
  List.replicate (if bs.length % 3 = 0 then 0 else 3 - bs.length % 3) '='

/-- The padded text of the bytes. -/
def encode (bs : List UInt8) : List Char := encodeBody bs ++ padding bs

theorem isSymbol_of_mem_encodeBody {bs : List UInt8} : ∀ c ∈ encodeBody bs, isSymbol c = true := by
  induction bs using encodeBody.induct with
  | case1 a b c rest ih =>
    have ha := a.toNat_lt
    have hb := b.toNat_lt
    have hc := c.toNat_lt
    simp only [encodeBody, List.forall_mem_cons]
    exact ⟨isSymbol_symbol (by omega), isSymbol_symbol (by omega), isSymbol_symbol (by omega),
      isSymbol_symbol (by omega), ih⟩
  | case2 a b =>
    have ha := a.toNat_lt
    have hb := b.toNat_lt
    simp only [encodeBody, List.forall_mem_cons]
    exact ⟨isSymbol_symbol (by omega), isSymbol_symbol (by omega), isSymbol_symbol (by omega),
      by simp⟩
  | case3 a =>
    have ha := a.toNat_lt
    simp only [encodeBody, List.forall_mem_cons]
    exact ⟨isSymbol_symbol (by omega), isSymbol_symbol (by omega), by simp⟩
  | case4 => simp [encodeBody]

/-- The number of symbols: eight bits a byte, six a symbol, rounded up. -/
theorem length_encodeBody (bs : List UInt8) : (encodeBody bs).length = (8 * bs.length + 5) / 6 := by
  induction bs using encodeBody.induct with
  | case1 a b c rest ih =>
    simp only [encodeBody, List.length_cons, ih]
    omega
  | case2 a b => simp [encodeBody]
  | case3 a => simp [encodeBody]
  | case4 => simp [encodeBody]

/-! ## Decoding -/

/-- Strict decoding of padded text: whole groups of four, padding in the last one only. The spare
bits before the padding are dropped. -/
def decode : List Char → Option (List UInt8)
  | [] => some []
  | w :: x :: y :: z :: rest =>
    if y = '=' ∧ z = '=' ∧ rest = [] then do
      let w ← value? w
      let x ← value? x
      return [UInt8.ofNat (w * 4 + x / 16)]
    else if z = '=' ∧ rest = [] then do
      let w ← value? w
      let x ← value? x
      let y ← value? y
      return [UInt8.ofNat (w * 4 + x / 16), UInt8.ofNat (x % 16 * 16 + y / 4)]
    else do
      let w ← value? w
      let x ← value? x
      let y ← value? y
      let z ← value? z
      let tail ← decode rest
      return UInt8.ofNat (w * 4 + x / 16) :: UInt8.ofNat (x % 16 * 16 + y / 4) ::
        UInt8.ofNat (y % 4 * 64 + z) :: tail
  | _ => none

theorem ofNat_eq {n : Nat} {b : UInt8} (h : n = b.toNat) : UInt8.ofNat n = b := by
  rw [h, UInt8.ofNat_toNat]

theorem symbol_ne_pad {n : Nat} (h : n < 64) : symbol n ≠ '=' :=
  ne_pad_of_isSymbol (isSymbol_symbol h)

/-- **Decoding what was encoded gives the bytes back.** -/
theorem decode_encode (bs : List UInt8) : decode (encode bs) = some bs := by
  induction bs using encodeBody.induct with
  | case1 a b c rest ih =>
    have ha := a.toNat_lt
    have hb := b.toNat_lt
    have hc := c.toNat_lt
    have hpad : padding (a :: b :: c :: rest) = padding rest := by
      have hlen : (rest.length + 1 + 1 + 1) % 3 = rest.length % 3 := by omega
      simp only [padding, List.length_cons, hlen]
    have hy : symbol (b.toNat % 16 * 4 + c.toNat / 64) ≠ '=' := symbol_ne_pad (by omega)
    have hz : symbol (c.toNat % 64) ≠ '=' := symbol_ne_pad (by omega)
    rw [encode, hpad, encodeBody, List.cons_append, List.cons_append, List.cons_append,
      List.cons_append, decode, if_neg (fun h => hy h.1), if_neg (fun h => hz h.1),
      value?_symbol (by omega), value?_symbol (by omega), value?_symbol (by omega),
      value?_symbol (by omega), ← encode, ih]
    simp only [Option.bind_eq_bind, Option.bind_some, Option.pure_def, Option.some.injEq,
      List.cons.injEq, and_true]
    exact ⟨ofNat_eq (by omega), ofNat_eq (by omega), ofNat_eq (by omega)⟩
  | case2 a b =>
    have ha := a.toNat_lt
    have hb := b.toNat_lt
    have hy : symbol (b.toNat % 16 * 4) ≠ '=' := symbol_ne_pad (by omega)
    show decode [_, _, symbol (b.toNat % 16 * 4), '='] = _
    rw [decode, if_neg (fun h => hy h.1), if_pos ⟨rfl, rfl⟩, value?_symbol (by omega),
      value?_symbol (by omega), value?_symbol (by omega)]
    simp only [Option.bind_eq_bind, Option.bind_some, Option.pure_def, Option.some.injEq,
      List.cons.injEq, and_true]
    exact ⟨ofNat_eq (by omega), ofNat_eq (by omega)⟩
  | case3 a =>
    have ha := a.toNat_lt
    show decode [_, _, '=', '='] = _
    rw [decode, if_pos ⟨rfl, rfl, rfl⟩, value?_symbol (by omega), value?_symbol (by omega)]
    simp only [Option.bind_eq_bind, Option.bind_some, Option.pure_def, Option.some.injEq,
      List.cons.injEq, and_true]
    exact ofNat_eq (by omega)
  | case4 => rfl

/-! ## Padding -/

/-- `rstrip("=")`. -/
def unpad (cs : List Char) : List Char := (cs.reverse.dropWhile fun c => c == '=').reverse

/-- `value + "=" * (-len(value) % 4)`. -/
def repad (cs : List Char) : List Char :=
  cs ++ List.replicate (-(cs.length : Int) % 4).toNat '='

theorem unpad_encode (bs : List UInt8) : unpad (encode bs) = encodeBody bs := by
  have hdrop : ∀ (n : Nat) (cs : List Char), (∀ c ∈ cs, c ≠ '=') →
      (List.replicate n '=' ++ cs).dropWhile (fun c => c == '=') = cs := by
    intro n cs hcs
    induction n with
    | zero =>
      cases cs with
      | nil => rfl
      | cons c rest =>
        have hc : (c == '=') = false := beq_false_of_ne (hcs c List.mem_cons_self)
        rw [List.replicate_zero, List.nil_append, List.dropWhile_cons, hc]
        rfl
    | succ n ih =>
      rw [List.replicate_succ, List.cons_append, List.dropWhile_cons]
      exact ih
  rw [unpad, encode, padding, List.reverse_append, List.reverse_replicate, hdrop,
    List.reverse_reverse]
  exact fun c hc => ne_pad_of_isSymbol (isSymbol_of_mem_encodeBody c (List.mem_reverse.mp hc))

/-- The padding is a function of the number of symbols. -/
theorem repad_encodeBody (bs : List UInt8) : repad (encodeBody bs) = encode bs := by
  rw [repad, encode, padding, length_encodeBody]
  congr 2
  -- a group of three bytes has four symbols; only what is left over counts
  obtain ⟨k, r, hr, hlen⟩ : ∃ k r, r < 3 ∧ bs.length = 3 * k + r :=
    ⟨bs.length / 3, bs.length % 3, Nat.mod_lt _ (by decide), (Nat.div_add_mod _ 3).symm⟩
  have hcount : (8 * bs.length + 5) / 6 = 4 * k + (8 * r + 5) / 6 := by omega
  rw [hcount, hlen]
  interval_cases r <;> split_ifs <;> omega

end Base64
