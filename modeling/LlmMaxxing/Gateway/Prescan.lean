import LlmMaxxing.Gateway.Profiler
import LlmMaxxing.Lib.Chars
import LlmMaxxing.Lib.JsonShape

/-!
# The prescan of a JSON body

`prescanJsonLimits` walks the bytes once and builds nothing. `prescan_bounds_reader` compares it with
a reader of the same bytes: where it accepts, the reader never has more containers open than the
limit, whatever the bytes are, and on a document it counts what `validateTree` counts.
-/

namespace LlmMaxxing.Profiler

open Check Json JsonShape

/-! ## The scanner -/

/-- The inside of a string: `bytes` of it are read. The rest is what follows the closing quote, or
nothing when there is none. -/
def skipString (bytes : Nat) (escaped : Bool) : Json.Bytes → Profiled Json.Bytes
  | [] => .ok []
  | current :: rest =>
    if current = 0x22 ∧ escaped = false then .ok rest
    else do
      require (bytes + 1 ≤ maxJsonStringBytes) "json_string_limit"
      skipString (bytes + 1) (current == 0x5c && !escaped) rest

/-- `whitespace`, a comma or a colon. -/
def isSeparator (byte : UInt8) : Bool :=
  byte == 0x20 || byte == 0x09 || byte == 0x0d || byte == 0x0a || byte == 0x2c || byte == 0x3a

/-- An opening brace or bracket. -/
def isOpener (byte : UInt8) : Bool := byte == 0x7b || byte == 0x5b

/-- A closing brace or bracket. -/
def isCloser (byte : UInt8) : Bool := byte == 0x7d || byte == 0x5d

/-- `delimiters`: where a scalar ends. -/
def isDelimiter (byte : UInt8) : Bool := isSeparator byte || isCloser byte

theorem length_skipString {n : Nat} {escaped : Bool} {body after : Json.Bytes}
    (h : skipString n escaped body = .ok after) : after.length ≤ body.length := by
  induction body generalizing n escaped with
  | nil =>
    obtain rfl := Except.ok.inj h
    exact le_rfl
  | cons b rest ih =>
    rw [skipString] at h
    split at h
    · obtain rfl := Except.ok.inj h
      exact Nat.le_succ _
    · obtain ⟨_, -, h⟩ := bind_eq_ok_iff.mp h
      exact Nat.le_succ_of_le (ih h)

theorem length_dropWhile_delimiter {byte : UInt8} (hsep : ¬ isSeparator byte = true)
    (hclose : ¬ isCloser byte = true) (rest : Json.Bytes) :
    ((byte :: rest).dropWhile fun b => !isDelimiter b).length ≤ rest.length := by
  have hbyte : (!isDelimiter byte) = true := by
    simp [isDelimiter, hsep, hclose]
  rw [List.dropWhile_cons, if_pos hbyte]
  exact (List.dropWhile_sublist _).length_le

/-- The loop of `_prescan_json_limits`; the result is `elements`, which the source drops. -/
def prescanLoop (depth : Int) (elements : Nat) (body : Json.Bytes) : Profiled Nat :=
  match body with
  | [] => .ok elements
  | byte :: rest =>
    if isSeparator byte then prescanLoop depth elements rest
    else if isOpener byte then do
      require (depth + 1 ≤ (maxJsonDepth : Int)) "json_depth_limit"
      require (elements + 1 ≤ maxJsonElements) "json_element_limit"
      prescanLoop (depth + 1) (elements + 1) rest
    else if isCloser byte then do
      require (elements ≤ maxJsonElements) "json_element_limit"
      prescanLoop (depth - 1) elements rest
    else if byte = 0x22 then
      match hafter : skipString 0 false rest with
      | .error e => .error e
      | .ok after => do
        require (elements + 1 ≤ maxJsonElements) "json_element_limit"
        prescanLoop depth (elements + 1) after
    else do
      require (elements + 1 ≤ maxJsonElements) "json_element_limit"
      prescanLoop depth (elements + 1) ((byte :: rest).dropWhile fun b => !isDelimiter b)
termination_by body.length
decreasing_by
  · exact Nat.lt_succ_self _
  · exact Nat.lt_succ_self _
  · exact Nat.lt_succ_self _
  · exact Nat.lt_succ_of_le (length_skipString hafter)
  · -- a byte that starts a scalar is no delimiter, so the scalar takes it
    rename_i hsep _ hclose _
    exact Nat.lt_succ_of_le (length_dropWhile_delimiter hsep hclose rest)

/-- `_prescan_json_limits`. -/
def prescanJsonLimits (body : Json.Bytes) : Profiled Nat := prescanLoop 0 0 body

/-! ## One turn of the loop -/

section Turn

variable {d : Int} {e n : Nat} {byte : UInt8} {rest : Json.Bytes}

theorem prescanLoop_nil : prescanLoop d e [] = .ok e := by rw [prescanLoop]

theorem prescanLoop_separator (h : isSeparator byte = true) :
    prescanLoop d e (byte :: rest) = prescanLoop d e rest := by
  rw [prescanLoop, if_pos h]

theorem prescanLoop_opener (h : isOpener byte = true) :
    prescanLoop d e (byte :: rest) = .ok n ↔
      d + 1 ≤ (maxJsonDepth : Int) ∧ e + 1 ≤ maxJsonElements ∧
        prescanLoop (d + 1) (e + 1) rest = .ok n := by
  have hsep : ¬ isSeparator byte = true := by
    rcases Bool.or_eq_true_iff.mp h with h | h
    all_goals
      rw [beq_iff_eq.mp h]
      decide
  rw [prescanLoop, if_neg hsep, if_pos h]
  simp only [bind_eq_ok_iff, require_eq_ok_iff, exists_and_left, exists_const]

theorem prescanLoop_closer (h : isCloser byte = true) :
    prescanLoop d e (byte :: rest) = .ok n ↔
      e ≤ maxJsonElements ∧ prescanLoop (d - 1) e rest = .ok n := by
  have hsep : ¬ isSeparator byte = true ∧ ¬ isOpener byte = true := by
    rcases Bool.or_eq_true_iff.mp h with h | h
    all_goals
      rw [beq_iff_eq.mp h]
      decide
  rw [prescanLoop, if_neg hsep.1, if_neg hsep.2, if_pos h]
  simp only [bind_eq_ok_iff, require_eq_ok_iff, exists_and_left, exists_const]

theorem prescanLoop_quote :
    prescanLoop d e (0x22 :: rest) = .ok n ↔
      ∃ after, skipString 0 false rest = .ok after ∧ e + 1 ≤ maxJsonElements ∧
        prescanLoop d (e + 1) after = .ok n := by
  rw [prescanLoop, if_neg (by decide), if_neg (by decide), if_neg (by decide), if_pos rfl]
  split
  · rename_i herror
    rw [herror]
    exact ⟨fun h => (by cases h), fun ⟨_, h, _⟩ => (by cases h)⟩
  · rename_i after hafter
    rw [hafter]
    simp only [bind_eq_ok_iff, require_eq_ok_iff, exists_and_left, exists_const, Except.ok.injEq,
      exists_eq_left']

theorem prescanLoop_scalar (hsep : ¬ isDelimiter byte = true) (hopen : ¬ isOpener byte = true)
    (hquote : byte ≠ 0x22) :
    prescanLoop d e (byte :: rest) = .ok n ↔
      e + 1 ≤ maxJsonElements ∧
        prescanLoop d (e + 1) (rest.dropWhile fun b => !isDelimiter b) = .ok n := by
  obtain ⟨hsep', hclose⟩ : ¬ isSeparator byte = true ∧ ¬ isCloser byte = true := by
    rw [isDelimiter, Bool.or_eq_true, not_or] at hsep
    exact hsep
  have hbyte : (!isDelimiter byte) = true := by simpa using hsep
  rw [prescanLoop, if_neg hsep', if_neg hopen, if_neg hclose, if_neg hquote, List.dropWhile_cons,
    if_pos hbyte]
  simp only [bind_eq_ok_iff, require_eq_ok_iff, exists_and_left, exists_const]

/-- What a byte is to the scanner. -/
theorem byte_cases (byte : UInt8) :
    isSeparator byte = true ∨ isOpener byte = true ∨ isCloser byte = true ∨ byte = 0x22 ∨
      ¬ isDelimiter byte = true ∧ ¬ isOpener byte = true ∧ byte ≠ 0x22 := by
  by_cases hsep : isSeparator byte = true
  · exact .inl hsep
  by_cases hopen : isOpener byte = true
  · exact .inr (.inl hopen)
  by_cases hclose : isCloser byte = true
  · exact .inr (.inr (.inl hclose))
  by_cases hquote : byte = 0x22
  · exact .inr (.inr (.inr (.inl hquote)))
  · refine .inr (.inr (.inr (.inr ⟨?_, hopen, hquote⟩)))
    rw [isDelimiter, Bool.or_eq_true, not_or]
    exact ⟨hsep, hclose⟩

end Turn

/-! ## A part of the bytes -/

/-- The front of a string. -/
theorem skipString_append {n : Nat} {escaped : Bool} {a b after : Json.Bytes}
    (h : skipString n escaped (a ++ b) = .ok after) :
    ∃ after', skipString n escaped a = .ok after' ∧ (after' = [] ∨ after = after' ++ b) := by
  induction a generalizing n escaped with
  | nil => exact ⟨[], rfl, .inl rfl⟩
  | cons x a ih =>
    rw [List.cons_append, skipString] at h
    rw [skipString]
    split
    · rename_i hquote
      rw [if_pos hquote] at h
      exact ⟨a, rfl, .inr (Except.ok.inj h).symm⟩
    · rename_i hquote
      rw [if_neg hquote] at h
      obtain ⟨_, hlen, h⟩ := bind_eq_ok_iff.mp h
      obtain ⟨after', hafter, hcases⟩ := ih h
      exact ⟨after', bind_eq_ok_iff.mpr ⟨(), hlen, hafter⟩, hcases⟩

/-- **The front of what is accepted is accepted.** -/
theorem prescanLoop_front {d : Int} {e n : Nat} {a b : Json.Bytes}
    (h : prescanLoop d e (a ++ b) = .ok n) : ∃ m, prescanLoop d e a = .ok m := by
  -- on the length, since a string or a scalar leaves a shorter tail
  induction hlen : a.length using Nat.strong_induction_on generalizing a d e with
  | _ len ih =>
    cases a with
    | nil => exact ⟨e, prescanLoop_nil⟩
    | cons x a =>
      have hshort : ∀ {d' : Int} {e' : Nat} {a' : Json.Bytes}, a'.length ≤ a.length →
          prescanLoop d' e' (a' ++ b) = .ok n → ∃ m, prescanLoop d' e' a' = .ok m := by
        intro d' e' a' hle h'
        exact ih a'.length (hlen ▸ Nat.lt_succ_of_le hle) h' rfl
      rw [List.cons_append] at h
      rcases byte_cases x with hx | hx | hx | rfl | ⟨hdelim, hopen, hquote⟩
      · rw [prescanLoop_separator hx] at h ⊢
        exact hshort le_rfl h
      · obtain ⟨hd, he, h⟩ := (prescanLoop_opener hx).mp h
        obtain ⟨m, hm⟩ := hshort le_rfl h
        exact ⟨m, (prescanLoop_opener hx).mpr ⟨hd, he, hm⟩⟩
      · obtain ⟨he, h⟩ := (prescanLoop_closer hx).mp h
        obtain ⟨m, hm⟩ := hshort le_rfl h
        exact ⟨m, (prescanLoop_closer hx).mpr ⟨he, hm⟩⟩
      · obtain ⟨after, hafter, he, h⟩ := prescanLoop_quote.mp h
        obtain ⟨after', hafter', rfl | rfl⟩ := skipString_append hafter
        · exact ⟨e + 1, prescanLoop_quote.mpr ⟨[], hafter', he, prescanLoop_nil⟩⟩
        · obtain ⟨m, hm⟩ := hshort (length_skipString hafter') h
          exact ⟨m, prescanLoop_quote.mpr ⟨after', hafter', he, hm⟩⟩
      · obtain ⟨he, h⟩ := (prescanLoop_scalar hdelim hopen hquote).mp h
        have hle : (a.dropWhile fun b => !isDelimiter b).length ≤ a.length :=
          (List.dropWhile_sublist _).length_le
        rw [List.dropWhile_append] at h
        split at h
        · rename_i hempty
          refine ⟨e + 1, (prescanLoop_scalar hdelim hopen hquote).mpr ⟨he, ?_⟩⟩
          rw [List.isEmpty_iff.mp hempty]
          exact prescanLoop_nil
        · obtain ⟨m, hm⟩ := hshort hle h
          exact ⟨m, (prescanLoop_scalar hdelim hopen hquote).mpr ⟨he, hm⟩⟩

/-! ## The bytes of a text -/

theorem utf8_cons (c : Char) (cs : List Char) : utf8 (c :: cs) = String.utf8EncodeChar c ++ utf8 cs :=
  List.flatMap_cons

theorem utf8_append (a b : List Char) : utf8 (a ++ b) = utf8 a ++ utf8 b := List.flatMap_append

theorem utf8EncodeChar_ascii {c : Char} (h : c.toNat < 128) :
    String.utf8EncodeChar c = [UInt8.ofNat c.toNat] := by
  have hle : c.val.toNat ≤ 0x7f := Nat.lt_succ_iff.mp h
  unfold String.utf8EncodeChar
  simp only
  rw [if_pos hle]
  rfl

theorem utf8_cons_ascii {c : Char} (h : c.toNat < 128) (cs : List Char) :
    utf8 (c :: cs) = UInt8.ofNat c.toNat :: utf8 cs := by
  rw [utf8_cons, utf8EncodeChar_ascii h]
  rfl

/-- The bytes of any other character are above those of ASCII. -/
theorem utf8EncodeChar_high {c : Char} (h : ¬ c.toNat < 128) :
    ∀ b ∈ String.utf8EncodeChar c, 128 ≤ b.toNat := by
  have hgt : ¬ c.val.toNat ≤ 0x7f := fun hle => h (Nat.lt_succ_of_le hle)
  unfold String.utf8EncodeChar
  simp only
  rw [if_neg hgt]
  intro b hb
  split_ifs at hb
  all_goals
    simp only [List.mem_cons, List.not_mem_nil, or_false] at hb
    rcases hb with rfl | rfl | rfl | rfl
  all_goals
    rw [UInt8.toNat_ofNat']
    omega

/-! ## Strings -/

/-- A byte that neither ends a string nor escapes. -/
def IsPlain (byte : UInt8) : Prop := byte ≠ 0x22 ∧ byte ≠ 0x5c

theorem skipString_plain {n : Nat} {bs tail after : Json.Bytes} (hplain : ∀ b ∈ bs, IsPlain b)
    (hn : n ≤ maxJsonStringBytes) :
    skipString n false (bs ++ tail) = .ok after ↔
      n + bs.length ≤ maxJsonStringBytes ∧ skipString (n + bs.length) false tail = .ok after := by
  induction bs generalizing n with
  | nil => exact ⟨fun h => ⟨hn, h⟩, And.right⟩
  | cons b bs ih =>
    have hb := hplain b List.mem_cons_self
    have hescape : (b == 0x5c && !false) = false := by
      rw [beq_false_of_ne hb.2]
      rfl
    rw [List.cons_append, skipString, if_neg (fun h => hb.1 h.1), hescape]
    have hlen : n + (b :: bs).length = n + 1 + bs.length := by
      rw [List.length_cons]
      omega
    rw [hlen]
    constructor
    · intro h
      obtain ⟨_, hle, h⟩ := bind_eq_ok_iff.mp h
      exact (ih (fun x hx => hplain x (List.mem_cons_of_mem _ hx)) (require_eq_ok_iff.mp hle)).mp h
    · rintro ⟨hle, h⟩
      have hle' : n + 1 ≤ maxJsonStringBytes := by omega
      refine bind_eq_ok_iff.mpr ⟨(), require_eq_ok_iff.mpr hle', ?_⟩
      exact (ih (fun x hx => hplain x (List.mem_cons_of_mem _ hx)) hle').mpr ⟨hle, h⟩

/-- A backslash takes the byte after it along, whatever that is. -/
theorem skipString_escape {n : Nat} {b : UInt8} {tail after : Json.Bytes} :
    skipString n false (0x5c :: b :: tail) = .ok after ↔
      n + 2 ≤ maxJsonStringBytes ∧ skipString (n + 2) false tail = .ok after := by
  have hescape : (b == 0x5c && !true) = false := Bool.and_false _
  rw [skipString, if_neg (fun h => absurd h.1 (by decide))]
  show (require (n + 1 ≤ maxJsonStringBytes) _ >>= fun _ =>
    skipString (n + 1) true (b :: tail)) = _ ↔ _
  rw [skipString, if_neg (fun h => (by cases h.2)), hescape]
  simp only [bind_eq_ok_iff, require_eq_ok_iff, exists_and_left, exists_const]
  constructor
  · exact fun h => h.2
  · exact fun h => ⟨by omega, h⟩

theorem toNat_injective {c d : Char} (h : c.toNat = d.toNat) : c = d := by
  rw [← Char.ofNat_toNat c, h, Char.ofNat_toNat]

theorem isPlain_utf8EncodeChar {c : Char} (hquote : c ≠ '"') (hescape : c ≠ '\\') :
    ∀ b ∈ String.utf8EncodeChar c, IsPlain b := by
  intro b hb
  by_cases hc : c.toNat < 128
  · rw [utf8EncodeChar_ascii hc, List.mem_singleton] at hb
    have hbyte : b.toNat = c.toNat := by
      rw [hb, UInt8.toNat_ofNat']
      omega
    constructor
    · rintro rfl
      exact hquote (toNat_injective hbyte.symm)
    · rintro rfl
      exact hescape (toNat_injective hbyte.symm)
  · have hhigh := utf8EncodeChar_high hc b hb
    constructor
    · rintro rfl
      exact absurd hhigh (by decide)
    · rintro rfl
      exact absurd hhigh (by decide)

/-- A hexadecimal digit is one plain byte. -/
theorem hexValue?_isSome {c : Char} (h : (hexValue? c).isSome) :
    c.toNat < 128 ∧ c ≠ '"' ∧ c ≠ '\\' := by
  unfold hexValue? at h
  have hrange : ('0' ≤ c ∧ c ≤ '9') ∨ ('a' ≤ c ∧ c ≤ 'f') ∨ ('A' ≤ c ∧ c ≤ 'F') := by
    split_ifs at h with h₁ h₂ h₃
    · exact .inl h₁
    · exact .inr (.inl h₂)
    · exact .inr (.inr h₃)
    · cases h
  simp only [Char.le_def, UInt32.le_iff_toNat_le] at hrange
  have hnat : ∀ {d : Char}, c = d → c.val.toNat = d.val.toNat := by
    rintro d rfl
    rfl
  have hbound : (48 ≤ c.val.toNat ∧ c.val.toNat ≤ 57) ∨ (97 ≤ c.val.toNat ∧ c.val.toNat ≤ 102) ∨
      65 ≤ c.val.toNat ∧ c.val.toNat ≤ 70 := hrange
  refine ⟨?_, ?_, ?_⟩
  · show c.val.toNat < 128
    omega
  · intro heq
    have : c.val.toNat = 34 := hnat heq
    omega
  · intro heq
    have : c.val.toNat = 92 := hnat heq
    omega

theorem hex4?_isSome {a b c d : Char} (h : (hex4? a b c d).isSome) :
    ∀ x ∈ [a, b, c, d], x.toNat < 128 ∧ x ≠ '"' ∧ x ≠ '\\' := by
  obtain ⟨v, hv⟩ := Option.isSome_iff_exists.mp h
  unfold hex4? at hv
  obtain ⟨va, ha, hv⟩ := Option.bind_eq_some_iff.mp hv
  obtain ⟨vb, hb, hv⟩ := Option.bind_eq_some_iff.mp hv
  obtain ⟨vc, hc, hv⟩ := Option.bind_eq_some_iff.mp hv
  obtain ⟨vd, hd, -⟩ := Option.bind_eq_some_iff.mp hv
  intro x hx
  simp only [List.mem_cons, List.not_mem_nil, or_false] at hx
  rcases hx with rfl | rfl | rfl | rfl
  · exact hexValue?_isSome (by rw [ha]; rfl)
  · exact hexValue?_isSome (by rw [hb]; rfl)
  · exact hexValue?_isSome (by rw [hc]; rfl)
  · exact hexValue?_isSome (by rw [hd]; rfl)

theorem simpleEscape?_isSome {e : Char} (h : (simpleEscape? e).isSome) : e.toNat < 128 := by
  unfold simpleEscape? at h
  split_ifs at h
  all_goals first | (subst e; decide) | cases h

/-- **The scanner and a reader agree on strings**: on the bytes, and on where they end. -/
theorem skipString_of_readString {cs rest : List Char} {k n : Nat} {after : Json.Bytes}
    (h : readString cs = some (k, rest)) (hn : n ≤ maxJsonStringBytes) :
    skipString n false (utf8 cs) = .ok after ↔
      n + k ≤ maxJsonStringBytes ∧ after = utf8 rest := by
  induction cs using readString.induct generalizing k n rest with
  | case1 => cases h
  | case2 rest' =>
    rw [readString] at h
    obtain ⟨rfl, rfl⟩ := Prod.mk.inj (Option.some.inj h)
    have hquote : utf8 ('"' :: rest') = 0x22 :: utf8 rest' := utf8_cons_ascii (by decide) _
    rw [hquote, skipString, if_pos ⟨rfl, rfl⟩, Except.ok.injEq]
    exact ⟨fun h => ⟨hn, h.symm⟩, fun h => h.2.symm⟩
  | case3 a b c d rest' hhex ih =>
    rw [readString, if_pos hhex] at h
    obtain ⟨⟨k', rest''⟩, hread, heq⟩ := Option.map_eq_some_iff.mp h
    obtain ⟨rfl, rfl⟩ := Prod.mk.inj heq
    have hdigits := hex4?_isSome hhex
    have hlen : ([a, b, c, d].flatMap String.utf8EncodeChar).length = 4 := by
      simp only [List.flatMap_cons, List.flatMap_nil, List.append_nil, List.length_append,
        utf8EncodeChar_ascii (hdigits a (by simp)).1, utf8EncodeChar_ascii (hdigits b (by simp)).1,
        utf8EncodeChar_ascii (hdigits c (by simp)).1, utf8EncodeChar_ascii (hdigits d (by simp)).1,
        List.length_singleton]
    have hbytes : utf8 ('\\' :: 'u' :: a :: b :: c :: d :: rest') =
        0x5c :: UInt8.ofNat 'u'.toNat :: (utf8 [a, b, c, d] ++ utf8 rest') := by
      rw [utf8_cons_ascii (by decide), utf8_cons_ascii (by decide), ← utf8_append]
      rfl
    have hplain : ∀ x ∈ utf8 [a, b, c, d], IsPlain x := by
      intro x hx
      obtain ⟨y, hy, hx⟩ := List.mem_flatMap.mp hx
      exact isPlain_utf8EncodeChar (hdigits y hy).2.1 (hdigits y hy).2.2 x hx
    have hskip : ∀ {m : Nat}, m ≤ maxJsonStringBytes →
        (skipString m false (utf8 [a, b, c, d] ++ utf8 rest') = .ok after ↔
          m + 4 ≤ maxJsonStringBytes ∧ skipString (m + 4) false (utf8 rest') = .ok after) := by
      intro m hm
      rw [skipString_plain hplain hm, show (utf8 [a, b, c, d]).length = 4 from hlen]
    rw [hbytes, skipString_escape]
    constructor
    · rintro ⟨hle, h⟩
      obtain ⟨hle, h⟩ := (hskip hle).mp h
      obtain ⟨hle, h⟩ := (ih hread hle).mp h
      exact ⟨by omega, h⟩
    · rintro ⟨hle, h⟩
      refine ⟨by omega, (hskip (by omega)).mpr ⟨by omega, ?_⟩⟩
      exact (ih hread (by omega)).mpr ⟨by omega, h⟩
  | case4 a b c d rest' hhex =>
    rw [readString, if_neg hhex] at h
    cases h
  | case5 e rest' hu hsimple ih =>
    rw [readString.eq_4 _ _ hu, if_pos hsimple] at h
    obtain ⟨⟨k', rest''⟩, hread, heq⟩ := Option.map_eq_some_iff.mp h
    obtain ⟨rfl, rfl⟩ := Prod.mk.inj heq
    have hbytes : utf8 ('\\' :: e :: rest') = 0x5c :: UInt8.ofNat e.toNat :: utf8 rest' := by
      rw [utf8_cons_ascii (by decide), utf8_cons_ascii (simpleEscape?_isSome hsimple)]
      rfl
    rw [hbytes, skipString_escape]
    constructor
    · rintro ⟨hle, h⟩
      obtain ⟨hle, h⟩ := (ih hread hle).mp h
      exact ⟨by omega, h⟩
    · rintro ⟨hle, h⟩
      exact ⟨by omega, (ih hread (by omega)).mpr ⟨by omega, h⟩⟩
  | case6 e rest' hu hsimple =>
    rw [readString.eq_4 _ _ hu, if_neg hsimple] at h
    cases h
  | case7 c rest' hquote hescape hsimple hcontrol =>
    rw [readString.eq_5 _ _ hquote hescape hsimple, if_pos hcontrol] at h
    cases h
  | case8 c rest' hquote hescape hsimple hplain ih =>
    rw [readString.eq_5 _ _ hquote hescape hsimple, if_neg hplain] at h
    obtain ⟨⟨k', rest''⟩, hread, heq⟩ := Option.map_eq_some_iff.mp h
    obtain ⟨rfl, rfl⟩ := Prod.mk.inj heq
    rw [utf8_cons, skipString_plain (isPlain_utf8EncodeChar (fun h => hquote (by rw [h]))
      (fun h => hplain (.inr h))) hn]
    constructor
    · rintro ⟨hle, h⟩
      obtain ⟨hle, h⟩ := (ih hread hle).mp h
      exact ⟨by omega, h⟩
    · rintro ⟨hle, h⟩
      exact ⟨by omega, (ih hread (by omega)).mpr ⟨by omega, h⟩⟩

/-! ## Whitespace and scalars -/

/-- The end of a token: the text ends or goes on with a delimiter. -/
def Ends (rest : List Char) : Prop :=
  ∀ c after, rest = c :: after → c.toNat < 128 ∧ isDelimiter (UInt8.ofNat c.toNat) = true

theorem isSpace_separator {c : Char} (h : isSpace c = true) :
    c.toNat < 128 ∧ isSeparator (UInt8.ofNat c.toNat) = true := by
  simp only [isSpace, Bool.or_eq_true, beq_iff_eq] at h
  rcases h with ((rfl | rfl) | rfl) | rfl
  all_goals decide

theorem ends_of_skipSpace {cs : List Char} (h : Ends (skipSpace cs)) : Ends cs := by
  rintro c after rfl
  by_cases hc : isSpace c = true
  · obtain ⟨hascii, hsep⟩ := isSpace_separator hc
    exact ⟨hascii, Bool.or_eq_true_iff.mpr (.inl hsep)⟩
  · rw [skipSpace_of_head (Bool.not_eq_true _ ▸ hc)] at h
    exact h c after rfl

theorem ends_cons {c : Char} {after : List Char}
    (h : c.toNat < 128 ∧ isDelimiter (UInt8.ofNat c.toNat) = true) : Ends (c :: after) := by
  rintro _ _ heq
  obtain ⟨rfl, -⟩ := List.cons.inj heq
  exact h

theorem prescanLoop_skipSpace (d : Int) (e : Nat) (cs : List Char) :
    prescanLoop d e (utf8 (skipSpace cs)) = prescanLoop d e (utf8 cs) := by
  induction cs with
  | nil => rfl
  | cons c cs ih =>
    by_cases hc : isSpace c = true
    · obtain ⟨hascii, hsep⟩ := isSpace_separator hc
      rw [utf8_cons_ascii hascii, prescanLoop_separator hsep, ← ih, skipSpace, skipSpace,
        List.dropWhile_cons, if_pos hc]
    · rw [skipSpace_of_head (Bool.not_eq_true _ ▸ hc)]

/-- A separator after whitespace. -/
theorem prescanLoop_past {d : Int} {e : Nat} {cs next : List Char} {c : Char}
    (h : skipSpace cs = c :: next) (hc : c = ',' ∨ c = ':') :
    prescanLoop d e (utf8 cs) = prescanLoop d e (utf8 (skipSpace next)) := by
  rw [← prescanLoop_skipSpace, h, prescanLoop_skipSpace]
  rcases hc with rfl | rfl
  all_goals
    rw [utf8_cons_ascii (by decide)]
    exact prescanLoop_separator (by decide)

/-- A closing bracket or brace after whitespace. -/
theorem prescanLoop_close {d : Int} {e n : Nat} {cs after : List Char} {c : Char}
    (h : skipSpace cs = c :: after) (hc : c = ']' ∨ c = '}') :
    prescanLoop d e (utf8 cs) = .ok n ↔
      e ≤ maxJsonElements ∧ prescanLoop (d - 1) e (utf8 after) = .ok n := by
  rw [← prescanLoop_skipSpace, h]
  rcases hc with rfl | rfl
  all_goals
    rw [utf8_cons_ascii (by decide)]
    exact prescanLoop_closer (by decide)

/-- What the scanner makes of a byte of a scalar. -/
theorem isTokenChar_byte {c : Char} (h : IsTokenChar c) :
    c.toNat < 128 ∧ ¬ isDelimiter (UInt8.ofNat c.toNat) = true ∧
      ¬ isOpener (UInt8.ofNat c.toNat) = true ∧ UInt8.ofNat c.toNat ≠ 0x22 := by
  have hbytes : ∀ n < 128, (48 ≤ n ∧ n ≤ 57 ∨ 65 ≤ n ∧ n ≤ 90 ∨ 97 ≤ n ∧ n ≤ 122 ∨ n = 45 ∨ n = 43 ∨
      n = 46) → ¬ isDelimiter (UInt8.ofNat n) = true ∧ ¬ isOpener (UInt8.ofNat n) = true ∧
        UInt8.ofNat n ≠ 0x22 := by decide
  have hrange : 48 ≤ c.toNat ∧ c.toNat ≤ 57 ∨ 65 ≤ c.toNat ∧ c.toNat ≤ 90 ∨
      97 ≤ c.toNat ∧ c.toNat ≤ 122 ∨ c.toNat = 45 ∨ c.toNat = 43 ∨ c.toNat = 46 := by
    rcases h with h | rfl | rfl | rfl
    · change ((decide (65 ≤ c.val ∧ c.val ≤ 90) || (97 ≤ c.val && c.val ≤ 122)) ||
        (48 ≤ c.val && c.val ≤ 57)) = true at h
      simp only [Bool.or_eq_true, Bool.and_eq_true, decide_eq_true_eq, UInt32.le_iff_toNat_le] at h
      have h' : ((65 ≤ c.toNat ∧ c.toNat ≤ 90) ∨ (97 ≤ c.toNat ∧ c.toNat ≤ 122)) ∨
          48 ≤ c.toNat ∧ c.toNat ≤ 57 := h
      omega
    all_goals decide
  have hlt : c.toNat < 128 := by omega
  exact ⟨hlt, hbytes _ hlt hrange⟩

theorem prescanLoop_token {d : Int} {e n : Nat} {c : Char} {cs rest : List Char} (hc : IsTokenChar c)
    (htakes : Takes cs rest) (hends : Ends rest) :
    prescanLoop d e (utf8 (c :: cs)) = .ok n ↔
      e + 1 ≤ maxJsonElements ∧ prescanLoop d (e + 1) (utf8 rest) = .ok n := by
  obtain ⟨hascii, hdelim, hopen, hquote⟩ := isTokenChar_byte hc
  obtain ⟨token, rfl, htoken⟩ := htakes
  have hall : ∀ b ∈ utf8 token, (!isDelimiter b) = true := by
    intro b hb
    obtain ⟨x, hx, hb⟩ := List.mem_flatMap.mp hb
    obtain ⟨hx, hbyte, -⟩ := isTokenChar_byte (htoken x hx)
    rw [utf8EncodeChar_ascii hx, List.mem_singleton] at hb
    rw [hb]
    simpa using hbyte
  have hstop : (utf8 rest).dropWhile (fun b => !isDelimiter b) = utf8 rest := by
    cases rest with
    | nil => rfl
    | cons x after =>
      obtain ⟨hx, hbyte⟩ := hends x after rfl
      rw [utf8_cons_ascii hx, List.dropWhile_cons, if_neg (by simp [hbyte])]
  rw [utf8_cons_ascii hascii, prescanLoop_scalar hdelim hopen hquote, utf8_append,
    List.dropWhile_append_of_pos hall, hstop]

theorem prescanLoop_string {d : Int} {e n k : Nat} {cs rest : List Char}
    (h : readString cs = some (k, rest)) :
    prescanLoop d e (utf8 ('"' :: cs)) = .ok n ↔
      k ≤ maxJsonStringBytes ∧ e + 1 ≤ maxJsonElements ∧
        prescanLoop d (e + 1) (utf8 rest) = .ok n := by
  rw [utf8_cons_ascii (by decide)]
  refine prescanLoop_quote.trans ⟨?_, ?_⟩
  · rintro ⟨after, hskip, he, h'⟩
    obtain ⟨hk, rfl⟩ := (skipString_of_readString h (Nat.zero_le _)).mp hskip
    exact ⟨by omega, he, h'⟩
  · rintro ⟨hk, he, h'⟩
    exact ⟨utf8 rest, (skipString_of_readString h (Nat.zero_le _)).mpr ⟨by omega, rfl⟩, he, h'⟩

/-! ## Values -/

/-- What is read fits, at depth `d` after `e` elements. -/
structure Fits (d : Int) (e depth count : Nat) (strings : List Nat) : Prop where
  depth : d + depth ≤ (maxJsonDepth : Int)
  count : e + count ≤ maxJsonElements
  strings : ∀ bytes ∈ strings, bytes ≤ maxJsonStringBytes

section Fits

variable {d : Int} {e depth depth' count count' : Nat} {strings strings' : List Nat}

theorem fits_append : Fits d e (max depth depth') (count + count') (strings ++ strings') ↔
    Fits d e depth count strings ∧ Fits d (e + count) depth' count' strings' := by
  constructor
  · rintro ⟨hdepth, hcount, hstrings⟩
    rw [List.forall_mem_append] at hstrings
    exact ⟨⟨by omega, by omega, hstrings.1⟩, ⟨by omega, by omega, hstrings.2⟩⟩
  · rintro ⟨⟨hdepth, hcount, hstrings⟩, ⟨hdepth', hcount', hstrings'⟩⟩
    exact ⟨by omega, by omega, List.forall_mem_append.mpr ⟨hstrings, hstrings'⟩⟩

theorem fits_open : Fits d e (1 + depth) (1 + count) strings ↔
    d + 1 ≤ (maxJsonDepth : Int) ∧ e + 1 ≤ maxJsonElements ∧
      Fits (d + 1) (e + 1) depth count strings := by
  constructor
  · rintro ⟨hdepth, hcount, hstrings⟩
    push_cast at hdepth
    exact ⟨by omega, by omega, by omega, by omega, hstrings⟩
  · rintro ⟨-, -, ⟨hdepth, hcount, hstrings⟩⟩
    refine ⟨?_, by omega, hstrings⟩
    push_cast
    omega

theorem fits_nil (hd : d ≤ (maxJsonDepth : Int)) : Fits d e 0 0 [] ↔ e ≤ maxJsonElements :=
  ⟨fun h => h.count, fun h => ⟨by simpa using hd, h, fun _ hb => (by cases hb)⟩⟩

theorem fits_string (hd : d ≤ (maxJsonDepth : Int)) {bytes : Nat} :
    Fits d e 0 1 [bytes] ↔ bytes ≤ maxJsonStringBytes ∧ e + 1 ≤ maxJsonElements := by
  constructor
  · exact fun h => ⟨h.strings bytes List.mem_cons_self, h.count⟩
  · exact fun h => ⟨by simpa using hd, h.2, fun b hb => List.mem_singleton.mp hb ▸ h.1⟩

end Fits

/-- The scanner goes over a value that fits, and over no other. -/
def ReadsValue (fuel : Nat) : Prop :=
  ∀ cs s rest, (readValue fuel cs).result = some (s, rest) → Ends rest →
    ∀ d e n, d ≤ (maxJsonDepth : Int) → (prescanLoop d e (utf8 cs) = .ok n ↔
      Fits d e s.depth s.count s.strings ∧ prescanLoop d (e + s.count) (utf8 rest) = .ok n)

def ReadsItems (fuel : Nat) : Prop :=
  ∀ cs ss rest, (readItems fuel cs).result = some (ss, rest) →
    ∀ d e n, d ≤ (maxJsonDepth : Int) → (prescanLoop d e (utf8 cs) = .ok n ↔
      Fits d e (Shape.depthItems ss) (Shape.countItems ss) (Shape.stringsItems ss) ∧
        prescanLoop (d - 1) (e + Shape.countItems ss) (utf8 rest) = .ok n)

def ReadsMembers (fuel : Nat) : Prop :=
  ∀ cs ss rest, (readMembers fuel cs).result = some (ss, rest) →
    ∀ d e n, d ≤ (maxJsonDepth : Int) → (prescanLoop d e (utf8 cs) = .ok n ↔
      Fits d e (Shape.depthMembers ss) (Shape.countMembers ss) (Shape.stringsMembers ss) ∧
        prescanLoop (d - 1) (e + Shape.countMembers ss) (utf8 rest) = .ok n)

theorem ends_of_eq {cs after : List Char} {c : Char} (h : skipSpace cs = c :: after)
    (hc : c = ',' ∨ c = ']' ∨ c = '}') : Ends cs := by
  refine ends_of_skipSpace (h ▸ ends_cons ?_)
  rcases hc with rfl | rfl | rfl
  all_goals decide

theorem readsItems_succ {fuel : Nat} (ihvalue : ReadsValue fuel) (ihitems : ReadsItems fuel) :
    ReadsItems (fuel + 1) := by
  intro cs ss rest h d e n hd
  obtain ⟨s, after, hvalue, hrest⟩ := readItems_cases h
  rcases hrest with ⟨next, ss', hskip, hitems, rfl⟩ | ⟨hskip, rfl⟩
  · rw [ihvalue cs s after hvalue (ends_of_eq hskip (.inl rfl)) d e n hd,
      prescanLoop_past hskip (.inl rfl), ihitems _ ss' rest hitems d _ n hd]
    show _ ↔ Fits d e (max s.depth (Shape.depthItems ss')) (s.count + Shape.countItems ss')
      (s.strings ++ Shape.stringsItems ss') ∧ prescanLoop (d - 1)
        (e + (s.count + Shape.countItems ss')) (utf8 rest) = .ok n
    rw [fits_append, ← Nat.add_assoc, and_assoc]
  · rw [ihvalue cs s after hvalue (ends_of_eq hskip (.inr (.inl rfl))) d e n hd,
      prescanLoop_close hskip (.inl rfl)]
    show _ ↔ Fits d e (max s.depth 0) (s.count + 0) (s.strings ++ []) ∧
      prescanLoop (d - 1) (e + (s.count + 0)) (utf8 rest) = .ok n
    rw [fits_append, fits_nil hd, and_assoc, Nat.add_zero]

theorem readsMembers_succ {fuel : Nat} (ihvalue : ReadsValue fuel) (ihmembers : ReadsMembers fuel) :
    ReadsMembers (fuel + 1) := by
  intro cs ss rest h d e n hd
  obtain ⟨afterQuote, name, colon, value, s, after, rfl, hname, hcolon, hvalue, hrest⟩ :=
    readMembers_cases h
  -- the name is a string before the value
  have hmember : Ends after → (prescanLoop d e (utf8 ('"' :: afterQuote)) = .ok n ↔
      Fits d e (max 0 s.depth) (1 + s.count) ([name] ++ s.strings) ∧
        prescanLoop d (e + (1 + s.count)) (utf8 after) = .ok n) := by
    intro hends
    rw [prescanLoop_string hname, prescanLoop_past hcolon (.inr rfl),
      ihvalue _ s after hvalue hends d (e + 1) n hd, fits_append, fits_string hd, ← Nat.add_assoc]
    simp only [and_assoc]
  rw [Nat.zero_max] at hmember
  rcases hrest with ⟨next, ss', hskip, hmembers, rfl⟩ | ⟨hskip, rfl⟩
  · rw [hmember (ends_of_eq hskip (.inl rfl)), prescanLoop_past hskip (.inl rfl),
      ihmembers _ ss' rest hmembers d _ n hd]
    show _ ↔ Fits d e (max s.depth (Shape.depthMembers ss')) (1 + s.count + Shape.countMembers ss')
      ([name] ++ (s.strings ++ Shape.stringsMembers ss')) ∧ prescanLoop (d - 1)
        (e + (1 + s.count + Shape.countMembers ss')) (utf8 rest) = .ok n
    rw [← List.append_assoc, fits_append, ← Nat.add_assoc e (1 + s.count), and_assoc]
  · rw [hmember (ends_of_eq hskip (.inr (.inr rfl))), prescanLoop_close hskip (.inr rfl)]
    show _ ↔ Fits d e (max s.depth 0) (1 + s.count + 0) ([name] ++ (s.strings ++ [])) ∧
      prescanLoop (d - 1) (e + (1 + s.count + 0)) (utf8 rest) = .ok n
    rw [← List.append_assoc, fits_append, fits_nil hd, and_assoc, Nat.add_zero]

theorem readsValue_succ {fuel : Nat} (ihitems : ReadsItems fuel) (ihmembers : ReadsMembers fuel) :
    ReadsValue (fuel + 1) := by
  intro cs s rest h hends d e n hd
  -- an opening byte, and what is inside up to the closing one
  have hopen : ∀ {c : Char} {after : List Char} {depth count : Nat} {strings : List Nat},
      c = '[' ∨ c = '\x7b' →
      (d + 1 ≤ (maxJsonDepth : Int) → (prescanLoop (d + 1) (e + 1) (utf8 after) = .ok n ↔
        Fits (d + 1) (e + 1) depth count strings ∧
          prescanLoop (d + 1 - 1) (e + 1 + count) (utf8 rest) = .ok n)) →
      (prescanLoop d e (utf8 (c :: after)) = .ok n ↔
        Fits d e (1 + depth) (1 + count) strings ∧
          prescanLoop d (e + (1 + count)) (utf8 rest) = .ok n) := by
    intro c after depth count strings hc hinside
    have hbyte : c.toNat < 128 ∧ isOpener (UInt8.ofNat c.toNat) = true := by
      rcases hc with rfl | rfl
      all_goals decide
    rw [utf8_cons_ascii hbyte.1, prescanLoop_opener hbyte.2, fits_open, ← Nat.add_assoc]
    constructor
    · rintro ⟨hdepth, helem, h⟩
      obtain ⟨hfits, h⟩ := (hinside hdepth).mp h
      rw [Int.add_sub_cancel] at h
      exact ⟨⟨hdepth, helem, hfits⟩, h⟩
    · rintro ⟨⟨hdepth, helem, hfits⟩, h⟩
      refine ⟨hdepth, helem, (hinside hdepth).mpr ⟨hfits, ?_⟩⟩
      rw [Int.add_sub_cancel]
      exact h
  rcases readValue_cases h with ⟨after, bytes, rfl, hread, rfl⟩ | ⟨after, rfl, hskip, rfl⟩ |
    ⟨after, items, rfl, hread, rfl⟩ | ⟨after, rfl, hskip, rfl⟩ | ⟨after, members, rfl, hread, rfl⟩ |
    ⟨hread, rfl⟩
  · rw [prescanLoop_string hread]
    show _ ↔ Fits d e 0 1 [bytes] ∧ _
    rw [fits_string hd, and_assoc]
    rfl
  · refine hopen (.inl rfl) fun hdepth => ?_
    show _ ↔ Fits (d + 1) (e + 1) 0 0 [] ∧ _
    rw [prescanLoop_close hskip (.inl rfl), fits_nil hdepth]
    rfl
  · refine hopen (.inl rfl) fun hdepth => ?_
    rw [← prescanLoop_skipSpace]
    exact ihitems _ items rest hread (d + 1) (e + 1) n hdepth
  · refine hopen (.inr rfl) fun hdepth => ?_
    show _ ↔ Fits (d + 1) (e + 1) 0 0 [] ∧ _
    rw [prescanLoop_close hskip (.inr rfl), fits_nil hdepth]
    rfl
  · refine hopen (.inr rfl) fun hdepth => ?_
    rw [← prescanLoop_skipSpace]
    exact ihmembers _ members rest hread (d + 1) (e + 1) n hdepth
  · obtain ⟨c, cs', rfl, hc, htakes⟩ := takes_readScalar hread
    rw [prescanLoop_token hc htakes hends]
    show _ ↔ Fits d e 0 1 [] ∧ prescanLoop d (e + 1) (utf8 rest) = .ok n
    exact and_congr_left fun _ => ⟨fun he => ⟨by simpa using hd, he, fun _ hb => (by cases hb)⟩,
      Fits.count⟩

theorem reads (fuel : Nat) : ReadsValue fuel ∧ ReadsItems fuel ∧ ReadsMembers fuel := by
  induction fuel with
  | zero =>
    exact ⟨fun _ _ _ h => (by cases h), fun _ _ _ h => (by cases h), fun _ _ _ h => (by cases h)⟩
  | succ fuel ih =>
    obtain ⟨ihvalue, ihitems, ihmembers⟩ := ih
    exact ⟨readsValue_succ ihitems ihmembers, readsItems_succ ihvalue ihitems,
      readsMembers_succ ihvalue ihmembers⟩

/-! ## Open containers -/

/-- Whatever the text, the reader opens no more than the limit. -/
def OpensValue (fuel : Nat) : Prop :=
  ∀ cs d e n, d ≤ (maxJsonDepth : Int) → prescanLoop d e (utf8 cs) = .ok n →
    d + (readValue fuel cs).opened ≤ (maxJsonDepth : Int)

def OpensItems (fuel : Nat) : Prop :=
  ∀ cs d e n, d ≤ (maxJsonDepth : Int) → prescanLoop d e (utf8 cs) = .ok n →
    d + (readItems fuel cs).opened ≤ (maxJsonDepth : Int)

def OpensMembers (fuel : Nat) : Prop :=
  ∀ cs d e n, d ≤ (maxJsonDepth : Int) → prescanLoop d e (utf8 cs) = .ok n →
    d + (readMembers fuel cs).opened ≤ (maxJsonDepth : Int)

theorem opensItems_succ {fuel : Nat} (ihvalue : OpensValue fuel) (ihitems : OpensItems fuel) :
    OpensItems (fuel + 1) := by
  intro cs d e n hd h
  have hvalue := ihvalue cs d e n hd h
  rcases readItems_opened fuel cs with heq | ⟨s, after, next, hread, hskip, heq⟩
  · rw [heq]
    exact hvalue
  · -- up to the comma the scanner went along with the reader
    obtain ⟨-, h⟩ := ((reads fuel).1 cs s after hread (ends_of_eq hskip (.inl rfl)) d e n hd).mp h
    rw [prescanLoop_past hskip (.inl rfl)] at h
    have hitems := ihitems _ d _ n hd h
    rw [heq]
    omega

theorem opensMembers_succ {fuel : Nat} (ihvalue : OpensValue fuel) (ihmembers : OpensMembers fuel) :
    OpensMembers (fuel + 1) := by
  intro cs d e n hd h
  rcases readMembers_opened fuel cs with
    heq | ⟨afterQuote, name, colon, value, rfl, hname, hcolon, hopened⟩
  · rw [heq]
    simpa using hd
  · obtain ⟨-, -, h⟩ := (prescanLoop_string hname).mp h
    rw [prescanLoop_past hcolon (.inr rfl)] at h
    have hvalue := ihvalue _ d _ n hd h
    rcases hopened with heq | ⟨s, after, next, hread, hskip, heq⟩
    · rw [heq]
      exact hvalue
    · obtain ⟨-, h⟩ := ((reads fuel).1 _ s after hread (ends_of_eq hskip (.inl rfl)) d _ n hd).mp h
      rw [prescanLoop_past hskip (.inl rfl)] at h
      have hmembers := ihmembers _ d _ n hd h
      rw [heq]
      omega

theorem opensValue_succ {fuel : Nat} (ihitems : OpensItems fuel) (ihmembers : OpensMembers fuel) :
    OpensValue (fuel + 1) := by
  intro cs d e n hd h
  rcases readValue_opened fuel cs with heq | ⟨after, rfl, heq⟩ | ⟨after, rfl, heq⟩
  · rw [heq]
    simpa using hd
  · rw [utf8_cons_ascii (by decide)] at h
    obtain ⟨hdepth, -, h⟩ := (prescanLoop_opener (by decide)).mp h
    rw [← prescanLoop_skipSpace] at h
    have hitems := ihitems _ (d + 1) (e + 1) n hdepth h
    rcases heq with heq | heq
    · rw [heq]
      exact hdepth
    · rw [heq]
      push_cast
      omega
  · rw [utf8_cons_ascii (by decide)] at h
    obtain ⟨hdepth, -, h⟩ := (prescanLoop_opener (by decide)).mp h
    rw [← prescanLoop_skipSpace] at h
    have hmembers := ihmembers _ (d + 1) (e + 1) n hdepth h
    rcases heq with heq | heq
    · rw [heq]
      exact hdepth
    · rw [heq]
      push_cast
      omega

theorem opens (fuel : Nat) : OpensValue fuel ∧ OpensItems fuel ∧ OpensMembers fuel := by
  induction fuel with
  | zero =>
    refine ⟨fun _ d _ _ hd _ => ?_, fun _ d _ _ hd _ => ?_, fun _ d _ _ hd _ => ?_⟩
    all_goals exact (by simpa using hd : d + ((0 : Nat) : Int) ≤ (maxJsonDepth : Int))
  | succ fuel ih =>
    obtain ⟨ihvalue, ihitems, ihmembers⟩ := ih
    exact ⟨opensValue_succ ihitems ihmembers, opensItems_succ ihvalue ihitems,
      opensMembers_succ ihvalue ihmembers⟩

/-! ## Counting the value -/

/-- The loop of `_validate_tree` with the count it ends at. -/
def countStack : Nat → Nat → List (PyValue × Nat) → Profiled Nat
  | 0, _, _ => .error "json_element_limit"
  | _ + 1, elements, [] => .ok elements
  | fuel + 1, elements, (value, depth) :: stack => do
    require (elements + 1 ≤ maxJsonElements) "json_element_limit"
    require (depth ≤ maxJsonDepth) "json_depth_limit"
    match value with
    | .str s => do
      requireString s
      countStack fuel (elements + 1) stack
    | .dict fields => do
      let (elements, stack) ← pushMembers depth fields (elements + 1) stack
      countStack fuel elements stack
    | .list items =>
      countStack fuel (elements + 1) ((items.map fun item => (item, depth + 1)).reverse ++ stack)
    | .none | .bool _ | .int _ | .float _ => countStack fuel (elements + 1) stack
    | .tuple _ | .secret _ => .error "unsupported_json_value"

def countTree (root : PyValue) : Profiled Nat := countStack (maxJsonElements + 1) 0 [(root, 1)]

theorem map_bind {α β γ : Type} (x : Profiled α) (f : α → Profiled β) (g : β → γ) :
    (x >>= f).map g = x >>= fun a => (f a).map g := by
  cases x <;> rfl

/-- The count is of the same run. -/
theorem validateStack_eq (fuel elements : Nat) (stack : List (PyValue × Nat)) :
    validateStack fuel elements stack = (countStack fuel elements stack).map fun _ => () := by
  induction fuel generalizing elements stack with
  | zero => rfl
  | succ fuel ih =>
    cases stack with
    | nil => rfl
    | cons entry stack =>
      obtain ⟨value, depth⟩ := entry
      rw [validateStack.eq_def, countStack.eq_def]
      dsimp only
      rw [map_bind]
      refine bind_congr fun _ => ?_
      rw [map_bind]
      refine bind_congr fun _ => ?_
      cases value with
      | str s =>
        dsimp only
        rw [map_bind]
        exact bind_congr fun _ => ih _ _
      | dict fields =>
        dsimp only
        rw [map_bind]
        exact bind_congr fun _ => ih _ _
      | tuple items => rfl
      | secret v => rfl
      | _ => exact ih _ _

/-- The elements on the stack. -/
def pending (stack : List (PyValue × Nat)) : Nat := (stack.map fun q => Shape.elements q.1).sum

theorem elementsItems_eq (items : List PyValue) :
    Shape.elementsItems items = (items.map Shape.elements).sum := by
  induction items with
  | nil => rfl
  | cons v rest ih => rw [Shape.elementsItems, ih, List.map_cons, List.sum_cons]

theorem pushMembers_count {depth elements elements' : Nat} {fields : List (String × PyValue)}
    {stack stack' : List (PyValue × Nat)}
    (h : pushMembers depth fields elements stack = .ok (elements', stack')) :
    elements' + pending stack' = elements + Shape.elementsFields fields + pending stack := by
  induction fields generalizing elements stack with
  | nil =>
    obtain ⟨rfl, rfl⟩ := Prod.mk.inj (Except.ok.inj h)
    rfl
  | cons field rest ih =>
    obtain ⟨key, item⟩ := field
    rw [pushMembers] at h
    obtain ⟨_, -, h⟩ := bind_eq_ok_iff.mp h
    obtain ⟨_, -, h⟩ := bind_eq_ok_iff.mp h
    rw [ih h, Shape.elementsFields]
    show _ + (Shape.elements item + pending stack) = _
    omega

theorem countStack_eq {fuel elements k : Nat} {stack : List (PyValue × Nat)}
    (h : countStack fuel elements stack = .ok k) : k = elements + pending stack := by
  induction fuel generalizing elements stack with
  | zero => cases h
  | succ fuel ih =>
    cases stack with
    | nil => exact (Except.ok.inj h).symm
    | cons entry stack =>
      obtain ⟨value, depth⟩ := entry
      rw [countStack.eq_def] at h
      dsimp only at h
      obtain ⟨_, -, h⟩ := bind_eq_ok_iff.mp h
      obtain ⟨_, -, h⟩ := bind_eq_ok_iff.mp h
      show k = elements + (Shape.elements value + pending stack)
      cases value with
      | str s =>
        obtain ⟨_, -, h⟩ := bind_eq_ok_iff.mp h
        exact (ih h).trans (Nat.add_assoc _ _ _)
      | dict fields =>
        obtain ⟨⟨elements', stack'⟩, hpush, h⟩ := bind_eq_ok_iff.mp h
        rw [ih h, pushMembers_count hpush, Shape.elements]
        omega
      | list items =>
        rw [ih h, Shape.elements, elementsItems_eq]
        unfold pending
        rw [List.map_append, List.sum_append, List.map_reverse, List.sum_reverse, List.map_map]
        show elements + 1 + ((items.map Shape.elements).sum + _) = _
        omega
      | tuple items => cases h
      | secret v => cases h
      | none => exact (ih h).trans (Nat.add_assoc _ _ _)
      | bool b => exact (ih h).trans (Nat.add_assoc _ _ _)
      | int n => exact (ih h).trans (Nat.add_assoc _ _ _)
      | float f => exact (ih h).trans (Nat.add_assoc _ _ _)

theorem countTree_of_validateTree {root : PyValue} (h : validateTree root = .ok ()) :
    countTree root = .ok (Shape.elements root) := by
  unfold validateTree at h
  rw [validateStack_eq] at h
  unfold countTree
  cases hcount : countStack (maxJsonElements + 1) 0 [(root, 1)] with
  | error e =>
    rw [hcount] at h
    cases h
  | ok k =>
    rw [countStack_eq hcount, Nat.zero_add]
    rfl

/-! ## The prescan and the reader -/

theorem eq_utf8_of_utf8Decode? {body : Json.Bytes} {cs : List Char} (h : utf8Decode? body = some cs) :
    body = utf8 cs := by
  obtain ⟨chars, hchars, rfl⟩ := Option.map_eq_some_iff.mp h
  have hsome : (body.toByteArray.utf8Decode?).isSome := by
    rw [hchars]
    rfl
  have hencode : ((body.toByteArray.utf8Decode?).get hsome).toList.utf8Encode = body.toByteArray :=
    ByteArray.utf8Encode_get_utf8Decode?
  simp only [hchars, Option.get_some] at hencode
  have hbytes : (utf8 chars.toList).toByteArray = body.toByteArray := hencode
  simpa using congrArg (fun b => b.data.toList) hbytes.symm

/-- A document is read by the scanner to its end. -/
theorem prescan_document {cs : List Char} {fuel n : Nat} {s : Shape}
    (h : (readText fuel cs).result = some s) :
    prescanJsonLimits (utf8 cs) = .ok n ↔ Fits 0 0 s.depth s.count s.strings ∧ s.count = n := by
  obtain ⟨⟨s', rest⟩, hread, hrest⟩ := Option.bind_eq_some_iff.mp h
  dsimp only at hrest
  split at hrest
  · rename_i hskip
    obtain rfl := Option.some.inj hrest
    have hends : Ends rest := ends_of_skipSpace (by
      rw [hskip]
      exact fun _ _ heq => (by cases heq))
    unfold prescanJsonLimits
    rw [← prescanLoop_skipSpace, (reads fuel).1 _ s' rest hread hends 0 0 n (by decide),
      ← prescanLoop_skipSpace, hskip]
    show _ ∧ prescanLoop 0 (0 + s'.count) [] = .ok n ↔ _
    rw [prescanLoop_nil, Except.ok.injEq, Nat.zero_add]
  · cases hrest

/-- **The prescan bounds the reader.** The scanner ends on every input. Where it accepts, a reader
of the bytes has at no time more containers open than the limit, also on bytes that are no
document; of a document it counts the elements, as `_validate_tree` counts those of the value, and
no string of the value is over the limit. It accepts every document within the limits. -/
theorem prescan_bounds_reader (C : FloatCodec) (body : Json.Bytes) :
    (∀ n, prescanJsonLimits body = .ok n →
      (∀ cs, utf8 cs <+: body → ∀ fuel, (readText fuel cs).opened ≤ maxJsonDepth) ∧
      (∀ cs fuel s, utf8Decode? body = some cs → (readText fuel cs).result = some s →
        s.count = n ∧ ∀ bytes ∈ s.strings, bytes ≤ maxJsonStringBytes) ∧
      ∀ cs v, utf8Decode? body = some cs → PyValue.loads C cs = .ok v →
        Shape.elements v = n ∧ (validateTree v = .ok () → countTree v = .ok n) ∧
          ∀ t ∈ Shape.texts v, (utf8 t.toList).length ≤ maxJsonStringBytes) ∧
    ∀ cs fuel s, utf8Decode? body = some cs → (readText fuel cs).result = some s →
      s.depth ≤ maxJsonDepth → s.count ≤ maxJsonElements →
      (∀ bytes ∈ s.strings, bytes ≤ maxJsonStringBytes) → ∃ n, prescanJsonLimits body = .ok n := by
  refine ⟨fun n h => ⟨?_, ?_, ?_⟩, ?_⟩
  · rintro cs ⟨suffix, rfl⟩ fuel
    obtain ⟨m, hm⟩ := prescanLoop_front h
    rw [← prescanLoop_skipSpace] at hm
    have hopened := (opens fuel).1 _ 0 0 m (by decide) hm
    show (readValue fuel (skipSpace cs)).opened ≤ maxJsonDepth
    omega
  · intro cs fuel s hdecode hread
    rw [eq_utf8_of_utf8Decode? hdecode] at h
    obtain ⟨hfits, hcount⟩ := (prescan_document hread).mp h
    exact ⟨hcount, hfits.strings⟩
  · intro cs v hdecode hload
    rw [eq_utf8_of_utf8Decode? hdecode] at h
    obtain ⟨⟨v', rest⟩, hvalue, hrest⟩ := bind_eq_ok_iff.mp hload
    dsimp only at hrest
    split at hrest
    · rename_i hskip
      obtain rfl := Except.ok.inj hrest
      obtain ⟨s, hs, helements, hcovers⟩ := (readValue_of_loadValue C _).1 _ _ _ hvalue
      have hread : (readText (cs.length + 1) cs).result = some s := by
        rw [readText]
        dsimp only
        rw [hs, Option.bind_some, if_pos hskip]
      obtain ⟨hfits, rfl⟩ := (prescan_document hread).mp h
      refine ⟨helements.symm, fun hvalid => ?_, fun t ht => ?_⟩
      · rw [countTree_of_validateTree hvalid, helements]
      · obtain ⟨bytes, hbytes, hle⟩ := hcovers t ht
        exact Nat.le_trans hle (hfits.strings bytes hbytes)
    · cases hrest
  · intro cs fuel s hdecode hread hdepth hcount hstrings
    rw [eq_utf8_of_utf8Decode? hdecode]
    refine ⟨s.count, (prescan_document hread).mpr ⟨⟨?_, ?_, hstrings⟩, rfl⟩⟩
    · omega
    · omega

/-- An object with a list: two containers, a name and a number. -/
def objectOfList : List Char := ['\x7b', '"', 'a', '"', ':', '[', '1', ']', '\x7d']

theorem prescan_objectOfList : prescanJsonLimits (utf8 objectOfList) = .ok 4 := by
  have hread : (readText 10 objectOfList).result = some (.dict [(1, .list [.scalar])]) := by rfl
  obtain ⟨haccepts, hdocument⟩ := prescan_bounds_reader noFloats (utf8 objectOfList)
  obtain ⟨n, hn⟩ := hdocument objectOfList 10 _ (utf8Decode?_utf8 _) hread (by decide) (by decide)
    (by decide)
  obtain ⟨hcount, -⟩ := (haccepts n hn).2.1 objectOfList 10 _ (utf8Decode?_utf8 _) hread
  rw [hn, ← hcount]
  rfl

end LlmMaxxing.Profiler
