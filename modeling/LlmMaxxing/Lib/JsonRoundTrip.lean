import LlmMaxxing.Lib.Json

/-!
# Reading canonical JSON text

`parse_render`: the canonical text of a value, encoded as UTF-8, parses to the value with its
members sorted. The induction is on the value; each level gives the parser as much fuel as its
own text is long, and the text that follows a number must not continue it.
-/

namespace Json

/-! ## The nested lists as maps -/

theorem renderItems_eq (items : List Json) : renderItems items = items.map render := by
  induction items with
  | nil => rfl
  | cons v rest ih => rw [renderItems, ih, List.map_cons]

theorem renderFields_eq (fields : List (String × Json)) :
    renderFields fields = fields.map fun q => (q.1, q.2.render) := by
  induction fields with
  | nil => rfl
  | cons q rest ih => rw [renderFields, ih, List.map_cons]

theorem normItems_eq (items : List Json) : normItems items = items.map norm := by
  induction items with
  | nil => rfl
  | cons v rest ih => rw [normItems, ih, List.map_cons]

theorem normFields_eq (fields : List (String × Json)) :
    normFields fields = fields.map fun q => (q.1, q.2.norm) := by
  induction fields with
  | nil => rfl
  | cons q rest ih => rw [normFields, ih, List.map_cons]

theorem holdsItems_iff {p : Int → Prop} {items : List Json} :
    HoldsItems p items ↔ ∀ v ∈ items, v.Holds p := by
  induction items with
  | nil => simp [HoldsItems]
  | cons v rest ih => simp [HoldsItems, ih]

theorem holdsFields_iff {p : Int → Prop} {fields : List (String × Json)} :
    HoldsFields p fields ↔ ∀ q ∈ fields, q.2.Holds p := by
  induction fields with
  | nil => simp [HoldsFields]
  | cons q rest ih =>
    obtain ⟨k, v⟩ := q
    simp [HoldsFields, ih]

theorem holds_arr {p : Int → Prop} {items : List Json} :
    (Json.arr items).Holds p ↔ ∀ v ∈ items, v.Holds p := by
  rw [Holds, holdsItems_iff]

theorem holds_obj {p : Int → Prop} {fields : List (String × Json)} :
    (Json.obj fields).Holds p ↔
      (fields.map Prod.fst).Nodup ∧ ∀ q ∈ fields, q.2.Holds p := by
  rw [Holds, holdsFields_iff]

/-- Induction with the hypothesis for every member of a nested list. -/
theorem induct {P : Json → Prop} (null : P .null) (bool : ∀ b, P (.bool b))
    (num : ∀ n, P (.num n)) (str : ∀ s, P (.str s))
    (arr : ∀ items : List Json, (∀ v ∈ items, P v) → P (.arr items))
    (obj : ∀ fields : List (String × Json), (∀ q ∈ fields, P q.2) → P (.obj fields)) :
    ∀ v, P v := by
  intro v
  refine @Json.rec P (fun items => ∀ v ∈ items, P v) (fun fields => ∀ q ∈ fields, P q.2)
    (fun q => P q.2) null bool num str arr obj ?_ ?_ ?_ ?_ ?_ v
  · simp
  · intro head tail hhead htail v hv
    rcases List.mem_cons.mp hv with rfl | hv
    · exact hhead
    · exact htail v hv
  · simp
  · intro head tail hhead htail q hq
    rcases List.mem_cons.mp hq with rfl | hq
    · exact hhead
    · exact htail q hq
  · exact fun _ _ h => h

/-! ## Strings -/

theorem hexValue?_hexDigit : ∀ n < 16, hexValue? (hexDigit n) = some n := by decide

/-- Reading one escape gives its character. -/
theorem parseString_escapeChar (c : Char) (rest : List Char) :
    parseString (escapeChar c ++ rest) =
      (parseString rest).bind fun (s, after) => some (c :: s, after) := by
  unfold escapeChar
  split_ifs with h₁ h₂ h₃ h₄ h₅ h₆ h₇ h₈
  · subst h₁
    rfl
  · subst h₂
    rfl
  · subst h₃
    rfl
  · subst h₄
    rfl
  · subst h₅
    rfl
  · subst h₆
    rfl
  · subst h₇
    rfl
  · have hhigh := hexValue?_hexDigit (c.toNat / 16) (by omega)
    have hlow := hexValue?_hexDigit (c.toNat % 16) (by omega)
    have hzero : hexValue? '0' = some 0 := by decide
    have hcode : hex4? '0' '0' (hexDigit (c.toNat / 16)) (hexDigit (c.toNat % 16)) =
        some c.toNat := by
      simp only [hex4?, hzero, hhigh, hlow, Option.bind_eq_bind, Option.bind_some, Option.pure_def,
        Option.some.injEq]
      omega
    have hscalar : scalar? c.toNat = some c := by
      rw [scalar?, if_pos (by omega), Char.ofNat_toNat]
    have hnot : ¬ (0xd800 ≤ c.toNat ∧ c.toNat ≤ 0xdbff) := by omega
    simp only [List.cons_append, List.nil_append, parseString, hcode, Option.bind_eq_bind,
      Option.bind_some, hnot, if_false, hscalar, Option.pure_def]
  · have hcase : parseString (c :: rest) =
        if c.toNat < 0x20 ∨ c = '\\' then none
        else do
          let (s, after) ← parseString rest
          return (c :: s, after) := by
      rw [parseString.eq_def]
      split <;> simp_all
    rw [List.singleton_append, hcase, if_neg (by tauto)]
    rfl

theorem parseString_escape (cs rest : List Char) :
    parseString (cs.flatMap escapeChar ++ '"' :: rest) = some (cs, rest) := by
  induction cs with
  | nil => rfl
  | cons c cs ih =>
    rw [List.flatMap_cons, List.append_assoc, parseString_escapeChar, ih]
    rfl

/-! ## Integers -/

/-- The text that follows a number does not continue it. -/
def EndsNumber (rest : List Char) : Prop :=
  ∀ c, rest.head? = some c → c.isDigit = false ∧ c ≠ '.' ∧ c ≠ 'e' ∧ c ≠ 'E'

theorem toDigits_head_ne_zero {n : Nat} (hn : 0 < n) : (Nat.toDigits 10 n).head? ≠ some '0' := by
  induction n using Nat.strongRecOn with
  | _ n ih =>
    by_cases h : n < 10
    · rw [Nat.toDigits_of_lt_base h]
      have hall : ∀ m < 10, 0 < m → [Nat.digitChar m].head? ≠ some '0' := by decide
      exact hall n h hn
    · rw [Nat.toDigits_of_base_le (by decide) (by omega)]
      have hhead := ih (n / 10) (by omega) (by omega)
      cases hd : Nat.toDigits 10 (n / 10) with
      | nil => exact absurd hd Nat.toDigits_ne_nil
      | cons c cs =>
        rw [hd] at hhead
        simpa using hhead

theorem parseNat_toDigits {n : Nat} (hlen : (Nat.toDigits 10 n).length ≤ 4300) {rest : List Char}
    (hrest : EndsNumber rest) : parseNat (Nat.toDigits 10 n ++ rest) = some (n, rest) := by
  have hall : ∀ c ∈ Nat.toDigits 10 n, c.isDigit = true := fun c hc =>
    Nat.isDigit_of_mem_toDigits (by decide) (by decide) hc
  have hstop : rest.takeWhile Char.isDigit = [] ∧ rest.dropWhile Char.isDigit = rest := by
    cases rest with
    | nil => exact ⟨rfl, rfl⟩
    | cons c cs =>
      have hc := (hrest c rfl).1
      exact ⟨by simp [hc], by simp [hc]⟩
  have htake : (Nat.toDigits 10 n ++ rest).takeWhile Char.isDigit = Nat.toDigits 10 n := by
    rw [List.takeWhile_append_of_pos hall, hstop.1, List.append_nil]
  have hdrop : (Nat.toDigits 10 n ++ rest).dropWhile Char.isDigit = rest := by
    rw [List.dropWhile_append_of_pos hall, hstop.2]
  have hzero : ¬ ((Nat.toDigits 10 n).head? = some '0' ∧ Nat.toDigits 10 n ≠ ['0']) := by
    rintro ⟨hhead, hne⟩
    rcases Nat.eq_zero_or_pos n with rfl | hpos
    · exact hne (Nat.toDigits_zero 10)
    · exact toDigits_head_ne_zero hpos hhead
  have hnext : ¬ (rest.head? = some '.' ∨ rest.head? = some 'e' ∨ rest.head? = some 'E') := by
    rintro (h | h | h)
    · exact (hrest _ h).2.1 rfl
    · exact (hrest _ h).2.2.1 rfl
    · exact (hrest _ h).2.2.2 rfl
  have hfirst : ¬ (Nat.toDigits 10 n = [] ∨
      ((Nat.toDigits 10 n).head? = some '0' ∧ Nat.toDigits 10 n ≠ ['0']) ∨
      4300 < (Nat.toDigits 10 n).length) := by
    rintro (h | h | h)
    · exact Nat.toDigits_ne_nil h
    · exact hzero h
    · omega
  unfold parseNat
  rw [htake, hdrop]
  simp only [hfirst, if_false, hnext, Nat.ofDigitChars_ten_toDigits]

/-- Integers the interpreter reads back. -/
def Readable (n : Int) : Prop := (Nat.toDigits 10 n.natAbs).length ≤ 4300

theorem parseInt_intText {n : Int} (hn : Readable n) {rest : List Char} (hrest : EndsNumber rest) :
    parseInt (intText n ++ rest) = some (n, rest) := by
  cases n with
  | ofNat m =>
    have hread := parseNat_toDigits (n := m) hn hrest
    have hhead : ∀ cs, Nat.toDigits 10 m ++ rest ≠ '-' :: cs := by
      intro cs hcs
      cases hd : Nat.toDigits 10 m with
      | nil => exact absurd hd Nat.toDigits_ne_nil
      | cons c ds =>
        have hdigit : c.isDigit = true :=
          Nat.isDigit_of_mem_toDigits (by decide) (by decide) (hd ▸ List.mem_cons_self)
        rw [hd, List.cons_append, List.cons.injEq] at hcs
        rw [hcs.1] at hdigit
        exact absurd hdigit (by decide)
    rw [intText, parseInt.eq_def]
    split
    · next cs hcs => exact absurd hcs (hhead cs)
    · rw [hread]
      rfl
  | negSucc m =>
    have hread := parseNat_toDigits (n := m + 1) hn hrest
    rw [intText, List.cons_append, parseInt, hread]
    rfl

/-! ## Values -/

theorem skipSpace_of_head {c : Char} {cs : List Char} (h : isSpace c = false) :
    skipSpace (c :: cs) = c :: cs := by
  simp [skipSpace, h]

theorem isSpace_of_isDigit {c : Char} (h : c.isDigit = true) : isSpace c = false := by
  by_contra hs
  rw [Bool.not_eq_false, isSpace, Bool.or_eq_true, Bool.or_eq_true, Bool.or_eq_true] at hs
  simp only [beq_iff_eq] at hs
  rcases hs with ((rfl | rfl) | rfl) | rfl <;> exact absurd h (by decide)

/-- The characters that can open a value. -/
def Opens (c : Char) : Prop :=
  isSpace c = false ∧ c ≠ ']' ∧ c ≠ '}'

theorem opens_of_isDigit {c : Char} (h : c.isDigit = true) : Opens c := by
  refine ⟨isSpace_of_isDigit h, ?_, ?_⟩ <;> rintro rfl <;> exact absurd h (by decide)

theorem intText_head (n : Int) : ∃ c cs, intText n = c :: cs ∧ (c = '-' ∨ c.isDigit = true) := by
  cases n with
  | ofNat m =>
    rw [intText]
    cases hd : Nat.toDigits 10 m with
    | nil => exact absurd hd Nat.toDigits_ne_nil
    | cons c cs =>
      refine ⟨c, cs, rfl, Or.inr ?_⟩
      exact Nat.isDigit_of_mem_toDigits (by decide) (by decide) (hd ▸ List.mem_cons_self)
  | negSucc m => exact ⟨'-', _, rfl, Or.inl rfl⟩

theorem render_head (v : Json) : ∃ c cs, v.render = c :: cs ∧ Opens c := by
  cases v with
  | null => exact ⟨_, _, rfl, by decide, by decide, by decide⟩
  | bool b => cases b <;> exact ⟨_, _, rfl, by decide, by decide, by decide⟩
  | num n =>
    obtain ⟨c, cs, heq, hc⟩ := intText_head n
    refine ⟨c, cs, heq, ?_⟩
    rcases hc with rfl | hc
    · exact ⟨by decide, by decide, by decide⟩
    · exact opens_of_isDigit hc
  | str s => exact ⟨_, _, rfl, by decide, by decide, by decide⟩
  | arr items => exact ⟨_, _, rfl, by decide, by decide, by decide⟩
  | obj fields => exact ⟨_, _, rfl, by decide, by decide, by decide⟩

/-- A text that does not open a composite value or a literal is read as a number. -/
theorem parseValue_of_number {fuel : Nat} {c : Char} {cs : List Char}
    (hc : c = '-' ∨ c.isDigit = true) :
    parseValue (fuel + 1) (c :: cs) =
      (parseInt (c :: cs)).map fun (n, after) => (.num n, after) := by
  rw [parseValue.eq_def]
  simp only
  split <;> first | rfl | (rcases hc with h | h <;> simp_all)

/-- What the induction proves of one value: any fuel as long as its text reads it. -/
def Reads (v : Json) : Prop :=
  ∀ fuel rest, v.render.length ≤ fuel → EndsNumber rest →
    parseValue fuel (v.render ++ rest) = some (v.norm, rest)

theorem endsNumber_cons {c : Char} {rest : List Char} (hd : c.isDigit = false) (h₁ : c ≠ '.')
    (h₂ : c ≠ 'e') (h₃ : c ≠ 'E') : EndsNumber (c :: rest) := by
  intro d hd'
  cases hd'
  exact ⟨hd, h₁, h₂, h₃⟩

theorem parseItems_render {items : List Json} (hne : items ≠ []) (hreads : ∀ v ∈ items, v.Reads)
    (fuel : Nat) (rest : List Char)
    (hfuel : (commaSep (items.map render)).length + 1 ≤ fuel) :
    parseItems fuel (commaSep (items.map render) ++ ']' :: rest) =
      some (items.map norm, rest) := by
  induction items generalizing fuel with
  | nil => exact absurd rfl hne
  | cons v tail ih =>
    obtain ⟨fuel, rfl⟩ : ∃ m, fuel = m + 1 := ⟨fuel - 1, by omega⟩
    have hv := hreads v List.mem_cons_self
    cases tail with
    | nil =>
      simp only [List.map_cons, List.map_nil, commaSep] at hfuel ⊢
      have hend : EndsNumber (']' :: rest) :=
        endsNumber_cons (by decide) (by decide) (by decide) (by decide)
      rw [parseItems, hv fuel _ (by omega) hend]
      rfl
    | cons w more =>
      simp only [List.map_cons, commaSep, List.length_append, List.length_cons] at hfuel ⊢
      have hend : ∀ cs, EndsNumber (',' :: cs) := fun cs =>
        endsNumber_cons (by decide) (by decide) (by decide) (by decide)
      have htail := ih (by simp) (fun u hu => hreads u (List.mem_cons_of_mem _ hu)) fuel
        (by simp only [List.map_cons]; omega)
      simp only [List.map_cons] at htail
      rw [List.append_assoc, List.cons_append, parseItems, hv fuel _ (by omega) (hend _)]
      obtain ⟨c, cs, hhead, hopens⟩ := render_head w
      have hstart : ∃ c cs, commaSep (w.render :: more.map render) ++ ']' :: rest = c :: cs ∧
          isSpace c = false := by
        cases more with
        | nil => exact ⟨c, cs ++ ']' :: rest, by simp [commaSep, hhead], hopens.1⟩
        | cons u us => exact ⟨c, _, by simp [commaSep, hhead]; rfl, hopens.1⟩
      obtain ⟨c', cs', heq, hspace⟩ := hstart
      have hskip : skipSpace (commaSep (w.render :: more.map render) ++ ']' :: rest) =
          commaSep (w.render :: more.map render) ++ ']' :: rest := by
        rw [heq, skipSpace_of_head hspace]
      simp only [Option.bind_eq_bind, Option.bind_some]
      rw [skipSpace_of_head (by decide : isSpace ',' = false)]
      simp only [hskip, htail, Option.bind_some, Option.pure_def]

/-- The text of one member. -/
def renderMember (q : String × Json) : List Char := quote q.1 ++ ':' :: q.2.render

theorem parseMembers_render {fields : List (String × Json)} (hne : fields ≠ [])
    (hreads : ∀ q ∈ fields, q.2.Reads) (fuel : Nat) (rest : List Char)
    (hfuel : (commaSep (fields.map renderMember)).length + 1 ≤ fuel) :
    parseMembers fuel (commaSep (fields.map renderMember) ++ '}' :: rest) =
      some (fields.map fun q => (q.1, q.2.norm), rest) := by
  induction fields generalizing fuel with
  | nil => exact absurd rfl hne
  | cons q tail ih =>
    obtain ⟨fuel, rfl⟩ : ∃ m, fuel = m + 1 := ⟨fuel - 1, by omega⟩
    obtain ⟨k, v⟩ := q
    have hv : v.Reads := hreads (k, v) List.mem_cons_self
    obtain ⟨c, cs, hhead, hopens⟩ := render_head v
    -- One member, up to the text after its value.
    have hvalue : ∀ after, v.render.length ≤ fuel → EndsNumber after →
        parseValue fuel (skipSpace (v.render ++ after)) = some (v.norm, after) := by
      intro after hle hafter
      rw [hhead, List.cons_append, skipSpace_of_head hopens.1, ← List.cons_append, ← hhead]
      exact hv fuel after hle hafter
    have hcomma : ∀ next, v.render.length ≤ fuel →
        parseMembers (fuel + 1) (renderMember (k, v) ++ ',' :: next) =
          (parseMembers fuel (skipSpace next)).bind fun p => some ((k, v.norm) :: p.1, p.2) := by
      intro next hle
      have hend : EndsNumber (',' :: next) :=
        endsNumber_cons (by decide) (by decide) (by decide) (by decide)
      simp [renderMember, quote, parseMembers, parseString_escape, hvalue _ hle hend,
        skipSpace_of_head (by decide : isSpace ':' = false),
        skipSpace_of_head (by decide : isSpace ',' = false)]
    have hbrace : v.render.length ≤ fuel →
        parseMembers (fuel + 1) (renderMember (k, v) ++ '}' :: rest) =
          some ([(k, v.norm)], rest) := by
      intro hle
      have hend : EndsNumber ('}' :: rest) :=
        endsNumber_cons (by decide) (by decide) (by decide) (by decide)
      simp [renderMember, quote, parseMembers, parseString_escape, hvalue _ hle hend,
        skipSpace_of_head (by decide : isSpace ':' = false),
        skipSpace_of_head (by decide : isSpace '}' = false)]
    have hlen : v.render.length + 1 ≤ (renderMember (k, v)).length := by
      simp only [renderMember, quote, List.length_append, List.length_cons]
      omega
    cases tail with
    | nil =>
      simp only [List.map_cons, List.map_nil, commaSep] at hfuel ⊢
      rw [hbrace (by omega)]
    | cons w more =>
      simp only [List.map_cons, commaSep, List.length_append, List.length_cons] at hfuel ⊢
      have htail := ih (by simp) (fun u hu => hreads u (List.mem_cons_of_mem _ hu)) fuel
        (by simp only [List.map_cons]; omega)
      simp only [List.map_cons] at htail
      rw [List.append_assoc, List.cons_append, hcomma _ (by omega)]
      have hskip : skipSpace (commaSep (renderMember w :: more.map renderMember) ++ '}' :: rest) =
          commaSep (renderMember w :: more.map renderMember) ++ '}' :: rest := by
        have hstart : ∃ cs, commaSep (renderMember w :: more.map renderMember) ++ '}' :: rest =
            '"' :: cs := by
          cases more with
          | nil => exact ⟨_, rfl⟩
          | cons u us => exact ⟨_, rfl⟩
        obtain ⟨cs', heq⟩ := hstart
        rw [heq, skipSpace_of_head (by decide)]
      simp only [hskip, htail, Option.bind_some]

theorem commaSep_head (ts : List (List Char)) {t : List Char} {c : Char} {cs : List Char}
    (h : t = c :: cs) : ∃ cs', commaSep (t :: ts) = c :: cs' := by
  subst h
  cases ts with
  | nil => exact ⟨cs, rfl⟩
  | cons u us => exact ⟨_, rfl⟩

theorem reads_arr {items : List Json} (hreads : ∀ v ∈ items, v.Reads) : (Json.arr items).Reads := by
  intro fuel rest hfuel hrest
  rw [render, renderItems_eq] at hfuel ⊢
  rw [norm, normItems_eq]
  simp only [List.length_cons, List.length_append, List.length_nil] at hfuel
  obtain ⟨fuel, rfl⟩ : ∃ m, fuel = m + 1 := ⟨fuel - 1, by omega⟩
  rw [List.cons_append, parseValue, List.append_assoc, List.singleton_append]
  cases items with
  | nil => rfl
  | cons v tail =>
    obtain ⟨c, cs, hhead, hspace, hclose, -⟩ := render_head v
    obtain ⟨cs', hstart⟩ := commaSep_head (tail.map render) hhead
    have hitems := parseItems_render (by simp) hreads fuel rest (by omega)
    rw [List.map_cons] at hitems
    have hskip : skipSpace (commaSep (v.render :: tail.map render) ++ ']' :: rest) =
        commaSep (v.render :: tail.map render) ++ ']' :: rest := by
      rw [hstart, List.cons_append, skipSpace_of_head hspace]
    rw [List.map_cons, hskip]
    split
    · next heq =>
      rw [hstart, List.cons_append, List.cons.injEq] at heq
      exact absurd heq.1 hclose
    · rw [hitems]
      rfl

theorem reads_obj {fields : List (String × Json)} (hnd : (fields.map Prod.fst).Nodup)
    (hreads : ∀ q ∈ fields, q.2.Reads) : (Json.obj fields).Reads := by
  intro fuel rest hfuel hrest
  -- Both sides are about the members in sorted order.
  have htext : (sortOn (fun q => utf16 q.1) (renderFields fields)).map
      (fun q => quote q.1 ++ ':' :: q.2) =
        (sortOn (fun q => utf16 q.1) fields).map renderMember := by
    rw [renderFields_eq, SortOn.map_eq, List.map_map]
    rfl
  have hnorm : sortOn (fun q => utf16 q.1) (normFields fields) =
      (sortOn (fun q => utf16 q.1) fields).map fun q => (q.1, q.2.norm) := by
    rw [normFields_eq, SortOn.map_eq]
  rw [render, htext] at hfuel ⊢
  rw [norm, hnorm]
  have hsorted : ∀ q ∈ sortOn (fun q => utf16 q.1) fields, q.2.Reads := fun q hq =>
    hreads q ((SortOn.mem_iff _).mp hq)
  have hnd' : (((sortOn (fun q => utf16 q.1) fields).map fun q => (q.1, q.2.norm)).map
      Prod.fst).Nodup := by
    rw [List.map_map]
    exact ((SortOn.perm _ fields).map Prod.fst).nodup_iff.mpr hnd
  simp only [List.length_cons, List.length_append, List.length_nil] at hfuel
  obtain ⟨fuel, rfl⟩ : ∃ m, fuel = m + 1 := ⟨fuel - 1, by omega⟩
  rw [List.cons_append, parseValue, List.append_assoc, List.singleton_append]
  cases hsort : sortOn (fun q => utf16 q.1) fields with
  | nil => rfl
  | cons q tail =>
    rw [hsort] at hsorted hfuel hnd'
    obtain ⟨cs', hstart⟩ := commaSep_head (tail.map renderMember)
      (rfl : renderMember q = '"' :: _)
    have hmembers := parseMembers_render (by simp) hsorted fuel rest (by omega)
    rw [List.map_cons] at hmembers
    have hskip : skipSpace (commaSep (renderMember q :: tail.map renderMember) ++ '}' :: rest) =
        commaSep (renderMember q :: tail.map renderMember) ++ '}' :: rest := by
      rw [hstart, List.cons_append, skipSpace_of_head (by decide)]
    rw [List.map_cons, hskip]
    split
    · next heq =>
      rw [hstart, List.cons_append, List.cons.injEq] at heq
      exact absurd heq.1 (by decide)
    · rw [hmembers]
      simp only [Option.map_some, ofMembers]
      rw [Dict.foldl_upsert_of_nodup (by simpa using hnd')]
      rfl

/-- **Canonical text reads back.** -/
theorem reads_of_holds (v : Json) (hv : v.Holds Readable) : v.Reads := by
  induction v using induct with
  | null =>
    intro fuel rest hfuel _
    obtain ⟨fuel, rfl⟩ : ∃ m, fuel = m + 1 := ⟨fuel - 1, by simp [render] at hfuel; omega⟩
    rfl
  | bool b =>
    intro fuel rest hfuel _
    obtain ⟨fuel, rfl⟩ : ∃ m, fuel = m + 1 :=
      ⟨fuel - 1, by cases b <;> simp [render] at hfuel <;> omega⟩
    cases b <;> rfl
  | num n =>
    intro fuel rest hfuel hrest
    obtain ⟨c, cs, heq, hc⟩ := intText_head n
    have hread := parseInt_intText hv hrest
    rw [render] at hfuel ⊢
    obtain ⟨fuel, rfl⟩ : ∃ m, fuel = m + 1 := ⟨fuel - 1, by rw [heq] at hfuel; simp at hfuel; omega⟩
    rw [heq, List.cons_append] at hread ⊢
    rw [parseValue_of_number hc, hread]
    rfl
  | str s =>
    intro fuel rest hfuel _
    obtain ⟨fuel, rfl⟩ : ∃ m, fuel = m + 1 := ⟨fuel - 1, by simp [render, quote] at hfuel; omega⟩
    simp only [render, quote, List.cons_append, List.append_assoc, List.nil_append]
    rw [parseValue, parseString_escape]
    simp [norm]
  | arr items ih => exact reads_arr fun v hmem => ih v hmem (holds_arr.mp hv v hmem)
  | obj fields ih =>
    obtain ⟨hnd, hfields⟩ := holds_obj.mp hv
    exact reads_obj hnd fun q hq => ih q hq (hfields q hq)

theorem utf8Decode?_utf8 (cs : List Char) : utf8Decode? (utf8 cs) = some cs := by
  have h : (utf8 cs).toByteArray.utf8Decode? = some cs.toArray := List.utf8Decode?_utf8Encode
  rw [utf8Decode?, h]
  simp

/-- **Parsing the canonical encoding gives the value with its members sorted.** -/
theorem parse_utf8_render {v : Json} (hv : v.Holds Readable) :
    parse (utf8 v.render) = some v.norm := by
  obtain ⟨c, cs, hhead, hspace, -⟩ := render_head v
  have hskip : skipSpace v.render = v.render := by
    rw [hhead, skipSpace_of_head hspace]
  have hread := reads_of_holds v hv v.render.length [] le_rfl (fun _ h => by cases h)
  rw [List.append_nil] at hread
  rw [parse, utf8Decode?_utf8, Option.bind_some, parseText, hskip, hread]
  rfl

/-- Values with one canonical text agree up to the order of members. -/
theorem norm_eq_of_render_eq {v w : Json} (hv : v.Holds Readable) (hw : w.Holds Readable)
    (h : v.render = w.render) : v.norm = w.norm := by
  have hparse := parse_utf8_render hv
  rw [h, parse_utf8_render hw] at hparse
  exact (Option.some.inj hparse).symm

theorem utf8_injective : Function.Injective utf8 := by
  intro a b h
  have ha := utf8Decode?_utf8 a
  rw [h, utf8Decode?_utf8] at ha
  exact (Option.some.inj ha).symm

end Json

