import LlmMaxxing.Lib.JsonRoundTrip

/-!
# The byte order of texts

Texts compared by their UTF-8 bytes: a common beginning does not matter, and two different
words, each followed by the same character below all of theirs, compare as the words do.
-/

namespace Json

theorem append_lt_append_left_iff {p a b : List Nat} : p ++ a < p ++ b ↔ a < b := by
  induction p with
  | nil => rfl
  | cons x p ih => simp [ih]

/-- Different words with a common terminator below their members compare as the words. -/
theorem append_terminator_lt_iff {t : Nat} {a b r s : List Nat} (ha : ∀ x ∈ a, t < x)
    (hb : ∀ x ∈ b, t < x) (hne : a ≠ b) : a ++ t :: r < b ++ t :: s ↔ a < b := by
  induction a generalizing b with
  | nil =>
    cases b with
    | nil => exact absurd rfl hne
    | cons y b => simp [List.cons_lt_cons_iff, hb y List.mem_cons_self]
  | cons x a ih =>
    have hx := ha x List.mem_cons_self
    cases b with
    | nil => simp [List.cons_lt_cons_iff, hx.le, hx.ne']
    | cons y b =>
      rw [List.cons_append, List.cons_append, List.cons_lt_cons_iff, List.cons_lt_cons_iff]
      by_cases hxy : x = y
      · subst hxy
        have htail : a ≠ b := fun h => hne (h ▸ rfl)
        rw [ih (fun z hz => ha z (List.mem_cons_of_mem _ hz))
          (fun z hz => hb z (List.mem_cons_of_mem _ hz)) htail]
      · simp [hxy]

theorem map_toNat_lt_iff {a b : List Char} : a.map Char.toNat < b.map Char.toNat ↔ a < b := by
  induction a generalizing b with
  | nil => cases b <;> simp
  | cons x a ih =>
    cases b with
    | nil => simp
    | cons y b =>
      have heq : x.toNat = y.toNat ↔ x = y := Char.toNat_inj
      simp only [List.map_cons, List.cons_lt_cons_iff, ih, heq]
      rfl

theorem byteOrder_utf8_append (a b : List Char) :
    byteOrder (utf8 (a ++ b)) = byteOrder (utf8 a) ++ byteOrder (utf8 b) := by
  simp [byteOrder, utf8, List.flatMap_append]

theorem byteOrder_utf8_of_ascii {cs : List Char} (h : ∀ c ∈ cs, c.toNat < 128) :
    byteOrder (utf8 cs) = cs.map Char.toNat := by
  induction cs with
  | nil => rfl
  | cons c cs ih =>
    have hc : c.toNat < 128 := h c List.mem_cons_self
    have hsize : c.utf8Size = 1 := by
      rw [Char.utf8Size_eq_one_iff]
      exact Nat.le_of_lt_succ hc
    have hone : byteOrder (utf8 [c]) = [c.toNat] := by
      simp only [byteOrder, utf8, List.flatMap_cons, List.flatMap_nil, List.append_nil,
        String.utf8EncodeChar_eq_singleton hsize, List.map_cons, List.map_nil]
      congr 1
      show c.toNat % 256 = c.toNat
      omega
    rw [← List.singleton_append, byteOrder_utf8_append, hone,
      ih fun x hx => h x (List.mem_cons_of_mem _ hx)]
    rfl

/-- A word of ASCII characters above `t`. -/
def WordAbove (t : Char) (w : List Char) : Prop := ∀ c ∈ w, t < c ∧ c.toNat < 128

/-- Texts that agree up to two different words, each ended by `t`, compare as the words. -/
theorem byteOrder_terminated_lt_iff {p a b r s : List Char} {t : Char} (ht : t.toNat < 128)
    (ha : WordAbove t a) (hb : WordAbove t b) (hne : a ≠ b) :
    byteOrder (utf8 (p ++ (a ++ t :: r))) < byteOrder (utf8 (p ++ (b ++ t :: s))) ↔ a < b := by
  have hcut : ∀ w rest : List Char, WordAbove t w →
      byteOrder (utf8 (w ++ t :: rest)) = w.map Char.toNat ++ t.toNat :: byteOrder (utf8 rest) := by
    intro w rest hw
    have htone : byteOrder (utf8 [t]) = [t.toNat] :=
      byteOrder_utf8_of_ascii fun c hc => by rw [List.mem_singleton.mp hc]; exact ht
    rw [byteOrder_utf8_append, byteOrder_utf8_of_ascii fun c hc => (hw c hc).2,
      ← List.singleton_append, byteOrder_utf8_append, htone]
    rfl
  have habove : ∀ w : List Char, WordAbove t w → ∀ x ∈ w.map Char.toNat, t.toNat < x := by
    intro w hw x hx
    obtain ⟨c, hc, rfl⟩ := List.mem_map.mp hx
    exact (hw c hc).1
  rw [byteOrder_utf8_append p, byteOrder_utf8_append p, append_lt_append_left_iff, hcut a r ha,
    hcut b s hb, append_terminator_lt_iff (habove a ha) (habove b hb), map_toNat_lt_iff]
  intro h
  exact hne (List.map_injective_iff.mpr (fun _ _ => Char.toNat_inj.mp) h)

end Json
