import Mathlib.Data.List.Basic
import Mathlib.Tactic.Common

/-!
# Characters of a text

`chars` is `String.toList`, read off the bytes when the text is ASCII. Decoding a text character
by character is quadratic when a term is evaluated by reduction; this is not.
-/

namespace Chars

/-- The UTF-8 bytes of a text. -/
def bytes (s : String) : List UInt8 := s.toByteArray.data.toList

/-- The characters of a text. -/
def chars (s : String) : List Char :=
  if (bytes s).all fun b => b.toNat < 128 then (bytes s).map fun b => Char.ofNat b.toNat
  else s.toList

theorem bytes_ofList (l : List Char) :
    bytes (String.ofList l) = l.flatMap String.utf8EncodeChar := by
  simp [bytes, String.ofList, List.utf8Encode]

/-- An ASCII character is one byte; any other has a byte above 127. -/
theorem utf8EncodeChar_cases (c : Char) :
    c.val.toNat < 128 ∧ String.utf8EncodeChar c = [UInt8.ofNat c.val.toNat] ∨
      ∃ b ∈ String.utf8EncodeChar c, ¬ b.toNat < 128 := by
  unfold String.utf8EncodeChar
  simp only
  split
  · next h => exact .inl ⟨by omega, rfl⟩
  · -- the first byte of a longer encoding is at least 0xc0
    refine .inr ?_
    split
    · refine ⟨_, List.mem_cons_self, ?_⟩
      rw [UInt8.toNat_ofNat']
      omega
    · split
      · refine ⟨_, List.mem_cons_self, ?_⟩
        rw [UInt8.toNat_ofNat']
        omega
      · refine ⟨_, List.mem_cons_self, ?_⟩
        rw [UInt8.toNat_ofNat']
        omega

@[simp] theorem chars_eq (s : String) : chars s = s.toList := by
  unfold chars
  split
  · next hall =>
    have hs : String.ofList s.toList = s := String.ofList_toList
    generalize s.toList = l at hs ⊢
    subst hs
    rw [bytes_ofList] at hall ⊢
    induction l with
    | nil => rfl
    | cons c rest ih =>
      rw [List.flatMap_cons, List.all_append, Bool.and_eq_true] at hall
      rcases utf8EncodeChar_cases c with ⟨hc, henc⟩ | ⟨b, hb, hbig⟩
      · have hbyte : (UInt8.ofNat c.val.toNat).toNat = c.toNat := by
          rw [UInt8.toNat_ofNat']
          exact Nat.mod_eq_of_lt (by omega)
        rw [List.flatMap_cons, List.map_append, ih hall.2, henc, List.map_singleton, hbyte,
          Char.ofNat_toNat, List.singleton_append]
      · exact absurd (by simpa using List.all_eq_true.mp hall.1 b hb) hbig
  · rfl

end Chars
