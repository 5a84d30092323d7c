import LlmMaxxing.Core.Canonical
import LlmMaxxing.Core.Validated
import LlmMaxxing.Lib.TextOrder

/-!
# The order of a key's verifiers in the canonical bytes

The validator wants the verifiers of a key by increasing generation; the canonicaliser puts
them in the order of their serialized text, in which numbers stand as decimal text. `TextOrdered`
says when the two orders agree, and `arrange_validate_iff` that this is what decides whether the
arranged key is still accepted.
-/

namespace LlmMaxxing

open Json Check

namespace CredentialVerifier

/-- Canonical verifiers compare by the decimal text of their generation. -/
def textLt (v w : CredentialVerifier) : Prop := toString v.generation < toString w.generation

instance (v w : CredentialVerifier) : Decidable (v.textLt w) := inferInstanceAs (Decidable (_ < _))

/-- Legacy verifiers compare by fingerprint, then by the decimal text of their generation. -/
def legacyTextLt (v w : CredentialVerifier) : Prop :=
  v.secretHex < w.secretHex ∨ v.secretHex = w.secretHex ∧ v.textLt w

instance (v w : CredentialVerifier) : Decidable (v.legacyTextLt w) :=
  inferInstanceAs (Decidable (_ ∨ _))

/-! ## Text of a verifier -/

theorem render_canonical (v : ClientCredentialVerifier) :
    ∃ rest, (Codec.clientCredentialVerifier.enc v).render =
      ('{' :: (quote "generation" ++ [':'])) ++ (Nat.toDigits 10 v.generation ++ ',' :: rest) := by
  simp +decide [Codec.clientCredentialVerifier, JsonCodec.record, render, renderFields, sortOn,
    commaSep, Codec.nat, JsonCodec.nat, intText]

theorem render_legacy (v : LegacyClientCredentialVerifier) :
    ∃ rest, (Codec.legacyClientCredentialVerifier.enc v).render =
      ('{' :: (quote "fingerprint_hex" ++ [':'])) ++ (quote v.secretHex ++
        (',' :: (quote "generation" ++ [':'])) ++ (Nat.toDigits 10 v.generation ++ ',' :: rest)) := by
  simp +decide [Codec.legacyClientCredentialVerifier, JsonCodec.record, render, renderFields,
    sortOn, commaSep, Codec.nat, JsonCodec.nat, intText, Codec.string, JsonCodec.string,
    JsonCodec.text]

theorem wordAbove_toDigits (n : Nat) : WordAbove ',' (Nat.toDigits 10 n) := by
  intro c hc
  have hd := Nat.isDigit_of_mem_toDigits (by decide) (by decide) hc
  have hrange : 48 ≤ c.toNat ∧ c.toNat ≤ 57 := Char.isDigit_iff_toNat.mp hd
  exact ⟨show 44 < c.toNat by omega, by omega⟩

theorem toNat_of_isLowerHex {c : Char} (h : isLowerHex c = true) :
    48 ≤ c.toNat ∧ c.toNat ≤ 57 ∨ 97 ≤ c.toNat ∧ c.toNat ≤ 102 := by
  simp only [isLowerHex, Bool.or_eq_true, Bool.and_eq_true, decide_eq_true_eq] at h
  exact h

theorem isLowerHex_of_isHex64 {s : String} (h : isHex64 s = true) {c : Char} (hc : c ∈ s.toList) :
    isLowerHex c = true := by
  simp only [isHex64, isHexOfLength, Bool.and_eq_true] at h
  exact List.all_eq_true.mp h.2 c hc

theorem wordAbove_of_isHex64 {s : String} (h : isHex64 s = true) : WordAbove '"' s.toList := by
  intro c hc
  have hrange := toNat_of_isLowerHex (isLowerHex_of_isHex64 h hc)
  exact ⟨show 34 < c.toNat by omega, by omega⟩

/-- A hex word is quoted without escapes. -/
theorem quote_of_isHex64 {s : String} (h : isHex64 s = true) :
    quote s = '"' :: (s.toList ++ ['"']) := by
  have hplain : ∀ c ∈ s.toList, escapeChar c = [c] := by
    intro c hc
    have hrange := toNat_of_isLowerHex (isLowerHex_of_isHex64 h hc)
    have hne : ∀ d : Char, d.toNat < 48 ∨ d.toNat = 92 → c ≠ d := by
      rintro d hd rfl
      omega
    rw [escapeChar, if_neg (hne _ (by decide)), if_neg (hne _ (by decide)),
      if_neg (hne _ (by decide)), if_neg (hne _ (by decide)), if_neg (hne _ (by decide)),
      if_neg (hne _ (by decide)), if_neg (hne _ (by decide)), if_neg (by omega)]
  rw [quote, List.flatMap_congr hplain, List.flatMap_singleton']

theorem toString_toList (n : Nat) : (toString n).toList = Nat.toDigits 10 n := Nat.toList_repr

theorem serializedKey_lt_of_textLt {v w : ClientCredentialVerifier} (h : v.textLt w) :
    serializedKey (Codec.clientCredentialVerifier.enc v) <
      serializedKey (Codec.clientCredentialVerifier.enc w) := by
  obtain ⟨r, hv⟩ := render_canonical v
  obtain ⟨s, hw⟩ := render_canonical w
  have hlt : Nat.toDigits 10 v.generation < Nat.toDigits 10 w.generation := by
    rw [← toString_toList, ← toString_toList]
    exact String.lt_iff_toList_lt.mp h
  rw [serializedKey, serializedKey, hv, hw]
  exact (byteOrder_terminated_lt_iff (by decide) (wordAbove_toDigits _) (wordAbove_toDigits _)
    hlt.ne).mpr hlt

theorem serializedKey_lt_of_legacyTextLt {v w : LegacyClientCredentialVerifier}
    (hv : isHex64 v.secretHex = true) (hw : isHex64 w.secretHex = true) (h : v.legacyTextLt w) :
    serializedKey (Codec.legacyClientCredentialVerifier.enc v) <
      serializedKey (Codec.legacyClientCredentialVerifier.enc w) := by
  obtain ⟨r, hrv⟩ := render_legacy v
  obtain ⟨s, hrw⟩ := render_legacy w
  rw [serializedKey, serializedKey, hrv, hrw, quote_of_isHex64 hv, quote_of_isHex64 hw]
  rcases h with h | ⟨heq, h⟩
  · have hlt := String.lt_iff_toList_lt.mp h
    have hcut := byteOrder_terminated_lt_iff
      (p := ('{' :: (quote "fingerprint_hex" ++ [':'])) ++ ['"'])
      (r := (',' :: (quote "generation" ++ [':'])) ++ (Nat.toDigits 10 v.generation ++ ',' :: r))
      (s := (',' :: (quote "generation" ++ [':'])) ++ (Nat.toDigits 10 w.generation ++ ',' :: s))
      (by decide : '"'.toNat < 128) (wordAbove_of_isHex64 hv) (wordAbove_of_isHex64 hw) hlt.ne
    have hlt' := hcut.mpr hlt
    simpa only [List.append_assoc, List.cons_append, List.nil_append] using hlt'
  · have hlt : Nat.toDigits 10 v.generation < Nat.toDigits 10 w.generation := by
      rw [← toString_toList, ← toString_toList]
      exact String.lt_iff_toList_lt.mp h
    have hcut := byteOrder_terminated_lt_iff (r := r) (s := s)
      (p := ('{' :: (quote "fingerprint_hex" ++ [':'])) ++ ('"' :: (w.secretHex.toList ++ ['"'])) ++
        (',' :: (quote "generation" ++ [':'])))
      (by decide : ','.toNat < 128) (wordAbove_toDigits _) (wordAbove_toDigits _) hlt.ne
    have hlt' := hcut.mpr hlt
    rw [heq]
    simpa only [List.append_assoc, List.cons_append, List.nil_append] using hlt'

theorem textLt_total {v w : CredentialVerifier} (h : v.generation ≠ w.generation) :
    v.textLt w ∨ w.textLt v := by
  refine lt_or_gt_of_ne fun heq => h ?_
  have hdigits : Nat.toDigits 10 v.generation = Nat.toDigits 10 w.generation := by
    rw [← toString_toList, ← toString_toList, heq]
  calc v.generation = Nat.ofDigitChars 10 (Nat.toDigits 10 v.generation) 0 :=
        Nat.ofDigitChars_ten_toDigits.symm
    _ = w.generation := by rw [hdigits, Nat.ofDigitChars_ten_toDigits]

theorem legacyTextLt_total {v w : CredentialVerifier} (h : v.generation ≠ w.generation) :
    v.legacyTextLt w ∨ w.legacyTextLt v := by
  rcases lt_trichotomy v.secretHex w.secretHex with hlt | heq | hgt
  · exact .inl (.inl hlt)
  · exact (textLt_total h).imp (fun hlt => .inr ⟨heq, hlt⟩) fun hlt => .inr ⟨heq.symm, hlt⟩
  · exact .inr (.inl hgt)

end CredentialVerifier

/-! ## Arranged keys -/

namespace ClientKeyRecord

/-- The order of the verifiers by generation is their order by text. -/
structure TextOrdered (k : ClientKeyRecord) : Prop where
  credentials : k.credentialVerifiers.Pairwise CredentialVerifier.textLt
  legacies : k.legacyVerifiers.Pairwise CredentialVerifier.legacyTextLt

theorem generationsIncreasing_pair {v w : CredentialVerifier} :
    generationsIncreasing [v, w] ↔ v.generation ≤ w.generation := by
  by_cases h : v.generation ≤ w.generation
  · simp [generationsIncreasing, sortOn, h]
  · simp only [generationsIncreasing, sortOn, List.map_cons, List.map_nil, h, iff_false]
    simp [h]
    omega

/-- At most two verifiers stay increasing under a sort exactly when the sort keeps them. -/
theorem generationsIncreasing_sortOn_iff {key : CredentialVerifier → List Nat}
    {R : CredentialVerifier → CredentialVerifier → Prop} {vs : List CredentialVerifier}
    (hlen : vs.length ≤ 2) (hinc : generationsIncreasing vs)
    (hnd : (vs.map CredentialVerifier.generation).Nodup)
    (htotal : ∀ v w, v.generation ≠ w.generation → R v w ∨ R w v)
    (hkey : ∀ v ∈ vs, ∀ w ∈ vs, R v w → key v < key w) :
    generationsIncreasing (sortOn key vs) ↔ vs.Pairwise R := by
  match vs with
  | [] => simp [sortOn, generationsIncreasing]
  | [v] => simp [sortOn, generationsIncreasing]
  | [v, w] =>
    have hlt : v.generation < w.generation := by
      have hne : v.generation ≠ w.generation := by simpa using hnd
      have hle := generationsIncreasing_pair.mp hinc
      omega
    have hpair : [v, w].Pairwise R ↔ R v w := by simp
    rw [hpair]
    by_cases hR : R v w
    · have hsort : sortOn key [v, w] = [v, w] :=
        SortOn.eq_self key (by simpa using (hkey v (by simp) w (by simp) hR).le)
      rw [hsort]
      exact ⟨fun _ => hR, fun _ => hinc⟩
    · have hRwv := (htotal v w hlt.ne).resolve_left hR
      have hgt : key w < key v := hkey w (by simp) v (by simp) hRwv
      have hsort : sortOn key [v, w] = [w, v] := by simp [sortOn, hgt.not_ge]
      rw [hsort, generationsIncreasing_pair]
      exact ⟨fun h => absurd h (by omega), fun h => absurd h hR⟩

theorem arrange_credentialVerifiers_perm (k : ClientKeyRecord) :
    k.arrange.credentialVerifiers.Perm k.credentialVerifiers := SortOn.perm _ _

theorem arrange_legacyVerifiers_perm (k : ClientKeyRecord) :
    k.arrange.legacyVerifiers.Perm k.legacyVerifiers := SortOn.perm _ _

theorem arrange_verifiers_perm (k : ClientKeyRecord) : k.arrange.verifiers.Perm k.verifiers :=
  k.arrange_credentialVerifiers_perm.append k.arrange_legacyVerifiers_perm

/-- Apart from the order of the verifiers, an arranged key is as sound as the key. -/
theorem Sound.arrange {k : ClientKeyRecord} (h : k.Sound) : k.arrange.Sound where
  keyId := h.keyId
  issuedAt := h.issuedAt
  expiresAt := h.expiresAt
  timeHighWater := h.timeHighWater
  generationHighWater := h.generationHighWater
  credentialCount := k.arrange_credentialVerifiers_perm.length_eq ▸ h.credentialCount
  credentials v hv := h.credentials v (k.arrange_credentialVerifiers_perm.mem_iff.mp hv)
  legacyCount := k.arrange_legacyVerifiers_perm.length_eq ▸ h.legacyCount
  legacies v hv := h.legacies v (k.arrange_legacyVerifiers_perm.mem_iff.mp hv)
  lifetime := h.lifetime
  lifetimeBound := h.lifetimeBound
  issued_le := h.issued_le
  some_verifier hnil := h.some_verifier (List.nil_perm.mp (hnil ▸ k.arrange_verifiers_perm))
  verifierCount := k.arrange_verifiers_perm.length_eq ▸ h.verifierCount
  generations_nodup :=
    (k.arrange_verifiers_perm.map CredentialVerifier.generation).nodup_iff.mpr h.generations_nodup
  newest := by
    have hperm := k.arrange_verifiers_perm.map CredentialVerifier.generation
    rw [List.max?_eq_some_iff]
    have hmax := List.max?_eq_some_iff.mp h.newest
    exact ⟨hperm.mem_iff.mpr hmax.1, fun g hg => hmax.2 g (hperm.mem_iff.mp hg)⟩
  windows v hv := h.windows v (k.arrange_verifiers_perm.mem_iff.mp hv)
  acceptedCount := (k.arrange_verifiers_perm.filter _).length_eq ▸ h.acceptedCount
  terminal_accepted hterminal := by
    have hperm := k.arrange_verifiers_perm.filter fun v => v.status == .active || v.status == .retiring
    have hnil : k.accepted = [] := h.terminal_accepted hterminal
    exact List.perm_nil.mp (hnil ▸ hperm)
  active_newest hterminal := by
    have hperm := (k.arrange_verifiers_perm.filter fun v => v.status == .active).map
      CredentialVerifier.generation
    have hone : k.active.map CredentialVerifier.generation = [k.generationHighWater] :=
      h.active_newest hterminal
    exact List.perm_singleton.mp (hone ▸ hperm)

/-- **The arranged key is accepted exactly when its verifiers are ordered by text.** -/
theorem arrange_validate_iff {k : ClientKeyRecord} (hk : k.validate = .ok ()) :
    k.arrange.validate = .ok () ↔ k.TextOrdered := by
  obtain ⟨hsound, hcredentials, hlegacies⟩ := validate_eq_ok_iff.mp hk
  have hnd : (k.credentialVerifiers.map CredentialVerifier.generation).Nodup ∧
      (k.legacyVerifiers.map CredentialVerifier.generation).Nodup := by
    have hall := hsound.generations_nodup
    rw [verifiers, List.map_append] at hall
    exact ⟨hall.of_append_left, hall.of_append_right⟩
  have hcanonical : generationsIncreasing k.arrange.credentialVerifiers ↔
      k.credentialVerifiers.Pairwise CredentialVerifier.textLt :=
    generationsIncreasing_sortOn_iff hsound.credentialCount hcredentials hnd.1
      (fun _ _ => CredentialVerifier.textLt_total)
      fun _ _ _ _ => CredentialVerifier.serializedKey_lt_of_textLt
  have hhex : ∀ v ∈ k.legacyVerifiers, isHex64 v.secretHex = true := fun v hv => by
    have hv' := hsound.legacies v hv
    simp only [LegacyClientCredentialVerifier.validate, CredentialVerifier.validate,
      bind_eq_ok_iff, requireField_eq_ok_iff, requireValue_eq_ok_iff, exists_const] at hv'
    exact hv'.2.1
  have hlegacy : generationsIncreasing k.arrange.legacyVerifiers ↔
      k.legacyVerifiers.Pairwise CredentialVerifier.legacyTextLt :=
    generationsIncreasing_sortOn_iff hsound.legacyCount hlegacies hnd.2
      (fun _ _ => CredentialVerifier.legacyTextLt_total)
      fun v hv w hw => CredentialVerifier.serializedKey_lt_of_legacyTextLt (hhex v hv) (hhex w hw)
  rw [validate_eq_ok_iff, hcanonical, hlegacy]
  exact ⟨fun h => ⟨h.2.1, h.2.2⟩, fun h => ⟨hsound.arrange, h.credentials, h.legacies⟩⟩

end ClientKeyRecord

end LlmMaxxing
