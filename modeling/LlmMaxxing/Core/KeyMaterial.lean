import LlmMaxxing.Lib.Base64
import LlmMaxxing.Lib.Check

/-!
# Client-key grammar (`core/key_material.py`)

A canonical token is `lmxk1.`, the key id and the secret, both in unpadded URL-safe base64. The
decoder drops spare bits, so the parser encodes what it decoded and compares: a token has one
spelling. A legacy token is a bounded printable `sk-` text that is taken as it is.
-/

namespace LlmMaxxing.KeyMaterial

open Base64 Check

/-- A byte string. -/
abbrev Bytes := List UInt8

/-- `_KEY_ID_BYTES`. -/
def keyIdBytes : Nat := 16

/-- `_SECRET_BYTES`. -/
def secretBytes : Nat := 32

/-- `_MAX_LEGACY_TOKEN_BYTES`. -/
def maxLegacyTokenBytes : Nat := 512

/-- Exceptions of the module. -/
inductive KeyMaterialError where
  | invalidClientKeyMaterial (message : String)
  | valueError (message : String)
  deriving DecidableEq, Repr

/-- `InvalidClientKeyMaterial("invalid client key")`. -/
def invalidClientKey : KeyMaterialError := .invalidClientKeyMaterial "invalid client key"

/-- `bytes.hex()`. -/
def hex (b : Bytes) : String :=
  String.ofList (b.flatMap fun x => [(x.toNat / 16).digitChar, (x.toNat % 16).digitChar])

structure ParsedClientKey where
  keyId : String
  keyIdBytes : Bytes
  secret : Bytes
  deriving DecidableEq

structure ParsedLegacyClientKey where
  token : Bytes
  deriving DecidableEq

/-! ## Canonical tokens -/

/-- `_encode`. -/
def encodeUnpadded (value : Bytes) : List Char := unpad (encode value)

/-- `_decode_canonical`. -/
def decodeCanonical (value : List Char) (expectedBytes : Nat) : Except KeyMaterialError Bytes :=
  match decode (repad value) with
  | none => .error invalidClientKey
  | some decoded => do
    require (decoded.length = expectedBytes ∧ encodeUnpadded decoded = value) invalidClientKey
    return decoded

/-- `_TOKEN_RE.fullmatch(value)` and its two groups. -/
def tokenGroups (value : List Char) : Option (List Char × List Char) :=
  let keyId := (value.drop 6).take 22
  let secret := value.drop 29
  if value.take 6 = "lmxk1.".toList ∧ (keyId.length = 22 ∧ keyId.all isSymbol = true) ∧
      value[28]? = some '.' ∧ (secret.length = 43 ∧ secret.all isSymbol = true) then
    some (keyId, secret)
  else none

/-- `parse_client_key_material`. -/
def parseClientKeyMaterial (value : String) : Except KeyMaterialError ParsedClientKey :=
  match tokenGroups value.toList with
  | none => .error invalidClientKey
  | some (first, second) => do
    let id ← decodeCanonical first keyIdBytes
    let secret ← decodeCanonical second secretBytes
    return { keyId := hex id, keyIdBytes := id, secret := secret }

/-- `format_client_key`. -/
def formatClientKey (keyId secret : Bytes) : Except KeyMaterialError String := do
  require (keyId.length = keyIdBytes ∧ secret.length = secretBytes)
    (.valueError "client key requires 128-bit ID and 256-bit secret")
  return String.ofList
    ("lmxk1.".toList ++ encodeUnpadded keyId ++ ['.'] ++ encodeUnpadded secret)

/-! ## Legacy tokens -/

/-- `_LEGACY_TOKEN_RE.fullmatch(value)`: `sk-` and 5 to 509 of `[\x21-\x7e]`. -/
def isLegacyToken (value : List Char) : Bool :=
  value.take 3 == "sk-".toList &&
    (5 ≤ (value.drop 3).length && (value.drop 3).length ≤ 509 &&
      (value.drop 3).all fun c => 0x21 ≤ c.toNat && c.toNat ≤ 0x7e)

/-- `value.encode("ascii")`. -/
def encodeAscii (value : List Char) : Option Bytes :=
  if value.all fun c => c.toNat < 128 then some (value.map fun c => UInt8.ofNat c.toNat) else none

/-- `parse_legacy_client_key_material`. -/
def parseLegacyClientKeyMaterial (value : String) : Except KeyMaterialError ParsedLegacyClientKey :=
  match encodeAscii value.toList with
  | none => .error invalidClientKey
  | some encoded => do
    require (isLegacyToken value.toList = true ∧ encoded.length ≤ maxLegacyTokenBytes ∧
      ¬ encoded.any fun b => b.toNat ≤ 0x20 ∨ b.toNat = 0x7f) invalidClientKey
    return ⟨encoded⟩

/-! ## Round trips -/

theorem encodeUnpadded_eq (b : Bytes) : encodeUnpadded b = encodeBody b := unpad_encode b

/-- What the parser of one field accepts: the one spelling of bytes of the expected length. -/
theorem decodeCanonical_eq_ok_iff {value : List Char} {n : Nat} {b : Bytes} :
    decodeCanonical value n = .ok b ↔ b.length = n ∧ encodeUnpadded b = value := by
  constructor
  · intro h
    unfold decodeCanonical at h
    split at h
    · cases h
    · next decoded _ =>
      simp only [bind_eq_ok_iff, require_eq_ok_iff, exists_unit_and_iff, pure_eq_ok,
        Except.ok.injEq] at h
      obtain ⟨hchecks, rfl⟩ := h
      exact hchecks
  · rintro ⟨hlen, rfl⟩
    have hdecode : decode (repad (encodeUnpadded b)) = some b := by
      rw [encodeUnpadded_eq, repad_encodeBody, decode_encode]
    rw [decodeCanonical, hdecode]
    simp [hlen]

/-- The pattern takes a token apart exactly where `format_client_key` put it together. -/
theorem tokenGroups_eq_some_iff {value first second : List Char} :
    tokenGroups value = some (first, second) ↔
      value = "lmxk1.".toList ++ first ++ ['.'] ++ second ∧
        (first.length = 22 ∧ first.all isSymbol = true) ∧
        (second.length = 43 ∧ second.all isSymbol = true) := by
  constructor
  · intro h
    unfold tokenGroups at h
    simp only at h
    split at h
    · next hmatch =>
      obtain ⟨htag, hfirst, hdot, hsecond⟩ := hmatch
      simp only [Option.some.injEq, Prod.mk.injEq] at h
      obtain ⟨rfl, rfl⟩ := h
      refine ⟨?_, hfirst, hsecond⟩
      obtain ⟨hlt, hget⟩ := List.getElem?_eq_some_iff.mp hdot
      have hrest : value.drop 28 = '.' :: value.drop 29 := by
        rw [List.drop_eq_getElem_cons hlt, hget]
      have hmid : value.drop 6 = (value.drop 6).take 22 ++ '.' :: value.drop 29 := by
        conv_lhs => rw [← List.take_append_drop 22 (value.drop 6), List.drop_drop, hrest]
      conv_lhs => rw [← List.take_append_drop 6 value, htag, hmid]
      simp
    · cases h
  · rintro ⟨rfl, hfirst, hsecond⟩
    have htag : "lmxk1.".toList.length = 6 := by decide
    unfold tokenGroups
    have hid : (("lmxk1.".toList ++ first ++ ['.'] ++ second).drop 6).take 22 = first := by
      rw [List.append_assoc, List.append_assoc, ← htag, List.drop_left, ← hfirst.1, List.take_left]
    have hsecret : ("lmxk1.".toList ++ first ++ ['.'] ++ second).drop 29 = second := by
      have hlen : ("lmxk1.".toList ++ first ++ ['.']).length = 29 := by simp [hfirst.1]
      rw [← hlen, List.drop_left]
    have hdot : ("lmxk1.".toList ++ first ++ ['.'] ++ second)[28]? = some '.' := by
      have hlen : ("lmxk1.".toList ++ first).length = 28 := by simp [hfirst.1]
      rw [List.append_assoc _ ['.'], List.getElem?_append_right (by omega), hlen]
      rfl
    have hlead : ("lmxk1.".toList ++ first ++ ['.'] ++ second).take 6 = "lmxk1.".toList := by
      rw [List.append_assoc, List.append_assoc, ← htag, List.take_left]
    simp only [hid, hsecret, hdot, hlead]
    rw [if_pos ⟨trivial, hfirst, trivial, hsecond⟩]

theorem encodeUnpadded_shape (b : Bytes) :
    (encodeUnpadded b).length = (8 * b.length + 5) / 6 ∧ (encodeUnpadded b).all isSymbol = true := by
  rw [encodeUnpadded_eq, List.all_eq_true]
  exact ⟨length_encodeBody b, isSymbol_of_mem_encodeBody⟩

/-- What the parser accepts: the text `format_client_key` gives, and nothing else. -/
theorem parseClientKeyMaterial_eq_ok_iff {token : String} {p : ParsedClientKey} :
    parseClientKeyMaterial token = .ok p ↔
      p.keyId = hex p.keyIdBytes ∧ formatClientKey p.keyIdBytes p.secret = .ok token := by
  obtain ⟨keyId, id, secret⟩ := p
  have hformat : formatClientKey id secret = .ok token ↔
      (id.length = 16 ∧ secret.length = 32) ∧
        token.toList = "lmxk1.".toList ++ encodeUnpadded id ++ ['.'] ++ encodeUnpadded secret := by
    simp only [formatClientKey, bind_eq_ok_iff, require_eq_ok_iff, exists_unit_and_iff, pure_eq_ok,
      Except.ok.injEq]
    refine and_congr_right fun _ => ?_
    rw [← String.toList_inj, String.toList_ofList]
    exact eq_comm
  rw [hformat]
  constructor
  · intro h
    unfold parseClientKeyMaterial at h
    split at h
    · cases h
    · next first second hgroups =>
      simp only [bind_eq_ok_iff, pure_eq_ok, Except.ok.injEq, ParsedClientKey.mk.injEq,
        decodeCanonical_eq_ok_iff] at h
      obtain ⟨_, ⟨hid, rfl⟩, _, ⟨hsecret, rfl⟩, hkey, rfl, rfl⟩ := h
      exact ⟨hkey.symm, ⟨hid, hsecret⟩, (tokenGroups_eq_some_iff.mp hgroups).1⟩
  · rintro ⟨hkey, ⟨hid, hsecret⟩, htoken⟩
    have hfirst := encodeUnpadded_shape id
    have hsecond := encodeUnpadded_shape secret
    rw [hid] at hfirst
    rw [hsecret] at hsecond
    have hgroups := tokenGroups_eq_some_iff.mpr ⟨htoken, hfirst, hsecond⟩
    have hfirst' : decodeCanonical (encodeUnpadded id) keyIdBytes = .ok id :=
      decodeCanonical_eq_ok_iff.mpr ⟨hid, rfl⟩
    have hsecond' : decodeCanonical (encodeUnpadded secret) secretBytes = .ok secret :=
      decodeCanonical_eq_ok_iff.mpr ⟨hsecret, rfl⟩
    simp only at hkey
    rw [parseClientKeyMaterial, hgroups]
    simp only [hfirst', hsecond', ok_bind, pure_eq_ok, hkey]

/-- The first character tells the two grammars apart. -/
theorem head_of_parseClientKeyMaterial {token : String} {p : ParsedClientKey}
    (h : parseClientKeyMaterial token = .ok p) : token.toList.head? = some 'l' := by
  unfold parseClientKeyMaterial at h
  split at h
  · cases h
  · next hgroups =>
    rw [(tokenGroups_eq_some_iff.mp hgroups).1]
    rfl

theorem head_of_parseLegacy {token : String} {p : ParsedLegacyClientKey}
    (h : parseLegacyClientKeyMaterial token = .ok p) : token.toList.head? = some 's' := by
  unfold parseLegacyClientKeyMaterial at h
  split at h
  · cases h
  · simp only [bind_eq_ok_iff, require_eq_ok_iff, exists_unit_and_iff, isLegacyToken,
      Bool.and_eq_true, beq_iff_eq] at h
    have hlead : token.toList.take 3 = "sk-".toList := h.1.1.1
    cases htoken : token.toList with
    | nil =>
      rw [htoken] at hlead
      cases hlead
    | cons c rest =>
      rw [htoken] at hlead
      injection hlead with hc _
      rw [hc]
      rfl

/-- **A client key has one token, and a token one client key.** Formatting and parsing a key gives
it back; every token the parser accepts is the one that formatting gives; and no token is read by
both grammars. -/
theorem client_key_tokens_round_trip :
    (∀ id secret : Bytes, id.length = 16 → secret.length = 32 →
      ∃ token, formatClientKey id secret = .ok token ∧
        parseClientKeyMaterial token = .ok ⟨hex id, id, secret⟩) ∧
    (∀ token p, parseClientKeyMaterial token = .ok p →
      formatClientKey p.keyIdBytes p.secret = .ok token) ∧
    (∀ token p legacy, parseClientKeyMaterial token = .ok p →
      parseLegacyClientKeyMaterial token ≠ .ok legacy) := by
  refine ⟨fun id secret hid hsecret => ?_, fun token p h => ?_, fun token p legacy h hlegacy => ?_⟩
  · have hformat : ∃ token, formatClientKey id secret = .ok token :=
      ⟨_, by rw [formatClientKey, require, if_pos ⟨hid, hsecret⟩]; rfl⟩
    obtain ⟨token, htoken⟩ := hformat
    exact ⟨token, htoken, parseClientKeyMaterial_eq_ok_iff.mpr ⟨rfl, htoken⟩⟩
  · exact (parseClientKeyMaterial_eq_ok_iff.mp h).2
  · have hl := head_of_parseClientKeyMaterial h
    rw [head_of_parseLegacy hlegacy] at hl
    cases hl

end LlmMaxxing.KeyMaterial
