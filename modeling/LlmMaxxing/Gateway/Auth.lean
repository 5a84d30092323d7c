import LlmMaxxing.Core.KeyMaterial
import LlmMaxxing.Gateway.RouteEngine

/-!
# Client-key verification (`gateway/auth.py`)

A presented credential is checked against the verifiers of the record it names, canonical tokens
by their key id and legacy tokens through a fingerprint index. Queued work is checked again by the
generation it was accepted with. `hmac` is HMAC-SHA256.
-/

namespace LlmMaxxing

open Check Json KeyMaterial

/-! ## Verifier material (`core/key_material.py`) -/

/-- `CLIENT_KEY_DOMAIN`. -/
def clientKeyDomain : Json.Bytes := utf8 "llmmaxxing-client-key-v1\x00".toList

/-- `LEGACY_CLIENT_KEY_DOMAIN`. -/
def legacyClientKeyDomain : Json.Bytes := utf8 "llmmaxxing-legacy-client-key-v1\x00".toList

/-- What verification raises. -/
inductive AuthError where
  | clientAuthentication
  | valueError (message : String)
  deriving DecidableEq, Repr

/-- `bytes.fromhex`. -/
def fromHex : List Char → Option Json.Bytes
  | [] => some []
  | a :: b :: rest => do
    let high ← hexValue? a
    let low ← hexValue? b
    let tail ← fromHex rest
    return UInt8.ofNat (high * 16 + low) :: tail
  | [_] => none

/-- `bytes.fromhex` of a stored digest. -/
def storedDigest (text : String) : Except AuthError Json.Bytes :=
  match fromHex text.toList with
  | some b => .ok b
  | none => .error (.valueError "non-hexadecimal number found in fromhex() arg")

section Verify

variable (hmac : Json.Bytes → Json.Bytes → Json.Bytes)

/-- `compute_client_key_verifier`. -/
def computeClientKeyVerifier (pepper keyId secret : Json.Bytes) : Except AuthError Json.Bytes := do
  require (keyId.length = keyIdBytes ∧ secret.length = secretBytes)
    (AuthError.valueError "client key verifier requires 128-bit ID and 256-bit secret")
  return hmac pepper (clientKeyDomain ++ keyId ++ secret)

/-- `compute_legacy_key_fingerprint`. -/
def computeLegacyKeyFingerprint (pepper token : Json.Bytes) : Except AuthError Json.Bytes := do
  require (32 ≤ pepper.length ∧ token.length ≤ maxLegacyTokenBytes ∧
      token.take 3 = utf8 "sk-".toList)
    (AuthError.valueError "invalid legacy client key fingerprint input")
  return hmac pepper (legacyClientKeyDomain ++ token)

/-! ## The runtime view -/

structure LegacyKeyIndexEntry where
  keyId : String
  credentialGeneration : Nat
  deriving DecidableEq

/-- `AuthRuntimeView`. A record is indexed under its own key id. -/
structure AuthRuntimeView where
  keyIndex : Dict String ClientKeyRecord
  appliedBundleGeneration : Nat
  appliedBundleHash : BundleHash
  deniedKeyIds : List String
  acceptedPeppers : Dict String Json.Bytes
  legacyKeyIndex : Dict String LegacyKeyIndexEntry
  trustedNowS : Nat
  own_ids : ∀ k record, keyIndex.get? k = some record → record.keyId = k

/-- `_ACCEPTED_STATUSES`. -/
def CredentialVerifierStatus.isAccepted : CredentialVerifierStatus → Bool
  | .active | .retiring => true
  | .retired | .expired => false

namespace AuthRuntimeView

variable (view : AuthRuntimeView)

/-- `_credential_is_accepted`. -/
def credentialIsAccepted (v : CredentialVerifier) (record : ClientKeyRecord) : Bool :=
  v.status.isAccepted && view.acceptedPeppers.contains v.pepperVersion &&
    (v.notBeforeS ≤ view.trustedNowS && view.trustedNowS < v.notAfterS) &&
    view.trustedNowS < record.expiresAtS

/-- `pepper_set_is_valid`. -/
def pepperSetIsValid : Bool :=
  1 ≤ view.acceptedPeppers.entries.length && view.acceptedPeppers.entries.length ≤ 2 &&
    view.acceptedPeppers.entries.all fun q => 32 ≤ q.2.length

/-- The checks on a record whose credential matched. -/
def admits (record : ClientKeyRecord) : Bool :=
  record.state == .enabled && view.pepperSetIsValid && !view.deniedKeyIds.contains record.keyId &&
    view.trustedNowS < record.expiresAtS

/-- `_authenticated`. -/
def authenticated (record : ClientKeyRecord) (generation : Nat) : AuthenticatedClient where
  keyId := record.keyId
  acceptedCredentialGeneration := generation
  policyId := record.policyId
  keyState := record.state
  keyExpiresAtS := record.expiresAtS
  appliedBundleGeneration := view.appliedBundleGeneration
  appliedBundleHash := view.appliedBundleHash

end AuthRuntimeView

/-! ## Canonical credentials -/

/-- `_DUMMY_PEPPER`. -/
def dummyPepper : Json.Bytes := List.replicate 32 0

/-- `_DUMMY_CREDENTIALS`. -/
def dummyCredential (index : Nat) : ClientCredentialVerifier where
  generation := index + 1
  secretHex := String.ofList (List.replicate 64 (if index = 0 then '0' else 'f'))
  pepperVersion := if index = 0 then "dummy-1" else "dummy-2"
  notBeforeS := index + 1
  notAfterS := index + 2
  status := .retired

/-- The verifier of one of the two slots: a dummy where the record has none. -/
def verifierSlot (record : Option ClientKeyRecord) (index : Nat) : ClientCredentialVerifier :=
  ((record.bind fun r => r.credentialVerifiers[index]?).getD (dummyCredential index))

/-- One turn of the loop of `verify_client_key`: the generation accepted so far. -/
def verifySlot (view : AuthRuntimeView) (parsed : ParsedClientKey)
    (record : Option ClientKeyRecord) (accepted : Option Nat) (index : Nat) :
    Except AuthError (Option Nat) := do
  let v := verifierSlot record index
  let fallback := (view.acceptedPeppers.entries.head?.map Prod.snd).getD dummyPepper
  let pepper := (view.acceptedPeppers.get? v.pepperVersion).getD fallback
  let expected ← storedDigest v.secretHex
  let candidate ← computeClientKeyVerifier hmac pepper parsed.keyIdBytes parsed.secret
  match record with
  | some r =>
    if candidate = expected ∧ view.credentialIsAccepted v r = true then return some v.generation
    else return accepted
  | none => return accepted

/-- `verify_client_key` on a canonical credential. -/
def verifyCanonicalKey (view : AuthRuntimeView) (parsed : ParsedClientKey) :
    Except AuthError AuthenticatedClient := do
  let record := view.keyIndex.get? parsed.keyId
  let accepted ← [0, 1].foldlM (verifySlot hmac view parsed record) none
  match record, accepted with
  | some r, some generation =>
    require (view.admits r = true) AuthError.clientAuthentication
    return view.authenticated r generation
  | _, _ => .error .clientAuthentication

/-! ## Legacy credentials -/

/-- `_legacy_index_key`. -/
def legacyIndexKey (pepperVersion fingerprintHex : String) : String :=
  pepperVersion ++ ":" ++ fingerprintHex

/-- The two pepper slots: the accepted ones, then dummies. -/
def pepperSlots (view : AuthRuntimeView) : List (String × Json.Bytes) :=
  let slots := view.acceptedPeppers.entries.take 2
  slots ++ [("dummy-0", dummyPepper), ("dummy-1", dummyPepper)].take (2 - slots.length)

/-- One turn of the loop of `_verify_legacy_client_key`. -/
def verifyLegacySlot (view : AuthRuntimeView) (token : Json.Bytes)
    (accepted : Option (ClientKeyRecord × Nat)) (slot : String × Json.Bytes) :
    Except AuthError (Option (ClientKeyRecord × Nat)) := do
  let candidate ← computeLegacyKeyFingerprint hmac slot.2 token
  match view.legacyKeyIndex.get? (legacyIndexKey slot.1 (hex candidate)) with
  | none => return accepted
  | some entry =>
    match view.keyIndex.get? entry.keyId with
    | none => return accepted
    | some record =>
      match record.legacyVerifiers.find? fun v => v.generation == entry.credentialGeneration with
      | none => return accepted
      | some v =>
        let expected ← storedDigest v.secretHex
        if candidate = expected ∧ view.credentialIsAccepted v record = true then
          return some (record, v.generation)
        else return accepted

/-- `_verify_legacy_client_key`. -/
def verifyLegacyClientKey (view : AuthRuntimeView) (parsed : ParsedLegacyClientKey) :
    Except AuthError AuthenticatedClient := do
  let accepted ← (pepperSlots view).foldlM (verifyLegacySlot hmac view parsed.token) none
  match accepted with
  | none => .error .clientAuthentication
  | some (record, generation) =>
    require (view.admits record = true) AuthError.clientAuthentication
    return view.authenticated record generation

/-- `verify_client_key`. -/
def verifyClientKey (view : AuthRuntimeView) :
    ParsedClientKey ⊕ ParsedLegacyClientKey → Except AuthError AuthenticatedClient
  | .inl parsed => verifyCanonicalKey hmac view parsed
  | .inr parsed => verifyLegacyClientKey hmac view parsed

end Verify

/-- `queued_identity_is_authorized`. -/
def queuedIdentityIsAuthorized (client : AuthenticatedClient) (view : AuthRuntimeView) : Bool :=
  match view.keyIndex.get? client.keyId with
  | none => false
  | some record =>
    record.state == .enabled && record.policyId == client.policyId &&
      !view.deniedKeyIds.contains record.keyId && view.trustedNowS < record.expiresAtS &&
      record.verifiers.any fun v =>
        v.generation == client.acceptedCredentialGeneration && view.credentialIsAccepted v record

/-! ## Whom verification lets in -/

section Laws

variable {hmac : Json.Bytes → Json.Bytes → Json.Bytes} {view : AuthRuntimeView}
  {client : AuthenticatedClient}

/-- A verified client has an enabled record under its key id. -/
theorem enabled_of_verifyClientKey {parsed : ParsedClientKey ⊕ ParsedLegacyClientKey}
    (h : verifyClientKey hmac view parsed = .ok client) :
    ∃ record, view.keyIndex.get? client.keyId = some record ∧ record.state = .enabled := by
  have hstate : ∀ {record}, view.admits record = true → record.state = .enabled := by
    intro record hadmits
    simp only [AuthRuntimeView.admits, Bool.and_eq_true, beq_iff_eq] at hadmits
    exact hadmits.1.1.1
  cases parsed with
  | inl parsed =>
    simp only [verifyClientKey, verifyCanonicalKey, bind_eq_ok_iff] at h
    obtain ⟨accepted, -, h⟩ := h
    split at h
    · next record generation hget =>
      simp only [bind_eq_ok_iff, require_eq_ok_iff, exists_unit_and_iff, pure_eq_ok,
        Except.ok.injEq] at h
      obtain ⟨hadmits, rfl⟩ := h
      have hid : record.keyId = parsed.keyId := view.own_ids _ _ hget
      exact ⟨record, by rw [AuthRuntimeView.authenticated, hid]; exact hget, hstate hadmits⟩
    · cases h
  | inr parsed =>
    simp only [verifyClientKey, verifyLegacyClientKey, bind_eq_ok_iff] at h
    obtain ⟨accepted, hfold, h⟩ := h
    -- every record the loop keeps was found in the index
    have hindexed : ∀ q ∈ accepted, view.keyIndex.get? q.1.keyId = some q.1 := by
      refine foldlM_keeps (P := fun s => ∀ q ∈ s, view.keyIndex.get? q.1.keyId = some q.1) ?_ hfold
        (by simp)
      intro slot _ s s' hslot hs
      simp only [verifyLegacySlot, bind_eq_ok_iff] at hslot
      obtain ⟨candidate, -, hslot⟩ := hslot
      split at hslot
      · cases hslot; exact hs
      · split at hslot
        · cases hslot; exact hs
        · next record hget =>
          split at hslot
          · cases hslot; exact hs
          · simp only [bind_eq_ok_iff] at hslot
            obtain ⟨expected, -, hslot⟩ := hslot
            split at hslot
            · cases hslot
              intro q hq
              cases hq
              rw [view.own_ids _ _ hget]
              exact hget
            · cases hslot; exact hs
    cases accepted with
    | none => cases h
    | some q =>
      simp only [bind_eq_ok_iff, require_eq_ok_iff, exists_unit_and_iff, pure_eq_ok,
        Except.ok.injEq] at h
      obtain ⟨hadmits, rfl⟩ := h
      exact ⟨q.1, hindexed q rfl, hstate hadmits⟩

/-- Queued work goes on only under an enabled record. -/
theorem enabled_of_queuedIdentityIsAuthorized
    (h : queuedIdentityIsAuthorized client view = true) :
    ∃ record, view.keyIndex.get? client.keyId = some record ∧ record.state = .enabled := by
  unfold queuedIdentityIsAuthorized at h
  split at h
  · cases h
  · next record hget =>
    simp only [Bool.and_eq_true, beq_iff_eq] at h
    exact ⟨record, hget, h.1.1.1.1⟩

end Laws

end LlmMaxxing
