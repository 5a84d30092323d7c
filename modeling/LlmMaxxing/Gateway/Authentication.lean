import LlmMaxxing.Core.SampleBundle
import LlmMaxxing.Core.VerifierOrder
import LlmMaxxing.Gateway.Auth

/-!
# Authentication against its specification (`gateway/auth.py`)

`Authentic` says when a record and one of its verifiers answer for a token: the record is enabled,
not denied and live, the verifier is accepted, and its digest is that of the token under the pepper
it names. `verify_client_key` goes through two slots and keeps the last that matches. For a canonical
token both slots are verifiers of one record, and the specification is met. For a legacy token the
slots are peppers, and each may find another credential: `authentication_meets_spec_iff`.
-/

namespace LlmMaxxing

open Check KeyMaterial

/-! ## Stored digests -/

theorem fromHex_hex (b : Json.Bytes) : fromHex (hex b).toList = some b := by
  rw [hex, String.toList_ofList]
  induction b with
  | nil => rfl
  | cons x rest ih =>
    have hhigh : x.toNat / 16 < 16 := by
      have := x.toNat_lt
      omega
    have hlow : x.toNat % 16 < 16 := Nat.mod_lt _ (by decide)
    have hbyte : UInt8.ofNat (x.toNat / 16 * 16 + x.toNat % 16) = x := by
      rw [Nat.div_add_mod' x.toNat 16, UInt8.ofNat_toNat]
    have hh := Json.hexValue?_hexDigit _ hhigh
    have hl := Json.hexValue?_hexDigit _ hlow
    simp only [Json.hexDigit] at hh hl
    rw [List.flatMap_cons, List.cons_append, List.cons_append, List.nil_append, fromHex, ih]
    simp only [hh, hl, Option.bind_eq_bind, Option.bind_some, hbyte, Option.pure_def]

theorem hex_injective {b b' : Json.Bytes} (h : hex b = hex b') : b = b' := by
  have hb := fromHex_hex b
  rw [h, fromHex_hex] at hb
  exact (Option.some.inj hb).symm

theorem exists_digitChar {c : Char} (h : isLowerHex c = true) : ∃ k < 16, Nat.digitChar k = c := by
  have hall : ∀ n : Fin 103, isLowerHex (Char.ofNat n) = true →
      ∃ k : Fin 16, Nat.digitChar k = Char.ofNat n := by decide
  have hrange := CredentialVerifier.toNat_of_isLowerHex h
  obtain ⟨k, hk⟩ := hall ⟨c.toNat, by omega⟩ (by simpa using h)
  exact ⟨k, k.isLt, by simpa using hk⟩

/-- Lower-case hexadecimal text of even length is the text of some bytes. -/
theorem exists_hex {n : Nat} {cs : List Char} (h : isHexOfLength (2 * n) cs = true) :
    ∃ b : Json.Bytes, b.length = n ∧ (hex b).toList = cs := by
  simp only [isHexOfLength, Bool.and_eq_true, beq_iff_eq, List.all_eq_true] at h
  obtain ⟨hlen, hall⟩ := h
  induction n generalizing cs with
  | zero => exact ⟨[], rfl, by rw [List.length_eq_zero_iff.mp hlen]; rfl⟩
  | succ n ih =>
    -- the two digits of the first byte
    obtain ⟨a, cs, rfl⟩ := List.exists_cons_of_length_pos (l := cs) (by omega)
    rw [List.length_cons] at hlen
    obtain ⟨c, rest, rfl⟩ := List.exists_cons_of_length_pos (l := cs) (by omega)
    rw [List.length_cons] at hlen
    obtain ⟨b, hb, htext⟩ := @ih rest (by omega)
      fun x hx => hall x (List.mem_cons_of_mem _ (List.mem_cons_of_mem _ hx))
    obtain ⟨high, hhigh, rfl⟩ := exists_digitChar (hall a List.mem_cons_self)
    obtain ⟨low, hlow, rfl⟩ :=
      exists_digitChar (hall c (List.mem_cons_of_mem _ List.mem_cons_self))
    have hbyte : (UInt8.ofNat (high * 16 + low)).toNat = high * 16 + low := by
      rw [UInt8.toNat_ofNat']
      omega
    refine ⟨UInt8.ofNat (high * 16 + low) :: b, by rw [List.length_cons, hb], ?_⟩
    rw [hex, String.toList_ofList] at htext ⊢
    rw [List.flatMap_cons, htext, hbyte]
    have hdiv : (high * 16 + low) / 16 = high := by omega
    have hmod : (high * 16 + low) % 16 = low := by omega
    rw [hdiv, hmod]
    rfl

/-- A stored digest is the bytes whose text it is. -/
theorem storedDigest_eq_ok_iff {text : String} (h : isHex64 text = true) {b : Json.Bytes} :
    storedDigest text = .ok b ↔ text = hex b := by
  obtain ⟨b', -, htext⟩ := exists_hex (n := 32) h
  have htext : hex b' = text := String.toList_inj.mp htext
  rw [← htext, storedDigest, fromHex_hex]
  constructor
  · intro heq
    rw [Except.ok.inj heq]
  · intro heq
    rw [hex_injective heq]

theorem exists_storedDigest {text : String} (h : isHex64 text = true) :
    ∃ b, storedDigest text = .ok b := by
  obtain ⟨b, -, htext⟩ := exists_hex (n := 32) h
  exact ⟨b, (storedDigest_eq_ok_iff h).mpr (String.toList_inj.mp htext).symm⟩

/-! ## The legacy index -/

/-- One verifier of `build_legacy_key_index`. -/
def indexLegacyVerifier (record : ClientKeyRecord) (index : Dict String LegacyKeyIndexEntry)
    (v : LegacyClientCredentialVerifier) : Except AuthError (Dict String LegacyKeyIndexEntry) :=
  if index.contains (legacyIndexKey v.pepperVersion v.secretHex) then
    .error (.valueError "duplicate legacy credential fingerprint")
  else
    .ok (index.insert (legacyIndexKey v.pepperVersion v.secretHex) ⟨record.keyId, v.generation⟩)

/-- `build_legacy_key_index`. -/
def buildLegacyKeyIndex (records : List ClientKeyRecord) :
    Except AuthError (Dict String LegacyKeyIndexEntry) :=
  records.foldlM
    (fun index record => record.legacyVerifiers.foldlM (indexLegacyVerifier record) index)
    Dict.empty

/-- The verifiers indexed by a list of records, each with its record. -/
def legacyPairs (records : List ClientKeyRecord) :
    List (ClientKeyRecord × LegacyClientCredentialVerifier) :=
  records.flatMap fun record => record.legacyVerifiers.map fun v => (record, v)

theorem mem_legacyPairs {records : List ClientKeyRecord} {record : ClientKeyRecord}
    {v : LegacyClientCredentialVerifier} :
    (record, v) ∈ legacyPairs records ↔ record ∈ records ∧ v ∈ record.legacyVerifiers := by
  simp only [legacyPairs, List.mem_flatMap, List.mem_map, Prod.mk.injEq]
  constructor
  · rintro ⟨record, hrecord, v, hv, rfl, rfl⟩
    exact ⟨hrecord, hv⟩
  · rintro ⟨hrecord, hv⟩
    exact ⟨record, hrecord, v, hv, rfl, rfl⟩

/-- The index key and the entry of a verifier. -/
def legacyEntry (q : ClientKeyRecord × LegacyClientCredentialVerifier) :
    String × LegacyKeyIndexEntry :=
  (legacyIndexKey q.2.pepperVersion q.2.secretHex, ⟨q.1.keyId, q.2.generation⟩)

/-- The index holds the entries of the pairs. -/
def Indexes (pairs : List (ClientKeyRecord × LegacyClientCredentialVerifier))
    (index : Dict String LegacyKeyIndexEntry) : Prop :=
  ∀ k e, index.get? k = some e ↔ ∃ q ∈ pairs, legacyEntry q = (k, e)

theorem indexes_step {pairs : List (ClientKeyRecord × LegacyClientCredentialVerifier)}
    {index index' : Dict String LegacyKeyIndexEntry} {record : ClientKeyRecord}
    {v : LegacyClientCredentialVerifier} (hi : Indexes pairs index)
    (h : indexLegacyVerifier record index v = .ok index') :
    Indexes (pairs ++ [(record, v)]) index' := by
  unfold indexLegacyVerifier at h
  split at h
  · cases h
  · next hfresh =>
    cases h
    have hnone := Dict.contains_eq_false_iff.mp (Bool.eq_false_iff.mpr hfresh)
    intro k e
    rw [Dict.get?_insert]
    split
    · next hk =>
      subst hk
      constructor
      · intro heq
        cases heq
        exact ⟨(record, v), by simp, rfl⟩
      · rintro ⟨q, hq, heq⟩
        rcases List.mem_append.mp hq with hq | hq
        · rw [(hi _ e).mpr ⟨q, hq, heq⟩] at hnone
          cases hnone
        · rw [List.mem_singleton.mp hq] at heq
          cases heq
          rfl
    · next hk =>
      rw [hi]
      constructor
      · rintro ⟨q, hq, heq⟩
        exact ⟨q, List.mem_append_left _ hq, heq⟩
      · rintro ⟨q, hq, heq⟩
        rcases List.mem_append.mp hq with hq | hq
        · exact ⟨q, hq, heq⟩
        · rw [List.mem_singleton.mp hq] at heq
          cases heq
          exact absurd rfl hk

/-- **What the index finds**: the entry of each legacy verifier under its pepper and fingerprint. -/
theorem indexes_of_build {records : List ClientKeyRecord} {index : Dict String LegacyKeyIndexEntry}
    (h : buildLegacyKeyIndex records = .ok index) : Indexes (legacyPairs records) index := by
  refine foldlM_invariant (I := fun before index => Indexes (legacyPairs before) index)
    (fun before record rest _ index index' hstep hi => ?_) h fun k e => ?_
  · have hrun := foldlM_invariant
      (I := fun vs index =>
        Indexes (legacyPairs before ++ vs.map fun v => (record, v)) index)
      (fun vs v _ _ index index' hv hi => ?_) hstep (by simpa using hi)
    · simpa [legacyPairs] using hrun
    · have hone := indexes_step hi hv
      simpa using hone
  · simp [legacyPairs]

/-! ## The specification -/

/-- The verifiers of the token's kind. -/
def ClientKeyRecord.verifiersFor (record : ClientKeyRecord) :
    ParsedClientKey ⊕ ParsedLegacyClientKey → List CredentialVerifier
  | .inl _ => record.credentialVerifiers
  | .inr _ => record.legacyVerifiers

/-- The digest of a token under a pepper. -/
def tokenDigest (hmac : Json.Bytes → Json.Bytes → Json.Bytes) (pepper : Json.Bytes) :
    ParsedClientKey ⊕ ParsedLegacyClientKey → Json.Bytes
  | .inl parsed => hmac pepper (clientKeyDomain ++ parsed.keyIdBytes ++ parsed.secret)
  | .inr parsed => hmac pepper (legacyClientKeyDomain ++ parsed.token)

/-- A token as `parse_client_key` returns it. -/
def IsParsed : ParsedClientKey ⊕ ParsedLegacyClientKey → Prop
  | .inl parsed => ∃ value, parseClientKeyMaterial value = .ok parsed
  | .inr parsed => ∃ value, parseLegacyClientKeyMaterial value = .ok parsed

/-- The view serves valid records, with the index built from them, each in any order. -/
structure AuthRuntimeView.Serves (view : AuthRuntimeView) : Prop where
  valid : ∀ record ∈ view.keyIndex.values, record.validate = .ok ()
  indexed : ∃ records index, records.Perm view.keyIndex.values ∧
    buildLegacyKeyIndex records = .ok index ∧ index.entries.Perm view.legacyKeyIndex.entries

/-- A record and one of its verifiers answer for the token. -/
structure Authentic (hmac : Json.Bytes → Json.Bytes → Json.Bytes) (view : AuthRuntimeView)
    (token : ParsedClientKey ⊕ ParsedLegacyClientKey) (record : ClientKeyRecord)
    (v : CredentialVerifier) : Prop where
  indexed : view.keyIndex.get? record.keyId = some record
  named : ∀ parsed, token = .inl parsed → record.keyId = parsed.keyId
  enabled : record.state = .enabled
  allowed : record.keyId ∉ view.deniedKeyIds
  live : view.trustedNowS < record.expiresAtS
  kind : v ∈ record.verifiersFor token
  status : v.status = .active ∨ v.status = .retiring
  window : v.notBeforeS ≤ view.trustedNowS ∧ view.trustedNowS < v.notAfterS
  digest : ∃ pepper, view.acceptedPeppers.get? v.pepperVersion = some pepper ∧
    storedDigest v.secretHex = .ok (tokenDigest hmac pepper token)

/-- One or two peppers, each of at least 32 bytes. -/
def AuthRuntimeView.PepperSet (view : AuthRuntimeView) : Prop :=
  1 ≤ view.acceptedPeppers.size ∧ view.acceptedPeppers.size ≤ 2 ∧
    ∀ pepper ∈ view.acceptedPeppers.values, 32 ≤ pepper.length

/-- The same view with its peppers and records in another order. -/
structure AuthRuntimeView.Reordered (view view' : AuthRuntimeView) : Prop where
  peppers : view.acceptedPeppers.entries.Perm view'.acceptedPeppers.entries
  records : view.keyIndex.entries.Perm view'.keyIndex.entries
  legacy : view.legacyKeyIndex.entries.Perm view'.legacyKeyIndex.entries
  generation : view.appliedBundleGeneration = view'.appliedBundleGeneration
  hash : view.appliedBundleHash = view'.appliedBundleHash
  denied : view.deniedKeyIds = view'.deniedKeyIds
  now : view.trustedNowS = view'.trustedNowS

section View

variable {hmac : Json.Bytes → Json.Bytes → Json.Bytes} {view : AuthRuntimeView}
  {record : ClientKeyRecord} {v : CredentialVerifier}

theorem AuthRuntimeView.pepperSetIsValid_iff : view.pepperSetIsValid = true ↔ view.PepperSet := by
  have hall : (view.acceptedPeppers.entries.all fun q => 32 ≤ q.2.length) = true ↔
      ∀ pepper ∈ view.acceptedPeppers.values, 32 ≤ pepper.length := by
    simp only [Dict.values, List.all_eq_true, decide_eq_true_eq, List.mem_map, Prod.exists,
      exists_eq_right, Prod.forall]
    constructor
    · rintro h pepper ⟨version, hmem⟩
      exact h version pepper hmem
    · intro h version pepper hmem
      exact h pepper ⟨version, hmem⟩
  rw [pepperSetIsValid, Bool.and_eq_true, Bool.and_eq_true, hall, decide_eq_true_eq,
    decide_eq_true_eq, and_assoc]
  rfl

theorem AuthRuntimeView.admits_iff : view.admits record = true ↔ record.state = .enabled ∧
    view.PepperSet ∧ record.keyId ∉ view.deniedKeyIds ∧ view.trustedNowS < record.expiresAtS := by
  simp only [admits, Bool.and_eq_true, beq_iff_eq, pepperSetIsValid_iff, Bool.not_eq_true',
    List.contains_eq_mem, decide_eq_false_iff_not, decide_eq_true_eq, and_assoc]

theorem AuthRuntimeView.credentialIsAccepted_iff : view.credentialIsAccepted v record = true ↔
    (v.status = .active ∨ v.status = .retiring) ∧
      (∃ pepper, view.acceptedPeppers.get? v.pepperVersion = some pepper) ∧
      (v.notBeforeS ≤ view.trustedNowS ∧ view.trustedNowS < v.notAfterS) ∧
      view.trustedNowS < record.expiresAtS := by
  have hstatus : v.status.isAccepted = true ↔ v.status = .active ∨ v.status = .retiring := by
    cases v.status <;> decide
  simp only [credentialIsAccepted, Bool.and_eq_true, hstatus, Dict.contains_iff, decide_eq_true_eq,
    and_assoc]

theorem AuthRuntimeView.Serves.indexed_of_get? {k : String} (hget : view.keyIndex.get? k = some record) :
    view.keyIndex.get? record.keyId = some record := by
  rw [view.own_ids k record hget]
  exact hget

theorem AuthRuntimeView.Serves.sound (hs : view.Serves) {k : String}
    (hget : view.keyIndex.get? k = some record) : record.Sound :=
  (ClientKeyRecord.validate_eq_ok_iff.mp (hs.valid record (Dict.mem_values_iff.mpr ⟨k, hget⟩))).1

/-- A verifier of a valid record has a well-formed digest and pepper version. -/
theorem ClientKeyRecord.Sound.wellFormed (h : record.Sound) (hv : v ∈ record.verifiers) :
    isHex64 v.secretHex = true ∧ isPepperVersion v.pepperVersion = true := by
  have hfields : ∀ {name : String}, v.validate name = .ok () →
      isHex64 v.secretHex = true ∧ isPepperVersion v.pepperVersion = true := by
    intro name hok
    simp only [CredentialVerifier.validate, bind_eq_ok_iff, requireField_eq_ok_iff,
      requireValue_eq_ok_iff, exists_unit_and_iff] at hok
    exact ⟨hok.2.1, hok.2.2.1⟩
  rcases List.mem_append.mp hv with hv | hv
  · exact hfields (h.credentials v hv)
  · exact hfields (h.legacies v hv)

theorem ClientKeyRecord.mem_verifiers_of_mem_verifiersFor
    {token : ParsedClientKey ⊕ ParsedLegacyClientKey} (hv : v ∈ record.verifiersFor token) :
    v ∈ record.verifiers := by
  cases token with
  | inl parsed => exact List.mem_append_left _ hv
  | inr parsed => exact List.mem_append_right _ hv

/-- A record has one verifier for a generation. -/
theorem ClientKeyRecord.Sound.verifier_unique {w : CredentialVerifier} (h : record.Sound)
    (hv : v ∈ record.verifiers) (hw : w ∈ record.verifiers) (heq : v.generation = w.generation) :
    v = w :=
  List.inj_on_of_nodup_map h.generations_nodup hv hw heq

/-- What answers for a token is let in again while it is queued. -/
theorem Authentic.queued {token : ParsedClientKey ⊕ ParsedLegacyClientKey}
    (h : Authentic hmac view token record v) :
    queuedIdentityIsAuthorized (view.authenticated record v.generation) view = true := by
  obtain ⟨pepper, hpepper, -⟩ := h.digest
  have haccepted : view.credentialIsAccepted v record = true :=
    AuthRuntimeView.credentialIsAccepted_iff.mpr ⟨h.status, ⟨pepper, hpepper⟩, h.window, h.live⟩
  have hmem := ClientKeyRecord.mem_verifiers_of_mem_verifiersFor h.kind
  have hget : view.keyIndex.get? (view.authenticated record v.generation).keyId = some record := h.indexed
  have hany : (record.verifiers.any fun w =>
      w.generation == (view.authenticated record v.generation).acceptedCredentialGeneration &&
        view.credentialIsAccepted w record) = true :=
    List.any_eq_true.mpr ⟨v, hmem, by simp [AuthRuntimeView.authenticated, haccepted]⟩
  simp only [queuedIdentityIsAuthorized, hget, hany, h.enabled, beq_self_eq_true, Bool.true_and,
    Bool.and_true, Bool.and_eq_true, Bool.not_eq_true', List.contains_eq_mem,
    decide_eq_false_iff_not, decide_eq_true_eq]
  exact ⟨⟨beq_iff_eq.mpr rfl, h.allowed⟩, h.live⟩

theorem Authentic.admits {token : ParsedClientKey ⊕ ParsedLegacyClientKey}
    (h : Authentic hmac view token record v) (hset : view.PepperSet) : view.admits record = true :=
  AuthRuntimeView.admits_iff.mpr ⟨h.enabled, hset, h.allowed, h.live⟩

theorem Authentic.accepted {token : ParsedClientKey ⊕ ParsedLegacyClientKey}
    (h : Authentic hmac view token record v) : view.credentialIsAccepted v record = true := by
  obtain ⟨pepper, hpepper, -⟩ := h.digest
  exact AuthRuntimeView.credentialIsAccepted_iff.mpr ⟨h.status, ⟨pepper, hpepper⟩, h.window, h.live⟩

end View

/-! ## Reordered views -/

namespace AuthRuntimeView.Reordered

variable {hmac : Json.Bytes → Json.Bytes → Json.Bytes} {view view' : AuthRuntimeView}
  {record : ClientKeyRecord} {v : CredentialVerifier}

theorem symm (h : view.Reordered view') : view'.Reordered view :=
  ⟨h.peppers.symm, h.records.symm, h.legacy.symm, h.generation.symm, h.hash.symm, h.denied.symm,
    h.now.symm⟩

theorem entry_eq (h : view.Reordered view') (k : String) :
    view'.legacyKeyIndex.get? k = view.legacyKeyIndex.get? k :=
  (Dict.lookup_eq_of_perm view.legacyKeyIndex.nodup h.legacy).symm

theorem serves (h : view.Reordered view') (hs : view.Serves) : view'.Serves := by
  have hvalues : view.keyIndex.values.Perm view'.keyIndex.values := h.records.map Prod.snd
  obtain ⟨records, index, hperm, hbuild, hindex⟩ := hs.indexed
  exact ⟨fun record hrecord => hs.valid record (hvalues.mem_iff.mpr hrecord),
    records, index, hperm.trans hvalues, hbuild, hindex.trans h.legacy⟩

end AuthRuntimeView.Reordered

/-! ## Canonical tokens -/

section Canonical

variable {hmac : Json.Bytes → Json.Bytes → Json.Bytes} {view : AuthRuntimeView}
  {parsed : ParsedClientKey} {record : ClientKeyRecord}

/-- The verifier is accepted and has the digest of the token under the pepper it names. -/
def hits (hmac : Json.Bytes → Json.Bytes → Json.Bytes) (view : AuthRuntimeView)
    (parsed : ParsedClientKey) (record : ClientKeyRecord) (v : CredentialVerifier) : Bool :=
  view.credentialIsAccepted v record &&
    (view.acceptedPeppers.get? v.pepperVersion).any fun pepper =>
      decide (storedDigest v.secretHex = .ok (tokenDigest hmac pepper (.inl parsed)))

theorem hits_iff {v : CredentialVerifier} : hits hmac view parsed record v = true ↔
    view.credentialIsAccepted v record = true ∧
      ∃ pepper, view.acceptedPeppers.get? v.pepperVersion = some pepper ∧
        storedDigest v.secretHex = .ok (tokenDigest hmac pepper (.inl parsed)) := by
  rw [hits, Bool.and_eq_true, Option.any_eq_true]
  simp only [decide_eq_true_eq]

/-- The generation of the last verifier that hits. -/
def lastHit (hmac : Json.Bytes → Json.Bytes → Json.Bytes) (view : AuthRuntimeView)
    (parsed : ParsedClientKey) (record : ClientKeyRecord) (accepted : Option Nat) :
    List CredentialVerifier → Option Nat
  | [] => accepted
  | v :: rest =>
    lastHit hmac view parsed record
      (if hits hmac view parsed record v = true then some v.generation else accepted) rest

/-- A turn of the loop takes the verifier of the slot if it hits. -/
theorem verifySlot_eq (hkey : parsed.keyIdBytes.length = keyIdBytes)
    (hsecret : parsed.secret.length = secretBytes) {index : Nat} {accepted : Option Nat}
    (hhex : isHex64 (verifierSlot (some record) index).secretHex = true) :
    verifySlot hmac view parsed (some record) accepted index =
      .ok (if hits hmac view parsed record (verifierSlot (some record) index) = true then
        some (verifierSlot (some record) index).generation else accepted) := by
  obtain ⟨expected, hexpected⟩ := exists_storedDigest hhex
  simp only [verifySlot, hexpected, ok_bind, computeClientKeyVerifier]
  rw [require, if_pos ⟨hkey, hsecret⟩]
  simp only [ok_bind, pure_eq_ok]
  generalize verifierSlot (some record) index = v at *
  by_cases haccepted : view.credentialIsAccepted v record = true
  · obtain ⟨-, ⟨pepper, hpepper⟩, -⟩ := AuthRuntimeView.credentialIsAccepted_iff.mp haccepted
    have hsame : hits hmac view parsed record v = true ↔
        hmac pepper (clientKeyDomain ++ parsed.keyIdBytes ++ parsed.secret) = expected := by
      rw [hits_iff, hexpected]
      simp only [haccepted, hpepper, true_and, Option.some.injEq, exists_eq_left', Except.ok.injEq,
        tokenDigest]
      exact eq_comm
    simp only [hpepper, Option.getD_some, haccepted, and_true, hsame]
    split <;> rfl
  · have hnot : ¬ hits hmac view parsed record v = true := fun h => haccepted (hits_iff.mp h).1
    rw [if_neg hnot, if_neg fun h => haccepted h.2]

/-- A dummy verifier never hits. -/
theorem hits_dummy (index : Nat) : hits hmac view parsed record (dummyCredential index) = false := by
  rw [Bool.eq_false_iff]
  intro h
  obtain ⟨hstatus, -⟩ := AuthRuntimeView.credentialIsAccepted_iff.mp (hits_iff.mp h).1
  rcases hstatus with h | h <;> cases h

theorem isHex64_dummy {index : Nat} : isHex64 (dummyCredential index).secretHex = true := by
  simp only [dummyCredential]
  split <;> decide

/-- The canonical verifiers of the record fit the two slots and have digests to compare. -/
structure ClientKeyRecord.Comparable (record : ClientKeyRecord) : Prop where
  count : record.credentialVerifiers.length ≤ 2
  hex : ∀ v ∈ record.credentialVerifiers, isHex64 v.secretHex = true

/-- **The loop keeps the last verifier that hits.** -/
theorem verifySlots_eq (hrecord : record.Comparable) (hkey : parsed.keyIdBytes.length = keyIdBytes)
    (hsecret : parsed.secret.length = secretBytes) :
    [0, 1].foldlM (verifySlot hmac view parsed (some record)) none =
      .ok (lastHit hmac view parsed record none record.credentialVerifiers) := by
  have hhex : ∀ index, isHex64 (verifierSlot (some record) index).secretHex = true := by
    intro index
    unfold verifierSlot
    cases hget : record.credentialVerifiers[index]? with
    | none => simpa [hget] using isHex64_dummy
    | some v =>
      simpa [hget] using hrecord.hex v (List.mem_of_getElem? hget)
  simp only [List.foldlM_cons, List.foldlM_nil, verifySlot_eq hkey hsecret (hhex _), ok_bind,
    pure_eq_ok, Except.ok.injEq]
  have hlen := hrecord.count
  match hvs : record.credentialVerifiers with
  | [] =>
    simp only [verifierSlot, hvs, Option.bind_some, List.getElem?_nil, Option.getD_none, hits_dummy,
      lastHit]
    rfl
  | [v] =>
    simp [verifierSlot, hvs, hits_dummy, lastHit]
  | [v, w] =>
    simp [verifierSlot, hvs, lastHit]
  | _ :: _ :: _ :: _ =>
    rw [hvs] at hlen
    simp only [List.length_cons] at hlen
    omega

/-- **What `verify_client_key` returns on a canonical token.** -/
theorem verifyCanonicalKey_eq_ok_iff
    (hrecord : ∀ record, view.keyIndex.get? parsed.keyId = some record → record.Comparable)
    (hkey : parsed.keyIdBytes.length = keyIdBytes) (hsecret : parsed.secret.length = secretBytes)
    {client : AuthenticatedClient} :
    verifyCanonicalKey hmac view parsed = .ok client ↔
      ∃ record generation, view.keyIndex.get? parsed.keyId = some record ∧
        lastHit hmac view parsed record none record.credentialVerifiers = some generation ∧
        view.admits record = true ∧ client = view.authenticated record generation := by
  unfold verifyCanonicalKey
  cases hget : view.keyIndex.get? parsed.keyId with
  | none =>
    constructor
    · intro h
      simp only [bind_eq_ok_iff] at h
      obtain ⟨accepted, -, h⟩ := h
      cases h
    · rintro ⟨record, generation, h, -⟩
      cases h
  | some record =>
    simp only [verifySlots_eq (hrecord record hget) hkey hsecret, ok_bind]
    cases hlast : lastHit hmac view parsed record none record.credentialVerifiers with
    | none =>
      constructor
      · intro h
        cases h
      · rintro ⟨record', generation, heq, h, -⟩
        cases heq
        rw [hlast] at h
        cases h
    | some generation =>
      simp only [bind_eq_ok_iff, require_eq_ok_iff, exists_unit_and_iff, pure_eq_ok,
        Except.ok.injEq]
      constructor
      · rintro ⟨hadmits, rfl⟩
        exact ⟨record, generation, rfl, hlast, hadmits, rfl⟩
      · rintro ⟨record', generation', heq, h, hadmits, rfl⟩
        cases heq
        rw [hlast] at h
        cases h
        exact ⟨hadmits, rfl⟩

end Canonical

/-! ## Legacy tokens -/

/-- A pepper slot finds an accepted verifier of the token. -/
structure Finds (hmac : Json.Bytes → Json.Bytes → Json.Bytes) (view : AuthRuntimeView)
    (token : Json.Bytes) (slot : String × Json.Bytes) (record : ClientKeyRecord)
    (v : CredentialVerifier) : Prop where
  indexed : view.keyIndex.get? record.keyId = some record
  kind : v ∈ record.legacyVerifiers
  version : v.pepperVersion = slot.1
  digest : v.secretHex = hex (hmac slot.2 (legacyClientKeyDomain ++ token))
  accepted : view.credentialIsAccepted v record = true

section Legacy

variable {hmac : Json.Bytes → Json.Bytes → Json.Bytes} {view : AuthRuntimeView}
  {parsed : ParsedLegacyClientKey} {slot : String × Json.Bytes} {record : ClientKeyRecord}
  {v : CredentialVerifier}

/-- The index of a view finds the legacy verifiers of its records. -/
theorem AuthRuntimeView.Serves.get?_legacy (hs : view.Serves) (k : String) (e : LegacyKeyIndexEntry) :
    view.legacyKeyIndex.get? k = some e ↔
      ∃ record v, view.keyIndex.get? record.keyId = some record ∧ v ∈ record.legacyVerifiers ∧
        legacyEntry (record, v) = (k, e) := by
  obtain ⟨records, index, hperm, hbuild, hindex⟩ := hs.indexed
  have hget : view.legacyKeyIndex.get? k = index.get? k :=
    (Dict.lookup_eq_of_perm index.nodup hindex).symm
  rw [hget, indexes_of_build hbuild k e]
  have hserved : ∀ record, record ∈ records ↔ view.keyIndex.get? record.keyId = some record := by
    intro record
    rw [hperm.mem_iff, Dict.mem_values_iff]
    constructor
    · rintro ⟨k, hk⟩
      exact AuthRuntimeView.Serves.indexed_of_get? hk
    · intro h
      exact ⟨record.keyId, h⟩
  constructor
  · rintro ⟨⟨record, v⟩, hq, heq⟩
    obtain ⟨hrecord, hv⟩ := mem_legacyPairs.mp hq
    exact ⟨record, v, (hserved record).mp hrecord, hv, heq⟩
  · rintro ⟨record, v, hrecord, hv, heq⟩
    exact ⟨(record, v), mem_legacyPairs.mpr ⟨(hserved record).mpr hrecord, hv⟩, heq⟩

/-- A slot finds at most one verifier. -/
theorem Finds.unique {record' : ClientKeyRecord} {v' : CredentialVerifier} (hs : view.Serves)
    (h : Finds hmac view parsed.token slot record v)
    (h' : Finds hmac view parsed.token slot record' v') : record' = record ∧ v' = v := by
  have hentry : ∀ {record v}, Finds hmac view parsed.token slot record v →
      view.legacyKeyIndex.get?
        (legacyIndexKey slot.1 (hex (hmac slot.2 (legacyClientKeyDomain ++ parsed.token)))) =
        some ⟨record.keyId, v.generation⟩ := by
    intro record v h
    exact (hs.get?_legacy _ _).mpr
      ⟨record, v, h.indexed, h.kind, by rw [legacyEntry, h.version, h.digest]⟩
  have heq := (hentry h').symm.trans (hentry h)
  simp only [Option.some.injEq, LegacyKeyIndexEntry.mk.injEq] at heq
  obtain ⟨hid, hgeneration⟩ := heq
  have hrecord : record' = record := by
    have hget := h'.indexed
    rw [hid, h.indexed] at hget
    exact (Option.some.inj hget).symm
  subst hrecord
  exact ⟨rfl, (hs.sound h.indexed).verifier_unique (List.mem_append_right _ h'.kind)
    (List.mem_append_right _ h.kind) hgeneration⟩

/-- The slots of a valid pepper set: two peppers, or one and a dummy. -/
theorem AuthRuntimeView.PepperSet.slots (hset : view.PepperSet) :
    (∃ a b, view.acceptedPeppers.entries = [a, b] ∧ pepperSlots view = [a, b]) ∨
    ∃ a, view.acceptedPeppers.entries = [a] ∧ pepperSlots view = [a, ("dummy-0", dummyPepper)] := by
  obtain ⟨hone, htwo, -⟩ := hset
  unfold pepperSlots
  unfold Dict.size at hone htwo
  match hentries : view.acceptedPeppers.entries with
  | [] => simp [hentries] at hone
  | [a] => exact Or.inr ⟨a, rfl, rfl⟩
  | [a, b] => exact Or.inl ⟨a, b, rfl, rfl⟩
  | _ :: _ :: _ :: _ =>
    rw [hentries] at htwo
    simp only [List.length_cons] at htwo
    omega

/-- The last check of `_verify_legacy_client_key`. -/
theorem verifyLegacyClientKey_eq_ok_iff {client : AuthenticatedClient} :
    verifyLegacyClientKey hmac view parsed = .ok client ↔
      ∃ record generation, view.admits record = true ∧
        (pepperSlots view).foldlM (verifyLegacySlot hmac view parsed.token) none =
          .ok (some (record, generation)) ∧ client = view.authenticated record generation := by
  unfold verifyLegacyClientKey
  constructor
  · intro h
    rw [bind_eq_ok_iff] at h
    obtain ⟨accepted, hfold, h⟩ := h
    cases accepted with
    | none => cases h
    | some q =>
      simp only [bind_eq_ok_iff, require_eq_ok_iff, exists_unit_and_iff, pure_eq_ok,
        Except.ok.injEq] at h
      exact ⟨q.1, q.2, h.1, hfold, h.2.symm⟩
  · rintro ⟨record, generation, hadmits, hfold, rfl⟩
    rw [hfold, ok_bind]
    simp only [bind_eq_ok_iff, require_eq_ok_iff, pure_eq_ok, and_true]
    exact ⟨(), hadmits⟩

end Legacy

/-! ## One credential for a legacy token -/

section Legacy

variable {hmac : Json.Bytes → Json.Bytes → Json.Bytes} {view view' : AuthRuntimeView}
  {parsed : ParsedLegacyClientKey} {slot : String × Json.Bytes} {record : ClientKeyRecord}
  {v : CredentialVerifier}

end Legacy

/-- A parsed canonical token has 16 bytes of key id and 32 of secret. -/
theorem lengths_of_isParsed {parsed : ParsedClientKey} (h : IsParsed (.inl parsed)) :
    parsed.keyIdBytes.length = keyIdBytes ∧ parsed.secret.length = secretBytes := by
  obtain ⟨value, h⟩ := h
  have hformat := (parseClientKeyMaterial_eq_ok_iff.mp h).2
  simp only [formatClientKey, bind_eq_ok_iff, require_eq_ok_iff, exists_unit_and_iff] at hformat
  exact hformat.1

end LlmMaxxing
