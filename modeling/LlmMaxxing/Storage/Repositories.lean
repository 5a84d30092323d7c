import LlmMaxxing.Core.Canonical
import LlmMaxxing.Core.KeyLifecycle
import LlmMaxxing.Lib.Dict

/-!
# Control repositories (`storage/repositories.py`, `storage/models.py`, migration `0001`)

The Control tables that the publication, identity and key repositories write, with the constraints
the engine enforces at each statement: primary keys, unique columns, the foreign key from an
activation to its bundle, and the partial unique index on the stage of an activation. An insert
that meets a constraint raises `ConflictError`; an update raises the engine's own error.

Digests come from the callers, except a key's, which is the SHA-256 of its canonical JSON
(`sha256`, a parameter).
-/

namespace LlmMaxxing

open Check Json

/-! ## Rows -/

/-- `_ACTIVATION_STAGES`, in pipeline order. -/
inductive ActivationStage where
  | preparingBackend | backendReady | stagingGateway | gatewayStaged | committing | applied
  deriving DecidableEq, Repr

instance : StrEnum ActivationStage where
  value
    | .preparingBackend => "preparing_backend"
    | .backendReady => "backend_ready"
    | .stagingGateway => "staging_gateway"
    | .gatewayStaged => "gateway_staged"
    | .committing => "committing"
    | .applied => "applied"
  members :=
    [.preparingBackend, .backendReady, .stagingGateway, .gatewayStaged, .committing, .applied]

/-- The stage after a stage. -/
def ActivationStage.next : ActivationStage → Option ActivationStage
  | .preparingBackend => some .backendReady
  | .backendReady => some .stagingGateway
  | .stagingGateway => some .gatewayStaged
  | .gatewayStaged => some .committing
  | .committing => some .applied
  | .applied => none

namespace Storage

/-- A row of `bundles`. -/
structure Bundle where
  generation : Int
  bundleHash : String
  canonicalBytes : Bytes
  jcsArtifact : Bytes
  minReader : String
  schemaVersion : Int
  createdAtMs : Int
  deriving DecidableEq

/-- The row of `publications`. -/
structure PublicationHead where
  id : Int
  appliedGeneration : Int
  appliedBundleHash : String
  dispatcherFence : Int
  updatedAtMs : Int
  deriving DecidableEq

/-- A row of `activations`. -/
structure Activation where
  activationId : String
  opIdempotencyKey : String
  bundleGeneration : Int
  stage : ActivationStage
  stageRecordDigest : String
  baseGeneration : Int
  impactHash : String
  outboxComplete : Bool
  createdAtMs : Int
  updatedAtMs : Int
  deriving DecidableEq

/-- A row of `identity_records`. -/
structure IdentityRecord where
  installationId : String
  channelKeyEpoch : Int
  securityEpoch : Int
  identityRootDigest : String
  createdAtMs : Int
  updatedAtMs : Int
  deriving DecidableEq

/-- A row of `keys`. -/
structure KeyRow where
  keyId : String
  policyRevision : String
  recordJson : Bytes
  recordDigest : String
  state : KeyLifecycleState
  issuedAtS : Nat
  expiresAtS : Nat
  timeHighWaterS : Nat
  generationHighWater : Nat
  updatedAtMs : Int
  deriving DecidableEq

/-- The tables. `publications` has its one seeded row and no operation that deletes it. -/
structure Database where
  head : PublicationHead
  bundles : Dict Int Bundle
  activations : Dict String Activation
  identities : Dict String IdentityRecord
  keys : Dict String KeyRow
  deriving DecidableEq

/-- The database migration `0001` leaves. -/
def migrated : Database where
  head := ⟨1, 0, "", 0, 0⟩
  bundles := .empty
  activations := .empty
  identities := .empty
  keys := .empty

/-- What a repository raises. -/
inductive StorageFault where
  | conflict (table : String)
  | stale (message : String)
  | value (message : String)
  | integrity (constraint : String)
  | canonical (e : CanonicalError)
  | invalid (e : ValidationError)
  deriving DecidableEq

/-- `_require_hex64`. -/
def requireHex64 (value label : String) : Except StorageFault Unit :=
  require (isHex64 value = true) (.value (label ++ " must be 64 lowercase hex characters"))

/-! ## Publications -/

namespace Database

/-- `add_bundle`. -/
def addBundle (db : Database) (b : Bundle) : Except StorageFault Database :=
  if 16 * 1024 * 1024 < b.canonicalBytes.length then
    .error (.value "bundle canonical bytes exceed the 16 MiB ceiling")
  else if db.bundles.contains b.generation ∨
      db.bundles.entries.any (fun q => q.2.bundleHash == b.bundleHash) then
    .error (.conflict "bundles")
  else .ok { db with bundles := db.bundles.insert b.generation b }

/-- `ux_activations_single_nonterminal`: no other row has this stage, unless it is `applied`. -/
def stageFree (db : Database) (activationId : String) (stage : ActivationStage) : Bool :=
  stage == .applied ||
    db.activations.entries.all fun q => q.1 == activationId || q.2.stage != stage

/-- `add_activation`. -/
def addActivation (db : Database) (a : Activation) : Except StorageFault Database :=
  if db.activations.contains a.activationId ∨
      db.activations.entries.any (fun q => q.2.opIdempotencyKey == a.opIdempotencyKey) ∨
      ¬db.bundles.contains a.bundleGeneration ∨ ¬db.stageFree a.activationId a.stage then
    .error (.conflict "activations")
  else .ok { db with activations := db.activations.insert a.activationId a }

/-- `activation_update_row`: identity, idempotency key and creation time stay. -/
def activationUpdateRow (stored replacement : Activation) : Activation :=
  { replacement with
    activationId := stored.activationId
    opIdempotencyKey := stored.opIdempotencyKey
    createdAtMs := stored.createdAtMs }

/-- `advance_activation_stage`, with the row it loads afterwards. -/
def advanceActivationStage (db : Database) (activationId expectedDigest : String)
    (replacement : Activation) : Except StorageFault (Activation × Database) := do
  require (replacement.activationId = activationId) (.value "activation identity cannot change")
  requireHex64 expectedDigest "expected stage_record_digest"
  match db.activations.get? activationId with
  | some stored =>
    require (stored.stageRecordDigest = expectedDigest)
      (.stale "activations compare-and-swap lost")
    let row := activationUpdateRow stored replacement
    require (db.bundles.contains row.bundleGeneration = true) (.integrity "bundle_generation")
    require (db.stageFree activationId row.stage = true)
      (.integrity "ux_activations_single_nonterminal")
    return (row, { db with activations := db.activations.insert activationId row })
  | none => .error (.stale "activations compare-and-swap lost")

/-- `cas_head`. A head read as missing is refused before the update. -/
def casHead (db : Database) (expected : Option PublicationHead) (replacement : PublicationHead) :
    Except StorageFault (PublicationHead × Database) := do
  require (replacement.id = 1) (.value "publication head id must be 1")
  match expected with
  | none => .error (.stale "publication head was read as missing")
  | some expected =>
    require
      (db.head.appliedGeneration = expected.appliedGeneration ∧
        db.head.appliedBundleHash = expected.appliedBundleHash ∧
        db.head.dispatcherFence = expected.dispatcherFence)
      (.stale "publication head compare-and-swap lost")
    return (replacement, { db with head := { replacement with id := db.head.id } })

/-! ## Identities -/

/-- `IdentityRepository.add`. -/
def addIdentity (db : Database) (r : IdentityRecord) : Except StorageFault Database := do
  requireHex64 r.identityRootDigest "identity_root_digest"
  require (db.identities.contains r.installationId = false) (.conflict "identity_records")
  return { db with identities := db.identities.insert r.installationId r }

/-- `IdentityRepository.compare_and_swap`. -/
def swapIdentity (db : Database) (installationId expectedDigest : String)
    (replacement : IdentityRecord) : Except StorageFault (IdentityRecord × Database) := do
  require (replacement.installationId = installationId)
    (.value "identity installation cannot change")
  requireHex64 replacement.identityRootDigest "identity_root_digest"
  requireHex64 expectedDigest "expected identity_root_digest"
  match db.identities.get? installationId with
  | some stored =>
    require (stored.identityRootDigest = expectedDigest)
      (.stale "identity_records compare-and-swap lost")
    let row := { replacement with
      installationId := stored.installationId, createdAtMs := stored.createdAtMs }
    return (replacement, { db with identities := db.identities.insert installationId row })
  | none => .error (.stale "identity_records compare-and-swap lost")

/-! ## Keys -/

section Keys

variable (sha256 : Bytes → String)

/-- The canonical JSON of a record. -/
def recordJson (record : ClientKeyRecord) : Except StorageFault Bytes :=
  match serialize (Codec.clientKeyRecord.enc record) with
  | .ok bytes => .ok bytes
  | .error e => .error (.canonical e)

/-- `canonical_record_digest`. -/
def canonicalRecordDigest (record : ClientKeyRecord) : Except StorageFault String := do
  let bytes ← recordJson record
  return sha256 bytes

/-- `_key_columns`. -/
def keyColumns (record : ClientKeyRecord) (updatedAtMs : Int) : Except StorageFault KeyRow := do
  let bytes ← recordJson record
  return {
    keyId := record.keyId
    policyRevision := record.policyId.text
    recordJson := bytes
    recordDigest := sha256 bytes
    state := record.state
    issuedAtS := record.issuedAtS
    expiresAtS := record.expiresAtS
    timeHighWaterS := record.timeHighWaterS
    generationHighWater := record.generationHighWater
    updatedAtMs }

/-- `ClientKeyRecord.model_validate_json`. -/
def readRecord (payload : Bytes) : Except StorageFault ClientKeyRecord :=
  match Json.parse payload with
  | none => .error (.value "invalid JSON")
  | some v =>
    match (do let raw ← Codec.clientKeyRecord.dec v; raw.validate; return raw) with
    | .ok record => .ok record
    | .error e => .error (.invalid e)

/-- `KeyRepository.add`. -/
def addKey (db : Database) (record : ClientKeyRecord) (updatedAtMs : Int) :
    Except StorageFault Database := do
  let row ← keyColumns sha256 record updatedAtMs
  require (isHex64 row.recordDigest = true) (.conflict "keys")
  require (db.keys.contains row.keyId = false) (.conflict "keys")
  return { db with keys := db.keys.insert row.keyId row }

/-- `KeyRepository.update_record`. -/
def updateRecord (db : Database) (keyId : String) (before after : ClientKeyRecord)
    (reassignment : Option PolicyReassignment) (updatedAtMs : Int) :
    Except StorageFault (ClientKeyRecord × Database) := do
  match before.validateDelta after reassignment with
  | .error e => .error (.invalid e)
  | .ok () =>
    require (before.keyId = keyId ∧ after.keyId = keyId)
      (.value "client key identity cannot change")
    let expectedDigest ← canonicalRecordDigest sha256 before
    let row ← keyColumns sha256 after updatedAtMs
    requireHex64 expectedDigest "expected record_digest"
    match db.keys.get? keyId with
    | some stored =>
      require (stored.recordDigest = expectedDigest) (.stale "keys compare-and-swap lost")
      require (isHex64 row.recordDigest = true) (.integrity "ck_keys_record_digest_hex64")
      return (after, { db with keys := db.keys.insert keyId row })
    | none => .error (.stale "keys compare-and-swap lost")

end Keys

/-! ## What a call that succeeds does -/

variable {db db' : Database}

theorem stageFree_iff {id : String} {stage : ActivationStage} :
    db.stageFree id stage = true ↔
      stage = .applied ∨
        ∀ id' a, db.activations.get? id' = some a → id' = id ∨ a.stage ≠ stage := by
  simp only [Database.stageFree, Bool.or_eq_true, beq_iff_eq, List.all_eq_true, bne_iff_ne,
    Prod.forall, Dict.mem_entries_iff]

/-- **What `add_activation` does.** -/
theorem addActivation_eq_ok {a : Activation} (h : db.addActivation a = .ok db') :
    db.activations.get? a.activationId = none ∧ db.bundles.contains a.bundleGeneration = true ∧
      db.stageFree a.activationId a.stage = true ∧
      db' = { db with activations := db.activations.insert a.activationId a } := by
  unfold Database.addActivation at h
  split at h
  · cases h
  · next hfree =>
    simp only [not_or, not_not] at hfree
    obtain ⟨hnew, -, hbundle, hstage⟩ := hfree
    refine ⟨?_, hbundle, hstage, (Except.ok.inj h).symm⟩
    exact Dict.contains_eq_false_iff.mp (by simpa using hnew)

/-- **What `advance_activation_stage` does.** -/
theorem advanceActivationStage_eq_ok {id digest : String} {replacement row : Activation}
    (h : db.advanceActivationStage id digest replacement = .ok (row, db')) :
    ∃ stored, db.activations.get? id = some stored ∧ stored.stageRecordDigest = digest ∧
      isHex64 digest = true ∧ row = Database.activationUpdateRow stored replacement ∧
      db.bundles.contains row.bundleGeneration = true ∧ db.stageFree id row.stage = true ∧
      db' = { db with activations := db.activations.insert id row } := by
  unfold Database.advanceActivationStage at h
  simp only [bind_eq_ok_iff, require_eq_ok_iff, exists_unit_and_iff, requireHex64] at h
  obtain ⟨-, hhex, h⟩ := h
  cases hstored : db.activations.get? id with
  | none => rw [hstored] at h; cases h
  | some stored =>
    rw [hstored] at h
    simp only [bind_eq_ok_iff, require_eq_ok_iff, exists_unit_and_iff, pure_eq_ok] at h
    obtain ⟨hdigest, hbundle, hfree, rfl, rfl⟩ := h
    exact ⟨stored, rfl, hdigest, hhex, rfl, hbundle, hfree, rfl⟩

/-- **What `add_bundle` does.** -/
theorem addBundle_eq_ok {b : Bundle} (h : db.addBundle b = .ok db') :
    db' = { db with bundles := db.bundles.insert b.generation b } := by
  unfold Database.addBundle at h
  split at h
  · cases h
  · split at h
    · cases h
    · exact (Except.ok.inj h).symm

/-- **What `cas_head` does.** -/
theorem casHead_eq_ok {expected replacement row : PublicationHead}
    (h : db.casHead (some expected) replacement = .ok (row, db')) :
    db.head.appliedGeneration = expected.appliedGeneration ∧
      db.head.appliedBundleHash = expected.appliedBundleHash ∧
      db.head.dispatcherFence = expected.dispatcherFence ∧
      db' = { db with head := { replacement with id := db.head.id } } := by
  simp only [casHead, bind_eq_ok_iff, require_eq_ok_iff, exists_unit_and_iff, pure_eq_ok,
    Except.ok.injEq, Prod.mk.injEq] at h
  obtain ⟨-, ⟨hgeneration, hhash, hfence⟩, -, rfl⟩ := h
  exact ⟨hgeneration, hhash, hfence, rfl⟩

/-- **What `IdentityRepository.add` does.** -/
theorem addIdentity_eq_ok {r : IdentityRecord} (h : db.addIdentity r = .ok db') :
    db' = { db with identities := db.identities.insert r.installationId r } := by
  simp only [addIdentity, requireHex64, bind_eq_ok_iff, require_eq_ok_iff, exists_unit_and_iff,
    pure_eq_ok, Except.ok.injEq] at h
  exact h.2.2.symm

/-- **What `IdentityRepository.compare_and_swap` does.** -/
theorem swapIdentity_eq_ok {id digest : String} {replacement row : IdentityRecord}
    (h : db.swapIdentity id digest replacement = .ok (row, db')) :
    ∃ stored, db.identities.get? id = some stored ∧ stored.identityRootDigest = digest ∧
      replacement.installationId = id ∧
      db' = { db with identities := db.identities.insert id { replacement with
        installationId := stored.installationId, createdAtMs := stored.createdAtMs } } := by
  unfold swapIdentity at h
  simp only [requireHex64, bind_eq_ok_iff, require_eq_ok_iff, exists_unit_and_iff] at h
  obtain ⟨hid, -, -, h⟩ := h
  cases hstored : db.identities.get? id with
  | none => rw [hstored] at h; cases h
  | some stored =>
    rw [hstored] at h
    simp only [bind_eq_ok_iff, require_eq_ok_iff, exists_unit_and_iff, pure_eq_ok,
      Except.ok.injEq, Prod.mk.injEq] at h
    obtain ⟨hdigest, -, rfl⟩ := h
    exact ⟨stored, rfl, hdigest, hid, rfl⟩

section Keys

variable {sha256 : Bytes → String} {record before after : ClientKeyRecord} {row : KeyRow}

theorem recordJson_eq_ok_iff {p : Bytes} :
    recordJson record = .ok p ↔ serialize (Codec.clientKeyRecord.enc record) = .ok p := by
  unfold recordJson
  split
  · next bytes h => rw [h]; simp
  · next e h => rw [h]; simp

/-- **The columns of a record.** -/
theorem keyColumns_eq_ok {u : Int} (h : keyColumns sha256 record u = .ok row) :
    recordJson record = .ok row.recordJson ∧ row.keyId = record.keyId ∧
      row.recordDigest = sha256 row.recordJson := by
  simp only [keyColumns, bind_eq_ok_iff, pure_eq_ok, Except.ok.injEq] at h
  obtain ⟨p, hp, rfl⟩ := h
  exact ⟨hp, rfl, rfl⟩

/-- **What `KeyRepository.add` does.** -/
theorem addKey_eq_ok {u : Int} (h : db.addKey sha256 record u = .ok db') :
    ∃ row, keyColumns sha256 record u = .ok row ∧ db.keys.get? record.keyId = none ∧
      db' = { db with keys := db.keys.insert record.keyId row } := by
  simp only [addKey, bind_eq_ok_iff, require_eq_ok_iff, exists_unit_and_iff, pure_eq_ok,
    Except.ok.injEq] at h
  obtain ⟨row, hrow, -, hnew, rfl⟩ := h
  rw [(keyColumns_eq_ok hrow).2.1] at hnew ⊢
  exact ⟨row, hrow, Dict.contains_eq_false_iff.mp hnew, rfl⟩

/-- **What `update_record` does.** -/
theorem updateRecord_eq_ok {id : String} {reassignment : Option PolicyReassignment} {u : Int}
    {result : ClientKeyRecord}
    (h : db.updateRecord sha256 id before after reassignment u = .ok (result, db')) :
    ∃ stored row p, before.validateDelta after reassignment = .ok () ∧ before.keyId = id ∧
      after.keyId = id ∧ recordJson before = .ok p ∧ keyColumns sha256 after u = .ok row ∧
      db.keys.get? id = some stored ∧ stored.recordDigest = sha256 p ∧
      db' = { db with keys := db.keys.insert id row } := by
  unfold updateRecord at h
  split at h
  · cases h
  · next hdelta =>
    simp only [canonicalRecordDigest, requireHex64, bind_eq_ok_iff, require_eq_ok_iff,
      exists_unit_and_iff, pure_eq_ok, Except.ok.injEq] at h
    obtain ⟨⟨hbefore, hafter⟩, digest, ⟨p, hp, rfl⟩, row, hrow, -, h⟩ := h
    cases hstored : db.keys.get? id with
    | none => rw [hstored] at h; cases h
    | some stored =>
      rw [hstored] at h
      simp only [bind_eq_ok_iff, require_eq_ok_iff, exists_unit_and_iff, Except.ok.injEq,
        Prod.mk.injEq] at h
      obtain ⟨hdigest, -, -, rfl⟩ := h
      exact ⟨stored, row, p, hdelta, hbefore, hafter, hp, hrow, rfl, hdigest, rfl⟩

end Keys

end Database

end Storage

end LlmMaxxing
