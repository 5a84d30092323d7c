import LlmMaxxing.Core.SampleBundle
import LlmMaxxing.Lib.Dict
import Mathlib.Logic.Relation

/-!
# Key lifecycle across publications (`core/key_lifecycle.py`)

A publication replaces the whole set of key records. `validateKeyRecordSetDelta` compares two
adjacent sets; `no_credential_resurrection` says what follows for sets any number of publications
apart.
-/

namespace LlmMaxxing

open Check

/-! ## The delta checks -/

/-- `MAX_ROTATION_OVERLAP_S`. -/
def maxRotationOverlapS : Nat := 7 * 86_400

/-- The class of a verifier. -/
inductive VerifierKind where
  | canonical | legacy
  deriving DecidableEq, Repr

/-- `_TERMINAL_CREDENTIAL_STATES`. -/
def CredentialVerifierStatus.ended : CredentialVerifierStatus → Bool
  | .retired | .expired => true
  | .active | .retiring => false

/-- `_ALLOWED_CREDENTIAL_TRANSITIONS`. -/
def CredentialVerifierStatus.allowed : CredentialVerifierStatus → List CredentialVerifierStatus
  | .active => [.active, .retiring, .retired, .expired]
  | .retiring => [.retiring, .retired, .expired]
  | .retired => [.retired]
  | .expired => [.expired]

/-- `PolicyReassignment`. -/
structure PolicyReassignment where
  expectedPolicyId : PolicyRevisionId
  targetPolicyId : PolicyRevisionId
  deriving DecidableEq

/-- A verifier with its class. -/
abbrev ClientVerifier := VerifierKind × CredentialVerifier

/-- `_validate_existing_verifier`. -/
def validateExistingVerifier (before after : ClientVerifier) : Validation Unit := do
  requireValue (before.1 = after.1) "credential verifier kind is immutable"
  requireValue
    (before.2.secretHex = after.2.secretHex ∧ before.2.pepperVersion = after.2.pepperVersion ∧
      before.2.notBeforeS = after.2.notBeforeS)
    "credential verifier generation is immutable"
  requireValue (after.2.notAfterS ≤ before.2.notAfterS)
    "credential verifier window cannot be extended"
  requireValue (after.2.status ∈ before.2.status.allowed)
    (if before.2.status.ended then "terminal credential generation cannot resurrect"
      else "illegal credential verifier status transition")

namespace ClientKeyRecord

/-- `_verifiers`. -/
def clientVerifiers (k : ClientKeyRecord) : List ClientVerifier :=
  k.credentialVerifiers.map (.canonical, ·) ++ k.legacyVerifiers.map (.legacy, ·)

/-- `{item.generation: item for item in _verifiers(record)}`. -/
def byGeneration (k : ClientKeyRecord) : Dict Nat ClientVerifier :=
  .ofList (k.clientVerifiers.map fun v => (v.2.generation, v))

/-- The checks on `policy_id` and the reassignment. -/
def validatePolicyReassignment (before after : ClientKeyRecord)
    (reassignment : Option PolicyReassignment) : Validation Unit :=
  if after.policyId ≠ before.policyId then
    match reassignment with
    | none =>
      .error (.value "policy reassignment requires exact expected and target policy IDs")
    | some r => do
      requireValue (r.expectedPolicyId = before.policyId)
        "policy reassignment expected policy does not match"
      requireValue (r.targetPolicyId = after.policyId)
        "policy reassignment target policy does not match"
  else
    requireValue
      (∀ r ∈ reassignment, r.expectedPolicyId = before.policyId ∧ r.targetPolicyId = after.policyId)
      "policy reassignment does not match the record delta"

/-- The checks on one generation the record before does not have. -/
def validateNewVerifier (before after : ClientKeyRecord) (v : ClientVerifier) :
    Validation Unit := do
  requireValue (before.generationHighWater < v.2.generation)
    "retired credential generation reuse is forbidden"
  requireValue (before.timeHighWaterS ≤ v.2.notBeforeS)
    "backdated credential not-before precedes transition high-water"
  requireValue (v.2.notBeforeS ≤ after.timeHighWaterS)
    "future credential not-before exceeds transition high-water"

/-- The checks on the generations of a record that is not terminal. -/
def validateGenerations (before after : ClientKeyRecord) : Validation Unit := do
  let added := after.byGeneration.entries.filter fun q => !before.byGeneration.contains q.1
  forEach
    (fun q : Nat × ClientVerifier =>
      match after.byGeneration.get? q.1 with
      | some v => validateExistingVerifier q.2 v
      | none => .ok ())
    before.byGeneration.entries
  forEach (fun q : Nat × ClientVerifier => before.validateNewVerifier after q.2) added
  if before.generationHighWater < after.generationHighWater then
    requireValue (after.byGeneration.contains after.generationHighWater = true)
      "generation high-water must name the new verifier"
  else requireValue (added = []) "new verifier requires a higher generation"

/-- The overlap check. -/
def validateOverlap (after : ClientKeyRecord) : Validation Unit :=
  match after.clientVerifiers.find? fun v => v.2.status == .active with
  | none => .ok ()
  | some active =>
    requireValue
      (∀ v ∈ after.clientVerifiers, v.2.status = .retiring →
        v.2.notAfterS - active.2.notBeforeS ≤ maxRotationOverlapS)
      "credential rotation overlap exceeds seven days"

/-- `validate_key_record_delta`. -/
def validateDelta (before after : ClientKeyRecord) (reassignment : Option PolicyReassignment) :
    Validation Unit := do
  before.validate
  after.validate
  requireValue (after.keyId = before.keyId) "client key identity cannot change"
  requireValue (after.issuedAtS = before.issuedAtS) "client key issuance time cannot change"
  if before.terminal then
    requireValue (after = before) "terminal key identity cannot resurrect or change"
  else do
    requireValue (before.timeHighWaterS ≤ after.timeHighWaterS)
      "trusted clock high-water cannot move backward"
    requireValue (after.expiresAtS ≤ before.expiresAtS)
      "client key expiry extension requires reissue"
    requireValue (before.expiresAtS ≤ after.expiresAtS)
      "client key expiry cannot change silently"
    validatePolicyReassignment before after reassignment
    requireValue (before.generationHighWater ≤ after.generationHighWater)
      "credential generation high-water cannot roll back"
    validateGenerations before after
    validateOverlap after

end ClientKeyRecord

/-- `{record.key_id: record for record in records}`. -/
def keyIndex (records : List ClientKeyRecord) : Dict String ClientKeyRecord :=
  .ofList (records.map fun r => (r.keyId, r))

/-- `validate_key_record_set_delta`. -/
def validateKeyRecordSetDelta (before after : List ClientKeyRecord)
    (assignments : Dict String PolicyReassignment) : Validation Unit := do
  let new := keyIndex after
  requireValue (∀ k ∈ (keyIndex before).keys, new.contains k = true)
    "client key tombstones cannot be removed"
  forEach
    (fun q : String × ClientKeyRecord =>
      match new.get? q.1 with
      | some r => if q.2 ≠ r then q.2.validateDelta r (assignments.get? q.1) else .ok ()
      | none => .ok ())
    (keyIndex before).entries

/-! ## One delta -/

namespace ClientKeyRecord

variable {r r' r'' : ClientKeyRecord}

/-- The generation has no accepted verifier: it is absent, retired or expired. -/
def Ended (r : ClientKeyRecord) (g : Nat) : Prop :=
  ∀ v ∈ r.clientVerifiers, v.2.generation = g → v.2.status.ended = true

/-- `v'` is the same verifier as `v`, with no longer window and no earlier status. -/
structure Continues (v v' : ClientVerifier) : Prop where
  kind : v'.1 = v.1
  digest : v'.2.secretHex = v.2.secretHex
  pepper : v'.2.pepperVersion = v.2.pepperVersion
  notBefore : v'.2.notBeforeS = v.2.notBeforeS
  notAfter : v'.2.notAfterS ≤ v.2.notAfterS
  status : v'.2.status ∈ v.2.status.allowed

theorem allowed_trans {s t u : CredentialVerifierStatus} (hst : t ∈ s.allowed)
    (htu : u ∈ t.allowed) : u ∈ s.allowed := by
  revert hst htu
  cases s <;> cases t <;> cases u <;> decide

theorem Continues.trans {v v' v'' : ClientVerifier} (h : Continues v v') (h' : Continues v' v'') :
    Continues v v'' where
  kind := h'.kind.trans h.kind
  digest := h'.digest.trans h.digest
  pepper := h'.pepper.trans h.pepper
  notBefore := h'.notBefore.trans h.notBefore
  notAfter := h'.notAfter.trans h.notAfter
  status := allowed_trans h.status h'.status

/-- What a changed record keeps of the record before it. Generations are at most the high-water
mark on both sides, so a generation that is gone cannot be told from one never used: it stays
gone because whatever is new lies above the mark. -/
structure Succeeds (r r' : ClientKeyRecord) : Prop where
  live : r.terminal = false
  bounded : ∀ v ∈ r.clientVerifiers, v.2.generation ≤ r.generationHighWater
  generation : r.generationHighWater ≤ r'.generationHighWater
  clock : r.timeHighWaterS ≤ r'.timeHighWaterS
  expiry : r'.expiresAtS = r.expiresAtS
  origin : ∀ v' ∈ r'.clientVerifiers, r.generationHighWater < v'.2.generation ∨
    ∃ v ∈ r.clientVerifiers, v.2.generation = v'.2.generation ∧ Continues v v'
  unique : ∀ v ∈ r.clientVerifiers, ∀ w ∈ r.clientVerifiers, v.2.generation = w.2.generation → v = w

theorem Succeeds.trans (h : Succeeds r r') (h' : Succeeds r' r'') : Succeeds r r'' where
  live := h.live
  bounded := h.bounded
  generation := h.generation.trans h'.generation
  clock := h.clock.trans h'.clock
  expiry := h'.expiry.trans h.expiry
  origin v'' hv'' := by
    have hgen := h.generation
    rcases h'.origin v'' hv'' with hnew | ⟨v', hv', heq', hc'⟩
    · exact .inl (by omega)
    · rcases h.origin v' hv' with hnew | ⟨v, hv, heq, hc⟩
      · exact .inl (by omega)
      · exact .inr ⟨v, hv, heq.trans heq', hc.trans hc'⟩
  unique := h.unique

/-! A valid record has one verifier for each generation, none above the mark. -/

theorem map_snd_clientVerifiers (r : ClientKeyRecord) :
    r.clientVerifiers.map (fun v => v.2.generation) = r.verifiers.map CredentialVerifier.generation := by
  simp [clientVerifiers, verifiers, Function.comp_def]

theorem Sound.nodup_generations (h : r.Sound) :
    (r.clientVerifiers.map fun v => v.2.generation).Nodup := by
  rw [map_snd_clientVerifiers]
  exact h.generations_nodup

theorem Sound.generation_le (h : r.Sound) {v : ClientVerifier} (hv : v ∈ r.clientVerifiers) :
    v.2.generation ≤ r.generationHighWater := by
  have hmem : v.2.generation ∈ r.verifiers.map CredentialVerifier.generation := by
    rw [← map_snd_clientVerifiers]
    exact List.mem_map.mpr ⟨v, hv, rfl⟩
  exact (List.max?_eq_some_iff.mp h.newest).2 _ hmem

theorem Sound.get?_byGeneration (h : r.Sound) {g : Nat} {v : ClientVerifier} :
    r.byGeneration.get? g = some v ↔ v ∈ r.clientVerifiers ∧ v.2.generation = g := by
  have hkeys : ((r.clientVerifiers.map fun v => (v.2.generation, v)).map Prod.fst).Nodup := by
    rw [List.map_map]
    exact h.nodup_generations
  rw [byGeneration, Dict.get?_ofList_eq_some_iff hkeys, List.mem_map]
  constructor
  · rintro ⟨w, hw, heq⟩
    obtain ⟨hgen, rfl⟩ := Prod.mk.inj heq
    exact ⟨hw, hgen⟩
  · rintro ⟨hv, hgen⟩
    exact ⟨v, hv, by rw [hgen]⟩

theorem Sound.eq_of_generation_eq (h : r.Sound) {v w : ClientVerifier} (hv : v ∈ r.clientVerifiers)
    (hw : w ∈ r.clientVerifiers) (heq : v.2.generation = w.2.generation) : v = w := by
  have hfirst := h.get?_byGeneration.mpr ⟨hv, heq⟩
  have hsecond := h.get?_byGeneration.mpr ⟨hw, rfl⟩
  exact Option.some.inj (hfirst.symm.trans hsecond)

theorem validateExistingVerifier_eq_ok {v v' : ClientVerifier}
    (h : validateExistingVerifier v v' = .ok ()) : Continues v v' := by
  simp only [validateExistingVerifier, bind_eq_ok_iff, requireValue_eq_ok_iff, exists_const] at h
  obtain ⟨hkind, ⟨hdigest, hpepper, hbefore⟩, hafter, hstatus⟩ := h
  exact ⟨hkind.symm, hdigest.symm, hpepper.symm, hbefore.symm, hafter, hstatus⟩

/-- Every verifier after an accepted delta continues one before it or lies above the mark. -/
theorem validateGenerations_origin (hr : r.Sound) (hr' : r'.Sound)
    (h : validateGenerations r r' = .ok ()) {v' : ClientVerifier} (hv' : v' ∈ r'.clientVerifiers) :
    r.generationHighWater < v'.2.generation ∨
      ∃ v ∈ r.clientVerifiers, v.2.generation = v'.2.generation ∧ Continues v v' := by
  simp only [validateGenerations, bind_eq_ok_iff, forEach_eq_ok_iff, exists_const] at h
  obtain ⟨hkept, hadded, -⟩ := h
  have hget' := hr'.get?_byGeneration.mpr ⟨hv', rfl⟩
  cases hget : r.byGeneration.get? v'.2.generation with
  | none =>
    -- a generation the record before does not have
    left
    have hmem : (v'.2.generation, v') ∈
        r'.byGeneration.entries.filter fun q => !r.byGeneration.contains q.1 := by
      rw [List.mem_filter]
      exact ⟨Dict.mem_entries_iff.mpr hget', by simp [Dict.contains, hget]⟩
    have hnew := hadded _ hmem
    simp only [validateNewVerifier, bind_eq_ok_iff, requireValue_eq_ok_iff, exists_const] at hnew
    exact hnew.1
  | some v =>
    right
    have hcheck := hkept _ (Dict.mem_entries_iff.mpr hget)
    rw [hget'] at hcheck
    obtain ⟨hv, hgen⟩ := hr.get?_byGeneration.mp hget
    exact ⟨v, hv, hgen, validateExistingVerifier_eq_ok hcheck⟩

/-- An accepted delta between different records. -/
theorem validateDelta_eq_ok {reassignment : Option PolicyReassignment}
    (h : validateDelta r r' reassignment = .ok ()) (hne : r ≠ r') : Succeeds r r' := by
  simp only [validateDelta, bind_eq_ok_iff, requireValue_eq_ok_iff, exists_unit_and_iff] at h
  obtain ⟨hr, hr', -, -, h⟩ := h
  have hsound := (validate_eq_ok_iff.mp hr).1
  have hsound' := (validate_eq_ok_iff.mp hr').1
  cases hterminal : r.terminal with
  | true =>
    simp only [hterminal, if_true, requireValue_eq_ok_iff] at h
    exact absurd h.symm hne
  | false =>
    simp only [hterminal, Bool.false_eq_true, if_false, bind_eq_ok_iff, requireValue_eq_ok_iff,
      exists_unit_and_iff] at h
    obtain ⟨hclock, hle, hge, -, hmark, hgens, -⟩ := h
    exact {
      live := hterminal
      bounded := fun v hv => hsound.generation_le hv
      generation := hmark
      clock := hclock
      expiry := by omega
      origin := fun v' hv' => validateGenerations_origin hsound hsound' hgens hv'
      unique := fun v hv w hw heq => hsound.eq_of_generation_eq hv hw heq }

/-- The same record, or one that succeeds it. -/
def Later (r r' : ClientKeyRecord) : Prop := r' = r ∨ Succeeds r r'

theorem Later.trans (h : Later r r') (h' : Later r' r'') : Later r r'' := by
  rcases h with rfl | h
  · exact h'
  · rcases h' with rfl | h'
    · exact .inr h
    · exact .inr (h.trans h')

theorem ended_of_allowed {s t : CredentialVerifierStatus} (hs : s.ended = true)
    (ht : t ∈ s.allowed) : t.ended = true := by
  revert hs ht
  cases s <;> cases t <;> decide

/-- A generation without an accepted verifier stays without one. -/
theorem Later.ended (h : Later r r') {g : Nat} (hg : g ≤ r.generationHighWater)
    (hended : r.Ended g) : r'.Ended g := by
  rcases h with rfl | h
  · exact hended
  · intro v' hv' hgen
    rcases h.origin v' hv' with hnew | ⟨v, hv, heq, hc⟩
    · omega
    · exact ended_of_allowed (hended v hv (heq.trans hgen)) hc.status

/-- A surviving generation is the same verifier. -/
theorem Later.continues (h : Later r r') (hr : r.Sound) {v v' : ClientVerifier}
    (hv : v ∈ r.clientVerifiers) (hv' : v' ∈ r'.clientVerifiers)
    (hgen : v.2.generation = v'.2.generation) : Continues v v' := by
  rcases h with rfl | h
  · obtain rfl := hr.eq_of_generation_eq hv hv' hgen
    refine ⟨rfl, rfl, rfl, rfl, le_refl _, ?_⟩
    cases v.2.status <;> decide
  · rcases h.origin v' hv' with hnew | ⟨w, hw, heq, hc⟩
    · have hle := h.bounded v hv
      omega
    · rwa [h.unique v hv w hw (hgen.trans heq.symm)]

end ClientKeyRecord

/-! ## Chains of publications -/

/-- The pair of record sets is accepted, with some policy reassignments. -/
def Publishes (before after : List ClientKeyRecord) : Prop :=
  ∃ assignments, validateKeyRecordSetDelta before after assignments = .ok ()

/-- The step lemma: an accepted set keeps every key and moves each one on. -/
theorem Publishes.later {K K' : List ClientKeyRecord} (h : Publishes K K') {k : String}
    {r : ClientKeyRecord} (hr : (keyIndex K).get? k = some r) :
    ∃ r', (keyIndex K').get? k = some r' ∧ r.Later r' := by
  obtain ⟨assignments, hok⟩ := h
  simp only [validateKeyRecordSetDelta, bind_eq_ok_iff, requireValue_eq_ok_iff, exists_const,
    forEach_eq_ok_iff] at hok
  obtain ⟨hkeys, hdeltas⟩ := hok
  have hcontains := hkeys k (Dict.mem_keys_iff.mpr ⟨r, hr⟩)
  obtain ⟨r', hr'⟩ := Dict.contains_iff.mp hcontains
  have hdelta := hdeltas (k, r) (Dict.mem_entries_iff.mpr hr)
  rw [hr'] at hdelta
  refine ⟨r', hr', ?_⟩
  by_cases heq : r = r'
  · exact .inl heq.symm
  · simp only [ne_eq, heq, not_false_eq_true, if_true] at hdelta
    exact .inr (ClientKeyRecord.validateDelta_eq_ok hdelta heq)

theorem later_of_chain {K K' : List ClientKeyRecord} (h : Relation.ReflTransGen Publishes K K')
    {k : String} {r : ClientKeyRecord} (hr : (keyIndex K).get? k = some r) :
    ∃ r', (keyIndex K').get? k = some r' ∧ r.Later r' := by
  induction h with
  | refl => exact ⟨r, hr, .inl rfl⟩
  | tail _ hstep ih =>
    obtain ⟨r', hr', hlater⟩ := ih
    obtain ⟨r'', hr'', hlater'⟩ := hstep.later hr'
    exact ⟨r'', hr'', hlater.trans hlater'⟩

/-- **No credential resurrection along any chain of accepted publications.** A key stays in every
later set; a terminal key stays as it is; the high-water marks do not fall and the expiry does not
move; a generation at or below the mark that is absent, retired or expired is never accepted again;
and a generation that survives keeps its class, digest, pepper and start and gains no later end. -/
theorem no_credential_resurrection {K K' : List ClientKeyRecord}
    (h : Relation.ReflTransGen Publishes K K') {k : String} {r : ClientKeyRecord}
    (hvalid : r.validate = .ok ()) (hr : (keyIndex K).get? k = some r) :
    ∃ r', (keyIndex K').get? k = some r' ∧ (r.terminal = true → r' = r) ∧
      r.generationHighWater ≤ r'.generationHighWater ∧ r.timeHighWaterS ≤ r'.timeHighWaterS ∧
      r'.expiresAtS = r.expiresAtS ∧
      (∀ g ≤ r.generationHighWater, r.Ended g → r'.Ended g) ∧
      ∀ v ∈ r.clientVerifiers, ∀ v' ∈ r'.clientVerifiers, v.2.generation = v'.2.generation →
        v'.1 = v.1 ∧ v'.2.secretHex = v.2.secretHex ∧ v'.2.pepperVersion = v.2.pepperVersion ∧
          v'.2.notBeforeS = v.2.notBeforeS ∧ v'.2.notAfterS ≤ v.2.notAfterS := by
  obtain ⟨r', hr', hlater⟩ := later_of_chain h hr
  have hsound := (ClientKeyRecord.validate_eq_ok_iff.mp hvalid).1
  refine ⟨r', hr', fun hterminal => ?_, ?_, ?_, ?_, fun g hg => hlater.ended hg, ?_⟩
  · rcases hlater with heq | hsucc
    · exact heq
    · rw [hsucc.live] at hterminal
      cases hterminal
  · rcases hlater with rfl | hsucc
    · exact le_refl _
    · exact hsucc.generation
  · rcases hlater with rfl | hsucc
    · exact le_refl _
    · exact hsucc.clock
  · rcases hlater with rfl | hsucc
    · rfl
    · exact hsucc.expiry
  · intro v hv v' hv' hgen
    have hc := hlater.continues hsound hv hv' hgen
    exact ⟨hc.kind, hc.digest, hc.pepper, hc.notBefore, hc.notAfter⟩

/-- The rotating key revoked, its verifiers retired. -/
def revokedKey : ClientKeyRecord :=
  { rotatingKey 1 2 with
    state := .revoked
    credentialVerifiers := [sampleVerifier 1 .retired, sampleVerifier 2 .retired] }

theorem revoked_generations_stay_ended :
    ∃ r', (keyIndex [revokedKey]).get? revokedKey.keyId = some r' ∧
      (rotatingKey 1 2).generationHighWater ≤ r'.generationHighWater := by
  have hstep : Publishes [rotatingKey 1 2] [revokedKey] := ⟨.empty, by decide +kernel⟩
  obtain ⟨r', hr', -, hmark, -⟩ := no_credential_resurrection (.single hstep)
    (rotatingKey_valid (by decide) (by decide)) (k := revokedKey.keyId) rfl
  exact ⟨r', hr', hmark⟩

end LlmMaxxing
