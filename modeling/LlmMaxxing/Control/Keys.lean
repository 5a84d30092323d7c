import LlmMaxxing.Core.KeyLifecycle
import LlmMaxxing.Gateway.Auth

/-!
# Revoking a client key (`control/keys.py`)

`revokeKey` retires every verifier of a record, builds the record again and runs the delta
validator over the two. `revoke_key_succeeds_iff` says for which records all of it passes.
-/

namespace LlmMaxxing

open Check

/-! ## Commands -/

/-- The events of `_KEY_TRANSITIONS`. -/
inductive KeyEvent where
  | activate | suspend | resume | revoke
  deriving DecidableEq, Repr

/-- `key_transition` (`core/state_machines.py`). -/
def keyTransition (state : KeyLifecycleState) (event : KeyEvent) : Validation KeyLifecycleState :=
  match state, event with
  | .draft, .activate => .ok .enabled
  | .enabled, .suspend => .ok .suspended
  | .suspended, .resume => .ok .enabled
  | .draft, .revoke | .enabled, .revoke | .suspended, .revoke | .revoked, .revoke => .ok .revoked
  | _, _ => .error (.value "illegal key lifecycle event")

namespace ClientKeyRecord

/-- `_require_live_time`. -/
def requireLiveTime (k : ClientKeyRecord) (nowS : Nat) : Validation Unit := do
  requireValue (k.timeHighWaterS ≤ nowS) "trusted clock high-water cannot move backward"
  requireValue (nowS < k.expiresAtS) "client key is expired and terminal"

/-- `_transition` with new verifiers and the policy as it is. -/
def transition (k : ClientKeyRecord) (nowS : Nat) (state : KeyLifecycleState)
    (credentialVerifiers : List ClientCredentialVerifier)
    (legacyVerifiers : List LegacyClientCredentialVerifier) : Validation ClientKeyRecord := do
  let candidate := { k with state, timeHighWaterS := nowS, credentialVerifiers, legacyVerifiers }
  candidate.validate
  k.validateDelta candidate none
  return candidate

/-- `_retire_verifiers` on one verifier. -/
def retireVerifier (nowS : Nat) (v : CredentialVerifier) : CredentialVerifier :=
  { v with status := .retired, notAfterS := min v.notAfterS nowS }

/-- `revoke_key`. -/
def revokeKey (k : ClientKeyRecord) (nowS : Nat) : Validation ClientKeyRecord :=
  if k.state = .revoked then .ok k
  else do
    k.requireLiveTime nowS
    let state ← keyTransition k.state .revoke
    k.transition nowS state (k.credentialVerifiers.map (retireVerifier nowS))
      (k.legacyVerifiers.map (retireVerifier nowS))

/-- The record `revoke_key` builds. -/
def revokedAt (k : ClientKeyRecord) (nowS : Nat) : ClientKeyRecord :=
  { k with
    state := .revoked
    timeHighWaterS := nowS
    credentialVerifiers := k.credentialVerifiers.map (retireVerifier nowS)
    legacyVerifiers := k.legacyVerifiers.map (retireVerifier nowS) }

variable {k : ClientKeyRecord} {nowS : Nat}

theorem verifiers_revokedAt (k : ClientKeyRecord) (nowS : Nat) :
    (k.revokedAt nowS).verifiers = k.verifiers.map (retireVerifier nowS) := by
  simp [verifiers, revokedAt]

theorem clientVerifiers_revokedAt (k : ClientKeyRecord) (nowS : Nat) :
    (k.revokedAt nowS).clientVerifiers =
      k.clientVerifiers.map fun v => (v.1, retireVerifier nowS v.2) := by
  simp [clientVerifiers, revokedAt, Function.comp_def]

theorem generations_map_retireVerifier (nowS : Nat) (vs : List CredentialVerifier) :
    (vs.map (retireVerifier nowS)).map CredentialVerifier.generation =
      vs.map CredentialVerifier.generation := by
  rw [List.map_map]
  rfl

/-- No verifier is left that a key would be let in by. -/
theorem status_of_mem_revokedAt {v : CredentialVerifier} (hv : v ∈ (k.revokedAt nowS).verifiers) :
    v.status = .retired := by
  rw [verifiers_revokedAt] at hv
  obtain ⟨w, -, rfl⟩ := List.mem_map.mp hv
  rfl

/-! ## The record is valid again -/

theorem validateVerifier_eq_ok_iff {name : String} {v : CredentialVerifier} :
    v.validate name = .ok () ↔ 1 ≤ v.generation ∧ isHex64 v.secretHex = true ∧
      isPepperVersion v.pepperVersion = true ∧ 0 < v.notBeforeS ∧ 0 < v.notAfterS ∧
      v.notBeforeS ≤ v.notAfterS := by
  simp only [CredentialVerifier.validate, bind_eq_ok_iff, requireField_eq_ok_iff,
    requireValue_eq_ok_iff, exists_unit_and_iff]

/-- Retiring keeps a verifier well formed when its window had begun. -/
theorem validate_retireVerifier_iff {name : String} {v : CredentialVerifier} (hnow : 0 < nowS)
    (hv : v.validate name = .ok ()) :
    (retireVerifier nowS v).validate name = .ok () ↔ v.notBeforeS ≤ nowS := by
  rw [validateVerifier_eq_ok_iff] at hv ⊢
  obtain ⟨hgen, hhex, hpepper, hbefore, hafter, hwindow⟩ := hv
  constructor
  · rintro ⟨-, -, -, -, -, h⟩
    exact h.trans (min_le_right _ _)
  · intro h
    exact ⟨hgen, hhex, hpepper, hbefore, lt_min hafter hnow, le_min hwindow h⟩

theorem validate_revokedAt_iff (hk : k.validate = .ok ()) (hnow : k.timeHighWaterS ≤ nowS) :
    (k.revokedAt nowS).validate = .ok () ↔ ∀ v ∈ k.verifiers, v.notBeforeS ≤ nowS := by
  obtain ⟨hsound, hcredential, hlegacy⟩ := validate_eq_ok_iff.mp hk
  have hpos : 0 < nowS := lt_of_lt_of_le hsound.timeHighWater hnow
  constructor
  · intro h v hv
    have hsound' := (validate_eq_ok_iff.mp h).1
    rcases List.mem_append.mp hv with hv | hv
    · exact (validate_retireVerifier_iff hpos (hsound.credentials v hv)).mp
        (hsound'.credentials _ (List.mem_map_of_mem hv))
    · exact (validate_retireVerifier_iff hpos (hsound.legacies v hv)).mp
        (hsound'.legacies _ (List.mem_map_of_mem hv))
  · intro hbefore
    have haccepted : (k.revokedAt nowS).accepted = [] := by
      rw [accepted, List.filter_eq_nil_iff]
      intro v hv
      rw [status_of_mem_revokedAt hv]
      decide
    refine validate_eq_ok_iff.mpr ⟨{ hsound with
      timeHighWater := hpos
      credentialCount := by simpa [revokedAt] using hsound.credentialCount
      credentials := ?_
      legacyCount := by simpa [revokedAt] using hsound.legacyCount
      legacies := ?_
      issued_le := hsound.issued_le.trans hnow
      some_verifier := by simpa [verifiers_revokedAt] using hsound.some_verifier
      verifierCount := by simpa [verifiers_revokedAt] using hsound.verifierCount
      generations_nodup := by
        rw [verifiers_revokedAt, generations_map_retireVerifier]
        exact hsound.generations_nodup
      newest := by
        rw [verifiers_revokedAt, generations_map_retireVerifier]
        exact hsound.newest
      windows := ?_
      acceptedCount := by simp [haccepted]
      terminal_accepted := fun _ => haccepted
      active_newest := fun h => by simp [terminal, revokedAt] at h }, ?_, ?_⟩
    · intro w hw
      obtain ⟨v, hv, rfl⟩ := List.mem_map.mp hw
      exact (validate_retireVerifier_iff hpos (hsound.credentials v hv)).mpr
        (hbefore v (List.mem_append_left _ hv))
    · intro w hw
      obtain ⟨v, hv, rfl⟩ := List.mem_map.mp hw
      exact (validate_retireVerifier_iff hpos (hsound.legacies v hv)).mpr
        (hbefore v (List.mem_append_right _ hv))
    · intro w hw
      rw [verifiers_revokedAt] at hw
      obtain ⟨v, hv, rfl⟩ := List.mem_map.mp hw
      exact ⟨(hsound.windows v hv).1, (min_le_left _ _).trans (hsound.windows v hv).2⟩
    · rw [generationsIncreasing, show (k.revokedAt nowS).credentialVerifiers =
        k.credentialVerifiers.map (retireVerifier nowS) from rfl, generations_map_retireVerifier]
      exact hcredential
    · rw [generationsIncreasing, show (k.revokedAt nowS).legacyVerifiers =
        k.legacyVerifiers.map (retireVerifier nowS) from rfl, generations_map_retireVerifier]
      exact hlegacy

/-! ## The delta is accepted -/

/-- Retiring a verifier is a step its status allows unless the verifier had expired. -/
theorem validateExistingVerifier_retire_iff (v : ClientVerifier) :
    validateExistingVerifier v (v.1, retireVerifier nowS v.2) = .ok () ↔ v.2.status ≠ .expired := by
  simp only [validateExistingVerifier, bind_eq_ok_iff, requireValue_eq_ok_iff, exists_unit_and_iff]
  constructor
  · rintro ⟨-, -, -, hstatus⟩ hexpired
    rw [hexpired] at hstatus
    revert hstatus
    simp [CredentialVerifierStatus.allowed, retireVerifier]
  · intro h
    refine ⟨trivial, ⟨rfl, rfl, rfl⟩, min_le_left _ _, ?_⟩
    show CredentialVerifierStatus.retired ∈ v.2.status.allowed
    cases hs : v.2.status with
    | active => decide
    | retiring => decide
    | retired => decide
    | expired => exact absurd hs h

theorem validateGenerations_revokedAt_iff (hk : k.Sound) (hk' : (k.revokedAt nowS).Sound) :
    k.validateGenerations (k.revokedAt nowS) = .ok () ↔
      ∀ v ∈ k.verifiers, v.status ≠ .expired := by
  have hpartner : ∀ v ∈ k.clientVerifiers,
      (k.revokedAt nowS).byGeneration.get? v.2.generation =
        some (v.1, retireVerifier nowS v.2) := by
    intro v hv
    refine hk'.get?_byGeneration.mpr ⟨?_, rfl⟩
    rw [clientVerifiers_revokedAt]
    exact List.mem_map_of_mem hv
  -- every generation was there before
  have hadded : ((k.revokedAt nowS).byGeneration.entries.filter
      fun q => !k.byGeneration.contains q.1) = [] := by
    rw [List.filter_eq_nil_iff]
    rintro ⟨g, w⟩ hq
    obtain ⟨hw, rfl⟩ := hk'.get?_byGeneration.mp (Dict.mem_entries_iff.mp hq)
    rw [clientVerifiers_revokedAt] at hw
    obtain ⟨v, hv, rfl⟩ := List.mem_map.mp hw
    have hget := hk.get?_byGeneration.mpr ⟨hv, rfl⟩
    show ¬ (!k.byGeneration.contains v.2.generation) = true
    simp [Dict.contains, hget]
  have hmem : ∀ v : CredentialVerifier, v ∈ k.verifiers ↔ ∃ c, (c, v) ∈ k.clientVerifiers := by
    intro v
    simp [verifiers, clientVerifiers, exists_or]
  simp only [validateGenerations, hadded, forEach, ok_bind, bind_eq_ok_iff, forEach_eq_ok_iff,
    exists_const, lt_irrefl, show (k.revokedAt nowS).generationHighWater =
      k.generationHighWater from rfl, if_false, requireValue_eq_ok_iff, and_true]
  constructor
  · intro h v hv
    obtain ⟨c, hc⟩ := (hmem v).mp hv
    have hget := hk.get?_byGeneration.mpr ⟨hc, rfl⟩
    have hcheck := h _ (Dict.mem_entries_iff.mpr hget)
    rw [hpartner _ hc] at hcheck
    exact (validateExistingVerifier_retire_iff (c, v)).mp hcheck
  · rintro h ⟨g, v⟩ hq
    obtain ⟨hv, rfl⟩ := hk.get?_byGeneration.mp (Dict.mem_entries_iff.mp hq)
    rw [hpartner _ hv]
    exact (validateExistingVerifier_retire_iff v).mpr (h v.2 ((hmem v.2).mpr ⟨v.1, hv⟩))

theorem validateDelta_revokedAt_iff (hk : k.validate = .ok ())
    (hk' : (k.revokedAt nowS).validate = .ok ()) (hlive : k.terminal = false)
    (hnow : k.timeHighWaterS ≤ nowS) :
    k.validateDelta (k.revokedAt nowS) none = .ok () ↔ ∀ v ∈ k.verifiers, v.status ≠ .expired := by
  have hpolicy : k.validatePolicyReassignment (k.revokedAt nowS) none = .ok () := by
    have hsame : ¬ (k.revokedAt nowS).policyId ≠ k.policyId := not_not.mpr rfl
    rw [validatePolicyReassignment, if_neg hsame, requireValue_eq_ok_iff]
    intro r hr
    cases hr
  have hoverlap : (k.revokedAt nowS).validateOverlap = .ok () := by
    have hnone : ((k.revokedAt nowS).clientVerifiers.find? fun v => v.2.status == .active) =
        none := by
      rw [clientVerifiers_revokedAt, List.find?_eq_none]
      intro v hv
      obtain ⟨w, -, rfl⟩ := List.mem_map.mp hv
      show ¬ (CredentialVerifierStatus.retired == .active) = true
      decide
    rw [validateOverlap, hnone]
  rw [← validateGenerations_revokedAt_iff (validate_eq_ok_iff.mp hk).1
    (validate_eq_ok_iff.mp hk').1]
  simp only [validateDelta, hk, hk', hlive, hpolicy, ok_bind, bind_eq_ok_iff,
    requireValue_eq_ok_iff, exists_unit_and_iff, Bool.false_eq_true, if_false]
  exact ⟨fun h => h.2.2.2.2.2.2.1, fun h => ⟨rfl, rfl, hnow, le_refl _, le_refl _, le_refl _, h,
    hoverlap⟩⟩

/-! ## Revocation -/

theorem revokeKey_eq_ok_iff (hk : k.validate = .ok ()) (hstate : k.state ≠ .revoked)
    (hnow : k.timeHighWaterS ≤ nowS) (hlive : nowS < k.expiresAtS) {k' : ClientKeyRecord} :
    k.revokeKey nowS = .ok k' ↔
      (∀ v ∈ k.verifiers, v.status ≠ .expired ∧ v.notBeforeS ≤ nowS) ∧
        k' = k.revokedAt nowS := by
  have hterminal : k.terminal = false := by
    have hexpiry : ¬ k.expiresAtS ≤ k.timeHighWaterS := by omega
    simp [terminal, hstate, hexpiry]
  have hnext : keyTransition k.state .revoke = .ok .revoked := by
    cases hs : k.state with
    | revoked => exact absurd hs hstate
    | draft => rfl
    | enabled => rfl
    | suspended => rfl
  have hrun : k.revokeKey nowS = .ok k' ↔ (k.revokedAt nowS).validate = .ok () ∧
      k.validateDelta (k.revokedAt nowS) none = .ok () ∧ k.revokedAt nowS = k' := by
    rw [revokeKey, if_neg hstate, hnext]
    simp only [requireLiveTime, transition, bind_eq_ok_iff, requireValue_eq_ok_iff, hnow, hlive,
      ok_bind, exists_unit_and_iff, pure_eq_ok, Except.ok.injEq, true_and, exists_const]
    exact Iff.rfl
  rw [hrun]
  constructor
  · rintro ⟨hvalid, hdelta, rfl⟩
    have hbefore := (validate_revokedAt_iff hk hnow).mp hvalid
    have hkinds := (validateDelta_revokedAt_iff hk hvalid hterminal hnow).mp hdelta
    exact ⟨fun v hv => ⟨hkinds v hv, hbefore v hv⟩, rfl⟩
  · rintro ⟨h, rfl⟩
    have hvalid := (validate_revokedAt_iff hk hnow).mpr fun v hv => (h v hv).2
    exact ⟨hvalid, (validateDelta_revokedAt_iff hk hvalid hterminal hnow).mpr
      fun v hv => (h v hv).1, rfl⟩

/-- Revocation succeeds: it returns a revoked record of the same key and generation mark without an
accepted verifier, and no credential of the key is let in by a view that serves the record, nor any
queued work of it. -/
def Revokes (k : ClientKeyRecord) (nowS : Nat) : Prop :=
  ∃ k', k.revokeKey nowS = .ok k' ∧ k'.state = .revoked ∧ k'.keyId = k.keyId ∧
    k'.generationHighWater = k.generationHighWater ∧
    (∀ v ∈ k'.verifiers, v.status ≠ .active ∧ v.status ≠ .retiring) ∧
    ∀ view : AuthRuntimeView, view.keyIndex.get? k.keyId = some k' →
      (∀ hmac parsed client, verifyClientKey hmac view parsed = .ok client →
        client.keyId ≠ k.keyId) ∧
      ∀ client, client.keyId = k.keyId → queuedIdentityIsAuthorized client view = false

/-- **A key can be revoked exactly when none of its verifiers has expired and the window of each
has begun.** -/
theorem revoke_key_succeeds_iff (hk : k.validate = .ok ()) (hstate : k.state ≠ .revoked)
    (hnow : k.timeHighWaterS ≤ nowS) (hlive : nowS < k.expiresAtS) :
    k.Revokes nowS ↔ ∀ v ∈ k.verifiers, v.status ≠ .expired ∧ v.notBeforeS ≤ nowS := by
  constructor
  · rintro ⟨k', hrevoke, -⟩
    exact ((revokeKey_eq_ok_iff hk hstate hnow hlive).mp hrevoke).1
  · intro h
    refine ⟨k.revokedAt nowS, (revokeKey_eq_ok_iff hk hstate hnow hlive).mpr ⟨h, rfl⟩, rfl, rfl,
      rfl, ?_, ?_⟩
    · intro v hv
      rw [status_of_mem_revokedAt hv]
      decide
    · -- whoever is let in has an enabled record, and the view serves a revoked one
      intro view hserved
      have hnot : ∀ record, view.keyIndex.get? k.keyId = some record → record.state ≠ .enabled := by
        intro record hget
        rw [hserved] at hget
        cases hget
        show KeyLifecycleState.revoked ≠ .enabled
        decide
      constructor
      · intro hmac parsed client hclient hid
        obtain ⟨record, hget, henabled⟩ := enabled_of_verifyClientKey hclient
        rw [hid] at hget
        exact hnot record hget henabled
      · intro client hid
        rw [Bool.eq_false_iff]
        intro hqueued
        obtain ⟨record, hget, henabled⟩ := enabled_of_queuedIdentityIsAuthorized hqueued
        rw [hid] at hget
        exact hnot record hget henabled

/-- A key whose older generation ran out before it was rotated away. -/
def expiredRotation : ClientKeyRecord :=
  { rotatingKey 1 2 with
    credentialVerifiers := [sampleVerifier 1 .expired, sampleVerifier 2 .active] }

/-- The key is valid and live, and revoking it raises. -/
theorem expired_generation_blocks_revocation :
    expiredRotation.validate = .ok () ∧ expiredRotation.state ≠ .revoked ∧
      expiredRotation.timeHighWaterS ≤ 3 ∧ 3 < expiredRotation.expiresAtS ∧
      ¬ expiredRotation.Revokes 3 := by
  refine ⟨by decide +kernel, by decide, by decide, by decide, ?_⟩
  rintro ⟨k', hrevoke, -⟩
  have hraises : expiredRotation.revokeKey 3 =
      .error (.value "terminal credential generation cannot resurrect") := by
    decide +kernel
  rw [hraises] at hrevoke
  cases hrevoke

theorem rotatingKey_revokes : (rotatingKey 1 2).Revokes 3 :=
  (revoke_key_succeeds_iff (rotatingKey_valid (by decide) (by decide)) (by decide) (by decide)
    (by decide)).mpr (by decide)

end ClientKeyRecord

end LlmMaxxing
