import LlmMaxxing.Control.Keys
import LlmMaxxing.Gateway.Authentication

/-!
# Rotating a client key (`control/keys.py`)

`rotateKey` closes the window of the active verifier after the overlap, adds a verifier of the next
generation and drops the rest. Whatever commands a key went through, it has one active verifier, and
that verifier's window runs from the past to the expiry of the key. `rotate_key_hands_over` says
that the rotation passes every check and who is let in from then on.
-/

namespace LlmMaxxing

open Check KeyMaterial

/-! ## Commands -/

/-- What a key command raises. -/
inductive KeyCommandError where
  | validation (error : ValidationError)
  | verifier (error : AuthError)
  | material (error : KeyMaterialError)
  | stopIteration
  deriving DecidableEq, Repr

/-- `_validate_pepper`. -/
def validatePepper (pepper : Bytes) (pepperVersion : String) : Validation Unit := do
  requireValue (32 ≤ pepper.length) "client-key pepper must contain at least 256 bits"
  requireValue (pepperVersion ≠ "") "client-key pepper version is required"

section Commands

variable (hmac : Bytes → Bytes → Bytes)

/-- `_new_material`, with the secret that `secrets.token_bytes(32)` draws. -/
def newMaterial (secret keyIdBytes pepper : Bytes) (pepperVersion : String)
    (generation nowS expiresAtS : Nat) :
    Except KeyCommandError (ClientCredentialVerifier × String) := do
  let digest ← (computeClientKeyVerifier hmac pepper keyIdBytes secret).mapError .verifier
  let v : ClientCredentialVerifier :=
    { generation, pepperVersion
      secretHex := hex digest
      notBeforeS := nowS
      notAfterS := expiresAtS
      status := .active }
  (ClientCredentialVerifier.validate v).mapError .validation
  let value ← (formatClientKey keyIdBytes secret).mapError .material
  return (v, value)

/-- `DEFAULT_KEY_LIFETIME_S`. -/
def defaultKeyLifetimeS : Nat := 90 * 86_400

/-- `MAX_KEY_LIFETIME_S`. -/
def maxKeyLifetimeS : Nat := 365 * 86_400

/-- `_policy_id`. -/
def policyIdOf : KeyPolicyRevision ⊕ PolicyRevisionId → PolicyRevisionId
  | .inl policy => policy.policyId
  | .inr policyId => policyId

/-- `issue_key`, with the bytes that `secrets.token_bytes` draws. -/
def issueKey (policy : KeyPolicyRevision ⊕ PolicyRevisionId) (expiry : Option Nat) (pepper : Bytes)
    (pepperVersion : String) (nowS : Nat) (initialState : KeyLifecycleState)
    (keyIdBytes secret : Bytes) : Except KeyCommandError (ClientKeyRecord × String) := do
  (validatePepper pepper pepperVersion).mapError .validation
  let expiresAtS := expiry.getD (nowS + defaultKeyLifetimeS)
  (requireValue (nowS < expiresAtS) "client key expiry must be in the future").mapError .validation
  (requireValue (expiresAtS - nowS ≤ maxKeyLifetimeS)
    "client key expiry cannot exceed 365 days").mapError .validation
  let (v, value) ← newMaterial hmac secret keyIdBytes pepper pepperVersion 1 nowS expiresAtS
  let record : ClientKeyRecord :=
    { expiresAtS
      keyId := hex keyIdBytes
      policyId := policyIdOf policy
      state := initialState
      issuedAtS := nowS
      timeHighWaterS := nowS
      generationHighWater := 1
      credentialVerifiers := [v] }
  record.validate.mapError .validation
  return (record, value)

namespace ClientKeyRecord

/-- `activate_key`, `suspend_key` and `resume_key`, by their event. -/
def changeState (k : ClientKeyRecord) (event : KeyEvent) (nowS : Nat) :
    Validation ClientKeyRecord := do
  requireValue (k.state ≠ .revoked) "revoked client key is terminal"
  k.requireLiveTime nowS
  let state ← keyTransition k.state event
  k.transition nowS state k.credentialVerifiers k.legacyVerifiers

/-- `activate_key`. -/
def activateKey (k : ClientKeyRecord) (nowS : Nat) : Validation ClientKeyRecord :=
  k.changeState .activate nowS

/-- `suspend_key`. -/
def suspendKey (k : ClientKeyRecord) (nowS : Nat) : Validation ClientKeyRecord :=
  k.changeState .suspend nowS

/-- `resume_key`. -/
def resumeKey (k : ClientKeyRecord) (nowS : Nat) : Validation ClientKeyRecord :=
  k.changeState .resume nowS

/-- `reassign_key_policy`, with `_transition` to the target policy. -/
def reassignKeyPolicy (k : ClientKeyRecord) (reassignment : PolicyReassignment) (nowS : Nat) :
    Validation ClientKeyRecord := do
  k.requireLiveTime nowS
  requireValue (reassignment.expectedPolicyId = k.policyId)
    "policy reassignment expected policy does not match"
  let candidate :=
    { k with timeHighWaterS := nowS, policyId := reassignment.targetPolicyId }
  candidate.validate
  k.validateDelta candidate (some reassignment)
  return candidate

/-- The last active verifier, with its class. -/
def currentVerifier (k : ClientKeyRecord) : Option ClientVerifier :=
  k.clientVerifiers.reverse.find? fun v => v.2.status == .active

/-- The verifier a rotation retires. -/
def retiringVerifier (k : ClientKeyRecord) (nowS overlapS : Nat) (v : CredentialVerifier) :
    CredentialVerifier :=
  { v with
    status := if overlapS ≠ 0 then .retiring else .retired
    notAfterS := min k.expiresAtS (nowS + overlapS) }

/-- `rotate_key`, with the secret that `secrets.token_bytes(32)` draws. -/
def rotateKey (k : ClientKeyRecord) (pepper : Bytes) (pepperVersion : String)
    (nowS overlapS : Nat) (secret : Bytes) : Except KeyCommandError (ClientKeyRecord × String) := do
  (validatePepper pepper pepperVersion).mapError .validation
  (k.requireLiveTime nowS).mapError .validation
  (requireValue (k.state ≠ .revoked) "revoked client key is terminal").mapError .validation
  (requireValue (overlapS ≤ maxRotationOverlapS)
    "credential overlap must be between zero and seven days").mapError .validation
  match k.currentVerifier with
  | none => .error .stopIteration
  | some current => do
    let retiring := k.retiringVerifier nowS overlapS current.2
    let keyIdBytes ← (storedDigest k.keyId).mapError .verifier
    let generation := k.generationHighWater + 1
    let (v, value) ← newMaterial hmac secret keyIdBytes pepper pepperVersion generation nowS
      k.expiresAtS
    let candidate :=
      { k with
        timeHighWaterS := nowS
        generationHighWater := generation
        credentialVerifiers := if current.1 = .canonical then [retiring, v] else [v]
        legacyVerifiers := if current.1 = .legacy then [retiring] else [] }
    candidate.validate.mapError .validation
    (k.validateDelta candidate none).mapError .validation
    return (candidate, value)

end ClientKeyRecord

/-- The records that commands make of a key, from its issue on. -/
inductive Commanded : ClientKeyRecord → Prop where
  | issue {policy expiry pepper pepperVersion nowS initialState keyIdBytes secret k value}
      (h : issueKey hmac policy expiry pepper pepperVersion nowS initialState keyIdBytes secret =
        .ok (k, value)) : Commanded k
  | activate {k nowS k'} (hk : Commanded k) (h : k.activateKey nowS = .ok k') : Commanded k'
  | suspend {k nowS k'} (hk : Commanded k) (h : k.suspendKey nowS = .ok k') : Commanded k'
  | resume {k nowS k'} (hk : Commanded k) (h : k.resumeKey nowS = .ok k') : Commanded k'
  | reassign {k reassignment nowS k'} (hk : Commanded k)
      (h : k.reassignKeyPolicy reassignment nowS = .ok k') : Commanded k'
  | rotate {k pepper pepperVersion nowS overlapS secret k' value} (hk : Commanded k)
      (h : k.rotateKey hmac pepper pepperVersion nowS overlapS secret = .ok (k', value)) :
      Commanded k'

end Commands

/-! ## One active verifier, begun and open to the end -/

namespace ClientKeyRecord

/-- What every command keeps of a key. -/
structure InService (k : ClientKeyRecord) : Prop where
  valid : k.validate = .ok ()
  legacy : k.legacyVerifiers = []
  live : k.terminal = false
  begun : ∀ v ∈ k.credentialVerifiers, v.status = .active →
    v.notBeforeS ≤ k.timeHighWaterS ∧ v.notAfterS = k.expiresAtS

variable {hmac : Bytes → Bytes → Bytes} {k k' : ClientKeyRecord} {pepper secret : Bytes}
  {pepperVersion value : String} {nowS overlapS : Nat}

theorem InService.sound (h : k.InService) : k.Sound := (validate_eq_ok_iff.mp h.valid).1

theorem InService.verifiers_eq (h : k.InService) : k.verifiers = k.credentialVerifiers := by
  rw [verifiers, h.legacy, List.append_nil]

theorem InService.clientVerifiers_eq (h : k.InService) :
    k.clientVerifiers = k.credentialVerifiers.map (.canonical, ·) := by
  rw [clientVerifiers, h.legacy, List.map_nil, List.append_nil]

theorem terminal_eq_false_iff : k.terminal = false ↔
    k.state ≠ .revoked ∧ k.timeHighWaterS < k.expiresAtS := by
  simp [terminal]

/-- The active verifier is the newest one, and the one a rotation takes. -/
theorem InService.exists_current (h : k.InService) :
    ∃ v ∈ k.credentialVerifiers, k.currentVerifier = some (.canonical, v) ∧ v.status = .active ∧
      v.generation = k.generationHighWater ∧ k.active = [v] := by
  have hactive := h.sound.active_newest h.live
  obtain ⟨w, hw⟩ : ∃ w, k.active = [w] := by
    cases hvs : k.active with
    | nil =>
      rw [hvs] at hactive
      cases hactive
    | cons w rest =>
      rw [hvs] at hactive
      cases rest with
      | nil => exact ⟨w, rfl⟩
      | cons _ _ => simp at hactive
  have hmem : ∀ v, v ∈ k.credentialVerifiers ∧ v.status = .active ↔ v = w := by
    intro v
    have hone : v ∈ k.active ↔ v = w := by rw [hw, List.mem_singleton]
    rw [← hone, active, List.mem_filter, h.verifiers_eq, beq_iff_eq]
  obtain ⟨hin, hstatus⟩ := (hmem w).mpr rfl
  cases hfind : k.currentVerifier with
  | none =>
    rw [currentVerifier, List.find?_eq_none] at hfind
    have hnot := hfind (.canonical, w)
      (by rw [List.mem_reverse, h.clientVerifiers_eq]; exact List.mem_map_of_mem hin)
    simp [hstatus] at hnot
  | some q =>
    have hq := List.mem_of_find?_eq_some hfind
    rw [List.mem_reverse, h.clientVerifiers_eq, List.mem_map] at hq
    obtain ⟨v, hv, rfl⟩ := hq
    have hactive' : v.status = .active := by simpa using List.find?_some hfind
    have heq := (hmem v).mp ⟨hv, hactive'⟩
    subst heq
    rw [hw] at hactive
    exact ⟨v, hin, rfl, hstatus, by simpa using hactive, hw⟩

/-- The record a rotation builds. -/
def rotatedTo (k : ClientKeyRecord) (nowS : Nat) (retiring next : CredentialVerifier) :
    ClientKeyRecord :=
  { k with
    timeHighWaterS := nowS
    generationHighWater := k.generationHighWater + 1
    credentialVerifiers := [retiring, next]
    legacyVerifiers := [] }

/-- The verifier a rotation adds. -/
def nextVerifier (hmac : Bytes → Bytes → Bytes) (k : ClientKeyRecord) (pepper : Bytes)
    (pepperVersion : String) (nowS : Nat) (keyIdBytes secret : Bytes) : CredentialVerifier where
  generation := k.generationHighWater + 1
  secretHex := hex (hmac pepper (clientKeyDomain ++ keyIdBytes ++ secret))
  pepperVersion := pepperVersion
  notBeforeS := nowS
  notAfterS := k.expiresAtS
  status := .active

theorem newMaterial_eq_ok_iff {keyIdBytes : Bytes} {generation expiresAtS : Nat}
    {v : ClientCredentialVerifier} :
    newMaterial hmac secret keyIdBytes pepper pepperVersion generation nowS expiresAtS =
      .ok (v, value) ↔
      v = ⟨generation, hex (hmac pepper (clientKeyDomain ++ keyIdBytes ++ secret)), pepperVersion,
        nowS, expiresAtS, .active⟩ ∧ ClientCredentialVerifier.validate v = .ok () ∧
        formatClientKey keyIdBytes secret = .ok value := by
  simp only [newMaterial, computeClientKeyVerifier, bind_eq_ok_iff, mapError_eq_ok_iff,
    require_eq_ok_iff, pure_eq_ok, Except.ok.injEq, exists_unit_and_iff, Prod.mk.injEq]
  constructor
  · rintro ⟨digest, ⟨hlength, rfl⟩, hvalid, text, hformat, rfl, rfl⟩
    exact ⟨rfl, hvalid, hformat⟩
  · rintro ⟨rfl, hvalid, hformat⟩
    have hlength := hformat
    simp only [formatClientKey, bind_eq_ok_iff, require_eq_ok_iff, exists_unit_and_iff] at hlength
    exact ⟨_, ⟨hlength.1, rfl⟩, hvalid, value, hformat, rfl, rfl⟩

/-- **What `rotate_key` builds of a key in service.** -/
theorem InService.rotateKey_eq_ok_iff (h : k.InService) {current : CredentialVerifier}
    (hcurrent : k.currentVerifier = some (.canonical, current)) :
    k.rotateKey hmac pepper pepperVersion nowS overlapS secret = .ok (k', value) ↔
      validatePepper pepper pepperVersion = .ok () ∧ k.requireLiveTime nowS = .ok () ∧
        overlapS ≤ maxRotationOverlapS ∧ ∃ keyIdBytes, storedDigest k.keyId = .ok keyIdBytes ∧
          ClientCredentialVerifier.validate
            (k.nextVerifier hmac pepper pepperVersion nowS keyIdBytes secret) = .ok () ∧
          formatClientKey keyIdBytes secret = .ok value ∧
          k' = k.rotatedTo nowS (k.retiringVerifier nowS overlapS current)
            (k.nextVerifier hmac pepper pepperVersion nowS keyIdBytes secret) ∧
          k'.validate = .ok () ∧ k.validateDelta k' none = .ok () := by
  have hstate := (terminal_eq_false_iff.mp h.live).1
  unfold rotateKey
  rw [hcurrent]
  simp only [bind_eq_ok_iff, mapError_eq_ok_iff, requireValue_eq_ok_iff, exists_unit_and_iff,
    Prod.exists, newMaterial_eq_ok_iff, pure_eq_ok, Except.ok.injEq, Prod.mk.injEq, if_true]
  constructor
  · rintro ⟨hpepper, hlive, -, hoverlap, keyIdBytes, hid, v, text, ⟨rfl, hvalid, hformat⟩, hrecord,
      hdelta, rfl, rfl⟩
    exact ⟨hpepper, hlive, hoverlap, keyIdBytes, hid, hvalid, hformat, rfl, hrecord, hdelta⟩
  · rintro ⟨hpepper, hlive, hoverlap, keyIdBytes, hid, hvalid, hformat, rfl, hrecord, hdelta⟩
    exact ⟨hpepper, hlive, hstate, hoverlap, keyIdBytes, hid, _, value, ⟨rfl, hvalid, hformat⟩,
      hrecord, hdelta, rfl, rfl⟩

/-! ## Commands keep a key in service -/

theorem inService_of_issueKey {policy : KeyPolicyRevision ⊕ PolicyRevisionId} {expiry : Option Nat}
    {initialState : KeyLifecycleState} {keyIdBytes : Bytes}
    (h : issueKey hmac policy expiry pepper pepperVersion nowS initialState keyIdBytes secret =
      .ok (k, value)) : k.InService := by
  simp only [issueKey, bind_eq_ok_iff, mapError_eq_ok_iff, requireValue_eq_ok_iff,
    exists_unit_and_iff, Prod.exists, newMaterial_eq_ok_iff, pure_eq_ok, Except.ok.injEq,
    Prod.mk.injEq] at h
  obtain ⟨-, hfuture, -, v, text, ⟨rfl, -, -⟩, hvalid, rfl, -⟩ := h
  have hsound := (validate_eq_ok_iff.mp hvalid).1
  refine ⟨hvalid, rfl, ?_, ?_⟩
  · -- a terminal key has no accepted verifier, and this one has
    rw [Bool.eq_false_iff]
    intro hterminal
    have hnone := hsound.terminal_accepted hterminal
    simp [accepted, verifiers] at hnone
  · intro v hv _
    rw [List.mem_singleton.mp hv]
    exact ⟨le_refl _, rfl⟩

theorem requireLiveTime_eq_ok_iff : k.requireLiveTime nowS = .ok () ↔
    k.timeHighWaterS ≤ nowS ∧ nowS < k.expiresAtS := by
  simp only [requireLiveTime, bind_eq_ok_iff, requireValue_eq_ok_iff, exists_unit_and_iff]

theorem InService.of_changeState (h : k.InService) {event : KeyEvent} (hevent : event ≠ .revoke)
    (hrun : k.changeState event nowS = .ok k') : k'.InService := by
  simp only [changeState, transition, bind_eq_ok_iff, requireValue_eq_ok_iff, exists_unit_and_iff,
    requireLiveTime_eq_ok_iff, pure_eq_ok, Except.ok.injEq] at hrun
  obtain ⟨-, ⟨hnow, hlive⟩, state, hstate, hvalid, -, rfl⟩ := hrun
  have hne : state ≠ .revoked := by
    rintro rfl
    revert hstate
    cases hk : k.state <;> cases event <;> simp [keyTransition] at hevent ⊢
  exact ⟨hvalid, h.legacy, terminal_eq_false_iff.mpr ⟨hne, hlive⟩, fun v hv hactive =>
    ⟨(h.begun v hv hactive).1.trans hnow, (h.begun v hv hactive).2⟩⟩

theorem InService.of_reassign (h : k.InService) {reassignment : PolicyReassignment}
    (hrun : k.reassignKeyPolicy reassignment nowS = .ok k') : k'.InService := by
  simp only [reassignKeyPolicy, bind_eq_ok_iff, requireValue_eq_ok_iff, exists_unit_and_iff,
    requireLiveTime_eq_ok_iff, pure_eq_ok, Except.ok.injEq] at hrun
  obtain ⟨⟨hnow, hlive⟩, -, hvalid, -, rfl⟩ := hrun
  have hstate := (terminal_eq_false_iff.mp h.live).1
  exact ⟨hvalid, h.legacy, terminal_eq_false_iff.mpr ⟨hstate, hlive⟩, fun v hv hactive =>
    ⟨(h.begun v hv hactive).1.trans hnow, (h.begun v hv hactive).2⟩⟩

theorem InService.of_rotate (h : k.InService)
    (hrun : k.rotateKey hmac pepper pepperVersion nowS overlapS secret = .ok (k', value)) :
    k'.InService := by
  obtain ⟨current, -, hcurrent, -⟩ := h.exists_current
  obtain ⟨-, hlive, -, keyIdBytes, -, -, -, rfl, hvalid, -⟩ := (h.rotateKey_eq_ok_iff hcurrent).mp hrun
  have hstate := (terminal_eq_false_iff.mp h.live).1
  refine ⟨hvalid, rfl, terminal_eq_false_iff.mpr ⟨hstate, (requireLiveTime_eq_ok_iff.mp hlive).2⟩, ?_⟩
  intro v hv hactive
  rcases List.mem_cons.mp hv with rfl | hv
  · -- what was active is retiring or retired now
    revert hactive
    simp only [retiringVerifier]
    split <;> simp
  · rw [List.mem_singleton.mp hv]
    exact ⟨le_refl _, rfl⟩

/-- **Every record that commands make of a key is in service.** -/
theorem InService.of_commanded (h : Commanded hmac k) : k.InService := by
  induction h with
  | issue h => exact inService_of_issueKey h
  | activate _ h ih => exact ih.of_changeState (by decide) h
  | suspend _ h ih => exact ih.of_changeState (by decide) h
  | resume _ h ih => exact ih.of_changeState (by decide) h
  | reassign _ h ih => exact ih.of_reassign h
  | rotate _ h ih => exact ih.of_rotate h

/-! ## The rotated record passes -/

theorem isHex64_hex {b : Bytes} (h : b.length = 32) : isHex64 (hex b) = true := by
  have hchars : ∀ n : Fin 16, isLowerHex (Nat.digitChar n) = true := by decide
  have hall : ∀ c ∈ (hex b).toList, isLowerHex c = true := by
    intro c hc
    rw [hex, String.toList_ofList, List.mem_flatMap] at hc
    obtain ⟨x, -, hc⟩ := hc
    have hlow := hchars ⟨x.toNat % 16, Nat.mod_lt _ (by decide)⟩
    have hhigh := hchars ⟨x.toNat / 16, by have := x.toNat_lt; omega⟩
    rcases List.mem_cons.mp hc with rfl | hc
    · exact hhigh
    · rw [List.mem_singleton.mp hc]
      exact hlow
  have hlength : (hex b).toList.length = 64 := by
    rw [hex, String.toList_ofList, List.length_flatMap]
    simp [h]
  rw [isHex64, isHexOfLength, Bool.and_eq_true, beq_iff_eq, List.all_eq_true]
  exact ⟨hlength, hall⟩

section Rotated

variable {current : CredentialVerifier} {keyIdBytes : Bytes}

theorem InService.validate_next (h : k.InService) (hlen : ∀ key m, (hmac key m).length = 32)
    (hversion : isPepperVersion pepperVersion = true) (hnow : k.timeHighWaterS ≤ nowS)
    (hlive : nowS < k.expiresAtS) : ClientCredentialVerifier.validate
      (k.nextVerifier hmac pepper pepperVersion nowS keyIdBytes secret) = .ok () := by
  have hpos := h.sound.timeHighWater
  refine validateVerifier_eq_ok_iff.mpr ⟨?_, isHex64_hex (hlen _ _), hversion, ?_, ?_, hlive.le⟩
  · show 1 ≤ k.generationHighWater + 1
    omega
  · show 0 < nowS
    omega
  · exact h.sound.expiresAt

theorem InService.validate_retiring (h : k.InService) (hmem : current ∈ k.credentialVerifiers)
    (hactive : current.status = .active) (hnow : k.timeHighWaterS ≤ nowS)
    (hlive : nowS < k.expiresAtS) : ClientCredentialVerifier.validate
      (k.retiringVerifier nowS overlapS current) = .ok () := by
  obtain ⟨hgen, hhex, hpepper, hbefore, -, -⟩ :=
    validateVerifier_eq_ok_iff.mp (h.sound.credentials current hmem)
  have hbegun := (h.begun current hmem hactive).1
  refine validateVerifier_eq_ok_iff.mpr ⟨hgen, hhex, hpepper, hbefore, ?_, ?_⟩
  · show 0 < min k.expiresAtS (nowS + overlapS)
    omega
  · show current.notBeforeS ≤ min k.expiresAtS (nowS + overlapS)
    omega

/-- The rotated record passes the record validator. -/
theorem InService.validate_rotatedTo (h : k.InService) (hlen : ∀ key m, (hmac key m).length = 32)
    (hversion : isPepperVersion pepperVersion = true) (hmem : current ∈ k.credentialVerifiers)
    (hactive : current.status = .active) (hgeneration : current.generation = k.generationHighWater)
    (hnow : k.timeHighWaterS ≤ nowS) (hlive : nowS < k.expiresAtS) :
    (k.rotatedTo nowS (k.retiringVerifier nowS overlapS current)
      (k.nextVerifier hmac pepper pepperVersion nowS keyIdBytes secret)).validate = .ok () := by
  have hsound := h.sound
  have hstate := (terminal_eq_false_iff.mp h.live).1
  have hissued := hsound.issued_le.trans hnow
  set retiring := k.retiringVerifier nowS overlapS current with hretiring
  set next := k.nextVerifier hmac pepper pepperVersion nowS keyIdBytes secret with hnext
  have hverifiers : (k.rotatedTo nowS retiring next).verifiers = [retiring, next] := rfl
  have hstatus : retiring.status ≠ .active := by
    rw [hretiring, retiringVerifier]
    split <;> simp
  have hactive_eq : (k.rotatedTo nowS retiring next).active = [next] := by
    rw [active, hverifiers]
    simp [hstatus, hnext, nextVerifier]
  have hlive' : (k.rotatedTo nowS retiring next).terminal = false :=
    terminal_eq_false_iff.mpr ⟨hstate, hlive⟩
  have hretired : retiring.generation = k.generationHighWater := hgeneration
  have hadded : next.generation = k.generationHighWater + 1 := rfl
  refine validate_eq_ok_iff.mpr ⟨{
    keyId := hsound.keyId
    issuedAt := hsound.issuedAt
    expiresAt := hsound.expiresAt
    timeHighWater := lt_of_lt_of_le hsound.timeHighWater hnow
    generationHighWater := Nat.le_add_left _ _
    credentialCount := le_refl 2
    credentials := ?_
    legacyCount := Nat.zero_le _
    legacies := fun v hv => (by cases hv)
    lifetime := hsound.lifetime
    lifetimeBound := hsound.lifetimeBound
    issued_le := hissued
    some_verifier := List.cons_ne_nil _ _
    verifierCount := le_refl 2
    generations_nodup := by simp [hverifiers, hretired, hadded]
    newest := by
      rw [hverifiers, List.map_cons, List.map_cons, List.map_nil, hretired, hadded]
      show [k.generationHighWater, k.generationHighWater + 1].max? = some (k.generationHighWater + 1)
      simp
    windows := ?_
    acceptedCount := by
      rw [accepted, hverifiers]
      exact List.length_filter_le _ _
    terminal_accepted := fun hterminal => absurd hterminal (by rw [hlive']; decide)
    active_newest := fun _ => by rw [hactive_eq]; rfl }, ?_, ?_⟩
  · intro v hv
    rcases List.mem_cons.mp hv with rfl | hv
    · exact h.validate_retiring hmem hactive hnow hlive
    · rw [List.mem_singleton.mp hv]
      exact h.validate_next hlen hversion hnow hlive
  · intro v hv
    rcases List.mem_cons.mp hv with rfl | hv
    · exact ⟨(hsound.windows current (by rw [h.verifiers_eq]; exact hmem)).1, min_le_left _ _⟩
    · rw [List.mem_singleton.mp hv]
      exact ⟨hissued, le_refl _⟩
  · show generationsIncreasing [retiring, next]
    rw [generationsIncreasing_pair, hretired, hadded]
    exact Nat.le_succ _
  · show generationsIncreasing []
    rfl

/-- The delta from the record to the rotated one is accepted. -/
theorem InService.validateDelta_rotatedTo (h : k.InService) {next : CredentialVerifier}
    (hvalid : (k.rotatedTo nowS (k.retiringVerifier nowS overlapS current) next).validate = .ok ())
    (hmem : current ∈ k.credentialVerifiers) (hactive : current.status = .active)
    (hnow : k.timeHighWaterS ≤ nowS) (hoverlap : overlapS ≤ maxRotationOverlapS)
    (hnext : next.generation = k.generationHighWater + 1 ∧ next.notBeforeS = nowS ∧
      next.status = .active) :
    k.validateDelta (k.rotatedTo nowS (k.retiringVerifier nowS overlapS current) next) none =
      .ok () := by
  obtain ⟨hadded, hbefore, hnew⟩ := hnext
  have hsound := h.sound
  have hsound' := (validate_eq_ok_iff.mp hvalid).1
  set retiring := k.retiringVerifier nowS overlapS current with hretiring
  have hclient : (k.rotatedTo nowS retiring next).clientVerifiers =
      [(.canonical, retiring), (.canonical, next)] := rfl
  have hcurrent : (VerifierKind.canonical, current) ∈ k.clientVerifiers := by
    rw [h.clientVerifiers_eq]
    exact List.mem_map_of_mem hmem
  have hretired : retiring.status ≠ .active := by
    rw [hretiring, retiringVerifier]
    split <;> simp
  have hgens : k.validateGenerations (k.rotatedTo nowS retiring next) = .ok () := by
    have hexisting : validateExistingVerifier (.canonical, current) (.canonical, retiring) = .ok () := by
      simp only [validateExistingVerifier, bind_eq_ok_iff, requireValue_eq_ok_iff,
        exists_unit_and_iff]
      refine ⟨trivial, ⟨rfl, rfl, rfl⟩, ?_, ?_⟩
      · rw [(h.begun current hmem hactive).2]
        exact min_le_left _ _
      · rw [hactive, hretiring, retiringVerifier]
        split <;> simp [CredentialVerifierStatus.allowed]
    simp only [validateGenerations, bind_eq_ok_iff, forEach_eq_ok_iff, exists_unit_and_iff]
    refine ⟨?_, ?_, ?_⟩
    · -- of the old generations only the active one is still there
      rintro ⟨g, v⟩ hq
      obtain ⟨hv, rfl⟩ := hsound.get?_byGeneration.mp (Dict.mem_entries_iff.mp hq)
      cases hget : (k.rotatedTo nowS retiring next).byGeneration.get? v.2.generation with
      | none => rfl
      | some w =>
        obtain ⟨hw, hgen⟩ := hsound'.get?_byGeneration.mp hget
        have hle := hsound.generation_le hv
        rw [hclient] at hw
        rcases List.mem_cons.mp hw with rfl | hw
        · have heq : v = (.canonical, current) :=
            hsound.eq_of_generation_eq hv hcurrent hgen.symm
          rw [heq]
          exact hexisting
        · rw [List.mem_singleton.mp hw, hadded] at hgen
          omega
    · rintro ⟨g, w⟩ hq
      obtain ⟨hentry, hfresh⟩ := List.mem_filter.mp hq
      obtain ⟨hw, rfl⟩ := hsound'.get?_byGeneration.mp (Dict.mem_entries_iff.mp hentry)
      rw [hclient] at hw
      rcases List.mem_cons.mp hw with rfl | hw
      · have hget := hsound.get?_byGeneration.mpr ⟨hcurrent, rfl⟩
        have hsame : retiring.generation = current.generation := rfl
        simp [Dict.contains, hsame, hget] at hfresh
      · rw [List.mem_singleton.mp hw]
        simp only [validateNewVerifier, bind_eq_ok_iff, requireValue_eq_ok_iff, exists_unit_and_iff,
          hadded, hbefore]
        exact ⟨Nat.lt_succ_self _, hnow, le_refl _⟩
    · have hget : (k.rotatedTo nowS retiring next).byGeneration.get? (k.generationHighWater + 1) =
          some (.canonical, next) := hsound'.get?_byGeneration.mpr ⟨by rw [hclient]; simp, hadded⟩
      have hmark : (k.rotatedTo nowS retiring next).generationHighWater =
          k.generationHighWater + 1 := rfl
      rw [hmark, if_pos (Nat.lt_succ_self _), requireValue_eq_ok_iff, Dict.contains_iff]
      exact ⟨_, hget⟩
  have hover : (k.rotatedTo nowS retiring next).validateOverlap = .ok () := by
    have hfind : ((k.rotatedTo nowS retiring next).clientVerifiers.find? fun v =>
        v.2.status == .active) = some (.canonical, next) := by
      rw [hclient]
      simp [hretired, hnew]
    rw [validateOverlap, hfind]
    simp only [requireValue_eq_ok_iff, hclient]
    intro v hv hstatus
    rcases List.mem_cons.mp hv with rfl | hv
    · show min k.expiresAtS (nowS + overlapS) - next.notBeforeS ≤ maxRotationOverlapS
      omega
    · rw [List.mem_singleton.mp hv, hnew] at hstatus
      cases hstatus
  have hpolicy : k.validatePolicyReassignment (k.rotatedTo nowS retiring next) none = .ok () := by
    have hsame : ¬ (k.rotatedTo nowS retiring next).policyId ≠ k.policyId := not_not.mpr rfl
    rw [validatePolicyReassignment, if_neg hsame, requireValue_eq_ok_iff]
    intro r hr
    cases hr
  simp only [validateDelta, h.valid, hvalid, h.live, hpolicy, hgens, hover, ok_bind, bind_eq_ok_iff,
    requireValue_eq_ok_iff, exists_unit_and_iff, Bool.false_eq_true, if_false]
  exact ⟨rfl, rfl, hnow, le_refl _, le_refl _, Nat.le_succ _, trivial⟩

end Rotated

/-! ## Who is let in afterwards -/

/-- The record in service, at some later high-water mark. -/
def enabledAt (k : ClientKeyRecord) (timeHighWaterS : Nat) : ClientKeyRecord :=
  { k with state := .enabled, timeHighWaterS }

end ClientKeyRecord

/-- The verifier has the digest of the token under the pepper. -/
def CredentialVerifier.Opens (hmac : Bytes → Bytes → Bytes) (v : CredentialVerifier)
    (pepper : Bytes) (parsed : ParsedClientKey) : Prop :=
  v.secretHex = hex (tokenDigest hmac pepper (.inl parsed))

/-- A view that serves the key enabled from the time on, under the peppers of two verifiers. -/
structure AuthRuntimeView.ServesKey (view : AuthRuntimeView) (k : ClientKeyRecord) (nowS : Nat)
    (old new : CredentialVerifier) (oldPepper newPepper : Bytes) : Prop where
  indexed : ∃ timeHighWaterS, view.keyIndex.get? k.keyId = some (k.enabledAt timeHighWaterS)
  allowed : k.keyId ∉ view.deniedKeyIds
  peppers : view.PepperSet
  old : view.acceptedPeppers.get? old.pepperVersion = some oldPepper
  new : view.acceptedPeppers.get? new.pepperVersion = some newPepper
  later : nowS ≤ view.trustedNowS

/-- A token lets a client in by a generation of the key. -/
def LetInBy (hmac : Bytes → Bytes → Bytes) (view : AuthRuntimeView)
    (token : ParsedClientKey ⊕ ParsedLegacyClientKey) (keyId : String) (generation : Nat) : Prop :=
  ∃ client, verifyClientKey hmac view token = .ok client ∧ client.keyId = keyId ∧
    client.acceptedCredentialGeneration = generation

/-- **The hand-over from one verifier of a key to the next.** A token with both digests counts as
one of the new generation. -/
structure HandsOver (hmac : Bytes → Bytes → Bytes) (k k' : ClientKeyRecord) (nowS overlapS : Nat)
    (old new : CredentialVerifier) : Prop where
  valid : k'.validate = .ok ()
  delta : k.validateDelta k' none = .ok ()
  letInBy_iff : ∀ view oldPepper newPepper, view.ServesKey k' nowS old new oldPepper newPepper →
    ∀ token, IsParsed token → ∀ generation, LetInBy hmac view token k.keyId generation ↔
      ∃ parsed, token = .inl parsed ∧ parsed.keyId = k.keyId ∧
        ((generation = new.generation ∧ new.Opens hmac newPepper parsed ∧
            view.trustedNowS < k.expiresAtS) ∨
          (generation = old.generation ∧ old.Opens hmac oldPepper parsed ∧
            ¬ new.Opens hmac newPepper parsed ∧
            view.trustedNowS < min k.expiresAtS (nowS + overlapS)))

namespace ClientKeyRecord

variable {hmac : Bytes → Bytes → Bytes} {k k' : ClientKeyRecord} {pepper secret : Bytes}
  {pepperVersion value : String} {nowS overlapS : Nat} {view : AuthRuntimeView}
  {current next : CredentialVerifier} {oldPepper newPepper : Bytes} {parsed : ParsedClientKey}

/-- When a verifier hits. -/
theorem hits_iff_opens {record : ClientKeyRecord} {v : CredentialVerifier} {pepper : Bytes}
    (hhex : isHex64 v.secretHex = true)
    (hpepper : view.acceptedPeppers.get? v.pepperVersion = some pepper) :
    hits hmac view parsed record v = true ↔
      (v.status = .active ∨ v.status = .retiring) ∧
        (v.notBeforeS ≤ view.trustedNowS ∧ view.trustedNowS < v.notAfterS) ∧
        view.trustedNowS < record.expiresAtS ∧ v.Opens hmac pepper parsed := by
  rw [hits_iff, AuthRuntimeView.credentialIsAccepted_iff, hpepper]
  simp only [Option.some.injEq, exists_eq', exists_eq_left', true_and, storedDigest_eq_ok_iff hhex,
    and_assoc]
  rfl

/-- The retiring verifier hits before the end of the overlap, and not after. -/
theorem hits_retiring_iff {record : ClientKeyRecord} (hexpires : record.expiresAtS = k.expiresAtS)
    (hhex : isHex64 current.secretHex = true)
    (hpepper : view.acceptedPeppers.get? current.pepperVersion = some oldPepper)
    (hbegun : current.notBeforeS ≤ nowS) (hlater : nowS ≤ view.trustedNowS) :
    hits hmac view parsed record (k.retiringVerifier nowS overlapS current) = true ↔
      current.Opens hmac oldPepper parsed ∧
        view.trustedNowS < min k.expiresAtS (nowS + overlapS) := by
  have hiff : hits hmac view parsed record (k.retiringVerifier nowS overlapS current) = true ↔ _ :=
    hits_iff_opens hhex hpepper
  rw [hiff, hexpires]
  show _ ∧ (current.notBeforeS ≤ view.trustedNowS ∧
    view.trustedNowS < min k.expiresAtS (nowS + overlapS)) ∧ _ ∧ current.Opens hmac oldPepper parsed ↔ _
  constructor
  · rintro ⟨-, ⟨-, hwindow⟩, -, hopens⟩
    exact ⟨hopens, hwindow⟩
  · rintro ⟨hopens, hwindow⟩
    have hopen : overlapS ≠ 0 := by omega
    refine ⟨Or.inr ?_, ⟨by omega, hwindow⟩, by omega, hopens⟩
    rw [retiringVerifier, if_pos hopen]

/-- The new verifier hits until the key expires. -/
theorem hits_next_iff {record : ClientKeyRecord} (hexpires : record.expiresAtS = k.expiresAtS)
    (hhex : isHex64 next.secretHex = true)
    (hpepper : view.acceptedPeppers.get? next.pepperVersion = some newPepper)
    (hstatus : next.status = .active) (hbefore : next.notBeforeS = nowS)
    (hafter : next.notAfterS = k.expiresAtS) (hlater : nowS ≤ view.trustedNowS) :
    hits hmac view parsed record next = true ↔
      next.Opens hmac newPepper parsed ∧ view.trustedNowS < k.expiresAtS := by
  rw [hits_iff_opens hhex hpepper, hexpires, hbefore, hafter]
  constructor
  · rintro ⟨-, -, hlive, hopens⟩
    exact ⟨hopens, hlive⟩
  · rintro ⟨hopens, hlive⟩
    exact ⟨Or.inl hstatus, ⟨hlater, hlive⟩, hlive, hopens⟩

theorem letInBy_iff_of_rotated {keyIdBytes : Bytes} (h : k.InService)
    (hmem : current ∈ k.credentialVerifiers) (hactive : current.status = .active)
    (hnow : k.timeHighWaterS ≤ nowS) (hnext : isHex64 next.secretHex = true)
    (hshape : next = k.nextVerifier hmac pepper pepperVersion nowS keyIdBytes secret)
    (hserves : view.ServesKey (k.rotatedTo nowS (k.retiringVerifier nowS overlapS current) next) nowS
      current next oldPepper newPepper)
    (hparsed : IsParsed (.inl parsed)) (hid : parsed.keyId = k.keyId) (generation : Nat) :
    LetInBy hmac view (.inl parsed) k.keyId generation ↔
      (generation = next.generation ∧ next.Opens hmac newPepper parsed ∧
        view.trustedNowS < k.expiresAtS) ∨
      (generation = current.generation ∧ current.Opens hmac oldPepper parsed ∧
        ¬ next.Opens hmac newPepper parsed ∧
        view.trustedNowS < min k.expiresAtS (nowS + overlapS)) := by
  obtain ⟨mark, hindexed⟩ := hserves.indexed
  set served := (k.rotatedTo nowS (k.retiringVerifier nowS overlapS current) next).enabledAt mark
    with hserved
  have hget : view.keyIndex.get? parsed.keyId = some served := by
    rw [hid]
    exact hindexed
  have hhex : isHex64 current.secretHex = true :=
    (validateVerifier_eq_ok_iff.mp (h.sound.credentials current hmem)).2.1
  have hbegun := (h.begun current hmem hactive).1.trans hnow
  have hcomparable : ∀ record, view.keyIndex.get? parsed.keyId = some record →
      record.Comparable := by
    intro record hrecord
    rw [hget] at hrecord
    cases hrecord
    refine ⟨le_refl 2, fun v hv => ?_⟩
    rcases List.mem_cons.mp hv with rfl | hv
    · exact hhex
    · rw [List.mem_singleton.mp hv]
      exact hnext
  have hhitsOld : hits hmac view parsed served (k.retiringVerifier nowS overlapS current) = true ↔
      current.Opens hmac oldPepper parsed ∧
        view.trustedNowS < min k.expiresAtS (nowS + overlapS) :=
    hits_retiring_iff rfl hhex hserves.old hbegun hserves.later
  have hhitsNew : hits hmac view parsed served next = true ↔
      next.Opens hmac newPepper parsed ∧ view.trustedNowS < k.expiresAtS :=
    hits_next_iff rfl hnext hserves.new (by rw [hshape]; rfl) (by rw [hshape]; rfl)
      (by rw [hshape]; rfl) hserves.later
  have hadmits : view.admits served = true ↔ view.trustedNowS < k.expiresAtS := by
    rw [AuthRuntimeView.admits_iff]
    exact ⟨fun h => h.2.2.2, fun h => ⟨rfl, hserves.peppers, hserves.allowed, h⟩⟩
  -- the slot of the new verifier comes last, and overwrites
  have hrun : LetInBy hmac view (.inl parsed) k.keyId generation ↔
      (if hits hmac view parsed served next = true then some next.generation
        else if hits hmac view parsed served (k.retiringVerifier nowS overlapS current) = true then
          some current.generation else none) = some generation ∧
        view.trustedNowS < k.expiresAtS := by
    obtain ⟨hkey, hsecret⟩ := lengths_of_isParsed hparsed
    rw [← hadmits]
    constructor
    · rintro ⟨client, hok, -, rfl⟩
      obtain ⟨record, g, hrecord, hlast, hadmitted, rfl⟩ :=
        (verifyCanonicalKey_eq_ok_iff hcomparable hkey hsecret).mp hok
      rw [hget] at hrecord
      cases hrecord
      exact ⟨hlast, hadmitted⟩
    · rintro ⟨hlast, hadmitted⟩
      exact ⟨_, (verifyCanonicalKey_eq_ok_iff hcomparable hkey hsecret).mpr
        ⟨served, generation, hget, hlast, hadmitted, rfl⟩, rfl, rfl⟩
  rw [hrun]
  by_cases hnew : next.Opens hmac newPepper parsed ∧ view.trustedNowS < k.expiresAtS
  · rw [if_pos (hhitsNew.mpr hnew)]
    simp only [Option.some.injEq, hnew.1, hnew.2, not_true_eq_false, false_and, and_false, or_false,
      and_true]
    exact eq_comm
  · rw [if_neg fun h => hnew (hhitsNew.mp h)]
    by_cases hold : current.Opens hmac oldPepper parsed ∧
        view.trustedNowS < min k.expiresAtS (nowS + overlapS)
    · have hlive : view.trustedNowS < k.expiresAtS := by omega
      have hclosed : ¬ next.Opens hmac newPepper parsed := fun h => hnew ⟨h, hlive⟩
      rw [if_pos (hhitsOld.mpr hold)]
      simp only [Option.some.injEq, hlive, hold.1, hold.2, hclosed, not_false_eq_true, and_true,
        and_false, false_or]
      exact eq_comm
    · rw [if_neg fun h => hold (hhitsOld.mp h)]
      constructor
      · rintro ⟨h, -⟩
        cases h
      · rintro (⟨-, h⟩ | ⟨-, hopens, -, hwindow⟩)
        · exact absurd h hnew
        · exact absurd ⟨hopens, hwindow⟩ hold

/-- A key without legacy verifiers is opened by its canonical tokens only. -/
theorem exists_canonical_of_letInBy {token : ParsedClientKey ⊕ ParsedLegacyClientKey}
    {record : ClientKeyRecord} {keyId : String} {generation : Nat}
    (hget : view.keyIndex.get? keyId = some record) (hlegacy : record.legacyVerifiers = [])
    (h : LetInBy hmac view token keyId generation) :
    ∃ parsed, token = .inl parsed ∧ parsed.keyId = keyId := by
  obtain ⟨client, hok, hid, -⟩ := h
  cases token with
  | inl parsed =>
    simp only [verifyClientKey, verifyCanonicalKey, bind_eq_ok_iff] at hok
    obtain ⟨accepted, -, hok⟩ := hok
    split at hok
    · next found generation hfound =>
      simp only [bind_eq_ok_iff, require_eq_ok_iff, exists_unit_and_iff, pure_eq_ok,
        Except.ok.injEq] at hok
      obtain ⟨-, rfl⟩ := hok
      have hown : found.keyId = parsed.keyId := view.own_ids _ _ hfound
      exact ⟨parsed, rfl, hown.symm.trans hid⟩
    · cases hok
  | inr parsed =>
    exfalso
    obtain ⟨found, g, -, hfold, rfl⟩ := verifyLegacyClientKey_eq_ok_iff.mp hok
    -- what the loop keeps was found among legacy verifiers
    have hkept : ∀ q ∈ (some (found, g) : Option (ClientKeyRecord × Nat)),
        view.keyIndex.get? q.1.keyId = some q.1 ∧ q.1.legacyVerifiers ≠ [] := by
      refine foldlM_keeps (P := fun s : Option (ClientKeyRecord × Nat) => ∀ q ∈ s,
        view.keyIndex.get? q.1.keyId = some q.1 ∧ q.1.legacyVerifiers ≠ []) ?_ hfold (by simp)
      intro slot _ s s' hslot hs
      simp only [verifyLegacySlot, bind_eq_ok_iff] at hslot
      obtain ⟨candidate, -, hslot⟩ := hslot
      split at hslot
      · cases hslot; exact hs
      · split at hslot
        · cases hslot; exact hs
        · next record' hget' =>
          split at hslot
          · cases hslot; exact hs
          · next v hfind =>
            simp only [bind_eq_ok_iff] at hslot
            obtain ⟨expected, -, hslot⟩ := hslot
            split at hslot
            · cases hslot
              intro q hq
              cases hq
              exact ⟨AuthRuntimeView.Serves.indexed_of_get? hget',
                List.ne_nil_of_mem (List.mem_of_find?_eq_some hfind)⟩
            · cases hslot; exact hs
    obtain ⟨hfound, hnonempty⟩ := hkept _ rfl
    have hsame : view.keyIndex.get? keyId = some found := hid ▸ hfound
    rw [hget, Option.some.injEq] at hsame
    exact hnonempty (hsame ▸ hlegacy)

end ClientKeyRecord

/-- **A key is handed over at every rotation.** -/
theorem rotate_key_hands_over {hmac : Bytes → Bytes → Bytes}
    (hlen : ∀ key m, (hmac key m).length = 32) {k : ClientKeyRecord} (hk : Commanded hmac k)
    {nowS overlapS : Nat} (hnow : k.timeHighWaterS ≤ nowS) (hlive : nowS < k.expiresAtS)
    (hoverlap : overlapS ≤ maxRotationOverlapS) {pepper secret : Bytes} {pepperVersion : String}
    (hpepper : 32 ≤ pepper.length) (hversion : isPepperVersion pepperVersion = true)
    (hsecret : secret.length = secretBytes) :
    ∃ k' value old new parsed,
      k.rotateKey hmac pepper pepperVersion nowS overlapS secret = .ok (k', value) ∧
      k.active = [old] ∧ new ∈ k'.credentialVerifiers ∧
      new.generation = k.generationHighWater + 1 ∧ new.pepperVersion = pepperVersion ∧
      parseClientKeyMaterial value = .ok parsed ∧ parsed.keyId = k.keyId ∧
      parsed.secret = secret ∧ new.Opens hmac pepper parsed ∧
      HandsOver hmac k k' nowS overlapS old new := by
  have hin := ClientKeyRecord.InService.of_commanded hk
  obtain ⟨old, hmem, hcurrent, hactive, hgeneration, holder⟩ := hin.exists_current
  -- the key id is the text of 16 bytes, so a token can be made of it
  obtain ⟨keyIdBytes, hlength, htext⟩ := exists_hex (n := 16) hin.sound.keyId
  have hkeyId : hex keyIdBytes = k.keyId := String.toList_inj.mp htext
  have hdigest : storedDigest k.keyId = .ok keyIdBytes := by
    rw [← hkeyId, storedDigest, fromHex_hex]
  obtain ⟨value, hformat⟩ : ∃ value, formatClientKey keyIdBytes secret = .ok value :=
    ⟨_, by rw [formatClientKey, require, if_pos ⟨hlength, hsecret⟩]; rfl⟩
  set new := k.nextVerifier hmac pepper pepperVersion nowS keyIdBytes secret with hnew
  set k' := k.rotatedTo nowS (k.retiringVerifier nowS overlapS old) new with hk'
  have hnewValid : ClientCredentialVerifier.validate new = .ok () :=
    hin.validate_next hlen hversion hnow hlive
  have hvalid : k'.validate = .ok () :=
    hin.validate_rotatedTo hlen hversion hmem hactive hgeneration hnow hlive
  have hdelta : k.validateDelta k' none = .ok () :=
    hin.validateDelta_rotatedTo hvalid hmem hactive hnow hoverlap ⟨rfl, rfl, rfl⟩
  have hrotate : k.rotateKey hmac pepper pepperVersion nowS overlapS secret = .ok (k', value) := by
    have hversion' : pepperVersion ≠ "" := by
      rintro rfl
      cases hversion
    exact (hin.rotateKey_eq_ok_iff hcurrent).mpr
      ⟨by simp only [validatePepper, bind_eq_ok_iff, requireValue_eq_ok_iff, exists_unit_and_iff]
          exact ⟨hpepper, hversion'⟩,
        ClientKeyRecord.requireLiveTime_eq_ok_iff.mpr ⟨hnow, hlive⟩, hoverlap, keyIdBytes, hdigest,
        hnewValid, hformat, rfl, hvalid, hdelta⟩
  refine ⟨k', value, old, new, ⟨k.keyId, keyIdBytes, secret⟩, hrotate, holder, by simp [hk',
    ClientKeyRecord.rotatedTo], rfl, rfl, parseClientKeyMaterial_eq_ok_iff.mpr ⟨hkeyId.symm, hformat⟩,
    rfl, rfl, rfl, hvalid, hdelta, ?_⟩
  intro view oldPepper newPepper hserves token hparsed generation
  obtain ⟨mark, hindexed⟩ := hserves.indexed
  constructor
  · intro h
    obtain ⟨parsed, rfl, hid⟩ :=
      ClientKeyRecord.exists_canonical_of_letInBy hindexed rfl h
    exact ⟨parsed, rfl, hid, (ClientKeyRecord.letInBy_iff_of_rotated hin hmem hactive hnow
      (ClientKeyRecord.validateVerifier_eq_ok_iff.mp hnewValid).2.1 rfl hserves hparsed hid generation).mp h⟩
  · rintro ⟨parsed, rfl, hid, h⟩
    exact (ClientKeyRecord.letInBy_iff_of_rotated hin hmem hactive hnow
      (ClientKeyRecord.validateVerifier_eq_ok_iff.mp hnewValid).2.1 rfl hserves hparsed hid generation).mpr h

/-! ## A first rotation -/

/-- HMAC-SHA256 under 32 bytes of 1 for the key id of zeros and a secret of 32 bytes of 5 or of 6. -/
def rotationHmac (_ message : Bytes) : Bytes :=
  if message.getLast? = some 5 then
    (fromHex "1e7f23a93e10f8ec05eaa55baa668cbdc3468df9ef5513b5eb9b2671d668100a".toList).getD []
  else (fromHex "687941ee64ce1c920ccb261271421952b801d5adfd8febf762a98dbcc9bf0e21".toList).getD []

/-- A key issued at 1 to expire at 1000. -/
def issuedKey : ClientKeyRecord where
  keyId := "00000000000000000000000000000000"
  policyId := samplePolicyId
  state := .enabled
  issuedAtS := 1
  expiresAtS := 1000
  timeHighWaterS := 1
  generationHighWater := 1
  credentialVerifiers :=
    [⟨1, "1e7f23a93e10f8ec05eaa55baa668cbdc3468df9ef5513b5eb9b2671d668100a", "v1", 1, 1000, .active⟩]

theorem issuedKey_commanded : Commanded rotationHmac issuedKey := by
  have hissue : issueKey rotationHmac (.inr samplePolicyId) (some 1000) (List.replicate 32 1) "v1" 1
      .enabled (List.replicate 16 0) (List.replicate 32 5) =
      .ok (issuedKey, "lmxk1.AAAAAAAAAAAAAAAAAAAAAA.BQUFBQUFBQUFBQUFBQUFBQUFBQUFBQUFBQUFBQUFBQU") := by
    decide +kernel
  exact .issue hissue

/-- The key is handed over to a second verifier within an overlap of 5 seconds. -/
theorem issuedKey_hands_over : ∃ k' old new, HandsOver rotationHmac issuedKey k' 10 5 old new := by
  have hlen : ∀ key m, (rotationHmac key m).length = 32 := by
    intro key m
    unfold rotationHmac
    split <;> decide +kernel
  obtain ⟨k', -, old, new, -, -, -, -, -, -, -, -, -, -, h⟩ :=
    @rotate_key_hands_over rotationHmac hlen issuedKey issuedKey_commanded 10 5 (by decide)
      (by decide) (by decide) (List.replicate 32 1) (List.replicate 32 6) "v1" (by decide)
      (by decide) (by decide)
  exact ⟨k', old, new, h⟩

end LlmMaxxing
