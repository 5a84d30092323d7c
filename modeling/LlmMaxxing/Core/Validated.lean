import LlmMaxxing.Core.Bundle

/-!
# What an accepted bundle satisfies

The validators as propositions. `Consistent` says what `_exact_membership` establishes in terms
of membership only, so that it does not depend on the order of any array;
`exactMembership_eq_ok_iff` and `validate_eq_ok_iff` tie it to the code.
-/

namespace LlmMaxxing

open Check

/-! ## Records -/

theorem LegCapabilities.validate_eq_ok_iff {c : LegCapabilities} :
    c.validate = .ok () ↔ c.endpoints ≠ [] ∧ c.endpoints.Nodup ∧ c.modalities ≠ [] ∧
      c.modalities.Nodup ∧ 0 < c.contextTokens ∧ (c.forcedTool = true → c.tools = true) := by
  simp [LegCapabilities.validate]

theorem AuthorizedLeg.validate_eq_ok_iff {leg : AuthorizedLeg} :
    leg.validate = .ok () ↔ 1 ≤ leg.order ∧ leg.allowedTriggers ≠ [] ∧
      leg.allowedTriggers.Nodup ∧ leg.capabilities.validate = .ok () := by
  simp [AuthorizedLeg.validate]

theorem RouteLeg.validate_eq_ok_iff {leg : RouteLeg} :
    leg.validate = .ok () ↔ 1 ≤ leg.order ∧ leg.triggers ≠ [] ∧ leg.triggers.Nodup ∧
      leg.capabilities.validate = .ok () ∧
      leg.capabilities.shadow = decide (RouteTrigger.shadow ∈ leg.triggers) ∧
      (RouteTrigger.shadow ∈ leg.triggers → leg.triggers = [.shadow]) := by
  simp only [RouteLeg.validate, bind_eq_ok_iff, requireField_eq_ok_iff, requireValue_eq_ok_iff,
    exists_const]
  constructor
  · rintro ⟨h₁, h₂, h₃, u, h₄, h₅⟩
    exact ⟨h₁, h₂, h₃, h₄, h₅⟩
  · rintro ⟨h₁, h₂, h₃, h₄, h₅⟩
    exact ⟨h₁, h₂, h₃, (), h₄, h₅⟩

theorem RouteGroupRevision.validate_eq_ok_iff {g g' : RouteGroupRevision} :
    g.validate = .ok g' ↔ lengthWithin g.name 1 120 ∧ g.legs ≠ [] ∧
      (∀ leg ∈ g.legs, leg.validate = .ok ()) ∧ (g.legs.map RouteLeg.order).Nodup ∧
      { g with legs := sortOn RouteLeg.sortKey g.legs } = g' := by
  simp only [RouteGroupRevision.validate, bind_eq_ok_iff, requireField_eq_ok_iff,
    requireValue_eq_ok_iff, forEach_eq_ok_iff, exists_const, pure_eq_ok, Except.ok.injEq]

theorem KeyPolicyRevision.validate_eq_ok_iff {p p' : KeyPolicyRevision} :
    p.validate = .ok p' ↔ lengthWithin p.name 1 120 ∧ p.routeGroupIds ≠ [] ∧
      p.routeGroupIds.Nodup ∧ p.authorizedLegs ≠ [] ∧
      (∀ leg ∈ p.authorizedLegs, leg.validate = .ok ()) ∧
      (p.authorizedLegs.map AuthorizedLeg.legId).Nodup ∧
      (1 ≤ p.queueWeight ∧ p.queueWeight ≤ 64) ∧ 1 ≤ p.maxConcurrency ∧
      (1 ≤ p.deadlineMs ∧ p.deadlineMs ≤ maxDeadlineMs) ∧
      { p with authorizedLegs := sortOn AuthorizedLeg.sortKey p.authorizedLegs } = p' := by
  simp only [KeyPolicyRevision.validate, bind_eq_ok_iff, requireField_eq_ok_iff,
    requireValue_eq_ok_iff, forEach_eq_ok_iff, exists_const, pure_eq_ok, Except.ok.injEq]

theorem RequestAuthorizationCeiling.validate_eq_ok_iff {c c' : RequestAuthorizationCeiling} :
    c.validate = .ok c' ↔ isHex32 c.keyId = true ∧ 1 ≤ c.credentialGeneration ∧
      1 ≤ c.bundleGeneration ∧ (∀ leg ∈ c.authorizedLegs, leg.validate = .ok ()) ∧
      (c.authorizedLegs.map AuthorizedLeg.legId).Nodup ∧
      (1 ≤ c.queueWeight ∧ c.queueWeight ≤ 64) ∧ 1 ≤ c.maxConcurrency ∧
      (1 ≤ c.deadlineMs ∧ c.deadlineMs ≤ maxDeadlineMs) ∧
      { c with authorizedLegs := sortOn AuthorizedLeg.sortKey c.authorizedLegs } = c' := by
  simp only [RequestAuthorizationCeiling.validate, bind_eq_ok_iff, requireField_eq_ok_iff,
    requireValue_eq_ok_iff, forEach_eq_ok_iff, exists_const, pure_eq_ok, Except.ok.injEq]

/-- What `_valid_lifetime_and_generations` asks of a key apart from the order of its
verifiers. -/
structure ClientKeyRecord.Sound (k : ClientKeyRecord) : Prop where
  keyId : isHex32 k.keyId = true
  issuedAt : 0 < k.issuedAtS
  expiresAt : 0 < k.expiresAtS
  timeHighWater : 0 < k.timeHighWaterS
  generationHighWater : 1 ≤ k.generationHighWater
  credentialCount : k.credentialVerifiers.length ≤ 2
  credentials : ∀ v ∈ k.credentialVerifiers, ClientCredentialVerifier.validate v = .ok ()
  legacyCount : k.legacyVerifiers.length ≤ 2
  legacies : ∀ v ∈ k.legacyVerifiers, LegacyClientCredentialVerifier.validate v = .ok ()
  lifetime : k.issuedAtS < k.expiresAtS
  lifetimeBound : k.expiresAtS - k.issuedAtS ≤ 365 * 86_400
  issued_le : k.issuedAtS ≤ k.timeHighWaterS
  some_verifier : k.verifiers ≠ []
  verifierCount : k.verifiers.length ≤ 2
  generations_nodup : (k.verifiers.map CredentialVerifier.generation).Nodup
  newest : (k.verifiers.map CredentialVerifier.generation).max? = some k.generationHighWater
  windows : ∀ v ∈ k.verifiers, k.issuedAtS ≤ v.notBeforeS ∧ v.notAfterS ≤ k.expiresAtS
  acceptedCount : k.accepted.length ≤ 2
  terminal_accepted : k.terminal = true → k.accepted = []
  active_newest : k.terminal = false →
    k.active.map CredentialVerifier.generation = [k.generationHighWater]

theorem ClientKeyRecord.validate_eq_ok_iff {k : ClientKeyRecord} :
    k.validate = .ok () ↔ k.Sound ∧ generationsIncreasing k.credentialVerifiers ∧
      generationsIncreasing k.legacyVerifiers := by
  simp only [ClientKeyRecord.validate, validateFields, validateLifetime, bind_eq_ok_iff,
    requireField_eq_ok_iff, requireValue_eq_ok_iff, forEach_eq_ok_iff, exists_const]
  constructor
  · rintro ⟨⟨h₁, h₂, h₃, h₄, h₅, h₆, h₇, h₈, h₉⟩, h₁₀, h₁₁, h₁₂, hc, hl, h₁₃, ⟨h₁₄, h₁₅⟩, h₁₆, h₁₇,
      h₁₈, h₁₉, h₂₀⟩
    exact ⟨⟨h₁, h₂, h₃, h₄, h₅, h₆, h₇, h₈, h₉, h₁₀, h₁₁, h₁₂, h₁₃, h₁₄, h₁₅, h₁₆, h₁₇, h₁₈, h₁₉,
      h₂₀⟩, hc, hl⟩
  · rintro ⟨h, hc, hl⟩
    exact ⟨⟨h.keyId, h.issuedAt, h.expiresAt, h.timeHighWater, h.generationHighWater,
      h.credentialCount, h.credentials, h.legacyCount, h.legacies⟩, h.lifetime, h.lifetimeBound,
      h.issued_le, hc, hl, h.some_verifier, ⟨h.verifierCount, h.generations_nodup⟩, h.newest,
      h.windows, h.acceptedCount, h.terminal_accepted, h.active_newest⟩

/-! ## What validation returns is accepted as it is -/

theorem RouteGroupRevision.validate_idem {g g' : RouteGroupRevision} (h : g.validate = .ok g') :
    g'.validate = .ok g' := by
  obtain ⟨h₁, h₂, h₃, h₄, rfl⟩ := validate_eq_ok_iff.mp h
  have hperm := SortOn.perm RouteLeg.sortKey g.legs
  refine validate_eq_ok_iff.mpr ⟨h₁, fun hnil => h₂ (List.nil_perm.mp (hnil ▸ hperm)),
    fun leg hleg => h₃ leg (hperm.mem_iff.mp hleg), (hperm.map _).nodup_iff.mpr h₄, ?_⟩
  rw [SortOn.eq_self _ (SortOn.pairwise _ _)]

theorem KeyPolicyRevision.validate_idem {p p' : KeyPolicyRevision} (h : p.validate = .ok p') :
    p'.validate = .ok p' := by
  obtain ⟨h₁, h₂, h₃, h₄, h₅, h₆, h₇, h₈, h₉, rfl⟩ := validate_eq_ok_iff.mp h
  have hperm := SortOn.perm AuthorizedLeg.sortKey p.authorizedLegs
  refine validate_eq_ok_iff.mpr ⟨h₁, h₂, h₃, fun hnil => h₄ (List.nil_perm.mp (hnil ▸ hperm)),
    fun leg hleg => h₅ leg (hperm.mem_iff.mp hleg), (hperm.map _).nodup_iff.mpr h₆, h₇, h₈, h₉, ?_⟩
  rw [SortOn.eq_self _ (SortOn.pairwise _ _)]

/-- The state an accepted account is stored with. -/
def ProviderAccount.storedState (a : ProviderAccount) : AccountState :=
  if a.fullyAttested then a.state.getD a.derivedState else .draft

theorem ProviderAccount.validate_eq_ok_iff {a a' : ProviderAccount} :
    a.validate = .ok a' ↔ a.validateFields = .ok () ∧ a.guardShape = .ok () ∧
      (a.fullyAttested = true → a.guardState = .ok ()) ∧
      (a.fullyAttested = false → a.state = none ∨ a.state = some .draft) ∧
      { a with state := some a.storedState } = a' := by
  unfold validate
  cases hfull : a.fullyAttested
  · simp [storedState, hfull]
  · simp [storedState, hfull]

theorem ProviderAccount.guardState_eq_ok_iff {a : ProviderAccount} :
    a.guardState = .ok () ↔ (∀ s, a.state = some s → s ≠ .draft →
      a.attestedCredential = true ∧ a.bound = true) := by
  simp only [guardState, bind_eq_ok_iff, requireValue_eq_ok_iff, exists_const]
  constructor
  · rintro ⟨h₁, h₂, h₃, h₄⟩ s hs hne
    cases s with
    | draft => exact absurd rfl hne
    | active => exact ⟨h₁ hs, h₂ hs⟩
    | disabled => exact ⟨h₃ (.inl hs), h₄ (.inl hs)⟩
    | tombstoned => exact ⟨h₃ (.inr hs), h₄ (.inr hs)⟩
  · intro h
    refine ⟨fun hs => (h _ hs (by decide)).1, fun hs => (h _ hs (by decide)).2, ?_, ?_⟩
    · rintro (hs | hs)
      · exact (h _ hs (by decide)).1
      · exact (h _ hs (by decide)).1
    · rintro (hs | hs)
      · exact (h _ hs (by decide)).2
      · exact (h _ hs (by decide)).2

theorem ProviderAccount.validate_idem {a a' : ProviderAccount} (h : a.validate = .ok a') :
    a'.validate = .ok a' := by
  obtain ⟨hfields, hshape, hstate, hdraft, rfl⟩ := validate_eq_ok_iff.mp h
  refine validate_eq_ok_iff.mpr ⟨hfields, hshape, fun hfull => ?_, fun hfull => ?_, ?_⟩
  · have hfull' : a.fullyAttested = true := hfull
    refine guardState_eq_ok_iff.mpr fun s hs hne => ?_
    -- the derived state is active only for a bound account with an attested credential
    cases hst : a.state with
    | some t =>
      have hts : t = s := by simpa [storedState, hfull', hst] using hs
      have hguard := guardState_eq_ok_iff.mp (hstate hfull') t hst
      subst hts
      exact hguard hne
    | none =>
      have hds : a.derivedState = s := by simpa [storedState, hfull', hst] using hs
      by_cases hgood : (a.bound && a.attestedCredential) = true
      · exact ⟨(Bool.and_eq_true _ _ ▸ hgood).2, (Bool.and_eq_true _ _ ▸ hgood).1⟩
      · rw [derivedState, if_neg hgood] at hds
        exact absurd hds.symm hne
  · have hfull' : a.fullyAttested = false := hfull
    exact .inr (by simp [storedState, hfull'])
  · have hsame : storedState { a with state := some a.storedState } = a.storedState := by
      cases hfull : a.fullyAttested
      · simp [storedState, hfull]
      · exact if_pos hfull
    rw [hsame]

/-! ## Membership -/

namespace PolicyBundleV1

/-- A grant of a policy matches a leg of one of the policy's route groups. -/
structure GrantMatches (b : PolicyBundleV1) (p : KeyPolicyRevision) (grant : AuthorizedLeg)
    (actual : RouteLeg) (groupId : RouteGroupId) : Prop where
  account : grant.accountId ∈ b.accounts.map ProviderAccount.accountId
  leg : (actual, groupId) ∈ b.legGroups
  inPolicy : groupId ∈ p.routeGroupIds
  identity : grant.identity = actual.identity
  triggers : ∀ t ∈ grant.allowedTriggers, t ∈ actual.triggers
  capabilities : grant.capabilities = actual.capabilities

/-- What `_exact_membership` establishes. -/
structure Consistent (b : PolicyBundleV1) : Prop where
  accounts_nodup : (b.accounts.map ProviderAccount.accountId).Nodup
  groups_nodup : (b.routeGroups.map RouteGroupRevision.routeGroupId).Nodup
  policies_nodup : (b.policies.map KeyPolicyRevision.policyId).Nodup
  keys_nodup : (b.keys.map ClientKeyRecord.keyId).Nodup
  legs_nodup : (b.legs.map RouteLeg.legId).Nodup
  names_nodup : (b.routeGroups.map RouteGroupRevision.name).Nodup
  fingerprints_nodup : b.legacyFingerprints.Nodup
  bindings_nodup : b.bindings.Nodup
  legAccounts : ∀ g ∈ b.routeGroups, ∀ leg ∈ g.legs,
    leg.accountId ∈ b.accounts.map ProviderAccount.accountId
  onePrimary : ∀ g ∈ b.routeGroups,
    (g.legs.filter fun leg => RouteTrigger.primary ∈ leg.triggers).length = 1
  policyGroups : ∀ p ∈ b.policies, ∀ g ∈ p.routeGroupIds,
    g ∈ b.routeGroups.map RouteGroupRevision.routeGroupId
  grants : ∀ p ∈ b.policies, ∀ grant ∈ p.authorizedLegs,
    ∃ actual groupId, b.GrantMatches p grant actual groupId
  covered : ∀ p ∈ b.policies, ∀ g ∈ p.routeGroupIds, ∃ grant ∈ p.authorizedLegs,
    ∃ actual, b.GrantMatches p grant actual g
  keyPolicies : ∀ k ∈ b.keys, k.policyId ∈ b.policies.map KeyPolicyRevision.policyId

theorem map_fst_legGroups (b : PolicyBundleV1) : b.legGroups.map Prod.fst = b.legs := by
  simp [legGroups, legs, List.map_flatMap, Function.comp_def]

/-- With distinct leg ids, searching by leg id finds exactly the leg that is there. -/
theorem find?_legGroups_eq_some_iff {b : PolicyBundleV1} (hnd : (b.legs.map RouteLeg.legId).Nodup)
    {legId : RouteLegId} {leg : RouteLeg} {g : RouteGroupId} :
    b.legGroups.find? (fun q => q.1.legId = legId) = some (leg, g) ↔
      (leg, g) ∈ b.legGroups ∧ leg.legId = legId := by
  constructor
  · intro h
    exact ⟨List.mem_of_find?_eq_some h, by simpa using List.find?_some h⟩
  · rintro ⟨hmem, rfl⟩
    have hnd' : (b.legGroups.map fun q => q.1.legId).Nodup := by
      rw [← map_fst_legGroups, List.map_map] at hnd
      exact hnd
    cases hf : b.legGroups.find? (fun q => q.1.legId = leg.legId) with
    | none =>
      have hnone := List.find?_eq_none.mp hf _ hmem
      simp at hnone
    | some q =>
      have hq := List.mem_of_find?_eq_some hf
      have hid : q.1.legId = leg.legId := by simpa using List.find?_some hf
      rw [List.inj_on_of_nodup_map hnd' hq hmem hid]

theorem checkGrant_eq_ok_iff {b : PolicyBundleV1} (hnd : (b.legs.map RouteLeg.legId).Nodup)
    {p : KeyPolicyRevision} {grant : AuthorizedLeg} {g : RouteGroupId} :
    b.checkGrant p grant = .ok g ↔ ∃ actual, b.GrantMatches p grant actual g := by
  unfold checkGrant
  simp only [bind_eq_ok_iff, requireValue_eq_ok_iff, exists_const]
  constructor
  · rintro ⟨haccount, h⟩
    split at h
    · cases h
    · next actual groupId hfind =>
      simp only [bind_eq_ok_iff, requireValue_eq_ok_iff, exists_const, pure_eq_ok,
        Except.ok.injEq] at h
      obtain ⟨hin, hid, htrig, hcap, rfl⟩ := h
      exact ⟨actual, haccount, ((find?_legGroups_eq_some_iff hnd).mp hfind).1, hin, hid, htrig, hcap⟩
  · rintro ⟨actual, h⟩
    have hleg : actual.legId = grant.legId := (congrArg LegIdentity.legId h.identity).symm
    have hfind := (find?_legGroups_eq_some_iff hnd).mpr ⟨h.leg, hleg⟩
    refine ⟨h.account, ?_⟩
    rw [hfind]
    simp only [bind_eq_ok_iff, requireValue_eq_ok_iff, exists_const, pure_eq_ok]
    exact ⟨h.inPolicy, h.identity, h.triggers, h.capabilities, trivial⟩

theorem checkGrants_eq_ok_iff {b : PolicyBundleV1} (hnd : (b.legs.map RouteLeg.legId).Nodup)
    {p : KeyPolicyRevision} {grants : List AuthorizedLeg} {covered : List RouteGroupId} :
    b.checkGrants p grants = .ok covered ↔
      List.Forall₂ (fun grant g => ∃ actual, b.GrantMatches p grant actual g) grants covered := by
  induction grants generalizing covered with
  | nil => simp [checkGrants, eq_comm]
  | cons grant rest ih =>
    simp only [checkGrants, bind_eq_ok_iff, checkGrant_eq_ok_iff hnd, ih, pure_eq_ok,
      Except.ok.injEq, List.forall₂_cons_left_iff]
    constructor
    · rintro ⟨g, hg, tail, htail, rfl⟩
      exact ⟨g, tail, hg, htail, rfl⟩
    · rintro ⟨g, tail, hg, htail, rfl⟩
      exact ⟨g, hg, tail, htail, rfl⟩

/-- A relation with a value for every member relates the list to some list of values. -/
theorem exists_forall₂ {α β : Type} {R : α → β → Prop} {l : List α} (h : ∀ a ∈ l, ∃ b, R a b) :
    ∃ l', List.Forall₂ R l l' := by
  induction l with
  | nil => exact ⟨[], .nil⟩
  | cons a rest ih =>
    obtain ⟨b, hb⟩ := h a List.mem_cons_self
    obtain ⟨l', hl'⟩ := ih fun x hx => h x (List.mem_cons_of_mem _ hx)
    exact ⟨b :: l', .cons hb hl'⟩

theorem exists_right_of_mem {α β : Type} {R : α → β → Prop} {l : List α} {l' : List β}
    (h : List.Forall₂ R l l') {a : α} (ha : a ∈ l) : ∃ b ∈ l', R a b := by
  induction h with
  | nil => cases ha
  | cons hab _ ih =>
    rcases List.mem_cons.mp ha with rfl | ha
    · exact ⟨_, List.mem_cons_self, hab⟩
    · obtain ⟨b, hb, hR⟩ := ih ha
      exact ⟨b, List.mem_cons_of_mem _ hb, hR⟩

theorem exists_left_of_mem {α β : Type} {R : α → β → Prop} {l : List α} {l' : List β}
    (h : List.Forall₂ R l l') {b : β} (hb : b ∈ l') : ∃ a ∈ l, R a b :=
  exists_right_of_mem h.flip hb

/-- The group of a grant is determined by its leg. -/
theorem GrantMatches.group_unique {b : PolicyBundleV1} (hnd : (b.legs.map RouteLeg.legId).Nodup)
    {p : KeyPolicyRevision} {grant : AuthorizedLeg} {a a' : RouteLeg} {g g' : RouteGroupId}
    (h : b.GrantMatches p grant a g) (h' : b.GrantMatches p grant a' g') : g = g' := by
  have hleg : a.legId = grant.legId := (congrArg LegIdentity.legId h.identity).symm
  have hleg' : a'.legId = grant.legId := (congrArg LegIdentity.legId h'.identity).symm
  have hf := (find?_legGroups_eq_some_iff hnd).mpr ⟨h.leg, hleg⟩
  rw [(find?_legGroups_eq_some_iff hnd).mpr ⟨h'.leg, hleg'⟩] at hf
  simp only [Option.some.injEq, Prod.mk.injEq] at hf
  exact hf.2.symm

theorem checkPolicy_eq_ok_iff {b : PolicyBundleV1} (hnd : (b.legs.map RouteLeg.legId).Nodup)
    {p : KeyPolicyRevision} :
    b.checkPolicy p = .ok () ↔
      (∀ g ∈ p.routeGroupIds, g ∈ b.routeGroups.map RouteGroupRevision.routeGroupId) ∧
      (∀ grant ∈ p.authorizedLegs, ∃ actual groupId, b.GrantMatches p grant actual groupId) ∧
      ∀ g ∈ p.routeGroupIds, ∃ grant ∈ p.authorizedLegs, ∃ actual,
        b.GrantMatches p grant actual g := by
  simp only [checkPolicy, bind_eq_ok_iff, requireValue_eq_ok_iff, exists_const,
    checkGrants_eq_ok_iff hnd, List.filter_eq_nil_iff, decide_eq_true_eq, not_not]
  constructor
  · rintro ⟨hgroups, covered, hcovered, hall⟩
    refine ⟨hgroups, fun grant hgrant => ?_, fun g hg => ?_⟩
    · obtain ⟨g, -, actual, h⟩ := exists_right_of_mem hcovered hgrant
      exact ⟨actual, g, h⟩
    · obtain ⟨grant, hgrant, actual, h⟩ := exists_left_of_mem hcovered (hall g hg)
      exact ⟨grant, hgrant, actual, h⟩
  · rintro ⟨hgroups, hgrants, hcover⟩
    obtain ⟨covered, hcovered⟩ := exists_forall₂ (R := fun grant g =>
      ∃ actual, b.GrantMatches p grant actual g) fun grant hgrant => by
        obtain ⟨actual, g, h⟩ := hgrants grant hgrant
        exact ⟨g, actual, h⟩
    refine ⟨hgroups, covered, hcovered, fun g hg => ?_⟩
    obtain ⟨grant, hgrant, actual, h⟩ := hcover g hg
    obtain ⟨g', hg', actual', h'⟩ := exists_right_of_mem hcovered hgrant
    rw [h.group_unique hnd h']
    exact hg'

theorem checkGroup_eq_ok_iff {b : PolicyBundleV1} {g : RouteGroupRevision} :
    b.checkGroup g = .ok () ↔
      (∀ leg ∈ g.legs, leg.accountId ∈ b.accounts.map ProviderAccount.accountId) ∧
      (g.legs.filter fun leg => RouteTrigger.primary ∈ leg.triggers).length = 1 := by
  simp only [checkGroup, bind_eq_ok_iff, requireValue_eq_ok_iff, exists_const,
    List.filter_eq_nil_iff, decide_eq_true_eq, not_not, List.forall_mem_map]

theorem checkUnique_eq_ok_iff {b : PolicyBundleV1} :
    b.checkUnique = .ok () ↔ (b.accounts.map ProviderAccount.accountId).Nodup ∧
      (b.routeGroups.map RouteGroupRevision.routeGroupId).Nodup ∧
      (b.policies.map KeyPolicyRevision.policyId).Nodup ∧
      (b.keys.map ClientKeyRecord.keyId).Nodup ∧ (b.legs.map RouteLeg.legId).Nodup ∧
      (b.routeGroups.map RouteGroupRevision.name).Nodup ∧ b.legacyFingerprints.Nodup ∧
      b.bindings.Nodup := by
  simp only [checkUnique, bind_eq_ok_iff, requireValue_eq_ok_iff, exists_const]

theorem exactMembership_eq_ok_iff {b : PolicyBundleV1} :
    b.exactMembership = .ok () ↔ b.Consistent := by
  simp only [exactMembership, bind_eq_ok_iff, forEach_eq_ok_iff, requireValue_eq_ok_iff]
  constructor
  · rintro ⟨⟨⟩, hunique, ⟨⟩, hgroups, ⟨⟩, hpolicies, hkeys⟩
    obtain ⟨h₁, h₂, h₃, h₄, hlegs, h₆, h₇, h₈⟩ := checkUnique_eq_ok_iff.mp hunique
    have hgroup := fun g hg => checkGroup_eq_ok_iff.mp (hgroups g hg)
    have hpolicy := fun p hp => (checkPolicy_eq_ok_iff hlegs).mp (hpolicies p hp)
    exact ⟨h₁, h₂, h₃, h₄, hlegs, h₆, h₇, h₈, fun g hg => (hgroup g hg).1,
      fun g hg => (hgroup g hg).2, fun p hp => (hpolicy p hp).1, fun p hp => (hpolicy p hp).2.1,
      fun p hp => (hpolicy p hp).2.2, hkeys⟩
  · intro h
    refine ⟨(), checkUnique_eq_ok_iff.mpr ⟨h.accounts_nodup, h.groups_nodup, h.policies_nodup,
      h.keys_nodup, h.legs_nodup, h.names_nodup, h.fingerprints_nodup, h.bindings_nodup⟩, (),
      fun g hg => checkGroup_eq_ok_iff.mpr ⟨h.legAccounts g hg, h.onePrimary g hg⟩, (),
      fun p hp => (checkPolicy_eq_ok_iff h.legs_nodup).mpr
        ⟨h.policyGroups p hp, h.grants p hp, h.covered p hp⟩, h.keyPolicies⟩

/-- The fields of a bundle that no normalisation touches. -/
structure FieldsSound (b : PolicyBundleV1) : Prop where
  schemaVersion : b.schemaVersion = 1
  generation : 1 ≤ b.generation
  minReader : minReaderSupported b.minReader = .ok ()
  requiredFeatures : b.requiredFeatures.Nodup
  keys : b.keys ≠ []
  policies : b.policies ≠ []
  accounts : b.accounts ≠ []
  routeGroups : b.routeGroups ≠ []
  backendManifestHash : isHex64 b.backendManifestHash = true

theorem validate_eq_ok_iff {b b' : PolicyBundleV1} :
    b.validate = .ok b' ↔ b.FieldsSound ∧ (∀ k ∈ b.keys, k.validate = .ok ()) ∧
      ∃ policies accounts routeGroups,
        b.policies.mapM KeyPolicyRevision.validate = .ok policies ∧
        b.accounts.mapM ProviderAccount.validate = .ok accounts ∧
        b.routeGroups.mapM RouteGroupRevision.validate = .ok routeGroups ∧
        b' = { b with policies, accounts, routeGroups } ∧ b'.Consistent := by
  simp only [validate, bind_eq_ok_iff, requireField_eq_ok_iff, requireValue_eq_ok_iff,
    exists_const, forEach_eq_ok_iff, pure_eq_ok, Except.ok.injEq]
  constructor
  · rintro ⟨h₁, h₂, ⟨⟩, h₃, h₄, h₅, hkeys, h₆, policies, hpolicies, h₇, accounts, haccounts, h₈,
      routeGroups, hgroups, h₉, ⟨⟩, hmember, rfl⟩
    exact ⟨⟨h₁, h₂, h₃, h₄, h₅, h₆, h₇, h₈, h₉⟩, hkeys, policies, accounts, routeGroups, hpolicies,
      haccounts, hgroups, rfl, exactMembership_eq_ok_iff.mp hmember⟩
  · rintro ⟨h, hkeys, policies, accounts, routeGroups, hpolicies, haccounts, hgroups, rfl, hmember⟩
    exact ⟨h.schemaVersion, h.generation, (), h.minReader, h.requiredFeatures, h.keys, hkeys,
      h.policies, policies, hpolicies, h.accounts, accounts, haccounts, h.routeGroups, routeGroups,
      hgroups, h.backendManifestHash, (), exactMembership_eq_ok_iff.mpr hmember, rfl⟩

/-- What validation returns is accepted as it is. -/
theorem validate_idem {b b' : PolicyBundleV1} (h : b.validate = .ok b') : b'.validate = .ok b' := by
  obtain ⟨hfields, hkeys, policies, accounts, routeGroups, hpolicies, haccounts, hgroups, rfl,
    hmember⟩ := validate_eq_ok_iff.mp h
  rw [mapM_eq_ok_iff] at hpolicies haccounts hgroups
  have hne : ∀ {α β : Type} {R : α → β → Prop} {l : List α} {l' : List β}, List.Forall₂ R l l' →
      l ≠ [] → l' ≠ [] := by
    rintro α β R l l' hR hl rfl
    exact hl (List.forall₂_nil_right_iff.mp hR)
  refine validate_eq_ok_iff.mpr ⟨{ hfields with
      policies := hne hpolicies hfields.policies
      accounts := hne haccounts hfields.accounts
      routeGroups := hne hgroups hfields.routeGroups }, hkeys, policies, accounts, routeGroups,
    mapM_eq_ok_self_iff.mpr fun p hp => ?_, mapM_eq_ok_self_iff.mpr fun a ha => ?_,
    mapM_eq_ok_self_iff.mpr fun g hg => ?_, rfl, hmember⟩
  · obtain ⟨p₀, -, hp₀⟩ := exists_left_of_mem hpolicies hp
    exact KeyPolicyRevision.validate_idem hp₀
  · obtain ⟨a₀, -, ha₀⟩ := exists_left_of_mem haccounts ha
    exact ProviderAccount.validate_idem ha₀
  · obtain ⟨g₀, -, hg₀⟩ := exists_left_of_mem hgroups hg
    exact RouteGroupRevision.validate_idem hg₀

/-- The members of a bundle that validation leaves as it is. -/
theorem validate_eq_ok_self_iff {b : PolicyBundleV1} :
    b.validate = .ok b ↔ b.FieldsSound ∧ (∀ k ∈ b.keys, k.validate = .ok ()) ∧
      (∀ p ∈ b.policies, p.validate = .ok p) ∧ (∀ a ∈ b.accounts, a.validate = .ok a) ∧
      (∀ g ∈ b.routeGroups, g.validate = .ok g) ∧ b.Consistent := by
  rw [validate_eq_ok_iff]
  constructor
  · rintro ⟨hfields, hkeys, policies, accounts, routeGroups, hpolicies, haccounts, hgroups, heq,
      hmember⟩
    obtain rfl : b.policies = policies := congrArg PolicyBundleV1.policies heq
    obtain rfl : b.accounts = accounts := congrArg PolicyBundleV1.accounts heq
    obtain rfl : b.routeGroups = routeGroups := congrArg PolicyBundleV1.routeGroups heq
    rw [mapM_eq_ok_self_iff] at hpolicies haccounts hgroups
    exact ⟨hfields, hkeys, hpolicies, haccounts, hgroups, hmember⟩
  · rintro ⟨hfields, hkeys, hpolicies, haccounts, hgroups, hmember⟩
    exact ⟨hfields, hkeys, _, _, _, mapM_eq_ok_self_iff.mpr hpolicies,
      mapM_eq_ok_self_iff.mpr haccounts, mapM_eq_ok_self_iff.mpr hgroups, rfl, hmember⟩

end PolicyBundleV1

end LlmMaxxing
