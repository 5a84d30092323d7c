import LlmMaxxing.Core.SampleBundle
import LlmMaxxing.Core.VerifierOrder
import LlmMaxxing.Lib.JsonLength

/-!
# The canonical bytes of a bundle, read back

Reading the canonical bytes of a valid bundle builds its arrangement and validates it. Every
check but one looks at its arrays as sets, and what validation stores (`decoded`) has the same
arrangement again; the exception is the order of a key's verifiers. So the round trip succeeds
exactly when the verifiers of every key are ordered by text: `canonical_roundTrip_iff`.
-/

namespace LlmMaxxing

open Json Check

/-! ## Arranging twice -/

section Arrange

variable {α : Type} (c : JsonCodec ValidationError α)

theorem sortEncoded_perm (l : List α) : (sortEncoded c l).Perm l := SortOn.perm _ _

@[simp] theorem mem_sortEncoded {l : List α} {a : α} : a ∈ sortEncoded c l ↔ a ∈ l :=
  SortOn.mem_iff _

@[simp] theorem sortEncoded_eq_nil_iff {l : List α} : sortEncoded c l = [] ↔ l = [] :=
  ⟨fun h => List.nil_perm.mp (h ▸ sortEncoded_perm c l), fun h => by rw [h]; rfl⟩

@[simp] theorem sortEncoded_sortEncoded (l : List α) :
    sortEncoded c (sortEncoded c l) = sortEncoded c l :=
  SortOn.eq_self _ (SortOn.pairwise _ _)

/-- A map that fixes the members of a sorted list leaves the list as it is. -/
theorem sortEncoded_map_of_fixed {f : α → α} {l : List α} (h : ∀ a ∈ l, f a = a) :
    sortEncoded c ((sortEncoded c l).map f) = sortEncoded c l := by
  have hmap : (sortEncoded c l).map f = sortEncoded c l :=
    (List.map_congr_left fun a ha => h a ((mem_sortEncoded c).mp ha)).trans (List.map_id _)
  rw [hmap, sortEncoded_sortEncoded]

/-- The same for a list that is already the image of an idempotent map. -/
theorem sortEncoded_map_idem {f : α → α} (h : ∀ a, f (f a) = f a) (l : List α) :
    sortEncoded c ((sortEncoded c (l.map f)).map f) = sortEncoded c (l.map f) := by
  apply sortEncoded_map_of_fixed
  intro a ha
  obtain ⟨a₀, -, rfl⟩ := List.mem_map.mp ha
  exact h a₀

end Arrange

@[simp] theorem LegCapabilities.arrange_arrange (c : LegCapabilities) :
    c.arrange.arrange = c.arrange := by
  simp [LegCapabilities.arrange]

@[simp] theorem AuthorizedLeg.arrange_arrange (leg : AuthorizedLeg) :
    leg.arrange.arrange = leg.arrange := by
  simp [AuthorizedLeg.arrange]

@[simp] theorem RouteLeg.arrange_arrange (leg : RouteLeg) : leg.arrange.arrange = leg.arrange := by
  simp [RouteLeg.arrange]

@[simp] theorem RouteLeg.sortKey_arrange (leg : RouteLeg) : leg.arrange.sortKey = leg.sortKey := rfl

@[simp] theorem RouteGroupRevision.arrange_arrange (g : RouteGroupRevision) :
    g.arrange.arrange = g.arrange := by
  have hmap : (sortOn RouteLeg.sortKey (g.legs.map RouteLeg.arrange)).map RouteLeg.arrange =
      sortOn RouteLeg.sortKey (g.legs.map RouteLeg.arrange) := by
    refine (List.map_congr_left fun leg hleg => ?_).trans (List.map_id _)
    obtain ⟨leg₀, -, rfl⟩ := List.mem_map.mp ((SortOn.mem_iff _).mp hleg)
    exact leg₀.arrange_arrange
  simp only [RouteGroupRevision.arrange, hmap, SortOn.eq_self _ (SortOn.pairwise _ _)]

@[simp] theorem ClientKeyRecord.arrange_arrange (k : ClientKeyRecord) :
    k.arrange.arrange = k.arrange := by
  simp [ClientKeyRecord.arrange]

/-- A policy as validation stores it: grants by `(order, leg_id)`. -/
def KeyPolicyRevision.stored (p : KeyPolicyRevision) : KeyPolicyRevision :=
  { p with authorizedLegs := sortOn AuthorizedLeg.sortKey p.authorizedLegs }

/-- Grants with readable text are put back in the order of their text. -/
theorem KeyPolicyRevision.arrange_stored_arrange {p : KeyPolicyRevision}
    (h : ∀ leg ∈ p.authorizedLegs, (Codec.authorizedLeg.enc leg.arrange).Holds Readable) :
    p.arrange.stored.arrange = p.arrange := by
  have hmap : (sortOn AuthorizedLeg.sortKey p.arrange.authorizedLegs).map AuthorizedLeg.arrange =
      sortOn AuthorizedLeg.sortKey p.arrange.authorizedLegs := by
    refine (List.map_congr_left fun leg hleg => ?_).trans (List.map_id _)
    obtain ⟨leg₀, -, rfl⟩ :=
      List.mem_map.mp ((mem_sortEncoded _).mp ((SortOn.mem_iff _).mp hleg))
    exact leg₀.arrange_arrange
  have hsort : sortEncoded Codec.authorizedLeg
      (sortOn AuthorizedLeg.sortKey p.arrange.authorizedLegs) = p.arrange.authorizedLegs := by
    have hperm : (sortOn AuthorizedLeg.sortKey p.arrange.authorizedLegs).Perm
        (p.authorizedLegs.map AuthorizedLeg.arrange) :=
      (SortOn.perm _ _).trans (sortEncoded_perm _ _)
    refine SortOn.eq_of_perm _ hperm fun a ha b hb hab => ?_
    obtain ⟨a₀, ha₀, rfl⟩ := List.mem_map.mp (hperm.mem_iff.mp ha)
    obtain ⟨b₀, hb₀, rfl⟩ := List.mem_map.mp (hperm.mem_iff.mp hb)
    have hbytes := List.map_injective_iff.mpr (fun _ _ => UInt8.toNat_inj.mp) hab
    exact Codec.authorizedLeg.enc_injective_of_render (h a₀ ha₀) (h b₀ hb₀)
      (utf8_injective hbytes)
  have hids : sortEncoded (Codec.id _) p.arrange.routeGroupIds = p.arrange.routeGroupIds :=
    sortEncoded_sortEncoded _ _
  simp only [KeyPolicyRevision.arrange, KeyPolicyRevision.stored] at hmap hsort hids ⊢
  rw [hmap, hsort, hids]

/-! ## Arranged members are valid -/

theorem LegCapabilities.arrange_validate {c : LegCapabilities} (h : c.validate = .ok ()) :
    c.arrange.validate = .ok () := by
  obtain ⟨h₁, h₂, h₃, h₄, h₅, h₆⟩ := validate_eq_ok_iff.mp h
  exact validate_eq_ok_iff.mpr ⟨mt (sortEncoded_eq_nil_iff _).mp h₁,
    (sortEncoded_perm _ _).nodup_iff.mpr h₂, mt (sortEncoded_eq_nil_iff _).mp h₃,
    (sortEncoded_perm _ _).nodup_iff.mpr h₄, h₅, h₆⟩

theorem AuthorizedLeg.arrange_validate {leg : AuthorizedLeg} (h : leg.validate = .ok ()) :
    leg.arrange.validate = .ok () := by
  obtain ⟨h₁, h₂, h₃, h₄⟩ := validate_eq_ok_iff.mp h
  exact validate_eq_ok_iff.mpr ⟨h₁, mt (sortEncoded_eq_nil_iff _).mp h₂,
    (sortEncoded_perm _ _).nodup_iff.mpr h₃, LegCapabilities.arrange_validate h₄⟩

theorem RouteLeg.mem_arrange_triggers {leg : RouteLeg} {t : RouteTrigger} :
    t ∈ leg.arrange.triggers ↔ t ∈ leg.triggers := mem_sortEncoded _

theorem RouteLeg.arrange_validate {leg : RouteLeg} (h : leg.validate = .ok ()) :
    leg.arrange.validate = .ok () := by
  obtain ⟨h₁, h₂, h₃, h₄, h₅, h₆⟩ := validate_eq_ok_iff.mp h
  have ht := sortEncoded_perm (Codec.enum _) leg.triggers
  refine validate_eq_ok_iff.mpr ⟨h₁, mt (sortEncoded_eq_nil_iff _).mp h₂,
    ht.nodup_iff.mpr h₃, LegCapabilities.arrange_validate h₄, ?_, fun hshadow => ?_⟩
  · rw [decide_eq_decide.mpr mem_arrange_triggers]
    exact h₅
  · have hone := h₆ (mem_arrange_triggers.mp hshadow)
    exact List.perm_singleton.mp (hone ▸ ht)

theorem RouteGroupRevision.arrange_legs_perm (g : RouteGroupRevision) :
    g.arrange.legs.Perm (g.legs.map RouteLeg.arrange) := SortOn.perm _ _

theorem RouteGroupRevision.arrange_validate {g g' : RouteGroupRevision} (h : g.validate = .ok g') :
    g.arrange.validate = .ok g.arrange := by
  obtain ⟨h₁, h₂, h₃, h₄, -⟩ := validate_eq_ok_iff.mp h
  have hperm := g.arrange_legs_perm
  refine validate_eq_ok_iff.mpr ⟨h₁, fun hnil => ?_, fun leg hleg => ?_, ?_, ?_⟩
  · rw [hnil] at hperm
    exact h₂ (List.map_eq_nil_iff.mp (List.nil_perm.mp hperm))
  · obtain ⟨leg₀, hleg₀, rfl⟩ := List.mem_map.mp (hperm.mem_iff.mp hleg)
    exact RouteLeg.arrange_validate (h₃ leg₀ hleg₀)
  · rw [(hperm.map _).nodup_iff, List.map_map]
    exact h₄
  · have hsorted := SortOn.eq_self _ (SortOn.pairwise RouteLeg.sortKey (g.legs.map RouteLeg.arrange))
    simp only [RouteGroupRevision.arrange, hsorted]

theorem KeyPolicyRevision.arrange_authorizedLegs_perm (p : KeyPolicyRevision) :
    p.arrange.authorizedLegs.Perm (p.authorizedLegs.map AuthorizedLeg.arrange) :=
  sortEncoded_perm _ _

theorem KeyPolicyRevision.arrange_validate {p p' : KeyPolicyRevision} (h : p.validate = .ok p') :
    p.arrange.validate = .ok p.arrange.stored := by
  obtain ⟨h₁, h₂, h₃, h₄, h₅, h₆, h₇, h₈, h₉, -⟩ := validate_eq_ok_iff.mp h
  have hgroups := sortEncoded_perm (Codec.id _) p.routeGroupIds
  have hperm := p.arrange_authorizedLegs_perm
  refine validate_eq_ok_iff.mpr ⟨h₁, mt (sortEncoded_eq_nil_iff _).mp h₂,
    hgroups.nodup_iff.mpr h₃, fun hnil => ?_, fun leg hleg => ?_, ?_, h₇, h₈, h₉, rfl⟩
  · rw [hnil] at hperm
    exact h₄ (List.map_eq_nil_iff.mp (List.nil_perm.mp hperm))
  · obtain ⟨leg₀, hleg₀, rfl⟩ := List.mem_map.mp (hperm.mem_iff.mp hleg)
    exact AuthorizedLeg.arrange_validate (h₅ leg₀ hleg₀)
  · rw [(hperm.map _).nodup_iff, List.map_map]
    exact h₆

/-! ## The decoded bundle -/

namespace PolicyBundleV1

/-- What validation stores when it accepts the arrangement of `b`. -/
def decoded (b : PolicyBundleV1) : PolicyBundleV1 :=
  { b.arrange with policies := b.arrange.policies.map KeyPolicyRevision.stored }

variable {b : PolicyBundleV1}

theorem decoded_keys_perm : b.decoded.keys.Perm (b.keys.map ClientKeyRecord.arrange) :=
  sortEncoded_perm _ _

theorem decoded_accounts_perm : b.decoded.accounts.Perm b.accounts := sortEncoded_perm _ _

theorem decoded_routeGroups_perm :
    b.decoded.routeGroups.Perm (b.routeGroups.map RouteGroupRevision.arrange) :=
  sortEncoded_perm _ _

theorem decoded_policies_perm :
    b.decoded.policies.Perm (b.policies.map fun p => p.arrange.stored) := by
  have hperm := (sortEncoded_perm Codec.keyPolicyRevision
    (b.policies.map KeyPolicyRevision.arrange)).map KeyPolicyRevision.stored
  rwa [List.map_map] at hperm

theorem mem_decoded_routeGroups {g : RouteGroupRevision} :
    g ∈ b.decoded.routeGroups ↔ ∃ g₀ ∈ b.routeGroups, g₀.arrange = g := by
  rw [decoded_routeGroups_perm.mem_iff, List.mem_map]

theorem mem_decoded_policies {p : KeyPolicyRevision} :
    p ∈ b.decoded.policies ↔ ∃ p₀ ∈ b.policies, p₀.arrange.stored = p := by
  rw [decoded_policies_perm.mem_iff, List.mem_map]

theorem mem_arrange_legs {g : RouteGroupRevision} {leg : RouteLeg} :
    leg ∈ g.arrange.legs ↔ ∃ leg₀ ∈ g.legs, leg₀.arrange = leg := by
  rw [g.arrange_legs_perm.mem_iff, List.mem_map]

theorem mem_stored_authorizedLegs {p : KeyPolicyRevision} {leg : AuthorizedLeg} :
    leg ∈ p.arrange.stored.authorizedLegs ↔ ∃ leg₀ ∈ p.authorizedLegs, leg₀.arrange = leg := by
  have hperm := (SortOn.perm AuthorizedLeg.sortKey p.arrange.authorizedLegs).trans
    p.arrange_authorizedLegs_perm
  exact hperm.mem_iff.trans List.mem_map

theorem mem_stored_routeGroupIds {p : KeyPolicyRevision} {g : RouteGroupId} :
    g ∈ p.arrange.stored.routeGroupIds ↔ g ∈ p.routeGroupIds := mem_sortEncoded _

theorem mem_decoded_accountIds {a : AccountId} :
    a ∈ b.decoded.accounts.map ProviderAccount.accountId ↔
      a ∈ b.accounts.map ProviderAccount.accountId :=
  (decoded_accounts_perm.map _).mem_iff

theorem decoded_groupIds_perm :
    (b.decoded.routeGroups.map RouteGroupRevision.routeGroupId).Perm
      (b.routeGroups.map RouteGroupRevision.routeGroupId) := by
  have hperm := (decoded_routeGroups_perm (b := b)).map RouteGroupRevision.routeGroupId
  rwa [List.map_map] at hperm

theorem decoded_policyIds_perm :
    (b.decoded.policies.map KeyPolicyRevision.policyId).Perm
      (b.policies.map KeyPolicyRevision.policyId) := by
  have hperm := (decoded_policies_perm (b := b)).map KeyPolicyRevision.policyId
  rwa [List.map_map] at hperm

theorem decoded_legIds_perm :
    (b.decoded.legs.map RouteLeg.legId).Perm (b.legs.map RouteLeg.legId) := by
  have hgroup : ∀ g : RouteGroupRevision, (g.arrange.legs.map RouteLeg.legId).Perm
      (g.legs.map RouteLeg.legId) := fun g => by
    have hperm := g.arrange_legs_perm.map RouteLeg.legId
    rwa [List.map_map] at hperm
  rw [legs, legs, List.map_flatMap, List.map_flatMap]
  refine (decoded_routeGroups_perm.flatMap_right _).trans ?_
  rw [List.flatMap_map]
  exact List.Perm.flatMap_left _ fun g _ => hgroup g

theorem decoded_legacyFingerprints_perm :
    b.decoded.legacyFingerprints.Perm b.legacyFingerprints := by
  refine (decoded_keys_perm.flatMap_right _).trans ?_
  rw [List.flatMap_map]
  exact List.Perm.flatMap_left _ fun k _ => k.arrange_legacyVerifiers_perm.map _

theorem mem_decoded_legGroups {leg : RouteLeg} {g : RouteGroupId}
    (h : (leg, g) ∈ b.legGroups) : (leg.arrange, g) ∈ b.decoded.legGroups := by
  simp only [legGroups, List.mem_flatMap, List.mem_map] at h ⊢
  obtain ⟨group, hgroup, leg', hleg', heq⟩ := h
  obtain ⟨rfl, rfl⟩ := Prod.mk.inj heq
  exact ⟨group.arrange, mem_decoded_routeGroups.mpr ⟨group, hgroup, rfl⟩, leg'.arrange,
    mem_arrange_legs.mpr ⟨leg', hleg', rfl⟩, rfl⟩

theorem GrantMatches.decoded {p : KeyPolicyRevision} {grant : AuthorizedLeg} {actual : RouteLeg}
    {g : RouteGroupId} (h : b.GrantMatches p grant actual g) :
    b.decoded.GrantMatches p.arrange.stored grant.arrange actual.arrange g where
  account := mem_decoded_accountIds.mpr h.account
  leg := mem_decoded_legGroups h.leg
  inPolicy := mem_stored_routeGroupIds.mpr h.inPolicy
  identity := h.identity
  triggers t ht := RouteLeg.mem_arrange_triggers.mpr (h.triggers t ((mem_sortEncoded _).mp ht))
  capabilities := congrArg LegCapabilities.arrange h.capabilities

theorem Consistent.decoded (h : b.Consistent) : b.decoded.Consistent where
  accounts_nodup := (decoded_accounts_perm.map _).nodup_iff.mpr h.accounts_nodup
  groups_nodup := decoded_groupIds_perm.nodup_iff.mpr h.groups_nodup
  policies_nodup := decoded_policyIds_perm.nodup_iff.mpr h.policies_nodup
  keys_nodup := by
    have hperm := (decoded_keys_perm (b := b)).map ClientKeyRecord.keyId
    rw [List.map_map] at hperm
    exact hperm.nodup_iff.mpr h.keys_nodup
  legs_nodup := decoded_legIds_perm.nodup_iff.mpr h.legs_nodup
  names_nodup := by
    have hperm := (decoded_routeGroups_perm (b := b)).map RouteGroupRevision.name
    rw [List.map_map] at hperm
    exact hperm.nodup_iff.mpr h.names_nodup
  fingerprints_nodup := decoded_legacyFingerprints_perm.nodup_iff.mpr h.fingerprints_nodup
  bindings_nodup := ((decoded_accounts_perm.map _).filter _).nodup_iff.mpr h.bindings_nodup
  legAccounts g hg leg hleg := by
    obtain ⟨g₀, hg₀, rfl⟩ := mem_decoded_routeGroups.mp hg
    obtain ⟨leg₀, hleg₀, rfl⟩ := mem_arrange_legs.mp hleg
    exact mem_decoded_accountIds.mpr (h.legAccounts g₀ hg₀ leg₀ hleg₀)
  onePrimary g hg := by
    obtain ⟨g₀, hg₀, rfl⟩ := mem_decoded_routeGroups.mp hg
    rw [(g₀.arrange_legs_perm.filter _).length_eq, List.filter_map, List.length_map,
      ← h.onePrimary g₀ hg₀]
    congr 2
    funext leg
    exact decide_eq_decide.mpr RouteLeg.mem_arrange_triggers
  policyGroups p hp g hg := by
    obtain ⟨p₀, hp₀, rfl⟩ := mem_decoded_policies.mp hp
    exact decoded_groupIds_perm.mem_iff.mpr
      (h.policyGroups p₀ hp₀ g (mem_stored_routeGroupIds.mp hg))
  grants p hp grant hgrant := by
    obtain ⟨p₀, hp₀, rfl⟩ := mem_decoded_policies.mp hp
    obtain ⟨grant₀, hgrant₀, rfl⟩ := mem_stored_authorizedLegs.mp hgrant
    obtain ⟨actual, g, hmatch⟩ := h.grants p₀ hp₀ grant₀ hgrant₀
    exact ⟨actual.arrange, g, hmatch.decoded⟩
  covered p hp g hg := by
    obtain ⟨p₀, hp₀, rfl⟩ := mem_decoded_policies.mp hp
    obtain ⟨grant, hgrant, actual, hmatch⟩ := h.covered p₀ hp₀ g (mem_stored_routeGroupIds.mp hg)
    exact ⟨grant.arrange, mem_stored_authorizedLegs.mpr ⟨grant, hgrant, rfl⟩, actual.arrange,
      hmatch.decoded⟩
  keyPolicies k hk := by
    obtain ⟨k₀, hk₀, rfl⟩ := List.mem_map.mp (decoded_keys_perm.mem_iff.mp hk)
    exact decoded_policyIds_perm.mem_iff.mpr (h.keyPolicies k₀ hk₀)

/-- Sorting keeps the fields sound. -/
theorem FieldsSound.arrange (h : b.FieldsSound) : b.arrange.FieldsSound where
  schemaVersion := h.schemaVersion
  generation := h.generation
  minReader := h.minReader
  requiredFeatures := (sortEncoded_perm _ _).nodup_iff.mpr h.requiredFeatures
  keys hnil := h.keys (List.map_eq_nil_iff.mp ((sortEncoded_eq_nil_iff _).mp hnil))
  policies hnil := h.policies (List.map_eq_nil_iff.mp ((sortEncoded_eq_nil_iff _).mp hnil))
  accounts hnil := h.accounts ((sortEncoded_eq_nil_iff _).mp hnil)
  routeGroups hnil := h.routeGroups (List.map_eq_nil_iff.mp ((sortEncoded_eq_nil_iff _).mp hnil))
  backendManifestHash := h.backendManifestHash

/-- Every key's verifiers are ordered by text. -/
def TextOrdered (b : PolicyBundleV1) : Prop := ∀ k ∈ b.keys, k.TextOrdered

/-- The arrangement of a valid bundle is accepted exactly when the verifiers of its keys are
ordered by text, and then stored as `decoded`. -/
theorem arrange_validate_iff (hb : b.validate = .ok b) {b' : PolicyBundleV1} :
    b.arrange.validate = .ok b' ↔ b.TextOrdered ∧ b' = b.decoded := by
  obtain ⟨hfields, hkeys, hpolicies, haccounts, hgroups, hmember⟩ := validate_eq_ok_self_iff.mp hb
  have hstored : b.arrange.policies.mapM KeyPolicyRevision.validate =
      .ok (b.arrange.policies.map KeyPolicyRevision.stored) := by
    rw [mapM_eq_ok_iff, List.forall₂_map_right_iff, List.forall₂_same]
    intro p hp
    obtain ⟨p₀, hp₀, rfl⟩ := List.mem_map.mp ((mem_sortEncoded _).mp hp)
    exact KeyPolicyRevision.arrange_validate (hpolicies p₀ hp₀)
  have haccount : b.arrange.accounts.mapM ProviderAccount.validate = .ok b.arrange.accounts :=
    mapM_eq_ok_self_iff.mpr fun a ha => haccounts a ((mem_sortEncoded _).mp ha)
  have hgroup : b.arrange.routeGroups.mapM RouteGroupRevision.validate =
      .ok b.arrange.routeGroups := by
    refine mapM_eq_ok_self_iff.mpr fun g hg => ?_
    obtain ⟨g₀, hg₀, rfl⟩ := List.mem_map.mp ((mem_sortEncoded _).mp hg)
    exact RouteGroupRevision.arrange_validate (hgroups g₀ hg₀)
  have hkey : (∀ k ∈ b.arrange.keys, k.validate = .ok ()) ↔ b.TextOrdered := by
    have hmem : ∀ k, k ∈ b.arrange.keys ↔ ∃ k₀ ∈ b.keys, k₀.arrange = k := fun k =>
      (mem_sortEncoded _).trans List.mem_map
    constructor
    · intro h k hk
      exact (ClientKeyRecord.arrange_validate_iff (hkeys k hk)).mp (h _ ((hmem _).mpr ⟨k, hk, rfl⟩))
    · intro h k hk
      obtain ⟨k₀, hk₀, rfl⟩ := (hmem k).mp hk
      exact (ClientKeyRecord.arrange_validate_iff (hkeys k₀ hk₀)).mpr (h k₀ hk₀)
  rw [validate_eq_ok_iff, hkey]
  constructor
  · rintro ⟨-, htext, policies, accounts, routeGroups, hp, ha, hg, rfl, -⟩
    rw [hstored] at hp
    rw [haccount] at ha
    rw [hgroup] at hg
    cases hp
    cases ha
    cases hg
    exact ⟨htext, rfl⟩
  · rintro ⟨htext, rfl⟩
    exact ⟨hfields.arrange, htext, _, _, _, hstored, haccount, hgroup, rfl, hmember.decoded⟩

/-! ## Reading the bytes back -/

theorem canonicalBundleBytes_eq_ok_iff (hb : b.validate = .ok b) {p : Bytes} :
    canonicalBundleBytes b = .ok p ↔ safeInts (Codec.policyBundle.enc b.arrange) = true ∧
      utf8 (Codec.policyBundle.enc b.arrange).render = p := by
  rw [canonicalBundleBytes, hb]
  simp only [serialize, sortCollections_policyBundle b none]
  split
  · next h => simp [h]
  · next h => simp [h]

theorem holds_readable_arrange (h : safeInts (Codec.policyBundle.enc b.arrange) = true) :
    (Codec.policyBundle.enc b.arrange).Holds Readable :=
  holds_readable_of_safeInts _ (Codec.policyBundle.distinct _) h

/-- Every grant inside a readable bundle is readable. -/
theorem holds_readable_grant (h : (Codec.policyBundle.enc b.arrange).Holds Readable)
    {p : KeyPolicyRevision} (hp : p ∈ b.policies) {leg : AuthorizedLeg}
    (hleg : leg ∈ p.authorizedLegs) : (Codec.authorizedLeg.enc leg.arrange).Holds Readable := by
  have hpolicies : (Json.arr (b.arrange.policies.map Codec.keyPolicyRevision.enc)).Holds Readable :=
    (holds_obj.mp h).2 ("policies", _) (by simp [Codec.list, JsonCodec.list])
  have hpolicy := holds_arr.mp hpolicies _ (List.mem_map.mpr ⟨p.arrange,
    (mem_sortEncoded _).mpr (List.mem_map.mpr ⟨p, hp, rfl⟩), rfl⟩)
  have hlegs : (Json.arr (p.arrange.authorizedLegs.map Codec.authorizedLeg.enc)).Holds Readable :=
    (holds_obj.mp hpolicy).2 ("authorized_legs", _) (by simp [Codec.list, JsonCodec.list])
  exact holds_arr.mp hlegs _ (List.mem_map.mpr ⟨leg.arrange,
    (mem_sortEncoded _).mpr (List.mem_map.mpr ⟨leg, hleg, rfl⟩), rfl⟩)

theorem arrange_decoded (h : (Codec.policyBundle.enc b.arrange).Holds Readable) :
    b.decoded.arrange = b.arrange := by
  have hpolicies : b.decoded.arrange.policies = b.arrange.policies := by
    show sortEncoded _ ((b.arrange.policies.map KeyPolicyRevision.stored).map
      KeyPolicyRevision.arrange) = b.arrange.policies
    rw [List.map_map]
    refine sortEncoded_map_of_fixed _ fun p hp => ?_
    obtain ⟨p₀, hp₀, rfl⟩ := List.mem_map.mp hp
    exact KeyPolicyRevision.arrange_stored_arrange fun leg hleg => holds_readable_grant h hp₀ hleg
  have hkeys : b.decoded.arrange.keys = b.arrange.keys :=
    sortEncoded_map_idem _ ClientKeyRecord.arrange_arrange _
  have hgroups : b.decoded.arrange.routeGroups = b.arrange.routeGroups :=
    sortEncoded_map_idem _ RouteGroupRevision.arrange_arrange _
  have haccounts : b.decoded.arrange.accounts = b.arrange.accounts := sortEncoded_sortEncoded _ _
  have hfeatures : b.decoded.arrange.requiredFeatures = b.arrange.requiredFeatures :=
    sortEncoded_sortEncoded _ _
  calc b.decoded.arrange
      = { b.arrange with
          keys := b.decoded.arrange.keys, policies := b.decoded.arrange.policies,
          accounts := b.decoded.arrange.accounts, routeGroups := b.decoded.arrange.routeGroups,
          requiredFeatures := b.decoded.arrange.requiredFeatures } := rfl
    _ = b.arrange := by rw [hpolicies, hkeys, hgroups, haccounts, hfeatures]

/-- Reading the canonical bytes validates the arrangement. -/
theorem decodeBundle_canonical (hb : b.validate = .ok b) {p : Bytes}
    (hp : canonicalBundleBytes b = .ok p) : decodeBundle p = b.arrange.validate := by
  obtain ⟨hsafe, rfl⟩ := (canonicalBundleBytes_eq_ok_iff hb).mp hp
  rw [decodeBundle, parse_utf8_render (holds_readable_arrange hsafe)]
  simp only [JsonCodec.dec_norm_enc, ok_bind]

/-- What is read back has the same canonical bytes. -/
theorem canonicalBundleBytes_decoded (hb : b.validate = .ok b) {p : Bytes}
    (hp : canonicalBundleBytes b = .ok p) (hdecoded : b.decoded.validate = .ok b.decoded) :
    canonicalBundleBytes b.decoded = .ok p := by
  obtain ⟨hsafe, hbytes⟩ := (canonicalBundleBytes_eq_ok_iff hb).mp hp
  rw [canonicalBundleBytes_eq_ok_iff hdecoded, arrange_decoded (holds_readable_arrange hsafe)]
  exact ⟨hsafe, hbytes⟩

end PolicyBundleV1

/-! ## The smallest bundle, read back -/

theorem rotatingKey_arrange : (rotatingKey 1 2).arrange = rotatingKey 1 2 := by
  have hlt := @CredentialVerifier.serializedKey_lt_of_textLt (sampleVerifier 1 .retiring)
    (sampleVerifier 2 .active) (by decide)
  have hsort : sortEncoded Codec.clientCredentialVerifier
      [sampleVerifier 1 .retiring, sampleVerifier 2 .active] =
      [sampleVerifier 1 .retiring, sampleVerifier 2 .active] :=
    SortOn.eq_self _ (by simpa using hlt.le)
  simp only [ClientKeyRecord.arrange, rotatingKey, hsort]
  rfl

theorem rotatingBundle_arrange (generation : Nat) :
    (rotatingBundle generation 1 2).arrange = rotatingBundle generation 1 2 := by
  have hone : ∀ {α : Type} (c : JsonCodec ValidationError α) (a : α), sortEncoded c [a] = [a] :=
    fun _ _ => rfl
  simp only [PolicyBundleV1.arrange, rotatingBundle, List.map_cons, List.map_nil,
    rotatingKey_arrange, hone]
  rfl

theorem rotatingBundle_decoded (generation : Nat) :
    (rotatingBundle generation 1 2).decoded = rotatingBundle generation 1 2 := by
  rw [PolicyBundleV1.decoded, rotatingBundle_arrange]
  rfl

/-- The canonical bytes of the smallest bundle. -/
def rotatingBytes (generation : Nat) : Bytes :=
  utf8 (Codec.policyBundle.enc (rotatingBundle generation 1 2)).render

/-- The dumps for two generations differ in the member `generation` only. -/
theorem rotatingBundle_enc : ∃ version rest, ∀ generation : Nat,
    Codec.policyBundle.enc (rotatingBundle generation 1 2) =
      .obj (version :: ("generation", .num generation) :: rest) :=
  let b := rotatingBundle 1 1 2
  ⟨("schema_version", .num 1),
    [("min_reader", Codec.string.enc b.minReader),
      ("required_features", (Codec.list (Codec.enum _)).enc b.requiredFeatures),
      ("keys", (Codec.list Codec.clientKeyRecord).enc b.keys),
      ("policies", (Codec.list Codec.keyPolicyRevision).enc b.policies),
      ("accounts", (Codec.list Codec.providerAccount).enc b.accounts),
      ("route_groups", (Codec.list Codec.routeGroupRevision).enc b.routeGroups),
      ("backend_manifest_hash", Codec.string.enc b.backendManifestHash)],
    fun _ => rfl⟩

theorem safeInts_rotatingBundle {generation : Nat} (h : generation ≤ maxSafeInteger) :
    safeInts (Codec.policyBundle.enc (rotatingBundle generation 1 2)) = true := by
  have hfirst : safeInts (Codec.policyBundle.enc (rotatingBundle 1 1 2)) = true := by
    decide +kernel
  obtain ⟨version, rest, hform⟩ := rotatingBundle_enc
  rw [hform, safeInts, safeFields_iff, List.forall_mem_cons, List.forall_mem_cons] at hfirst ⊢
  exact ⟨hfirst.1, by simpa [safeInts] using h, hfirst.2.2⟩

theorem rotatingBundle_textOrdered (generation : Nat) :
    (rotatingBundle generation 1 2).TextOrdered := by
  refine List.forall_mem_singleton.mpr ⟨?_, List.Pairwise.nil⟩
  decide

section Rotating

variable {generation : Nat}

theorem canonicalBundleBytes_rotating (hpos : 1 ≤ generation) (hsafe : generation ≤ maxSafeInteger) :
    canonicalBundleBytes (rotatingBundle generation 1 2) = .ok (rotatingBytes generation) := by
  have hvalid := @rotatingBundle_valid generation 1 2 hpos (by decide) (by decide)
  rw [PolicyBundleV1.canonicalBundleBytes_eq_ok_iff hvalid, rotatingBundle_arrange]
  exact ⟨safeInts_rotatingBundle hsafe, rfl⟩

theorem decodeBundle_rotating (hpos : 1 ≤ generation) (hsafe : generation ≤ maxSafeInteger) :
    decodeBundle (rotatingBytes generation) = .ok (rotatingBundle generation 1 2) := by
  have hvalid := @rotatingBundle_valid generation 1 2 hpos (by decide) (by decide)
  rw [PolicyBundleV1.decodeBundle_canonical hvalid (canonicalBundleBytes_rotating hpos hsafe),
    rotatingBundle_arrange, hvalid]

theorem rotatingBytes_length_le (hsafe : generation ≤ maxSafeInteger) :
    (rotatingBytes generation).length ≤ 1024 * 1024 := by
  have hutf8 := utf8_length_le (Codec.policyBundle.enc (rotatingBundle generation 1 2)).render
  have hrender := render_length_le (Codec.policyBundle.enc (rotatingBundle generation 1 2))
  have hdigits : (Nat.toDigits 10 generation).length ≤ 16 :=
    (Nat.length_toDigits_le_iff (by decide) (by decide)).mpr (lt_of_le_of_lt hsafe (by decide))
  have hbound : (Codec.policyBundle.enc (rotatingBundle generation 1 2)).textBound ≤ 100016 := by
    have hfirst : (Codec.policyBundle.enc (rotatingBundle 1 1 2)).textBound ≤ 100000 := by
      decide +kernel
    obtain ⟨version, rest, hform⟩ := rotatingBundle_enc
    have hnum : (Json.num generation).textBound = (Nat.toDigits 10 generation).length := rfl
    rw [hform] at hfirst ⊢
    simp only [textBound, boundFields] at hfirst hnum ⊢
    omega
  unfold rotatingBytes
  omega

end Rotating

/-! ## The round trip -/

open PolicyBundleV1

/-- **A bundle's canonical bytes are accepted again, and are canonical again, exactly when the
verifiers of each of its keys are ordered by text.** -/
theorem canonical_roundTrip_iff (b : ValidatedBundle) (p : Bytes)
    (hp : canonicalBundleBytes b.bundle = .ok p) :
    (∃ b', decodeBundle p = .ok b' ∧ canonicalBundleBytes b' = .ok p) ↔ b.bundle.TextOrdered := by
  constructor
  · rintro ⟨b', hdecode, -⟩
    rw [decodeBundle_canonical b.valid hp, arrange_validate_iff b.valid] at hdecode
    exact hdecode.1
  · intro htext
    have haccept := (arrange_validate_iff b.valid).mpr ⟨htext, rfl⟩
    refine ⟨b.bundle.decoded, (decodeBundle_canonical b.valid hp).trans haccept, ?_⟩
    exact canonicalBundleBytes_decoded b.valid hp (validate_idem haccept)

theorem rotation_one_to_two_roundTrip :
    ∃ p, canonicalBundleBytes (rotatingBundle 1 1 2) = .ok p ∧
      ∃ b, decodeBundle p = .ok b ∧ canonicalBundleBytes b = .ok p := by
  have hvalid := @rotatingBundle_valid 1 1 2 (by decide) (by decide) (by decide)
  have hbytes := @canonicalBundleBytes_rotating 1 (by decide) (by decide)
  exact ⟨_, hbytes, (canonical_roundTrip_iff ⟨_, hvalid⟩ _ hbytes).mpr
    (rotatingBundle_textOrdered 1)⟩

/-- The canonical text puts the verifier of generation 10 before that of generation 9, and the
bundle read back is refused. -/
theorem rotation_nine_to_ten_refused :
    (rotatingBundle 1 9 10).validate = .ok (rotatingBundle 1 9 10) ∧
      ∃ p, canonicalBundleBytes (rotatingBundle 1 9 10) = .ok p ∧
        decodeBundle p = .error (.value "canonical credential generations must be increasing") := by
  have hvalid := @rotatingBundle_valid 1 9 10 (by decide) (by decide) (by decide)
  have hbytes := (PolicyBundleV1.canonicalBundleBytes_eq_ok_iff hvalid).mpr
    ⟨by decide +kernel, rfl⟩
  refine ⟨hvalid, _, hbytes, ?_⟩
  rw [PolicyBundleV1.decodeBundle_canonical hvalid hbytes]
  decide +kernel

end LlmMaxxing
