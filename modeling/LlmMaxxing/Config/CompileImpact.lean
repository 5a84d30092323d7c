import LlmMaxxing.Config.CompileSoundness
import LlmMaxxing.Config.PlanSoundness

/-!
# The impact of a compiled bundle

A compiled bundle touches the keys whose policy was rebound and no others: the plan from the base to
the compiled bundle lists exactly these.
-/

namespace LlmMaxxing

open Check Json PlanError

/-! ## Projections of an accepted bundle -/

section

variable {groups groups' : Dict RouteGroupId RouteGroupRevision}
  {accounts accounts' : Dict AccountId ProviderAccount}

/-- A projection reads its indexes by lookups only. -/
theorem effectiveGroup_congr (hgroups : ∀ k, groups.get? k = groups'.get? k)
    (haccounts : ∀ k, accounts.get? k = accounts'.get? k)
    (authorized : Dict RouteLegId AuthorizedLeg) :
    effectiveGroup groups accounts authorized = effectiveGroup groups' accounts' authorized := by
  have hleg : effectiveLeg accounts authorized = effectiveLeg accounts' authorized := by
    funext leg
    simp only [effectiveLeg, item, haccounts]
  funext groupId
  simp only [effectiveGroup, item, hgroups, hleg]

end

variable {b : PolicyBundleV1}

/-- The groups of a policy of the bundle can be projected. -/
theorem effectiveGroup_ok (hb : b.Consistent) {policy : KeyPolicyRevision}
    (hpolicy : policy ∈ b.policies) {g : RouteGroupId} (hg : g ∈ policy.routeGroupIds) :
    ∃ j, effectiveGroup (Dict.indexOn RouteGroupRevision.routeGroupId b.routeGroups)
      (Dict.indexOn ProviderAccount.accountId b.accounts)
      (Dict.indexOn AuthorizedLeg.legId policy.authorizedLegs) g = .ok j := by
  obtain ⟨group, hgroup, hid⟩ := List.mem_map.mp (hb.policyGroups policy hpolicy g hg)
  have hlegs : ∀ leg ∈ group.legs, ∃ j, effectiveLeg (Dict.indexOn ProviderAccount.accountId b.accounts)
      (Dict.indexOn AuthorizedLeg.legId policy.authorizedLegs) leg = .ok j := by
    intro leg _
    unfold effectiveLeg
    cases hget : (Dict.indexOn AuthorizedLeg.legId policy.authorizedLegs).get? leg.legId with
    | none => exact ⟨none, rfl⟩
    | some granted =>
      obtain ⟨granted', hmem, heq⟩ := List.mem_map.mp (Dict.mem_of_get?_ofList hget)
      obtain rfl : granted' = granted := congrArg Prod.snd heq
      obtain ⟨actual, g', hmatch⟩ := hb.grants policy hpolicy granted' hmem
      obtain ⟨account, haccount, haid⟩ := List.mem_map.mp hmatch.account
      have hfound : (Dict.indexOn ProviderAccount.accountId b.accounts).get? granted'.accountId =
          some account := (Dict.get?_indexOn_eq_some_iff hb.accounts_nodup).mpr ⟨haccount, haid⟩
      simp only [item, hfound]
      exact ⟨_, rfl⟩
  obtain ⟨out, hout⟩ := PolicyBundleV1.exists_forall₂ hlegs
  have hfound : (Dict.indexOn RouteGroupRevision.routeGroupId b.routeGroups).get? g = some group :=
    (Dict.get?_indexOn_eq_some_iff hb.groups_nodup).mpr ⟨hgroup, hid⟩
  simp only [effectiveGroup, item, hfound, ok_bind, mapM_eq_ok_iff.mpr hout]
  exact ⟨_, rfl⟩

/-- Every key of an accepted bundle has a projection, which starts with the key itself. -/
theorem effectiveKeyProjection_ok (hb : b.Consistent) {k : ClientKeyRecord} (hk : k ∈ b.keys) :
    ∃ rest, effectiveKeyProjection b k.keyId =
      .ok (some (.obj (("key", Codec.clientKeyRecord.enc k) :: rest))) := by
  obtain ⟨policy, hpolicy, hid⟩ := List.mem_map.mp (hb.keyPolicies k hk)
  obtain ⟨groups, hgroups⟩ := PolicyBundleV1.exists_forall₂ fun g hg => effectiveGroup_ok hb hpolicy hg
  have hkey : (Dict.indexOn ClientKeyRecord.keyId b.keys).get? k.keyId = some k :=
    (Dict.get?_indexOn_eq_some_iff hb.keys_nodup).mpr ⟨hk, rfl⟩
  have hfound : (Dict.indexOn KeyPolicyRevision.policyId b.policies).get? k.policyId = some policy :=
    (Dict.get?_indexOn_eq_some_iff hb.policies_nodup).mpr ⟨hpolicy, hid⟩
  simp only [effectiveKeyProjection, hkey, item, hfound, ok_bind, mapM_eq_ok_iff.mpr hgroups]
  exact ⟨_, rfl⟩

/-! ## Keys of a compiled bundle -/

namespace Authoring

variable {config : AuthoringConfigV1} {labels : Dict AccountId (Dict String String)}
  {base target : PolicyBundleV1} {acc : Additions} {k : ClientKeyRecord}

/-- The keys whose policy the configuration rebinds. -/
def reboundKeys (config : AuthoringConfigV1) (base : PolicyBundleV1) : List ClientKeyRecord :=
  base.keys.filter fun key => config.policies.any fun spec => spec.rebinds key.policyId

theorem Compiled.mem_reboundKeys (h : Compiled config labels base target acc) (hk : k ∈ base.keys) :
    k ∈ reboundKeys config base ↔ ∃ new, acc.rebinds.get? k.policyId = some new := by
  unfold reboundKeys
  simp only [List.mem_filter, List.any_eq_true, hk, true_and]
  constructor
  · intro hany
    obtain ⟨spec, hspec, hrebinds⟩ := hany
    exact ⟨spec.policyId, (h.collected.rebinds _ _).mpr ⟨spec, hspec, hrebinds, rfl⟩⟩
  · intro hsome
    obtain ⟨new, hget⟩ := hsome
    obtain ⟨spec, hspec, hrebinds, -⟩ := (h.collected.rebinds _ _).mp hget
    exact ⟨spec, hspec, hrebinds⟩

theorem Compiled.consistent (h : Compiled config labels base target acc) : target.Consistent := by
  obtain ⟨-, -, -, -, -, hmember⟩ := PolicyBundleV1.validate_eq_ok_self_iff.mp h.valid
  exact hmember

/-- The record of a key in the compiled bundle. -/
theorem Compiled.mem_keys (h : Compiled config labels base target acc) (hk : k ∈ base.keys) :
    rebound acc.rebinds k ∈ target.keys := by
  rw [h.assembled]
  exact (SortOn.mem_iff _).mpr (List.mem_map.mpr ⟨k, hk, rfl⟩)

/-- **A key whose policy is not rebound keeps its projection.** -/
theorem Compiled.projection_kept (h : Compiled config labels base target acc) (hb : base.Consistent)
    (hk : k ∈ base.keys) (hkept : acc.rebinds.get? k.policyId = none) :
    effectiveKeyProjection target k.keyId = effectiveKeyProjection base k.keyId := by
  have ht := h.consistent
  have hsame : rebound acc.rebinds k = k := by
    rw [rebound, hkept]
    rfl
  obtain ⟨policy, hpolicy, hid⟩ := List.mem_map.mp (hb.keyPolicies k hk)
  have hkey : (Dict.indexOn ClientKeyRecord.keyId base.keys).get? k.keyId = some k :=
    (Dict.get?_indexOn_eq_some_iff hb.keys_nodup).mpr ⟨hk, rfl⟩
  have hkey' : (Dict.indexOn ClientKeyRecord.keyId target.keys).get? k.keyId = some k :=
    (Dict.get?_indexOn_eq_some_iff ht.keys_nodup).mpr ⟨hsame ▸ h.mem_keys hk, rfl⟩
  have hfound : (Dict.indexOn KeyPolicyRevision.policyId base.policies).get? k.policyId =
      some policy := (Dict.get?_indexOn_eq_some_iff hb.policies_nodup).mpr ⟨hpolicy, hid⟩
  have hfound' : (Dict.indexOn KeyPolicyRevision.policyId target.policies).get? k.policyId =
      some policy := by
    refine (Dict.get?_indexOn_eq_some_iff ht.policies_nodup).mpr ⟨?_, hid⟩
    rw [h.assembled]
    exact (SortOn.mem_iff _).mpr (List.mem_append_left _ hpolicy)
  have hgroups : ∀ g, (Dict.indexOn RouteGroupRevision.routeGroupId target.routeGroups).get? g =
      (Dict.indexOn RouteGroupRevision.routeGroupId base.routeGroups).get? g := fun g => by
    refine Dict.get?_indexOn_of_perm ?_ ht.groups_nodup g
    rw [h.assembled]
    exact SortOn.perm _ _
  have haccounts : ∀ a, (Dict.indexOn ProviderAccount.accountId target.accounts).get? a =
      (Dict.indexOn ProviderAccount.accountId base.accounts).get? a := fun a => by
    refine Dict.get?_indexOn_of_perm ?_ ht.accounts_nodup a
    rw [h.assembled]
    exact SortOn.perm _ _
  simp only [effectiveKeyProjection, hkey, hkey', PlanError.item, hfound, hfound', ok_bind,
    effectiveGroup_congr hgroups haccounts]

/-- **A key whose policy is rebound has another projection.** -/
theorem Compiled.projection_rebound (h : Compiled config labels base target acc) (hb : base.Consistent)
    (hk : k ∈ base.keys) {new : PolicyRevisionId} (hnew : acc.rebinds.get? k.policyId = some new) :
    ∃ before after, effectiveKeyProjection base k.keyId = .ok before ∧
      effectiveKeyProjection target k.keyId = .ok after ∧ before ≠ after := by
  obtain ⟨rest, hbefore⟩ := effectiveKeyProjection_ok hb hk
  obtain ⟨rest', hafter⟩ := effectiveKeyProjection_ok h.consistent (h.mem_keys hk)
  refine ⟨_, _, hbefore, hafter, fun heq => ?_⟩
  obtain ⟨spec, hspec, -, rfl⟩ := (h.collected.rebinds _ _).mp hnew
  have hrecord : k = rebound acc.rebinds k := by
    refine Codec.clientKeyRecord.enc_inj ?_
    injection heq with heq
    injection heq with heq
    injection heq with heq
    exact congrArg Prod.snd heq
  have hpolicy : k.policyId = spec.policyId := by
    have hid := congrArg ClientKeyRecord.policyId hrecord
    rwa [rebound, hnew] at hid
  exact h.fresh spec hspec (hpolicy ▸ hb.keyPolicies k hk)

/-- Whether a key is affected. -/
theorem Compiled.affectedKey_eq (h : Compiled config labels base target acc) (hb : base.Consistent)
    (hk : k ∈ base.keys) :
    affectedKey base target k.keyId =
      .ok (if k ∈ reboundKeys config base then some k.keyId else none) := by
  unfold affectedKey
  cases hget : acc.rebinds.get? k.policyId with
  | none =>
    have hnot : k ∉ reboundKeys config base := by
      rw [h.mem_reboundKeys hk, hget]
      simp
    obtain ⟨rest, hbefore⟩ := effectiveKeyProjection_ok hb hk
    rw [h.projection_kept hb hk hget, hbefore, if_neg hnot]
    simp
  | some new =>
    have hin : k ∈ reboundKeys config base := (h.mem_reboundKeys hk).mpr ⟨new, hget⟩
    obtain ⟨before, after, hbefore, hafter, hne⟩ := h.projection_rebound hb hk hget
    rw [hbefore, hafter, if_pos hin]
    simp [hne]

/-- Nothing but keys and policies changes. -/
theorem Compiled.same_floor (h : Compiled config labels base target acc) :
    ((semanticDiff base target).backendManifestChanged ||
      (semanticDiff base target).minReaderChanged ||
      (semanticDiff base target).requiredFeaturesChanged) = false := by
  obtain rfl := h.assembled
  simp [semanticDiff, assemble]

/-- **The affected keys of a compiled bundle are the rebound ones.** -/
theorem Compiled.affectedKeys_eq (h : Compiled config labels base target acc) (hb : base.Consistent) :
    affectedKeys base target (semanticDiff base target) =
      .ok (sortOn id ((reboundKeys config base).map ClientKeyRecord.keyId)) := by
  have hids : (target.keys.map ClientKeyRecord.keyId).Perm (base.keys.map ClientKeyRecord.keyId) := by
    rw [h.assembled]
    exact map_keyId_assemble
  have hdedup : (((base.keys ++ target.keys).map ClientKeyRecord.keyId).dedup).Perm
      (base.keys.map ClientKeyRecord.keyId) := by
    rw [List.perm_ext_iff_of_nodup (List.nodup_dedup _) hb.keys_nodup]
    intro keyId
    rw [List.mem_dedup, List.map_append, List.mem_append, hids.mem_iff, or_self]
  have hbase : (base.keys.map ClientKeyRecord.keyId).mapM (affectedKey base target) =
      .ok (base.keys.map fun k => if k ∈ reboundKeys config base then some k.keyId else none) := by
    rw [mapM_eq_ok_iff, List.forall₂_map_left_iff, List.forall₂_map_right_iff, List.forall₂_same]
    exact fun k hk => h.affectedKey_eq hb hk
  obtain ⟨out, hout, hperm⟩ := exists_mapM_of_perm hbase hdedup
  have hrebound : (base.keys.map fun k =>
      if k ∈ reboundKeys config base then some k.keyId else none).filterMap id =
        (reboundKeys config base).map ClientKeyRecord.keyId := by
    rw [List.filterMap_map, ← List.filterMap_eq_map, reboundKeys, List.filterMap_filter]
    refine List.filterMap_congr fun k hk => ?_
    simp [List.mem_filter, hk]
  unfold affectedKeys
  simp only [h.same_floor, hout, ok_bind, pure_eq_ok, Except.ok.injEq, Bool.false_eq_true, if_false]
  refine SortOn.eq_of_perm id ?_ fun _ _ _ _ heq => heq
  rw [← hrebound]
  exact hperm.filterMap _

/-- **The impact plan of a compiled bundle lists exactly the keys whose policy was rebound**, whatever
else the configuration adds; every other key keeps its projection. -/
theorem compiled_impact {discovery : DiscoverySnapshot} {iterate : List AccountId → List AccountId}
    (hiter : ∀ l, (iterate l).Perm l) (base : ValidatedBundle) {target : PolicyBundleV1}
    (h : compileAuthoring iterate config discovery base.bundle = .ok target) :
    affectedKeys base.bundle target (semanticDiff base.bundle target) =
        .ok (sortOn id ((reboundKeys config base.bundle).map ClientKeyRecord.keyId)) ∧
      (∀ hashing source plan, planChange hashing base.bundle target source = .ok plan →
        plan.affectedKeyIds =
          sortOn id ((reboundKeys config base.bundle).map ClientKeyRecord.keyId)) ∧
      ∀ k ∈ base.bundle.keys, k ∉ reboundKeys config base.bundle →
        effectiveKeyProjection target k.keyId = effectiveKeyProjection base.bundle k.keyId := by
  obtain ⟨b, acc, hbase, hacc⟩ := compiled_of_ok hiter h
  obtain rfl : base.bundle = b := Except.ok.inj (base.valid.symm.trans hbase)
  obtain ⟨-, -, -, -, -, hb⟩ := PolicyBundleV1.validate_eq_ok_self_iff.mp base.valid
  have haffected := hacc.affectedKeys_eq hb
  refine ⟨haffected, fun hashing source plan hplan => ?_, fun k hk hnot => ?_⟩
  · obtain ⟨-, -, hlisted⟩ := planChange_eq_ok base.valid hacc.valid hplan
    exact Except.ok.inj (hlisted.symm.trans haffected)
  · refine hacc.projection_kept hb hk (Option.eq_none_iff_forall_ne_some.mpr fun new hnew => hnot ?_)
    exact (hacc.mem_reboundKeys hk).mpr ⟨new, hnew⟩

/-- The key of the sample is rebound, so the plan lists it. -/
theorem sample_impact : ∃ target,
    affectedKeys (rotatingBundle 1 1 2) target (semanticDiff (rotatingBundle 1 1 2) target) =
      .ok ["00000000000000000000000000000007"] := by
  obtain ⟨target, htarget⟩ := sample_compiles
  have hlisted := (compiled_impact (fun l => .refl l)
    ⟨rotatingBundle 1 1 2, rotatingBundle_valid le_rfl le_rfl (by decide)⟩ htarget).1
  have hrebound : (reboundKeys sampleConfig (rotatingBundle 1 1 2)).map ClientKeyRecord.keyId =
      ["00000000000000000000000000000007"] := by
    decide
  refine ⟨target, hlisted.trans ?_⟩
  show Except.ok (sortOn id ((reboundKeys sampleConfig (rotatingBundle 1 1 2)).map _)) = _
  rw [hrebound]
  rfl

end Authoring

end LlmMaxxing
