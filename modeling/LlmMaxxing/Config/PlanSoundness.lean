import LlmMaxxing.Config.Plan
import LlmMaxxing.Core.SampleBundle
import LlmMaxxing.Gateway.RouteEngine

/-!
# Impact plans are sound

The planner compares projections of a key; the router indexes whole bundles. A key whose projection
is the same in two bundles has the same authority over both engines: `SameReach` is what equal
projections say in the router's terms.
-/

namespace LlmMaxxing

open Check Json PlanError

/-! ## Dumps -/

section

variable {groups groups' : Dict RouteGroupId RouteGroupRevision}
  {accounts accounts' : Dict AccountId ProviderAccount}
  {authorized : Dict RouteLegId AuthorizedLeg}

/-- A granted leg of a projection, and its account. -/
theorem effectiveLeg_granted {leg : RouteLeg} {j : Json}
    (h : effectiveLeg accounts authorized leg = .ok (some j)) :
    ∃ granted account, authorized.get? leg.legId = some granted ∧
      accounts.get? granted.accountId = some account ∧
      j = .obj [("leg", projectedLeg leg granted), ("account", Codec.providerAccount.enc account)] := by
  unfold effectiveLeg at h
  cases hgranted : authorized.get? leg.legId with
  | none => simp only [hgranted] at h; cases h
  | some granted =>
    simp only [hgranted, bind_eq_ok_iff, item_eq_ok_iff, pure_eq_ok, Except.ok.injEq,
      Option.some.injEq] at h
    obtain ⟨account, haccount, rfl⟩ := h
    exact ⟨granted, account, rfl, haccount, rfl⟩

/-- **The granted legs of equal projections are the same**, with the same accounts behind them. -/
theorem effectiveLegs_sub {legs legs' : List RouteLeg} {out out' : List (Option Json)}
    (h : legs.mapM (effectiveLeg accounts authorized) = .ok out)
    (h' : legs'.mapM (effectiveLeg accounts' authorized) = .ok out')
    (heq : out.filterMap id = out'.filterMap id) {legId : RouteLegId} {granted : AuthorizedLeg}
    (hgranted : authorized.get? legId = some granted) (hmem : legId ∈ legs.map RouteLeg.legId) :
    legId ∈ legs'.map RouteLeg.legId ∧ ∃ account, accounts.get? granted.accountId = some account ∧
      accounts'.get? granted.accountId = some account := by
  obtain ⟨leg, hleg, rfl⟩ := List.mem_map.mp hmem
  obtain ⟨o, ho, hout⟩ := PolicyBundleV1.exists_right_of_mem (mapM_eq_ok_iff.mp h) hleg
  -- the leg is granted, so it stands in the projection
  obtain ⟨j, rfl⟩ : ∃ j, o = some j := by
    cases o with
    | some j => exact ⟨j, rfl⟩
    | none =>
      simp only [effectiveLeg, hgranted, bind_eq_ok_iff, pure_eq_ok, Except.ok.injEq,
        reduceCtorEq, and_false, exists_false] at hout
  have hj : j ∈ out'.filterMap id := heq ▸ List.mem_filterMap.mpr ⟨some j, ho, rfl⟩
  obtain ⟨o', ho', hsome⟩ := List.mem_filterMap.mp hj
  obtain ⟨leg', hleg', hout'⟩ := exists_of_mem_mapM h' ho'
  have hsome : o' = some j := hsome
  rw [hsome] at hout'
  obtain ⟨granted₁, account, hgranted₁, haccount, hj₁⟩ := effectiveLeg_granted hout
  obtain ⟨granted₂, account', hgranted₂, haccount', hj₂⟩ := effectiveLeg_granted hout'
  rw [hj₁] at hj₂
  simp only [Json.obj.injEq, List.cons.injEq, Prod.mk.injEq, true_and, and_true] at hj₂
  obtain rfl : account = account' := Codec.providerAccount.enc_inj hj₂.2
  have hprojected := Codec.routeLeg.enc_inj hj₂.1
  have hid : leg.legId = leg'.legId := (RouteLeg.mk.inj hprojected).1
  rw [hgranted] at hgranted₁
  cases hgranted₁
  rw [← hid, hgranted] at hgranted₂
  cases hgranted₂
  exact ⟨List.mem_map.mpr ⟨leg', hleg', hid.symm⟩, account, haccount, haccount'⟩

/-- A route group of a projection. -/
theorem effectiveGroup_eq_ok {groupId : RouteGroupId} {j : Json}
    (h : effectiveGroup groups accounts authorized groupId = .ok j) :
    ∃ group out, groups.get? groupId = some group ∧
      group.legs.mapM (effectiveLeg accounts authorized) = .ok out ∧
      j = .obj [("route_group_id", .str group.routeGroupId.text), ("name", .str group.name),
        ("strategy", .str (StrEnum.value group.strategy)), ("legs", .arr (out.filterMap id))] := by
  simp only [effectiveGroup, bind_eq_ok_iff, item_eq_ok_iff, pure_eq_ok, Except.ok.injEq] at h
  obtain ⟨group, hgroup, out, hout, rfl⟩ := h
  exact ⟨group, out, hgroup, hout, rfl⟩

end

/-! ## Reach -/

/-- What a policy reaches in one of its route groups is the same over two engines: the name of the
group, the granted legs in it, and the accounts behind these. -/
structure SameReach (e e' : RouteEngine) (policy : KeyPolicyRevision) (groupId : RouteGroupId)
    (group group' : RouteGroupRevision) : Prop where
  before : e.groups.get? groupId = some group
  after : e'.groups.get? groupId = some group'
  name : group.name = group'.name
  legs : ∀ grant ∈ policy.authorizedLegs,
    grant.legId ∈ group.legs.map RouteLeg.legId ↔ grant.legId ∈ group'.legs.map RouteLeg.legId
  accounts : ∀ grant ∈ policy.authorizedLegs, grant.legId ∈ group.legs.map RouteLeg.legId →
    ∃ account, e.accounts.get? grant.accountId = some account ∧
      e'.accounts.get? grant.accountId = some account

theorem SameReach.symm {e e' : RouteEngine} {policy : KeyPolicyRevision} {groupId : RouteGroupId}
    {group group' : RouteGroupRevision} (h : SameReach e e' policy groupId group group') :
    SameReach e' e policy groupId group' group where
  before := h.after
  after := h.before
  name := h.name.symm
  legs grant hgrant := (h.legs grant hgrant).symm
  accounts grant hgrant hmem := by
    obtain ⟨account, hbefore, hafter⟩ := h.accounts grant hgrant ((h.legs grant hgrant).mpr hmem)
    exact ⟨account, hafter, hbefore⟩

/-- A key that has the same authority over two engines, or is in neither. -/
inductive SameKey (e e' : RouteEngine) (keyId : String) : Prop
  | absent (h : e.keys.get? keyId = none) (h' : e'.keys.get? keyId = none)
  | present {key : ClientKeyRecord} {policy : KeyPolicyRevision}
      (hkey : e.keys.get? keyId = some key) (hkey' : e'.keys.get? keyId = some key)
      (hpolicy : e.policies.get? key.policyId = some policy)
      (hpolicy' : e'.policies.get? key.policyId = some policy)
      (hreach : ∀ groupId ∈ policy.routeGroupIds, ∃ group group',
        SameReach e e' policy groupId group group')

theorem SameKey.symm {e e' : RouteEngine} {keyId : String} (h : SameKey e e' keyId) :
    SameKey e' e keyId := by
  cases h with
  | absent h h' => exact .absent h' h
  | present hkey hkey' hpolicy hpolicy' hreach =>
    refine .present hkey' hkey hpolicy' hpolicy fun groupId hmem => ?_
    obtain ⟨group, group', hsame⟩ := hreach groupId hmem
    exact ⟨group', group, hsame.symm⟩

/-- The projection of a key that is in the bundle. -/
theorem effectiveKeyProjection_eq_some {b : PolicyBundleV1} {keyId : String} {j : Json}
    (h : effectiveKeyProjection b keyId = .ok (some j)) (hash : BundleHash) :
    ∃ key policy groups, (RouteEngine.index b hash).keys.get? keyId = some key ∧
      (RouteEngine.index b hash).policies.get? key.policyId = some policy ∧
      policy.routeGroupIds.mapM (effectiveGroup (RouteEngine.index b hash).groups
        (RouteEngine.index b hash).accounts (Dict.indexOn AuthorizedLeg.legId policy.authorizedLegs)) =
          .ok groups ∧
      j = .obj [("key", Codec.clientKeyRecord.enc key),
        ("policy", Codec.keyPolicyRevision.enc policy), ("route_groups", .arr groups)] := by
  unfold effectiveKeyProjection at h
  cases hkey : (Dict.indexOn ClientKeyRecord.keyId b.keys).get? keyId with
  | none => simp only [hkey] at h; cases h
  | some key =>
    simp only [hkey, bind_eq_ok_iff, item_eq_ok_iff, pure_eq_ok, Except.ok.injEq,
      Option.some.injEq] at h
    obtain ⟨policy, hpolicy, groups, hgroups, rfl⟩ := h
    exact ⟨key, policy, groups, hkey, hpolicy, hgroups, rfl⟩

theorem effectiveKeyProjection_eq_none {b : PolicyBundleV1} {keyId : String}
    (h : effectiveKeyProjection b keyId = .ok none) (hash : BundleHash) :
    (RouteEngine.index b hash).keys.get? keyId = none := by
  unfold effectiveKeyProjection at h
  cases hkey : (Dict.indexOn ClientKeyRecord.keyId b.keys).get? keyId with
  | none => exact hkey
  | some key =>
    simp only [hkey, bind_eq_ok_iff, pure_eq_ok, Except.ok.injEq, reduceCtorEq, and_false,
      exists_false] at h

/-- **Equal projections are equal authority.** The planner's own indexes are the router's. -/
theorem sameKey_of_projection {base target : PolicyBundleV1} {keyId : String} {p : Option Json}
    (h : effectiveKeyProjection base keyId = .ok p)
    (h' : effectiveKeyProjection target keyId = .ok p) (hash hash' : BundleHash)
    (hlegs : ∀ policy ∈ base.policies, (policy.authorizedLegs.map AuthorizedLeg.legId).Nodup)
    (hpolicies : (base.policies.map KeyPolicyRevision.policyId).Nodup) :
    SameKey (RouteEngine.index base hash) (RouteEngine.index target hash') keyId := by
  cases p with
  | none =>
    exact .absent (effectiveKeyProjection_eq_none h hash) (effectiveKeyProjection_eq_none h' hash')
  | some j =>
    obtain ⟨key, policy, groups, hkey, hpolicy, hgroups, rfl⟩ :=
      effectiveKeyProjection_eq_some h hash
    obtain ⟨key', policy', groups', hkey', hpolicy', hgroups', heq⟩ :=
      effectiveKeyProjection_eq_some h' hash'
    simp only [Json.obj.injEq, List.cons.injEq, Prod.mk.injEq, true_and, and_true,
      Json.arr.injEq] at heq
    obtain ⟨hkeys, hdumps, rfl⟩ := heq
    obtain rfl := Codec.clientKeyRecord.enc_inj hkeys
    obtain rfl := Codec.keyPolicyRevision.enc_inj hdumps
    have hmem : policy ∈ base.policies := ((Dict.get?_indexOn_eq_some_iff hpolicies).mp hpolicy).1
    have hgranted : ∀ grant ∈ policy.authorizedLegs,
        (Dict.indexOn AuthorizedLeg.legId policy.authorizedLegs).get? grant.legId = some grant :=
      fun grant hgrant => (Dict.get?_indexOn_eq_some_iff (hlegs policy hmem)).mpr ⟨hgrant, rfl⟩
    refine .present hkey hkey' hpolicy hpolicy' fun groupId hid => ?_
    obtain ⟨g, hg, hg'⟩ := exists_common_of_mapM hgroups hgroups' hid
    obtain ⟨group, out, hgroup, hout, hg₁⟩ := effectiveGroup_eq_ok hg
    obtain ⟨group', out', hgroup', hout', heq⟩ := effectiveGroup_eq_ok hg'
    rw [hg₁] at heq
    simp only [Json.obj.injEq, List.cons.injEq, Prod.mk.injEq, true_and, and_true, Json.arr.injEq,
      Json.str.injEq] at heq
    obtain ⟨-, hname, hlegs⟩ := heq
    refine ⟨group, group', hgroup, hgroup', hname, fun grant hgrant => ⟨fun hin => ?_, fun hin => ?_⟩,
      fun grant hgrant hin => ?_⟩
    · exact (effectiveLegs_sub hout hout' hlegs (hgranted grant hgrant) hin).1
    · exact (effectiveLegs_sub hout' hout hlegs.symm (hgranted grant hgrant) hin).1
    · exact (effectiveLegs_sub hout hout' hlegs (hgranted grant hgrant) hin).2

/-! ## Authority -/

/-- The same authorization but for the bundle it is from, or none in both. -/
def SameAuthorization : Validation RequestAuthorizationCeiling →
    Validation RequestAuthorizationCeiling → Prop
  | .ok c, .ok c' => c' =
      { c with bundleGeneration := c'.bundleGeneration, bundleHash := c'.bundleHash }
  | .error _, .error _ => True
  | _, _ => False

/-- What does not change for a key between two engines. -/
structure Unaffected (e e' : RouteEngine) (keyId : String) : Prop where
  authorization : ∀ client : AuthenticatedClient, client.keyId = keyId → ∀ profile,
    SameAuthorization (e.authorize client profile) (e'.authorize client profile)
  aliases : ∀ key policy, e.keys.get? keyId = some key →
    e.policies.get? key.policyId = some policy → ∀ groupId ∈ policy.routeGroupIds,
      ∃ group, e.groups.get? groupId = some group ∧
        e.resolveRouteGroupId group.name = .ok groupId ∧
        e'.resolveRouteGroupId group.name = .ok groupId
  accounts : ∀ key policy, e.keys.get? keyId = some key →
    e.policies.get? key.policyId = some policy → ∀ grant ∈ policy.authorizedLegs,
      ∃ account, e.accounts.get? grant.accountId = some account ∧
        e'.accounts.get? grant.accountId = some account

/-- The bundle a ceiling is from does not decide whether it is valid. -/
theorem sameAuthorization_validate {c : RequestAuthorizationCeiling} {generation : Nat}
    {hash : BundleHash} (hc : 1 ≤ c.bundleGeneration) (hgeneration : 1 ≤ generation) :
    SameAuthorization c.validate
      (RequestAuthorizationCeiling.validate
        { c with bundleGeneration := generation, bundleHash := hash }) := by
  set c₂ := { c with bundleGeneration := generation, bundleHash := hash } with hc₂
  have hiff : (∃ d, c.validate = .ok d) ↔ ∃ d, c₂.validate = .ok d := by
    simp only [RequestAuthorizationCeiling.validate_eq_ok_iff, hc₂, hc, hgeneration, true_and]
    simp only [exists_and_left, exists_eq', and_true]
  cases hok : c.validate with
  | ok d =>
    obtain ⟨d₂, hd₂⟩ := hiff.mp ⟨d, hok⟩
    rw [hd₂]
    obtain ⟨-, -, -, -, -, -, -, -, rfl⟩ := RequestAuthorizationCeiling.validate_eq_ok_iff.mp hok
    obtain ⟨-, -, -, -, -, -, -, -, rfl⟩ := RequestAuthorizationCeiling.validate_eq_ok_iff.mp hd₂
    rfl
  | error x =>
    cases hok₂ : c₂.validate with
    | ok d₂ =>
      obtain ⟨d, hd⟩ := hiff.mpr ⟨d₂, hok₂⟩
      rw [hd] at hok
      cases hok
    | error => trivial

section

variable {base target : PolicyBundleV1} {hash hash' : BundleHash} {keyId : String}

/-- The grants of a policy on a route group are the same over both engines. -/
theorem authorizedLegs_eq {e e' : RouteEngine} {policy : KeyPolicyRevision}
    (hreach : ∀ groupId ∈ policy.routeGroupIds, ∃ group group',
      SameReach e e' policy groupId group group') (groupId : RouteGroupId) :
    e.authorizedLegs policy groupId = e'.authorizedLegs policy groupId := by
  by_cases hmem : groupId ∈ policy.routeGroupIds
  · obtain ⟨group, group', h⟩ := hreach groupId hmem
    simp only [RouteEngine.authorizedLegs, h.before, h.after, if_pos hmem]
    refine List.filter_congr fun grant hgrant => ?_
    exact decide_eq_decide.mpr (h.legs grant hgrant)
  · have hnone : ∀ e : RouteEngine, e.authorizedLegs policy groupId = [] := by
      intro e
      unfold RouteEngine.authorizedLegs
      split
      · rfl
      · exact if_neg hmem
    rw [hnone, hnone]

/-- **A key with the same authority is unaffected.** -/
theorem SameKey.unaffected (h : SameKey (RouteEngine.index base hash)
    (RouteEngine.index target hash') keyId) (hbase : base.validate = .ok base)
    (htarget : target.validate = .ok target) :
    Unaffected (RouteEngine.index base hash) (RouteEngine.index target hash') keyId := by
  obtain ⟨hfields, -, -, -, -, hconsistent⟩ := PolicyBundleV1.validate_eq_ok_self_iff.mp hbase
  obtain ⟨hfields', -, -, -, -, hconsistent'⟩ := PolicyBundleV1.validate_eq_ok_self_iff.mp htarget
  -- a group that is found by its id is found by its name
  have hresolve : ∀ (b : PolicyBundleV1) (x : BundleHash), b.Consistent → ∀ groupId group,
      (RouteEngine.index b x).groups.get? groupId = some group →
      (RouteEngine.index b x).resolveRouteGroupId group.name = .ok groupId := by
    intro b x hb groupId group hgroup
    obtain ⟨hmem, rfl⟩ := (Dict.get?_indexOn_eq_some_iff hb.groups_nodup).mp hgroup
    have hname : (RouteEngine.index b x).groupsByName.get? group.name = some group :=
      (Dict.get?_indexOn_eq_some_iff hb.names_nodup).mpr ⟨hmem, rfl⟩
    simp only [RouteEngine.resolveRouteGroupId, hname]
  cases h with
  | absent hnone hnone' =>
    refine ⟨fun client hclient profile => ?_, fun key policy hkey => ?_, fun key policy hkey => ?_⟩
    · subst hclient
      simp only [RouteEngine.authorize, hnone, hnone']
      trivial
    · rw [hnone] at hkey
      cases hkey
    · rw [hnone] at hkey
      cases hkey
  | @present key policy hkey hkey' hpolicy hpolicy' hreach =>
    refine ⟨fun client hclient profile => ?_, fun key₁ policy₁ hkey₁ hpolicy₁ groupId hid => ?_,
      fun key₁ policy₁ hkey₁ hpolicy₁ grant hgrant => ?_⟩
    · subst hclient
      simp only [RouteEngine.authorize, hkey, hkey']
      split
      · trivial
      · next hguard =>
        rw [not_or, not_not, not_not] at hguard
        rw [← hguard.2, hpolicy, hpolicy']
        simp only [← authorizedLegs_eq hreach profile.routeGroupId]
        exact sameAuthorization_validate hfields.generation hfields'.generation
    · rw [hkey] at hkey₁
      cases hkey₁
      rw [hpolicy] at hpolicy₁
      cases hpolicy₁
      obtain ⟨group, group', hsame⟩ := hreach groupId hid
      refine ⟨group, hsame.before, hresolve base hash hconsistent groupId group hsame.before, ?_⟩
      rw [hsame.name]
      exact hresolve target hash' hconsistent' groupId group' hsame.after
    · rw [hkey] at hkey₁
      cases hkey₁
      rw [hpolicy] at hpolicy₁
      cases hpolicy₁
      -- every grant is on a leg of one of the policy's groups
      have hmem : policy ∈ base.policies :=
        ((Dict.get?_indexOn_eq_some_iff hconsistent.policies_nodup).mp hpolicy).1
      obtain ⟨actual, groupId, hmatches⟩ := hconsistent.grants policy hmem grant hgrant
      obtain ⟨group, group', hsame⟩ := hreach groupId hmatches.inPolicy
      refine hsame.accounts grant hgrant ?_
      obtain ⟨g, hg, hleg⟩ := List.mem_flatMap.mp hmatches.leg
      obtain ⟨leg, hin, heq⟩ := List.mem_map.mp hleg
      cases heq
      have hfound : (RouteEngine.index base hash).groups.get? g.routeGroupId = some g :=
        (Dict.get?_indexOn_eq_some_iff hconsistent.groups_nodup).mpr ⟨hg, rfl⟩
      rw [hsame.before] at hfound
      cases hfound
      rw [show grant.legId = actual.legId from congrArg LegIdentity.legId hmatches.identity]
      exact List.mem_map.mpr ⟨actual, hin, rfl⟩

end

/-! ## Plans -/

theorem projection_eq_none_of_notMem {b : PolicyBundleV1} {keyId : String}
    (h : keyId ∉ b.keys.map ClientKeyRecord.keyId) :
    effectiveKeyProjection b keyId = .ok none := by
  have hnone : (Dict.indexOn ClientKeyRecord.keyId b.keys).get? keyId = none := by
    refine Option.eq_none_iff_forall_ne_some.mpr fun key hkey => h ?_
    obtain ⟨key', hmem, heq⟩ := List.mem_map.mp (Dict.mem_of_get?_ofList hkey)
    cases heq
    exact List.mem_map.mpr ⟨key, hmem, rfl⟩
  simp only [effectiveKeyProjection, hnone]

/-- **A key that is not listed has the same projection in both bundles.** -/
theorem projection_of_not_affected {base target : PolicyBundleV1} {diff : SemanticDiff}
    {affected : List String} (h : affectedKeys base target diff = .ok affected) {keyId : String}
    (hkey : keyId ∉ affected) :
    ∃ p, effectiveKeyProjection base keyId = .ok p ∧ effectiveKeyProjection target keyId = .ok p := by
  by_cases hmem : keyId ∈ (base.keys ++ target.keys).map ClientKeyRecord.keyId
  · unfold affectedKeys at h
    simp only at h
    split at h
    · cases h
      exact absurd ((SortOn.perm _ _).mem_iff.mpr (List.mem_dedup.mpr hmem)) hkey
    · simp only [bind_eq_ok_iff, pure_eq_ok, Except.ok.injEq] at h
      obtain ⟨out, hout, rfl⟩ := h
      obtain ⟨o, ho, hprojections⟩ :=
        PolicyBundleV1.exists_right_of_mem (mapM_eq_ok_iff.mp hout) (List.mem_dedup.mpr hmem)
      simp only [affectedKey, bind_eq_ok_iff, pure_eq_ok, Except.ok.injEq] at hprojections
      obtain ⟨before, hbefore, after, hafter, heq⟩ := hprojections
      by_cases hsame : before = after
      · exact ⟨before, hbefore, hsame ▸ hafter⟩
      · rw [if_pos hsame] at heq
        refine absurd ((SortOn.perm _ _).mem_iff.mpr (List.mem_filterMap.mpr ⟨o, ho, ?_⟩)) hkey
        rw [← heq]
        rfl
  · rw [List.map_append, List.mem_append, not_or] at hmem
    exact ⟨none, projection_eq_none_of_notMem hmem.1, projection_eq_none_of_notMem hmem.2⟩

theorem ImpactPlan.eq_of_validate {p p' : ImpactPlan} (h : p.validate = .ok p') : p' = p := by
  simp only [ImpactPlan.validate, bind_eq_ok_iff, requireField_eq_ok_iff, requireValue_eq_ok_iff,
    exists_const, pure_eq_ok, Except.ok.injEq] at h
  obtain ⟨-, -, -, -, -, -, -, -, -, -, -, -, -, -, -, rfl⟩ := h
  rfl

/-- What an accepted plan has computed. -/
theorem planChange_eq_ok {h : Hashing} {base target : PolicyBundleV1} {source : Option String}
    {plan : ImpactPlan} (hbase : base.validate = .ok base) (htarget : target.validate = .ok target)
    (hplan : planChange h base target source = .ok plan) :
    (∃ bytes, canonicalBundleBytes base = .ok bytes) ∧
      (∃ bytes, canonicalBundleBytes target = .ok bytes) ∧
      affectedKeys base target (semanticDiff base target) = .ok plan.affectedKeyIds := by
  simp only [planChange, hbase, htarget, bind_eq_ok_iff, ofValidation_eq_ok_iff, require_eq_ok_iff,
    exists_unit_and_iff, Except.ok.injEq] at hplan
  obtain ⟨_, rfl, _, rfl, -, -, fields, hfields, impactHash, -, hvalid⟩ := hplan
  simp only [impactFields, bind_eq_ok_iff, bundleContentHash, ofCanonical_eq_ok_iff, pure_eq_ok,
    Except.ok.injEq] at hfields
  obtain ⟨_, -, _, ⟨bytes, hbytes, -⟩, _, -, _, -, _, -, _, ⟨bytes', hbytes', -⟩, affected, haffected,
    rfl⟩ := hfields
  refine ⟨⟨bytes, hbytes⟩, ⟨bytes', hbytes'⟩, ?_⟩
  rw [haffected, ImpactPlan.eq_of_validate hvalid]

/-- **Impact plans are sound.** Over the engines of the base and of the target, a key that an
accepted plan does not list has the same authorization for every client identity and profile, its
route groups answer to the same names, and the accounts behind its legs are the same. -/
theorem plan_sound {h : Hashing} (base target : ValidatedBundle) {source : Option String}
    {plan : ImpactPlan} (hplan : planChange h base.bundle target.bundle source = .ok plan)
    {keyId : String} (hkey : keyId ∉ plan.affectedKeyIds) :
    ∃ e e', RouteEngine.activate h.bundle base.bundle = .ok e ∧
      RouteEngine.activate h.bundle target.bundle = .ok e' ∧ Unaffected e e' keyId ∧
      Unaffected e' e keyId := by
  obtain ⟨⟨bytes, hbytes⟩, ⟨bytes', hbytes'⟩, haffected⟩ :=
    planChange_eq_ok base.valid target.valid hplan
  obtain ⟨p, hp, hp'⟩ := projection_of_not_affected haffected hkey
  obtain ⟨-, -, hpolicies, -, -, hconsistent⟩ :=
    PolicyBundleV1.validate_eq_ok_self_iff.mp base.valid
  have hsame := sameKey_of_projection hp hp' (h.bundle bytes) (h.bundle bytes')
    (fun policy hmem => ((KeyPolicyRevision.validate_eq_ok_iff.mp (hpolicies policy hmem)).2.2.2.2.2.1))
    hconsistent.policies_nodup
  exact ⟨_, _, (RouteEngine.activate_eq_ok_iff base.valid).mpr ⟨bytes, hbytes, rfl⟩,
    (RouteEngine.activate_eq_ok_iff target.valid).mpr ⟨bytes', hbytes', rfl⟩,
    hsame.unaffected base.valid target.valid, hsame.symm.unaffected target.valid base.valid⟩

/-- Digests that do not depend on what is hashed. -/
def sampleHashing : Hashing where
  content _ _ := "0000000000000000000000000000000000000000000000000000000000000010"
  bundle _ := .numbered .bundleHash 1

/-- The sample bundle at a generation. -/
def sampleGeneration (generation : Nat) (h : 1 ≤ generation) : ValidatedBundle :=
  ⟨rotatingBundle generation 1 2, rotatingBundle_valid h (by decide) (by decide)⟩

/-- A new generation with the same records lists no key, and the key keeps its authority. -/
theorem republished_key_unaffected :
    ∃ plan, planChange sampleHashing (rotatingBundle 1 1 2) (rotatingBundle 2 1 2) none = .ok plan ∧
      plan.affectedKeyIds = [] ∧
      ∃ e e', RouteEngine.activate sampleHashing.bundle (rotatingBundle 1 1 2) = .ok e ∧
        RouteEngine.activate sampleHashing.bundle (rotatingBundle 2 1 2) = .ok e' ∧
        Unaffected e e' (rotatingKey 1 2).keyId ∧ Unaffected e' e (rotatingKey 1 2).keyId := by
  have hplan : (planChange sampleHashing (rotatingBundle 1 1 2) (rotatingBundle 2 1 2)
      none).toOption.map (fun plan => plan.affectedKeyIds) = some [] := by
    decide +kernel
  cases hok : planChange sampleHashing (rotatingBundle 1 1 2) (rotatingBundle 2 1 2) none with
  | error e => rw [hok] at hplan; cases hplan
  | ok plan =>
    rw [hok] at hplan
    have hnone : plan.affectedKeyIds = [] := Option.some.inj hplan
    refine ⟨plan, rfl, hnone, ?_⟩
    exact plan_sound (sampleGeneration 1 (by decide)) (sampleGeneration 2 (by decide)) hok
      (by rw [hnone]; exact List.not_mem_nil)

end LlmMaxxing
