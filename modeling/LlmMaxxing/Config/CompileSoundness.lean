import LlmMaxxing.Config.CompileLaws
import LlmMaxxing.Core.SampleBundle

/-!
# Compiling is sound

The compiled bundle holds the base bundle's policies as they were and, for every authoring policy,
what it stands for, and compiling fails only with a message of its own.
-/

namespace LlmMaxxing

open Check

/-- Whether the policy takes the keys of `old` over. -/
def AuthoringPolicy.rebinds (spec : AuthoringPolicy) (old : PolicyRevisionId) : Bool :=
  spec.rebindShared && decide (spec.cloneFromPolicyId = some old)

namespace Authoring

variable {config : AuthoringConfigV1} {labels : Dict AccountId (Dict String String)}
  {base : PolicyBundleV1} {spec : AuthoringPolicy} {p : KeyPolicyRevision}
  {iterate : List AccountId → List AccountId}

/-- The policy `p` is what `spec` stands for over the base bundle. -/
structure Means (config : AuthoringConfigV1) (labels : Dict AccountId (Dict String String))
    (base : PolicyBundleV1) (spec : AuthoringPolicy) (p : KeyPolicyRevision) : Prop where
  known : spec.cloneFromPolicyId.isSome = true → (spec.source base).isSome = true
  built : Materialized base spec (spec.source base) (spec.macroName.bind config.macros.get?) labels p
  active : ∀ grant ∈ p.authorizedLegs, base.Active grant.accountId
  knownGroups : ∀ g ∈ p.routeGroupIds, g ∈ base.routeGroups.map RouteGroupRevision.routeGroupId
  covered : ∀ g ∈ p.routeGroupIds, ∃ grant ∈ p.authorizedLegs, ∃ actual,
    base.GrantMatches p grant actual g

/-! ## One policy -/

theorem item_ensures (hb : base.Consistent) {grant : AuthorizedLeg}
    (hmatched : ∃ actual g, base.GrantMatches p grant actual g) :
    Ensures Plain (item (Dict.ofList (base.legGroups.map fun q => (q.1.legId, q.2))) grant.legId)
      fun g => ∃ actual, base.GrantMatches p grant actual g := by
  obtain ⟨actual, g, hmatch⟩ := hmatched
  have hnd : ((base.legGroups.map fun q => (q.1.legId, q.2)).map Prod.fst).Nodup := by
    have hall := hb.legs_nodup
    rw [← PolicyBundleV1.map_fst_legGroups, List.map_map] at hall
    rw [List.map_map]
    exact hall
  have hid : actual.legId = grant.legId := (congrArg LegIdentity.legId hmatch.identity).symm
  have hget : (Dict.ofList (base.legGroups.map fun q => (q.1.legId, q.2))).get? grant.legId = some g :=
    (Dict.get?_ofList_eq_some_iff hnd).mpr (List.mem_map.mpr ⟨(actual, g), hmatch.leg, by rw [hid]⟩)
  rw [item, hget]
  exact .ok ⟨actual, hmatch⟩

theorem checkCovered_ensures (policyId : PolicyRevisionId)
    (groups : Dict RouteGroupId RouteGroupRevision) (covered : List RouteGroupId) (g : RouteGroupId) :
    Ensures Plain (checkCovered policyId groups covered g) fun _ =>
      groups.contains g = true ∧ g ∈ covered := by
  refine (Ensures.require fun _ => plain_value _).bind fun _ hknown => ?_
  exact (Ensures.require fun _ => plain_value _).weaken fun _ hcovered => ⟨hknown, hcovered⟩

/-- A policy over legs of the bundle passes the runtime check or is refused with a message. -/
theorem validateRuntimeRoutes_ensures (hb : base.Consistent)
    (hmatched : ∀ grant ∈ p.authorizedLegs, ∃ actual g, base.GrantMatches p grant actual g) :
    Ensures Plain (validateRuntimeRoutes p base) fun _ =>
      (∀ grant ∈ p.authorizedLegs, base.Active grant.accountId) ∧
      ∀ g ∈ p.routeGroupIds, g ∈ base.routeGroups.map RouteGroupRevision.routeGroupId ∧
        ∃ grant ∈ p.authorizedLegs, ∃ actual, base.GrantMatches p grant actual g := by
  unfold validateRuntimeRoutes
  refine (Ensures.forEach fun grant _ => checkActive_ensures p.policyId grant.accountId
    ((Dict.indexOn ProviderAccount.accountId base.accounts).get? grant.accountId)).bind
      fun _ hactive => ?_
  refine (Ensures.mapM fun grant hgrant => item_ensures hb (hmatched grant hgrant)).bind
    fun covered hcovered => ?_
  refine (Ensures.forEach fun g _ => checkCovered_ensures p.policyId _ covered g).weaken
    fun _ hgroups => ⟨fun grant hgrant => ?_, fun g hg => ?_⟩
  · obtain ⟨account, hget, hstate⟩ := hactive grant hgrant
    exact PolicyBundleV1.active_of_index hb.accounts_nodup hget hstate
  · obtain ⟨hknown, hin⟩ := hgroups g hg
    obtain ⟨group, hget⟩ := Dict.contains_iff.mp hknown
    obtain ⟨hmem, hid⟩ := (Dict.get?_indexOn_eq_some_iff hb.groups_nodup).mp hget
    obtain ⟨grant, hgrant, hmatch⟩ := PolicyBundleV1.exists_left_of_mem hcovered hin
    exact ⟨List.mem_map.mpr ⟨group, hmem, hid⟩, grant, hgrant, hmatch⟩

theorem cloneSource_ensures (base : PolicyBundleV1) (spec : AuthoringPolicy) :
    Ensures Plain (cloneSource base spec.cloneFromPolicyId) fun source =>
      source = spec.source base ∧ (spec.cloneFromPolicyId.isSome = true → source.isSome = true) := by
  unfold AuthoringPolicy.source
  cases spec.cloneFromPolicyId with
  | none => exact .ok ⟨rfl, fun h => h⟩
  | some sourceId =>
    unfold cloneSource
    cases hget : (Dict.indexOn KeyPolicyRevision.policyId base.policies).get? sourceId with
    | none =>
      simp only [hget]
      exact .fail (plain_value _)
    | some source =>
      simp only [hget]
      exact .ok ⟨hget.symm, fun _ => rfl⟩

theorem source_mem (hb : base.Consistent) {source : KeyPolicyRevision}
    (h : spec.source base = some source) : source ∈ base.policies := by
  obtain ⟨sourceId, -, hget⟩ := Option.bind_eq_some_iff.mp h
  exact ((Dict.get?_indexOn_eq_some_iff hb.policies_nodup).mp hget).1

/-! ## The loop -/

/-- What the loop has collected for the policies that are done. -/
structure Collected (config : AuthoringConfigV1) (labels : Dict AccountId (Dict String String))
    (base : PolicyBundleV1) (done : List AuthoringPolicy) (acc : Additions) : Prop where
  policies : List.Forall₂ (Means config labels base) done acc.policies
  rebinds : ∀ old new, acc.rebinds.get? old = some new ↔
    ∃ spec ∈ done, spec.rebinds old = true ∧ spec.policyId = new

/-- A rebind is new, and takes over keys that exist. -/
theorem rebind_ensures {acc : Additions} (hspec : spec.validate = .ok ())
    (hrebind : spec.rebindShared = true) :
    Ensures Plain (rebind base spec acc) fun acc' => acc'.policies = acc.policies ∧
      ∃ old, spec.cloneFromPolicyId = some old ∧ acc.rebinds.get? old = none ∧
        acc'.rebinds = acc.rebinds.insert old spec.policyId := by
  unfold rebind
  cases hclone : spec.cloneFromPolicyId with
  | none =>
    -- such a policy is not accepted
    simp only [AuthoringPolicy.validate, AuthoringPolicy.validateMode, bind_eq_ok_iff,
      requireField_eq_ok_iff, requireValue_eq_ok_iff, exists_const] at hspec
    obtain ⟨-, -, _, -, _, -, _, -, _, -, -, -, -, -, -, hmode, -⟩ := hspec
    exact absurd ⟨hrebind, hclone⟩ hmode
  | some old =>
    refine (Ensures.require fun _ => plain_value _).bind fun _ hnew => ?_
    refine (Ensures.require fun _ => plain_value _).bind fun _ _ => ?_
    exact .ok ⟨rfl, old, rfl, Dict.contains_eq_false_iff.mp hnew, rfl⟩

theorem compilePolicy_ensures {done : List AuthoringPolicy} {acc : Additions}
    (hb : base.validate = .ok base) (hiter : ∀ l, (iterate l).Perm l) (hspec : spec.validate = .ok ())
    (hmacros : ∀ name m, config.macros.get? name = some m → m.validate = .ok ())
    (h : Collected config labels base done acc) :
    Ensures Plain (compilePolicy iterate config labels base acc spec)
      (Collected config labels base (done ++ [spec])) := by
  obtain ⟨-, -, -, -, -, hmember⟩ := PolicyBundleV1.validate_eq_ok_self_iff.mp hb
  unfold compilePolicy
  refine (cloneSource_ensures base spec).bind fun source hsource => ?_
  obtain ⟨rfl, hknown⟩ := hsource
  have hpreset : ∀ m ∈ spec.macroName.bind config.macros.get?, m.validate = .ok () := by
    intro m hm
    obtain ⟨name, -, hget⟩ := Option.bind_eq_some_iff.mp hm
    exact hmacros name m hget
  refine (materializePolicy_ensures hb hiter hspec hpreset fun s hs => source_mem hmember hs).bind
    fun p hp => ?_
  refine (validateRuntimeRoutes_ensures hmember fun grant hgrant =>
    hp.legs.matched grant hgrant p rfl).bind fun _ hroutes => ?_
  have hmeans : Means config labels base spec p :=
    ⟨hknown, hp, hroutes.1, fun g hg => (hroutes.2 g hg).1, fun g hg => (hroutes.2 g hg).2⟩
  have hpolicies : List.Forall₂ (Means config labels base) (done ++ [spec]) (acc.policies ++ [p]) :=
    List.rel_append h.policies (.cons hmeans .nil)
  have hsplit : ∀ old new, (∃ other ∈ done ++ [spec], other.rebinds old = true ∧ other.policyId = new) ↔
      acc.rebinds.get? old = some new ∨ (spec.rebinds old = true ∧ spec.policyId = new) := by
    intro old new
    rw [h.rebinds]
    simp [or_and_right, exists_or]
  split_ifs with hrebind
  · refine (rebind_ensures hspec hrebind).weaken fun acc' hacc => ?_
    obtain ⟨hsame, old, hclone, hnew, hinsert⟩ := hacc
    refine ⟨hsame ▸ hpolicies, fun id new => ?_⟩
    have hrebinds : spec.rebinds id = true ↔ id = old := by
      simp [AuthoringPolicy.rebinds, hrebind, hclone, eq_comm]
    rw [hinsert, Dict.get?_insert, hsplit, hrebinds]
    split_ifs with hid
    · subst hid
      show some spec.policyId = some new ↔ acc.rebinds.get? id = some new ∨ _
      rw [hnew]
      simp
    · show acc.rebinds.get? id = some new ↔ acc.rebinds.get? id = some new ∨ _
      simp [hid]
  · refine .ok ⟨hpolicies, fun id new => ?_⟩
    rw [hsplit]
    show acc.rebinds.get? id = some new ↔ acc.rebinds.get? id = some new ∨ _
    simp [AuthoringPolicy.rebinds, hrebind]

/-! ## The compiled bundle -/

/-- The keys are the base's, some under new policies. -/
theorem map_keyId_assemble {acc : Additions} :
    (((assemble base acc).keys).map ClientKeyRecord.keyId).Perm (base.keys.map ClientKeyRecord.keyId) := by
  have hperm := (SortOn.perm ClientKeyRecord.keyId (base.keys.map (rebound acc.rebinds))).map
    ClientKeyRecord.keyId
  rw [List.map_map] at hperm
  exact hperm

/-- A matching grant of the base matches in the compiled bundle. -/
theorem grantMatches_assemble {acc : Additions} {grant : AuthorizedLeg} {actual : RouteLeg}
    {g : RouteGroupId} (h : base.GrantMatches p grant actual g) :
    (assemble base acc).GrantMatches p grant actual g where
  account := ((SortOn.perm (fun a : ProviderAccount => a.accountId.text) base.accounts).map
    ProviderAccount.accountId).mem_iff.mpr h.account
  leg := ((SortOn.perm (fun g : RouteGroupRevision => g.routeGroupId.text) base.routeGroups).flatMap_right
    fun g => g.legs.map fun leg => (leg, g.routeGroupId)).mem_iff.mpr h.leg
  inPolicy := h.inPolicy
  identity := h.identity
  triggers := h.triggers
  capabilities := h.capabilities

/-- Each policy that was added has the id of its authoring policy. -/
theorem Collected.policyIds {acc : Additions}
    (h : Collected config labels base config.policies acc) :
    acc.policies.map KeyPolicyRevision.policyId =
      config.policies.map AuthoringPolicy.policyId := by
  rw [← List.forall₂_eq_eq_eq, List.forall₂_map_left_iff, List.forall₂_map_right_iff]
  exact h.policies.flip.imp fun p spec hmeans => hmeans.built.policyId

/-- A policy of the compiled bundle is one of the base or stands for an authoring policy. -/
theorem Collected.old_or_new {acc : Additions}
    (h : Collected config labels base config.policies acc) (hp : p ∈ (assemble base acc).policies) :
    p ∈ base.policies ∨ ∃ spec ∈ config.policies, Means config labels base spec p := by
  have hsorted := SortOn.perm (fun p : KeyPolicyRevision => p.policyId.text)
    (base.policies ++ acc.policies)
  rcases List.mem_append.mp (hsorted.mem_iff.mp hp) with hold | hnew
  · exact .inl hold
  · exact .inr (PolicyBundleV1.exists_left_of_mem h.policies hnew)

/-- A key of the compiled bundle is a key of the base under its new policy. -/
theorem mem_keys_assemble {acc : Additions} {k : ClientKeyRecord}
    (hk : k ∈ (assemble base acc).keys) : ∃ k₀ ∈ base.keys, rebound acc.rebinds k₀ = k :=
  List.mem_map.mp ((SortOn.perm ClientKeyRecord.keyId
    (base.keys.map (rebound acc.rebinds))).mem_iff.mp hk)

/-- The compiled bundle is non-empty where the base is. -/
theorem assemble_fieldsSound {acc : Additions} (h : base.FieldsSound) :
    (assemble base acc).FieldsSound := by
  have hne : ∀ {α : Type} {l l' : List α}, l'.Perm l → l ≠ [] → l' ≠ [] := by
    rintro α l l' hperm hl rfl
    exact hl (List.nil_perm.mp hperm)
  refine ⟨h.schemaVersion, ?_, h.minReader, h.requiredFeatures, hne (SortOn.perm _ _) ?_,
    hne (SortOn.perm _ _) ?_, hne (SortOn.perm _ _) h.accounts, hne (SortOn.perm _ _) h.routeGroups,
    h.backendManifestHash⟩
  · show 1 ≤ base.generation + 1
    omega
  · simpa using h.keys
  · simp [h.policies]

/-- The ids, grants and references of the compiled bundle fit each other. -/
theorem assemble_consistent {acc : Additions} (hmember : base.Consistent)
    (hnodup : (config.policies.map AuthoringPolicy.policyId).Nodup)
    (hfresh : ∀ spec ∈ config.policies, spec.policyId ∉ base.policies.map KeyPolicyRevision.policyId)
    (h : Collected config labels base config.policies acc) : (assemble base acc).Consistent := by
  have hsortedKeys := SortOn.perm ClientKeyRecord.keyId (base.keys.map (rebound acc.rebinds))
  have hsortedPolicies := SortOn.perm (fun p : KeyPolicyRevision => p.policyId.text)
    (base.policies ++ acc.policies)
  have hsortedAccounts := SortOn.perm (fun a : ProviderAccount => a.accountId.text) base.accounts
  have hsortedGroups := SortOn.perm (fun g : RouteGroupRevision => g.routeGroupId.text)
    base.routeGroups
  exact {
    accounts_nodup := (hsortedAccounts.map _).nodup_iff.mpr hmember.accounts_nodup
    groups_nodup := (hsortedGroups.map _).nodup_iff.mpr hmember.groups_nodup
    policies_nodup := by
      -- the new ids are distinct, and none of them is an old one
      refine (hsortedPolicies.map _).nodup_iff.mpr ?_
      rw [List.map_append, List.nodup_append, h.policyIds]
      refine ⟨hmember.policies_nodup, hnodup, fun id hid id' hid' heq => ?_⟩
      obtain ⟨spec, hspec, rfl⟩ := List.mem_map.mp hid'
      exact hfresh spec hspec (heq ▸ hid)
    keys_nodup := map_keyId_assemble.nodup_iff.mpr hmember.keys_nodup
    legs_nodup := ((hsortedGroups.flatMap_right RouteGroupRevision.legs).map
      RouteLeg.legId).nodup_iff.mpr hmember.legs_nodup
    names_nodup := (hsortedGroups.map _).nodup_iff.mpr hmember.names_nodup
    fingerprints_nodup := by
      refine (hsortedKeys.flatMap_right _).nodup_iff.mpr ?_
      rw [List.flatMap_map]
      exact hmember.fingerprints_nodup
    bindings_nodup := ((hsortedAccounts.map ProviderAccount.binding).filter _).nodup_iff.mpr
      hmember.bindings_nodup
    legAccounts := fun g hg leg hleg => (hsortedAccounts.map _).mem_iff.mpr
      (hmember.legAccounts g (hsortedGroups.mem_iff.mp hg) leg hleg)
    onePrimary := fun g hg => hmember.onePrimary g (hsortedGroups.mem_iff.mp hg)
    policyGroups := by
      intro p hp g hg
      refine (hsortedGroups.map _).mem_iff.mpr ?_
      rcases h.old_or_new hp with hold | ⟨spec, -, hmeans⟩
      · exact hmember.policyGroups p hold g hg
      · exact hmeans.knownGroups g hg
    grants := by
      intro p hp grant hgrant
      rcases h.old_or_new hp with hold | ⟨spec, -, hmeans⟩
      · obtain ⟨actual, g, hmatch⟩ := hmember.grants p hold grant hgrant
        exact ⟨actual, g, grantMatches_assemble hmatch⟩
      · obtain ⟨actual, g, hmatch⟩ := hmeans.built.legs.matched grant hgrant p rfl
        exact ⟨actual, g, grantMatches_assemble hmatch⟩
    covered := by
      intro p hp g hg
      rcases h.old_or_new hp with hold | ⟨spec, -, hmeans⟩
      · obtain ⟨grant, hgrant, actual, hmatch⟩ := hmember.covered p hold g hg
        exact ⟨grant, hgrant, actual, grantMatches_assemble hmatch⟩
      · obtain ⟨grant, hgrant, actual, hmatch⟩ := hmeans.covered g hg
        exact ⟨grant, hgrant, actual, grantMatches_assemble hmatch⟩
    keyPolicies := by
      -- a key that is not rebound keeps a policy of the base, any other has a new one
      intro k hk
      obtain ⟨k₀, hk₀, rfl⟩ := mem_keys_assemble hk
      refine (hsortedPolicies.map _).mem_iff.mpr ?_
      rw [List.map_append, List.mem_append, h.policyIds]
      cases hget : acc.rebinds.get? k₀.policyId with
      | none =>
        left
        simpa [rebound, hget] using hmember.keyPolicies k₀ hk₀
      | some new =>
        obtain ⟨spec, hspec, -, rfl⟩ := (h.rebinds _ _).mp hget
        right
        simpa [rebound, hget] using ⟨spec, hspec, rfl⟩ }

/-- **The compiled bundle is accepted as it is.** -/
theorem assemble_valid {acc : Additions} (hb : base.validate = .ok base)
    (hnodup : (config.policies.map AuthoringPolicy.policyId).Nodup)
    (hfresh : ∀ spec ∈ config.policies, spec.policyId ∉ base.policies.map KeyPolicyRevision.policyId)
    (h : Collected config labels base config.policies acc) :
    (assemble base acc).validate = .ok (assemble base acc) := by
  obtain ⟨hfields, hkeys, hpolicies, haccounts, hgroups, hmember⟩ :=
    PolicyBundleV1.validate_eq_ok_self_iff.mp hb
  refine PolicyBundleV1.validate_eq_ok_self_iff.mpr ⟨assemble_fieldsSound hfields, ?_, ?_, ?_, ?_,
    assemble_consistent hmember hnodup hfresh h⟩
  · intro k hk
    obtain ⟨k₀, hk₀, rfl⟩ := mem_keys_assemble hk
    exact hkeys k₀ hk₀
  · intro p hp
    rcases h.old_or_new hp with hold | ⟨spec, -, hmeans⟩
    · exact hpolicies p hold
    · exact hmeans.built.valid
  · exact fun a ha => haccounts a ((SortOn.perm _ _).mem_iff.mp ha)
  · exact fun g hg => hgroups g ((SortOn.perm _ _).mem_iff.mp hg)

/-- What an accepted configuration guarantees. -/
theorem config_bounds (h : config.validate = .ok ()) :
    (∀ spec ∈ config.policies, spec.validate = .ok ()) ∧
      (∀ name m, config.macros.get? name = some m → m.validate = .ok ()) ∧
      (config.policies.map AuthoringPolicy.policyId).Nodup := by
  simp only [AuthoringConfigV1.validate, bind_eq_ok_iff, requireField_eq_ok_iff,
    requireValue_eq_ok_iff, exists_const] at h
  obtain ⟨-, _, hmacros, _, hpolicies, -, hnodup, -⟩ := h
  refine ⟨forEach_eq_ok_iff.mp hpolicies, fun name m hget => ?_, hnodup⟩
  have hentry := forEach_eq_ok_iff.mp hmacros (name, m) (Dict.mem_entries_iff.mpr hget)
  simp only [bind_eq_ok_iff, requireField_eq_ok_iff, exists_const] at hentry
  exact hentry.2

/-- The bundle a compilation ends with. -/
structure Compiled (config : AuthoringConfigV1) (labels : Dict AccountId (Dict String String))
    (base target : PolicyBundleV1) (acc : Additions) : Prop where
  collected : Collected config labels base config.policies acc
  fresh : ∀ spec ∈ config.policies, spec.policyId ∉ base.policies.map KeyPolicyRevision.policyId
  assembled : target = assemble base acc
  valid : target.validate = .ok target

/-- **What compiling does**: over an accepted configuration and bundle it fails only with a message
of its own. -/
theorem compileAuthoring_ensures {discovery : DiscoverySnapshot} {b : PolicyBundleV1}
    (hiter : ∀ l, (iterate l).Perm l) (hconfig : config.validate = .ok ())
    (hbase : base.validate = .ok b) :
    Ensures Plain (compileAuthoring iterate config discovery base) fun target =>
      ∃ acc, Compiled config discovery.labels b target acc := by
  obtain ⟨hspecs, hmacros, hnodup⟩ := config_bounds hconfig
  have hb := PolicyBundleV1.validate_idem hbase
  unfold compileAuthoring
  refine (Ensures.of_ok hconfig).bind fun _ _ => ?_
  refine (Ensures.of_ok hbase).bind fun b' hb' => ?_
  subst hb'
  refine (Ensures.require fun _ => plain_value _).bind fun _ _ => ?_
  refine (Ensures.require fun _ => plain_value _).bind fun _ hcollisions => ?_
  have hfresh : ∀ spec ∈ config.policies,
      spec.policyId ∉ b'.policies.map KeyPolicyRevision.policyId := by
    intro spec hspec hold
    have hin : spec.policyId ∈ ([] : List PolicyRevisionId) :=
      hcollisions ▸ (SortOn.mem_iff _).mpr (List.mem_filter.mpr
        ⟨List.mem_map.mpr ⟨spec, hspec, rfl⟩, decide_eq_true hold⟩)
    cases hin
  refine (Ensures.foldlM (I := fun done acc => Collected config discovery.labels b' done acc)
    (fun done spec rest hl acc hacc => compilePolicy_ensures hb hiter (hspecs spec (by simp [hl]))
      hmacros hacc) ⟨.nil, fun old new => by simp⟩).bind fun acc hacc => ?_
  have hvalid := assemble_valid hb hnodup hfresh hacc
  refine (Ensures.of_ok hvalid).weaken fun target htarget => ?_
  subst htarget
  exact ⟨acc, hacc, hfresh, rfl, hvalid⟩

/-- An accepted compilation had an accepted configuration and bundle. -/
theorem compiled_of_ok {discovery : DiscoverySnapshot} {target : PolicyBundleV1}
    (hiter : ∀ l, (iterate l).Perm l)
    (h : compileAuthoring iterate config discovery base = .ok target) :
    ∃ b acc, base.validate = .ok b ∧ Compiled config discovery.labels b target acc := by
  have hparts := h
  simp only [compileAuthoring, bind_eq_ok_iff, mapError_eq_ok_iff] at hparts
  obtain ⟨_, hconfig, b, hbase, -⟩ := hparts
  obtain ⟨acc, hacc⟩ := (compileAuthoring_ensures hiter hconfig hbase).result target h
  exact ⟨b, acc, hbase, hacc⟩

theorem clonedPolicyId_valid :
    IdKind.accepts .policyRevision "pol_00000000-0000-4000-8000-00000000000a" = true := by decide

/-- A clone of the sample policy for the accounts with a label, which takes its keys over. -/
def sampleClone : AuthoringPolicy where
  policyId := ⟨"pol_00000000-0000-4000-8000-00000000000a", clonedPolicyId_valid⟩
  cloneFromPolicyId := some samplePolicyId
  rebindShared := true
  macroName := some "wide"
  accountSelector := some (Dict.empty.insert "tier" "paid")

/-- One clone, and its macro. -/
def sampleConfig : AuthoringConfigV1 where
  macros := Dict.empty.insert "wide" ⟨3, 8, 4, 6, 90000⟩
  policies := [sampleClone]

/-- The labels of the sample account. -/
def sampleLabels : DiscoverySnapshot where
  labels := Dict.empty.insert sampleAccountId (Dict.empty.insert "tier" "paid")

theorem sampleConfig_valid : sampleConfig.validate = .ok () := by
  decide +kernel

/-- The additions of an accepted configuration are all a compilation waits for. -/
theorem compiles_of_gathered {discovery : DiscoverySnapshot} {b : PolicyBundleV1} {acc : Additions}
    (hiter : ∀ l, (iterate l).Perm l) (hconfig : config.validate = .ok ())
    (hbase : base.validate = .ok b)
    (hknown : ∀ a ∈ discovery.labels.keys, a ∈ b.accounts.map ProviderAccount.accountId)
    (hfresh : ∀ spec ∈ config.policies, spec.policyId ∉ b.policies.map KeyPolicyRevision.policyId)
    (hacc : config.policies.foldlM (compilePolicy iterate config discovery.labels b) {} = .ok acc) :
    compileAuthoring iterate config discovery base = .ok (assemble b acc) := by
  obtain ⟨hspecs, hmacros, hnodup⟩ := config_bounds hconfig
  have hb := PolicyBundleV1.validate_idem hbase
  have hunknown : sortOn TypedId.text (discovery.labels.keys.filter fun a =>
      a ∉ b.accounts.map ProviderAccount.accountId) = [] := by
    rw [List.filter_eq_nil_iff.mpr fun a ha => by simpa using hknown a ha]
    rfl
  have hcollisions : sortOn TypedId.text ((config.policies.map AuthoringPolicy.policyId).filter
      fun p => p ∈ b.policies.map KeyPolicyRevision.policyId) = [] := by
    have hnone : (config.policies.map AuthoringPolicy.policyId).filter
        (fun p => p ∈ b.policies.map KeyPolicyRevision.policyId) = [] := by
      refine List.filter_eq_nil_iff.mpr fun p hp => ?_
      obtain ⟨spec, hspec, rfl⟩ := List.mem_map.mp hp
      exact fun hold => hfresh spec hspec (of_decide_eq_true hold)
    rw [hnone]
    rfl
  have hcollected : Collected config discovery.labels b config.policies acc :=
    (Ensures.foldlM (I := fun done acc => Collected config discovery.labels b done acc)
      (fun done spec rest hl acc hacc => compilePolicy_ensures hb hiter (hspecs spec (by simp [hl]))
        hmacros hacc) ⟨.nil, fun old new => by simp⟩).result acc hacc
  -- The bundle the additions are assembled into is valid by construction.
  have hvalid := assemble_valid hb hnodup hfresh hcollected
  simp only [compileAuthoring, bind_eq_ok_iff, mapError_eq_ok_iff, require_eq_ok_iff,
    exists_unit_and_iff]
  exact ⟨hconfig, b, hbase, hunknown, hcollisions, acc, hacc, hvalid⟩

/-- What the sample adds to its base under these labels. -/
def sampleAdditions (labels : Dict AccountId (Dict String String)) : Except CompileError Additions :=
  sampleConfig.policies.foldlM (compilePolicy id sampleConfig labels (rotatingBundle 1 1 2)) {}

theorem sampleBase_valid : (rotatingBundle 1 1 2).validate = .ok (rotatingBundle 1 1 2) :=
  rotatingBundle_valid le_rfl le_rfl (by decide)

/-- The sample compiles, and its key is under the clone. -/
theorem sample_compiles : ∃ target,
    compileAuthoring id sampleConfig sampleLabels (rotatingBundle 1 1 2) = .ok target := by
  have hsome : (sampleAdditions sampleLabels.labels).toOption.isSome = true := by
    decide +kernel
  obtain ⟨acc, hacc⟩ := Option.isSome_iff_exists.mp hsome
  have hknown : ∀ a ∈ sampleLabels.labels.keys,
      a ∈ (rotatingBundle 1 1 2).accounts.map ProviderAccount.accountId := by decide
  have hfresh : ∀ spec ∈ sampleConfig.policies,
      spec.policyId ∉ (rotatingBundle 1 1 2).policies.map KeyPolicyRevision.policyId := by decide
  exact ⟨_, compiles_of_gathered (fun l => .refl l) sampleConfig_valid sampleBase_valid hknown hfresh
    (toOption_eq_some_iff.mp hacc)⟩

/-- **Compiling raises only messages of its own.** Once the configuration and the bundle are
accepted, no lookup fails, no assertion does, and none of the records it builds is refused. -/
theorem compile_raises {discovery : DiscoverySnapshot} {b : PolicyBundleV1} {e : CompileError}
    (hiter : ∀ l, (iterate l).Perm l) (hconfig : config.validate = .ok ())
    (hbase : base.validate = .ok b)
    (h : compileAuthoring iterate config discovery base = .error e) : ∃ message, e = .value message :=
  (compileAuthoring_ensures hiter hconfig hbase).error e h

/-- Without labels the selector of the sample matches nothing. -/
theorem sample_refused : ∃ e message,
    compileAuthoring id sampleConfig ⟨Dict.empty⟩ (rotatingBundle 1 1 2) = .error e ∧
      e = .value message := by
  have hnone : (sampleAdditions Dict.empty).toOption = none := by
    decide +kernel
  cases h : compileAuthoring id sampleConfig ⟨Dict.empty⟩ (rotatingBundle 1 1 2) with
  | ok target =>
    simp only [compileAuthoring, bind_eq_ok_iff, mapError_eq_ok_iff] at h
    obtain ⟨_, -, b, hbase, _, -, _, -, acc, hacc, -⟩ := h
    cases sampleBase_valid.symm.trans hbase
    rw [sampleAdditions, hacc] at hnone
    cases hnone
  | error e =>
    obtain ⟨message, rfl⟩ := compile_raises (fun l => .refl l) sampleConfig_valid sampleBase_valid h
    exact ⟨_, message, rfl, rfl⟩

/-- The target is the base with what the configuration stands for. -/
structure Extends (config : AuthoringConfigV1) (labels : Dict AccountId (Dict String String))
    (base target : PolicyBundleV1) : Prop where
  valid : target.validate = .ok target
  generation : target.generation = base.generation + 1
  rest : { target with
    generation := base.generation, keys := base.keys, policies := base.policies
    accounts := base.accounts, routeGroups := base.routeGroups } = base
  accounts : target.accounts.Perm base.accounts
  routeGroups : target.routeGroups.Perm base.routeGroups
  keys : target.keys.Perm (base.keys.map fun key => { key with
    policyId := ((config.policies.find? fun spec => spec.rebinds key.policyId).map
      AuthoringPolicy.policyId).getD key.policyId })
  kept : ∀ p ∈ base.policies, p ∈ target.policies
  added : ∀ spec ∈ config.policies, ∃ p ∈ target.policies, Means config labels base spec p
  only : ∀ p ∈ target.policies, p ∈ base.policies ∨
    ∃ spec ∈ config.policies, Means config labels base spec p

/-- The rebind of a policy is the one of the first policy that takes its keys. -/
theorem Collected.get?_rebinds {acc : Additions}
    (h : Collected config labels base config.policies acc) (old : PolicyRevisionId) :
    acc.rebinds.get? old =
      (config.policies.find? fun spec => spec.rebinds old).map AuthoringPolicy.policyId := by
  cases hfind : config.policies.find? fun spec => spec.rebinds old with
  | none =>
    cases hget : acc.rebinds.get? old with
    | none => rfl
    | some new =>
      obtain ⟨spec, hspec, hrebinds, -⟩ := (h.rebinds old new).mp hget
      exact absurd hrebinds (List.find?_eq_none.mp hfind spec hspec)
  | some spec =>
    exact (h.rebinds old spec.policyId).mpr
      ⟨spec, List.mem_of_find?_eq_some hfind,
        List.find?_some (p := fun spec : AuthoringPolicy => spec.rebinds old) hfind, rfl⟩

/-- **Compiling preserves meaning.** -/
theorem compile_extends {discovery : DiscoverySnapshot} {target : PolicyBundleV1}
    (hiter : ∀ l, (iterate l).Perm l)
    (h : compileAuthoring iterate config discovery base = .ok target) :
    ∃ b, base.validate = .ok b ∧ Extends config discovery.labels b target := by
  obtain ⟨b, acc, hbase, hacc⟩ := compiled_of_ok hiter h
  have hvalid := hacc.valid
  obtain rfl := hacc.assembled
  have hsorted := SortOn.perm (fun p : KeyPolicyRevision => p.policyId.text)
    (b.policies ++ acc.policies)
  refine ⟨b, hbase, hvalid, rfl, rfl, SortOn.perm _ _, SortOn.perm _ _, ?_, ?_, ?_, ?_⟩
  · have hkeys : ∀ key, rebound acc.rebinds key = { key with
        policyId := ((config.policies.find? fun spec => spec.rebinds key.policyId).map
          AuthoringPolicy.policyId).getD key.policyId } := by
      intro key
      rw [rebound, hacc.collected.get?_rebinds]
    rw [← List.map_congr_left fun key _ => hkeys key]
    exact SortOn.perm _ _
  · exact fun p hp => hsorted.mem_iff.mpr (List.mem_append_left _ hp)
  · intro spec hspec
    obtain ⟨p, hp, hmeans⟩ := PolicyBundleV1.exists_right_of_mem hacc.collected.policies hspec
    exact ⟨p, hsorted.mem_iff.mpr (List.mem_append_right _ hp), hmeans⟩
  · exact fun p hp => hacc.collected.old_or_new hp

/-- The sample over its labels. -/
theorem sample_extends : ∃ b target, (rotatingBundle 1 1 2).validate = .ok b ∧
    Extends sampleConfig sampleLabels.labels b target := by
  obtain ⟨target, htarget⟩ := sample_compiles
  obtain ⟨b, hb, hextends⟩ := compile_extends (fun l => .refl l) htarget
  exact ⟨b, target, hb, hextends⟩

end Authoring

end LlmMaxxing
