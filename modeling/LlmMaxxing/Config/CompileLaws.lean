import LlmMaxxing.Config.Compile
import LlmMaxxing.Core.Validated
import LlmMaxxing.Lib.Ensures

/-!
# What an authoring policy means

The meaning of an authoring policy is the set of legs of the base bundle it may use, each with the
triggers it may use them for. Every function of the compiler has one contract: which errors it can
raise, and what its result stands for.
-/

namespace LlmMaxxing

open Check

/-- Whether a policy lets its keys use a leg for a trigger. -/
def KeyPolicyRevision.Allows (p : KeyPolicyRevision) (legId : RouteLegId) (t : RouteTrigger) : Prop :=
  ∃ grant ∈ p.authorizedLegs, grant.legId = legId ∧ t ∈ grant.allowedTriggers

namespace AuthoringPolicy

/-- The policy a clone starts from. -/
def source (spec : AuthoringPolicy) (base : PolicyBundleV1) : Option KeyPolicyRevision :=
  spec.cloneFromPolicyId.bind (Dict.indexOn KeyPolicyRevision.policyId base.policies).get?

variable (spec : AuthoringPolicy) (source : Option KeyPolicyRevision)

/-- The route groups of the policy: its own, or those of its source. -/
def InGroups (g : RouteGroupId) : Prop :=
  match spec.routeGroupIds with
  | some ids => g ∈ ids
  | none => ∃ p ∈ source, g ∈ p.routeGroupIds

/-- The accounts of the policy: those it lists, those its selector matches, or those its source
reaches. -/
def Selects (labels : Dict AccountId (Dict String String)) (a : AccountId) : Prop :=
  match spec.accountIds, spec.accountSelector with
  | some ids, _ => a ∈ ids
  | none, some selector => ∃ found, labels.get? a = some found ∧
      ∀ name value, selector.get? name = some value → found.get? name = some value
  | none, none => ∃ p ∈ source, ∃ grant ∈ p.authorizedLegs, grant.accountId = a

/-- The triggers of the policy: its own, or any its source allows on some leg. -/
def Permits (t : RouteTrigger) : Prop :=
  match spec.allowedTriggers with
  | some ts => t ∈ ts
  | none => ∃ p ∈ source, ∃ grant ∈ p.authorizedLegs, t ∈ grant.allowedTriggers

/-- Whether the legs of the policy are its source's. -/
def KeepsLegs : Prop := source.isSome = true ∧ spec.authorizationChanged = false

/-- What the policy stands for: the leg of the group may be used for the trigger. -/
def Grants (labels : Dict AccountId (Dict String String)) (g : RouteGroupId) (leg : RouteLeg)
    (t : RouteTrigger) : Prop :=
  (spec.KeepsLegs source ∧ ∃ p ∈ source, p.Allows leg.legId t) ∨
    (¬ spec.KeepsLegs source ∧ spec.InGroups source g ∧ spec.Selects source labels leg.accountId ∧
      t ∈ leg.triggers ∧ spec.Permits source t)

end AuthoringPolicy

/-- The account is in the bundle, and active. -/
def PolicyBundleV1.Active (b : PolicyBundleV1) (a : AccountId) : Prop :=
  ∃ account ∈ b.accounts, account.accountId = a ∧ account.state = some .active

/-! ## Legs of a bundle -/

namespace PolicyBundleV1

variable {b : PolicyBundleV1}

/-- A leg id stands in one place. -/
theorem leg_unique (hnd : (b.legs.map RouteLeg.legId).Nodup) {leg leg' : RouteLeg}
    {g g' : RouteGroupId} (h : (leg, g) ∈ b.legGroups) (h' : (leg', g') ∈ b.legGroups)
    (hid : leg.legId = leg'.legId) : leg = leg' ∧ g = g' := by
  have hnd' : (b.legGroups.map fun q => q.1.legId).Nodup := by
    rw [← map_fst_legGroups, List.map_map] at hnd
    exact hnd
  have heq := List.inj_on_of_nodup_map hnd' h h' hid
  exact ⟨congrArg Prod.fst heq, congrArg Prod.snd heq⟩

theorem mem_legGroups {group : RouteGroupRevision} (hgroup : group ∈ b.routeGroups) {leg : RouteLeg}
    (hleg : leg ∈ group.legs) : (leg, group.routeGroupId) ∈ b.legGroups :=
  List.mem_flatMap.mpr ⟨group, hgroup, List.mem_map.mpr ⟨leg, hleg, rfl⟩⟩

theorem exists_group {leg : RouteLeg} {g : RouteGroupId} (h : (leg, g) ∈ b.legGroups) :
    ∃ group ∈ b.routeGroups, group.routeGroupId = g ∧ leg ∈ group.legs := by
  obtain ⟨group, hgroup, hmem⟩ := List.mem_flatMap.mp h
  obtain ⟨leg', hleg, heq⟩ := List.mem_map.mp hmem
  cases heq
  exact ⟨group, hgroup, rfl, hleg⟩

theorem active_of_find? {a : AccountId} {account : ProviderAccount}
    (hfind : (b.accounts.find? fun item => item.accountId = a) = some account)
    (hstate : account.state = some .active) : b.Active a :=
  ⟨account, List.mem_of_find?_eq_some hfind, by simpa using List.find?_some hfind, hstate⟩

theorem active_of_index (hnd : (b.accounts.map ProviderAccount.accountId).Nodup) {a : AccountId}
    {account : ProviderAccount}
    (hget : (Dict.indexOn ProviderAccount.accountId b.accounts).get? a = some account)
    (hstate : account.state = some .active) : b.Active a := by
  obtain ⟨hmem, hid⟩ := (Dict.get?_indexOn_eq_some_iff hnd).mp hget
  exact ⟨account, hmem, hid, hstate⟩

end PolicyBundleV1

namespace Authoring

/-- The errors of the compiler itself: a message, and no failure of its own records. -/
def Plain (e : CompileError) : Prop := ∃ message, e = .value message

theorem plain_value (message : String) : Plain (.value message) := ⟨message, rfl⟩

/-! ## The parts of a policy -/

theorem pick_ensures {α : Type} (explicit inherited : Option α) (field : String)
    (ofMacro : Option α) :
    Ensures Plain (pick explicit inherited field ofMacro) fun a =>
      (explicit <|> ofMacro <|> inherited) = some a := by
  unfold pick
  cases explicit with
  | some a => exact .ok rfl
  | none =>
    cases ofMacro with
    | some a => exact .ok rfl
    | none =>
      cases inherited with
      | some a => exact .ok rfl
      | none => exact .fail (plain_value _)

theorem mem_matchingAccounts {selector : Dict String String}
    {labels : Dict AccountId (Dict String String)} {a : AccountId} :
    a ∈ matchingAccounts selector labels ↔ ∃ found, labels.get? a = some found ∧
      ∀ name value, selector.get? name = some value → found.get? name = some value := by
  unfold matchingAccounts
  simp only [List.mem_map, List.mem_filter, List.all_eq_true, decide_eq_true_eq]
  constructor
  · rintro ⟨⟨b, found⟩, ⟨hmem, hall⟩, rfl⟩
    refine ⟨found, Dict.mem_entries_iff.mp hmem, fun name value hvalue => ?_⟩
    exact hall (name, value) (Dict.mem_entries_iff.mpr hvalue)
  · rintro ⟨found, hget, hall⟩
    refine ⟨(a, found), ⟨Dict.mem_entries_iff.mpr hget, fun s hs => ?_⟩, rfl⟩
    exact hall s.1 s.2 (Dict.mem_entries_iff.mp hs)

theorem selectedAccounts_ensures (spec : AuthoringPolicy) (source : Option KeyPolicyRevision)
    (labels : Dict AccountId (Dict String String)) :
    Ensures Plain (selectedAccounts spec source labels) fun accounts =>
      ∀ a, a ∈ accounts ↔ spec.Selects source labels a := by
  unfold selectedAccounts AuthoringPolicy.Selects
  cases spec.accountIds with
  | some ids => exact .ok fun a => SortOn.mem_iff _
  | none =>
    cases spec.accountSelector with
    | some selector =>
      show Ensures Plain (if matchingAccounts selector labels = [] then _ else _) _
      split_ifs
      · exact .fail (plain_value _)
      · exact .ok fun a => (SortOn.mem_iff _).trans mem_matchingAccounts
    | none =>
      cases source with
      | some p =>
        refine .ok fun a => (SortOn.mem_iff _).trans ?_
        simp [List.mem_dedup, List.mem_map]
      | none => exact .fail (plain_value _)

theorem triggers_ensures (spec : AuthoringPolicy) (source : Option KeyPolicyRevision) :
    Ensures Plain (pick spec.allowedTriggers (source.map inheritedTriggers) "allowed_triggers")
      fun triggers => ∀ t, t ∈ triggers ↔ spec.Permits source t := by
  refine (pick_ensures _ _ _ none).weaken fun triggers h t => ?_
  unfold AuthoringPolicy.Permits
  cases hts : spec.allowedTriggers with
  | some ts =>
    rw [hts] at h
    cases h
    exact Iff.rfl
  | none =>
    rw [hts] at h
    cases source with
    | none => cases h
    | some p =>
      cases h
      simp [inheritedTriggers, List.mem_flatMap]

theorem groups_ensures (spec : AuthoringPolicy) (source : Option KeyPolicyRevision) :
    Ensures Plain (pick spec.routeGroupIds (source.map KeyPolicyRevision.routeGroupIds)
      "route_group_ids") fun ids => (∀ g, g ∈ ids ↔ spec.InGroups source g) ∧
        (spec.routeGroupIds = some ids ∨ ∃ p ∈ source, p.routeGroupIds = ids) := by
  refine (pick_ensures _ _ _ none).weaken fun ids h => ?_
  unfold AuthoringPolicy.InGroups
  cases hids : spec.routeGroupIds with
  | some own =>
    rw [hids] at h
    cases h
    exact ⟨fun g => Iff.rfl, .inl rfl⟩
  | none =>
    rw [hids] at h
    cases source with
    | none => cases h
    | some p =>
      cases h
      exact ⟨fun g => by simp, .inr ⟨p, rfl, rfl⟩⟩

theorem checkActive_ensures (policyId : PolicyRevisionId) (a : AccountId)
    (account : Option ProviderAccount) :
    Ensures Plain (checkActive policyId a account) fun _ =>
      ∃ found, account = some found ∧ found.state = some .active := by
  cases account with
  | none => exact .fail (plain_value _)
  | some found => exact (Ensures.require fun _ => plain_value _).weaken fun _ h => ⟨found, rfl, h⟩

/-! ## Legs -/

/-- The grant of a leg for the triggers it shares with the policy, if any. -/
def grantOf (accounts : List AccountId) (triggers : List RouteTrigger) (leg : RouteLeg) :
    Option AuthorizedLeg :=
  if leg.accountId ∈ accounts ∧ leg.triggers.filter (· ∈ triggers) ≠ [] then
    some (grantFor leg (leg.triggers.filter (· ∈ triggers)))
  else none

/-- The grants of a route group of the bundle. -/
def groupGrants (base : PolicyBundleV1) (accounts : List AccountId) (triggers : List RouteTrigger)
    (g : RouteGroupId) : List AuthorizedLeg :=
  match (Dict.indexOn RouteGroupRevision.routeGroupId base.routeGroups).get? g with
  | none => []
  | some group => group.legs.filterMap (grantOf accounts triggers)

theorem grantOf_eq_some_iff {accounts : List AccountId} {triggers : List RouteTrigger}
    {leg : RouteLeg} {grant : AuthorizedLeg} :
    grantOf accounts triggers leg = some grant ↔ leg.accountId ∈ accounts ∧
      leg.triggers.filter (· ∈ triggers) ≠ [] ∧
      grantFor leg (leg.triggers.filter (· ∈ triggers)) = grant := by
  unfold grantOf
  split_ifs with h
  · simp [h.1, h.2]
  · constructor
    · intro hnone
      cases hnone
    · intro hgrant
      exact absurd ⟨hgrant.1, hgrant.2.1⟩ h

theorem legId_of_grantOf {accounts : List AccountId} {triggers : List RouteTrigger} {leg : RouteLeg}
    {grant : AuthorizedLeg} (h : grantOf accounts triggers leg = some grant) :
    grant.legId = leg.legId := by
  obtain ⟨-, -, rfl⟩ := grantOf_eq_some_iff.mp h
  rfl

/-- A leg that validation accepts gives a grant that validation accepts. -/
theorem grantFor_validate {leg : RouteLeg} (hleg : leg.validate = .ok ()) {triggers : List RouteTrigger}
    (hshared : leg.triggers.filter (· ∈ triggers) ≠ []) :
    (grantFor leg (leg.triggers.filter (· ∈ triggers))).validate = .ok () := by
  obtain ⟨horder, -, hnodup, hcapabilities, -, -⟩ := RouteLeg.validate_eq_ok_iff.mp hleg
  exact AuthorizedLeg.validate_eq_ok_iff.mpr ⟨horder, hshared, hnodup.filter _, hcapabilities⟩

theorem projectLeg_eq {accounts : List AccountId} {triggers : List RouteTrigger} {leg : RouteLeg}
    (hleg : leg.validate = .ok ()) :
    projectLeg accounts triggers leg = .ok (grantOf accounts triggers leg) := by
  by_cases h : leg.accountId ∈ accounts ∧ leg.triggers.filter (· ∈ triggers) ≠ []
  · simp only [projectLeg, grantOf, if_pos h, grantFor_validate hleg h.2]
    rfl
  · simp only [projectLeg, grantOf, if_neg h]
    rfl

theorem projectGroup_ensures {base : PolicyBundleV1} (hb : base.validate = .ok base)
    (policyId : PolicyRevisionId) (accounts : List AccountId) (triggers : List RouteTrigger)
    (g : RouteGroupId) :
    Ensures Plain (projectGroup policyId
      (Dict.indexOn RouteGroupRevision.routeGroupId base.routeGroups) accounts triggers g)
      fun grants => grants = groupGrants base accounts triggers g := by
  obtain ⟨-, -, -, -, hgroups, hmember⟩ := PolicyBundleV1.validate_eq_ok_self_iff.mp hb
  unfold projectGroup groupGrants
  cases hget : (Dict.indexOn RouteGroupRevision.routeGroupId base.routeGroups).get? g with
  | none => exact .fail (plain_value _)
  | some group =>
    obtain ⟨hmem, -⟩ := (Dict.get?_indexOn_eq_some_iff hmember.groups_nodup).mp hget
    obtain ⟨-, -, hlegs, -, -⟩ := RouteGroupRevision.validate_eq_ok_iff.mp (hgroups group hmem)
    have hproject : group.legs.mapM (projectLeg accounts triggers) =
        .ok (group.legs.map (grantOf accounts triggers)) := by
      rw [mapM_eq_ok_iff, List.forall₂_map_right_iff, List.forall₂_same]
      exact fun leg hleg => projectLeg_eq (hlegs leg hleg)
    simp only [hproject, ok_bind]
    refine .ok ?_
    rw [List.filterMap_map]
    rfl

variable {base : PolicyBundleV1} {accounts : List AccountId} {triggers : List RouteTrigger}

theorem mem_groupGrants (hb : base.Consistent) {g : RouteGroupId} {grant : AuthorizedLeg} :
    grant ∈ groupGrants base accounts triggers g ↔
      ∃ leg, (leg, g) ∈ base.legGroups ∧ grantOf accounts triggers leg = some grant := by
  unfold groupGrants
  constructor
  · intro h
    split at h
    · cases h
    · next group hget =>
      obtain ⟨hmem, rfl⟩ := (Dict.get?_indexOn_eq_some_iff hb.groups_nodup).mp hget
      obtain ⟨leg, hleg, hgrant⟩ := List.mem_filterMap.mp h
      exact ⟨leg, PolicyBundleV1.mem_legGroups hmem hleg, hgrant⟩
  · rintro ⟨leg, hleg, hgrant⟩
    obtain ⟨group, hgroup, hid, hmem⟩ := PolicyBundleV1.exists_group hleg
    rw [(Dict.get?_indexOn_eq_some_iff hb.groups_nodup).mpr ⟨hgroup, hid⟩]
    exact List.mem_filterMap.mpr ⟨leg, hmem, hgrant⟩

/-- The grants of one group are at different legs. -/
theorem nodup_groupGrants (hb : base.Consistent) (g : RouteGroupId) :
    ((groupGrants base accounts triggers g).map AuthorizedLeg.legId).Nodup := by
  unfold groupGrants
  split
  · exact List.nodup_nil
  · next group hget =>
    obtain ⟨hmem, -⟩ := (Dict.get?_indexOn_eq_some_iff hb.groups_nodup).mp hget
    have hlegs : (group.legs.map RouteLeg.legId).Nodup := by
      have hall := hb.legs_nodup
      rw [PolicyBundleV1.legs, List.map_flatMap, List.nodup_flatMap] at hall
      exact hall.1 group hmem
    rw [List.map_filterMap]
    have hsame : ∀ leg id, (grantOf accounts triggers leg).map AuthorizedLeg.legId = some id →
        leg.legId = id := by
      intro leg id h
      obtain ⟨grant, hgrant, rfl⟩ := Option.map_eq_some_iff.mp h
      exact (legId_of_grantOf hgrant).symm
    rw [List.Nodup, List.pairwise_filterMap]
    refine (List.pairwise_map.mp hlegs).imp fun hne id hid id' hid' heq => hne ?_
    rw [hsame _ _ hid, hsame _ _ hid', heq]

/-- The grants of different groups are at different legs. -/
theorem nodup_flatMap_groupGrants (hb : base.Consistent) {ids : List RouteGroupId} (hids : ids.Nodup) :
    ((ids.flatMap (groupGrants base accounts triggers)).map AuthorizedLeg.legId).Nodup := by
  rw [List.map_flatMap, List.nodup_flatMap]
  refine ⟨fun g _ => nodup_groupGrants hb g, hids.imp fun hne => ?_⟩
  intro id hid hid'
  obtain ⟨grant, hgrant, rfl⟩ := List.mem_map.mp hid
  obtain ⟨grant', hgrant', hsame⟩ := List.mem_map.mp hid'
  obtain ⟨leg, hleg, hof⟩ := (mem_groupGrants hb).mp hgrant
  obtain ⟨leg', hleg', hof'⟩ := (mem_groupGrants hb).mp hgrant'
  rw [legId_of_grantOf hof, legId_of_grantOf hof'] at hsame
  exact hne (PolicyBundleV1.leg_unique hb.legs_nodup hleg hleg' hsame.symm).2

/-- What the legs of a compiled policy over some route groups satisfy. -/
structure LegsOf (base : PolicyBundleV1) (spec : AuthoringPolicy) (source : Option KeyPolicyRevision)
    (labels : Dict AccountId (Dict String String)) (groupIds : List RouteGroupId)
    (legs : List AuthorizedLeg) : Prop where
  nonempty : legs ≠ []
  nodup : (legs.map AuthorizedLeg.legId).Nodup
  valid : ∀ grant ∈ legs, grant.validate = .ok ()
  matched : ∀ grant ∈ legs, ∀ p : KeyPolicyRevision, p.routeGroupIds = groupIds →
    ∃ actual g, base.GrantMatches p grant actual g
  grants : ∀ g leg, (leg, g) ∈ base.legGroups → ∀ t,
    (∃ grant ∈ legs, grant.legId = leg.legId ∧ t ∈ grant.allowedTriggers) ↔
      spec.Grants source labels g leg t
  selected : ¬ spec.KeepsLegs source → ∀ a, spec.Selects source labels a → base.Active a

variable {spec : AuthoringPolicy} {source : Option KeyPolicyRevision}
  {labels : Dict AccountId (Dict String String)} {groupIds : List RouteGroupId}
  {iterate : List AccountId → List AccountId}

/-- The legs projected from the groups. -/
theorem legsOf_projected (hb : base.validate = .ok base) (hkeeps : ¬ spec.KeepsLegs source)
    (hnodup : groupIds.Nodup) (hids : ∀ g, g ∈ groupIds ↔ spec.InGroups source g)
    (haccounts : ∀ a, a ∈ accounts ↔ spec.Selects source labels a)
    (htriggers : ∀ t, t ∈ triggers ↔ spec.Permits source t)
    (hactive : ∀ a ∈ accounts, base.Active a)
    (hsome : groupIds.flatMap (groupGrants base accounts triggers) ≠ []) :
    LegsOf base spec source labels groupIds (groupIds.flatMap (groupGrants base accounts triggers)) := by
  obtain ⟨-, -, -, -, hgroups, hmember⟩ := PolicyBundleV1.validate_eq_ok_self_iff.mp hb
  have hof : ∀ grant ∈ groupIds.flatMap (groupGrants base accounts triggers), ∃ g ∈ groupIds,
      ∃ leg, (leg, g) ∈ base.legGroups ∧ grantOf accounts triggers leg = some grant := by
    intro grant hgrant
    obtain ⟨g, hg, hin⟩ := List.mem_flatMap.mp hgrant
    exact ⟨g, hg, (mem_groupGrants hmember).mp hin⟩
  refine ⟨hsome, nodup_flatMap_groupGrants hmember hnodup, ?_, ?_, ?_, ?_⟩
  · intro grant hgrant
    obtain ⟨g, -, leg, hleg, hsome⟩ := hof grant hgrant
    obtain ⟨-, hshared, rfl⟩ := grantOf_eq_some_iff.mp hsome
    obtain ⟨group, hgroup, -, hin⟩ := PolicyBundleV1.exists_group hleg
    obtain ⟨-, -, hlegs, -, -⟩ := RouteGroupRevision.validate_eq_ok_iff.mp (hgroups group hgroup)
    exact grantFor_validate (hlegs leg hin) hshared
  · intro grant hgrant p hp
    obtain ⟨g, hg, leg, hleg, hsome⟩ := hof grant hgrant
    obtain ⟨haccount, -, rfl⟩ := grantOf_eq_some_iff.mp hsome
    obtain ⟨account, hmem, hid, -⟩ := hactive leg.accountId haccount
    refine ⟨leg, g, List.mem_map.mpr ⟨account, hmem, hid⟩, hleg, hp ▸ hg, rfl, ?_, rfl⟩
    exact fun t ht => (List.mem_filter.mp ht).1
  · intro g leg hleg t
    constructor
    · intro hallowed
      obtain ⟨grant, hgrant, hid, ht⟩ := hallowed
      obtain ⟨g', hg', leg', hleg', hsome⟩ := hof grant hgrant
      -- the grant can only come from the leg itself
      have hsame : leg.legId = leg'.legId := hid.symm.trans (legId_of_grantOf hsome)
      obtain ⟨rfl, rfl⟩ := PolicyBundleV1.leg_unique hmember.legs_nodup hleg hleg' hsame
      obtain ⟨haccount, -, rfl⟩ := grantOf_eq_some_iff.mp hsome
      obtain ⟨hown, hpermits⟩ := List.mem_filter.mp ht
      exact .inr ⟨hkeeps, (hids g).mp hg', (haccounts _).mp haccount, hown,
        (htriggers t).mp (of_decide_eq_true hpermits)⟩
    · intro hgrants
      rcases hgrants with ⟨hk, -⟩ | ⟨-, hg, haccount, hown, hpermits⟩
      · exact absurd hk hkeeps
      · have ht : t ∈ leg.triggers.filter (· ∈ triggers) :=
          List.mem_filter.mpr ⟨hown, decide_eq_true ((htriggers t).mpr hpermits)⟩
        have hgrant : grantOf accounts triggers leg =
            some (grantFor leg (leg.triggers.filter (· ∈ triggers))) :=
          grantOf_eq_some_iff.mpr ⟨(haccounts _).mpr haccount, List.ne_nil_of_mem ht, rfl⟩
        exact ⟨_, List.mem_flatMap.mpr ⟨g, (hids g).mpr hg, (mem_groupGrants hmember).mpr
          ⟨leg, hleg, hgrant⟩⟩, rfl, ht⟩
  · exact fun _ a ha => hactive a ((haccounts a).mpr ha)

/-- The legs a clone keeps. -/
theorem legsOf_source (hb : base.validate = .ok base) {p : KeyPolicyRevision} (hp : p ∈ base.policies)
    (hkeeps : spec.KeepsLegs (some p)) (hids : ∀ g, g ∈ groupIds ↔ spec.InGroups (some p) g) :
    LegsOf base spec (some p) labels groupIds p.authorizedLegs := by
  obtain ⟨-, -, hpolicies, -, -, hmember⟩ := PolicyBundleV1.validate_eq_ok_self_iff.mp hb
  obtain ⟨-, -, -, hsome, hvalid, hnodup, -, -, -, -⟩ :=
    KeyPolicyRevision.validate_eq_ok_iff.mp (hpolicies p hp)
  have hown : spec.routeGroupIds = none := by
    have hunchanged := hkeeps.2
    rw [AuthoringPolicy.authorizationChanged] at hunchanged
    simp only [Bool.or_eq_false_iff] at hunchanged
    exact Option.isSome_eq_false_iff.mp hunchanged.1.1.1 |> Option.isNone_iff_eq_none.mp
  refine ⟨hsome, hnodup, hvalid, ?_, ?_, fun hno => absurd hkeeps hno⟩
  · intro grant hgrant p' hp'
    obtain ⟨actual, g, hmatch⟩ := hmember.grants p hp grant hgrant
    refine ⟨actual, g, { hmatch with inPolicy := ?_ }⟩
    rw [hp', hids, AuthoringPolicy.InGroups, hown]
    exact ⟨p, rfl, hmatch.inPolicy⟩
  · intro g leg _ t
    constructor
    · exact fun hallowed => .inl ⟨hkeeps, p, rfl, hallowed⟩
    · intro hgrants
      rcases hgrants with ⟨-, p', hp', hallowed⟩ | ⟨hno, -⟩
      · cases hp'
        exact hallowed
      · exact absurd hkeeps hno

theorem projectedLegs_ensures (hb : base.validate = .ok base) (hiter : ∀ l, (iterate l).Perm l)
    (hkeeps : ¬ spec.KeepsLegs source) (hnodup : groupIds.Nodup)
    (hids : ∀ g, g ∈ groupIds ↔ spec.InGroups source g) :
    Ensures Plain (projectedLegs iterate spec source labels base groupIds)
      (LegsOf base spec source labels groupIds) := by
  unfold projectedLegs
  refine (selectedAccounts_ensures spec source labels).bind fun accounts haccounts => ?_
  refine (triggers_ensures spec source).bind fun triggers htriggers => ?_
  refine (Ensures.forEach fun a _ => checkActive_ensures spec.policyId a
    (base.accounts.find? fun item => item.accountId = a)).bind fun _ hactive => ?_
  refine (Ensures.mapM fun g _ => projectGroup_ensures hb spec.policyId accounts triggers g).bind
    fun projected hprojected => ?_
  have hflat : projected.flatten = groupIds.flatMap (groupGrants base accounts triggers) := by
    have hmap : groupIds.map (groupGrants base accounts triggers) = projected := by
      rw [← List.forall₂_eq_eq_eq, List.forall₂_map_left_iff]
      exact hprojected.imp fun g grants h => h.symm
    rw [← hmap, List.flatMap]
  refine (Ensures.require fun _ => plain_value _).bind fun _ hsome => .ok ?_
  rw [hflat] at hsome ⊢
  refine legsOf_projected hb hkeeps hnodup hids haccounts htriggers (fun a ha => ?_) hsome
  obtain ⟨account, hfind, hstate⟩ := hactive a ((hiter accounts).mem_iff.mpr ha)
  exact PolicyBundleV1.active_of_find? hfind hstate

theorem authorizedLegs_ensures (hb : base.validate = .ok base) (hiter : ∀ l, (iterate l).Perm l)
    (hsource : ∀ p ∈ source, p ∈ base.policies) (hnodup : groupIds.Nodup)
    (hids : ∀ g, g ∈ groupIds ↔ spec.InGroups source g) :
    Ensures Plain (authorizedLegs iterate spec source labels base groupIds)
      (LegsOf base spec source labels groupIds) := by
  cases source with
  | none => exact projectedLegs_ensures hb hiter (fun h => by cases h.1) hnodup hids
  | some p =>
    unfold authorizedLegs
    cases hchanged : spec.authorizationChanged with
    | false => exact .ok (legsOf_source hb (hsource p rfl) ⟨rfl, hchanged⟩ hids)
    | true =>
      refine projectedLegs_ensures hb hiter (fun h => ?_) hnodup hids
      rw [h.2] at hchanged
      cases hchanged

/-! ## Policies -/

theorem LegsOf.perm {legs legs' : List AuthorizedLeg} (h : LegsOf base spec source labels groupIds legs)
    (hperm : legs'.Perm legs) : LegsOf base spec source labels groupIds legs' where
  nonempty hnil := h.nonempty (List.nil_perm.mp (hnil ▸ hperm))
  nodup := (hperm.map _).nodup_iff.mpr h.nodup
  valid grant hgrant := h.valid grant (hperm.mem_iff.mp hgrant)
  matched grant hgrant := h.matched grant (hperm.mem_iff.mp hgrant)
  grants g leg hleg t := by
    rw [← h.grants g leg hleg t]
    exact exists_congr fun grant => and_congr_left' hperm.mem_iff
  selected := h.selected

/-- The policy `p` is `spec` with its source and its macro filled in. -/
structure Materialized (base : PolicyBundleV1) (spec : AuthoringPolicy)
    (source : Option KeyPolicyRevision) (preset : Option PolicyMacro)
    (labels : Dict AccountId (Dict String String)) (p : KeyPolicyRevision) : Prop where
  policyId : p.policyId = spec.policyId
  name : (spec.name <|> none <|> source.map KeyPolicyRevision.name) = some p.name
  queueTier : (spec.queueTier <|> preset.map PolicyMacro.queueTier <|>
    source.map KeyPolicyRevision.queueTier) = some p.queueTier
  queueWeight : (spec.queueWeight <|> preset.map PolicyMacro.queueWeight <|>
    source.map KeyPolicyRevision.queueWeight) = some p.queueWeight
  maxConcurrency : (spec.maxConcurrency <|> preset.map PolicyMacro.maxConcurrency <|>
    source.map KeyPolicyRevision.maxConcurrency) = some p.maxConcurrency
  maxWaiters : (spec.maxWaiters <|> preset.map PolicyMacro.maxWaiters <|>
    source.map KeyPolicyRevision.maxWaiters) = some p.maxWaiters
  deadlineMs : (spec.deadlineMs <|> preset.map PolicyMacro.deadlineMs <|>
    source.map KeyPolicyRevision.deadlineMs) = some p.deadlineMs
  groups : ∀ g, g ∈ p.routeGroupIds ↔ spec.InGroups source g
  legs : LegsOf base spec source labels p.routeGroupIds p.authorizedLegs
  valid : p.validate = .ok p

/-- A member of a picked field satisfies what each place it can come from guarantees. -/
theorem picked {α : Type} {P : α → Prop} {explicit ofMacro inherited : Option α} {a : α}
    (h : (explicit <|> ofMacro <|> inherited) = some a) (hexplicit : ∀ x ∈ explicit, P x)
    (hexpanded : ∀ x ∈ ofMacro, P x) (hinherited : ∀ x ∈ inherited, P x) : P a := by
  cases explicit with
  | some x => cases h; exact hexplicit _ rfl
  | none =>
    cases ofMacro with
    | some x => cases h; exact hexpanded _ rfl
    | none =>
      cases inherited with
      | some x => cases h; exact hinherited _ rfl
      | none => cases h

/-- What an accepted policy of the configuration guarantees about its own values. -/
theorem spec_bounds (h : spec.validate = .ok ()) :
    (∀ s ∈ spec.name, lengthWithin s 1 120) ∧
      (∀ ids ∈ spec.routeGroupIds, ids ≠ [] ∧ ids.Nodup) ∧
      (∀ n ∈ spec.queueWeight, 1 ≤ n ∧ n ≤ 64) ∧ (∀ n ∈ spec.maxConcurrency, 1 ≤ n) ∧
      ∀ n ∈ spec.deadlineMs, 1 ≤ n ∧ n ≤ maxDeadlineMs := by
  simp only [AuthoringPolicy.validate, bind_eq_ok_iff, requireField_eq_ok_iff, exists_const] at h
  obtain ⟨hname, -, _, hgroups, _, -, _, -, _, -, hweight, hconcurrency, hdeadline, -⟩ := h
  refine ⟨hname, fun ids hids => ?_, hweight, hconcurrency, hdeadline⟩
  cases hids' : spec.routeGroupIds with
  | none =>
    rw [hids'] at hids
    cases hids
  | some own =>
    rw [hids'] at hids hgroups
    cases hids
    simp only [AuthoringPolicy.validateMembers, bind_eq_ok_iff, requireField_eq_ok_iff,
      requireValue_eq_ok_iff, exists_const] at hgroups
    exact ⟨hgroups.1, hgroups.2.2⟩

theorem macro_bounds {m : PolicyMacro} (h : m.validate = .ok ()) :
    (1 ≤ m.queueWeight ∧ m.queueWeight ≤ 64) ∧ 1 ≤ m.maxConcurrency ∧
      1 ≤ m.deadlineMs ∧ m.deadlineMs ≤ maxDeadlineMs := by
  simpa [PolicyMacro.validate] using h

theorem materializePolicy_ensures {preset : Option PolicyMacro} (hb : base.validate = .ok base)
    (hiter : ∀ l, (iterate l).Perm l) (hspec : spec.validate = .ok ())
    (hpreset : ∀ m ∈ preset, m.validate = .ok ()) (hsource : ∀ p ∈ source, p ∈ base.policies) :
    Ensures Plain (materializePolicy iterate spec source preset labels base)
      (Materialized base spec source preset labels) := by
  obtain ⟨-, -, hpolicies, -, -, -⟩ := PolicyBundleV1.validate_eq_ok_self_iff.mp hb
  obtain ⟨hname, hown, hweight, hconcurrency, hdeadline⟩ := spec_bounds hspec
  have hvalid : ∀ p ∈ source, p.validate = .ok p := fun p hp => hpolicies p (hsource p hp)
  unfold materializePolicy
  refine (groups_ensures spec source).bind fun ids hids => ?_
  have hgroups : ids ≠ [] ∧ ids.Nodup := by
    rcases hids.2 with hids | ⟨p, hp, rfl⟩
    · exact hown ids hids
    · obtain ⟨-, hsome, hnodup, -⟩ := KeyPolicyRevision.validate_eq_ok_iff.mp (hvalid p hp)
      exact ⟨hsome, hnodup⟩
  have hsorted := SortOn.perm TypedId.text ids
  have hin : ∀ g, g ∈ sortOn TypedId.text ids ↔ spec.InGroups source g := fun g =>
    hsorted.mem_iff.trans (hids.1 g)
  refine (authorizedLegs_ensures hb hiter hsource (hsorted.nodup_iff.mpr hgroups.2) hin).bind
    fun legs hlegs => ?_
  refine (pick_ensures spec.name _ "name" none).bind fun name hpname => ?_
  refine (pick_ensures spec.queueTier _ "queue_tier" _).bind fun queueTier htier => ?_
  refine (pick_ensures spec.queueWeight _ "queue_weight" _).bind fun queueWeight hpweight => ?_
  refine (pick_ensures spec.maxConcurrency _ "max_concurrency" _).bind
    fun maxConcurrency hpconcurrency => ?_
  refine (pick_ensures spec.maxWaiters _ "max_waiters" _).bind fun maxWaiters hwaiters => ?_
  refine (pick_ensures spec.deadlineMs _ "deadline_ms" _).bind fun deadlineMs hpdeadline => ?_
  have hofSource : ∀ p ∈ source, lengthWithin p.name 1 120 ∧
      (1 ≤ p.queueWeight ∧ p.queueWeight ≤ 64) ∧ 1 ≤ p.maxConcurrency ∧
      1 ≤ p.deadlineMs ∧ p.deadlineMs ≤ maxDeadlineMs := by
    intro p hp
    obtain ⟨h₁, -, -, -, -, -, h₂, h₃, h₄, -⟩ := KeyPolicyRevision.validate_eq_ok_iff.mp (hvalid p hp)
    exact ⟨h₁, h₂, h₃, h₄⟩
  -- every picked value is in its bounds, wherever it came from
  have hlength : lengthWithin name 1 120 :=
    picked (P := fun s => lengthWithin s 1 120) hpname hname (by simp)
      (by simpa using fun p hp => (hofSource p hp).1)
  have hweighted : 1 ≤ queueWeight ∧ queueWeight ≤ 64 :=
    picked (P := fun n => 1 ≤ n ∧ n ≤ 64) hpweight hweight
      (by simpa using fun m hm => (macro_bounds (hpreset m hm)).1)
      (by simpa using fun p hp => (hofSource p hp).2.1)
  have hconcurrent : 1 ≤ maxConcurrency :=
    picked (P := fun n => 1 ≤ n) hpconcurrency hconcurrency
      (by simpa using fun m hm => (macro_bounds (hpreset m hm)).2.1)
      (by simpa using fun p hp => (hofSource p hp).2.2.1)
  have htimed : 1 ≤ deadlineMs ∧ deadlineMs ≤ maxDeadlineMs :=
    picked (P := fun n => 1 ≤ n ∧ n ≤ maxDeadlineMs) hpdeadline hdeadline
      (by simpa using fun m hm => (macro_bounds (hpreset m hm)).2.2)
      (by simpa using fun p hp => (hofSource p hp).2.2.2)
  have hstored : KeyPolicyRevision.validate ⟨spec.policyId, name, sortOn TypedId.text ids, legs,
      queueTier, queueWeight, maxConcurrency, maxWaiters, deadlineMs⟩ = _ :=
    KeyPolicyRevision.validate_eq_ok_iff.mpr ⟨hlength,
      fun hnil => hgroups.1 (List.nil_perm.mp (hnil ▸ hsorted)), hsorted.nodup_iff.mpr hgroups.2,
      hlegs.nonempty, hlegs.valid, hlegs.nodup, hweighted, hconcurrent, htimed, rfl⟩
  refine (Ensures.of_ok hstored).weaken fun p hp => ?_
  subst hp
  exact ⟨rfl, hpname, htier, hpweight, hpconcurrency, hwaiters, hpdeadline, hin,
    hlegs.perm (SortOn.perm _ _), KeyPolicyRevision.validate_idem hstored⟩

end Authoring

end LlmMaxxing
