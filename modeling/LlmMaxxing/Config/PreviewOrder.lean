import LlmMaxxing.Config.PlanSoundness
import LlmMaxxing.Core.BundleRoundTrip

/-!
# What a preview survives (`config/plan.py`, `core/canonical.py`)

The canonical bytes of a bundle forget the order of every array. The fences of a plan forget the
order of the records and, of a key or an account, everything the bytes forget; they keep the order of
the arrays inside a policy, and the difference keeps the order of the triggers and capabilities of a
route leg. `preview_fresh_iff` says which reorderings a plan survives.
-/

namespace LlmMaxxing

open Check Json PlanError

/-! ## Two bundles with one canonical text -/

theorem sortEncoded_eq_iff_perm {α : Type} {c : JsonCodec ValidationError α} {l l' : List α}
    (h : sortEncoded c l = sortEncoded c l') : l.Perm l' :=
  (sortEncoded_perm c l).symm.trans (h ▸ sortEncoded_perm c l')

/-- Two valid bundles with the same canonical bytes. -/
structure SameContent (b b' : PolicyBundleV1) : Prop where
  valid : b.validate = .ok b
  valid' : b'.validate = .ok b'
  bytes : ∃ p, canonicalBundleBytes b = .ok p ∧ canonicalBundleBytes b' = .ok p

namespace SameContent

variable {b b' : PolicyBundleV1}

theorem symm (h : SameContent b b') : SameContent b' b := by
  obtain ⟨p, hp, hp'⟩ := h.bytes
  exact ⟨h.valid', h.valid, p, hp', hp⟩

theorem consistent (h : SameContent b b') : b.Consistent :=
  (PolicyBundleV1.validate_eq_ok_self_iff.mp h.valid).2.2.2.2.2

/-- The bytes determine the arrangement. -/
theorem arrange_eq (h : SameContent b b') : b.arrange = b'.arrange := by
  obtain ⟨p, hp, hp'⟩ := h.bytes
  rw [canonicalBundleBytes, h.valid] at hp
  rw [canonicalBundleBytes, h.valid'] at hp'
  simp only [sortCollections_policyBundle _ none] at hp hp'
  exact serialize_injective Codec.policyBundle hp hp'

theorem generation_eq (h : SameContent b b') : b.generation = b'.generation := by
  have := congrArg PolicyBundleV1.generation h.arrange_eq
  exact this

theorem schemaVersion_eq (h : SameContent b b') : b.schemaVersion = b'.schemaVersion := by
  have := congrArg PolicyBundleV1.schemaVersion h.arrange_eq
  exact this

theorem minReader_eq (h : SameContent b b') : b.minReader = b'.minReader := by
  have := congrArg PolicyBundleV1.minReader h.arrange_eq
  exact this

theorem backendManifestHash_eq (h : SameContent b b') :
    b.backendManifestHash = b'.backendManifestHash := by
  have := congrArg PolicyBundleV1.backendManifestHash h.arrange_eq
  exact this

theorem requiredFeatures_perm (h : SameContent b b') : b.requiredFeatures.Perm b'.requiredFeatures :=
  sortEncoded_eq_iff_perm (congrArg PolicyBundleV1.requiredFeatures h.arrange_eq)

theorem accounts_perm (h : SameContent b b') : b.accounts.Perm b'.accounts :=
  sortEncoded_eq_iff_perm (congrArg PolicyBundleV1.accounts h.arrange_eq)

end SameContent

/-- Verifiers in the order of their generations are determined by which there are. -/
theorem ClientKeyRecord.eq_of_generationsIncreasing {vs ws : List CredentialVerifier}
    (hvs : generationsIncreasing vs) (hws : generationsIncreasing ws) (hperm : vs.Perm ws)
    (hnd : (vs.map CredentialVerifier.generation).Nodup) : vs = ws := by
  have hsorted : ∀ {us : List CredentialVerifier}, generationsIncreasing us →
      us.Pairwise fun v w => v.generation ≤ w.generation := by
    intro us hus
    have hpair := SortOn.pairwise id (us.map CredentialVerifier.generation)
    rw [← hus, List.pairwise_map] at hpair
    exact hpair
  refine List.Perm.eq_of_pairwise (fun v w hv hw hle hge => ?_) (hsorted hvs) (hsorted hws) hperm
  exact List.inj_on_of_nodup_map hnd hv (hperm.mem_iff.mpr hw) (le_antisymm hle hge)

/-- The arrangement of a valid key determines the key. -/
theorem ClientKeyRecord.eq_of_arrange_eq {k k' : ClientKeyRecord} (hk : k.validate = .ok ())
    (hk' : k'.validate = .ok ()) (h : k.arrange = k'.arrange) : k = k' := by
  obtain ⟨hsound, hcredentials, hlegacies⟩ := ClientKeyRecord.validate_eq_ok_iff.mp hk
  obtain ⟨-, hcredentials', hlegacies'⟩ := ClientKeyRecord.validate_eq_ok_iff.mp hk'
  have hnd := hsound.generations_nodup
  rw [ClientKeyRecord.verifiers, List.map_append, List.nodup_append] at hnd
  have hc : k.credentialVerifiers = k'.credentialVerifiers :=
    eq_of_generationsIncreasing hcredentials hcredentials'
      (sortEncoded_eq_iff_perm (congrArg ClientKeyRecord.credentialVerifiers h)) hnd.1
  have hl : k.legacyVerifiers = k'.legacyVerifiers :=
    eq_of_generationsIncreasing hlegacies hlegacies'
      (sortEncoded_eq_iff_perm (congrArg ClientKeyRecord.legacyVerifiers h)) hnd.2.1
  cases k
  cases k'
  simp only [ClientKeyRecord.arrange, ClientKeyRecord.mk.injEq] at h hc hl ⊢
  exact ⟨h.1, h.2.1, h.2.2.1, h.2.2.2.1, h.2.2.2.2.1, h.2.2.2.2.2.1, h.2.2.2.2.2.2.1, hc, hl⟩

namespace SameContent

variable {b b' : PolicyBundleV1}

theorem mem_keys (h : SameContent b b') {k : ClientKeyRecord} (hk : k ∈ b.keys) : k ∈ b'.keys := by
  have hperm : (b.keys.map ClientKeyRecord.arrange).Perm (b'.keys.map ClientKeyRecord.arrange) :=
    sortEncoded_eq_iff_perm (congrArg PolicyBundleV1.keys h.arrange_eq)
  obtain ⟨k', hk', heq⟩ :=
    List.mem_map.mp (hperm.mem_iff.mp (List.mem_map.mpr ⟨k, hk, rfl⟩))
  have hvalid := (PolicyBundleV1.validate_eq_ok_self_iff.mp h.valid).2.1 k hk
  have hvalid' := (PolicyBundleV1.validate_eq_ok_self_iff.mp h.valid').2.1 k' hk'
  rw [← ClientKeyRecord.eq_of_arrange_eq hvalid' hvalid heq]
  exact hk'

theorem keys_perm (h : SameContent b b') : b.keys.Perm b'.keys :=
  (List.perm_ext_iff_of_nodup h.consistent.keys_nodup.of_map h.symm.consistent.keys_nodup.of_map).mpr
    fun _ => ⟨h.mem_keys, h.symm.mem_keys⟩

/-- Each policy has its counterpart, with the same arrangement. -/
theorem exists_policy (h : SameContent b b') {p : KeyPolicyRevision} (hp : p ∈ b.policies) :
    ∃ p' ∈ b'.policies, p'.arrange = p.arrange := by
  have hperm : (b.policies.map KeyPolicyRevision.arrange).Perm
      (b'.policies.map KeyPolicyRevision.arrange) :=
    sortEncoded_eq_iff_perm (congrArg PolicyBundleV1.policies h.arrange_eq)
  exact List.mem_map.mp (hperm.mem_iff.mp (List.mem_map.mpr ⟨p, hp, rfl⟩))

/-- Each route group has its counterpart, with the same arrangement. -/
theorem exists_group (h : SameContent b b') {g : RouteGroupRevision} (hg : g ∈ b.routeGroups) :
    ∃ g' ∈ b'.routeGroups, g'.arrange = g.arrange := by
  have hperm : (b.routeGroups.map RouteGroupRevision.arrange).Perm
      (b'.routeGroups.map RouteGroupRevision.arrange) :=
    sortEncoded_eq_iff_perm (congrArg PolicyBundleV1.routeGroups h.arrange_eq)
  exact List.mem_map.mp (hperm.mem_iff.mp (List.mem_map.mpr ⟨g, hg, rfl⟩))

/-- The legs of a stored route group are in order, so the arrangement only reaches into them. -/
theorem legs_map_arrange (h : SameContent b b') {g : RouteGroupRevision} (hg : g ∈ b.routeGroups) :
    g.arrange.legs = g.legs.map RouteLeg.arrange := by
  have hvalid := (PolicyBundleV1.validate_eq_ok_self_iff.mp h.valid).2.2.2.2.1 g hg
  have hlegs : sortOn RouteLeg.sortKey g.legs = g.legs :=
    congrArg RouteGroupRevision.legs (RouteGroupRevision.validate_eq_ok_iff.mp hvalid).2.2.2.2
  have hsorted : g.legs.Pairwise fun a b => a.sortKey ≤ b.sortKey := by
    rw [← hlegs]
    exact SortOn.pairwise RouteLeg.sortKey g.legs
  refine SortOn.eq_self RouteLeg.sortKey (List.pairwise_map.mpr ?_)
  exact hsorted

theorem exists_leg (h : SameContent b b') {leg : RouteLeg} (hleg : leg ∈ b.legs) :
    ∃ leg' ∈ b'.legs, leg'.arrange = leg.arrange := by
  obtain ⟨g, hg, hleg⟩ := List.mem_flatMap.mp hleg
  obtain ⟨g', hg', heq⟩ := h.exists_group hg
  have hmap : g'.legs.map RouteLeg.arrange = g.legs.map RouteLeg.arrange := by
    rw [← h.symm.legs_map_arrange hg', ← h.legs_map_arrange hg, heq]
  have hmem : leg.arrange ∈ g'.legs.map RouteLeg.arrange :=
    hmap ▸ List.mem_map.mpr ⟨leg, hleg, rfl⟩
  obtain ⟨leg', hleg', heq'⟩ := List.mem_map.mp hmem
  exact ⟨leg', List.mem_flatMap.mpr ⟨g', hg', hleg'⟩, heq'⟩

end SameContent

/-! ## Differences -/

section ChangedIds

variable {κ α : Type} [DecidableEq κ] {ident : α → κ} {text : κ → String} {dump : α → Json}
  {before before' after : List α}

/-- The dump kept for an identity. -/
def dumpOf (ident : α → κ) (dump : α → Json) (l : List α) (k : κ) : Option Json :=
  ((Dict.indexOn ident l).get? k).map dump

theorem mem_changedIds {k : κ} :
    k ∈ changedIds ident text dump before after ↔
      dumpOf ident dump before k ≠ dumpOf ident dump after k := by
  have hget : ∀ l : List α, ((Dict.indexOn ident l).mapValues fun _ a => dump a).get? k =
      dumpOf ident dump l k := fun l => Dict.get?_mapValues _ _ _
  simp only [changedIds, SortOn.mem_iff, List.mem_filter, List.mem_append, decide_eq_true_eq, hget,
    Dict.mem_keys_iff]
  constructor
  · exact fun h => h.2
  · intro hne
    refine ⟨?_, hne⟩
    cases hb : dumpOf ident dump before k with
    | some v => exact Or.inl ⟨v, rfl⟩
    | none =>
      cases ha : dumpOf ident dump after k with
      | some v => exact Or.inr ⟨⟨v, rfl⟩, fun ⟨_, h⟩ => (by cases h)⟩
      | none => rw [hb, ha] at hne; exact absurd rfl hne

theorem nodup_changedIds : (changedIds ident text dump before after).Nodup := by
  rw [changedIds, (SortOn.perm _ _).nodup_iff]
  refine List.Nodup.filter _ (List.Nodup.append (Dict.nodup _) ((Dict.nodup _).filter _) ?_)
  intro k hk hk'
  exact absurd hk (by simpa using (List.mem_filter.mp hk').2)

/-- A record of `after` is found in `before` exactly when it is found in `before'`. -/
def KeptAlike (ident : α → κ) (before before' after : List α) : Prop :=
  ∀ a ∈ before, ∀ a' ∈ before', ident a' = ident a → (a ∈ after ↔ a' ∈ after)

theorem dumpOf_eq_iff (hdump : Function.Injective dump) (hb : (before.map ident).Nodup)
    (ha : (after.map ident).Nodup) {a : α} (hmem : a ∈ before) :
    dumpOf ident dump before (ident a) = dumpOf ident dump after (ident a) ↔ a ∈ after := by
  have hbefore := (Dict.get?_indexOn_eq_some_iff hb).mpr ⟨hmem, rfl⟩
  rw [dumpOf, dumpOf, hbefore, Option.map_some]
  constructor
  · intro h
    obtain ⟨a', ha', heq⟩ := Option.map_eq_some_iff.mp h.symm
    rw [← hdump heq]
    exact ((Dict.get?_indexOn_eq_some_iff ha).mp ha').1
  · intro h
    rw [(Dict.get?_indexOn_eq_some_iff ha).mpr ⟨h, rfl⟩, Option.map_some]

/-- **When two bases differ alike from a target**: over the same identities, exactly when each record
of the one is in the target if the record of the other is. -/
theorem changedIds_eq_iff (hdump : Function.Injective dump) (htext : Function.Injective text)
    (hb : (before.map ident).Nodup) (hb' : (before'.map ident).Nodup) (ha : (after.map ident).Nodup)
    (hids : ∀ k, k ∈ before.map ident ↔ k ∈ before'.map ident) :
    changedIds ident text dump before after = changedIds ident text dump before' after ↔
      KeptAlike ident before before' after := by
  constructor
  · intro h a hmem a' hmem' hid
    rw [← dumpOf_eq_iff hdump hb ha hmem, ← dumpOf_eq_iff hdump hb' ha hmem', hid]
    have hiff : ident a ∈ changedIds ident text dump before after ↔
        dumpOf ident dump before (ident a) ≠ dumpOf ident dump after (ident a) := mem_changedIds
    rw [h, mem_changedIds] at hiff
    exact (not_iff_not.mp hiff).symm
  · intro h
    have hmem : ∀ k, k ∈ changedIds ident text dump before after ↔
        k ∈ changedIds ident text dump before' after := by
      intro k
      rw [mem_changedIds, mem_changedIds, not_iff_not]
      by_cases hk : k ∈ before.map ident
      · obtain ⟨a, hmem, rfl⟩ := List.mem_map.mp hk
        obtain ⟨a', hmem', hid⟩ := List.mem_map.mp ((hids _).mp hk)
        rw [dumpOf_eq_iff hdump hb ha hmem, ← hid, dumpOf_eq_iff hdump hb' ha hmem']
        exact h a hmem a' hmem' hid
      · -- An identity neither base has compares nothing with the target's record.
        have hnone : ∀ {l : List α}, k ∉ l.map ident → (Dict.indexOn ident l).get? k = none := by
          intro l hl
          refine Option.eq_none_iff_forall_ne_some.mpr fun a hget => hl ?_
          obtain ⟨a', ha', heq⟩ := List.mem_map.mp (Dict.mem_of_get?_ofList hget)
          cases heq
          exact List.mem_map.mpr ⟨_, ha', rfl⟩
        have heq : dumpOf ident dump before k = dumpOf ident dump before' k := by
          rw [dumpOf, dumpOf, hnone hk, hnone (mt (hids k).mpr hk)]
        rw [heq]
    have hperm := (List.perm_ext_iff_of_nodup nodup_changedIds nodup_changedIds).mpr hmem
    have hsorted : ∀ l, changedIds ident text dump l after =
        sortOn text (changedIds ident text dump l after) := fun l =>
      (SortOn.eq_self text (SortOn.pairwise _ _)).symm
    rw [hsorted, hsorted before']
    exact SortOn.eq_of_perm text hperm fun _ _ _ _ heq => htext heq

omit [DecidableEq κ] in
theorem keptAlike_of_perm (hperm : before.Perm before') (hb : (before.map ident).Nodup) :
    KeptAlike ident before before' after := by
  intro a hmem a' hmem' hid
  rw [List.inj_on_of_nodup_map hb (hperm.mem_iff.mpr hmem') hmem hid]

end ChangedIds

/-! ## What no reordering changes -/

namespace SameContent

variable {b b' : PolicyBundleV1}

theorem keyBindings_eq (h : SameContent b b') : keyBindings b = keyBindings b' := by
  rw [keyBindings, keyBindings, SortOn.eq_of_perm _ h.keys_perm fun k hk k' hk' heq =>
    List.inj_on_of_nodup_map h.consistent.keys_nodup hk hk' heq]

theorem keySetFence_eq (h : SameContent b b') (H : Hashing) : keySetFence H b = keySetFence H b' := by
  rw [keySetFence, keySetFence, h.keyBindings_eq]

theorem securityFence_eq (h : SameContent b b') (H : Hashing) :
    securityFence H b = securityFence H b' := by
  have hkeys := SortOn.eq_of_perm _ h.keys_perm fun k hk k' hk' heq =>
    List.inj_on_of_nodup_map h.consistent.keys_nodup hk hk' heq
  have haccounts := SortOn.eq_of_perm (fun a : ProviderAccount => a.accountId.text) h.accounts_perm
    fun a ha a' ha' heq =>
      List.inj_on_of_nodup_map h.consistent.accounts_nodup ha ha' (TypedId.ext heq)
  rw [securityFence, securityFence, hkeys, haccounts]

theorem bundleContentHash_eq (h : SameContent b b') (H : Hashing) :
    bundleContentHash H b = bundleContentHash H b' := by
  obtain ⟨p, hp, hp'⟩ := h.bytes
  rw [bundleContentHash, bundleContentHash, hp, hp']

/-- The source fingerprint forgets the order of the policies, not the order inside one. -/
theorem sourceFingerprint_eq (h : SameContent b b') (hpolicies : b.policies.Perm b'.policies)
    (H : Hashing) : sourceFingerprint H b = sourceFingerprint H b' := by
  have hsorted := SortOn.eq_of_perm (fun p : KeyPolicyRevision => p.policyId.text) hpolicies
    fun p hp p' hp' heq =>
      List.inj_on_of_nodup_map h.consistent.policies_nodup hp hp' (TypedId.ext heq)
  have hfeatures := SortOn.eq_of_perm id (h.requiredFeatures_perm.map StrEnum.value)
    fun _ _ _ _ heq => heq
  rw [sourceFingerprint, sourceFingerprint, hsorted, hfeatures, h.schemaVersion_eq, h.minReader_eq]

/-- The checks on the key set pass for both or for neither. -/
theorem validateKeyRecordSetDelta_ok (h : SameContent b b') {after : List ClientKeyRecord}
    (hok : validateKeyRecordSetDelta b.keys after (exactPolicyReassignments b.keys after) = .ok ()) :
    validateKeyRecordSetDelta b'.keys after (exactPolicyReassignments b'.keys after) = .ok () := by
  have hindex : ∀ k, (keyIndex b.keys).get? k = (keyIndex b'.keys).get? k :=
    Dict.get?_indexOn_of_perm h.keys_perm h.consistent.keys_nodup
  have hassign : exactPolicyReassignments b.keys after = exactPolicyReassignments b'.keys after := by
    unfold exactPolicyReassignments
    simp only [hindex]
  rw [← hassign]
  simp only [validateKeyRecordSetDelta, bind_eq_ok_iff, requireValue_eq_ok_iff, exists_const,
    forEach_eq_ok_iff] at hok ⊢
  obtain ⟨hkeys, hentries⟩ := hok
  constructor
  · intro k hk
    obtain ⟨r, hr⟩ := Dict.mem_keys_iff.mp hk
    exact hkeys k (Dict.mem_keys_iff.mpr ⟨r, (hindex k).trans hr⟩)
  · rintro ⟨k, r⟩ hq
    rw [Dict.mem_entries_iff, ← hindex, ← Dict.mem_entries_iff] at hq
    exact hentries _ hq

end SameContent

/-! ## Projections -/

/-- The grant writes its own triggers and capabilities over those of the leg. -/
theorem effectiveLeg_arrange (accounts : Dict AccountId ProviderAccount)
    (authorized : Dict RouteLegId AuthorizedLeg) (leg : RouteLeg) :
    effectiveLeg accounts authorized leg.arrange = effectiveLeg accounts authorized leg := rfl

theorem RouteGroupRevision.of_arrange_eq {g g' : RouteGroupRevision} (h : g.arrange = g'.arrange) :
    g.routeGroupId = g'.routeGroupId ∧ g.name = g'.name ∧ g.strategy = g'.strategy := by
  have hid := congrArg RouteGroupRevision.routeGroupId h
  have hname := congrArg RouteGroupRevision.name h
  have hstrategy := congrArg RouteGroupRevision.strategy h
  exact ⟨hid, hname, hstrategy⟩

namespace SameContent

variable {b b' : PolicyBundleV1}

/-- A route group is projected alike from both bundles. -/
theorem effectiveGroup_eq (h : SameContent b b') (accounts : Dict AccountId ProviderAccount)
    (authorized : Dict RouteLegId AuthorizedLeg) (groupId : RouteGroupId) :
    effectiveGroup (Dict.indexOn RouteGroupRevision.routeGroupId b.routeGroups) accounts authorized
        groupId =
      effectiveGroup (Dict.indexOn RouteGroupRevision.routeGroupId b'.routeGroups) accounts authorized
        groupId := by
  have hnd := h.consistent.groups_nodup
  have hnd' := h.symm.consistent.groups_nodup
  unfold effectiveGroup item
  cases hget : (Dict.indexOn RouteGroupRevision.routeGroupId b.routeGroups).get? groupId with
  | none =>
    cases hget' : (Dict.indexOn RouteGroupRevision.routeGroupId b'.routeGroups).get? groupId with
    | none => rfl
    | some g' =>
      obtain ⟨hg', rfl⟩ := (Dict.get?_indexOn_eq_some_iff hnd').mp hget'
      obtain ⟨g, hg, heq⟩ := h.symm.exists_group hg'
      have hid := (RouteGroupRevision.of_arrange_eq heq).1
      rw [(Dict.get?_indexOn_eq_some_iff hnd).mpr ⟨hg, hid⟩] at hget
      cases hget
  | some g =>
    obtain ⟨hg, rfl⟩ := (Dict.get?_indexOn_eq_some_iff hnd).mp hget
    obtain ⟨g', hg', heq⟩ := h.exists_group hg
    obtain ⟨hid, hname, hstrategy⟩ := RouteGroupRevision.of_arrange_eq heq
    rw [(Dict.get?_indexOn_eq_some_iff hnd').mpr ⟨hg', hid⟩]
    have hlegs : g.legs.mapM (effectiveLeg accounts authorized) =
        g'.legs.mapM (effectiveLeg accounts authorized) := by
      have hmap : g.legs.map RouteLeg.arrange = g'.legs.map RouteLeg.arrange := by
        rw [← h.legs_map_arrange hg, ← h.symm.legs_map_arrange hg', heq]
      have hthrough : ∀ legs : List RouteLeg, legs.mapM (effectiveLeg accounts authorized) =
          (legs.map RouteLeg.arrange).mapM (effectiveLeg accounts authorized) := by
        intro legs
        rw [List.mapM_map]
        rfl
      rw [hthrough, hmap, ← hthrough]
    simp only [ok_bind, hlegs, hid, hname, hstrategy]

/-- **With the policies in their order, every key has the same projection.** -/
theorem effectiveKeyProjection_eq (h : SameContent b b') (hpolicies : b.policies.Perm b'.policies)
    (keyId : String) : effectiveKeyProjection b keyId = effectiveKeyProjection b' keyId := by
  have hkeys := Dict.get?_indexOn_of_perm h.keys_perm h.consistent.keys_nodup
  have hindex := Dict.get?_indexOn_of_perm hpolicies h.consistent.policies_nodup
  have haccounts := Dict.get?_indexOn_of_perm h.accounts_perm h.consistent.accounts_nodup
  have hleg : ∀ authorized, effectiveLeg (Dict.indexOn ProviderAccount.accountId b.accounts) authorized =
      effectiveLeg (Dict.indexOn ProviderAccount.accountId b'.accounts) authorized := by
    intro authorized
    funext leg
    unfold effectiveLeg item
    simp only [haccounts]
  have hgroup : ∀ authorized, effectiveGroup
      (Dict.indexOn RouteGroupRevision.routeGroupId b.routeGroups)
      (Dict.indexOn ProviderAccount.accountId b.accounts) authorized = effectiveGroup
      (Dict.indexOn RouteGroupRevision.routeGroupId b'.routeGroups)
      (Dict.indexOn ProviderAccount.accountId b'.accounts) authorized := by
    intro authorized
    funext groupId
    rw [h.effectiveGroup_eq]
    unfold effectiveGroup
    rw [hleg]
  unfold effectiveKeyProjection item
  simp only [hkeys, hindex, hgroup]

/-- The affected keys are the same, as far as the differences are. -/
theorem affectedKeys_ok (h : SameContent b b') (hpolicies : b.policies.Perm b'.policies)
    {target : PolicyBundleV1} {diff : SemanticDiff} {affected : List String}
    (hok : affectedKeys b target diff = .ok affected) : affectedKeys b' target diff = .ok affected := by
  have hids : ((b'.keys ++ target.keys).map ClientKeyRecord.keyId).dedup.Perm
      ((b.keys ++ target.keys).map ClientKeyRecord.keyId).dedup :=
    (((h.keys_perm.symm.append_right _).map _).dedup)
  unfold affectedKeys at hok ⊢
  simp only at hok ⊢
  split at hok
  · next hflag =>
    rw [if_pos hflag, ← hok, SortOn.eq_of_perm id hids fun _ _ _ _ heq => heq]
  · next hflag =>
    rw [if_neg hflag]
    simp only [bind_eq_ok_iff, pure_eq_ok, Except.ok.injEq] at hok ⊢
    obtain ⟨out, hout, rfl⟩ := hok
    have hsame : affectedKey b' target = affectedKey b target := by
      funext keyId
      rw [affectedKey, affectedKey, h.effectiveKeyProjection_eq hpolicies]
    obtain ⟨out', hout', hperm⟩ := exists_mapM_of_perm hout hids
    refine ⟨out', hsame ▸ hout', ?_⟩
    exact SortOn.eq_of_perm id (hperm.filterMap id) fun _ _ _ _ heq => heq

end SameContent

/-! ## Digests -/

/-- The document behind `_source_fingerprint`. -/
def sourceDocument (b : PolicyBundleV1) : Json := .obj [
  ("schema_version", .num b.schemaVersion),
  ("min_reader", .str b.minReader),
  ("required_features", texts id (sortOn id (b.requiredFeatures.map StrEnum.value))),
  ("policies", (Codec.list Codec.keyPolicyRevision).enc (sortOn (fun p => p.policyId.text) b.policies))]

def sourceDomain : String := "llmmaxxing.source-fingerprint.v1\x00"

def impactDomain : String := "llmmaxxing.impact.v1\x00"

theorem sourceFingerprint_eq_hashJson (h : Hashing) (b : PolicyBundleV1) :
    sourceFingerprint h b = hashJson h (sourceDocument b) sourceDomain := rfl

/-- Two documents have different digests, unless they are one text. -/
def NoCollision (h : Hashing) (domain : String) (v w : Json) : Prop :=
  hashJson h v domain = hashJson h w domain → serialize v = serialize w

/-- Objects that agree up to the order of members have the same members. -/
theorem member_eq_of_norm {fields fields' : List (String × Json)} (hd : (fields.map Prod.fst).Nodup)
    (hd' : (fields'.map Prod.fst).Nodup) (h : (Json.obj fields).norm = (Json.obj fields').norm)
    (name : String) : (Dict.lookup name fields).map norm = (Dict.lookup name fields').map norm := by
  have hsorted : ∀ {fs : List (String × Json)}, (fs.map Prod.fst).Nodup →
      Dict.lookup name (sortOn (fun q => utf16 q.1) (normFields fs)) =
        (Dict.lookup name fs).map norm := by
    intro fs hnd
    have hperm := SortOn.perm (fun q : String × Json => utf16 q.1) (normFields fs)
    have hnames : (normFields fs).map Prod.fst = fs.map Prod.fst := by
      rw [normFields_eq, List.map_map]
      rfl
    rw [Dict.lookup_eq_of_perm ((hperm.map _).nodup_iff.mpr (hnames ▸ hnd)) hperm, normFields_eq,
      Dict.lookup_map name fun _ (v : Json) => v.norm]
  have hmembers : sortOn (fun q => utf16 q.1) (normFields fields) =
      sortOn (fun q => utf16 q.1) (normFields fields') := by
    simpa only [Json.norm, Json.obj.injEq] using h
  rw [← hsorted hd, hmembers, hsorted hd']

/-- Serialized objects with one text have the same members. -/
theorem member_eq_of_serialize {fields fields' : List (String × Json)} {p : Bytes}
    (hd : (Json.obj fields).Holds fun _ => True) (hd' : (Json.obj fields').Holds fun _ => True)
    (h : serialize (.obj fields) = .ok p) (h' : serialize (.obj fields') = .ok p) (name : String) :
    (Dict.lookup name fields).map norm = (Dict.lookup name fields').map norm := by
  have hread : ∀ {fs : List (String × Json)}, (Json.obj fs).Holds (fun _ => True) →
      serialize (.obj fs) = .ok p → parse p = some (Json.obj fs).norm := by
    intro fs hd h
    rw [serialize] at h
    split at h
    · next hsafe =>
      cases h
      exact parse_utf8_render (holds_readable_of_safeInts _ hd hsafe)
    · cases h
  have hnorm : (Json.obj fields).norm = (Json.obj fields').norm :=
    Option.some.inj ((hread hd h).symm.trans (hread hd' h'))
  exact member_eq_of_norm (holds_obj.mp hd).1 (holds_obj.mp hd').1 hnorm name

/-- What two encodings agree on up to the order of members is one value. -/
theorem eq_of_norm_enc_eq {ε α : Type} (c : JsonCodec ε α) {a b : α}
    (h : (c.enc a).norm = (c.enc b).norm) : a = b := by
  have hdec := c.dec_norm_enc a
  rw [h, c.dec_norm_enc b] at hdec
  exact (Except.ok.inj hdec).symm

theorem sourceDocument_distinct (b : PolicyBundleV1) : (sourceDocument b).Holds fun _ => True := by
  have hpolicies := (Codec.list Codec.keyPolicyRevision).distinct
    (sortOn (fun p => p.policyId.text) b.policies)
  have hfeatures := (Codec.list Codec.string).distinct
    (sortOn id (b.requiredFeatures.map StrEnum.value))
  refine holds_obj.mpr ⟨by simp only [List.map_cons, List.map_nil]; decide, fun q hq => ?_⟩
  simp only [List.mem_cons, List.not_mem_nil, or_false] at hq
  rcases hq with rfl | rfl | rfl | rfl
  · trivial
  · trivial
  · exact hfeatures
  · exact hpolicies

/-- The text of the source document has every policy with its arrays in order. -/
theorem policies_of_serialize {b b' : PolicyBundleV1} {p : Bytes}
    (h : serialize (sourceDocument b) = .ok p) (h' : serialize (sourceDocument b') = .ok p) :
    b.policies.Perm b'.policies := by
  have hmember := member_eq_of_serialize (sourceDocument_distinct b) (sourceDocument_distinct b') h h'
    "policies"
  have hsorted := eq_of_norm_enc_eq (Codec.list Codec.keyPolicyRevision) (Option.some.inj hmember)
  have hperm := SortOn.perm (fun p : KeyPolicyRevision => p.policyId.text) b'.policies
  rw [← hsorted] at hperm
  exact (SortOn.perm _ _).symm.trans hperm

theorem SemanticDiff.enc_distinct (d : SemanticDiff) : d.enc.Holds fun _ => True := by
  have hids : ∀ {k : IdKind} (l : List (TypedId k)), (texts TypedId.text l).Holds fun _ => True :=
    fun l => (Codec.list (Codec.id _)).distinct l
  have hkeys := (Codec.list Codec.string).distinct d.changedKeyIds
  refine holds_obj.mpr ⟨by simp only [List.map_cons, List.map_nil]; decide, fun q hq => ?_⟩
  simp only [List.mem_cons, List.not_mem_nil, or_false] at hq
  rcases hq with rfl | rfl | rfl | rfl | rfl | rfl | rfl | rfl
  · exact hkeys
  · exact hids _
  · exact hids _
  · exact hids _
  · exact hids _
  all_goals trivial

theorem ImpactFields.enc_distinct (f : ImpactFields) : f.enc.Holds fun _ => True := by
  have hkeys := (Codec.list Codec.string).distinct f.affectedKeyIds
  have hbindings : (Json.arr (f.expectedKeyBindings.map ExpectedKeyBinding.enc)).Holds
      fun _ => True := by
    refine holds_arr.mpr fun v hv => ?_
    obtain ⟨b, -, rfl⟩ := List.mem_map.mp hv
    refine holds_obj.mpr ⟨by simp only [List.map_cons, List.map_nil]; decide, fun q hq => ?_⟩
    simp only [List.mem_cons, List.not_mem_nil, or_false] at hq
    rcases hq with rfl | rfl | rfl <;> trivial
  refine holds_obj.mpr ⟨by simp only [List.map_cons, List.map_nil]; decide, fun q hq => ?_⟩
  simp only [List.mem_cons, List.not_mem_nil, or_false] at hq
  rcases hq with rfl | rfl | rfl | rfl | rfl | rfl | rfl | rfl | rfl | rfl | rfl | rfl
  iterate 7 trivial
  · exact hbindings
  iterate 2 trivial
  · exact f.diff.enc_distinct
  · exact hkeys

/-- The text of the impact names the route groups and the legs that differ. -/
theorem diff_of_serialize {f f' : ImpactFields} {p : Bytes} (h : serialize f.enc = .ok p)
    (h' : serialize f'.enc = .ok p) :
    f.diff.changedRouteGroupIds = f'.diff.changedRouteGroupIds ∧
      f.diff.changedLegIds = f'.diff.changedLegIds := by
  have hdiff := Option.some.inj (member_eq_of_serialize f.enc_distinct f'.enc_distinct h h' "diff")
  have hmember := member_eq_of_norm (holds_obj.mp f.diff.enc_distinct).1
    (holds_obj.mp f'.diff.enc_distinct).1 hdiff
  exact ⟨eq_of_norm_enc_eq (Codec.list (Codec.id _)) (Option.some.inj (hmember "changed_route_group_ids")),
    eq_of_norm_enc_eq (Codec.list (Codec.id _)) (Option.some.inj (hmember "changed_leg_ids"))⟩

/-! ## When a preview stays fresh -/

/-- `base'` has the policies of `base` as they stand, and a route group or a leg of `base'` is in the
target as it stands exactly when that of `base` is. -/
structure OrderKept (base base' target : PolicyBundleV1) : Prop where
  policies : ∀ p ∈ base.policies, p ∈ base'.policies
  groups : KeptAlike RouteGroupRevision.routeGroupId base.routeGroups base'.routeGroups
    target.routeGroups
  legs : KeptAlike RouteLeg.legId base.legs base'.legs target.legs

/-- The plan is accepted against `base'`, and planning from `base'` gives its impact. -/
def Fresh (h : Hashing) (plan : ImpactPlan) (base' target : PolicyBundleV1)
    (source : Option String) : Prop :=
  plan.verifyAgainst h base' (some plan.sourceFingerprint) = .ok () ∧
    ∃ plan', planChange h base' target source = .ok plan' ∧ plan'.impactHash = plan.impactHash

namespace SameContent

variable {b b' target : PolicyBundleV1}

theorem policies_perm (h : SameContent b b') (hkept : ∀ p ∈ b.policies, p ∈ b'.policies) :
    b.policies.Perm b'.policies := by
  have hnd := h.symm.consistent.policies_nodup
  refine (List.perm_ext_iff_of_nodup h.consistent.policies_nodup.of_map hnd.of_map).mpr
    fun p => ⟨hkept p, fun hp => ?_⟩
  obtain ⟨p₀, hp₀, heq⟩ := h.symm.exists_policy hp
  have hid : p₀.policyId = p.policyId := by
    have hid := congrArg KeyPolicyRevision.policyId heq
    exact hid
  rw [← List.inj_on_of_nodup_map hnd (hkept p₀ hp₀) hp hid]
  exact hp₀

theorem groupIds (h : SameContent b b') (k : RouteGroupId)
    (hk : k ∈ b.routeGroups.map RouteGroupRevision.routeGroupId) :
    k ∈ b'.routeGroups.map RouteGroupRevision.routeGroupId := by
  obtain ⟨g, hg, rfl⟩ := List.mem_map.mp hk
  obtain ⟨g', hg', heq⟩ := h.exists_group hg
  exact List.mem_map.mpr ⟨g', hg', (RouteGroupRevision.of_arrange_eq heq).1⟩

theorem legIds (h : SameContent b b') (k : RouteLegId) (hk : k ∈ b.legs.map RouteLeg.legId) :
    k ∈ b'.legs.map RouteLeg.legId := by
  obtain ⟨leg, hleg, rfl⟩ := List.mem_map.mp hk
  obtain ⟨leg', hleg', heq⟩ := h.exists_leg hleg
  have hid := congrArg RouteLeg.legId heq
  exact List.mem_map.mpr ⟨leg', hleg', hid⟩

theorem changedGroups_iff (h : SameContent b b') (ht : target.Consistent) :
    (semanticDiff b target).changedRouteGroupIds = (semanticDiff b' target).changedRouteGroupIds ↔
      KeptAlike RouteGroupRevision.routeGroupId b.routeGroups b'.routeGroups target.routeGroups :=
  changedIds_eq_iff (fun _ _ => Codec.routeGroupRevision.enc_inj) (fun _ _ => TypedId.ext)
    h.consistent.groups_nodup h.symm.consistent.groups_nodup ht.groups_nodup
    fun k => ⟨h.groupIds k, h.symm.groupIds k⟩

theorem changedLegs_iff (h : SameContent b b') (ht : target.Consistent) :
    (semanticDiff b target).changedLegIds = (semanticDiff b' target).changedLegIds ↔
      KeptAlike RouteLeg.legId b.legs b'.legs target.legs :=
  changedIds_eq_iff (fun _ _ => Codec.routeLeg.enc_inj) (fun _ _ => TypedId.ext)
    h.consistent.legs_nodup h.symm.consistent.legs_nodup ht.legs_nodup
    fun k => ⟨h.legIds k, h.symm.legIds k⟩

/-- The differences from the target are the same where the order is kept. -/
theorem semanticDiff_eq (h : SameContent b b') (ht : target.Consistent) (hk : OrderKept b b' target) :
    semanticDiff b target = semanticDiff b' target := by
  have hkeys : (semanticDiff b target).changedKeyIds = (semanticDiff b' target).changedKeyIds :=
    (changedIds_eq_iff (fun _ _ => Codec.clientKeyRecord.enc_inj) (fun _ _ heq => heq)
      h.consistent.keys_nodup h.symm.consistent.keys_nodup ht.keys_nodup
      fun k => (h.keys_perm.map _).mem_iff).mpr
      (keptAlike_of_perm h.keys_perm h.consistent.keys_nodup)
  have hperm := h.policies_perm hk.policies
  have hpolicies : (semanticDiff b target).changedPolicyIds =
      (semanticDiff b' target).changedPolicyIds :=
    (changedIds_eq_iff (fun _ _ => Codec.keyPolicyRevision.enc_inj) (fun _ _ => TypedId.ext)
      h.consistent.policies_nodup h.symm.consistent.policies_nodup ht.policies_nodup
      fun k => (hperm.map _).mem_iff).mpr (keptAlike_of_perm hperm h.consistent.policies_nodup)
  have haccounts : (semanticDiff b target).changedAccountIds =
      (semanticDiff b' target).changedAccountIds :=
    (changedIds_eq_iff (fun _ _ => Codec.providerAccount.enc_inj) (fun _ _ => TypedId.ext)
      h.consistent.accounts_nodup h.symm.consistent.accounts_nodup ht.accounts_nodup
      fun k => (h.accounts_perm.map _).mem_iff).mpr
      (keptAlike_of_perm h.accounts_perm h.consistent.accounts_nodup)
  have hgroups := (h.changedGroups_iff ht).mpr hk.groups
  have hlegs := (h.changedLegs_iff ht).mpr hk.legs
  have hfeatures : (semanticDiff b target).requiredFeaturesChanged =
      (semanticDiff b' target).requiredFeaturesChanged := by
    simp only [semanticDiff, h.requiredFeatures_perm.mem_iff]
  simp only [SemanticDiff.mk.injEq, semanticDiff] at hkeys hpolicies haccounts hgroups hlegs hfeatures ⊢
  exact ⟨hkeys, hpolicies, haccounts, hgroups, hlegs, by rw [h.backendManifestHash_eq],
    by rw [h.minReader_eq], hfeatures⟩

end SameContent

/-! ## The plan from the other base -/

/-- The fields an accepted plan was built from. -/
theorem planChange_fields {h : Hashing} {base target : PolicyBundleV1} {source : Option String}
    {plan : ImpactPlan} (hbase : base.validate = .ok base) (htarget : target.validate = .ok target) :
    planChange h base target source = .ok plan ↔
      base.generation < target.generation ∧
      validateKeyRecordSetDelta base.keys target.keys
        (exactPolicyReassignments base.keys target.keys) = .ok () ∧
      ∃ fields impactHash, impactFields h base target source = .ok fields ∧
        hashJson h fields.enc impactDomain = .ok impactHash ∧ plan = { fields with impactHash } ∧
        plan.validate = .ok plan := by
  simp only [planChange, hbase, htarget, bind_eq_ok_iff, ofValidation_eq_ok_iff, require_eq_ok_iff,
    exists_unit_and_iff, Except.ok.injEq, exists_eq_left']
  constructor
  · rintro ⟨hlt, hdelta, fields, hfields, impactHash, hhash, hvalid⟩
    have heq := ImpactPlan.eq_of_validate hvalid
    exact ⟨hlt, hdelta, fields, impactHash, hfields, hhash, heq, heq ▸ hvalid⟩
  · rintro ⟨hlt, hdelta, fields, impactHash, hfields, hhash, rfl, hvalid⟩
    exact ⟨hlt, hdelta, fields, hfields, impactHash, hhash, hvalid⟩

/-- What `impactFields` reads of the base. -/
theorem impactFields_eq_ok_iff {h : Hashing} {base target : PolicyBundleV1} {source : Option String}
    {f : ImpactFields} :
    impactFields h base target source = .ok f ↔
      targetSource h target source = .ok f.sourceFingerprint ∧
      bundleContentHash h base = .ok f.baseBundleHash ∧
      sourceFingerprint h base = .ok f.baseSourceFingerprint ∧
      securityFence h base = .ok f.securityFence ∧ keySetFence h base = .ok f.keySetFence ∧
      bundleContentHash h target = .ok f.targetContentHash ∧
      affectedKeys base target (semanticDiff base target) = .ok f.affectedKeyIds ∧
      f.schemaVersion = 1 ∧ f.baseGeneration = base.generation ∧
      f.expectedKeyBindings = keyBindings base ∧ f.targetGeneration = target.generation ∧
      f.diff = semanticDiff base target := by
  simp only [impactFields, bind_eq_ok_iff, pure_eq_ok, Except.ok.injEq]
  constructor
  · rintro ⟨_, h₁, _, h₂, _, h₃, _, h₄, _, h₅, _, h₆, _, h₇, rfl⟩
    exact ⟨h₁, h₂, h₃, h₄, h₅, h₆, h₇, rfl, rfl, rfl, rfl, rfl⟩
  · obtain ⟨⟩ := f
    rintro ⟨h₁, h₂, h₃, h₄, h₅, h₆, h₇, rfl, rfl, rfl, rfl, rfl⟩
    exact ⟨_, h₁, _, h₂, _, h₃, _, h₄, _, h₅, _, h₆, _, h₇, rfl⟩

/-- The checks of `verify_against` on a valid bundle, with the fingerprint of the plan. -/
theorem verifyAgainst_eq_ok_iff {h : Hashing} {plan : ImpactPlan} {current : PolicyBundleV1}
    (hvalid : current.validate = .ok current) :
    plan.verifyAgainst h current (some plan.sourceFingerprint) = .ok () ↔
      current.generation = plan.baseGeneration ∧
      bundleContentHash h current = .ok plan.baseBundleHash ∧
      sourceFingerprint h current = .ok plan.baseSourceFingerprint ∧
      securityFence h current = .ok plan.securityFence ∧
      keySetFence h current = .ok plan.keySetFence ∧
      keyBindings current = plan.expectedKeyBindings := by
  simp only [ImpactPlan.verifyAgainst, hvalid, bind_eq_ok_iff, ofValidation_eq_ok_iff,
    require_eq_ok_iff, exists_unit_and_iff, Except.ok.injEq, exists_eq_left', and_true]
  constructor
  · rintro ⟨hgeneration, _, hbundle, rfl, _, hsource, rfl, _, hsecurity, rfl, _, hkeys, rfl, -, hbindings⟩
    exact ⟨hgeneration, hbundle, hsource, hsecurity, hkeys, hbindings⟩
  · rintro ⟨hgeneration, hbundle, hsource, hsecurity, hkeys, hbindings⟩
    exact ⟨hgeneration, _, hbundle, rfl, _, hsource, rfl, _, hsecurity, rfl, _, hkeys, rfl, (), hbindings⟩

namespace SameContent

variable {b b' target : PolicyBundleV1} {h : Hashing} {source : Option String} {plan : ImpactPlan}

/-- Where the order is kept, the other base gives the very same plan. -/
theorem planChange_eq (hs : SameContent b b') (ht : target.validate = .ok target)
    (hk : OrderKept b b' target) (hplan : planChange h b target source = .ok plan) :
    planChange h b' target source = .ok plan := by
  have hconsistent := (PolicyBundleV1.validate_eq_ok_self_iff.mp ht).2.2.2.2.2
  have hperm := hs.policies_perm hk.policies
  obtain ⟨hlt, hdelta, f, impactHash, hf, hhash, hplan, hvalid⟩ :=
    (planChange_fields hs.valid ht).mp hplan
  refine (planChange_fields hs.valid' ht).mpr ⟨hs.generation_eq ▸ hlt,
    hs.validateKeyRecordSetDelta_ok hdelta, f, impactHash, ?_, hhash, hplan, hvalid⟩
  obtain ⟨h₁, h₂, h₃, h₄, h₅, h₆, h₇, h₈, h₉, h₁₀, h₁₁, h₁₂⟩ := impactFields_eq_ok_iff.mp hf
  have hdiff := hs.semanticDiff_eq hconsistent hk
  refine impactFields_eq_ok_iff.mpr ⟨h₁, hs.bundleContentHash_eq h ▸ h₂,
    hs.sourceFingerprint_eq hperm h ▸ h₃, hs.securityFence_eq h ▸ h₄, hs.keySetFence_eq h ▸ h₅, h₆,
    ?_, h₈, h₉.trans hs.generation_eq, h₁₀.trans hs.keyBindings_eq, h₁₁, h₁₂.trans hdiff⟩
  rw [← hdiff]
  exact hs.affectedKeys_ok hperm h₇

/-- A plan is accepted against the base it was made from. -/
theorem verifyAgainst_base (hb : b.validate = .ok b) (ht : target.validate = .ok target)
    (hplan : planChange h b target source = .ok plan) :
    plan.verifyAgainst h b (some plan.sourceFingerprint) = .ok () := by
  obtain ⟨-, -, f, impactHash, hf, -, rfl, -⟩ := (planChange_fields hb ht).mp hplan
  obtain ⟨-, h₂, h₃, h₄, h₅, -, -, -, h₉, h₁₀, -, -⟩ := impactFields_eq_ok_iff.mp hf
  exact (verifyAgainst_eq_ok_iff hb).mpr ⟨h₉.symm, h₂, h₃, h₄, h₅, h₁₀.symm⟩

end SameContent

/-- **What a preview survives.** For two valid bases with the same canonical bytes and a plan made
from the first, the plan is accepted against the second, and planning from the second has the same
impact hash, exactly when the order is kept: inside every policy, and in a route group or a leg that
only one of the two orders shares with the target. -/
theorem preview_fresh_iff {h : Hashing} (base base' target : ValidatedBundle) {source : Option String}
    {plan : ImpactPlan} {bytes : Bytes}
    (hplan : planChange h base.bundle target.bundle source = .ok plan)
    (hbytes : canonicalBundleBytes base.bundle = .ok bytes)
    (hbytes' : canonicalBundleBytes base'.bundle = .ok bytes)
    (hsource : NoCollision h sourceDomain (sourceDocument base.bundle) (sourceDocument base'.bundle))
    (himpact : ∀ plan', planChange h base'.bundle target.bundle source = .ok plan' →
      NoCollision h impactDomain plan'.enc plan.enc) :
    Fresh h plan base'.bundle target.bundle source ↔
      OrderKept base.bundle base'.bundle target.bundle := by
  have hs : SameContent base.bundle base'.bundle := ⟨base.valid, base'.valid, bytes, hbytes, hbytes'⟩
  have hconsistent := (PolicyBundleV1.validate_eq_ok_self_iff.mp target.valid).2.2.2.2.2
  constructor
  · rintro ⟨hverify, plan', hplan', hhash⟩
    obtain ⟨-, -, hfingerprint, -⟩ := (verifyAgainst_eq_ok_iff base'.valid).mp hverify
    obtain ⟨-, -, f, impactHash, hf, hdigest, rfl, -⟩ := (planChange_fields base.valid target.valid).mp hplan
    obtain ⟨-, -, f', impactHash', hf', hdigest', rfl, -⟩ :=
      (planChange_fields base'.valid target.valid).mp hplan'
    obtain ⟨-, -, hfingerprint₀, -, -, -, -, -, -, -, -, hdiff⟩ := impactFields_eq_ok_iff.mp hf
    obtain ⟨-, -, -, -, -, -, -, -, -, -, -, hdiff'⟩ := impactFields_eq_ok_iff.mp hf'
    -- One digest is one text: of the sources, and of the impacts.
    have htext : serialize (sourceDocument base.bundle) = serialize (sourceDocument base'.bundle) :=
      hsource (hfingerprint₀.trans hfingerprint.symm)
    have htext' : serialize f'.enc = serialize f.enc := by
      refine himpact _ hplan' ?_
      show hashJson h f'.enc impactDomain = hashJson h f.enc impactDomain
      rw [hdigest, hdigest']
      exact congrArg Except.ok hhash
    rw [sourceFingerprint_eq_hashJson, hashJson] at hfingerprint₀
    simp only [bind_eq_ok_iff, ofCanonical_eq_ok_iff, hashJson] at hfingerprint₀ hdigest
    obtain ⟨p, hp, -⟩ := hfingerprint₀
    obtain ⟨p', hp', -⟩ := hdigest
    have hpolicies := policies_of_serialize hp (htext ▸ hp)
    obtain ⟨hgroups, hlegs⟩ := diff_of_serialize hp' (htext'.trans hp')
    rw [hdiff, hdiff'] at hgroups hlegs
    exact ⟨fun q hq => hpolicies.mem_iff.mp hq, (hs.changedGroups_iff hconsistent).mp hgroups,
      (hs.changedLegs_iff hconsistent).mp hlegs⟩
  · intro hk
    have hplan' := hs.planChange_eq target.valid hk hplan
    exact ⟨SameContent.verifyAgainst_base base'.valid target.valid hplan', plan, hplan', rfl⟩

/-! ## Reordered samples -/

/-- The sample bundle with one leg of these triggers, of which the policy grants some. -/
def triggerBundle (generation : Nat) (bindingRef : String) (granted carried : List RouteTrigger) :
    PolicyBundleV1 :=
  { rotatingBundle generation 1 2 with
    policies :=
      [{ samplePolicy with
         authorizedLegs :=
           [{ legId := sampleLegId, accountId := sampleAccountId, generationId := sampleDeployment,
              order := 1, allowedTriggers := granted, capabilities := chatCapabilities }] }]
    accounts := [{ sampleAccount with bindingRef }]
    routeGroups :=
      [{ sampleGroup with
         legs :=
           [{ legId := sampleLegId, order := 1, triggers := carried, accountId := sampleAccountId,
              generationId := sampleDeployment, capabilities := chatCapabilities }] }] }

/-- The digests of one plan over sample bundles: of its sources, its impact and its two bundles, which
differ at the first letter of the binding. -/
def planDigests (source : Bytes → String) (impact : String) (base target : BundleHash) : Hashing where
  content domain p :=
    if domain = sourceDomain then source p
    else if domain = impactDomain then impact
    else if domain = "llmmaxxing.security-fence.v1\x00" then
      "46c5030e2228c48635ddeb3663d60796e73124df8c75030e37c4f0fc218baaf0"
    else "3b3b67cc1fe41e8c2d9e07128209511646ac68d55cd43128d41a5aa377afb9b7"
  bundle p := if p[85]? = some 98 then base else target

/-- Digests where only the order of the granted triggers changes; the two sources differ at the first
letter of the first trigger. -/
def reorderedDigests : Hashing :=
  planDigests
    (fun p =>
      if p[130]? = some 112 then "006bd6c33d33b301cbc8f17c474d611841b554d96fcabc962cdfd96c32f5ae84"
      else "b46f7f7d44ebf1624ec1b18dbab35b9e143912f4da0a837c9a9667b4e2767d9f")
    "3f40017be3e277c4b1bf55013844a84b2259838dbe66c3031ff047685ae1bce8"
    ⟨"bh_d7365073c9b86a0f0c128871743dca8fe41c1d87f9c17ae8e4e117a731e95d40", by decide⟩ ⟨"bh_666cdf7bf9bc85477af1050f177d6882602d609cb8779fff2a6cdcd6b59b4c7c", by decide⟩

/-- Digests where the target drops a trigger of the leg. -/
def narrowedDigests : Hashing :=
  planDigests (fun _ => "688a59b1d0fc51daa310cf41edf1e42b197193493b09f1b829bbf8a7ab12c182")
    "9f6fb85c648fefca3f26da8e40c62a9fa51dc1a515da1ad9ba9367a8bba7e000"
    ⟨"bh_a086c5a1f62dec3b65129e78483529878800c4f32edaa6ab38480121c438598b", by decide⟩ ⟨"bh_b100354eac99cf2f1a0da468826c8231d6c1fc4e97e22fa960926f8f1ec81132", by decide⟩

/-- Valid bundles with one arrangement have one canonical text. -/
theorem canonicalBundleBytes_of_arrange_eq {b b' : PolicyBundleV1} (hb : b.validate = .ok b)
    (hb' : b'.validate = .ok b') (h : b.arrange = b'.arrange) {p : Bytes}
    (hp : canonicalBundleBytes b = .ok p) : canonicalBundleBytes b' = .ok p := by
  rw [PolicyBundleV1.canonicalBundleBytes_eq_ok_iff hb, h] at hp
  exact (PolicyBundleV1.canonicalBundleBytes_eq_ok_iff hb').mpr hp

/-- **A reload makes a preview stale.** The bundle read back from the canonical bytes of the base has
the same bytes, and the plan refuses it for its authoring source. -/
theorem reload_makes_preview_stale :
    ∃ plan bytes,
      planChange reorderedDigests
        (triggerBundle 1 "binding" [.primary, .capacitySpill] [.primary, .capacitySpill])
        (triggerBundle 2 "rebound" [.primary, .capacitySpill] [.primary, .capacitySpill]) none =
          .ok plan ∧
      canonicalBundleBytes
        (triggerBundle 1 "binding" [.primary, .capacitySpill] [.primary, .capacitySpill]) =
          .ok bytes ∧
      decodeBundle bytes =
        .ok (triggerBundle 1 "binding" [.capacitySpill, .primary] [.capacitySpill, .primary]) ∧
      canonicalBundleBytes
        (triggerBundle 1 "binding" [.capacitySpill, .primary] [.capacitySpill, .primary]) =
          .ok bytes ∧
      plan.verifyAgainst reorderedDigests
        (triggerBundle 1 "binding" [.capacitySpill, .primary] [.capacitySpill, .primary])
        (some plan.sourceFingerprint) = .error (.stalePreview "base authoring source changed") := by
  have hvalid : (triggerBundle 1 "binding" [.primary, .capacitySpill]
      [.primary, .capacitySpill]).validate = .ok (triggerBundle 1 "binding"
        [.primary, .capacitySpill] [.primary, .capacitySpill]) := by decide +kernel
  have hread : (triggerBundle 1 "binding" [.capacitySpill, .primary]
      [.capacitySpill, .primary]).validate = .ok (triggerBundle 1 "binding"
        [.capacitySpill, .primary] [.capacitySpill, .primary]) := by decide +kernel
  -- The reloaded bundle is the arrangement of the base, which is its own arrangement.
  have harrange : (triggerBundle 1 "binding" [.primary, .capacitySpill]
      [.primary, .capacitySpill]).arrange = triggerBundle 1 "binding"
        [.capacitySpill, .primary] [.capacitySpill, .primary] := by decide +kernel
  have hself : (triggerBundle 1 "binding" [.capacitySpill, .primary]
      [.capacitySpill, .primary]).arrange = triggerBundle 1 "binding"
        [.capacitySpill, .primary] [.capacitySpill, .primary] := by decide +kernel
  have hstale : (planChange reorderedDigests
      (triggerBundle 1 "binding" [.primary, .capacitySpill] [.primary, .capacitySpill])
      (triggerBundle 2 "rebound" [.primary, .capacitySpill] [.primary, .capacitySpill])
      none).toOption.map (fun plan => plan.verifyAgainst reorderedDigests
          (triggerBundle 1 "binding" [.capacitySpill, .primary] [.capacitySpill, .primary])
          (some plan.sourceFingerprint)) =
      some (.error (.stalePreview "base authoring source changed")) := by
    decide +kernel
  obtain ⟨plan, hok, hverify⟩ := Option.map_eq_some_iff.mp hstale
  have hplan := toOption_eq_some_iff.mp hok
  have htarget : (triggerBundle 2 "rebound" [.primary, .capacitySpill]
      [.primary, .capacitySpill]).validate = .ok (triggerBundle 2 "rebound"
        [.primary, .capacitySpill] [.primary, .capacitySpill]) := by decide +kernel
  obtain ⟨⟨bytes, hp⟩, -⟩ := planChange_eq_ok hvalid htarget hplan
  refine ⟨plan, bytes, hplan, hp, ?_, ?_, hverify⟩
  · rw [PolicyBundleV1.decodeBundle_canonical hvalid hp, harrange, hread]
  · exact canonicalBundleBytes_of_arrange_eq hvalid hread (harrange.trans hself.symm) hp

/-- A leg whose triggers the target narrows may list them in any order. -/
theorem reordered_leg_stays_fresh :
    ∃ plan, planChange narrowedDigests
        (triggerBundle 1 "binding" [.primary] [.primary, .capacitySpill])
        (triggerBundle 2 "rebound" [.primary] [.primary]) none = .ok plan ∧
      Fresh narrowedDigests plan (triggerBundle 1 "binding" [.primary] [.capacitySpill, .primary])
        (triggerBundle 2 "rebound" [.primary] [.primary]) none := by
  have hbase : (triggerBundle 1 "binding" [.primary] [.primary, .capacitySpill]).validate =
      .ok (triggerBundle 1 "binding" [.primary] [.primary, .capacitySpill]) := by decide +kernel
  have hbase' : (triggerBundle 1 "binding" [.primary] [.capacitySpill, .primary]).validate =
      .ok (triggerBundle 1 "binding" [.primary] [.capacitySpill, .primary]) := by decide +kernel
  have htarget : (triggerBundle 2 "rebound" [.primary] [.primary]).validate =
      .ok (triggerBundle 2 "rebound" [.primary] [.primary]) := by decide +kernel
  have harrange : (triggerBundle 1 "binding" [.primary] [.primary, .capacitySpill]).arrange =
      (triggerBundle 1 "binding" [.primary] [.capacitySpill, .primary]).arrange := by decide +kernel
  have hsome : (planChange narrowedDigests
      (triggerBundle 1 "binding" [.primary] [.primary, .capacitySpill])
      (triggerBundle 2 "rebound" [.primary] [.primary]) none).toOption.isSome = true := by
    decide +kernel
  obtain ⟨plan, hok⟩ := Option.isSome_iff_exists.mp hsome
  have hplan := toOption_eq_some_iff.mp hok
  obtain ⟨⟨bytes, hp⟩, -⟩ := planChange_eq_ok hbase htarget hplan
  have hp' := canonicalBundleBytes_of_arrange_eq hbase hbase' harrange hp
  have hkept : OrderKept (triggerBundle 1 "binding" [.primary] [.primary, .capacitySpill])
      (triggerBundle 1 "binding" [.primary] [.capacitySpill, .primary])
      (triggerBundle 2 "rebound" [.primary] [.primary]) := by
    refine ⟨by decide, fun g hg g' hg' _ => ?_, fun leg hleg leg' hleg' _ => ?_⟩
    · rw [List.mem_singleton.mp hg, List.mem_singleton.mp hg']
      decide
    · rw [List.mem_singleton.mp hleg, List.mem_singleton.mp hleg']
      decide
  have hsame := SameContent.planChange_eq ⟨hbase, hbase', bytes, hp, hp'⟩ htarget hkept hplan
  refine ⟨plan, hplan, (preview_fresh_iff ⟨_, hbase⟩ ⟨_, hbase'⟩ ⟨_, htarget⟩ hplan hp hp'
    (fun _ => rfl) fun plan' hplan' => ?_).mpr hkept⟩
  cases hplan'.symm.trans hsame
  exact fun _ => rfl

end LlmMaxxing
