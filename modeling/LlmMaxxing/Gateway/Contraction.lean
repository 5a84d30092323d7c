import LlmMaxxing.Core.Ceilings
import LlmMaxxing.Core.SampleBundle
import LlmMaxxing.Gateway.Queue

/-!
# Contractions the queue accepts (`WDRRQueue.contract`)

A waiter keeps the intersection of its admission ceiling with every ceiling published since, and
lowers its queue entry to it now and then. `contract` recomputes the intersection of the entry with
the new legs and compares: this holds for everything that was met from the entry, however many
publications lie between.
-/

namespace LlmMaxxing

open Check LeftMeet RequestAuthorizationCeiling

/-! ## Contracted legs -/

/-- Every leg of `d` contracts a leg of `c`. -/
def Contracts (c d : RequestAuthorizationCeiling) : Prop :=
  ∀ leg ∈ d.authorizedLegs, ∃ previous ∈ c.authorizedLegs,
    previous.identity = leg.identity ∧
      restrict AuthorizedLeg.meet AuthorizedLeg.Live previous leg = some leg

variable {c d e c₀ : RequestAuthorizationCeiling} {current : List RequestAuthorizationCeiling}

theorem Contracts.refl (h : Valid c) : Contracts c c := by
  intro leg hleg
  obtain ⟨-, -, -, hlegs, -⟩ := valid_iff.mp h
  refine ⟨leg, hleg, rfl, restrict_eq_some_iff.mpr ⟨?_, ?_⟩⟩
  · exact AuthorizedLeg.live_of_validate (hlegs leg hleg)
  · exact AuthorizedLeg.meet_self (hlegs leg hleg)

theorem Contracts.trans (h₁ : Contracts c d) (h₂ : Contracts d e) : Contracts c e := by
  intro leg hleg
  obtain ⟨middle, hmiddle, hidentity, hcontracts⟩ := h₂ leg hleg
  obtain ⟨first, hfirst, hidentity', hcontracts'⟩ := h₁ middle hmiddle
  exact ⟨first, hfirst, hidentity'.trans hidentity,
    contracts_trans AuthorizedLeg.leftMeet_meet hcontracts' hcontracts⟩

theorem contracts_meet (c d : RequestAuthorizationCeiling) : Contracts c (c.meet d) := by
  intro leg hleg
  obtain ⟨admitted, hadmitted, hmet⟩ := mem_meetLegs.mp hleg
  obtain ⟨candidate, -, hlive, rfl⟩ := meetLeg_eq_some_iff.mp hmet
  refine ⟨admitted, hadmitted, rfl, ?_⟩
  exact restrict_contracts AuthorizedLeg.leftMeet_meet (restrict_eq_some_iff.mpr ⟨hlive, rfl⟩)

/-- **The check of the queue passes** for what contracts a ceiling. -/
theorem legsContract_of_contracts (hc : Valid c) (h : Contracts c d) :
    WDRRQueue.legsContract c.authorizedLegs d.authorizedLegs = true := by
  obtain ⟨-, -, -, -, hunique, -⟩ := valid_iff.mp hc
  rw [WDRRQueue.legsContract, List.all_eq_true]
  intro leg hleg
  obtain ⟨previous, hprevious, hidentity, hcontracts⟩ := h leg hleg
  have hfound : legOf c.authorizedLegs leg.identity = some previous := by
    rw [← hidentity]
    exact legOf_of_mem hunique hprevious
  rw [legOf] at hfound
  rw [hfound]
  show (previous.intersection leg == some leg) = true
  rw [AuthorizedLeg.intersection_eq hidentity, hcontracts]
  exact beq_self_eq_true _

/-! ## Entries -/

/-- The entry has the service and the legs of a ceiling. -/
structure Carries (entry : QueueEntry) (c : RequestAuthorizationCeiling) : Prop where
  tier : entry.tier = c.queueTier
  weight : entry.weight = c.queueWeight
  legs : entry.authorizedLegs = c.authorizedLegs

/-- A queue entry is lowered to a ceiling below its own. -/
theorem contract_of_contracts {q : WDRRQueue} {r : RequestId} {item : Queued}
    (hitem : q.queued.get? r = some item) (hcarries : Carries item.entry c) (hc : Valid c)
    (hd : Valid d) (hcontracts : Contracts c d) (hbelow : d.Below c) (hlegs : d.authorizedLegs ≠ []) :
    ∃ entry q', q.contract r (some d.queueTier) (some d.queueWeight) (some d.authorizedLegs) =
        .ok (entry, q') ∧
      Carries entry d ∧ q'.queued.get? r = some ⟨entry, item.sequence⟩ := by
  obtain ⟨-, -, -, -, hunique, hweight, -⟩ := valid_iff.mp hd
  have hwell : EntryWellFormed item.entry.keyId d.queueWeight d.authorizedLegs :=
    ⟨item.entry.wellFormed.keyId_ne, item.entry.wellFormed.keyId_le, hweight.1, hweight.2, hlegs, hunique⟩
  have hcheck : QueueEntry.check item.entry.keyId d.queueWeight d.authorizedLegs = .ok ⟨hwell⟩ := by
    rw [QueueEntry.check, dif_pos ⟨hwell.keyId_ne, hwell.keyId_le⟩,
      dif_pos ⟨hwell.weight_pos, hwell.weight_le⟩, dif_pos hwell.legs_ne, dif_pos hwell.legs_nodup]
  have hservice : item.entry.tier ≤ d.queueTier ∧ d.queueWeight ≤ item.entry.weight := by
    rw [hcarries.tier, hcarries.weight]
    exact ⟨hbelow.tier, hbelow.weight⟩
  have haccepted : WDRRQueue.legsContract item.entry.authorizedLegs d.authorizedLegs = true := by
    rw [hcarries.legs]
    exact legsContract_of_contracts hc hcontracts
  unfold WDRRQueue.contract
  simp only [hitem, Option.getD_some, require, hservice, haccepted, and_self, if_true]
  rw [hcheck]
  refine ⟨_, _, rfl, ⟨rfl, rfl, rfl⟩, ?_⟩
  exact Dict.get?_insert_self _ _ _

/-! ## A waiter over its publications -/

/-- The queue and the effective ceiling of a waiter admitted under `c₀`: publications are met into
the ceiling, the entry is lowered to the ceiling while it has legs, and whatever else happens to the
queue leaves the entry alone. -/
inductive Waiting (r : RequestId) (c₀ : RequestAuthorizationCeiling) :
    WDRRQueue → RequestAuthorizationCeiling → Prop where
  | admitted {q : WDRRQueue} {item : Queued} (hitem : q.queued.get? r = some item)
      (hcarries : Carries item.entry c₀) : Waiting r c₀ q c₀
  | published {q : WDRRQueue} {c d c' : RequestAuthorizationCeiling} (h : Waiting r c₀ q c)
      (hd : Valid d) (hsame : c₀.sameIdentity d) (hmet : c.intersection d = .ok c') :
      Waiting r c₀ q c'
  | contracted {q q' : WDRRQueue} {c : RequestAuthorizationCeiling} {entry : QueueEntry}
      (h : Waiting r c₀ q c) (hlegs : c.authorizedLegs ≠ [])
      (hcontract : q.contract r (some c.queueTier) (some c.queueWeight) (some c.authorizedLegs) =
        .ok (entry, q')) : Waiting r c₀ q' c
  | elsewhere {q q' : WDRRQueue} {c : RequestAuthorizationCeiling} (h : Waiting r c₀ q c)
      (hsame : q'.queued.get? r = q.queued.get? r) : Waiting r c₀ q' c

/-- The entry carries a ceiling that the effective one was met from. -/
structure Lagging (r : RequestId) (c₀ : RequestAuthorizationCeiling) (q : WDRRQueue)
    (c : RequestAuthorizationCeiling) : Prop where
  identity : c.keyId = c₀.keyId ∧ c.credentialGeneration = c₀.credentialGeneration ∧
    c.policyId = c₀.policyId ∧ c.routeGroupId = c₀.routeGroupId
  valid : Valid c
  entry : ∃ item carried, q.queued.get? r = some item ∧ Carries item.entry carried ∧ Valid carried ∧
    Contracts carried c ∧ c.Below carried

theorem Waiting.lagging {r : RequestId} {q : WDRRQueue} (h : Waiting r c₀ q c) (h₀ : Valid c₀) :
    Lagging r c₀ q c := by
  induction h with
  | @admitted q item hitem hcarries =>
    exact ⟨⟨rfl, rfl, rfl, rfl⟩, h₀, item, c₀, hitem, hcarries, h₀, .refl h₀, .refl c₀⟩
  | @published q c d c' _ hd hsame hmet ih =>
    obtain ⟨hidentity, hc, item, carried, hitem, hcarries, hvalid, hcontracts, hbelow⟩ := ih
    have hcd : c.sameIdentity d := by
      obtain ⟨hkey, hcredential, hpolicy, hgroup⟩ := hidentity
      rw [sameIdentity, hkey, hcredential, hpolicy, hgroup]
      exact hsame
    rw [intersection_eq hc hd hcd] at hmet
    cases hmet
    exact ⟨hidentity, valid_meet hc hd, item, carried, hitem, hcarries, hvalid,
      hcontracts.trans (contracts_meet c d), (meet_below_left c d).trans hbelow⟩
  | @contracted q q' c entry _ hlegs hcontract ih =>
    obtain ⟨hidentity, hc, item, carried, hitem, hcarries, hvalid, hcontracts, hbelow⟩ := ih
    obtain ⟨entry', q'', hcontract', hcarries', hget⟩ :=
      contract_of_contracts hitem hcarries hvalid hc hcontracts hbelow hlegs
    rw [hcontract'] at hcontract
    cases hcontract
    exact ⟨hidentity, hc, _, c, hget, hcarries', hc, .refl hc, .refl c⟩
  | @elsewhere q q' c _ hsame ih =>
    obtain ⟨hidentity, hc, item, carried, hitem, hrest⟩ := ih
    exact ⟨hidentity, hc, item, carried, hsame.trans hitem, hrest⟩

/-- **The queue never refuses the effective ceiling of a waiter.** -/
theorem Waiting.contract_ok {r : RequestId} {q : WDRRQueue} (h : Waiting r c₀ q c) (h₀ : Valid c₀)
    (hlegs : c.authorizedLegs ≠ []) :
    ∃ entry q', q.contract r (some c.queueTier) (some c.queueWeight) (some c.authorizedLegs) =
      .ok (entry, q') := by
  obtain ⟨-, hc, item, carried, hitem, hcarries, hvalid, hcontracts, hbelow⟩ := h.lagging h₀
  obtain ⟨entry, q', hcontract, -⟩ :=
    contract_of_contracts hitem hcarries hvalid hc hcontracts hbelow hlegs
  exact ⟨entry, q', hcontract⟩

/-! ## The semilattice of ceilings -/

/-- `c` is what `c₀` contracts to under the ceilings `current`, in any order. -/
structure ContractsTo (c₀ : RequestAuthorizationCeiling) (current : List RequestAuthorizationCeiling)
    (c : RequestAuthorizationCeiling) : Prop where
  folded : c₀.intersections current = .ok c
  below_admitted : c.Below c₀
  below_current : ∀ d ∈ current, c.Below d
  idempotent : c.intersection c = .ok c ∧ c.intersections current = .ok c
  any_order : ∀ current', current.Perm current' → c₀.intersections current' = .ok c
  accepted : ∀ r q c', Waiting r c₀ q c' → c'.authorizedLegs ≠ [] →
    ∃ entry q', q.contract r (some c'.queueTier) (some c'.queueWeight) (some c'.authorizedLegs) =
      .ok (entry, q')

/-- **Ceilings of one identity contract to one ceiling below them all, which the queue accepts.** -/
theorem ceilings_contract (h : Chain c₀ current) : ∃ c, ContractsTo c₀ current c := by
  obtain ⟨hadmitted, hcurrent⟩ := foldl_meet_below c₀ current
  refine ⟨current.foldl RequestAuthorizationCeiling.meet c₀, h.intersections_eq, hadmitted, hcurrent,
    ⟨?_, ?_⟩, fun current' hperm => ?_, fun r q c' hwaiting => hwaiting.contract_ok h.1⟩
  · rw [intersection_eq h.valid h.valid ⟨rfl, rfl, rfl, rfl⟩, meet_self h.valid]
  · have hchain : Chain (current.foldl RequestAuthorizationCeiling.meet c₀) current :=
      ⟨h.valid, fun d hd => ⟨(h.2 d hd).1, (foldl_meet_sameIdentity c₀ current).mpr (h.2 d hd).2⟩⟩
    rw [hchain.intersections_eq, foldl_meet_again]
  · have hchain : Chain c₀ current' := ⟨h.1, fun d hd => h.2 d (hperm.mem_iff.mpr hd)⟩
    rw [hchain.intersections_eq, foldl_meet_perm hperm]

/-! ### A ceiling and a narrower one -/

/-- Two triggers and two endpoints on the one leg. -/
def wideLeg : AuthorizedLeg :=
  { legId := sampleLegId, accountId := sampleAccountId, generationId := sampleDeployment, order := 1
    allowedTriggers := [.primary, .capacitySpill]
    capabilities := { chatCapabilities with endpoints := [.chat, .text] } }

/-- An admission ceiling of tier 1 and weight 4. -/
def wideCeiling : RequestAuthorizationCeiling where
  keyId := "0000000000000000000000000000000a"
  credentialGeneration := 1
  policyId := samplePolicyId
  bundleGeneration := 1
  bundleHash := TypedId.numbered .bundleHash 1
  routeGroupId := sampleGroupId
  authorizedLegs := [wideLeg]
  queueTier := 1
  queueWeight := 4
  maxConcurrency := 2
  maxWaiters := 2
  deadlineMs := 1_000

/-- A later ceiling: another order of the triggers, fewer endpoints, less service. -/
def narrowCeiling : RequestAuthorizationCeiling :=
  { wideCeiling with
    bundleGeneration := 2
    authorizedLegs := [{ wideLeg with
      allowedTriggers := [.capacitySpill, .primary]
      capabilities := { chatCapabilities with endpoints := [.text], contextTokens := 1 } }]
    queueTier := 2
    queueWeight := 1 }

theorem wide_contracts_to_narrow :
    Chain wideCeiling [narrowCeiling] ∧ ∃ c, ContractsTo wideCeiling [narrowCeiling] c := by
  have hchain : Chain wideCeiling [narrowCeiling] := by
    refine ⟨by decide +kernel, fun d hd => ?_⟩
    obtain rfl := List.mem_singleton.mp hd
    exact ⟨by decide +kernel, by decide⟩
  exact ⟨hchain, ceilings_contract hchain⟩

end LlmMaxxing
