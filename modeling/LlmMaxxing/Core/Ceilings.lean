import LlmMaxxing.Core.Validated
import LlmMaxxing.Lib.PartialMeet

/-!
# Ceilings only contract (`core/models.py`)

The three intersections are one construction: every component is met on its own, the order of the
left argument is kept, and a leg whose met endpoints, modalities or triggers are empty is dropped.
`meet` is the record without that test. It satisfies the laws of `LeftMeet`, is below both arguments
in every component, and a meet of valid ceilings of one identity is valid, so that folding any
number of them never raises and does not depend on their order.
-/

namespace LlmMaxxing

open Check LeftMeet

/-! ## Capabilities -/

namespace LegCapabilities

/-- The components of `intersection`. -/
def meet (c other : LegCapabilities) : LegCapabilities where
  endpoints := c.endpoints.filter (· ∈ other.endpoints)
  modalities := c.modalities.filter (· ∈ other.modalities)
  contextTokens := min c.contextTokens other.contextTokens
  tools := c.tools && other.tools
  forcedTool := (c.tools && other.tools) && c.forcedTool && other.forcedTool
  responseSchema := c.responseSchema && other.responseSchema
  streaming := c.streaming && other.streaming
  reasoning := c.reasoning && other.reasoning
  historyContinuation := c.historyContinuation && other.historyContinuation
  shadow := c.shadow || other.shadow

/-- Something can be served. -/
def Live (c : LegCapabilities) : Prop := c.endpoints ≠ [] ∧ c.modalities ≠ []

instance : DecidablePred Live := fun _ => inferInstanceAs (Decidable (_ ∧ _))

/-- At most the capabilities of `d`; a shadow grant is less than a serving one. -/
structure Below (c d : LegCapabilities) : Prop where
  endpoints : c.endpoints ⊆ d.endpoints
  modalities : c.modalities ⊆ d.modalities
  contextTokens : c.contextTokens ≤ d.contextTokens
  tools : c.tools ≤ d.tools
  forcedTool : c.forcedTool ≤ d.forcedTool
  responseSchema : c.responseSchema ≤ d.responseSchema
  streaming : c.streaming ≤ d.streaming
  reasoning : c.reasoning ≤ d.reasoning
  historyContinuation : c.historyContinuation ≤ d.historyContinuation
  shadow : d.shadow ≤ c.shadow

variable {c d e : LegCapabilities}

theorem intersection_eq (c other : LegCapabilities) :
    c.intersection other = restrict meet Live c other := by
  unfold intersection restrict
  by_cases hlive : Live (c.meet other)
  · rw [if_pos hlive, if_neg (by rw [not_or]; exact hlive)]
    rfl
  · rw [if_neg hlive, if_pos]
    rwa [Live, not_and_or, not_not, not_not] at hlive

theorem leftMeet_meet : LeftMeet meet where
  assoc a b c := by
    simp only [meet, mk.injEq]
    refine ⟨leftMeet_filter.assoc _ _ _, leftMeet_filter.assoc _ _ _, Nat.min_assoc _ _ _,
      Bool.and_assoc _ _ _, ?_, Bool.and_assoc _ _ _, Bool.and_assoc _ _ _, Bool.and_assoc _ _ _,
      Bool.and_assoc _ _ _, Bool.or_assoc _ _ _⟩
    cases a.tools <;> cases b.tools <;> cases c.tools <;> simp [Bool.and_assoc]
  right_comm a b c := by
    simp only [meet, mk.injEq]
    refine ⟨leftMeet_filter.right_comm _ _ _, leftMeet_filter.right_comm _ _ _,
      Nat.min_right_comm _ _ _, Bool.and_right_comm _ _ _, ?_, Bool.and_right_comm _ _ _,
      Bool.and_right_comm _ _ _, Bool.and_right_comm _ _ _, Bool.and_right_comm _ _ _,
      Bool.or_right_comm _ _ _⟩
    cases a.tools <;> cases b.tools <;> cases c.tools <;> simp [Bool.and_right_comm]
  absorb a b := by
    simp only [meet, mk.injEq]
    refine ⟨leftMeet_filter.absorb _ _, leftMeet_filter.absorb _ _, by omega,
      Bool.and_self_left _ _, ?_, Bool.and_self_left _ _, Bool.and_self_left _ _, Bool.and_self_left _ _,
      Bool.and_self_left _ _, Bool.or_self_left _ _⟩
    cases a.tools <;> cases b.tools <;> simp
  again a b := by
    simp only [meet, mk.injEq]
    refine ⟨leftMeet_filter.again _ _, leftMeet_filter.again _ _, by omega,
      Bool.and_self_right _ _, ?_, Bool.and_self_right _ _, Bool.and_self_right _ _,
      Bool.and_self_right _ _, Bool.and_self_right _ _, Bool.or_self_right _ _⟩
    cases a.tools <;> cases b.tools <;> simp

theorem live_of_meet (h : Live (c.meet d)) : Live c := by
  refine ⟨fun hnil => h.1 ?_, fun hnil => h.2 ?_⟩
  · simp [meet, hnil]
  · simp [meet, hnil]

theorem Below.refl (c : LegCapabilities) : Below c c :=
  ⟨List.Subset.refl _, List.Subset.refl _, le_rfl, le_rfl, le_rfl, le_rfl, le_rfl, le_rfl, le_rfl, le_rfl⟩

theorem Below.trans (h₁ : Below c d) (h₂ : Below d e) : Below c e :=
  ⟨List.Subset.trans h₁.endpoints h₂.endpoints, List.Subset.trans h₁.modalities h₂.modalities,
    h₁.contextTokens.trans h₂.contextTokens, h₁.tools.trans h₂.tools,
    h₁.forcedTool.trans h₂.forcedTool, h₁.responseSchema.trans h₂.responseSchema,
    h₁.streaming.trans h₂.streaming, h₁.reasoning.trans h₂.reasoning,
    h₁.historyContinuation.trans h₂.historyContinuation, h₂.shadow.trans h₁.shadow⟩

theorem meet_below_left (c d : LegCapabilities) : Below (c.meet d) c where
  endpoints := List.filter_subset_self _
  modalities := List.filter_subset_self _
  contextTokens := Nat.min_le_left _ _
  tools := Bool.and_le_left _ _
  forcedTool := (Bool.and_le_left _ _).trans (Bool.and_le_right _ _)
  responseSchema := Bool.and_le_left _ _
  streaming := Bool.and_le_left _ _
  reasoning := Bool.and_le_left _ _
  historyContinuation := Bool.and_le_left _ _
  shadow := Bool.left_le_or _ _

theorem meet_below_right (c d : LegCapabilities) : Below (c.meet d) d where
  endpoints x hx := by simpa using (List.mem_filter.mp hx).2
  modalities x hx := by simpa using (List.mem_filter.mp hx).2
  contextTokens := Nat.min_le_right _ _
  tools := Bool.and_le_right _ _
  forcedTool := Bool.and_le_right _ _
  responseSchema := Bool.and_le_right _ _
  streaming := Bool.and_le_right _ _
  reasoning := Bool.and_le_right _ _
  historyContinuation := Bool.and_le_right _ _
  shadow := Bool.right_le_or _ _

/-- A met forced-tool bit has its tool bit. -/
theorem validate_meet (hc : c.validate = .ok ()) (hd : d.validate = .ok ()) (hlive : Live (c.meet d)) :
    (c.meet d).validate = .ok () := by
  rw [validate_eq_ok_iff] at hc hd ⊢
  refine ⟨hlive.1, hc.2.1.filter _, hlive.2, hc.2.2.2.1.filter _, ?_, fun hforced => ?_⟩
  · exact Nat.lt_min.mpr ⟨hc.2.2.2.2.1, hd.2.2.2.2.1⟩
  · simp only [meet, Bool.and_eq_true] at hforced ⊢
    exact hforced.1.1

theorem meet_self (hc : c.validate = .ok ()) : c.meet c = c := by
  have hforced := (validate_eq_ok_iff.mp hc).2.2.2.2.2
  obtain ⟨endpoints, modalities, contextTokens, tools, forcedTool, _⟩ := c
  simp only [meet, mk.injEq, Bool.and_self, Bool.or_self, Nat.min_self, and_true, true_and]
  refine ⟨List.filter_eq_self.mpr fun x hx => decide_eq_true hx,
    List.filter_eq_self.mpr fun x hx => decide_eq_true hx, ?_⟩
  cases forcedTool with
  | false => simp
  | true => simp [show tools = true from hforced rfl]

end LegCapabilities

/-! ## Legs -/

namespace AuthorizedLeg

/-- The components of `intersection`. -/
def meet (leg other : AuthorizedLeg) : AuthorizedLeg :=
  { leg with
    allowedTriggers := leg.allowedTriggers.filter (· ∈ other.allowedTriggers)
    capabilities := leg.capabilities.meet other.capabilities }

/-- The leg can still be used. -/
def Live (leg : AuthorizedLeg) : Prop := leg.allowedTriggers ≠ [] ∧ leg.capabilities.Live

instance : DecidablePred Live := fun _ => inferInstanceAs (Decidable (_ ∧ _))

/-- The same leg with at most the authority of `other`. -/
structure Below (leg other : AuthorizedLeg) : Prop where
  identity : leg.identity = other.identity
  triggers : leg.allowedTriggers ⊆ other.allowedTriggers
  capabilities : leg.capabilities.Below other.capabilities

variable {leg other third : AuthorizedLeg}

@[simp] theorem identity_meet (leg other : AuthorizedLeg) : (leg.meet other).identity = leg.identity :=
  rfl

/-- Of one identity, `intersection` is the restricted meet. -/
theorem intersection_eq (h : leg.identity = other.identity) :
    leg.intersection other = restrict meet Live leg other := by
  unfold intersection
  rw [if_pos h, LegCapabilities.intersection_eq]
  by_cases hcapabilities : (leg.capabilities.meet other.capabilities).Live
  · rw [restrict, if_pos hcapabilities]
    by_cases htriggers : leg.allowedTriggers.filter (· ∈ other.allowedTriggers) = []
    · have hdead : ¬ Live (leg.meet other) := fun hlive => hlive.1 htriggers
      simp only [restrict, if_neg hdead, htriggers, if_true]
    · have hlive : Live (leg.meet other) := ⟨htriggers, hcapabilities⟩
      simp only [restrict, if_pos hlive, if_neg htriggers]
      rfl
  · have hdead : ¬ Live (leg.meet other) := fun hlive => hcapabilities hlive.2
    simp only [restrict, if_neg hcapabilities, if_neg hdead]

theorem leftMeet_meet : LeftMeet meet where
  assoc a b c := by
    simp only [meet, mk.injEq, true_and]
    exact ⟨leftMeet_filter.assoc _ _ _, LegCapabilities.leftMeet_meet.assoc _ _ _⟩
  right_comm a b c := by
    simp only [meet, mk.injEq, true_and]
    exact ⟨leftMeet_filter.right_comm _ _ _, LegCapabilities.leftMeet_meet.right_comm _ _ _⟩
  absorb a b := by
    simp only [meet, mk.injEq, true_and]
    exact ⟨leftMeet_filter.absorb _ _, LegCapabilities.leftMeet_meet.absorb _ _⟩
  again a b := by
    simp only [meet, mk.injEq, true_and]
    exact ⟨leftMeet_filter.again _ _, LegCapabilities.leftMeet_meet.again _ _⟩

theorem live_of_meet (leg other : AuthorizedLeg) (h : Live (leg.meet other)) : Live leg := by
  refine ⟨fun hnil => h.1 ?_, LegCapabilities.live_of_meet h.2⟩
  simp [meet, hnil]

theorem Below.refl (leg : AuthorizedLeg) : Below leg leg :=
  ⟨rfl, List.Subset.refl _, LegCapabilities.Below.refl _⟩

theorem Below.trans (h₁ : Below leg other) (h₂ : Below other third) : Below leg third :=
  ⟨h₁.identity.trans h₂.identity, List.Subset.trans h₁.triggers h₂.triggers,
    h₁.capabilities.trans h₂.capabilities⟩

theorem meet_below_left (leg other : AuthorizedLeg) : Below (leg.meet other) leg :=
  ⟨rfl, List.filter_subset_self _, LegCapabilities.meet_below_left _ _⟩

theorem meet_below_right (h : leg.identity = other.identity) : Below (leg.meet other) other :=
  ⟨h, fun x hx => by simpa using (List.mem_filter.mp hx).2, LegCapabilities.meet_below_right _ _⟩

theorem validate_meet (hleg : leg.validate = .ok ()) (hother : other.validate = .ok ())
    (hlive : Live (leg.meet other)) : (leg.meet other).validate = .ok () := by
  rw [validate_eq_ok_iff] at hleg hother ⊢
  exact ⟨hleg.1, hlive.1, hleg.2.2.1.filter _,
    LegCapabilities.validate_meet hleg.2.2.2 hother.2.2.2 hlive.2⟩

theorem meet_self (h : leg.validate = .ok ()) : leg.meet leg = leg := by
  have hcapabilities := LegCapabilities.meet_self (validate_eq_ok_iff.mp h).2.2.2
  simp only [meet, hcapabilities]
  congr 1
  exact List.filter_eq_self.mpr fun x hx => decide_eq_true hx

theorem live_of_validate (h : leg.validate = .ok ()) : Live leg := by
  obtain ⟨-, htriggers, -, hcapabilities⟩ := validate_eq_ok_iff.mp h
  obtain ⟨hendpoints, -, hmodalities, -⟩ := LegCapabilities.validate_eq_ok_iff.mp hcapabilities
  exact ⟨htriggers, hendpoints, hmodalities⟩

end AuthorizedLeg

/-! ## Lists of legs -/

/-- The leg of an identity, as in the source's dictionary. -/
def legOf (legs : List AuthorizedLeg) (identity : LegIdentity) : Option AuthorizedLeg :=
  legs.reverse.find? fun leg => leg.identity = identity

variable {legs others : List AuthorizedLeg} {leg other : AuthorizedLeg}

theorem identity_of_legOf {identity : LegIdentity} (h : legOf legs identity = some leg) :
    leg ∈ legs ∧ leg.identity = identity := by
  have hmem := List.mem_of_find?_eq_some h
  have hidentity := List.find?_some h
  exact ⟨List.mem_reverse.mp hmem, by simpa using hidentity⟩

/-- With unique leg ids a leg is found under its own identity. -/
theorem legOf_of_mem (hunique : (legs.map AuthorizedLeg.legId).Nodup) (hleg : leg ∈ legs) :
    legOf legs leg.identity = some leg := by
  cases hfound : legOf legs leg.identity with
  | none =>
    have hnone := List.find?_eq_none.mp hfound leg (List.mem_reverse.mpr hleg)
    simp at hnone
  | some found =>
    obtain ⟨hmem, hidentity⟩ := identity_of_legOf hfound
    have hid : found.legId = leg.legId := congrArg LegIdentity.legId hidentity
    rw [List.inj_on_of_nodup_map hunique hmem hleg hid]

namespace RequestAuthorizationCeiling

/-- One leg met with the leg of its identity. -/
def meetLeg (others : List AuthorizedLeg) (admitted : AuthorizedLeg) : Option AuthorizedLeg :=
  (legOf others admitted.identity).bind admitted.intersection

theorem meetLegs_eq (legs others : List AuthorizedLeg) :
    meetLegs legs others = legs.filterMap (meetLeg others) := by
  refine List.filterMap_congr fun admitted _ => ?_
  rw [meetLeg, legOf]
  cases others.reverse.find? fun leg => leg.identity = admitted.identity <;> rfl

/-- What a met leg is. -/
theorem meetLeg_eq_some_iff : meetLeg others leg = some other ↔
    ∃ candidate, legOf others leg.identity = some candidate ∧ other.Live ∧
      leg.meet candidate = other := by
  rw [meetLeg, Option.bind_eq_some_iff]
  refine exists_congr fun candidate => and_congr_right fun hfound => ?_
  rw [AuthorizedLeg.intersection_eq (identity_of_legOf hfound).2.symm, restrict_eq_some_iff]

theorem meetLeg_identity (h : meetLeg others leg = some other) : other.identity = leg.identity := by
  obtain ⟨candidate, -, -, rfl⟩ := meetLeg_eq_some_iff.mp h
  rfl

/-- A met leg is looked up under the identity it had before. -/
theorem meetLeg_bind {first second : List AuthorizedLeg} {x y : AuthorizedLeg}
    (hx : legOf first leg.identity = some x) (hy : legOf second leg.identity = some y) :
    (meetLeg first leg).bind (meetLeg second) =
      (restrict AuthorizedLeg.meet AuthorizedLeg.Live leg x).bind
        fun met => restrict AuthorizedLeg.meet AuthorizedLeg.Live met y := by
  have hidentity := (identity_of_legOf hx).2
  rw [meetLeg, hx, Option.bind_some, AuthorizedLeg.intersection_eq hidentity.symm]
  refine Option.bind_congr fun met hmet => ?_
  obtain ⟨-, rfl⟩ := restrict_eq_some_iff.mp hmet
  rw [meetLeg, AuthorizedLeg.identity_meet, hy, Option.bind_some]
  exact AuthorizedLeg.intersection_eq (identity_of_legOf hy).2.symm

/-- **Legs can be met in any order.** -/
theorem meetLeg_right_comm (first second : List AuthorizedLeg) (leg : AuthorizedLeg) :
    (meetLeg first leg).bind (meetLeg second) = (meetLeg second leg).bind (meetLeg first) := by
  have hnone : ∀ first second : List AuthorizedLeg, legOf second leg.identity = none →
      (meetLeg first leg).bind (meetLeg second) = none := by
    intro first second hy
    rw [Option.bind_eq_none_iff]
    intro met hmet
    rw [meetLeg, meetLeg_identity hmet, hy, Option.bind_none]
  cases hx : legOf first leg.identity with
  | none =>
    rw [hnone second first hx, meetLeg, hx]
    rfl
  | some x =>
    cases hy : legOf second leg.identity with
    | none =>
      rw [hnone first second hy, meetLeg.eq_def second, hy]
      rfl
    | some y =>
      rw [meetLeg_bind hx hy, meetLeg_bind hy hx]
      exact restrict_right_comm AuthorizedLeg.leftMeet_meet AuthorizedLeg.live_of_meet leg x y

theorem meetLegs_right_comm (legs first second : List AuthorizedLeg) :
    meetLegs (meetLegs legs first) second = meetLegs (meetLegs legs second) first := by
  rw [meetLegs_eq, meetLegs_eq, meetLegs_eq, meetLegs_eq, List.filterMap_filterMap,
    List.filterMap_filterMap]
  exact List.filterMap_congr fun leg _ => meetLeg_right_comm first second leg

/-! ## Ceilings -/

/-- The components of `intersection`. -/
def meet (c other : RequestAuthorizationCeiling) : RequestAuthorizationCeiling :=
  { c with
    authorizedLegs := meetLegs c.authorizedLegs other.authorizedLegs
    queueTier := max c.queueTier other.queueTier
    queueWeight := min c.queueWeight other.queueWeight
    maxConcurrency := min c.maxConcurrency other.maxConcurrency
    maxWaiters := min c.maxWaiters other.maxWaiters
    deadlineMs := min c.deadlineMs other.deadlineMs }

/-- A ceiling as it is constructed. -/
def Valid (c : RequestAuthorizationCeiling) : Prop := c.validate = .ok c

instance : DecidablePred Valid := fun c => inferInstanceAs (Decidable (c.validate = .ok c))

/-- At most the authority and the service of `d`. -/
structure Below (c d : RequestAuthorizationCeiling) : Prop where
  legs : ∀ leg ∈ c.authorizedLegs, ∃ leg' ∈ d.authorizedLegs, leg.Below leg'
  tier : d.queueTier ≤ c.queueTier
  weight : c.queueWeight ≤ d.queueWeight
  concurrency : c.maxConcurrency ≤ d.maxConcurrency
  waiters : c.maxWaiters ≤ d.maxWaiters
  deadline : c.deadlineMs ≤ d.deadlineMs

variable {c d e : RequestAuthorizationCeiling}

theorem Below.refl (c : RequestAuthorizationCeiling) : Below c c :=
  ⟨fun leg hleg => ⟨leg, hleg, .refl leg⟩, le_rfl, le_rfl, le_rfl, le_rfl, le_rfl⟩

theorem Below.trans (h₁ : Below c d) (h₂ : Below d e) : Below c e := by
  refine ⟨fun leg hleg => ?_, h₂.tier.trans h₁.tier, h₁.weight.trans h₂.weight,
    h₁.concurrency.trans h₂.concurrency, h₁.waiters.trans h₂.waiters,
    h₁.deadline.trans h₂.deadline⟩
  obtain ⟨leg', hleg', hbelow⟩ := h₁.legs leg hleg
  obtain ⟨leg'', hleg'', hbelow'⟩ := h₂.legs leg' hleg'
  exact ⟨leg'', hleg'', hbelow.trans hbelow'⟩

theorem mem_meetLegs : other ∈ meetLegs legs others ↔ ∃ leg ∈ legs, meetLeg others leg = some other := by
  rw [meetLegs_eq, List.mem_filterMap]

theorem meet_below_left (c d : RequestAuthorizationCeiling) : Below (c.meet d) c := by
  refine ⟨fun leg hleg => ?_, le_max_left _ _, Nat.min_le_left _ _, Nat.min_le_left _ _,
    Nat.min_le_left _ _, Nat.min_le_left _ _⟩
  obtain ⟨admitted, hadmitted, hmet⟩ := mem_meetLegs.mp hleg
  obtain ⟨candidate, -, -, rfl⟩ := meetLeg_eq_some_iff.mp hmet
  exact ⟨admitted, hadmitted, AuthorizedLeg.meet_below_left admitted candidate⟩

theorem meet_below_right (c d : RequestAuthorizationCeiling) : Below (c.meet d) d := by
  refine ⟨fun leg hleg => ?_, le_max_right _ _, Nat.min_le_right _ _, Nat.min_le_right _ _,
    Nat.min_le_right _ _, Nat.min_le_right _ _⟩
  obtain ⟨admitted, -, hmet⟩ := mem_meetLegs.mp hleg
  obtain ⟨candidate, hfound, -, rfl⟩ := meetLeg_eq_some_iff.mp hmet
  obtain ⟨hmem, hidentity⟩ := identity_of_legOf hfound
  exact ⟨candidate, hmem, AuthorizedLeg.meet_below_right hidentity.symm⟩

theorem meet_right_comm (c d e : RequestAuthorizationCeiling) :
    (c.meet d).meet e = (c.meet e).meet d := by
  simp only [meet, mk.injEq, true_and]
  exact ⟨meetLegs_right_comm _ _ _, max_right_comm _ _ _, min_right_comm _ _ _, min_right_comm _ _ _,
    min_right_comm _ _ _, min_right_comm _ _ _⟩

theorem meetLeg_again (others : List AuthorizedLeg) (leg : AuthorizedLeg) :
    (meetLeg others leg).bind (meetLeg others) = meetLeg others leg := by
  cases hfound : legOf others leg.identity with
  | none =>
    rw [meetLeg, hfound]
    rfl
  | some candidate =>
    have hidentity := (identity_of_legOf hfound).2
    rw [meetLeg_bind hfound hfound,
      restrict_again AuthorizedLeg.leftMeet_meet AuthorizedLeg.live_of_meet, meetLeg, hfound,
      Option.bind_some, AuthorizedLeg.intersection_eq hidentity.symm]

theorem meet_again (c d : RequestAuthorizationCeiling) : (c.meet d).meet d = c.meet d := by
  have hlegs : meetLegs (meetLegs c.authorizedLegs d.authorizedLegs) d.authorizedLegs =
      meetLegs c.authorizedLegs d.authorizedLegs := by
    rw [meetLegs_eq, meetLegs_eq, List.filterMap_filterMap]
    exact List.filterMap_congr fun leg _ => meetLeg_again d.authorizedLegs leg
  simp only [meet, hlegs, max_eq_left, min_eq_left, le_max_right, Nat.min_le_right]

/-! ## Validity -/

theorem valid_iff : Valid c ↔ isHex32 c.keyId = true ∧ 1 ≤ c.credentialGeneration ∧
    1 ≤ c.bundleGeneration ∧ (∀ leg ∈ c.authorizedLegs, leg.validate = .ok ()) ∧
    (c.authorizedLegs.map AuthorizedLeg.legId).Nodup ∧
    (1 ≤ c.queueWeight ∧ c.queueWeight ≤ 64) ∧ 1 ≤ c.maxConcurrency ∧
    (1 ≤ c.deadlineMs ∧ c.deadlineMs ≤ maxDeadlineMs) ∧
    c.authorizedLegs.Pairwise fun a b => a.sortKey ≤ b.sortKey := by
  have hsorted : { c with authorizedLegs := sortOn AuthorizedLeg.sortKey c.authorizedLegs } = c ↔
      c.authorizedLegs.Pairwise fun a b => a.sortKey ≤ b.sortKey := by
    constructor
    · intro h
      have hlegs : sortOn AuthorizedLeg.sortKey c.authorizedLegs = c.authorizedLegs :=
        congrArg authorizedLegs h
      rw [← hlegs]
      exact SortOn.pairwise _ _
    · intro h
      rw [SortOn.eq_self _ h]
  rw [Valid, validate_eq_ok_iff, hsorted]

theorem valid_meet (hc : Valid c) (hd : Valid d) : Valid (c.meet d) := by
  rw [valid_iff] at hc hd ⊢
  obtain ⟨hkey, hcredential, hbundle, hlegs, hunique, hweight, hconcurrency, hdeadline, hsorted⟩ := hc
  obtain ⟨-, -, -, hlegs', -, hweight', hconcurrency', hdeadline', -⟩ := hd
  -- a met leg keeps its identity, so the order and the ids are those of `c`
  have hkeeps : ∀ {leg met}, meetLeg d.authorizedLegs leg = some met →
      met.legId = leg.legId ∧ met.sortKey = leg.sortKey := by
    intro leg met hmet
    obtain ⟨candidate, -, -, rfl⟩ := meetLeg_eq_some_iff.mp hmet
    exact ⟨rfl, rfl⟩
  refine ⟨hkey, hcredential, hbundle, fun leg hleg => ?_, ?_, ?_, ?_, ?_, ?_⟩
  · obtain ⟨admitted, hadmitted, hmet⟩ := mem_meetLegs.mp hleg
    obtain ⟨candidate, hfound, hlive, rfl⟩ := meetLeg_eq_some_iff.mp hmet
    exact AuthorizedLeg.validate_meet (hlegs admitted hadmitted)
      (hlegs' candidate (identity_of_legOf hfound).1) hlive
  · show ((meetLegs c.authorizedLegs d.authorizedLegs).map AuthorizedLeg.legId).Nodup
    rw [meetLegs_eq, List.Nodup, List.pairwise_map]
    rw [List.Nodup, List.pairwise_map] at hunique
    refine hunique.filterMap _ fun a a' hne b hb b' hb' => ?_
    rwa [(hkeeps hb).1, (hkeeps hb').1]
  · exact ⟨Nat.le_min.mpr ⟨hweight.1, hweight'.1⟩, (Nat.min_le_left _ _).trans hweight.2⟩
  · exact Nat.le_min.mpr ⟨hconcurrency, hconcurrency'⟩
  · exact ⟨Nat.le_min.mpr ⟨hdeadline.1, hdeadline'.1⟩, (Nat.min_le_left _ _).trans hdeadline.2⟩
  · show (meetLegs c.authorizedLegs d.authorizedLegs).Pairwise _
    rw [meetLegs_eq]
    refine hsorted.filterMap _ fun a a' hle b hb b' hb' => ?_
    rwa [(hkeeps hb).2, (hkeeps hb').2]

/-- **Ceilings of one identity are met without raising.** -/
theorem intersection_eq (hc : Valid c) (hd : Valid d) (hsame : c.sameIdentity d) :
    c.intersection d = .ok (c.meet d) := by
  have hchecked : requireValue (c.sameIdentity d)
      "cannot intersect ceilings of different admitted identities" = .ok () :=
    requireValue_eq_ok_iff.mpr hsame
  rw [intersection, hchecked]
  exact valid_meet hc hd

theorem meetLegs_self (hc : Valid c) : meetLegs c.authorizedLegs c.authorizedLegs = c.authorizedLegs := by
  obtain ⟨-, -, -, hlegs, hunique, -⟩ := valid_iff.mp hc
  have hself : ∀ leg ∈ c.authorizedLegs, meetLeg c.authorizedLegs leg = some leg := by
    intro leg hleg
    refine meetLeg_eq_some_iff.mpr ⟨leg, legOf_of_mem hunique hleg, ?_, ?_⟩
    · exact AuthorizedLeg.live_of_validate (hlegs leg hleg)
    · exact AuthorizedLeg.meet_self (hlegs leg hleg)
  rw [meetLegs_eq, List.filterMap_congr hself, List.filterMap_some]

theorem meet_self (hc : Valid c) : c.meet c = c := by
  simp only [meet, meetLegs_self hc, max_self, min_self]

/-! ## Chains -/

/-- The folded intersection. -/
def intersections (c : RequestAuthorizationCeiling) (current : List RequestAuthorizationCeiling) :
    Validation RequestAuthorizationCeiling :=
  current.foldlM intersection c

/-- Ceilings that can be folded into `c`. -/
def Chain (c : RequestAuthorizationCeiling) (current : List RequestAuthorizationCeiling) : Prop :=
  Valid c ∧ ∀ d ∈ current, Valid d ∧ c.sameIdentity d

variable {current : List RequestAuthorizationCeiling}

theorem Chain.meet (h : Chain c (d :: current)) : Chain (c.meet d) current := by
  obtain ⟨hc, hcurrent⟩ := h
  rw [List.forall_mem_cons] at hcurrent
  exact ⟨valid_meet hc hcurrent.1.1, hcurrent.2⟩

/-- The fold never raises. -/
theorem Chain.intersections_eq (h : Chain c current) :
    c.intersections current = .ok (current.foldl RequestAuthorizationCeiling.meet c) := by
  induction current generalizing c with
  | nil => rfl
  | cons d current ih =>
    obtain ⟨hd, hsame⟩ := h.2 d List.mem_cons_self
    rw [intersections, List.foldlM_cons, intersection_eq h.1 hd hsame]
    exact ih h.meet

theorem Chain.valid (h : Chain c current) :
    Valid (current.foldl RequestAuthorizationCeiling.meet c) := by
  induction current generalizing c with
  | nil => exact h.1
  | cons d current ih => exact ih h.meet

theorem foldl_meet_below (c : RequestAuthorizationCeiling) (current : List RequestAuthorizationCeiling) :
    Below (current.foldl RequestAuthorizationCeiling.meet c) c ∧
      ∀ d ∈ current, Below (current.foldl RequestAuthorizationCeiling.meet c) d := by
  induction current generalizing c with
  | nil => exact ⟨.refl c, fun _ h => (by cases h)⟩
  | cons d current ih =>
    obtain ⟨hfirst, hrest⟩ := ih (c.meet d)
    refine ⟨hfirst.trans (meet_below_left c d), fun e he => ?_⟩
    rcases List.mem_cons.mp he with rfl | he
    · exact hfirst.trans (meet_below_right c e)
    · exact hrest e he

theorem foldl_meet_perm {current' : List RequestAuthorizationCeiling} (hperm : current.Perm current')
    (c : RequestAuthorizationCeiling) :
    current.foldl RequestAuthorizationCeiling.meet c = current'.foldl RequestAuthorizationCeiling.meet c :=
  hperm.foldl_eq' (fun d _ e _ c => meet_right_comm c d e) c

theorem foldl_meet_sameIdentity (c : RequestAuthorizationCeiling)
    (current : List RequestAuthorizationCeiling) :
    (current.foldl RequestAuthorizationCeiling.meet c).sameIdentity d ↔ c.sameIdentity d := by
  induction current generalizing c with
  | nil => exact Iff.rfl
  | cons e current ih => exact ih (c.meet e)

/-- A ceiling that was folded in changes nothing when it is met again. -/
theorem foldl_meet_meet (hd : d ∈ current) (c : RequestAuthorizationCeiling) :
    (current.foldl RequestAuthorizationCeiling.meet c).meet d =
      current.foldl RequestAuthorizationCeiling.meet c := by
  have hcomm : ∀ (l : List RequestAuthorizationCeiling) (c : RequestAuthorizationCeiling),
      (l.foldl RequestAuthorizationCeiling.meet c).meet d =
        l.foldl RequestAuthorizationCeiling.meet (c.meet d) := by
    intro l
    induction l with
    | nil => exact fun _ => rfl
    | cons e l ih =>
      intro c
      rw [List.foldl_cons, ih, meet_right_comm, List.foldl_cons]
  induction current generalizing c with
  | nil => cases hd
  | cons e current ih =>
    rw [List.foldl_cons]
    rcases List.mem_cons.mp hd with rfl | hd
    · rw [hcomm, meet_again]
    · exact ih hd (c.meet e)

theorem foldl_meet_again (c : RequestAuthorizationCeiling)
    (current : List RequestAuthorizationCeiling) :
    current.foldl RequestAuthorizationCeiling.meet (current.foldl RequestAuthorizationCeiling.meet c) =
      current.foldl RequestAuthorizationCeiling.meet c := by
  have hfixed : ∀ (l : List RequestAuthorizationCeiling) (c : RequestAuthorizationCeiling),
      (∀ d ∈ l, c.meet d = c) → l.foldl RequestAuthorizationCeiling.meet c = c := by
    intro l c hl
    induction l with
    | nil => rfl
    | cons e l ih =>
      rw [List.forall_mem_cons] at hl
      rw [List.foldl_cons, hl.1]
      exact ih hl.2
  exact hfixed current _ fun d hd => foldl_meet_meet hd c

end RequestAuthorizationCeiling

end LlmMaxxing
