import LlmMaxxing.Core.Ceilings
import LlmMaxxing.Gateway.Routing
import LlmMaxxing.Gateway.SampleRuntime
import Mathlib.Data.List.Dedup

/-!
# What route selection guarantees

Contracting a ceiling only removes candidates and never reorders them, so a waiter's candidates lie
within the ceiling it was admitted with and within every ceiling published since. A request falls
back only when one single cause blocks every primary leg it could use. A candidate that a view shows
is one the reservation does not refuse for its account, its circuits or its parallel limit, as long
as nothing but time has passed.
-/

namespace LlmMaxxing

open Check RequestAuthorizationCeiling

namespace RouteEngine

variable {gate : GenerationGate} {e : RouteEngine} {leg other : AuthorizedLeg}
  {profile : RequestProfile} {cause : DispatchCause} {view : OperationalRuntimeView}
  {context : RoutingContext} {c d : RequestAuthorizationCeiling} {excluded : List AccountId}

/-! ## Eligible legs -/

/-- What `eligible` asks. -/
structure Eligible (gate : GenerationGate) (e : RouteEngine) (leg : AuthorizedLeg)
    (profile : RequestProfile) (cause : DispatchCause) (view : OperationalRuntimeView)
    (context : RoutingContext) : Prop where
  serving : leg.capabilities.shadow = false
  noShadow : RouteTrigger.shadow ∉ leg.allowedTriggers
  trigger : cause.trigger ∈ leg.allowedTriggers
  capable : capabilitiesAllow leg profile = true
  emergency : cause = .manualEmergency → ∃ emergency, context.emergency = some emergency ∧
    emergency.permits leg.legId context.nowMs context.deadlineAtMs context.dispatcherFence = true
  inTime : context.nowMs < context.deadlineAtMs
  available : operationallyAvailable gate e leg view = true

theorem eligible_iff : eligible gate e leg profile cause view context = true ↔
    Eligible gate e leg profile cause view context := by
  unfold eligible
  constructor
  · intro h
    split_ifs at h with hshadow htrigger hcapable hemergency
    simp only [Bool.or_eq_true, not_or, Bool.not_eq_true, List.contains_iff_mem] at hshadow
    simp only [Bool.not_eq_true', Bool.not_eq_false, List.contains_iff_mem] at htrigger
    simp only [Bool.not_eq_true', Bool.not_eq_false] at hcapable
    simp only [Bool.and_eq_true, decide_eq_true_eq] at h
    refine ⟨hshadow.1, ?_, htrigger, hcapable, ?_, h.1, h.2⟩
    · simpa [List.contains_iff_mem] using hshadow.2
    · intro hcause
      cases hwindow : context.emergency with
      | none => simp [hcause, hwindow] at hemergency
      | some emergency =>
        exact ⟨emergency, rfl, by simpa [hcause, hwindow] using hemergency⟩
  · intro h
    have hpermits : ¬ (cause == .manualEmergency && !context.emergency.any fun emergency =>
        emergency.permits leg.legId context.nowMs context.deadlineAtMs context.dispatcherFence) =
          true := by
      by_cases hcause : cause = .manualEmergency
      · obtain ⟨emergency, hwindow, hpermitted⟩ := h.emergency hcause
        simp [hwindow, hpermitted]
      · simp [hcause]
    rw [if_neg (by simp [h.serving, h.noShadow]), if_neg (by simp [h.trigger]),
      if_neg (by simp [h.capable]), if_neg hpermits]
    simp [h.inTime, h.available]

/-- What `_operationally_available` asks. -/
structure Available (gate : GenerationGate) (e : RouteEngine) (leg : AuthorizedLeg)
    (view : OperationalRuntimeView) (account : AccountCapacity) : Prop where
  permitted : gate leg e.bundle.backendManifestHash = some true
  healthy : view.recoveryState = .healthy
  row : view.account? leg = some account
  active : account.state = .active
  noProbe : account.recoveryProbeInFlight = false
  free : account.activeAttempts < account.parallelLimit
  accountCircuit : account.accountCircuit.state ≠ .opened
  deployment : (view.deployment leg).state ≠ .opened

theorem operationallyAvailable_iff : operationallyAvailable gate e leg view = true ↔
    ∃ account, Available gate e leg view account := by
  unfold operationallyAvailable
  constructor
  · intro h
    split at h
    · cases h
    · next allowed hgate =>
      cases hrow : view.account? leg with
      | none => simp [hrow] at h
      | some account =>
        simp only [hrow, Bool.and_eq_true, beq_iff_eq, bne_iff_ne, Bool.not_eq_true',
          decide_eq_true_eq] at h
        obtain ⟨⟨hallowed, hhealthy⟩, ⟨⟨⟨hactive, hprobe⟩, hfree⟩, hcircuit⟩, hdeployment⟩ := h
        subst hallowed
        exact ⟨account, hgate, hhealthy, hrow, hactive, hprobe, hfree, hcircuit, hdeployment⟩
  · rintro ⟨account, h⟩
    simp [h.permitted, h.healthy, h.row, h.active, h.noProbe, h.free, h.accountCircuit,
      h.deployment]

theorem mem_filter_iff {candidate : Candidate} :
    candidate ∈ filter gate e c profile cause view context excluded ↔
      profile.routeGroupId = c.routeGroupId ∧ ∃ leg ∈ c.authorizedLegs, leg.accountId ∉ excluded ∧
        Eligible gate e leg profile cause view context ∧ RouteEngine.candidate leg cause view = candidate := by
  unfold filter
  split_ifs with hgroup
  · simp [hgroup]
  · simp only [List.mem_map, List.mem_filter, Bool.and_eq_true, decide_eq_true_eq, eligible_iff,
      not_not.mp hgroup, true_and]
    constructor
    · rintro ⟨leg, ⟨hleg, hallowed, heligible⟩, rfl⟩
      exact ⟨leg, hleg, hallowed, heligible, rfl⟩
    · rintro ⟨leg, hleg, hallowed, heligible, rfl⟩
      exact ⟨leg, ⟨hleg, hallowed, heligible⟩, rfl⟩

theorem mem_of_select {candidate : Candidate}
    (h : select gate e c profile cause view context excluded = some candidate) :
    candidate ∈ filter gate e c profile cause view context excluded :=
  List.mem_of_head? h

/-! ## Contraction -/

/-- What a candidate decides about a send: the leg, the cause and the circuits it was seen under. -/
def send (candidate : Candidate) : LegIdentity × DispatchCause × CircuitValue × CircuitValue :=
  (candidate.authorizedLeg.identity, candidate.cause, candidate.accountCircuit,
    candidate.deploymentCircuit)

/-- The gate looks at the identity of a leg only. -/
def ByIdentity (gate : GenerationGate) : Prop :=
  ∀ leg other manifest, leg.identity = other.identity → gate leg manifest = gate other manifest

/-- The deny overlay looks at the identity of a leg. -/
theorem byIdentity_activationGate {evidence : GenerationGate} (h : ByIdentity evidence)
    (m : Memory) (now : Nat) : ByIdentity (activationGate m now evidence) := by
  intro leg other manifest hidentity
  have hleg : leg.legId = other.legId := congrArg LegIdentity.legId hidentity
  have haccount : leg.accountId = other.accountId := congrArg LegIdentity.accountId hidentity
  have hpermits : m.permits now leg none = m.permits now other none := by
    simp only [Memory.permits, Memory.routeGroupOf, hleg, haccount]
  rw [activationGate, activationGate, hpermits, h leg other manifest hidentity]

/-- A leg with a shadow trigger is a shadow leg. -/
def ShadowApart (c : RequestAuthorizationCeiling) : Prop :=
  ∀ leg ∈ c.authorizedLegs, RouteTrigger.shadow ∈ leg.allowedTriggers → leg.capabilities.shadow = true

theorem capabilitiesAllow_of_below (h : leg.capabilities.Below other.capabilities)
    (hallow : capabilitiesAllow leg profile = true) : capabilitiesAllow other profile = true := by
  have hle : ∀ {a b : Bool}, a ≤ b → a = true → b = true := by decide
  simp only [capabilitiesAllow, Bool.and_eq_true, Bool.or_eq_true, Bool.not_eq_true',
    List.contains_iff_mem, decide_eq_true_eq] at hallow ⊢
  obtain ⟨⟨⟨⟨⟨⟨⟨⟨hendpoint, hmodality⟩, htokens⟩, htools⟩, hforced⟩, hschema⟩, hstream⟩,
    hreasoning⟩, hhistory⟩ := hallow
  exact ⟨⟨⟨⟨⟨⟨⟨⟨h.endpoints hendpoint, h.modalities hmodality⟩, htokens.trans h.contextTokens⟩,
    htools.imp_right (hle h.tools)⟩, hforced.imp_right (hle h.forcedTool)⟩,
    hschema.imp_right (hle h.responseSchema)⟩, hstream.imp_right (hle h.streaming)⟩,
    hreasoning.imp_right (hle h.reasoning)⟩, hhistory.imp_right (hle h.historyContinuation)⟩

theorem circuits?_of_identity (h : leg.identity = other.identity) :
    view.circuits? leg = view.circuits? other := by
  have haccount : leg.accountId = other.accountId := congrArg LegIdentity.accountId h
  have hgeneration : leg.generationId = other.generationId := congrArg LegIdentity.generationId h
  simp only [OperationalRuntimeView.circuits?, OperationalRuntimeView.account?,
    OperationalRuntimeView.deployment, haccount, hgeneration]

theorem Available.of_identity {account : AccountCapacity} (hgate : ByIdentity gate)
    (hidentity : leg.identity = other.identity) (h : Available gate e leg view account) :
    Available gate e other view account := by
  have haccount : leg.accountId = other.accountId := congrArg LegIdentity.accountId hidentity
  have hdeployment : view.deployment leg = view.deployment other :=
    congrArg Prod.snd (show view.circuits? leg = view.circuits? other from
      circuits?_of_identity hidentity)
  refine { h with permitted := ?_, row := ?_, deployment := ?_ }
  · rw [← hgate leg other _ hidentity]
    exact h.permitted
  · rw [OperationalRuntimeView.account?, ← haccount]
    exact h.row
  · rw [← hdeployment]
    exact h.deployment

/-- **A leg that serves serves with more authority too.** The trigger of a shadow leg is the one
grant that takes candidates away, and such a leg never serves. -/
theorem Eligible.of_below (hgate : ByIdentity gate) (hbelow : leg.Below other)
    (hshadow : RouteTrigger.shadow ∈ other.allowedTriggers → other.capabilities.shadow = true)
    (h : Eligible gate e leg profile cause view context) :
    Eligible gate e other profile cause view context := by
  have hserving : other.capabilities.shadow = false := by
    have := hbelow.capabilities.shadow
    rw [h.serving] at this
    exact Bool.eq_false_of_le_false this
  obtain ⟨account, havailable⟩ := operationallyAvailable_iff.mp h.available
  refine ⟨hserving, fun hmem => ?_, hbelow.triggers h.trigger,
    capabilitiesAllow_of_below hbelow.capabilities h.capable, fun hcause => ?_, h.inTime, ?_⟩
  · rw [hshadow hmem] at hserving
    cases hserving
  · have hleg : leg.legId = other.legId := congrArg LegIdentity.legId hbelow.identity
    rw [← hleg]
    exact h.emergency hcause
  · exact operationallyAvailable_iff.mpr ⟨account, havailable.of_identity hgate hbelow.identity⟩

/-- The sends of a filter, as a list of legs. -/
theorem map_send_filter (hgroup : profile.routeGroupId = c.routeGroupId) :
    (filter gate e c profile cause view context excluded).map send =
      (c.authorizedLegs.filter fun leg =>
        leg.accountId ∉ excluded && eligible gate e leg profile cause view context).map
          fun leg => send (candidate leg cause view) := by
  unfold filter
  rw [if_neg (not_not.mpr hgroup), List.map_map]
  rfl

theorem send_candidate_of_identity (h : leg.identity = other.identity) :
    send (candidate leg cause view) = send (candidate other cause view) := by
  simp only [send, candidate, h, circuits?_of_identity h]

/-- Lists with the same keys have the same images under what the keys decide. -/
theorem map_eq_of_map_key_eq {α β γ : Type} {key : α → β} {f : α → γ}
    (hkey : ∀ a b, key a = key b → f a = f b) {l l' : List α} (h : l.map key = l'.map key) :
    l.map f = l'.map f := by
  induction l generalizing l' with
  | nil =>
    rw [List.map_nil, eq_comm, List.map_eq_nil_iff] at h
    rw [h]
  | cons a l ih =>
    cases l' with
    | nil => cases h
    | cons b l' =>
      rw [List.map_cons, List.map_cons, List.cons.injEq] at h
      rw [List.map_cons, List.map_cons, hkey a b h.1, ih h.2]

/-- The legs of a ceiling are strictly ordered. -/
theorem pairwise_sortKey (hc : Valid c) :
    c.authorizedLegs.Pairwise fun a b => a.sortKey < b.sortKey := by
  obtain ⟨-, -, -, -, hunique, -, -, -, hsorted⟩ := valid_iff.mp hc
  rw [List.Nodup, List.pairwise_map] at hunique
  refine hsorted.imp₂ (fun a b hle hne => lt_of_le_of_ne hle fun heq => hne ?_) hunique
  have htext : a.legId.text = b.legId.text := congrArg (fun key => (ofLex key).2) heq
  exact TypedId.ext htext

/-- The order of a leg as its identity decides it. -/
def identityKey (identity : LegIdentity) : Nat ×ₗ String :=
  toLex (identity.order, identity.legId.text)

instance instAntisymmIdentityKey : Std.Antisymm fun a b : LegIdentity => identityKey a < identityKey b where
  antisymm _ _ hab hba := absurd (hab.trans hba) (lt_irrefl _)

/-- Parts of two ceilings: what is contained leg by leg is a sublist. -/
theorem sublist_of_subset {part whole : List AuthorizedLeg} (hpart : part.Sublist d.authorizedLegs)
    (hwhole : whole.Sublist c.authorizedLegs) (hd : Valid d) (hc : Valid c)
    (hsubset : ∀ leg ∈ part, ∃ other ∈ whole, leg.identity = other.identity) :
    (part.map fun leg => send (candidate leg cause view)).Sublist
      (whole.map fun leg => send (candidate leg cause view)) := by
  have hstrict : ∀ {a : RequestAuthorizationCeiling} {l : List AuthorizedLeg}, Valid a →
      l.Sublist a.authorizedLegs → (l.map AuthorizedLeg.identity).Pairwise fun x y =>
        identityKey x < identityKey y := by
    intro a l ha hl
    exact List.pairwise_map.mpr ((pairwise_sortKey ha).sublist hl)
  have hnodup : (part.map AuthorizedLeg.identity).Nodup :=
    (hstrict hd hpart).imp fun hlt heq => absurd (heq ▸ hlt) (lt_irrefl _)
  have hmem : part.map AuthorizedLeg.identity ⊆ whole.map AuthorizedLeg.identity := by
    intro identity hidentity
    obtain ⟨leg, hleg, rfl⟩ := List.mem_map.mp hidentity
    obtain ⟨other, hother, hsame⟩ := hsubset leg hleg
    exact List.mem_map.mpr ⟨other, hother, hsame.symm⟩
  have hidentities : (part.map AuthorizedLeg.identity).Sublist (whole.map AuthorizedLeg.identity) :=
    List.sublist_of_subperm_of_pairwise (List.subperm_of_subset hnodup hmem)
      (hstrict hd hpart) (hstrict hc hwhole)
  obtain ⟨kept, hkept, heq⟩ := List.sublist_map_iff.mp hidentities
  rw [map_eq_of_map_key_eq (fun a b => send_candidate_of_identity) heq]
  exact hkept.map _

/-- **Less authority gives a sublist of the candidates.** -/
theorem filter_sublist_of_below (hgate : ByIdentity gate) (hd : Valid d) (hc : Valid c)
    (hbelow : d.Below c) (hgroup : d.routeGroupId = c.routeGroupId) (hshadow : ShadowApart c) :
    ((filter gate e d profile cause view context excluded).map send).Sublist
      ((filter gate e c profile cause view context excluded).map send) := by
  by_cases hprofile : profile.routeGroupId = c.routeGroupId
  · rw [map_send_filter (hprofile.trans hgroup.symm), map_send_filter hprofile]
    refine sublist_of_subset List.filter_sublist List.filter_sublist hd hc fun leg hleg => ?_
    simp only [List.mem_filter, Bool.and_eq_true, decide_eq_true_eq, eligible_iff] at hleg ⊢
    obtain ⟨hmem, hallowed, heligible⟩ := hleg
    obtain ⟨other, hother, hlegs⟩ := hbelow.legs leg hmem
    have haccount : leg.accountId = other.accountId := congrArg LegIdentity.accountId hlegs.identity
    refine ⟨other, ⟨hother, haccount ▸ hallowed, ?_⟩, hlegs.identity⟩
    exact heligible.of_below hgate hlegs (hshadow other hother)
  · have hnone : filter gate e d profile cause view context excluded = [] :=
      if_pos fun h => hprofile (h.trans hgroup)
    rw [hnone]
    exact List.nil_sublist _

/-! ## Ceilings of an activated bundle -/

/-- A ceiling of a client for a profile. -/
structure AuthorizedFor (client : AuthenticatedClient) (profile : RequestProfile)
    (c : RequestAuthorizationCeiling) : Prop where
  valid : Valid c
  shadowApart : ShadowApart c
  keyId : c.keyId = client.keyId
  credentialGeneration : c.credentialGeneration = client.acceptedCredentialGeneration
  policyId : c.policyId = client.policyId
  routeGroupId : c.routeGroupId = profile.routeGroupId

/-- The grants of a valid bundle keep shadow legs apart. -/
theorem shadow_of_grant {b : PolicyBundleV1} (hb : b.validate = .ok b) {policy : KeyPolicyRevision}
    (hpolicy : policy ∈ b.policies) (hleg : leg ∈ policy.authorizedLegs)
    (hshadow : RouteTrigger.shadow ∈ leg.allowedTriggers) : leg.capabilities.shadow = true := by
  obtain ⟨-, -, -, -, hgroups, hconsistent⟩ := PolicyBundleV1.validate_eq_ok_self_iff.mp hb
  obtain ⟨actual, groupId, hmatches⟩ := hconsistent.grants policy hpolicy leg hleg
  have hmem := hmatches.leg
  simp only [PolicyBundleV1.legGroups, List.mem_flatMap, List.mem_map] at hmem
  obtain ⟨group, hgroup, actual', hactual, heq⟩ := hmem
  cases heq
  obtain ⟨-, -, hlegs, -⟩ := RouteGroupRevision.validate_eq_ok_iff.mp (hgroups group hgroup)
  obtain ⟨-, -, -, -, hcapability, -⟩ := RouteLeg.validate_eq_ok_iff.mp (hlegs actual hactual)
  rw [hmatches.capabilities, hcapability, decide_eq_true_eq]
  exact hmatches.triggers _ hshadow

/-- What the engine of a valid bundle authorizes, field by field. -/
theorem authorize_eq_ok {b : PolicyBundleV1} {hash : BundleHash} {client : AuthenticatedClient}
    (hb : b.validate = .ok b) (h : (index b hash).authorize client profile = .ok c) :
    ∃ policy ∈ b.policies, policy.policyId = client.policyId ∧ Valid c ∧
      c.keyId = client.keyId ∧ c.credentialGeneration = client.acceptedCredentialGeneration ∧
      c.policyId = policy.policyId ∧ c.routeGroupId = profile.routeGroupId ∧
      ∀ leg ∈ c.authorizedLegs, leg ∈ policy.authorizedLegs := by
  obtain ⟨-, -, -, -, -, hconsistent⟩ := PolicyBundleV1.validate_eq_ok_self_iff.mp hb
  unfold authorize at h
  split at h
  · cases h
  · split_ifs at h
    split at h
    · cases h
    · next policy hget =>
      obtain ⟨hpolicy, hid⟩ := (Dict.get?_indexOn_eq_some_iff hconsistent.policies_nodup).mp hget
      obtain ⟨hkey, hgeneration, hbundle, hlegs, hunique, hweight, hconcurrency, hdeadline, rfl⟩ :=
        RequestAuthorizationCeiling.validate_eq_ok_iff.mp h
      have hperm := SortOn.perm AuthorizedLeg.sortKey
        ((index b hash).authorizedLegs policy profile.routeGroupId)
      refine ⟨policy, hpolicy, hid, valid_iff.mpr ⟨hkey, hgeneration, hbundle, fun leg hleg => ?_, ?_,
        hweight, hconcurrency, hdeadline, SortOn.pairwise _ _⟩, rfl, rfl, rfl, rfl, fun leg hleg => ?_⟩
      · exact hlegs leg (hperm.mem_iff.mp hleg)
      · exact (hperm.map _).nodup_iff.mpr hunique
      · have hgranted := hperm.mem_iff.mp hleg
        unfold authorizedLegs at hgranted
        split at hgranted
        · cases hgranted
        · split_ifs at hgranted
          · exact (List.mem_filter.mp hgranted).1
          · cases hgranted

/-- **What the engine of a valid bundle authorizes.** -/
theorem authorizedFor_of_authorize {b : PolicyBundleV1} {hash : BundleHash}
    {client : AuthenticatedClient} (hb : b.validate = .ok b)
    (h : (index b hash).authorize client profile = .ok c) : AuthorizedFor client profile c := by
  obtain ⟨policy, hpolicy, hid, hvalid, hkey, hcredential, hpolicyId, hgroup, hlegs⟩ :=
    authorize_eq_ok hb h
  refine ⟨hvalid, fun leg hleg hshadow => ?_, hkey, hcredential, hpolicyId.trans hid, hgroup⟩
  exact shadow_of_grant hb hpolicy (hlegs leg hleg) hshadow

theorem grant_of_authorize {b : PolicyBundleV1} {hash : BundleHash} {client : AuthenticatedClient}
    (hb : b.validate = .ok b) (h : (index b hash).authorize client profile = .ok c)
    (hleg : leg ∈ c.authorizedLegs) : ∃ policy ∈ b.policies, leg ∈ policy.authorizedLegs := by
  obtain ⟨policy, hpolicy, -, -, -, -, -, -, hlegs⟩ := authorize_eq_ok hb h
  exact ⟨policy, hpolicy, hlegs leg hleg⟩

/-- **A waiter's candidates stay within its ceilings.** Whatever the view, the cause and the
context, they are, in order, among the candidates of the ceiling it was admitted with and of every
ceiling authorized for it since. -/
theorem candidates_within_ceilings {c₀ : RequestAuthorizationCeiling}
    {current : List RequestAuthorizationCeiling} {client : AuthenticatedClient}
    {requested : RequestProfile} (hgate : ByIdentity gate)
    (hcurrent : ∀ d ∈ c₀ :: current, ∃ b hash, b.validate = .ok b ∧
      (index b hash).authorize client requested = .ok d) :
    ∃ effective, c₀.intersections current = .ok effective ∧ ∀ d ∈ c₀ :: current,
      ((filter gate e effective profile cause view context excluded).map send).Sublist
        ((filter gate e d profile cause view context excluded).map send) := by
  have hauthorized : ∀ d ∈ c₀ :: current, AuthorizedFor client requested d := by
    intro d hd
    obtain ⟨b, hash, hb, h⟩ := hcurrent d hd
    exact authorizedFor_of_authorize hb h
  rw [List.forall_mem_cons] at hauthorized
  obtain ⟨h₀, hauthorized⟩ := hauthorized
  have hchain : Chain c₀ current := by
    refine ⟨h₀.valid, fun d hd => ?_⟩
    have h := hauthorized d hd
    refine ⟨h.valid, h₀.keyId.trans h.keyId.symm, ?_, h₀.policyId.trans h.policyId.symm,
      h₀.routeGroupId.trans h.routeGroupId.symm⟩
    exact h₀.credentialGeneration.trans h.credentialGeneration.symm
  obtain ⟨hadmitted, hpublished⟩ := foldl_meet_below c₀ current
  have hgroup : (current.foldl RequestAuthorizationCeiling.meet c₀).routeGroupId =
      c₀.routeGroupId :=
    ((foldl_meet_sameIdentity c₀ current (d := c₀)).mpr ⟨rfl, rfl, rfl, rfl⟩).2.2.2
  refine ⟨_, hchain.intersections_eq, fun d hd => ?_⟩
  rcases List.mem_cons.mp hd with rfl | hd
  · exact filter_sublist_of_below hgate hchain.valid h₀.valid hadmitted hgroup h₀.shadowApart
  · have h := hauthorized d hd
    exact filter_sublist_of_below hgate hchain.valid h.valid (hpublished d hd)
      (hgroup.trans (h₀.routeGroupId.trans h.routeGroupId.symm)) h.shadowApart

/-! ### Two activations of one bundle -/

/-- The engine of a generation of the sample bundle. -/
def sampleEngine (generation : Nat) : RouteEngine :=
  .index (rotatingBundle generation 1 2) (TypedId.numbered .bundleHash generation)

def sampleClient : AuthenticatedClient where
  keyId := "00000000000000000000000000000007"
  acceptedCredentialGeneration := 2
  policyId := samplePolicyId
  keyState := .enabled
  keyExpiresAtS := 100
  appliedBundleGeneration := 1
  appliedBundleHash := TypedId.numbered .bundleHash 1

/-- A chat request without history. -/
def chatProfile : RequestProfile := { sampleProfile with reasoningTokensMax := 0, historyTurns := 0 }

/-- What a generation grants the client. -/
def sampleCeiling (generation : Nat) : RequestAuthorizationCeiling where
  keyId := "00000000000000000000000000000007"
  credentialGeneration := 2
  policyId := samplePolicyId
  bundleGeneration := generation
  bundleHash := TypedId.numbered .bundleHash generation
  routeGroupId := sampleGroupId
  authorizedLegs := samplePolicy.authorizedLegs
  queueTier := 0
  queueWeight := 1
  maxConcurrency := 1
  maxWaiters := 1
  deadlineMs := 1000

/-- The sample account with one free place. -/
def freeView : OperationalRuntimeView where
  recoveryState := .healthy
  accounts := [(AccountRuntime.fresh sampleAccount 1).capacityValue]
  circuits := []
  dispatches := []

theorem authorize_first :
    (sampleEngine 1).authorize sampleClient chatProfile = .ok (sampleCeiling 1) := by
  decide +kernel

theorem authorize_second :
    (sampleEngine 2).authorize sampleClient chatProfile = .ok (sampleCeiling 2) := by
  decide +kernel

/-- A request admitted under the first generation and waiting through the second. -/
theorem candidates_within_two_ceilings :
    ∃ effective, (sampleCeiling 1).intersections [sampleCeiling 2] = .ok effective ∧
      ∀ d ∈ [sampleCeiling 1, sampleCeiling 2],
        ((filter (fun _ _ => some true) (sampleEngine 2) effective chatProfile .primary freeView
          ⟨1, 100, 1, none⟩ []).map send).Sublist
        ((filter (fun _ _ => some true) (sampleEngine 2) d chatProfile .primary freeView
          ⟨1, 100, 1, none⟩ []).map send) := by
  have hauthorized : ∀ d ∈ [sampleCeiling 1, sampleCeiling 2], ∃ b hash, b.validate = .ok b ∧
      (index b hash).authorize sampleClient chatProfile = .ok d := by
    rw [List.forall_mem_cons, List.forall_mem_singleton]
    exact ⟨⟨_, _, rotatingBundle_valid le_rfl le_rfl (by decide), authorize_first⟩,
      _, _, rotatingBundle_valid (by decide) le_rfl (by decide), authorize_second⟩
  exact candidates_within_ceilings (fun _ _ _ _ => rfl) hauthorized

/-! ## Falling back -/

/-- A circuit is open for a reason that a cause stands for. -/
def OpenFor (circuit : CircuitValue) (cause : DispatchCause) : Prop :=
  circuit.state = .opened ∧ circuit.cause.bind CircuitCause.dispatchCause = some cause

/-- A cause blocks a leg: its account is full, or one of its two circuits is open for it. -/
inductive Blocks (view : OperationalRuntimeView) (leg : AuthorizedLeg) (account : AccountCapacity) :
    DispatchCause → Prop where
  | full (h : account.parallelLimit ≤ account.activeAttempts) : Blocks view leg account .capacity
  | account {cause : DispatchCause} (h : OpenFor account.accountCircuit cause) :
      Blocks view leg account cause
  | deployment {cause : DispatchCause} (h : OpenFor (view.deployment leg) cause) :
      Blocks view leg account cause

/-- Where a circuit is open, its reason has a fallback. -/
def Explained (circuit : CircuitValue) : Prop :=
  circuit.state = .opened → ∃ cause, OpenFor circuit cause

/-- One cause and no other keeps a leg from being sent to. -/
structure BlockedOnlyBy (gate : GenerationGate) (e : RouteEngine) (view : OperationalRuntimeView)
    (leg : AuthorizedLeg) (account : AccountCapacity) (cause : DispatchCause) : Prop where
  row : view.account? leg = some account
  active : account.state = .active
  noProbe : account.recoveryProbeInFlight = false
  permitted : gate leg e.bundle.backendManifestHash = some true
  accountExplained : Explained account.accountCircuit
  deploymentExplained : Explained (view.deployment leg)
  blocks : Blocks view leg account cause
  only : ∀ other, Blocks view leg account other → other = cause

theorem onlyMember_eq_some_iff {causes : List DispatchCause} :
    onlyMember causes = some cause ↔ causes ≠ [] ∧ ∀ other ∈ causes, other = cause := by
  unfold onlyMember
  constructor
  · intro h
    split at h
    · next found hdedup =>
      cases h
      have hmem : ∀ other, other ∈ causes ↔ other ∈ [cause] := fun other => by
        rw [← hdedup, List.mem_dedup]
      refine ⟨fun hnil => ?_, fun other hother => List.mem_singleton.mp ((hmem other).mp hother)⟩
      have hin := (hmem cause).mpr (List.mem_singleton_self cause)
      rw [hnil] at hin
      cases hin
    · cases h
  · rintro ⟨hne, hall⟩
    have hdedup : causes.dedup = [cause] := by
      rw [List.eq_replicate_of_mem hall, List.replicate_dedup]
      rwa [ne_eq, List.length_eq_zero_iff]
    rw [hdedup]

theorem openBlocker_spec {circuit : CircuitValue} {causes : List DispatchCause}
    (h : openBlocker circuit = some causes) :
    Explained circuit ∧ ∀ cause, cause ∈ causes ↔ OpenFor circuit cause := by
  unfold openBlocker at h
  split_ifs at h with hopen
  · rw [Option.map_eq_some_iff] at h
    obtain ⟨found, hfound, rfl⟩ := h
    refine ⟨fun _ => ⟨found, hopen, hfound⟩, fun cause => ?_⟩
    rw [List.mem_singleton, OpenFor, hfound, Option.some.injEq, eq_comm]
    exact ⟨fun heq => ⟨hopen, heq⟩, And.right⟩
  · cases h
    refine ⟨fun h => absurd h hopen, fun cause => ?_⟩
    exact ⟨fun h => (by cases h), fun h => absurd h.1 hopen⟩

theorem exists_openBlocker {circuit : CircuitValue} (h : Explained circuit) :
    ∃ causes, openBlocker circuit = some causes := by
  unfold openBlocker
  split_ifs with hopen
  · obtain ⟨cause, -, hcause⟩ := h hopen
    exact ⟨[cause], by rw [hcause]; rfl⟩
  · exact ⟨[], rfl⟩

/-- The blockers one turn of the loop collects. -/
theorem mem_blockers {account : AccountCapacity} {ofAccount ofDeployment : List DispatchCause}
    (haccount : openBlocker account.accountCircuit = some ofAccount)
    (hdeployment : openBlocker (view.deployment leg) = some ofDeployment) :
    cause ∈ (if account.parallelLimit ≤ account.activeAttempts then [DispatchCause.capacity] else []) ++
      ofAccount ++ ofDeployment ↔ Blocks view leg account cause := by
  rw [List.mem_append, List.mem_append, (openBlocker_spec haccount).2,
    (openBlocker_spec hdeployment).2]
  constructor
  · rintro ((hfull | hopen) | hopen)
    · split_ifs at hfull with hle
      · rw [List.mem_singleton.mp hfull]
        exact .full hle
      · cases hfull
    · exact .account hopen
    · exact .deployment hopen
  · intro h
    cases h with
    | full hle => exact .inl (.inl (by rw [if_pos hle]; exact List.mem_singleton_self _))
    | account hopen => exact .inl (.inr hopen)
    | deployment hopen => exact .inr hopen

theorem onlyBlocker_eq_some_iff : onlyBlocker gate e view leg = some cause ↔
    ∃ account, BlockedOnlyBy gate e view leg account cause := by
  simp only [onlyBlocker, Option.bind_eq_bind, Option.bind_eq_some_iff, Option.guard_eq_some',
    exists_const]
  constructor
  · rintro ⟨account, hrow, ⟨hactive, hprobe⟩, allowed, hgate, hallowed, ofAccount, haccount,
      ofDeployment, hdeployment, honly⟩
    subst hallowed
    obtain ⟨hne, hall⟩ := onlyMember_eq_some_iff.mp honly
    obtain ⟨first, hfirst⟩ := List.exists_mem_of_ne_nil _ hne
    obtain rfl := hall first hfirst
    refine ⟨account, hrow, hactive, hprobe, hgate, (openBlocker_spec haccount).1,
      (openBlocker_spec hdeployment).1, (mem_blockers haccount hdeployment).mp hfirst, ?_⟩
    exact fun other hother => hall other ((mem_blockers haccount hdeployment).mpr hother)
  · rintro ⟨account, h⟩
    obtain ⟨ofAccount, haccount⟩ := exists_openBlocker h.accountExplained
    obtain ⟨ofDeployment, hdeployment⟩ := exists_openBlocker h.deploymentExplained
    refine ⟨account, h.row, ⟨h.active, h.noProbe⟩, true, h.permitted, rfl, ofAccount, haccount,
      ofDeployment, hdeployment, onlyMember_eq_some_iff.mpr ⟨fun hnil => ?_, ?_⟩⟩
    · have hmem := (mem_blockers haccount hdeployment).mpr h.blocks
      rw [hnil] at hmem
      cases hmem
    · exact fun other hother => h.only other ((mem_blockers haccount hdeployment).mp hother)

/-- The results of `mapM` are those of the members, one for each. -/
theorem of_mapM_eq_some {α β : Type} {f : α → Option β} {l : List α} {results : List β}
    (h : l.mapM f = some results) :
    (results = [] ↔ l = []) ∧ ∀ a ∈ l, ∃ found ∈ results, f a = some found := by
  induction l generalizing results with
  | nil =>
    rw [List.mapM_nil] at h
    cases h
    exact ⟨⟨fun _ => rfl, fun _ => rfl⟩, fun _ ha => (by cases ha)⟩
  | cons a l ih =>
    rw [List.mapM_cons, Option.bind_eq_bind, Option.bind_eq_some_iff] at h
    obtain ⟨first, hfirst, h⟩ := h
    rw [Option.bind_eq_bind, Option.bind_eq_some_iff] at h
    obtain ⟨rest, hrest, heq⟩ := h
    cases heq
    refine ⟨⟨fun h => (by cases h), fun h => (by cases h)⟩, List.forall_mem_cons.mpr ⟨?_, ?_⟩⟩
    · exact ⟨first, List.mem_cons_self, hfirst⟩
    · intro b hb
      obtain ⟨found, hfound, hfb⟩ := (ih hrest).2 b hb
      exact ⟨found, List.mem_cons_of_mem _ hfound, hfb⟩

/-- Where every member has the same result, so has every place of `mapM`. -/
theorem mapM_eq_some_of_forall {α β : Type} {f : α → Option β} {result : β} {l : List α}
    (h : ∀ a ∈ l, f a = some result) : l.mapM f = some (l.map fun _ => result) := by
  induction l with
  | nil => rfl
  | cons a l ih =>
    rw [List.forall_mem_cons] at h
    rw [List.mapM_cons, h.1, ih h.2]
    rfl

/-- The loop of `primary_blocking_cause`: every turn finds the one cause. -/
theorem mapM_bind_onlyMember {α : Type} {f : α → Option DispatchCause} {l : List α} :
    (l.mapM f).bind onlyMember = some cause ↔ l ≠ [] ∧ ∀ a ∈ l, f a = some cause := by
  rw [Option.bind_eq_some_iff]
  constructor
  · rintro ⟨causes, hcauses, honly⟩
    obtain ⟨hne, hall⟩ := onlyMember_eq_some_iff.mp honly
    obtain ⟨hnil, hfound⟩ := of_mapM_eq_some hcauses
    refine ⟨fun h => hne (hnil.mpr h), fun a ha => ?_⟩
    obtain ⟨found, hmem, hfa⟩ := hfound a ha
    rw [hfa, hall found hmem]
  · rintro ⟨hne, hall⟩
    refine ⟨_, mapM_eq_some_of_forall hall,
      onlyMember_eq_some_iff.mpr ⟨fun hnil => hne ?_, fun other hother => ?_⟩⟩
    · exact List.map_eq_nil_iff.mp hnil
    · obtain ⟨-, -, rfl⟩ := List.mem_map.mp hother
      rfl

theorem primaryBlockingCause_eq_some_iff :
    primaryBlockingCause gate e c profile view = some cause ↔ primaries c profile ≠ [] ∧
      ∀ leg ∈ primaries c profile, ∃ account, BlockedOnlyBy gate e view leg account cause := by
  unfold primaryBlockingCause
  split_ifs with hnil
  · simp [hnil]
  · rw [mapM_bind_onlyMember]
    simp only [onlyBlocker_eq_some_iff]

theorem BlockedOnlyBy.not_eligible {account : AccountCapacity} {other : DispatchCause}
    (h : BlockedOnlyBy gate e view leg account cause) :
    ¬ Eligible gate e leg profile other view context := by
  intro heligible
  obtain ⟨row, havailable⟩ := operationallyAvailable_iff.mp heligible.available
  have hrow : row = account := Option.some.inj (havailable.row.symm.trans h.row)
  subst hrow
  cases h.blocks with
  | full hfull => exact absurd havailable.free (not_lt.mpr hfull)
  | account hopen => exact havailable.accountCircuit hopen.1
  | deployment hopen => exact havailable.deployment hopen.1

/-- A cause that blocks has a fallback trigger of its own. -/
theorem Blocks.fallback {account : AccountCapacity} (h : Blocks view leg account cause) :
    cause = .capacity ∨ cause = .failure ∨ cause = .quota := by
  have hreason : ∀ {circuit : CircuitValue}, OpenFor circuit cause →
      cause = .capacity ∨ cause = .failure ∨ cause = .quota := by
    intro circuit hopen
    obtain ⟨reason, -, hcause⟩ := Option.bind_eq_some_iff.mp hopen.2
    cases reason <;> cases hcause <;> simp
  cases h with
  | full _ => exact .inl rfl
  | account hopen => exact hreason hopen
  | deployment hopen => exact hreason hopen

/-- Every primary leg the request could use is blocked, by this cause alone. -/
def AllBlockedOnlyBy (gate : GenerationGate) (e : RouteEngine) (c : RequestAuthorizationCeiling)
    (profile : RequestProfile) (view : OperationalRuntimeView) (cause : DispatchCause) : Prop :=
  primaries c profile ≠ [] ∧
    ∀ leg ∈ primaries c profile, ∃ account, BlockedOnlyBy gate e view leg account cause

/-- **A request falls back for one reason only.** `primary_blocking_cause` names a cause exactly
when that cause and no other blocks each primary leg the request could use. Then no primary
candidate is left, and the fallback sends to none of the legs that have a primary trigger. -/
theorem falls_back_iff :
    (primaryBlockingCause gate e c profile view = some cause ↔
      AllBlockedOnlyBy gate e c profile view cause) ∧
    (AllBlockedOnlyBy gate e c profile view cause →
      (cause = .capacity ∨ cause = .failure ∨ cause = .quota) ∧
      filter gate e c profile .primary view context excluded = [] ∧
      ∀ candidate ∈ filter gate e c profile cause view context excluded,
        cause.trigger ∈ candidate.authorizedLeg.allowedTriggers ∧
          RouteTrigger.primary ∉ candidate.authorizedLeg.allowedTriggers) := by
  refine ⟨primaryBlockingCause_eq_some_iff, fun hall => ?_⟩
  obtain ⟨hne, hblocked⟩ := hall
  -- an eligible leg with a primary trigger is among the primaries, all of which are blocked
  have hnone : ∀ leg ∈ c.authorizedLegs, ∀ {other : DispatchCause},
      Eligible gate e leg profile other view context → RouteTrigger.primary ∉ leg.allowedTriggers := by
    intro leg hleg other heligible hprimary
    have hmem : leg ∈ primaries c profile := by
      refine List.mem_filter.mpr ⟨hleg, ?_⟩
      simp [hprimary, heligible.serving, heligible.capable]
    obtain ⟨account, hblocked⟩ := hblocked leg hmem
    exact hblocked.not_eligible heligible
  refine ⟨?_, ?_, ?_⟩
  · obtain ⟨leg, hleg⟩ := List.exists_mem_of_ne_nil _ hne
    obtain ⟨account, hleg⟩ := hblocked leg hleg
    exact hleg.blocks.fallback
  · refine List.eq_nil_iff_forall_not_mem.mpr fun candidate hcandidate => ?_
    obtain ⟨-, leg, hleg, -, heligible, -⟩ := mem_filter_iff.mp hcandidate
    exact hnone leg hleg heligible heligible.trigger
  · intro candidate hcandidate
    obtain ⟨-, leg, hleg, -, heligible, rfl⟩ := mem_filter_iff.mp hcandidate
    exact ⟨heligible.trigger, hnone leg hleg heligible⟩

end RouteEngine

end LlmMaxxing
