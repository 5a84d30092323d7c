import LlmMaxxing.Gateway.CircuitMirror
import LlmMaxxing.Gateway.SampleRuntime
import LlmMaxxing.Gateway.Service

/-!
# Circuits over whole runs

The runs are those in which circuits are swapped by the operations of `CircuitController`, on
whatever they have read, with tokens that were not issued before. Calls, checkpoints, crashes and
starts are interleaved in any way.
-/

namespace LlmMaxxing

open Check AccountRuntime World

namespace Service

/-- The circuits of a configured account. -/
def circuits (s : Service) (accountId : AccountId) :
    Option (Option DeploymentGenerationId → CircuitValue) :=
  (s.world.state.runtimes.get? accountId).map scopedCircuit

/-- The records written so far. -/
def log (s : Service) : List RecordBody := s.world.journal.log

/-- The events of a run: a swap is one the controller asks for, its token is new, and a publication
can restore the accounts it brings back. -/
def CircuitEvent (cfg : RuntimeConfig) (seed : CircuitController.BackoffSeed) (s : Service) :
    ServiceEvent → Prop
  | .call accountId (.swapCircuit scope expected replacement) =>
    CircuitController.Asks seed ⟨accountId, scope, expected, replacement⟩ ∧
      ∀ p, replacement.probeId = some p → Unissued s.log p
  | .publish _ accounts => Revivable cfg accounts s.world.state
  | _ => True

variable {cfg : RuntimeConfig} {seed : CircuitController.BackoffSeed} {s s₀ s₁ s₂ : Service}

theorem mirrored_under (h : Mirrored s.world) (env : ServiceEnv) : Mirrored (s.world.under env) :=
  ⟨h.lawful, h.shown, h.kept, h.keyed⟩

/-- **Every event lets the log grow by records that may be written**, and leaves a process and a
journal that show it. -/
theorem mirrored_step (h : Mirrored s.world) (env : ServiceEnv) {e : ServiceEvent}
    (he : CircuitEvent cfg seed s e) :
    Mirrored (s.step cfg env e).world ∧ Grows s.log (s.step cfg env e).log := by
  have hunder := mirrored_under h env
  cases e with
  | call accountId c =>
    simp only [Service.step]
    split
    · refine hunder.call accountId c fun scope expected replacement hc => ?_
      subst hc
      exact ⟨he.1.change, he.2⟩
    · exact ⟨h, .refl⟩
  | publish clock accounts =>
    simp only [Service.step]
    split
    · exact hunder.publication clock he
    · exact ⟨h, .refl⟩
  | checkpoint =>
    simp only [Service.step]
    split
    · rcases checkpoint_cases (s.world.under env) with ⟨e, herr⟩ | ⟨-, hok⟩
      · rw [herr]
        exact ⟨hunder, .refl⟩
      · rw [hok]
        exact ⟨hunder.checkpointed, .refl⟩
    · exact ⟨h, .refl⟩
  | restart clock accounts =>
    have hstart : Mirrored (World.start cfg clock accounts (s.world.under env)).1 ∧
        Grows s.log (World.start cfg clock accounts (s.world.under env)).1.journal.log :=
      hunder.start clock accounts
    simp only [Service.step]
    split
    · next heq => rw [heq] at hstart; exact hstart
    · next heq => rw [heq] at hstart; exact hstart

theorem mirrored_created : Mirrored created.world where
  lawful := .refl
  shown := ⟨fun _ _ h => (by cases h), fun _ _ _ h => (by cases h), fun _ _ _ => rfl⟩
  kept := ⟨[], rfl, fun _ h => (by cases h), fun _ _ => rfl⟩
  keyed _ _ h := by cases h

theorem Reachable.mirrored (h : Reachable cfg (CircuitEvent cfg seed) s) : Mirrored s.world := by
  induction h with
  | created => exact mirrored_created
  | step _ env e he ih => exact (mirrored_step ih env he).1

theorem Later.mirrored (h : Later cfg (CircuitEvent cfg seed) s₀ s₁) (h₀ : Mirrored s₀.world) :
    Mirrored s₁.world ∧ Grows s₀.log s₁.log := by
  induction h with
  | refl => exact ⟨h₀, .refl⟩
  | tail _ hstep ih =>
    obtain ⟨env, e, he, rfl⟩ := hstep
    obtain ⟨hmirrored, hgrows⟩ := mirrored_step ih.1 env he
    exact ⟨hmirrored, ih.2.trans hgrows⟩

/-- The circuits of a configured account are those of its board. -/
theorem circuits_eq (h : Mirrored s.world) {accountId : AccountId}
    {v : Option DeploymentGenerationId → CircuitValue} (hv : s.circuits accountId = some v) :
    (board s.log accountId).circuit = v := by
  obtain ⟨rt, hrt, rfl⟩ := Option.map_eq_some_iff.mp hv
  rw [log, ← h.shown.live accountId rt hrt]
  rfl

/-- What holds of the circuits at `s₀`, from `s₀` to a later `s₁`, and at a still later `s₂`. -/
structure CircuitsSafe (cfg : RuntimeConfig) (s₀ s₁ s₂ : Service) : Prop where
  /-- No epoch goes down, and a circuit that has come to be open is in a later epoch. -/
  epochs : ∀ accountId v v', s₀.circuits accountId = some v → s₁.circuits accountId = some v' →
    ∀ scope, (v scope).epoch ≤ (v' scope).epoch ∧
      ((v' scope).state = .opened → v' scope ≠ v scope → (v scope).epoch < (v' scope).epoch)
  /-- A reservation is granted only while both circuits are not open; it names their probes. -/
  reserved : ∀ env accountId c d,
    (s₀.world.under env).journaled cfg accountId c = some (.attemptReserved d) →
    ∃ v generation, s₀.circuits accountId = some v ∧
      d.deploymentGenerationId = TypedId.text generation ∧ (v none).state ≠ .opened ∧
      (v (some generation)).state ≠ .opened ∧
      d.probes = [(v none).probeId, (v (some generation)).probeId].filterMap id
  /-- No two reservations ever name the same probe. -/
  once : s₀.log.Pairwise fun body body' => ∀ p ∈ body.namedProbes, p ∉ body'.namedProbes
  /-- A handle on a value that was current and has changed changes no circuit. -/
  stale : ∀ (probe : CircuitProbe) v v', s₀.circuits probe.accountId = some v →
    v probe.circuit = probe.value → s₁.circuits probe.accountId = some v' →
    v' probe.circuit ≠ probe.value → ∀ env replacement accountId,
      (s₂.step cfg env (.call probe.accountId
        (.swapCircuit probe.circuit probe.value replacement))).circuits accountId =
      s₂.circuits accountId

/-- A swap that expects another value than the current one changes no circuit. -/
theorem circuits_of_unexpected {accountId : AccountId} {scope : Option DeploymentGenerationId}
    {expected : CircuitValue}
    (h : ∀ v, s.circuits accountId = some v → v scope ≠ expected) (env : ServiceEnv)
    (replacement : CircuitValue) (other : AccountId) :
    (s.step cfg env (.call accountId (.swapCircuit scope expected replacement))).circuits other =
      s.circuits other := by
  simp only [Service.step]
  split
  · cases hrt : (s.world.under env).state.runtimes.get? accountId with
    | none =>
      simp only [accountCall, hrt]
      rfl
    | some rt =>
      have hne : rt.scopedCircuit scope ≠ expected :=
        h _ (Option.map_eq_some_iff.mpr ⟨rt, hrt, rfl⟩)
      rcases accountCall_cases cfg hrt (.swapCircuit scope expected replacement) with
        ⟨rt', hidle, -, hw, -⟩ | ⟨body, mid, hasks, -⟩
      · simp only [circuits, hw]
        by_cases heq : other = accountId
        · subst heq
          have hrt₀ : s.world.state.runtimes.get? other = some rt := hrt
          rw [setRuntime_get?, hrt₀, Option.map_some, Option.map_some]
          exact congrArg some (congrArg CircuitView.circuit hidle.circuitView)
        · rw [(Untouched.setRuntime (s.world.under env) (s.world.under env) accountId rt' rfl).1
            other heq]
          rfl
      · simp only [asks, hne, false_and, if_false] at hasks
        cases hasks
  · rfl

/-- **Circuits are safe over whole runs.** -/
theorem circuits_safe (h : Reachable cfg (CircuitEvent cfg seed) s₀)
    (h₁ : Later cfg (CircuitEvent cfg seed) s₀ s₁) (h₂ : Later cfg (CircuitEvent cfg seed) s₁ s₂) :
    CircuitsSafe cfg s₀ s₁ s₂ := by
  have hmirrored₀ := h.mirrored
  obtain ⟨hmirrored₁, hgrows₁⟩ := Later.mirrored h₁ hmirrored₀
  obtain ⟨hmirrored₂, hgrows₂⟩ := Later.mirrored h₂ hmirrored₁
  have htracked : Tracked s₀.log := Grows.tracked hmirrored₀.lawful
  refine ⟨fun accountId v v' hv hv' scope => ?_, fun env accountId c d hd => ?_, htracked.once,
    fun probe v v' hv hcurrent hv' hchanged env replacement accountId => ?_⟩
  · rw [← circuits_eq hmirrored₀ hv, ← circuits_eq hmirrored₁ hv']
    exact hgrows₁.epoch accountId scope
  · cases hrt : (s₀.world.under env).state.runtimes.get? accountId with
    | none => simp only [journaled, hrt] at hd; cases hd
    | some rt =>
      rcases accountCall_cases cfg hrt c with
        ⟨rt', -, hnone, -⟩ | ⟨body, mid, -, hbody, -, hguard, -⟩
      · rw [hnone] at hd
        cases hd
      · rw [hbody] at hd
        cases hd
        obtain ⟨status, clock, request, hadmits, rfl, -⟩ := hguard
        obtain ⟨-, haccount, hgeneration, hprobes, -⟩ := hadmits.circuits
        exact ⟨rt.scopedCircuit, request.deploymentGenerationId,
          Option.map_eq_some_iff.mpr ⟨rt, hrt, rfl⟩, rfl, haccount, hgeneration, hprobes⟩
  · -- the probe of the handle was issued before it was current, so its value cannot come back
    obtain ⟨p, hp⟩ := Option.ne_none_iff_exists'.mp
      (probe.value.state_fields_match.2.2 probe.halfOpen)
    have hissued : ¬ Unissued s₀.log p := by
      refine htracked.issued probe.accountId probe.circuit p ?_
      rw [circuits_eq hmirrored₀ hv, hcurrent]
      exact hp
    refine circuits_of_unexpected (fun v'' hv'' => ?_) env replacement accountId
    rw [← circuits_eq hmirrored₂ hv'']
    refine hgrows₂.stale hp (hgrows₁.not_unissued hissued) ?_
    rw [circuits_eq hmirrored₁ hv']
    exact hchanged

/-! ## A run -/

def sampleSeed : CircuitController.BackoffSeed := fun _ _ => 7

/-- The provider is out of capacity for the whole account. -/
def sampleFailure : FailureClassification where
  cause := .capacity
  scope := .account
  evidenceDigest := sampleDigest.text
  preResponseBytes := true
  valid := by decide +kernel

/-- The swap that opens the account's circuit. -/
def openingSwap : CircuitSwap :=
  (CircuitController.open sampleSeed sampleAccountId sampleDeployment (CircuitValue.closed 0)
    (CircuitValue.closed 0) sampleFailure 10).get (by decide +kernel)

/-- The swap that begins a probe after the backoff. -/
def probingSwap : CircuitSwap :=
  (CircuitController.beginProbe sampleAccountId sampleDeployment openingSwap.replacement
    (CircuitValue.closed 0) 100_000 (TypedId.numbered .probe 1)).get (by decide +kernel)

/-- The handle of the probe. -/
def sampleProbe : CircuitProbe where
  scope := .account
  accountId := sampleAccountId
  generationId := sampleDeployment
  value := probingSwap.replacement
  halfOpen := by decide +kernel

/-- The swap after the probe has failed. -/
def failingSwap : CircuitSwap :=
  (CircuitController.probeFailed sampleSeed sampleProbe sampleFailure 100_100).get
    (by decide +kernel)

def swapEvent (swap : CircuitSwap) : ServiceEvent :=
  .call swap.accountId (.swapCircuit swap.scope swap.expected swap.replacement)

theorem circuitEvent_swapEvent {swap : CircuitSwap} (hasks : CircuitController.Asks seed swap)
    (hnew : ∀ p, swap.replacement.probeId = some p → Unissued s.log p) :
    CircuitEvent cfg seed s (swapEvent swap) :=
  ⟨hasks, hnew⟩

/-- A start, and the account's circuit is opened. -/
def openedEvents : List ServiceEvent :=
  [.restart (startedAt 5) [meteredAccount], swapEvent openingSwap]

def probedEvents : List ServiceEvent := openedEvents ++ [swapEvent probingSwap]

def failedEvents : List ServiceEvent := probedEvents ++ [swapEvent failingSwap]

theorem runs_snoc (cfg : RuntimeConfig) (events : List ServiceEvent) (e : ServiceEvent) :
    runs cfg (events ++ [e]) = (runs cfg events).step cfg ServiceEnv.ample e :=
  List.foldl_append

/-- The probe was waited for, has failed, and its handle changes nothing any more. -/
theorem failed_probe_stale :
    (((runs sampleConfig probedEvents).circuits sampleAccountId).map fun v => (v none).state) =
        some .halfOpen ∧
      (((runs sampleConfig failedEvents).circuits sampleAccountId).map
        fun v => ((v none).state, (v none).epoch)) = some (.opened, 2) ∧
      CircuitsSafe sampleConfig (runs sampleConfig probedEvents) (runs sampleConfig failedEvents)
        (runs sampleConfig failedEvents) := by
  have hopening : CircuitEvent sampleConfig sampleSeed
      (created.step sampleConfig ServiceEnv.ample (.restart (startedAt 5) [meteredAccount]))
      (swapEvent openingSwap) := by
    refine circuitEvent_swapEvent (.opened (Option.some_get _).symm) fun p hp => ?_
    have hnone : openingSwap.replacement.probeId = none := by decide +kernel
    rw [hnone] at hp
    cases hp
  have hopened : Reachable sampleConfig (CircuitEvent sampleConfig sampleSeed)
      (runs sampleConfig openedEvents) :=
    (Reachable.created.step ServiceEnv.ample _ trivial).step ServiceEnv.ample _ hopening
  have hprobing : CircuitEvent sampleConfig sampleSeed (runs sampleConfig openedEvents)
      (swapEvent probingSwap) := by
    refine circuitEvent_swapEvent (.began (Option.some_get _).symm) fun p hp => ?_
    have hnew : ∀ body ∈ (runs sampleConfig openedEvents).log,
        body.issuedProbe ≠ probingSwap.replacement.probeId := by decide +kernel
    rw [hp] at hnew
    exact hnew
  have hprobed : Reachable sampleConfig (CircuitEvent sampleConfig sampleSeed)
      (runs sampleConfig probedEvents) := by
    rw [probedEvents, runs_snoc]
    exact hopened.step ServiceEnv.ample _ hprobing
  have hfailing : CircuitEvent sampleConfig sampleSeed (runs sampleConfig probedEvents)
      (swapEvent failingSwap) := by
    refine circuitEvent_swapEvent (.failed (Option.some_get _).symm) fun p hp => ?_
    have hnone : failingSwap.replacement.probeId = none := by decide +kernel
    rw [hnone] at hp
    cases hp
  have hfailed : Later sampleConfig (CircuitEvent sampleConfig sampleSeed)
      (runs sampleConfig probedEvents) (runs sampleConfig failedEvents) :=
    .single ⟨ServiceEnv.ample, swapEvent failingSwap, hfailing, runs_snoc _ _ _⟩
  exact ⟨by decide +kernel, by decide +kernel, circuits_safe hprobed hfailed .refl⟩

end Service

end LlmMaxxing
