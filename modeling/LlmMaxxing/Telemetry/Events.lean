import LlmMaxxing.Core.Canonical
import LlmMaxxing.Lib.JsonLength

/-!
# Lifecycle events (`telemetry/events.py`)

An event carries typed identifiers, closed vocabularies and bounded integers only. Its dump leaves
out what is absent; the canonical bytes of the dump are the sole form the spool stores.
-/

namespace LlmMaxxing.Telemetry

open Json Check

/-- `MAX_EVENT_BYTES`. -/
def maxEventBytes : Nat := 4096

/-- The six V1 records. -/
inductive LifecycleEventKind where
  | requestAdmitted | requestQueued | requestAdmissionEvent | requestTerminal | attemptReserved
  | attemptResolved
  deriving DecidableEq, Repr

instance : StrEnum LifecycleEventKind where
  value
    | .requestAdmitted => "request_admitted"
    | .requestQueued => "request_queued"
    | .requestAdmissionEvent => "request_admission_event"
    | .requestTerminal => "request_terminal"
    | .attemptReserved => "attempt_reserved"
    | .attemptResolved => "attempt_resolved"
  members := [
    .requestAdmitted, .requestQueued, .requestAdmissionEvent,
    .requestTerminal, .attemptReserved, .attemptResolved]

/-- Closed event reasons. -/
inductive LifecycleReason where
  | authzDenied | authStateUnavailable | unsupportedRequest | backpressureRejected
  | routeUnavailable | deadlineExceeded | upstreamFailed | clientCancelled | responseStreamFailed
  | completed
  | accountNotActive | accountNotFound | attemptDuplicate | circuitChanged | circuitUnavailable
  | invalidQuotaCharge | journalCapacityStop | journalUnavailable | monthlyQuotaExhausted
  | monthlyResetUnavailable | parallelExhausted | recoveryRequired | rpmExhausted | tpmExhausted
  | crashRecovery | upstreamUnknown | profileAccepted | queuedContraction | spoolPressure
  | predispatchDeadline | telemetrySpoolExhausted | writerUnavailable | lifecycleInvariant
  deriving DecidableEq, Repr

instance : StrEnum LifecycleReason where
  value
    | .authzDenied => "authz_denied"
    | .authStateUnavailable => "auth_state_unavailable"
    | .unsupportedRequest => "unsupported_request"
    | .backpressureRejected => "backpressure_rejected"
    | .routeUnavailable => "route_unavailable"
    | .deadlineExceeded => "deadline_exceeded"
    | .upstreamFailed => "upstream_failed"
    | .clientCancelled => "client_cancelled"
    | .responseStreamFailed => "response_stream_failed"
    | .completed => "completed"
    | .accountNotActive => "account_not_active"
    | .accountNotFound => "account_not_found"
    | .attemptDuplicate => "attempt_duplicate"
    | .circuitChanged => "circuit_changed"
    | .circuitUnavailable => "circuit_unavailable"
    | .invalidQuotaCharge => "invalid_quota_charge"
    | .journalCapacityStop => "journal_capacity_stop"
    | .journalUnavailable => "journal_unavailable"
    | .monthlyQuotaExhausted => "monthly_quota_exhausted"
    | .monthlyResetUnavailable => "monthly_reset_unavailable"
    | .parallelExhausted => "parallel_exhausted"
    | .recoveryRequired => "recovery_required"
    | .rpmExhausted => "rpm_exhausted"
    | .tpmExhausted => "tpm_exhausted"
    | .crashRecovery => "crash_recovery"
    | .upstreamUnknown => "upstream_unknown"
    | .profileAccepted => "profile_accepted"
    | .queuedContraction => "queued_contraction"
    | .spoolPressure => "spool_pressure"
    | .predispatchDeadline => "predispatch_deadline"
    | .telemetrySpoolExhausted => "telemetry_spool_exhausted"
    | .writerUnavailable => "writer_unavailable"
    | .lifecycleInvariant => "lifecycle_invariant"
  members := [
    .authzDenied, .authStateUnavailable, .unsupportedRequest, .backpressureRejected,
    .routeUnavailable, .deadlineExceeded, .upstreamFailed, .clientCancelled, .responseStreamFailed,
    .completed,
    .accountNotActive, .accountNotFound, .attemptDuplicate, .circuitChanged, .circuitUnavailable,
    .invalidQuotaCharge, .journalCapacityStop, .journalUnavailable, .monthlyQuotaExhausted,
    .monthlyResetUnavailable, .parallelExhausted, .recoveryRequired, .rpmExhausted, .tpmExhausted,
    .crashRecovery, .upstreamUnknown, .profileAccepted, .queuedContraction, .spoolPressure,
    .predispatchDeadline, .telemetrySpoolExhausted, .writerUnavailable, .lifecycleInvariant]

/-! ## Fields -/

/-- `_Milliseconds` and `_Tokens`: a nonnegative safe integer. -/
structure SafeCount where
  value : Nat
  safe : value ≤ maxSafeInteger
  deriving DecidableEq

/-- `_PositiveMilliseconds`. -/
structure PositiveMilliseconds where
  value : Nat
  pos : 1 ≤ value
  safe : value ≤ maxSafeInteger
  deriving DecidableEq

/-- `_KeyId`. -/
structure KeyId where
  text : String
  valid : isHex32 text = true
  deriving DecidableEq

structure LifecycleTimingsV1 where
  queueWaitMs : Option SafeCount := none
  ttftMs : Option SafeCount := none
  durationMs : Option SafeCount := none
  /-- "at least one lifecycle timing is required" -/
  hasMeasurement : ¬ (queueWaitMs = none ∧ ttftMs = none ∧ durationMs = none) := by decide
  deriving DecidableEq

structure LifecycleTokenActualsV1 where
  input : Option SafeCount := none
  output : Option SafeCount := none
  reasoning : Option SafeCount := none
  /-- "at least one token actual is required" -/
  hasMeasurement : ¬ (input = none ∧ output = none ∧ reasoning = none) := by decide
  deriving DecidableEq

/-- The fields of `LifecycleEventV1`; `schema_version` is always 1. -/
structure EventFields where
  eventId : EventId
  requestId : RequestId
  attemptId : Option AttemptId := none
  kind : LifecycleEventKind
  occurredAtMs : PositiveMilliseconds
  installationId : InstallationId
  bootId : GatewayBootId
  keyId : KeyId
  routeGroupId : Option RouteGroupId := none
  accountId : Option AccountId := none
  deploymentGenerationId : Option DeploymentGenerationId := none
  trigger : Option RouteTrigger := none
  outcome : Option TerminalOutcome := none
  reason : Option LifecycleReason := none
  timingsMs : Option LifecycleTimingsV1 := none
  tokenActuals : Option LifecycleTokenActualsV1 := none
  spillFromAccountId : Option AccountId := none
  uncertain : Option Bool := none
  headersAtMs : Option PositiveMilliseconds := none
  firstByteAtMs : Option PositiveMilliseconds := none
  finalByteAtMs : Option PositiveMilliseconds := none
  leaseReleasedAtMs : Option PositiveMilliseconds := none
  /-- `ge=0, le=4` -/
  attemptsUsed : Option (Fin 5) := none
  deriving DecidableEq

/-! ## The dump -/

/-- The members that are present (`exclude_none`). -/
def present (members : List (String × Option Json)) : List (String × Json) :=
  members.filterMap fun q => q.2.map fun v => (q.1, v)

def SafeCount.json (n : SafeCount) : Json := .num n.value

def PositiveMilliseconds.json (n : PositiveMilliseconds) : Json := .num n.value

def LifecycleTimingsV1.json (t : LifecycleTimingsV1) : Json := .obj (present [
  ("queue_wait_ms", t.queueWaitMs.map SafeCount.json),
  ("ttft_ms", t.ttftMs.map SafeCount.json),
  ("duration_ms", t.durationMs.map SafeCount.json)])

def LifecycleTokenActualsV1.json (t : LifecycleTokenActualsV1) : Json := .obj (present [
  ("input", t.input.map SafeCount.json),
  ("output", t.output.map SafeCount.json),
  ("reasoning", t.reasoning.map SafeCount.json)])

/-- An identifier as JSON. -/
def idJson {k : IdKind} (a : TypedId k) : Json := .str a.text

/-- A member of a closed vocabulary as JSON. -/
def wordJson {α : Type} [StrEnum α] (a : α) : Json := .str (StrEnum.value a)

namespace EventFields

/-- Every member in the order of its declaration. -/
def members (e : EventFields) : List (String × Option Json) := [
  ("schema_version", some (.num 1)),
  ("event_id", some (idJson e.eventId)),
  ("request_id", some (idJson e.requestId)),
  ("attempt_id", e.attemptId.map idJson),
  ("kind", some (wordJson e.kind)),
  ("occurred_at_ms", some e.occurredAtMs.json),
  ("installation_id", some (idJson e.installationId)),
  ("boot_id", some (idJson e.bootId)),
  ("key_id", some (.str e.keyId.text)),
  ("route_group_id", e.routeGroupId.map idJson),
  ("account_id", e.accountId.map idJson),
  ("deployment_generation_id", e.deploymentGenerationId.map idJson),
  ("trigger", e.trigger.map wordJson),
  ("outcome", e.outcome.map wordJson),
  ("reason", e.reason.map wordJson),
  ("timings_ms", e.timingsMs.map LifecycleTimingsV1.json),
  ("token_actuals", e.tokenActuals.map LifecycleTokenActualsV1.json),
  ("spill_from_account_id", e.spillFromAccountId.map idJson),
  ("uncertain", e.uncertain.map .bool),
  ("headers_at_ms", e.headersAtMs.map PositiveMilliseconds.json),
  ("first_byte_at_ms", e.firstByteAtMs.map PositiveMilliseconds.json),
  ("final_byte_at_ms", e.finalByteAtMs.map PositiveMilliseconds.json),
  ("lease_released_at_ms", e.leaseReleasedAtMs.map PositiveMilliseconds.json),
  ("attempts_used", e.attemptsUsed.map fun n : Fin 5 => .num (n.val : Int))]

/-- `event.model_dump(mode="json", exclude_none=True)`. -/
def dump (e : EventFields) : Json := .obj (present e.members)

/-- `canonical_event_bytes`. -/
def canonicalEventBytes (e : EventFields) : Except CanonicalError Bytes := serialize e.dump

/-! ## Validation -/

/-- Which fields of `attempt_identity` are present. -/
def attemptIdentity (e : EventFields) : List Bool := [
  e.attemptId.isSome, e.accountId.isSome, e.deploymentGenerationId.isSome, e.trigger.isSome]

/-- Which fields of `resolution_fields` are present. -/
def resolutionFields (e : EventFields) : List Bool := [
  e.tokenActuals.isSome, e.uncertain.isSome, e.headersAtMs.isSome, e.firstByteAtMs.isSome,
  e.finalByteAtMs.isSome, e.leaseReleasedAtMs.isSome]

/-- Which fields of `attempt_observations` are present. -/
def attemptObservations (e : EventFields) : List Bool :=
  e.spillFromAccountId.isSome :: e.resolutionFields

/-- `kind in _ATTEMPT_KINDS`. -/
def isAttempt (e : EventFields) : Bool :=
  match e.kind with
  | .attemptReserved | .attemptResolved => true
  | _ => false

/-- The fields the kind allows and demands. -/
def kindFields (e : EventFields) : Except String Unit := do
  require (e.isAttempt = true → e.attemptIdentity.all id = true)
    "attempt event requires complete attempt identity"
  require (e.isAttempt = false → (e.attemptIdentity ++ e.attemptObservations).any id = false)
    "request event forbids attempt fields"
  match e.kind with
  | .attemptReserved =>
    require (e.outcome = none ∧ e.resolutionFields.any id = false)
      "attempt reservation forbids resolution fields"
  | .attemptResolved =>
    require (e.outcome ≠ none ∧ e.uncertain ≠ none)
      "attempt resolution requires outcome and certainty"
  | .requestTerminal =>
    require (e.outcome ≠ none ∧ e.attemptsUsed ≠ none)
      "request terminal requires outcome and attempts_used"
  | _ =>
    require (e.outcome = none ∧ e.attemptsUsed = none)
      "nonterminal request event forbids terminal fields"

/-- `_kind_fields_and_size`. -/
def kindFieldsAndSize (e : EventFields) : Except String Unit := do
  e.kindFields
  match e.canonicalEventBytes with
  | .ok bytes => require (bytes.length ≤ maxEventBytes) "lifecycle event exceeds 4096 bytes"
  | .error _ => .error "integer exceeds the safe range"

end EventFields

/-- `LifecycleEventV1`. -/
structure LifecycleEventV1 extends EventFields where
  valid : toEventFields.kindFieldsAndSize = .ok ()

instance : DecidableEq LifecycleEventV1 := fun a b =>
  if h : a.toEventFields = b.toEventFields then
    isTrue (by cases a; cases b; cases h; rfl)
  else isFalse fun e => h (congrArg LifecycleEventV1.toEventFields e)

/-! ## The size of a dump -/

/-- A value that serializes, parses back, and takes at most `n` bytes. -/
structure Compact (n : Nat) (v : Json) : Prop where
  safe : safeInts v = true
  distinct : v.Holds fun _ => True
  small : v.byteBound ≤ n

theorem Compact.mono {m n : Nat} (hmn : m ≤ n) {v : Json} (h : Compact m v) : Compact n v :=
  ⟨h.safe, h.distinct, h.small.trans hmn⟩

theorem compact_bool (b : Bool) : Compact 5 (.bool b) := ⟨rfl, trivial, le_refl 5⟩

theorem compact_num {n : Nat} (h : n ≤ maxSafeInteger) : Compact 16 (.num n) where
  safe := by simpa [safeInts] using h
  distinct := trivial
  small := (Nat.length_toDigits_le_iff (by decide) (by decide)).mpr
    (lt_of_le_of_lt h (by decide))

theorem compact_str {s : String} (h : ∀ c ∈ s.toList, isPlain c = true) :
    Compact (s.toList.length + 2) (.str s) :=
  ⟨rfl, trivial, (quotedBytes_of_plain h).le⟩

theorem isPlain_of_isLowerHex {c : Char} (h : isLowerHex c = true) : isPlain c = true := by
  have hvalue : (0x30 ≤ c.toNat ∧ c.toNat ≤ 0x39) ∨ (0x61 ≤ c.toNat ∧ c.toNat ≤ 0x66) := by
    simp only [isLowerHex, Bool.or_eq_true, Bool.and_eq_true, decide_eq_true_eq, Char.le_def,
      UInt32.le_iff_toNat_le] at h
    exact h
  have hne : ∀ d : Char, d.toNat < 0x30 ∨ d.toNat = 0x5c → c ≠ d := fun d hd e => by
    subst e
    omega
  simp only [isPlain, Bool.and_eq_true, decide_eq_true_eq, bne_iff_ne, ne_eq]
  exact ⟨⟨⟨by omega, by omega⟩, hne '"' (by decide)⟩, hne '\\' (by decide)⟩

theorem isPlain_of_isHexOfLength {n : Nat} {cs : List Char} (h : isHexOfLength n cs = true) :
    cs.length = n ∧ ∀ c ∈ cs, isPlain c = true := by
  rw [isHexOfLength, Bool.and_eq_true, beq_iff_eq, List.all_eq_true] at h
  exact ⟨h.1, fun c hc => isPlain_of_isLowerHex (h.2 c hc)⟩

theorem isPlain_of_isUuid4 {cs : List Char} (h : isUuid4 cs = true) :
    cs.length = 36 ∧ ∀ c ∈ cs, isPlain c = true := by
  rw [isUuid4, Bool.and_eq_true, beq_iff_eq, List.all_eq_true] at h
  refine ⟨h.1, fun c hc => ?_⟩
  obtain ⟨i, hi, rfl⟩ := List.getElem_of_mem hc
  have hdigit := h.2 (cs[i], i) (List.mk_mem_zipIdx_iff_getElem?.mpr (List.getElem?_eq_getElem hi))
  simp only at hdigit
  split_ifs at hdigit
  · rw [beq_iff_eq] at hdigit
    rw [hdigit]
    decide
  · rw [beq_iff_eq] at hdigit
    rw [hdigit]
    decide
  · simp only [Bool.or_eq_true, beq_iff_eq] at hdigit
    rcases hdigit with ((hd | hd) | hd) | hd <;> rw [hd] <;> decide
  · exact isPlain_of_isLowerHex hdigit

/-- Every identifier is a plain text of at most 70 characters. -/
theorem isPlain_of_typedId {k : IdKind} (a : TypedId k) :
    a.text.toList.length ≤ 70 ∧ ∀ c ∈ a.text.toList, isPlain c = true := by
  have htag : k.tag.toList.length ≤ 6 ∧ ∀ c ∈ k.tag.toList, isPlain c = true := by
    rw [← List.all_eq_true]
    cases k <;> decide
  have hvalid := a.valid
  simp only [IdKind.accepts, Bool.and_eq_true, beq_iff_eq] at hvalid
  obtain ⟨hlead, hbody⟩ := hvalid
  have hrest : (a.text.toList.drop k.tag.toList.length).length ≤ 64 ∧
      ∀ c ∈ a.text.toList.drop k.tag.toList.length, isPlain c = true := by
    cases hk : k.body with
    | uuid =>
      simp only [hk] at hbody
      obtain ⟨hlen, hplain⟩ := isPlain_of_isUuid4 hbody
      exact ⟨by omega, hplain⟩
    | digest =>
      simp only [hk] at hbody
      obtain ⟨hlen, hplain⟩ := isPlain_of_isHexOfLength hbody
      exact ⟨hlen.le, hplain⟩
  rw [← List.take_append_drop k.tag.toList.length a.text.toList, hlead]
  refine ⟨by rw [List.length_append]; omega, fun c hc => ?_⟩
  rcases List.mem_append.mp hc with hc | hc
  · exact htag.2 c hc
  · exact hrest.2 c hc

theorem compact_id {k : IdKind} (a : TypedId k) : Compact 72 (idJson a) :=
  (compact_str (isPlain_of_typedId a).2).mono (Nat.add_le_add_right (isPlain_of_typedId a).1 2)

theorem compact_hex {n : Nat} {s : String} (h : isHexOfLength n s.toList = true) :
    Compact (n + 2) (.str s) :=
  (compact_str (isPlain_of_isHexOfLength h).2).mono
    (Nat.add_le_add_right (isPlain_of_isHexOfLength h).1.le 2)

/-- The words of a vocabulary are as short and plain as its members say. -/
theorem compact_word {α : Type} [StrEnum α] {n : Nat}
    (h : ∀ a ∈ (StrEnum.members : List α), (StrEnum.value a).toList.length ≤ n ∧
      (StrEnum.value a).toList.all isPlain = true) (a : α) : Compact (n + 2) (wordJson a) :=
  have ha := h a (StrEnum.mem_members a)
  (compact_str (List.all_eq_true.mp ha.2)).mono (Nat.add_le_add_right ha.1 2)

/-- An object of compact members with short names is compact. -/
theorem compact_present (members : List (String × Option Json)) {m n : Nat}
    (hnames : (members.map Prod.fst).Nodup) (hshort : ∀ q ∈ members, quotedBytes q.1 ≤ m)
    (hvalues : ∀ q ∈ members, ∀ v, q.2 = some v → Compact n v) :
    Compact (members.length * (m + n + 2) + 2) (.obj (present members)) := by
  have hmem : ∀ q ∈ present members, (q.1, some q.2) ∈ members := by
    intro q hq
    obtain ⟨r, hr, hqr⟩ := List.mem_filterMap.mp hq
    obtain ⟨v, hv, rfl⟩ := Option.map_eq_some_iff.mp hqr
    rw [← hv]
    exact hr
  refine ⟨?_, ?_, ?_⟩
  · rw [safeInts, safeFields_iff]
    exact fun q hq => (hvalues _ (hmem q hq) q.2 rfl).safe
  · rw [holds_obj]
    refine ⟨?_, fun q hq => (hvalues _ (hmem q hq) q.2 rfl).distinct⟩
    have hsub : ((present members).map Prod.fst).Sublist (members.map Prod.fst) := by
      clear hnames hshort hvalues hmem
      induction members with
      | nil => exact .slnil
      | cons q rest ih =>
        obtain ⟨k, v⟩ := q
        cases v with
        | none => exact .cons k ih
        | some v => exact .cons_cons k ih
    exact hnames.sublist hsub
  · have hsum : boundFieldsBy quotedBytes (present members) ≤
        (present members).length * (m + n + 2) := by
      refine boundFieldsBy_le fun q hq => ?_
      have hname := hshort (q.1, some q.2) (hmem q hq)
      have hvalue := (hvalues (q.1, some q.2) (hmem q hq) q.2 rfl).small
      rw [byteBound] at hvalue
      simp only at hname
      omega
    have hlen : (present members).length * (m + n + 2) ≤ members.length * (m + n + 2) :=
      Nat.mul_le_mul_right _ (List.length_filterMap_le _ _)
    show boundFieldsBy quotedBytes (present members) + 2 ≤ _
    omega

theorem compact_counts {a b c : String} (hnames : [a, b, c].Nodup)
    (hshort : ∀ k ∈ [a, b, c], quotedBytes k ≤ 15) (x y z : Option SafeCount) :
    Compact 101 (.obj (present [
      (a, x.map SafeCount.json), (b, y.map SafeCount.json), (c, z.map SafeCount.json)])) := by
  refine compact_present [(a, x.map SafeCount.json), (b, y.map SafeCount.json),
    (c, z.map SafeCount.json)] (m := 15) (n := 16) hnames ?_ ?_
  · simpa using hshort
  · have hcount : ∀ (n : Option SafeCount) v, n.map SafeCount.json = some v → Compact 16 v := by
      intro n v hv
      obtain ⟨n, -, rfl⟩ := Option.map_eq_some_iff.mp hv
      exact compact_num n.safe
    simp only [List.mem_cons, List.not_mem_nil, or_false]
    rintro q (rfl | rfl | rfl) v hv
    · exact hcount x v hv
    · exact hcount y v hv
    · exact hcount z v hv

theorem compact_of_map {α : Type} {n : Nat} {f : α → Json} (hf : ∀ a, Compact n (f a))
    (x : Option α) (v : Json) (h : x.map f = some v) : Compact n v := by
  obtain ⟨a, -, rfl⟩ := Option.map_eq_some_iff.mp h
  exact hf a

namespace EventFields

theorem compact_of_mem_members (e : EventFields) :
    ∀ q ∈ e.members, ∀ v, q.2 = some v → Compact 101 v := by
  have hid : ∀ {k : IdKind} (a : TypedId k), Compact 101 (idJson a) := fun a =>
    (compact_id a).mono (by decide)
  have hms : ∀ n : PositiveMilliseconds, Compact 101 n.json := fun n =>
    (compact_num n.safe).mono (by decide)
  have hkind : ∀ w : LifecycleEventKind, Compact 101 (wordJson w) := fun w =>
    (compact_word (n := 32) (by decide +kernel) w).mono (by decide)
  have htrigger : ∀ w : RouteTrigger, Compact 101 (wordJson w) := fun w =>
    (compact_word (n := 32) (by decide +kernel) w).mono (by decide)
  have houtcome : ∀ w : TerminalOutcome, Compact 101 (wordJson w) := fun w =>
    (compact_word (n := 32) (by decide +kernel) w).mono (by decide)
  have hreason : ∀ w : LifecycleReason, Compact 101 (wordJson w) := fun w =>
    (compact_word (n := 32) (by decide +kernel) w).mono (by decide)
  have htimings : ∀ t : LifecycleTimingsV1, Compact 101 t.json := fun t =>
    compact_counts (by decide) (by decide +kernel) _ _ _
  have htokens : ∀ t : LifecycleTokenActualsV1, Compact 101 t.json := fun t =>
    compact_counts (by decide) (by decide +kernel) _ _ _
  have hused : ∀ n : Fin 5, Compact 101 (.num (n.val : Int)) := fun n =>
    (compact_num ((Nat.le_of_lt n.isLt).trans (by decide))).mono (by decide)
  have hone : Compact 101 (.num 1) := (compact_num (n := 1) (by decide)).mono (by decide)
  have hkey : Compact 101 (.str e.keyId.text) := (compact_hex e.keyId.valid).mono (by decide)
  have hflag : ∀ b : Bool, Compact 101 (.bool b) := fun b => (compact_bool b).mono (by decide)
  simp only [members, List.forall_mem_cons, Option.some.injEq, forall_eq', List.not_mem_nil,
    false_implies, implies_true, and_true]
  exact ⟨hone, hid _, hid _, compact_of_map hid _, hkind _, hms _, hid _, hid _, hkey,
    compact_of_map hid _, compact_of_map hid _, compact_of_map hid _, compact_of_map htrigger _,
    compact_of_map houtcome _, compact_of_map hreason _, compact_of_map htimings _,
    compact_of_map htokens _, compact_of_map hid _, compact_of_map hflag _, compact_of_map hms _,
    compact_of_map hms _, compact_of_map hms _, compact_of_map hms _, compact_of_map hused _⟩

/-- **The dump of an event is small**: every event, valid or not, fits well below the slot. -/
theorem compact_dump (e : EventFields) : Compact 3098 e.dump := by
  have hnames : (e.members.map Prod.fst).Nodup := by
    show ["schema_version", "event_id", "request_id", "attempt_id", "kind", "occurred_at_ms",
      "installation_id", "boot_id", "key_id", "route_group_id", "account_id",
      "deployment_generation_id", "trigger", "outcome", "reason", "timings_ms", "token_actuals",
      "spill_from_account_id", "uncertain", "headers_at_ms", "first_byte_at_ms",
      "final_byte_at_ms", "lease_released_at_ms", "attempts_used"].Nodup
    decide +kernel
  have hshort : ∀ q ∈ e.members, quotedBytes q.1 ≤ 26 := by
    simp only [members, List.forall_mem_cons, List.not_mem_nil, false_implies, implies_true,
      and_true]
    decide +kernel
  have hdump := compact_present e.members hnames hshort e.compact_of_mem_members
  rw [show e.members.length = 24 from rfl] at hdump
  exact hdump

end EventFields

end LlmMaxxing.Telemetry
