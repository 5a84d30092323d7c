import LlmMaxxing.Gateway.RecordEffect
import LlmMaxxing.Gateway.SampleRuntime
import LlmMaxxing.Lib.SlidingWindow

/-!
# Provider limits over whole runs

A run is any sequence of calls on one account and publications of it, with any clock readings and
any journal answers.
Beside the account the run keeps a log of its grants, written from the requests and the answers
only: when each was started, what it reserved and what its first accepted resolution reported.
The limits are stated on the log.

Every event does one of four things to what the limits depend on: it lets time pass (`Passes`:
windows are purged, the month may roll, attempts may go), it grants, it resolves, or it takes a
new publication. `Accounted` ties the log to the tables; it is kept by each of the four.
-/

namespace LlmMaxxing

open Check

/-- What happens to one account: a call, with the journal's answer, or a publication. -/
inductive AccountEvent where
  | call (c : AccountCall) (reply : Except RuntimeFault JournalReceipt)
  | publish (clock : Nat) (account : ProviderAccount)

/-- The account after an event. -/
def AccountRuntime.after (cfg : RuntimeConfig) (rt : AccountRuntime) : AccountEvent → AccountRuntime
  | .call c reply => rt.call cfg reply c
  | .publish clock account =>
    match rt.updateAccount clock account with
    | .ok rt' => rt'
    | .error _ => rt

/-! ## The log of grants -/

/-- One granted attempt: what it reserved, after how many monthly rolls, and what its resolution
reported. -/
structure Grant where
  attemptId : String
  startedAtMs : Nat
  reservedTokens : Nat
  quotaUnits : Nat
  rolls : Nat
  resolution : Option AttemptResolution := none
  deriving DecidableEq

namespace Grant

/-- Not resolved with zero starts. -/
def counted (g : Grant) : Bool := g.resolution.bind AttemptResolution.actualStarts != some 0

/-- The reserved bound until resolved, then the report, or the bound if there was none. -/
def tokenCharge (g : Grant) : Nat :=
  (g.resolution.bind AttemptResolution.actualTokenUnits).getD g.reservedTokens

def quotaCharge (g : Grant) : Nat :=
  (g.resolution.bind AttemptResolution.actualQuotaUnits).getD g.quotaUnits

/-- The start row that accounts for a grant. -/
def row (g : Grant) : Start := ⟨g.startedAtMs, g.tokenCharge, g.counted⟩

/-- The first accepted resolution stays. -/
def resolved (g : Grant) (r : AttemptResolution) : Grant :=
  { g with resolution := some (g.resolution.getD r) }

/-- The newest grant of an attempt id, in a log with the newest first. -/
def newest (attemptId : String) (log : List Grant) : Option Grant :=
  log.find? fun g => g.attemptId == attemptId

/-- Resolve the newest grant of an attempt id. -/
def resolveNewest (attemptId : String) (r : AttemptResolution) : List Grant → List Grant
  | [] => []
  | g :: rest =>
    if g.attemptId = attemptId then g.resolved r :: rest
    else g :: resolveNewest attemptId r rest

end Grant

/-- An account with the log of its grants, newest first, and the number of monthly rolls. -/
structure LoggedAccount where
  runtime : AccountRuntime
  log : List Grant
  rolls : Nat

namespace LoggedAccount

/-- An account at its construction. -/
def fresh (account : ProviderAccount) (clock : Nat) : LoggedAccount :=
  ⟨AccountRuntime.fresh account clock, [], 0⟩

/-- The month rolled in a call: its reset is reached and gone. -/
def rolled (rt rt' : AccountRuntime) : Bool :=
  rt.monthlyResetAtMs != 0 && rt'.monthlyResetAtMs != rt.monthlyResetAtMs &&
    rt.monthlyResetAtMs ≤ rt'.timeHighWaterMs

/-- What an event adds to the log. -/
def observe (cfg : RuntimeConfig) (rt : AccountRuntime) (rolls : Nat) (log : List Grant) :
    AccountEvent → List Grant
  | .call (.reserve status clock request) reply =>
    match rt.tryReserve cfg status clock reply request with
    | (rt', .granted _) =>
      { attemptId := request.attemptId.text
        startedAtMs := rt'.timeHighWaterMs
        reservedTokens := request.totalTokenUpperBound
        quotaUnits := request.quotaUnits
        rolls := rolls } :: log
    | _ => log
  | .call (.finish clock attemptId resolution) reply =>
    match rt.finish cfg clock reply attemptId resolution with
    | (_, .ok _) => Grant.resolveNewest attemptId resolution log
    | _ => log
  | _ => log

/-- One event, logged. -/
def step (cfg : RuntimeConfig) (s : LoggedAccount) (e : AccountEvent) : LoggedAccount :=
  let rt' := s.runtime.after cfg e
  let rolls := s.rolls + (rolled s.runtime rt').toNat
  ⟨rt', observe cfg s.runtime rolls s.log e, rolls⟩

/-- A sequence of events. -/
def run (cfg : RuntimeConfig) (s : LoggedAccount) (events : List AccountEvent) : LoggedAccount :=
  events.foldl (step cfg) s

end LoggedAccount

/-- Two publications of one account with the same limits and windows. -/
def SameLimits (a b : ProviderAccount) : Prop :=
  a.parallelLimit = b.parallelLimit ∧ a.localParallelCeiling = b.localParallelCeiling ∧
    a.rpmLimit = b.rpmLimit ∧ a.rpmWindowSeconds = b.rpmWindowSeconds ∧
    a.tpmLimit = b.tpmLimit ∧ a.tpmWindowSeconds = b.tpmWindowSeconds ∧
    a.monthlyQuotaUnits = b.monthlyQuotaUnits

instance (a b : ProviderAccount) : Decidable (SameLimits a b) :=
  inferInstanceAs (Decidable (_ ∧ _))

/-- An event that leaves the limits of `account` as they are. -/
def AccountEvent.KeepsLimits (account : ProviderAccount) : AccountEvent → Prop
  | .call _ _ => True
  | .publish _ published => SameLimits published account

/-! ## Letting time pass -/

namespace AccountRuntime

/-- What a call does that neither grants nor resolves nor publishes: rows young enough for a
window stay, held attempts may go but keep their charges, a held attempt keeps its resolution. -/
structure Passes (rt rt' : AccountRuntime) : Prop where
  account : rt'.account = rt.account
  time : rt.timeHighWaterMs ≤ rt'.timeHighWaterMs
  starts : ∀ id s, rt.starts.get? id = some s → rt'.timeHighWaterMs < s.startedAtMs + keepMs →
    rt'.starts.get? id = some s
  starts_old : ∀ id s, rt'.starts.get? id = some s → rt.starts.get? id = some s
  attempts : ∀ id a', rt'.attempts.get? id = some a' → ∃ a, rt.attempts.get? id = some a ∧
    a'.reservedTokens = a.reservedTokens ∧ a'.quotaUnits = a.quotaUnits ∧
    a'.monthlyResetAtMs = a.monthlyResetAtMs
  resolutions : ∀ id r, rt'.resolutions.get? id = some r → rt.resolutions.get? id = some r
  unresolved : ∀ id a', rt'.attempts.get? id = some a' → rt'.resolutions.get? id = none →
    rt.resolutions.get? id = none
  month : MonthPasses rt rt'

namespace Passes

theorem refl (rt : AccountRuntime) : Passes rt rt where
  account := rfl
  time := le_rfl
  starts _ _ h _ := h
  starts_old _ _ h := h
  attempts _ a' h := ⟨a', h, rfl, rfl, rfl⟩
  resolutions _ _ h := h
  unresolved _ _ _ h := h
  month := .inl ⟨rfl, rfl⟩

theorem trans {rt₁ rt₂ rt₃ : AccountRuntime} (h₁ : Passes rt₁ rt₂) (h₂ : Passes rt₂ rt₃) :
    Passes rt₁ rt₃ where
  account := h₂.account.trans h₁.account
  time := h₁.time.trans h₂.time
  starts id s h hyoung :=
    h₂.starts id s (h₁.starts id s h (lt_of_le_of_lt h₂.time hyoung)) hyoung
  starts_old id s h := h₁.starts_old id s (h₂.starts_old id s h)
  attempts id a₃ h := by
    obtain ⟨a₂, ha₂, ht, hq, hm⟩ := h₂.attempts id a₃ h
    obtain ⟨a₁, ha₁, ht', hq', hm'⟩ := h₁.attempts id a₂ ha₂
    exact ⟨a₁, ha₁, ht.trans ht', hq.trans hq', hm.trans hm'⟩
  resolutions id r h := h₁.resolutions id r (h₂.resolutions id r h)
  unresolved id a₃ h hnone := by
    obtain ⟨a₂, ha₂, -⟩ := h₂.attempts id a₃ h
    exact h₁.unresolved id a₂ ha₂ (h₂.unresolved id a₃ h hnone)
  month := h₁.month.trans h₂.month h₂.time

end Passes

theorem Idle.passes {rt rt' : AccountRuntime} (h : Idle rt rt') : Passes rt rt' where
  account := h.account
  time := h.time
  starts id s hs hyoung := h.young id s hs (.inl hyoung)
  starts_old _ _ hs := h.starts_old hs
  attempts id a' ha' := ⟨a', by rwa [h.attempts] at ha', rfl, rfl, rfl⟩
  resolutions _ _ hr := h.resolutions_old hr
  unresolved id a' ha' hnone := by
    rw [h.attempts] at ha'
    cases hres : rt.resolutions.get? id with
    | none => rfl
    | some r =>
      have hkept := h.held id r hres (Dict.contains_iff.mpr ⟨a', ha'⟩)
      rw [hkept] at hnone
      cases hnone
  month := h.month

/-- Held attempts may go, or change in what no limit depends on. -/
theorem Passes.of_attempts {rt : AccountRuntime} {attempts : Dict String Attempt} {holds : Nat}
    {probe : Option String}
    (h : ∀ id a', attempts.get? id = some a' → ∃ a, rt.attempts.get? id = some a ∧
      a'.reservedTokens = a.reservedTokens ∧ a'.quotaUnits = a.quotaUnits ∧
      a'.monthlyResetAtMs = a.monthlyResetAtMs) :
    Passes rt { rt with attempts := attempts, externalUncertainHolds := holds
                        recoveryProbeId := probe } :=
  { Passes.refl rt with attempts := h, unresolved := fun _ _ _ hnone => hnone }

theorem passes_markDispatched (rt : AccountRuntime) (clock : Nat)
    (reply : Except RuntimeFault JournalReceipt) (attemptId : String) :
    Passes rt (rt.markDispatched clock reply attemptId).1 := by
  rcases markDispatched_cases rt clock reply attemptId with
    h | h | ⟨attempt, receipt, -, -, -, -, -, h⟩
  · rw [h]; exact Passes.refl rt
  · rw [h]; exact (idle_tick rt clock).passes
  · rw [h]
    refine (idle_tick rt clock).passes.trans (Passes.of_attempts fun id a' ha' => ?_)
    rw [Dict.get?_modify] at ha'
    split at ha'
    · obtain ⟨a, ha, rfl⟩ := Option.map_eq_some_iff.mp ha'
      exact ⟨a, ha, rfl, rfl, rfl⟩
    · exact ⟨a', ha', rfl, rfl, rfl⟩

theorem passes_compareAndSwap (rt : AccountRuntime) (reply : Except RuntimeFault JournalReceipt)
    (scope : Option DeploymentGenerationId) (expected replacement : CircuitValue) :
    Passes rt (rt.compareAndSwap reply scope expected replacement).1 := by
  rcases compareAndSwap_cases rt reply scope expected replacement with
    h | ⟨-, -, -, -, h⟩
  · rw [h]; exact Passes.refl rt
  · rw [h]
    cases scope with
    | none => exact { Passes.refl rt with unresolved := fun _ _ _ hnone => hnone }
    | some generation => exact { Passes.refl rt with unresolved := fun _ _ _ hnone => hnone }

theorem passes_setActiveCount (rt : AccountRuntime) (count : Nat) :
    Passes rt (rt.setActiveCount count) := by
  refine Passes.of_attempts fun id a' ha' => ?_
  rw [Dict.get?_filter] at ha'
  exact ⟨a', (Option.filter_eq_some_iff.mp ha').1, rfl, rfl, rfl⟩

theorem passes_endRecoveryProbe (rt : AccountRuntime) (classification : ProbeClassification) :
    Passes rt (rt.endRecoveryProbe classification) := by
  rcases endRecoveryProbe_cases rt classification with h | h | ⟨oldest, h⟩
  · rw [h]; exact Passes.of_attempts fun id a' ha' => ⟨a', ha', rfl, rfl, rfl⟩
  · rw [h]; exact Passes.of_attempts fun id a' ha' => ⟨a', ha', rfl, rfl, rfl⟩
  · rw [h]
    refine Passes.of_attempts fun id a' ha' => ?_
    rw [Dict.get?_erase] at ha'
    split at ha'
    · cases ha'
    · exact ⟨a', ha', rfl, rfl, rfl⟩

/-- What a report leaves of the units of the month. -/
theorem monthlyUsed_resolve (rt : AccountRuntime) (id : String) (a : Attempt) (r : AttemptResolution)
    (digest : String) (receipt : JournalReceipt) (resolvedAtMs : Nat) :
    (rt.resolve id a r digest receipt resolvedAtMs).monthlyUsed =
      r.actualQuotaUnits.elim rt.monthlyUsed fun actual =>
        if a.monthlyResetAtMs = rt.monthlyResetAtMs then
          refund rt.monthlyUsed actual a.quotaUnits
        else rt.monthlyUsed := by
  unfold resolve
  cases r.actualQuotaUnits <;> rfl

end AccountRuntime

/-! ## The newest grant of an attempt id -/

namespace Grant

variable {id : String} {r : AttemptResolution} {log : List Grant}

theorem newest_cons (g : Grant) :
    newest id (g :: log) = if g.attemptId = id then some g else newest id log := by
  by_cases h : g.attemptId = id <;> simp [newest, h]

/-- Where the newest grant stands, and what resolving it does to the log. -/
theorem newest_split {g : Grant} (h : newest id log = some g) :
    ∃ before after, log = before ++ g :: after ∧ g.attemptId = id ∧
      (∀ x ∈ before, x.attemptId ≠ id) ∧
      resolveNewest id r log = before ++ g.resolved r :: after := by
  induction log with
  | nil => cases h
  | cons x rest ih =>
    rw [newest_cons] at h
    split at h
    · next hx =>
      cases h
      exact ⟨[], rest, rfl, hx, by simp, by simp [resolveNewest, hx]⟩
    · next hx =>
      obtain ⟨before, after, hlog, hid, hbefore, hresolve⟩ := ih h
      refine ⟨x :: before, after, by rw [hlog]; rfl, hid, ?_, ?_⟩
      · exact List.forall_mem_cons.mpr ⟨hx, hbefore⟩
      · rw [resolveNewest, if_neg hx, hresolve]; rfl

theorem newest_resolveNewest {id' : String} {g : Grant} (h : newest id log = some g) :
    newest id' (resolveNewest id r log) =
      if id' = id then some (g.resolved r) else newest id' log := by
  induction log with
  | nil => cases h
  | cons x rest ih =>
    rw [newest_cons] at h
    rw [resolveNewest, newest_cons (g := x)]
    by_cases hx : x.attemptId = id
    · rw [if_pos hx] at h ⊢
      cases h
      rw [newest_cons, show (g.resolved r).attemptId = id from hx]
      by_cases hid : id' = id
      · rw [if_pos hid.symm, if_pos hid]
      · rw [if_neg fun e => hid e.symm, if_neg hid, if_neg fun e => hid (e.symm.trans hx)]
    · rw [if_neg hx] at h ⊢
      rw [newest_cons, ih h]
      by_cases hxid : x.attemptId = id'
      · have hne : id' ≠ id := fun e => hx (hxid.trans e)
        rw [if_pos hxid, if_pos hxid, if_neg hne]
      · rw [if_neg hxid, if_neg hxid]

/-- A grant that is resolved already is left as it is. -/
theorem resolved_of_ne_none {g : Grant} (h : g.resolution ≠ none) : g.resolved r = g := by
  obtain ⟨r', hr'⟩ := Option.ne_none_iff_exists'.mp h
  cases g
  simp only at hr'
  simp [resolved, hr']

end Grant

/-! ## The log and the tables -/

/-- The quota charged since the last monthly roll. -/
def LoggedAccount.monthlyCharge (s : LoggedAccount) : Nat :=
  ((s.log.filter fun g => g.rolls == s.rolls).map Grant.quotaCharge).sum

/-- When the month of a held attempt and the current month are told apart by their resets. -/
def LoggedAccount.Dated (s : LoggedAccount) (a : Attempt) (g : Grant) : Prop :=
  (g.rolls = s.rolls ∧ a.monthlyResetAtMs ≤ s.runtime.monthlyResetAtMs) ∨
    (a.monthlyResetAtMs ≤ s.runtime.timeHighWaterMs ∧
      (s.runtime.monthlyResetAtMs = 0 ∨ a.monthlyResetAtMs < s.runtime.monthlyResetAtMs))

theorem LoggedAccount.Dated.congr {s : LoggedAccount} {a a' : Attempt} {g g' : Grant}
    (h : s.Dated a g) (ha : a'.monthlyResetAtMs = a.monthlyResetAtMs) (hg : g'.rolls = g.rolls) :
    s.Dated a' g' := by
  unfold Dated
  rw [ha, hg]
  exact h

/-- The tables account for the log. -/
structure Accounted (s : LoggedAccount) : Prop where
  past : ∀ g ∈ s.log, g.startedAtMs ≤ s.runtime.timeHighWaterMs
  rolls_le : ∀ g ∈ s.log, g.rolls ≤ s.rolls
  rows : ∀ g ∈ s.log, s.runtime.timeHighWaterMs < g.startedAtMs + keepMs →
    s.runtime.starts.get? g.attemptId = some g.row
  reused : s.log.Pairwise fun newer older =>
    newer.attemptId = older.attemptId → older.startedAtMs + keepMs ≤ s.runtime.timeHighWaterMs
  held : ∀ id a, s.runtime.attempts.get? id = some a → ∃ g, Grant.newest id s.log = some g ∧
    g.reservedTokens = a.reservedTokens ∧ g.quotaUnits = a.quotaUnits ∧
    (s.runtime.resolutions.get? id = none → g.resolution = none) ∧ s.Dated a g
  done : ∀ id r, s.runtime.resolutions.get? id = some r → ∃ g, Grant.newest id s.log = some g ∧
    g.resolution ≠ none
  undated : s.runtime.account.monthlyQuotaUnits.status = .known →
    ∀ id a, s.runtime.attempts.get? id = some a → a.monthlyResetAtMs = 0 → a.quotaUnits = 0
  charged : s.runtime.account.monthlyQuotaUnits.status = .known →
    s.monthlyCharge ≤ s.runtime.monthlyUsed

namespace Accounted

open AccountRuntime LoggedAccount

variable {cfg : RuntimeConfig} {s : LoggedAccount}

theorem fresh (account : ProviderAccount) (clock : Nat) :
    Accounted (LoggedAccount.fresh account clock) where
  past _ h := by simp [LoggedAccount.fresh] at h
  rolls_le _ h := by simp [LoggedAccount.fresh] at h
  rows _ h := by simp [LoggedAccount.fresh] at h
  reused := List.Pairwise.nil
  held _ _ h := by simp [LoggedAccount.fresh, AccountRuntime.fresh] at h
  done _ _ h := by simp [LoggedAccount.fresh, AccountRuntime.fresh] at h
  undated _ _ _ h := by simp [LoggedAccount.fresh, AccountRuntime.fresh] at h
  charged _ := Nat.zero_le _

/-- A month with more rolls than any grant has seen is empty. -/
theorem monthlyCharge_eq_zero {rt : AccountRuntime} {rolls : Nat}
    (h : ∀ g ∈ s.log, g.rolls < rolls) :
    LoggedAccount.monthlyCharge ⟨rt, s.log, rolls⟩ = 0 := by
  have hnone : (s.log.filter fun g => g.rolls == rolls) = [] := by
    rw [List.filter_eq_nil_iff]
    intro g hg
    have := h g hg
    simpa using Nat.ne_of_lt this
  rw [LoggedAccount.monthlyCharge]
  simp only [hnone, List.map_nil, List.sum_nil]

/-- **Time passes.** -/
theorem passes (h : Accounted s) {rt' : AccountRuntime} (hp : Passes s.runtime rt') :
    Accounted ⟨rt', s.log, s.rolls + (rolled s.runtime rt').toNat⟩ := by
  have htime := hp.time
  have hrolls : s.rolls ≤ s.rolls + (rolled s.runtime rt').toNat := Nat.le_add_right _ _
  -- the ghost roll is the roll of the counter
  have hmonth : (rolled s.runtime rt' = false ∧ rt'.monthlyUsed = s.runtime.monthlyUsed ∧
      rt'.monthlyResetAtMs = s.runtime.monthlyResetAtMs) ∨
      (rolled s.runtime rt' = true ∧ rt'.monthlyUsed = 0 ∧ rt'.monthlyResetAtMs = 0 ∧
        s.runtime.monthlyResetAtMs ≤ rt'.timeHighWaterMs) := by
    rcases hp.month with ⟨hu, hr⟩ | ⟨hne, hle, hu, hr⟩
    · exact .inl ⟨by simp [rolled, hr], hu, hr⟩
    · refine .inr ⟨?_, hu, hr, hle⟩
      simp only [rolled, hr, Bool.and_eq_true, bne_iff_ne, ne_eq, decide_eq_true_eq]
      exact ⟨⟨hne, fun e => hne e.symm⟩, hle⟩
  refine
    { past := fun g hg => (h.past g hg).trans htime
      rolls_le := fun g hg => (h.rolls_le g hg).trans hrolls
      rows := fun g hg hyoung => hp.starts _ _ (h.rows g hg (lt_of_le_of_lt htime hyoung)) hyoung
      reused := h.reused.imp fun hold heq => (hold heq).trans htime
      held := ?_
      done := fun id r hr => h.done id r (hp.resolutions id r hr)
      undated := ?_
      charged := ?_ }
  · intro id a' ha'
    obtain ⟨a, ha, ht, hq, hm⟩ := hp.attempts id a' ha'
    obtain ⟨g, hg, hgt, hgq, hgr, hdated⟩ := h.held id a ha
    refine ⟨g, hg, hgt.trans ht.symm, hgq.trans hq.symm,
      fun hnone => hgr (hp.unresolved id a' ha' hnone), ?_⟩
    simp only [Dated, hm] at hdated ⊢
    rcases hmonth with ⟨hroll, -, hr⟩ | ⟨-, -, hr, hle⟩
    · rw [hr, hroll]
      rcases hdated with hd | ⟨hd, hd'⟩
      · exact .inl hd
      · exact .inr ⟨hd.trans htime, hd'⟩
    · -- the month is over: its reset is in the past
      refine .inr ⟨?_, .inl hr⟩
      rcases hdated with ⟨-, hd⟩ | ⟨hd, -⟩
      · exact hd.trans hle
      · exact hd.trans htime
  · intro hknown id a' ha' hzero
    simp only at hknown ha'
    rw [hp.account] at hknown
    obtain ⟨a, ha, -, hq, hm⟩ := hp.attempts id a' ha'
    exact hq.trans (h.undated hknown id a ha (hm ▸ hzero))
  · intro hknown
    simp only at hknown ⊢
    rw [hp.account] at hknown
    rcases hmonth with ⟨hroll, hu, -⟩ | ⟨hroll, hu, -⟩
    · rw [hu, hroll]
      exact h.charged hknown
    · rw [hroll, Bool.toNat_true, monthlyCharge_eq_zero fun g hg => Nat.lt_succ_of_le (h.rolls_le g hg)]
      exact Nat.zero_le _

/-- The grant of a request admitted now. -/
def grantOf (request : ReservationRequest) (nowMs rolls : Nat) : Grant where
  attemptId := request.attemptId.text
  startedAtMs := nowMs
  reservedTokens := request.totalTokenUpperBound
  quotaUnits := request.quotaUnits
  rolls := rolls

/-- **A grant.** The attempt id is in none of the tables, so no young grant bears it. -/
theorem reserve (h : Accounted s) {request : ReservationRequest}
    (hstarts : s.runtime.starts.get? request.attemptId.text = none)
    (hresolutions : s.runtime.resolutions.get? request.attemptId.text = none)
    (hreset : ¬ (s.runtime.account.monthlyQuotaUnits.status = .known ∧ request.quotaUnits > 0 ∧
      s.runtime.monthlyResetAtMs = 0)) :
    Accounted
      ⟨s.runtime.reserve (s.runtime.durableReservation cfg s.runtime.timeHighWaterMs request),
        grantOf request s.runtime.timeHighWaterMs s.rolls :: s.log, s.rolls⟩ where
  past := List.forall_mem_cons.mpr ⟨le_rfl, h.past⟩
  rolls_le := List.forall_mem_cons.mpr ⟨le_rfl, h.rolls_le⟩
  rows := by
    refine List.forall_mem_cons.mpr ⟨fun _ => Dict.get?_insert_self _ _ _, ?_⟩
    intro g hg hyoung
    have hrow := h.rows g hg hyoung
    have hne : g.attemptId ≠ request.attemptId.text := by
      intro e
      rw [e, hstarts] at hrow
      cases hrow
    exact (Dict.get?_insert_of_ne _ _ hne).trans hrow
  reused := by
    refine List.Pairwise.cons (fun g hg heq => ?_) h.reused
    by_contra hyoung
    have hrow := h.rows g hg (not_le.mp hyoung)
    rw [← heq] at hrow
    exact absurd (hstarts.symm.trans hrow) (by simp)
  held := by
    intro id a ha
    rw [Grant.newest_cons]
    change (s.runtime.attempts.insert _ _).get? id = some a at ha
    rw [Dict.get?_insert] at ha
    split at ha
    · next hid =>
      have hgrant : (grantOf request s.runtime.timeHighWaterMs s.rolls).attemptId = id := hid.symm
      cases ha
      rw [if_pos hgrant]
      exact ⟨_, rfl, rfl, rfl, fun _ => rfl, .inl ⟨rfl, le_rfl⟩⟩
    · next hid =>
      have hgrant : (grantOf request s.runtime.timeHighWaterMs s.rolls).attemptId ≠ id :=
        fun e => hid e.symm
      rw [if_neg hgrant]
      exact h.held id a ha
  done := by
    intro id r hr
    have hne : (grantOf request s.runtime.timeHighWaterMs s.rolls).attemptId ≠ id := by
      rintro rfl
      exact absurd (hresolutions.symm.trans hr) (by simp)
    rw [Grant.newest_cons, if_neg hne]
    exact h.done id r hr
  undated := by
    intro hknown id a ha hzero
    change (s.runtime.attempts.insert _ _).get? id = some a at ha
    rw [Dict.get?_insert] at ha
    split at ha
    · cases ha
      by_contra hpos
      exact hreset ⟨hknown, Nat.pos_of_ne_zero hpos, hzero⟩
    · exact h.undated hknown id a ha hzero
  charged := by
    intro hknown
    have hcharged := h.charged hknown
    have hcons : LoggedAccount.monthlyCharge
        ⟨s.runtime.reserve (s.runtime.durableReservation cfg s.runtime.timeHighWaterMs request),
          grantOf request s.runtime.timeHighWaterMs s.rolls :: s.log, s.rolls⟩ =
        request.quotaUnits + s.monthlyCharge := by
      simp [LoggedAccount.monthlyCharge, grantOf, Grant.quotaCharge]
    rw [hcons, Nat.add_comm]
    exact Nat.add_le_add_right hcharged _

/-- The row of a grant after its first resolution. -/
theorem row_resolved {g : Grant} {r : AttemptResolution} (h : g.resolution = none) :
    (g.resolved r).row =
      { g.row with
        countedStart := g.row.countedStart && r.actualStarts != some 0
        tokens := r.actualTokenUnits.getD g.row.tokens } := by
  simp [Grant.row, Grant.resolved, Grant.counted, Grant.tokenCharge, h]

/-- The current month's charge in a log split at one grant. -/
theorem monthlyCharge_split (rt : AccountRuntime) (rolls : Nat) (before after : List Grant)
    (g : Grant) :
    LoggedAccount.monthlyCharge ⟨rt, before ++ g :: after, rolls⟩ =
      LoggedAccount.monthlyCharge ⟨rt, before ++ after, rolls⟩ +
        if g.rolls = rolls then g.quotaCharge else 0 := by
  by_cases hg : g.rolls = rolls
  · simp only [LoggedAccount.monthlyCharge, List.filter_append, List.filter_cons, hg, BEq.rfl,
      if_true, List.map_append, List.map_cons, List.sum_append, List.sum_cons]
    omega
  · simp [LoggedAccount.monthlyCharge, hg]

/-- **A resolution.** The newest grant of the id takes the report. A refund reaches the counter
only when the attempt is of the current month, where its charge is still in the sum. -/
theorem resolve (h : Accounted s) {id : String} {a : Attempt} {r : AttemptResolution}
    (hr : s.runtime.Resolves id a r) (digest : String) (receipt : JournalReceipt)
    (resolvedAtMs : Nat) :
    Accounted ⟨s.runtime.resolve id a r digest receipt resolvedAtMs,
      Grant.resolveNewest id r s.log, s.rolls⟩ := by
  obtain ⟨g, hg, hgt, hgq, hgr, hdated⟩ := h.held id a hr.held
  have hunresolved : g.resolution = none := hgr hr.unresolved
  obtain ⟨before, after, hlog, hgid, hbefore, hresolve⟩ := Grant.newest_split (r := r) hg
  have hnewest : ∀ id', Grant.newest id' (Grant.resolveNewest id r s.log) =
      if id' = id then some (g.resolved r) else Grant.newest id' s.log := fun id' =>
    Grant.newest_resolveNewest hg
  -- every member of the new log is an old one or the resolved grant
  have hmem : ∀ x ∈ Grant.resolveNewest id r s.log, x ∈ s.log ∨ x = g.resolved r := by
    intro x hx
    rw [hresolve, List.mem_append, List.mem_cons] at hx
    rw [hlog, List.mem_append, List.mem_cons]
    tauto
  have hgmem : g ∈ s.log := by rw [hlog]; simp
  have hattempts : ∀ id' a', (s.runtime.resolveAttempt id r).get? id' = some a' →
      ∃ a₀, s.runtime.attempts.get? id' = some a₀ ∧ a'.reservedTokens = a₀.reservedTokens ∧
        a'.quotaUnits = a₀.quotaUnits ∧ a'.monthlyResetAtMs = a₀.monthlyResetAtMs := by
    intro id' a' ha'
    unfold resolveAttempt at ha'
    split at ha'
    · rw [Dict.get?_erase] at ha'
      split at ha'
      · cases ha'
      · exact ⟨a', ha', rfl, rfl, rfl⟩
    · rw [Dict.get?_modify] at ha'
      split at ha'
      · obtain ⟨a₀, ha₀, rfl⟩ := Option.map_eq_some_iff.mp ha'
        exact ⟨a₀, ha₀, rfl, rfl, rfl⟩
      · exact ⟨a', ha', rfl, rfl, rfl⟩
  refine
    { past := fun x hx => ?_
      rolls_le := fun x hx => ?_
      rows := ?_
      reused := ?_
      held := ?_
      done := ?_
      undated := ?_
      charged := ?_ }
  · rcases hmem x hx with hx | rfl
    · exact h.past x hx
    · exact h.past g hgmem
  · rcases hmem x hx with hx | rfl
    · exact h.rolls_le x hx
    · exact h.rolls_le g hgmem
  · intro x hx hyoung
    change (s.runtime.resolveStart id r).get? x.attemptId = some x.row
    rw [resolveStart, Dict.get?_modify]
    by_cases hxg : x = g.resolved r
    · rw [if_pos (by rw [hxg]; exact hgid), hxg]
      rw [show (g.resolved r).attemptId = g.attemptId from rfl,
        h.rows g hgmem (by rw [hxg] at hyoung; exact hyoung), row_resolved hunresolved]
      rfl
    · have hxlog : x ∈ s.log := (hmem x hx).resolve_right hxg
      have hrow := h.rows x hxlog hyoung
      -- another grant of the same id would be older than the newest and no longer young
      have hne : x.attemptId ≠ id := by
        intro hxid
        rw [hresolve, List.mem_append, List.mem_cons] at hx
        rcases hx with hx | hx | hx
        · exact hbefore x hx hxid
        · exact hxg hx
        · have hreused := h.reused
          rw [hlog, List.pairwise_append, List.pairwise_cons] at hreused
          have hold := hreused.2.1.1 x hx (hgid.trans hxid.symm)
          have hyoung : s.runtime.timeHighWaterMs < x.startedAtMs + keepMs := hyoung
          omega
      rw [if_neg hne]
      exact hrow
  · have hreused := h.reused
    rw [hresolve]
    rw [hlog, List.pairwise_append, List.pairwise_cons] at hreused
    rw [List.pairwise_append, List.pairwise_cons]
    refine ⟨hreused.1, hreused.2.1, fun x hx y hy => ?_⟩
    rcases List.mem_cons.mp hy with rfl | hy
    · exact hreused.2.2 x hx g List.mem_cons_self
    · exact hreused.2.2 x hx y (List.mem_cons_of_mem _ hy)
  · intro id' a' ha'
    obtain ⟨a₀, ha₀, ht, hq, hm⟩ := hattempts id' a' ha'
    simp only [hnewest]
    by_cases hid : id' = id
    · subst hid
      rw [hr.held] at ha₀
      cases ha₀
      rw [if_pos rfl]
      refine ⟨_, rfl, hgt.trans ht.symm, hgq.trans hq.symm, fun hnone => ?_, ?_⟩
      · exact absurd ((Dict.get?_insert_self _ _ _).symm.trans hnone) (by simp)
      · exact hdated.congr hm rfl
    · rw [if_neg hid]
      obtain ⟨g', hg', hgt', hgq', hgr', hdated'⟩ := h.held id' a₀ ha₀
      refine ⟨g', hg', hgt'.trans ht.symm, hgq'.trans hq.symm, fun hnone => hgr' ?_, ?_⟩
      · exact (Dict.get?_insert_of_ne _ _ hid).symm.trans hnone
      · exact hdated'.congr hm rfl
  · intro id' r' hr'
    simp only [hnewest]
    by_cases hid : id' = id
    · rw [if_pos hid]
      exact ⟨_, rfl, by simp [Grant.resolved]⟩
    · rw [if_neg hid]
      exact h.done id' r' ((Dict.get?_insert_of_ne _ _ hid).symm.trans hr')
  · intro hknown id' a' ha' hzero
    obtain ⟨a₀, ha₀, -, hq, hm⟩ := hattempts id' a' ha'
    exact hq.trans (h.undated hknown id' a₀ ha₀ (hm ▸ hzero))
  · intro hknown
    have hcharged := h.charged hknown
    have hundated := h.undated hknown id a hr.held
    have hquota := hr.quota
    have hgcharge : g.quotaCharge = a.quotaUnits := by simp [Grant.quotaCharge, hunresolved, hgq]
    have hrcharge : (g.resolved r).quotaCharge = r.actualQuotaUnits.getD a.quotaUnits := by
      simp [Grant.quotaCharge, Grant.resolved, hunresolved, hgq]
    have hs : s.monthlyCharge = LoggedAccount.monthlyCharge ⟨s.runtime, before ++ g :: after,
        s.rolls⟩ := by rw [← hlog]
    rw [hs, monthlyCharge_split, hgcharge] at hcharged
    rw [hresolve, monthlyCharge_split, hrcharge]
    show LoggedAccount.monthlyCharge ⟨s.runtime, before ++ after, s.rolls⟩ + _ ≤
      (s.runtime.resolve id a r digest receipt resolvedAtMs).monthlyUsed
    rw [AccountRuntime.monthlyUsed_resolve]
    rw [show (g.resolved r).rolls = g.rolls from rfl]
    generalize LoggedAccount.monthlyCharge ⟨s.runtime, before ++ after, s.rolls⟩ = rest at *
    cases hactual : r.actualQuotaUnits with
    | none => simpa [hactual] using hcharged
    | some actual =>
      simp only [hactual, Option.getD_some, Option.elim_some] at hquota ⊢
      simp only [refund]
      by_cases hsame : a.monthlyResetAtMs = s.runtime.monthlyResetAtMs
      · rw [if_pos hsame]
        rcases hdated with ⟨hroll, -⟩ | ⟨-, hzero | hlt⟩
        · rw [if_pos hroll] at hcharged ⊢
          omega
        · -- an attempt without a reset was charged nothing
          have := hundated (by omega)
          split at hcharged <;> split <;> omega
        · omega
      · rw [if_neg hsame]
        split at hcharged <;> split <;> omega

/-- A resolution that was accepted before leaves the log as it is. -/
theorem resolveNewest_eq_self (h : Accounted s) {id : String} {resolved : ResolvedAttempt}
    (hres : s.runtime.resolutions.get? id = some resolved) (r : AttemptResolution) :
    Grant.resolveNewest id r s.log = s.log := by
  obtain ⟨g, hg, hne⟩ := h.done id resolved hres
  obtain ⟨before, after, hlog, -, -, hresolve⟩ := Grant.newest_split (r := r) hg
  rw [hresolve, Grant.resolved_of_ne_none hne, hlog]

/-- **A publication** with the same monthly status: a reset moves forward, and past the present,
so the months stay told apart. -/
theorem publish (h : Accounted s) {account : ProviderAccount} {reset : Nat}
    (hstatus : account.monthlyQuotaUnits.status = s.runtime.account.monthlyQuotaUnits.status)
    (hreset : reset = s.runtime.monthlyResetAtMs ∨
      s.runtime.monthlyResetAtMs ≤ reset ∧
        (reset = 0 ∨ s.runtime.timeHighWaterMs < reset)) :
    Accounted ⟨{ s.runtime with account := account, monthlyResetAtMs := reset },
      s.log, s.rolls⟩ :=
  { past := h.past
    rolls_le := h.rolls_le
    rows := h.rows
    reused := h.reused
    held := fun id a ha => by
      obtain ⟨g, hg, hgt, hgq, hgr, hdated⟩ := h.held id a ha
      refine ⟨g, hg, hgt, hgq, hgr, ?_⟩
      simp only [Dated] at hdated ⊢
      rcases hreset with rfl | ⟨hle, hahead⟩
      · exact hdated
      · rcases hdated with ⟨hroll, hd⟩ | ⟨hd, -⟩
        · exact .inl ⟨hroll, hd.trans hle⟩
        · exact .inr ⟨hd, by omega⟩
    done := h.done
    undated := fun hknown => h.undated (hstatus ▸ hknown)
    charged := fun hknown => h.charged (hstatus ▸ hknown) }

end Accounted

/-! ## The limits -/

namespace LoggedAccount

open AccountRuntime SlidingWindow

/-- The weight of a grant in the RPM window. -/
def startWeight (g : Grant) : Nat := if g.counted then 1 else 0

/-- Attempts started in `(t - rpm_window, t]` and not resolved with zero starts. -/
def startsAt (s : LoggedAccount) (t : Int) : Nat :=
  (s.log.filter fun g => g.counted &&
    decide (Within (s.runtime.account.rpmWindowSeconds * 1000) t g.startedAtMs)).length

/-- Tokens charged to attempts started in `(t - tpm_window, t]`. -/
def tokensAt (s : LoggedAccount) (t : Int) : Nat :=
  total Grant.startedAtMs Grant.tokenCharge (s.runtime.account.tpmWindowSeconds * 1000) t s.log

/-- The windows and the month are under their limits. -/
structure Bounded (s : LoggedAccount) : Prop where
  rpm : ∀ limit ∈ s.runtime.account.rpmLimit.limit?, ∀ t, s.startsAt t ≤ limit
  tpm : ∀ limit ∈ s.runtime.account.tpmLimit.limit?, ∀ t, s.tokensAt t ≤ limit
  month : ∀ limit ∈ s.runtime.account.monthlyQuotaUnits.limit?, s.runtime.monthlyUsed ≤ limit

theorem startsAt_eq (s : LoggedAccount) (t : Int) :
    s.startsAt t =
      total Grant.startedAtMs startWeight (s.runtime.account.rpmWindowSeconds * 1000) t s.log := by
  rw [startsAt, total, ← List.filter_filter]
  induction s.log.filter fun g =>
      decide (Within (s.runtime.account.rpmWindowSeconds * 1000) t g.startedAtMs) with
  | nil => rfl
  | cons g rest ih =>
    cases hg : g.counted <;> simp [startWeight, hg, ih, Nat.add_comm]

/-- What is young in the log is in the start table, once: a window no longer than the rows are
kept weighs at most what the table says. -/
theorem total_le_table {s : LoggedAccount} (h : Accounted s) {seconds : Nat}
    (hseconds : seconds ≤ maxRollingWindowSeconds) (weight : Start → Nat) :
    total Grant.startedAtMs (fun g => weight g.row) (seconds * 1000) s.runtime.timeHighWaterMs
        s.log ≤
      ((s.runtime.starts.entries.filter fun q =>
        inWindow s.runtime.timeHighWaterMs seconds q.2.startedAtMs).map
          fun q => weight q.2).sum := by
  have hkeep : seconds * 1000 ≤ keepMs := Nat.mul_le_mul_right 1000 hseconds
  -- the members of the window, as rows of the table
  have hrow : ∀ g ∈ s.log.filter
      (fun g => decide (Within (seconds * 1000) s.runtime.timeHighWaterMs g.startedAtMs)),
      s.runtime.starts.get? g.attemptId = some g.row ∧
        inWindow s.runtime.timeHighWaterMs seconds g.startedAtMs = true := by
    intro g hg
    rw [List.mem_filter, decide_eq_true_eq] at hg
    have hin := hg.2.1
    refine ⟨h.rows g hg.1 (by omega), ?_⟩
    rw [inWindow, decide_eq_true_eq]
    exact hin
  have hnodup : ((s.log.filter fun g =>
      decide (Within (seconds * 1000) s.runtime.timeHighWaterMs g.startedAtMs)).map
        fun g => (g.attemptId, g.row)).Nodup := by
    refine List.Nodup.of_map Prod.fst ?_
    rw [List.map_map, List.Nodup, List.pairwise_map]
    refine (List.Pairwise.filter _ h.reused).imp_of_mem fun hx hy hold heq => ?_
    rw [List.mem_filter, decide_eq_true_eq] at hy
    have hin := hy.2.1
    have := hold heq
    omega
  have hsub : ∀ q ∈ (s.log.filter fun g =>
      decide (Within (seconds * 1000) s.runtime.timeHighWaterMs g.startedAtMs)).map
        fun g => (g.attemptId, g.row),
      q ∈ s.runtime.starts.entries.filter fun q =>
        inWindow s.runtime.timeHighWaterMs seconds q.2.startedAtMs := by
    intro q hq
    obtain ⟨g, hg, rfl⟩ := List.mem_map.mp hq
    rw [List.mem_filter]
    exact ⟨Dict.mem_entries_iff.mpr (hrow g hg).1, (hrow g hg).2⟩
  have hle := sum_le_sum_of_subset (fun q : String × Start => weight q.2) hnodup hsub
  rw [List.map_map] at hle
  exact hle

/-- Only the log, the limits and the counter matter. -/
theorem Bounded.congr {s : LoggedAccount} (h : s.Bounded) {rt : AccountRuntime} {rolls : Nat}
    (haccount : SameLimits rt.account s.runtime.account)
    (hmonth : rt.monthlyUsed ≤ s.runtime.monthlyUsed) : Bounded ⟨rt, s.log, rolls⟩ := by
  obtain ⟨-, -, hrpm, hrpmWindow, htpm, htpmWindow, hmonthly⟩ := haccount
  refine ⟨?_, ?_, ?_⟩
  · simp only [startsAt, hrpm, hrpmWindow]
    exact h.rpm
  · simp only [tokensAt, htpm, htpmWindow]
    exact h.tpm
  · simp only [hmonthly]
    exact fun limit hlimit => hmonth.trans (h.month limit hlimit)

theorem SameLimits.refl (a : ProviderAccount) : SameLimits a a :=
  ⟨rfl, rfl, rfl, rfl, rfl, rfl, rfl⟩

theorem monthlyUsed_le_of_passes {rt rt' : AccountRuntime} (h : Passes rt rt') :
    rt'.monthlyUsed ≤ rt.monthlyUsed := by
  rcases h.month with ⟨hu, -⟩ | ⟨-, -, hu, -⟩
  · exact hu.le
  · rw [hu]; exact Nat.zero_le _

/-- **A grant stays under the limits**: the checks saw everything the windows hold. -/
theorem Bounded.reserve {cfg : RuntimeConfig} {s : LoggedAccount} (hb : s.Bounded)
    (h : Accounted s) (hwindows : s.runtime.account.rpmWindowSeconds ≤ maxRollingWindowSeconds ∧
      s.runtime.account.tpmWindowSeconds ≤ maxRollingWindowSeconds)
    {request : ReservationRequest}
    (hlimits : s.runtime.checkLimits s.runtime.timeHighWaterMs request = .ok ()) :
    Bounded
      ⟨s.runtime.reserve (s.runtime.durableReservation cfg s.runtime.timeHighWaterMs request),
        Accounted.grantOf request s.runtime.timeHighWaterMs s.rolls :: s.log, s.rolls⟩ := by
  obtain ⟨-, -, hrpm, -, htpm, hmonth⟩ := checkLimits_eq_ok_iff.mp hlimits
  refine ⟨fun limit hlimit t => ?_, fun limit hlimit t => ?_, hmonth⟩
  · rw [startsAt_eq]
    refine total_cons_le _ _ (fun t => ?_) h.past ?_ t
    · exact startsAt_eq s t ▸ hb.rpm limit hlimit t
    · have htable := total_le_table h hwindows.1 fun st => if st.countedStart then 1 else 0
      have hlen : ((s.runtime.starts.entries.filter fun q =>
          inWindow s.runtime.timeHighWaterMs s.runtime.account.rpmWindowSeconds
            q.2.startedAtMs).map fun q => if q.2.countedStart then 1 else 0).sum =
          (s.runtime.rpmStarts s.runtime.timeHighWaterMs).length := by
        rw [rpmStarts, ← List.filter_filter]
        induction s.runtime.starts.entries.filter fun q =>
            inWindow s.runtime.timeHighWaterMs s.runtime.account.rpmWindowSeconds
              q.2.startedAtMs with
        | nil => rfl
        | cons q rest ih => cases hq : q.2.countedStart <;> simp [hq, ih, Nat.add_comm]
      rw [hlen] at htable
      exact Nat.lt_of_le_of_lt htable (hrpm limit hlimit)
  · refine total_cons_le _ _ (fun t => hb.tpm limit hlimit t) h.past ?_ t
    have htable := total_le_table h hwindows.2 fun st => st.tokens
    exact (Nat.add_le_add_right htable _).trans (htpm limit hlimit)

/-- Resolving the newest grant changes no stamp and raises no weight that shrinks on it. -/
theorem resolveNewest_forall₂ {weight : Grant → Nat} {id : String} {r : AttemptResolution}
    {log : List Grant} {g : Grant} (hg : Grant.newest id log = some g)
    (hweight : weight (g.resolved r) ≤ weight g) :
    List.Forall₂ (fun a b => a.startedAtMs = b.startedAtMs ∧ weight a ≤ weight b)
      (Grant.resolveNewest id r log) log := by
  have hsame : ∀ l : List Grant,
      List.Forall₂ (fun a b => a.startedAtMs = b.startedAtMs ∧ weight a ≤ weight b) l l :=
    fun l => List.forall₂_same.mpr fun _ _ => ⟨rfl, le_rfl⟩
  obtain ⟨before, after, hlog, -, -, hresolve⟩ := Grant.newest_split (r := r) hg
  rw [hresolve, hlog]
  exact List.rel_append (hsame before) (List.Forall₂.cons ⟨rfl, hweight⟩ (hsame after))

/-- **A resolution stays under the limits**: a report never exceeds what was reserved. -/
theorem Bounded.resolve {s : LoggedAccount} (hb : s.Bounded) (h : Accounted s) {id : String}
    {a : Attempt} {r : AttemptResolution} (hr : s.runtime.Resolves id a r) (digest : String)
    (receipt : JournalReceipt) (resolvedAtMs : Nat) :
    Bounded ⟨s.runtime.resolve id a r digest receipt resolvedAtMs,
      Grant.resolveNewest id r s.log, s.rolls⟩ := by
  obtain ⟨g, hg, hgt, -, hgr, -⟩ := h.held id a hr.held
  have hunresolved : g.resolution = none := hgr hr.unresolved
  have hstart : startWeight (g.resolved r) ≤ startWeight g := by
    have hcounted : g.counted = true := by simp [Grant.counted, hunresolved]
    simp only [startWeight, hcounted, if_true]
    split <;> omega
  have htoken : (g.resolved r).tokenCharge ≤ g.tokenCharge := by
    have hle := hr.tokens
    simp only [Grant.tokenCharge, Grant.resolved, hunresolved, Option.getD_none,
      Option.bind_some, Option.bind_none, hgt]
    cases hactual : r.actualTokenUnits with
    | none => exact le_rfl
    | some actual => simpa [hactual] using hle
  refine ⟨fun limit hlimit t => ?_, fun limit hlimit t => ?_, fun limit hlimit => ?_⟩
  · rw [startsAt_eq]
    refine (total_le_total_of_forall₂ _ _ (resolveNewest_forall₂ hg hstart)).trans ?_
    exact startsAt_eq s t ▸ hb.rpm limit hlimit t
  · exact (total_le_total_of_forall₂ _ _ (resolveNewest_forall₂ hg htoken)).trans
      (hb.tpm limit hlimit t)
  · refine le_trans ?_ (hb.month limit hlimit)
    have hquota := hr.quota
    show (s.runtime.resolve id a r digest receipt resolvedAtMs).monthlyUsed ≤ s.runtime.monthlyUsed
    rw [AccountRuntime.monthlyUsed_resolve]
    cases hactual : r.actualQuotaUnits with
    | none => exact le_rfl
    | some actual =>
      simp only [hactual, Option.getD_some] at hquota
      simp only [Option.elim_some, refund]
      split <;> omega

/-! ## Runs -/

/-- Every state of a run with fixed limits. -/
structure Lawful (account : ProviderAccount) (s : LoggedAccount) : Prop where
  limits : SameLimits s.runtime.account account
  accounted : Accounted s
  bounded : s.Bounded

variable {cfg : RuntimeConfig} {account : ProviderAccount} {s : LoggedAccount}

theorem Lawful.passes (h : Lawful account s) {rt' : AccountRuntime}
    (hp : Passes s.runtime rt') :
    Lawful account ⟨rt', s.log, s.rolls + (rolled s.runtime rt').toNat⟩ where
  limits := by
    show SameLimits rt'.account account
    rw [hp.account]
    exact h.limits
  accounted := h.accounted.passes hp
  bounded := h.bounded.congr (by rw [hp.account]; exact SameLimits.refl _)
    (monthlyUsed_le_of_passes hp)

/-- The windows of a validated account are no longer than the rows are kept. -/
theorem windows_le_of_validate (hvalid : account.validate = .ok account) :
    account.rpmWindowSeconds ≤ maxRollingWindowSeconds ∧
      account.tpmWindowSeconds ≤ maxRollingWindowSeconds := by
  rw [ProviderAccount.validate, bind_eq_ok_iff] at hvalid
  obtain ⟨_, hfields, _⟩ := hvalid
  simp only [ProviderAccount.validateFields, bind_eq_ok_iff, requireField_eq_ok_iff,
    exists_unit_and_iff] at hfields
  have hrpm := hfields.2.2.2.2.2.2.2.2.2.1
  have htpm := hfields.2.2.2.2.2.2.2.2.2.2.2.1
  simp only [maxRollingWindowSeconds]
  omega

/-- **Reservations.** -/
theorem Lawful.reserve (h : Lawful account s) (hvalid : account.validate = .ok account)
    (status : JournalStatus) (clock : Nat) (reply : Except RuntimeFault JournalReceipt)
    (request : ReservationRequest) :
    Lawful account (s.step cfg (.call (.reserve status clock request) reply)) := by
  rcases tryReserve_cases cfg s.runtime status clock reply request with ⟨rt', hrt', hstate, hdenied⟩ | ⟨hadmits, receipt, -, hgranted⟩
  · -- no grant: time passed
    have hp : Passes s.runtime rt' := by
      rcases hrt' with rfl | rfl | rfl
      · exact Passes.refl _
      · exact (idle_pruned cfg _ _).passes
      · exact (idle_prepared cfg _ _).passes
    have hlog : ∀ rolls, observe cfg s.runtime rolls s.log (.call (.reserve status clock request) reply) =
        s.log := by
      intro rolls
      cases hcall : s.runtime.tryReserve cfg status clock reply request with
      | mk rt'' outcome =>
        cases outcome with
        | granted receipt => exact absurd (congrArg Prod.snd hcall) (hdenied receipt)
        | denied denial => simp only [observe, hcall]
        | raised fault => simp only [observe, hcall]
    have hpassed := h.passes hp
    simp only [step, after, call, hlog, hstate]
    exact hpassed
  · -- the grant acts on the account the capacity checks ran on
    have hmid := h.passes (idle_prepared cfg s.runtime clock).passes
    have hrolled : rolled s.runtime ((s.runtime.prepared cfg clock).reserve
        (s.runtime.admittedRecord cfg clock request)) =
        rolled s.runtime (s.runtime.prepared cfg clock) := rfl
    obtain ⟨-, -, -, ⟨-, hstarts, hresolutions⟩, -⟩ := checkRequest_eq_ok_iff.mp hadmits.checked
    have hlimits := hadmits.limits
    rw [← prepared_timeHighWaterMs cfg] at hlimits
    have hstarts' : (s.runtime.prepared cfg clock).starts.get? request.attemptId.text = none := by
      cases hrow : (s.runtime.prepared cfg clock).starts.get? request.attemptId.text with
      | none => rfl
      | some st =>
        have hold := ((idle_purgeWindows (s.runtime.pruned cfg clock)).trans
          (idle_rollMonthly _)).starts_old hrow
        exact absurd (hstarts.symm.trans hold) (by simp)
    have hresolutions' :
        (s.runtime.prepared cfg clock).resolutions.get? request.attemptId.text = none := by
      rw [prepared, rollMonthly_resolutions]
      exact hresolutions
    have hrecord : s.runtime.admittedRecord cfg clock request =
        (s.runtime.prepared cfg clock).durableReservation cfg
          (s.runtime.prepared cfg clock).timeHighWaterMs request := by
      rw [admittedRecord, prepared_timeHighWaterMs]
    have hwindows := windows_le_of_validate hvalid
    have hsame := hmid.limits
    rw [← hsame.2.2.2.1, ← hsame.2.2.2.2.2.1] at hwindows
    simp only [step, after, call, observe, hgranted, hrolled]
    rw [hrecord]
    exact
      { limits := hsame
        accounted := hmid.accounted.reserve hstarts' hresolutions'
          (checkLimits_eq_ok_iff.mp hlimits).1
        bounded := hmid.bounded.reserve hmid.accounted hwindows hlimits }

/-- **Resolutions.** -/
theorem Lawful.finish (h : Lawful account s) (clock : Nat)
    (reply : Except RuntimeFault JournalReceipt) (attemptId : String) (r : AttemptResolution) :
    Lawful account (s.step cfg (.call (.finish clock attemptId r) reply)) := by
  rcases finish_cases cfg s.runtime clock reply attemptId r
    with ⟨hstate, hrepeat⟩ | ⟨hstate, hfailed⟩ | ⟨attempt, receipt, hresolves, -, hfinish⟩
  · have hlog : ∀ rolls, observe cfg s.runtime rolls s.log (.call (.finish clock attemptId r) reply) =
        s.log := by
      intro rolls
      cases hcall : s.runtime.finish cfg clock reply attemptId r with
      | mk rt' result =>
        cases result with
        | error e => simp only [observe, hcall]
        | ok receipt =>
          obtain ⟨resolved, hres⟩ := hrepeat receipt (congrArg Prod.snd hcall)
          simp only [observe, hcall]
          exact h.accounted.resolveNewest_eq_self hres r
    have hpassed := h.passes (Passes.refl s.runtime)
    simp only [step, after, call, hlog, hstate]
    exact hpassed
  · have hlog : ∀ rolls, observe cfg s.runtime rolls s.log (.call (.finish clock attemptId r) reply) =
        s.log := by
      intro rolls
      cases hcall : s.runtime.finish cfg clock reply attemptId r with
      | mk rt' result =>
        cases result with
        | error e => simp only [observe, hcall]
        | ok receipt => exact absurd (congrArg Prod.snd hcall) (hfailed receipt)
    have hpassed := h.passes (idle_tick s.runtime clock).passes
    simp only [step, after, call, hlog, hstate]
    exact hpassed
  · have hmid := h.passes (idle_tick s.runtime clock).passes
    have hresolves' : (s.runtime.tick clock).Resolves attemptId attempt r :=
      ⟨hresolves.unresolved, hresolves.held, hresolves.tokens, hresolves.quota, hresolves.started⟩
    have hrolled : ∀ digest at_,
        rolled s.runtime ((s.runtime.tick clock).resolve attemptId attempt r digest receipt at_) =
          rolled s.runtime (s.runtime.tick clock) := fun _ _ => rfl
    simp only [step, after, call, observe, hfinish, hrolled]
    exact
      { limits := hmid.limits
        accounted := hmid.accounted.resolve hresolves' _ _ _
        bounded := hmid.bounded.resolve hmid.accounted hresolves' _ _ _ }

/-- **Publications** that keep the limits. -/
theorem Lawful.publish (h : Lawful account s) (clock : Nat) {published : ProviderAccount}
    (hsame : SameLimits published account) :
    Lawful account (s.step cfg (.publish clock published)) := by
  by_cases hid : published.accountId ≠ s.runtime.account.accountId
  · have hcall : s.runtime.after cfg (.publish clock published) = s.runtime := by
      simp only [after, updateAccount, if_pos hid]
    have hpassed := h.passes (Passes.refl s.runtime)
    simp only [step, hcall, observe]
    exact hpassed
  · -- first the clock and the roll, then the new account and its reset
    have hp : Passes s.runtime ((s.runtime.tick clock).rollMonthly
        (s.runtime.tick clock).timeHighWaterMs) :=
      ((idle_tick s.runtime clock).trans (idle_rollMonthly _)).passes
    have hmid := h.passes hp
    have hcall : ∃ reset, s.runtime.after cfg (.publish clock published) =
        { (s.runtime.tick clock).rollMonthly (s.runtime.tick clock).timeHighWaterMs with
          account := published, monthlyResetAtMs := reset } ∧
        (reset = ((s.runtime.tick clock).rollMonthly
            (s.runtime.tick clock).timeHighWaterMs).monthlyResetAtMs ∨
          ((s.runtime.tick clock).rollMonthly
            (s.runtime.tick clock).timeHighWaterMs).monthlyResetAtMs ≤ reset ∧
            (reset = 0 ∨ (s.runtime.tick clock).timeHighWaterMs < reset)) := by
      have hahead : published.nextMonthlyReset (s.runtime.tick clock).timeHighWaterMs = 0 ∨
          (s.runtime.tick clock).timeHighWaterMs <
            published.nextMonthlyReset (s.runtime.tick clock).timeHighWaterMs := by
        unfold ProviderAccount.nextMonthlyReset
        split
        · exact .inl rfl
        · split
          · next h => exact .inr h
          · exact .inl rfl
      simp only [after, updateAccount, if_neg hid]
      split
      · next hmove => exact ⟨_, rfl, .inr ⟨by omega, hahead⟩⟩
      · exact ⟨_, rfl, .inl rfl⟩
    obtain ⟨reset, hcall, hreset⟩ := hcall
    have hrolled : rolled s.runtime (s.runtime.after cfg (.publish clock published)) =
        rolled s.runtime ((s.runtime.tick clock).rollMonthly
          (s.runtime.tick clock).timeHighWaterMs) := by
      -- a reset that is reached is gone before the new one is set, and the new one is later
      rw [hcall, Bool.eq_iff_iff]
      simp only [rolled, Bool.and_eq_true, bne_iff_ne, ne_eq, decide_eq_true_eq,
        rollMonthly_timeHighWaterMs]
      unfold rollMonthly at hreset ⊢
      split at hreset <;> split <;> simp_all <;> omega
    simp only [step, observe]
    rw [hrolled, hcall]
    have hlimits : SameLimits published
        ((s.runtime.tick clock).rollMonthly (s.runtime.tick clock).timeHighWaterMs).account := by
      obtain ⟨h₁, h₂, h₃, h₄, h₅, h₆, h₇⟩ := hmid.limits
      obtain ⟨k₁, k₂, k₃, k₄, k₅, k₆, k₇⟩ := hsame
      exact ⟨k₁.trans h₁.symm, k₂.trans h₂.symm, k₃.trans h₃.symm, k₄.trans h₄.symm,
        k₅.trans h₅.symm, k₆.trans h₆.symm, k₇.trans h₇.symm⟩
    exact
      { limits := hsame
        accounted := hmid.accounted.publish (congrArg QuotaDimension.status hlimits.2.2.2.2.2.2)
          (by simpa only [rollMonthly_timeHighWaterMs] using hreset)
        bounded := hmid.bounded.congr hlimits le_rfl }

/-- An event that only lets time pass logs nothing. -/
theorem Lawful.quiet (h : Lawful account s) {e : AccountEvent}
    (hp : Passes s.runtime (s.runtime.after cfg e))
    (hlog : ∀ rolls, observe cfg s.runtime rolls s.log e = s.log) :
    Lawful account (s.step cfg e) := by
  have hpassed := h.passes hp
  simp only [step, hlog]
  exact hpassed

/-- **One call.** -/
theorem Lawful.call (h : Lawful account s) (hvalid : account.validate = .ok account)
    (c : AccountCall) (reply : Except RuntimeFault JournalReceipt) :
    Lawful account (s.step cfg (.call c reply)) := by
  cases c with
  | reserve status clock request => exact h.reserve hvalid status clock reply request
  | dispatch clock attemptId =>
    exact h.quiet (passes_markDispatched _ clock reply attemptId) fun _ => rfl
  | finish clock attemptId r => exact h.finish clock reply attemptId r
  | capacity clock => exact h.quiet (idle_capacity _ clock).passes fun _ => rfl
  | swapCircuit scope expected replacement =>
    exact h.quiet (passes_compareAndSwap _ reply scope expected replacement) fun _ => rfl
  | activeCount count =>
    refine h.quiet ?_ fun _ => rfl
    show Passes s.runtime (s.runtime.applyAuthoritativeActiveCount reply count).1
    rcases applyAuthoritativeActiveCount_cases s.runtime reply count with
      hsame | ⟨-, -, hset⟩
    · rw [hsame]; exact Passes.refl _
    · rw [hset]; exact passes_setActiveCount _ count
  | beginProbe probeId =>
    refine h.quiet ?_ fun _ => rfl
    show Passes s.runtime (s.runtime.beginRecoveryProbe reply probeId).1
    rcases beginRecoveryProbe_cases s.runtime reply probeId with
      hsame | ⟨-, -, -, -, -, hset⟩
    · rw [hsame]; exact Passes.refl _
    · rw [hset]; exact Passes.of_attempts fun id a' ha' => ⟨a', ha', rfl, rfl, rfl⟩
  | finishProbe probeId classification =>
    refine h.quiet ?_ fun _ => rfl
    show Passes s.runtime (s.runtime.finishRecoveryProbe reply probeId classification).1
    rcases finishRecoveryProbe_cases s.runtime reply probeId classification with
      hsame | ⟨-, -, -, hset⟩
    · rw [hsame]; exact Passes.refl _
    · rw [hset]; exact passes_endRecoveryProbe _ classification

/-- **One event.** -/
theorem Lawful.step (h : Lawful account s) (hvalid : account.validate = .ok account)
    {e : AccountEvent} (he : e.KeepsLimits account) : Lawful account (s.step cfg e) := by
  cases e with
  | call c reply => exact h.call hvalid c reply
  | publish clock published => exact h.publish clock he

/-- **Every state of a run.** -/
theorem Lawful.run (h : Lawful account s) (hvalid : account.validate = .ok account)
    {events : List AccountEvent} (hevents : ∀ e ∈ events, e.KeepsLimits account) :
    Lawful account (s.run cfg events) := by
  induction events generalizing s with
  | nil => exact h
  | cons e rest ih =>
    rw [List.forall_mem_cons] at hevents
    exact ih (h.step hvalid hevents.1) hevents.2

theorem Lawful.fresh (account : ProviderAccount) (clock : Nat) :
    Lawful account (LoggedAccount.fresh account clock) where
  limits := SameLimits.refl account
  accounted := Accounted.fresh account clock
  bounded :=
    { rpm := fun _ _ _ => Nat.zero_le _
      tpm := fun _ _ _ => Nat.zero_le _
      month := fun _ _ => Nat.zero_le _ }

theorem enforcedMaxInFlight_eq {a b : ProviderAccount} (h : SameLimits a b) :
    a.enforcedMaxInFlight = b.enforcedMaxInFlight := by
  obtain ⟨h₁, h₂, h₃, -, h₅, -, h₇⟩ := h
  have hattested : a.fullyAttested = b.fullyAttested := by
    simp only [ProviderAccount.fullyAttested, h₁, h₃, h₅, h₇]
  rw [ProviderAccount.enforcedMaxInFlight, ProviderAccount.enforcedMaxInFlight, hattested, h₁, h₂]

/-- A grant is made only below the parallel limit. -/
theorem activeCount_le_of_granted {rt : AccountRuntime} {status : JournalStatus} {clock : Nat}
    {reply : Except RuntimeFault JournalReceipt} {request : ReservationRequest}
    {receipt : JournalReceipt}
    (h : (rt.tryReserve cfg status clock reply request).2 = .granted receipt) :
    (rt.tryReserve cfg status clock reply request).1.activeCount ≤
      rt.account.enforcedMaxInFlight := by
  rcases tryReserve_cases cfg rt status clock reply request with
    ⟨_, _, _, hdenied⟩ | ⟨hadmits, _, -, hgranted⟩
  · exact absurd h (hdenied receipt)
  · have hbelow := (checkLimits_eq_ok_iff.mp hadmits.limits).2.1
    obtain ⟨-, -, -, ⟨hattempts, -⟩, -⟩ := checkRequest_eq_ok_iff.mp hadmits.checked
    have hattempts' :
        (rt.prepared cfg clock).attempts.get? request.attemptId.text = none := by
      rw [prepared, rollMonthly_attempts]
      exact hattempts
    have haccount : (rt.prepared cfg clock).account = rt.account :=
      (idle_prepared cfg rt clock).account
    have hsize := Dict.size_insert_of_get?_eq_none
      (rt.admittedRecord cfg clock request).attempt hattempts'
    rw [hgranted]
    rw [haccount] at hbelow
    change (Dict.insert _ _ _).size + _ ≤ _
    change ((rt.prepared cfg clock).attempts.insert (rt.admittedRecord cfg clock request).attemptId
      _).size = _ at hsize
    rw [hsize]
    unfold activeCount at hbelow
    change _ + 1 + (rt.prepared cfg clock).externalUncertainHolds ≤ _
    omega

/-- **Provider limits hold at every instant.** In every run of an account whose limits stay as
they are, whatever the clock reads and the journal answers: a grant leaves at most
`enforced_max_in_flight` attempts held; the starts and the charged tokens of every window, ending
at any instant, are within the RPM and TPM limits; and the charges since the last monthly roll
are within the monthly counter, which is within the monthly limit. -/
theorem provider_limits_hold (cfg : RuntimeConfig) (hvalid : account.validate = .ok account)
    (clock : Nat) (events : List AccountEvent) (hevents : ∀ e ∈ events, e.KeepsLimits account) :
    (∀ status clock' reply request receipt,
      let after := ((LoggedAccount.fresh account clock).run cfg events).runtime.tryReserve cfg status
        clock' reply request
      after.2 = .granted receipt → after.1.activeCount ≤ account.enforcedMaxInFlight) ∧
    (∀ limit ∈ account.rpmLimit.limit?, ∀ t,
      ((LoggedAccount.fresh account clock).run cfg events).startsAt t ≤ limit) ∧
    (∀ limit ∈ account.tpmLimit.limit?, ∀ t,
      ((LoggedAccount.fresh account clock).run cfg events).tokensAt t ≤ limit) ∧
    ∀ limit ∈ account.monthlyQuotaUnits.limit?,
      ((LoggedAccount.fresh account clock).run cfg events).monthlyCharge ≤
          ((LoggedAccount.fresh account clock).run cfg events).runtime.monthlyUsed ∧
        ((LoggedAccount.fresh account clock).run cfg events).runtime.monthlyUsed ≤ limit := by
  have hlawful : Lawful account ((LoggedAccount.fresh account clock).run cfg events) :=
    (Lawful.fresh account clock).run hvalid hevents
  generalize (LoggedAccount.fresh account clock).run cfg events = s at hlawful ⊢
  obtain ⟨hsame, haccounted, hbounded⟩ := hlawful
  refine ⟨fun status clock' reply request receipt hgranted => ?_, ?_, ?_, fun limit hlimit => ?_⟩
  · rw [← enforcedMaxInFlight_eq hsame]
    exact activeCount_le_of_granted hgranted
  · rw [← hsame.2.2.1]
    exact hbounded.rpm
  · rw [← hsame.2.2.2.2.1]
    exact hbounded.tpm
  · rw [← hsame.2.2.2.2.2.2] at hlimit
    have hknown : s.runtime.account.monthlyQuotaUnits.status = .known := by
      by_contra hne
      simp [QuotaDimension.limit?, hne] at hlimit
    exact ⟨haccounted.charged hknown, hbounded.month limit hlimit⟩

/-- Two requests granted, the first resolved with a report below its reservation, the next
publication moving the reset. -/
def meteredEvents : List AccountEvent := [
  .call (.reserve .healthy 10 (sampleRequest 1)) sampleReply,
  .call (.finish 20 (sampleRequest 1).attemptId.text
    { outcome := .completed, releaseCapacity := true, actualTokenUnits := some 1
      actualQuotaUnits := some 1 }) sampleReply,
  .call (.reserve .healthy 15 (sampleRequest 2)) sampleReply,
  .publish 30 { meteredAccount with monthlyResetAtMs := some 2_000 }]

theorem meteredEvents_keep_limits : ∀ e ∈ meteredEvents, e.KeepsLimits meteredAccount := by
  simp only [meteredEvents, List.forall_mem_cons, List.not_mem_nil, false_implies, implies_true,
    and_true, AccountEvent.KeepsLimits, true_and]
  decide

/-- The limits of the metered account hold in a run that charges two of its four units. -/
theorem metered_run_within_limits :
    (((LoggedAccount.fresh meteredAccount 5).run sampleConfig meteredEvents).log.length = 2 ∧
      ((LoggedAccount.fresh meteredAccount 5).run sampleConfig meteredEvents).monthlyCharge = 3) ∧
    (∀ t, ((LoggedAccount.fresh meteredAccount 5).run sampleConfig meteredEvents).startsAt t ≤ 2) ∧
    (∀ t, ((LoggedAccount.fresh meteredAccount 5).run sampleConfig meteredEvents).tokensAt t ≤ 8) ∧
    ((LoggedAccount.fresh meteredAccount 5).run sampleConfig meteredEvents).monthlyCharge ≤
      ((LoggedAccount.fresh meteredAccount 5).run sampleConfig meteredEvents).runtime.monthlyUsed ∧
    ((LoggedAccount.fresh meteredAccount 5).run sampleConfig meteredEvents).runtime.monthlyUsed ≤ 4 := by
  have h := provider_limits_hold sampleConfig meteredAccount_valid 5 meteredEvents
    meteredEvents_keep_limits
  exact ⟨by decide +kernel, h.2.1 2 rfl, h.2.2.1 8 rfl, h.2.2.2 4 rfl⟩

end LoggedAccount

end LlmMaxxing
