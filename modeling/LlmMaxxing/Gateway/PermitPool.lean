import LlmMaxxing.Lib.Meter
import Mathlib.Tactic.Common

/-!
# Attempt permits (`gateway/streaming.py`, `AttemptPermitPool`)

Three partitions of 144 permits, guarded by one condition. A call that finds its partition full waits
on the condition and looks again each time it was notified; a shadow call never waits. Everything
between two waits happens under the condition's lock, so the calls interleave at the waits.

A permit marks itself released before it asks for the lock: a release that is cancelled while it
waits for the lock leaves the permit taken (`stranded`).
-/

namespace LlmMaxxing

/-- `PermitClass`. -/
inductive PermitClass where
  | foreground | recovery | discovery | qualification
  deriving DecidableEq, Repr

/-- The keys of `_LIMITS`. -/
inductive PermitPartition where
  | foreground | recovery | discoveryQualification
  deriving DecidableEq, Repr

/-- `_partition`. -/
def PermitClass.partition : PermitClass → PermitPartition
  | .foreground => .foreground
  | .recovery => .recovery
  | .discovery => .discoveryQualification
  | .qualification => .discoveryQualification

/-- `_LIMITS`. -/
def PermitPartition.limit : PermitPartition → Nat
  | .foreground => 128
  | .recovery => 8
  | .discoveryQualification => 8

/-- `ATTEMPT_PERMITS`. -/
def attemptPermits : Nat := 144

/-! ## The pool -/

/-- `AttemptPermitPool`. -/
structure AttemptPermitPool where
  active : PermitPartition → Nat
  waiters : PermitPartition → Nat

namespace AttemptPermitPool

/-- `__init__`: the limits add up. -/
def init : Option AttemptPermitPool :=
  if PermitPartition.limit .foreground + PermitPartition.limit .recovery +
      PermitPartition.limit .discoveryQualification ≠ attemptPermits then none
  else some ⟨fun _ => 0, fun _ => 0⟩

/-- Change the active count of a partition. -/
def setActive (pool : AttemptPermitPool) (p : PermitPartition) (n : Nat) : AttemptPermitPool :=
  { pool with active := Function.update pool.active p n }

/-- Change the waiter count of a partition. -/
def setWaiters (pool : AttemptPermitPool) (p : PermitPartition) (n : Nat) : AttemptPermitPool :=
  { pool with waiters := Function.update pool.waiters p n }

/-- `acquire` up to its first look. -/
def enter (pool : AttemptPermitPool) (p : PermitPartition) : AttemptPermitPool :=
  pool.setWaiters p (pool.waiters p + 1)

/-- The `finally` of `acquire`. -/
def leave (pool : AttemptPermitPool) (p : PermitPartition) : AttemptPermitPool :=
  pool.setWaiters p (pool.waiters p - 1)

/-- One look of `acquire`: `none` waits. -/
def look (pool : AttemptPermitPool) (p : PermitPartition) : Option AttemptPermitPool :=
  if p.limit ≤ pool.active p then none
  else some ((pool.setActive p (pool.active p + 1)).leave p)

/-- `try_shadow`. -/
def tryShadow (pool : AttemptPermitPool) : Option AttemptPermitPool :=
  if pool.waiters .foreground ≠ 0 ∨ PermitPartition.limit .foreground ≤ pool.active .foreground then
    none
  else some (pool.setActive .foreground (pool.active .foreground + 1))

/-- `_release`; `none` is "attempt permit underflow". -/
def release (pool : AttemptPermitPool) (p : PermitPartition) : Option AttemptPermitPool :=
  if pool.active p < 1 then none else some (pool.setActive p (pool.active p - 1))

variable {pool pool' : AttemptPermitPool} {p q : PermitPartition}

theorem waiters_enter : (pool.enter p).waiters q = pool.waiters q + if p = q then 1 else 0 := by
  by_cases h : p = q
  · subst h
    simp [enter, setWaiters]
  · simp [enter, setWaiters, h, Function.update_of_ne (Ne.symm h)]

theorem waiters_leave : (pool.leave p).waiters q = pool.waiters q - if p = q then 1 else 0 := by
  by_cases h : p = q
  · subst h
    simp [leave, setWaiters]
  · simp [leave, setWaiters, h, Function.update_of_ne (Ne.symm h)]

theorem active_setActive {n : Nat} :
    (pool.setActive p n).active q = if p = q then n else pool.active q := by
  by_cases h : p = q
  · subst h
    simp [setActive]
  · simp [setActive, h, Function.update_of_ne (Ne.symm h)]

/-- A look that finds room takes a permit and ends the wait. -/
theorem look_eq_some (h : pool.look p = some pool') :
    pool.active p < p.limit ∧
      (∀ q, pool'.active q = pool.active q + if p = q then 1 else 0) ∧
      ∀ q, pool'.waiters q = pool.waiters q - if p = q then 1 else 0 := by
  unfold look at h
  split_ifs at h with hfull
  cases h
  refine ⟨by omega, fun q => ?_, fun q => waiters_leave⟩
  show (pool.setActive p (pool.active p + 1)).active q = _
  rw [active_setActive]
  by_cases hq : p = q
  · subst hq
    simp
  · simp [hq]

/-- A look that finds none finds the partition full. -/
theorem look_eq_none (h : pool.look p = none) : p.limit ≤ pool.active p := by
  unfold look at h
  split_ifs at h with hfull
  exact hfull

theorem tryShadow_eq_some (h : pool.tryShadow = some pool') :
    pool.waiters .foreground = 0 ∧ pool.active .foreground < PermitPartition.limit .foreground ∧
      (∀ q, pool'.active q = pool.active q + if PermitPartition.foreground = q then 1 else 0) ∧
      pool'.waiters = pool.waiters := by
  unfold tryShadow at h
  split_ifs at h with hbusy
  cases h
  rw [not_or, not_not] at hbusy
  refine ⟨hbusy.1, by omega, fun q => ?_, rfl⟩
  rw [active_setActive]
  by_cases hq : PermitPartition.foreground = q
  · subst hq
    simp
  · simp [hq]

theorem release_of_pos (h : 1 ≤ pool.active p) : ∃ pool', pool.release p = some pool' ∧
    (∀ q, pool'.active q = pool.active q - if p = q then 1 else 0) ∧ pool'.waiters = pool.waiters := by
  refine ⟨_, if_neg (by omega), fun q => ?_, rfl⟩
  rw [active_setActive]
  by_cases hq : p = q
  · subst hq
    simp
  · simp [hq]

end AttemptPermitPool

/-! ## Calls -/

/-- Where a call is: on the condition, notified or not; with a permit; or done. -/
inductive PermitCall where
  | waiting (partition : PermitPartition) (notified : Bool)
  | holding (partition : PermitPartition) (shadow : Bool)
  | refused
  | cancelled
  | released
  | stranded (partition : PermitPartition)
  | underflow
  deriving DecidableEq, Repr

namespace PermitCall

/-- `notify_all`, for one call. -/
def notify : PermitCall → PermitCall
  | .waiting p _ => .waiting p true
  | c => c

/-- The permit of a partition that a call keeps taken. -/
def permits (p : PermitPartition) : PermitCall → Nat
  | .holding q _ => if q = p then 1 else 0
  | .stranded q => if q = p then 1 else 0
  | _ => 0

/-- Whether a call waits for a partition. -/
def waits (p : PermitPartition) : PermitCall → Nat
  | .waiting q _ => if q = p then 1 else 0
  | _ => 0

end PermitCall

/-- The pool and its calls. -/
structure PermitSystem where
  pool : AttemptPermitPool
  calls : List PermitCall

/-- What happens to the pool. -/
inductive PermitEvent where
  | acquire (kind : PermitClass)
  | tryShadow
  | resume (i : Nat)
  | cancel (i : Nat)
  | release (i : Nat)
  | cancelRelease (i : Nat)

namespace PermitSystem

/-- A call comes in. -/
def add (s : PermitSystem) (pool : AttemptPermitPool) (c : PermitCall) : PermitSystem :=
  ⟨pool, s.calls ++ [c]⟩

/-- A call goes on. -/
def put (s : PermitSystem) (pool : AttemptPermitPool) (i : Nat) (c : PermitCall) : PermitSystem :=
  ⟨pool, s.calls.set i c⟩

/-- One event; an event of a call that is elsewhere changes nothing. -/
def step (s : PermitSystem) : PermitEvent → PermitSystem
  | .acquire kind =>
    match (s.pool.enter kind.partition).look kind.partition with
    | some pool => s.add pool (.holding kind.partition false)
    | none => s.add (s.pool.enter kind.partition) (.waiting kind.partition false)
  | .tryShadow =>
    match s.pool.tryShadow with
    | some pool => s.add pool (.holding .foreground true)
    | none => s.add s.pool .refused
  | .resume i =>
    match s.calls[i]? with
    | some (.waiting p true) =>
      match s.pool.look p with
      | some pool => s.put pool i (.holding p false)
      | none => s.put s.pool i (.waiting p false)
    | _ => s
  | .cancel i =>
    match s.calls[i]? with
    | some (.waiting p _) => s.put (s.pool.leave p) i .cancelled
    | _ => s
  | .release i =>
    match s.calls[i]? with
    | some (.holding p _) =>
      match s.pool.release p with
      | some pool => ⟨pool, (s.calls.set i .released).map PermitCall.notify⟩
      | none => s.put s.pool i .underflow
    | _ => s
  | .cancelRelease i =>
    match s.calls[i]? with
    | some (.holding p _) => s.put s.pool i (.stranded p)
    | _ => s

/-! ## The invariant -/

/-- The permits of a partition that are taken. -/
def taken (s : PermitSystem) (p : PermitPartition) : Nat := (s.calls.map (PermitCall.permits p)).sum

/-- The calls that wait for a partition. -/
def waiting (s : PermitSystem) (p : PermitPartition) : Nat := (s.calls.map (PermitCall.waits p)).sum

/-- The counts are those of the calls, no partition is over its limit, nobody misses a wakeup, and
no release underflows. -/
structure Sound (s : PermitSystem) : Prop where
  active : ∀ p, s.pool.active p = s.taken p
  waiters : ∀ p, s.pool.waiters p = s.waiting p
  limit : ∀ p, s.pool.active p ≤ p.limit
  wakeup : ∀ p, .waiting p false ∈ s.calls → s.pool.active p = p.limit
  underflow : PermitCall.underflow ∉ s.calls

variable {s : PermitSystem} {p : PermitPartition} {i : Nat} {c c' : PermitCall}

theorem taken_add (pool : AttemptPermitPool) : (s.add pool c).taken p = s.taken p + c.permits p := by
  simp [taken, add]

theorem waiting_add (pool : AttemptPermitPool) :
    (s.add pool c).waiting p = s.waiting p + c.waits p := by
  simp [waiting, add]

theorem taken_put (pool : AttemptPermitPool) (hi : s.calls[i]? = some c) :
    (s.put pool i c').taken p + c.permits p = s.taken p + c'.permits p :=
  Meter.sum_map_set (PermitCall.permits p) c' hi

theorem waiting_put (pool : AttemptPermitPool) (hi : s.calls[i]? = some c) :
    (s.put pool i c').waiting p + c.waits p = s.waiting p + c'.waits p :=
  Meter.sum_map_set (PermitCall.waits p) c' hi

theorem permits_notify : c.notify.permits p = c.permits p := by
  cases c <;> rfl

theorem waits_notify : c.notify.waits p = c.waits p := by
  cases c <;> rfl

theorem le_taken (hi : s.calls[i]? = some c) : c.permits p ≤ s.taken p :=
  Meter.le_sum_map (PermitCall.permits p) hi

theorem le_waiting (hi : s.calls[i]? = some c) : c.waits p ≤ s.waiting p :=
  Meter.le_sum_map (PermitCall.waits p) hi

/-- A call that comes in and neither waits unnotified nor underflows. -/
theorem Sound.add {pool : AttemptPermitPool} (h : s.Sound)
    (hactive : ∀ p, pool.active p = s.pool.active p + c.permits p)
    (hwaiters : ∀ p, pool.waiters p = s.pool.waiters p + c.waits p)
    (hlimit : ∀ p, pool.active p ≤ p.limit)
    (hwakeup : ∀ p, c = .waiting p false → p.limit ≤ pool.active p) (hc : c ≠ .underflow) :
    (s.add pool c).Sound where
  active p := by
    rw [taken_add, ← h.active]
    exact hactive p
  waiters p := by
    rw [waiting_add, ← h.waiters]
    exact hwaiters p
  limit := hlimit
  wakeup p hmem := by
    refine le_antisymm (hlimit p) ?_
    rcases List.mem_append.mp hmem with hold | hnew
    · -- the partition was full before and only filled up
      have hfull := h.wakeup p hold
      have hmore := hactive p
      show p.limit ≤ pool.active p
      omega
    · exact hwakeup p (List.mem_singleton.mp hnew).symm
  underflow hmem := by
    rcases List.mem_append.mp hmem with hold | hnew
    · exact h.underflow hold
    · exact hc (List.mem_singleton.mp hnew).symm

/-- A call that goes on without giving up a permit. -/
theorem Sound.put {pool : AttemptPermitPool} (h : s.Sound) (hi : s.calls[i]? = some c)
    (hactive : ∀ p, pool.active p + c.permits p = s.pool.active p + c'.permits p)
    (hwaiters : ∀ p, pool.waiters p + c.waits p = s.pool.waiters p + c'.waits p)
    (hlimit : ∀ p, pool.active p ≤ p.limit) (hmore : ∀ p, s.pool.active p ≤ pool.active p)
    (hwakeup : ∀ p, c' = .waiting p false → p.limit ≤ pool.active p) (hc : c' ≠ .underflow) :
    (s.put pool i c').Sound where
  active p := by
    have htaken : (s.put pool i c').taken p + c.permits p = s.taken p + c'.permits p := taken_put pool hi
    have hactive := hactive p
    have hold := h.active p
    show pool.active p = _
    omega
  waiters p := by
    have hwaiting : (s.put pool i c').waiting p + c.waits p = s.waiting p + c'.waits p :=
      waiting_put pool hi
    have hwaiters := hwaiters p
    have hold := h.waiters p
    show pool.waiters p = _
    omega
  limit := hlimit
  wakeup p hmem := by
    refine le_antisymm (hlimit p) ?_
    rcases List.mem_or_eq_of_mem_set hmem with hold | hnew
    · exact (h.wakeup p hold).ge.trans (hmore p)
    · exact hwakeup p hnew.symm
  underflow hmem := by
    rcases List.mem_or_eq_of_mem_set hmem with hold | hnew
    · exact h.underflow hold
    · exact hc hnew.symm

/-- A release frees a permit and notifies everyone. -/
theorem Sound.release {pool : AttemptPermitPool} {q : PermitPartition} {shadow : Bool} (h : s.Sound)
    (hi : s.calls[i]? = some (.holding q shadow))
    (hactive : ∀ p, pool.active p = s.pool.active p - if q = p then 1 else 0)
    (hwaiters : pool.waiters = s.pool.waiters) :
    Sound ⟨pool, (s.calls.set i .released).map PermitCall.notify⟩ where
  active p := by
    have htaken : (s.put s.pool i .released).taken p + (PermitCall.holding q shadow).permits p =
        s.taken p + 0 := taken_put s.pool hi
    have hsame : ((s.calls.set i .released).map PermitCall.notify).map (PermitCall.permits p) =
        (s.calls.set i .released).map (PermitCall.permits p) := by
      rw [List.map_map]
      exact List.map_congr_left fun c _ => permits_notify
    have hold := h.active p
    show pool.active p = (((s.calls.set i .released).map PermitCall.notify).map _).sum
    rw [hsame, hactive p, hold]
    exact (Nat.eq_sub_of_add_eq htaken).symm
  waiters p := by
    have hwaiting : (s.put s.pool i .released).waiting p + 0 = s.waiting p + 0 := waiting_put s.pool hi
    have hsame : ((s.calls.set i .released).map PermitCall.notify).map (PermitCall.waits p) =
        (s.calls.set i .released).map (PermitCall.waits p) := by
      rw [List.map_map]
      exact List.map_congr_left fun c _ => waits_notify
    show pool.waiters p = (((s.calls.set i .released).map PermitCall.notify).map _).sum
    rw [hsame, hwaiters, h.waiters p]
    exact hwaiting.symm
  limit p := by
    have hold := h.limit p
    show pool.active p ≤ p.limit
    rw [hactive p]
    omega
  wakeup p hmem := by
    obtain ⟨c, -, hc⟩ := List.mem_map.mp hmem
    cases c <;> cases hc
  underflow hmem := by
    obtain ⟨c, hmem, hc⟩ := List.mem_map.mp hmem
    cases c <;> cases hc
    rcases List.mem_or_eq_of_mem_set hmem with hold | hnew
    · exact h.underflow hold
    · cases hnew

/-! ## Steps and runs -/

/-- A permit taken where there was room leaves every partition within its limit. -/
theorem Sound.limit_taken {pool : AttemptPermitPool} (h : s.Sound) (hroom : s.pool.active p < p.limit)
    (hactive : ∀ q, pool.active q = s.pool.active q + if p = q then 1 else 0)
    (q : PermitPartition) : pool.active q ≤ q.limit := by
  have hlimit := h.limit q
  rw [hactive]
  split_ifs with heq
  · rw [← heq]
    omega
  · omega

/-- A call that waits was counted as a waiter, so the pool has one to take off. -/
theorem Sound.waiters_left {notified : Bool} (h : s.Sound)
    (hi : s.calls[i]? = some (.waiting p notified)) (q : PermitPartition) :
    s.pool.waiters q - (if p = q then 1 else 0) + (if p = q then 1 else 0) = s.pool.waiters q := by
  have hcounted : (if p = q then 1 else 0) ≤ s.waiting q := le_waiting hi
  rw [← h.waiters] at hcounted
  omega

/-- **Every event keeps the invariant.** -/
theorem Sound.step (h : s.Sound) (e : PermitEvent) : (s.step e).Sound := by
  cases e with
  | acquire kind =>
    have hentered : ∀ q, (s.pool.enter kind.partition).waiters q =
        s.pool.waiters q + if kind.partition = q then 1 else 0 := fun q => AttemptPermitPool.waiters_enter
    have hsame : (s.pool.enter kind.partition).active = s.pool.active := rfl
    simp only [PermitSystem.step]
    split
    · next pool hlook =>
      obtain ⟨hroom, hactive, hwaiters⟩ := AttemptPermitPool.look_eq_some hlook
      rw [hsame] at hroom hactive
      refine h.add hactive (fun q => ?_) (fun q => ?_) (fun q hq => by cases hq) (by simp)
      · rw [hwaiters, hentered]
        show _ = s.pool.waiters q + 0
        omega
      · exact h.limit_taken hroom hactive q
    · next hlook =>
      have hfull := AttemptPermitPool.look_eq_none hlook
      refine h.add (fun q => rfl) hentered h.limit (fun q hq => ?_) (by simp)
      cases hq
      exact hfull
  | tryShadow =>
    simp only [PermitSystem.step]
    split
    · next pool hshadow =>
      obtain ⟨-, hroom, hactive, hwaiters⟩ := AttemptPermitPool.tryShadow_eq_some hshadow
      refine h.add hactive (fun q => ?_) (fun q => ?_) (fun q hq => by cases hq) (by simp)
      · rw [hwaiters]
        rfl
      · exact h.limit_taken hroom hactive q
    · exact h.add (fun q => rfl) (fun q => rfl) h.limit (fun q hq => by cases hq) (by simp)
  | resume i =>
    simp only [PermitSystem.step]
    split
    · next p hi =>
      split
      · next pool hlook =>
        obtain ⟨hroom, hactive, hwaiters⟩ := AttemptPermitPool.look_eq_some hlook
        refine h.put hi hactive (fun q => ?_) (fun q => ?_) (fun q => ?_) (fun q hq => by cases hq)
          (by simp)
        · rw [hwaiters]
          exact h.waiters_left hi q
        · exact h.limit_taken hroom hactive q
        · rw [hactive]
          omega
      · next hlook =>
        have hfull := AttemptPermitPool.look_eq_none hlook
        refine h.put hi (fun q => rfl) (fun q => rfl) h.limit (fun q => le_rfl) (fun q hq => ?_)
          (by simp)
        cases hq
        exact hfull
    · exact h
  | cancel i =>
    simp only [PermitSystem.step]
    split
    · next p notified hi =>
      refine h.put hi (fun q => rfl) (fun q => ?_) h.limit (fun q => le_rfl) (fun q hq => by cases hq)
        (by simp)
      rw [AttemptPermitPool.waiters_leave]
      exact h.waiters_left hi q
    · exact h
  | release i =>
    simp only [PermitSystem.step]
    split
    · next p shadow hi =>
      have hone : (PermitCall.holding p shadow).permits p = 1 := if_pos rfl
      have hpos : 1 ≤ s.pool.active p := by
        rw [h.active, ← hone]
        exact le_taken hi
      obtain ⟨pool, hrelease, hactive, hwaiters⟩ := AttemptPermitPool.release_of_pos hpos
      rw [hrelease]
      exact h.release hi hactive hwaiters
    · exact h
  | cancelRelease i =>
    simp only [PermitSystem.step]
    split
    · next p shadow hi =>
      exact h.put hi (fun q => rfl) (fun q => rfl) h.limit (fun q => le_rfl) (fun q hq => by cases hq)
        (by simp)
    · exact h

/-- A run from a new pool. -/
inductive Run : List PermitEvent → PermitSystem → Prop
  | init {pool : AttemptPermitPool} (h : AttemptPermitPool.init = some pool) : Run [] ⟨pool, []⟩
  | step {es : List PermitEvent} {s : PermitSystem} (h : Run es s) (e : PermitEvent) :
      Run (es ++ [e]) (s.step e)

theorem Run.sound {es : List PermitEvent} (h : Run es s) : s.Sound := by
  induction h with
  | init hinit =>
    unfold AttemptPermitPool.init at hinit
    split_ifs at hinit
    cases hinit
    refine ⟨fun p => rfl, fun p => rfl, fun p => Nat.zero_le _, fun p hmem => ?_, List.not_mem_nil⟩
    cases hmem
  | step _ e ih => exact ih.step e

/-- The calls that wait for a partition are counted. -/
theorem waiting_eq_zero_iff : s.waiting p = 0 ↔ ∀ n, .waiting p n ∉ s.calls := by
  constructor
  · intro hzero n hmem
    obtain ⟨i, hi⟩ := List.mem_iff_getElem?.mp hmem
    have hone : (PermitCall.waiting p n).waits p = 1 := if_pos rfl
    have hle : (PermitCall.waiting p n).waits p ≤ s.waiting p := le_waiting hi
    omega
  · intro hnone
    apply List.sum_eq_zero_iff_forall_eq_nat.mpr
    intro n hn
    obtain ⟨c, hc, rfl⟩ := List.mem_map.mp hn
    cases c with
    | waiting q notified =>
      by_cases heq : q = p
      · exact absurd (heq ▸ hc) (hnone notified)
      · exact if_neg heq
    | _ => rfl

/-- What callers of the pool rely on. -/
structure Fair (s : PermitSystem) : Prop where
  sound : s.Sound
  total : s.pool.active .foreground + s.pool.active .recovery +
    s.pool.active .discoveryQualification ≤ attemptPermits
  /-- A shadow call gets a permit exactly when no foreground call waits and one is free. -/
  shadow : (s.step .tryShadow).calls = s.calls ++ [.holding .foreground true] ↔
    (∀ n, .waiting .foreground n ∉ s.calls) ∧
      s.taken .foreground < PermitPartition.limit .foreground
  /-- A waiting call whose partition has room was notified, and its next look takes a permit. -/
  progress : ∀ i p n, s.calls[i]? = some (.waiting p n) → s.taken p < p.limit →
    n = true ∧ (s.step (.resume i)).calls[i]? = some (.holding p false)

/-- **The permits are fair in every run.** No partition borrows from another, no release underflows,
shadow calls never pass waiting ones, and no wakeup is lost. -/
theorem Run.fair {es : List PermitEvent} (h : Run es s) : s.Fair := by
  have hs := h.sound
  refine ⟨hs, ?_, ?_, fun i p n hi hroom => ?_⟩
  · have hforeground := hs.limit .foreground
    have hrecovery := hs.limit .recovery
    have hdiscovery := hs.limit .discoveryQualification
    simp only [PermitPartition.limit] at hforeground hrecovery hdiscovery
    unfold attemptPermits
    omega
  · rw [← waiting_eq_zero_iff, ← hs.waiters, ← hs.active]
    simp only [PermitSystem.step, AttemptPermitPool.tryShadow]
    split_ifs with hbusy
    · constructor
      · intro heq
        cases List.singleton_injective (List.append_cancel_left heq)
      · intro hidle
        rcases hbusy with hbusy | hbusy
        · exact absurd hidle.1 hbusy
        · omega
    · rw [not_or, not_not] at hbusy
      exact ⟨fun _ => ⟨hbusy.1, by omega⟩, fun _ => rfl⟩
  · have hnotified : n = true := by
      by_contra hno
      rw [Bool.not_eq_true] at hno
      subst hno
      have hfull := hs.wakeup p (List.mem_of_getElem? hi)
      rw [hs.active] at hfull
      omega
    subst hnotified
    refine ⟨rfl, ?_⟩
    have hlook : s.pool.look p = some ((s.pool.setActive p (s.pool.active p + 1)).leave p) := by
      rw [AttemptPermitPool.look, if_neg]
      rw [hs.active]
      omega
    simp only [PermitSystem.step, hi, hlook]
    obtain ⟨hlt, -⟩ := List.getElem?_eq_some_iff.mp hi
    exact List.getElem?_set_self hlt

/-- Two foreground calls and a shadow one, one of them released. -/
theorem sample_fair : ∃ s, Run [.acquire .foreground, .tryShadow, .release 0] s ∧ s.Fair := by
  have hrun := (((Run.init rfl).step (.acquire .foreground)).step .tryShadow).step (.release 0)
  exact ⟨_, hrun, Run.fair hrun⟩

end PermitSystem

end LlmMaxxing
