import LlmMaxxing.Lib.Meter
import LlmMaxxing.Telemetry.Lifecycle
import LlmMaxxing.Telemetry.SpoolRecords

/-!
# A request stays within its reservation (`gateway/telemetry.py`, `telemetry/writer.py`)

Every event but the terminal one is counted by the state that is recorded with it, so the slots left
are the budget less what is recorded: `Within` is that equation before the terminal event, and no slot
left after it. `lifecycle_within_reservation` reads the claims of the reservation off it.
-/

namespace LlmMaxxing.Telemetry

open Check
open Fallible (andThen)

/-! ## The slots of the spool -/

namespace Spool

/-- The outstanding slots are those left in the reservations. -/
def Accounted (s : Spool) : Prop :=
  s.outstandingSlots = (s.reservations.map ReservationState.remaining).sum

/-- What a step can do to the reservations: nothing, add one, or take slots from one of `on`. -/
inductive SlotMove (on : Nat → Prop) (s s' : Spool) : Prop where
  | kept (hreservations : s'.reservations = s.reservations)
      (houtstanding : s'.outstandingSlots = s.outstandingSlots)
  | added (n : Nat) (hreservations : s'.reservations = s.reservations ++ [{ remaining := n }])
      (houtstanding : s'.outstandingSlots = s.outstandingSlots + n)
  | taken (i : Nat) (r r' : ReservationState) (hon : on i) (hi : s.reservations[i]? = some r)
      (hreservations : s'.reservations = s.reservations.set i r')
      (hle : r'.remaining ≤ r.remaining)
      (houtstanding : s'.outstandingSlots = s.outstandingSlots - (r.remaining - r'.remaining))

theorem SlotMove.accounted {on : Nat → Prop} {s s' : Spool} (h : SlotMove on s s')
    (hs : s.Accounted) : s'.Accounted := by
  unfold Accounted at hs ⊢
  cases h with
  | kept hreservations houtstanding => rw [hreservations, houtstanding, hs]
  | added n hreservations houtstanding =>
    rw [hreservations, houtstanding, hs, List.map_append, List.sum_append]
    rfl
  | taken i r r' _ hi hreservations hle houtstanding =>
    have hsum := Meter.sum_map_set ReservationState.remaining r' hi
    rw [hreservations, houtstanding, hs]
    omega

/-- A reservation that no slot is taken from stays. -/
theorem SlotMove.getElem? {on : Nat → Prop} {s s' : Spool} (h : SlotMove on s s') {slot : Nat}
    (hslot : slot < s.reservations.length) (hoff : ¬on slot) :
    s'.reservations[slot]? = s.reservations[slot]? := by
  cases h with
  | kept hreservations _ => rw [hreservations]
  | added n hreservations _ => rw [hreservations, List.getElem?_append_left hslot]
  | taken i r r' hon _ hreservations _ _ =>
    have hne : i ≠ slot := fun heq => hoff (heq ▸ hon)
    rw [hreservations, List.getElem?_set_ne hne]

theorem preserveFailedTerminal_slots (c : SpoolConfig) (event : LifecycleEventV1) (s : Spool) :
    (s.preserveFailedTerminal c event).reservations = s.reservations ∧
      (s.preserveFailedTerminal c event).outstandingSlots = s.outstandingSlots := by
  unfold preserveFailedTerminal
  split_ifs <;> exact ⟨rfl, rfl⟩

theorem accept_slots (event : LifecycleEventV1) (s : Spool) :
    (s.accept event).reservations = s.reservations ∧
      (s.accept event).outstandingSlots = s.outstandingSlots := by
  unfold accept
  split_ifs <;> exact ⟨rfl, rfl⟩

/-- What an emit on reservation `i` leaves of it: its slot is taken, or it fails and stays as it is. -/
inductive Submitted (i : Nat) (r : ReservationState) (s : Spool) : Spool × CallResult → Prop where
  | returned {s' : Spool}
      (hreservations : s'.reservations = s.reservations.set i
        { remaining := r.remaining - 1, emitted := r.emitted + 1, closed := r.remaining - 1 = 0 })
      (houtstanding : s'.outstandingSlots = s.outstandingSlots - 1) : Submitted i r s (s', .returned)
  | failed {s' : Spool} {fault : CallResult} (hfault : fault ≠ .returned)
      (hnot : fault ≠ .reservationExhausted) (hreservations : s'.reservations = s.reservations)
      (houtstanding : s'.outstandingSlots = s.outstandingSlots) : Submitted i r s (s', fault)

/-- **An emit of a reservation with a slot** is never refused for want of one. -/
theorem submit_cases (c : SpoolConfig) {i : Nat} {r : ReservationState} (event : LifecycleEventV1)
    (terminal : Bool) {s : Spool} (hi : s.reservations[i]? = some r) (hclosed : r.closed = false)
    (hpos : 1 ≤ r.remaining) : Submitted i r s (s.submit c i r event terminal) := by
  have hself : s.reservations.set i { r with closed := false } = s.reservations := by
    rw [← hclosed]
    exact Meter.set_eq_self hi
  have hopen : ¬(r.closed = true ∨ r.remaining < 1) := by
    rw [hclosed]
    simpa using Nat.ne_of_gt hpos
  unfold submit
  rw [if_neg hopen]
  split_ifs with hterminal hdown hroom
  · refine .returned ?_ ?_
    · rw [(accept_slots _ _).1, (preserveFailedTerminal_slots _ _ _).1]
      rfl
    · rw [(accept_slots _ _).2, (preserveFailedTerminal_slots _ _ _).2]
      rfl
  · exact .failed (by decide) (by decide) rfl rfl
  · refine .returned ?_ ?_
    · rw [(accept_slots _ _).1]
      rfl
    · rw [(accept_slots _ _).2]
      rfl
  · exact .failed (by decide) (by decide) hself rfl

theorem submit_slots (c : SpoolConfig) {i : Nat} {r : ReservationState} (event : LifecycleEventV1)
    (terminal : Bool) {s : Spool} (hi : s.reservations[i]? = some r) :
    SlotMove (· = i) s (s.submit c i r event terminal).1 := by
  by_cases hopen : r.closed = true ∨ r.remaining < 1
  · unfold submit
    rw [if_pos hopen]
    exact .kept rfl rfl
  · rw [not_or, not_lt, Bool.not_eq_true] at hopen
    generalize hresult : s.submit c i r event terminal = result
    have hcases := submit_cases c event terminal hi hopen.1 hopen.2
    rw [hresult] at hcases
    cases hcases with
    | returned hreservations houtstanding =>
      refine .taken i r _ rfl hi hreservations (Nat.sub_le _ _) ?_
      rw [houtstanding]
      have := hopen.2
      simp only
      omega
    | failed _ _ hreservations houtstanding => exact .kept hreservations houtstanding

theorem releaseUnused_slots {i : Nat} {r : ReservationState} (count : Option Int) {s : Spool}
    (hi : s.reservations[i]? = some r) : SlotMove (· = i) s (s.releaseUnused i r count).1 := by
  unfold releaseUnused
  split_ifs with hneg hzero
  · exact .kept rfl rfl
  · refine .taken i r _ rfl hi rfl le_rfl ?_
    rw [Nat.sub_self]
    rfl
  · dsimp only
    split_ifs with hmore
    · exact .kept rfl rfl
    · refine .taken i r _ rfl hi rfl (Nat.sub_le _ _) ?_
      simp only
      omega

theorem tryReserve_slots (c : SpoolConfig) (events : Int) (s : Spool) :
    s.tryReserve c events = s ∨
      (s.tryReserve c events).reservations = s.reservations ++ [{ remaining := events.toNat }] ∧
        (s.tryReserve c events).outstandingSlots = s.outstandingSlots + events.toNat := by
  unfold tryReserve
  split_ifs
  · exact Or.inl rfl
  · exact Or.inl rfl
  · exact Or.inr ⟨rfl, rfl⟩

theorem releaseControlWaiters_slots (c : SpoolConfig) (s : Spool) :
    (s.releaseControlWaiters c).reservations = s.reservations ∧
      (s.releaseControlWaiters c).outstandingSlots = s.outstandingSlots := by
  unfold releaseControlWaiters
  have hstart : ({ s with queue := [] } : Spool).reservations = s.reservations ∧
      ({ s with queue := [] } : Spool).outstandingSlots = s.outstandingSlots := ⟨rfl, rfl⟩
  generalize ({ s with queue := [] } : Spool) = t at hstart ⊢
  generalize s.queue = l
  induction l generalizing t with
  | nil => exact hstart
  | cons command rest ih =>
    apply ih
    cases command with
    | control k => exact hstart
    | event e =>
      dsimp only
      split_ifs
      · rw [(preserveFailedTerminal_slots c _ t).1, (preserveFailedTerminal_slots c _ t).2]
        exact hstart
      · exact hstart

theorem writerFails_slots (c : SpoolConfig) (batch : List EventCommand) (s : Spool) :
    (s.writerFails c batch).reservations = s.reservations ∧
      (s.writerFails c batch).outstandingSlots = s.outstandingSlots := by
  have hbatch : ∀ (l : List EventCommand) (s : Spool),
      (l.foldl (fun s e => if e.terminal then s.preserveFailedTerminal c e.event else s) s).reservations =
          s.reservations ∧
        (l.foldl (fun s e => if e.terminal then s.preserveFailedTerminal c e.event else s)
          s).outstandingSlots = s.outstandingSlots := by
    intro l
    induction l with
    | nil => exact fun s => ⟨rfl, rfl⟩
    | cons e rest ih =>
      intro s
      rw [List.foldl_cons, (ih _).1, (ih _).2]
      split_ifs
      · exact preserveFailedTerminal_slots c _ s
      · exact ⟨rfl, rfl⟩
  unfold writerFails
  rw [(releaseControlWaiters_slots c _).1, (releaseControlWaiters_slots c _).2]
  exact hbatch batch s

theorem writerAppend_slots {sha256 : Json.Bytes → HexDigest} {c : SpoolConfig} {aged : Bool}
    {nowMs : Nat} {s s' : Spool} (h : s.writerAppend sha256 c aged nowMs = some s') :
    s'.reservations = s.reservations ∧ s'.outstandingSlots = s.outstandingSlots := by
  unfold writerAppend at h
  split at h
  · split at h
    · obtain rfl := Option.some.inj h
      exact ⟨rfl, rfl⟩
    · obtain rfl := Option.some.inj h
      rw [(writerFails_slots c _ _).1, (writerFails_slots c _ _).2]
      exact ⟨rfl, rfl⟩
  · cases h

/-- **A step of the spool** takes slots from the reservation it is on only. -/
theorem step_slots {sha256 : Json.Bytes → HexDigest} {c : SpoolConfig} {s s' : Spool}
    {a : SpoolAction} (h : s.step sha256 c a = some s') :
    SlotMove (fun i => ¬a.Spares i) s s' := by
  have hon : ∀ {i : Nat} {t : Spool}, (¬a.Spares i) → SlotMove (· = i) s t →
      SlotMove (fun i => ¬a.Spares i) s t := by
    intro i t hi hmove
    cases hmove with
    | kept hreservations houtstanding => exact .kept hreservations houtstanding
    | added n hreservations houtstanding => exact .added n hreservations houtstanding
    | taken j r r' hj hget hreservations hle houtstanding =>
      exact .taken j r r' (hj ▸ hi) hget hreservations hle houtstanding
  cases a with
  | tryReserve events =>
    obtain rfl := Option.some.inj h
    rcases tryReserve_slots c events s with hsame | ⟨hreservations, houtstanding⟩
    · rw [hsame]
      exact .kept rfl rfl
    · exact .added _ hreservations houtstanding
  | emit i event terminal =>
    obtain ⟨r, hi, rfl⟩ := Option.map_eq_some_iff.mp h
    exact hon (not_not.mpr rfl) (submit_slots _ _ _ hi)
  | releaseUnused i count =>
    obtain ⟨r, hi, rfl⟩ := Option.map_eq_some_iff.mp h
    exact hon (not_not.mpr rfl) (releaseUnused_slots _ hi)
  | writerAppend aged nowMs => exact .kept (writerAppend_slots h).1 (writerAppend_slots h).2
  | _ =>
    -- The other threads touch the queue, the control lock and the files.
    simp only [step, beginFlush, beginClose, putControl, seeDone, joinWriter, timeOut, writerGet,
      writerCollect, writerSeal, writerSettle, writerFinish, writerStop, writerExit] at h
    repeat' split at h
    all_goals cases h
    all_goals exact .kept rfl rfl

theorem run_accounted {sha256 : Json.Bytes → HexDigest} {c : SpoolConfig} {s s' : Spool}
    {actions : List SpoolAction} (h : s.run sha256 c actions = some s') (hs : s.Accounted) :
    s'.Accounted := by
  induction actions generalizing s with
  | nil => exact Option.some.inj h ▸ hs
  | cons a rest ih =>
    obtain ⟨t, ht, hrest⟩ := Option.bind_eq_some_iff.mp h
    exact ih hrest ((step_slots ht).accounted hs)

end Spool

/-! ## What is recorded -/

namespace LifecycleState

/-- The events that the state records, but for the terminal one. -/
def spent (s : LifecycleState) : Nat :=
  s.profileRecorded.toNat + s.queuedRecorded.toNat + s.attempts.size +
    s.attempts.values.countP AttemptState.resolved

/-- The attempts that are not resolved. -/
def unresolved (s : LifecycleState) : Nat := s.attempts.values.countP fun a => !a.resolved

theorem size_attempts (s : LifecycleState) :
    s.attempts.size = s.attempts.values.countP AttemptState.resolved + s.unresolved := by
  have hsize : s.attempts.size = s.attempts.values.length := (List.length_map ..).symm
  rw [hsize, unresolved, List.length_eq_countP_add_countP AttemptState.resolved]
  simp only [Bool.not_eq_true, Bool.decide_eq_false]

theorem spent_insert_new {s : LifecycleState} {k : AttemptId} {a : AttemptState}
    (hk : s.attempts.get? k = none) (ha : a.resolved = false) :
    ({ s with attempts := s.attempts.insert k a } : LifecycleState).spent = s.spent + 1 := by
  have hcount : (s.attempts.insert k a).values.countP AttemptState.resolved =
      s.attempts.values.countP AttemptState.resolved := by
    rw [(s.attempts.values_insert_perm k a).countP_eq, Dict.erase_eq_self hk,
      List.countP_cons_of_neg (by rw [ha]; decide)]
  simp only [spent, hcount, Dict.size_insert_of_get?_eq_none a hk]
  omega

/-- An attempt that is there is changed: it is recorded no more and no less, but for its resolution. -/
theorem spent_insert {s : LifecycleState} {k : AttemptId} {a : AttemptState} (a' : AttemptState)
    (hk : s.attempts.get? k = some a) (ha : a.resolved = false) :
    ({ s with attempts := s.attempts.insert k a' } : LifecycleState).spent =
        s.spent + a'.resolved.toNat ∧
      (s.attempts.insert k a').size = s.attempts.size := by
  have hsize : (s.attempts.insert k a').size = s.attempts.size := by
    have hnew := (s.attempts.entries_insert_perm k a').length_eq
    have hold := (Dict.entries_perm_of_get? hk).length_eq
    exact hnew.trans hold.symm
  have hcount : (s.attempts.insert k a').values.countP AttemptState.resolved =
      s.attempts.values.countP AttemptState.resolved + a'.resolved.toNat := by
    rw [(s.attempts.values_insert_perm k a').countP_eq, (Dict.values_perm_of_get? hk).countP_eq,
      List.countP_cons, List.countP_cons, ha]
    cases a'.resolved <;> rfl
  refine ⟨?_, hsize⟩
  simp only [spent, hcount, hsize]
  omega

end LifecycleState

/-- The terminal events that were emitted. -/
def Lifecycle.terminalEvents (l : Lifecycle) : List LifecycleEventV1 :=
  l.emitted.filter fun e => e.kind = .requestTerminal

/-! ## Events -/

/-- Where it raises, it is the validation of a member. -/
def Validates {α : Type} (x : Except LifecycleError α) : Prop :=
  ∀ e, x = .error e → ∃ message, e = .validation message

theorem validates_positiveMilliseconds (n : Int) : Validates (positiveMilliseconds n) := by
  intro e h
  unfold positiveMilliseconds at h
  split_ifs at h
  exact ⟨_, (Except.error.inj h).symm⟩

theorem validates_milliseconds (n : Int) : Validates (milliseconds n) := by
  intro e h
  unfold milliseconds at h
  split_ifs at h
  exact ⟨_, (Except.error.inj h).symm⟩

theorem validates_attemptsUsed (n : Nat) : Validates (attemptsUsed n) := by
  intro e h
  unfold attemptsUsed at h
  split_ifs at h
  exact ⟨_, (Except.error.inj h).symm⟩

theorem validates_optionally {α β : Type} {f : α → Except LifecycleError β}
    (hf : ∀ a, Validates (f a)) (o : Option α) : Validates (optionally f o) := by
  intro e h
  cases o with
  | none => cases h
  | some a =>
    cases hfa : f a with
    | ok b =>
      rw [optionally, hfa] at h
      cases h
    | error e' =>
      rw [optionally, hfa] at h
      obtain rfl : e' = e := Except.error.inj h
      exact hf a e' hfa

theorem modelValidate_eq_ok_iff {e : EventFields} {event : LifecycleEventV1} :
    modelValidate e = .ok event ↔ event.toEventFields = e := by
  unfold modelValidate
  constructor
  · intro h
    split at h
    · rw [← Except.ok.inj h]
    · cases h
  · rintro rfl
    have hvalid := event.valid
    split
    · rfl
    · rename_i heq
      rw [hvalid] at heq
      cases heq

/-- An event of a kind, or the validation of a member that raised. -/
structure EventOf (kind : LifecycleEventKind) (x : Except LifecycleError LifecycleEventV1) :
    Prop where
  validates : Validates x
  kind : ∀ event, x = .ok event → event.kind = kind

theorem EventOf.bind {α : Type} {kind : LifecycleEventKind} {x : Except LifecycleError α}
    {f : α → Except LifecycleError LifecycleEventV1} (hx : Validates x)
    (hf : ∀ a, EventOf kind (f a)) : EventOf kind (x >>= f) := by
  cases x with
  | ok a => exact hf a
  | error e =>
    refine ⟨fun e' h => ?_, fun _ h => (by cases h)⟩
    obtain rfl : e = e' := Except.error.inj h
    exact hx e rfl

theorem eventOf_base (r : LifecycleReservation) (cap : TelemetryLifecycleCapacity) (x : Reading)
    (kind : LifecycleEventKind) {f : EventFields → EventFields} (hf : ∀ base, (f base).kind = base.kind) :
    EventOf kind (r.eventBase cap x kind >>= fun base => modelValidate (f base)) := by
  unfold LifecycleReservation.eventBase
  cases hnow : positiveMilliseconds x.nowMs with
  | error e =>
    refine ⟨fun e' h => ?_, fun _ h => (by cases h)⟩
    obtain rfl : e = e' := Except.error.inj h
    exact validates_positiveMilliseconds _ e hnow
  | ok now =>
    refine ⟨fun e h => ?_, fun event h => ?_⟩
    · simp only [ok_bind, pure_eq_ok, modelValidate] at h
      split at h
      · cases h
      · exact ⟨_, (Except.error.inj h).symm⟩
    · simp only [ok_bind, pure_eq_ok] at h
      rw [modelValidate_eq_ok_iff.mp h, hf]

/-! ## The invariant -/

section Invariant

variable {r : LifecycleReservation} {l : Lifecycle}

/-- Before the terminal event: what is recorded and what is left are the budget. -/
structure Running (r : LifecycleReservation) (l : Lifecycle) : Prop where
  terminal : l.state.terminalRecorded = false
  released : l.state.released = false
  closed : (r.spoolState l).closed = false
  budget : r.remainingEvents l + 1 + l.state.spent = 4 + 2 * r.maxAttempts
  none : l.terminalEvents = []

/-- After it: one terminal event, and no slot. -/
structure Ended (r : LifecycleReservation) (l : Lifecycle) : Prop where
  terminal : l.state.terminalRecorded = true
  remaining : r.remainingEvents l = 0
  once : l.terminalEvents.length = 1

/-- The invariant of a reservation. -/
structure Within (r : LifecycleReservation) (l : Lifecycle) : Prop where
  slot : r.slot < l.capacity.spool.reservations.length
  accounted : l.capacity.spool.Accounted
  attempts : l.state.attempts.size ≤ r.maxAttempts
  phase : Running r l ∨ Ended r l

theorem getElem?_slot (h : r.slot < l.capacity.spool.reservations.length) :
    l.capacity.spool.reservations[r.slot]? = some (r.spoolState l) := by
  unfold LifecycleReservation.spoolState
  rw [List.getD_eq_getElem?_getD, List.getElem?_eq_getElem h]
  rfl

/-- What a state with few attempts records. -/
theorem spent_le {s : LifecycleState} {maxAttempts : Nat} (h : s.attempts.size ≤ maxAttempts) :
    s.spent + s.unresolved ≤ 2 + 2 * maxAttempts := by
  have hsize := s.size_attempts
  have hprofile := Bool.toNat_le s.profileRecorded
  have hqueued := Bool.toNat_le s.queuedRecorded
  unfold LifecycleState.spent
  omega

/-- **Before the terminal event** there is a slot for every unresolved attempt, and one more. -/
theorem Within.unresolved_lt (h : Within r l) (hrunning : Running r l) :
    l.state.unresolved + 1 ≤ r.remainingEvents l := by
  have hbudget := hrunning.budget
  have hspent := spent_le h.attempts
  omega

/-- The phase depends on the reservation's own slots, its state and its events. -/
theorem Within.congr {l' : Lifecycle} (h : Within r l)
    (hslot : l'.capacity.spool.reservations[r.slot]? = l.capacity.spool.reservations[r.slot]?)
    (haccounted : l'.capacity.spool.Accounted) (hstate : l'.state = l.state)
    (hemitted : l'.emitted = l.emitted) : Within r l' := by
  have hlength : r.slot < l'.capacity.spool.reservations.length := by
    rw [getElem?_slot h.slot] at hslot
    exact (List.getElem?_eq_some_iff.mp hslot).1
  have hspool : r.spoolState l' = r.spoolState l := by
    rw [getElem?_slot h.slot, getElem?_slot hlength] at hslot
    exact Option.some.inj hslot
  have hterminal : l'.terminalEvents = l.terminalEvents := by
    unfold Lifecycle.terminalEvents
    rw [hemitted]
  have hremaining : r.remainingEvents l' = r.remainingEvents l :=
    congrArg ReservationState.remaining hspool
  refine ⟨hlength, haccounted, hstate ▸ h.attempts, h.phase.imp (fun hp => ?_) fun hp => ?_⟩
  · exact ⟨hstate ▸ hp.terminal, hstate ▸ hp.released, hspool ▸ hp.closed,
      by rw [hremaining, hstate]; exact hp.budget, hterminal ▸ hp.none⟩
  · exact ⟨hstate ▸ hp.terminal, hremaining ▸ hp.remaining, hterminal ▸ hp.once⟩

/-- The reservation keeps its invariant, and what was raised is not for want of a slot. -/
structure Keeps {α : Type} (r : LifecycleReservation) (result : Fallible Lifecycle LifecycleError α) :
    Prop where
  within : Within r result.1
  fault : result.2 ≠ .error (.spool .reservationExhausted)

/-- What an emit before the terminal event leaves. -/
inductive Emitted (r : LifecycleReservation) (l : Lifecycle) (event : LifecycleEventV1) :
    Fallible Lifecycle LifecycleError Unit → Prop where
  | returned {spool : Spool} (haccounted : spool.Accounted)
      (hreservations : spool.reservations = l.capacity.spool.reservations.set r.slot
        { remaining := r.remainingEvents l - 1
          emitted := (r.spoolState l).emitted + 1
          closed := r.remainingEvents l - 1 = 0 }) :
      Emitted r l event ({ l with
        capacity := { l.capacity with spool := spool }
        emitted := l.emitted ++ [event] }, .ok ())
  | failed {l' : Lifecycle} {fault : Spool.CallResult} (hwithin : Within r l')
      (hfault : fault ≠ .reservationExhausted) : Emitted r l event (l', .error (.spool fault))

theorem emit_cases {c : SpoolConfig} (h : Within r l) (hrunning : Running r l)
    (event : LifecycleEventV1) (terminal : Bool) :
    Emitted r l event (r.emit c event terminal l) := by
  have hget := getElem?_slot h.slot
  have hpos : 1 ≤ (r.spoolState l).remaining := by
    have := h.unresolved_lt hrunning
    unfold LifecycleReservation.remainingEvents at this
    omega
  have hcases := Spool.submit_cases c event terminal hget
    hrunning.closed hpos
  have haccounted :=
    (Spool.submit_slots c event terminal hget).accounted h.accounted
  unfold LifecycleReservation.emit
  generalize l.capacity.spool.submit c r.slot (r.spoolState l) event terminal = result
    at hcases haccounted
  cases hcases with
  | returned hreservations _ => exact .returned haccounted hreservations
  | @failed spool fault hfault hnot hreservations _ =>
    have hwithin : Within r { l with capacity := { l.capacity with spool := spool } } :=
      h.congr (congrArg (·[r.slot]?) hreservations) haccounted rfl rfl
    cases fault with
    | returned => exact absurd rfl hfault
    | reservationExhausted => exact absurd rfl hnot
    | valueError => exact .failed hwithin hnot
    | writerUnavailable => exact .failed hwithin hnot
    | reservedQueueFull => exact .failed hwithin hnot
    | releaseExceedsRemaining => exact .failed hwithin hnot

/-! ## Rules -/

variable {α β : Type} {c : SpoolConfig}

theorem Keeps.answered (h : Within r l) (a : α) :
    Keeps r ((l, .ok a) : Fallible Lifecycle LifecycleError α) :=
  ⟨h, fun heq => (by cases heq)⟩

theorem keeps_demand {p : Prop} [Decidable p] {e : LifecycleError}
    {k : Unit → LifecycleCall α} (h : Within r l) (he : e ≠ .spool .reservationExhausted)
    (hk : p → Keeps r (k () l)) : Keeps r (andThen (demand p e l) k) := by
  by_cases hp : p
  · have hpass : demand p e l = (l, .ok ()) := by rw [demand, require_eq_ok_iff.mpr hp]
    rw [hpass]
    exact hk hp
  · have hraise : demand p e l = (l, .error e) := by rw [demand, require, if_neg hp]
    rw [hraise]
    refine ⟨h, fun heq => he ?_⟩
    exact Except.error.inj heq

/-- An open reservation is one before its terminal event. -/
theorem keeps_isOpen {k : Unit → LifecycleCall α} (h : Within r l)
    (hk : Running r l → Keeps r (k () l)) : Keeps r (andThen (isOpen l) k) := by
  refine keeps_demand h (by simp) fun hopen => ?_
  rcases h.phase with hrunning | hended
  · exact hk hrunning
  · rw [hended.terminal] at hopen
    cases hopen.2

theorem keeps_getAttempt {attemptId : AttemptId} {message : String}
    {k : AttemptState → LifecycleCall α} (h : Within r l)
    (hk : ∀ attempt, l.state.attempts.get? attemptId = some attempt → Keeps r (k attempt l)) :
    Keeps r (andThen (getAttempt attemptId message l) k) := by
  unfold getAttempt
  cases hget : l.state.attempts.get? attemptId with
  | none => exact ⟨h, fun heq => (by cases heq)⟩
  | some attempt => exact hk attempt hget

/-- A change of what is recorded that records no event. -/
theorem keeps_record {f : LifecycleState → LifecycleState} (h : Within r l) (hrunning : Running r l)
    (hspent : (f l.state).spent = l.state.spent)
    (hsize : (f l.state).attempts.size = l.state.attempts.size)
    (hterminal : (f l.state).terminalRecorded = l.state.terminalRecorded)
    (hreleased : (f l.state).released = l.state.released) : Keeps r (record f l) := by
  refine ⟨⟨h.slot, h.accounted, hsize.le.trans h.attempts, Or.inl ?_⟩, fun heq => (by cases heq)⟩
  refine ⟨hterminal.trans hrunning.terminal, hreleased.trans hrunning.released, hrunning.closed, ?_,
    hrunning.none⟩
  show r.remainingEvents l + 1 + (f l.state).spent = _
  rw [hspent]
  exact hrunning.budget

/-- **An event, and what records it.** The event takes a slot, and the record counts it. -/
theorem keeps_emit_record (kind : LifecycleEventKind)
    {event : Except LifecycleError LifecycleEventV1} {f : LifecycleState → LifecycleState}
    (h : Within r l) (hrunning : Running r l) (hevent : EventOf kind event)
    (hkind : kind ≠ .requestTerminal) (hspent : (f l.state).spent = l.state.spent + 1)
    (hsize : (f l.state).attempts.size ≤ r.maxAttempts)
    (hterminal : (f l.state).terminalRecorded = l.state.terminalRecorded)
    (hreleased : (f l.state).released = l.state.released) :
    Keeps r (andThen (r.emitEvent c event false l) fun _ => record f) := by
  cases hresult : event with
  | error e =>
    obtain ⟨message, rfl⟩ := hevent.validates e hresult
    exact ⟨h, fun heq => (by cases heq)⟩
  | ok event =>
    have hpos := h.unresolved_lt hrunning
    have hcases := emit_cases (c := c) h hrunning event false
    unfold LifecycleReservation.emitEvent
    dsimp only
    generalize r.emit c event false l = result at hcases
    cases hcases with
    | failed hwithin hfault =>
      exact ⟨hwithin, fun heq => hfault (LifecycleError.spool.inj (Except.error.inj heq))⟩
    | @returned spool haccounted hreservations =>
      have hlength : r.slot < spool.reservations.length := by
        rw [hreservations, List.length_set]
        exact h.slot
      have hslot : spool.reservations.getD r.slot { remaining := 0, closed := true } =
          { remaining := r.remainingEvents l - 1
            emitted := (r.spoolState l).emitted + 1
            closed := r.remainingEvents l - 1 = 0 } := by
        rw [hreservations, List.getD_eq_getElem?_getD, List.getElem?_set_self h.slot]
        rfl
      have hbudget := hrunning.budget
      have hbound := spent_le hsize
      refine ⟨⟨hlength, haccounted, hsize, Or.inl ⟨hterminal.trans hrunning.terminal,
        hreleased.trans hrunning.released, ?_, ?_, ?_⟩⟩, fun heq => (by cases heq)⟩
      · show (spool.reservations.getD r.slot { remaining := 0, closed := true }).closed = false
        rw [hslot, decide_eq_false_iff_not]
        omega
      · show (spool.reservations.getD r.slot { remaining := 0, closed := true }).remaining + 1 +
          (f l.state).spent = _
        rw [hslot, hspent]
        dsimp only
        omega
      · have hold : l.emitted.filter (fun e => e.kind = .requestTerminal) = [] := hrunning.none
        have hnew : event.kind ≠ .requestTerminal := by
          rw [hevent.kind event hresult]
          exact hkind
        show (l.emitted ++ [event]).filter (fun e => e.kind = .requestTerminal) = []
        rw [List.filter_append, hold, List.filter_cons_of_neg (by simpa using hnew)]
        rfl

/-- `release_unused` gives every slot back. -/
theorem releaseUnused_spec (hslot : r.slot < l.capacity.spool.reservations.length)
    (haccounted : l.capacity.spool.Accounted) :
    ∃ spool : Spool, r.releaseUnused l = ({ l with capacity := { l.capacity with spool := spool } }, .ok ()) ∧
      r.slot < spool.reservations.length ∧ spool.Accounted ∧
      (spool.reservations.getD r.slot { remaining := 0, closed := true }).remaining = 0 := by
  have hget := getElem?_slot hslot
  have hkeep := (Spool.releaseUnused_slots none hget).accounted haccounted
  have hresult : ∃ st : ReservationState, st.remaining = 0 ∧
      (l.capacity.spool.releaseUnused r.slot (r.spoolState l) none).2 = .returned ∧
      (l.capacity.spool.releaseUnused r.slot (r.spoolState l) none).1.reservations =
        l.capacity.spool.reservations.set r.slot st := by
    unfold Spool.releaseUnused
    rw [if_neg (by simp)]
    split_ifs with hzero
    · exact ⟨{ r.spoolState l with closed := true }, hzero, rfl, rfl⟩
    · dsimp only [Option.map_none, Option.getD_none]
      rw [if_neg (lt_irrefl _)]
      exact ⟨_, Nat.sub_self _, rfl, rfl⟩
  unfold LifecycleReservation.releaseUnused
  generalize l.capacity.spool.releaseUnused r.slot (r.spoolState l) none = result at hkeep hresult
  obtain ⟨st, hzero, hreturned, hreservations⟩ := hresult
  obtain ⟨spool, answer⟩ := result
  obtain rfl : answer = .returned := hreturned
  refine ⟨spool, rfl, ?_, hkeep, ?_⟩
  · rw [show spool.reservations = _ from hreservations, List.length_set]
    exact hslot
  · rw [show spool.reservations = _ from hreservations, List.getD_eq_getElem?_getD,
      List.getElem?_set_self hslot]
    exact hzero

/-- The reservation keeps its invariant, and a call that returns has ended it. -/
structure Ends (r : LifecycleReservation) (result : Fallible Lifecycle LifecycleError Unit) :
    Prop extends Keeps r result where
  ended : result.2 = .ok () → Ended r result.1

/-- **The terminal event**: it takes a slot, and the rest is given back. -/
theorem ends_emit_terminal {event : Except LifecycleError LifecycleEventV1} (h : Within r l)
    (hrunning : Running r l) (hevent : EventOf .requestTerminal event) :
    Ends r (andThen (r.emitEvent c event true l) fun _ l =>
      andThen (record (fun s => { s with terminalRecorded := true }) l) fun _ => r.releaseUnused) := by
  cases hresult : event with
  | error e =>
    obtain ⟨message, rfl⟩ := hevent.validates e hresult
    exact ⟨⟨h, fun heq => (by cases heq)⟩, fun heq => (by cases heq)⟩
  | ok event =>
    have hcases := emit_cases (c := c) h hrunning event true
    unfold LifecycleReservation.emitEvent
    dsimp only
    generalize r.emit c event true l = result at hcases
    cases hcases with
    | failed hwithin hfault =>
      exact ⟨⟨hwithin, fun heq => hfault (LifecycleError.spool.inj (Except.error.inj heq))⟩,
        fun heq => (by cases heq)⟩
    | @returned spool haccounted hreservations =>
      have hlength : r.slot < spool.reservations.length := by
        rw [hreservations, List.length_set]
        exact h.slot
      have honce : ((l.emitted ++ [event]).filter fun e => e.kind = .requestTerminal).length = 1 := by
        have hold : l.emitted.filter (fun e => e.kind = .requestTerminal) = [] := hrunning.none
        have hnew : event.kind = .requestTerminal := hevent.kind event hresult
        rw [List.filter_append, hold, List.filter_cons_of_pos (by simpa using hnew)]
        rfl
      obtain ⟨spool', hrelease, hlength', haccounted', hzero⟩ := releaseUnused_spec (r := r)
        (l := { l with
          capacity := { l.capacity with spool := spool }
          emitted := l.emitted ++ [event]
          state := { l.state with terminalRecorded := true } }) hlength haccounted
      have hended : Ended r { l with
          capacity := { l.capacity with spool := spool' }
          emitted := l.emitted ++ [event]
          state := { l.state with terminalRecorded := true } } := ⟨rfl, hzero, honce⟩
      show Ends r (r.releaseUnused _)
      rw [hrelease]
      exact ⟨⟨⟨hlength', haccounted', h.attempts, Or.inr hended⟩, fun heq => (by cases heq)⟩,
        fun _ => hended⟩

/-! ## The calls -/

theorem keeps_profileAccepted (x : Reading) (routeGroupId : RouteGroupId) (h : Within r l) :
    Keeps r (r.profileAccepted c x routeGroupId l) := by
  unfold LifecycleReservation.profileAccepted
  refine keeps_isOpen h fun hrunning => ?_
  refine keeps_demand h (by simp) fun hfirst => ?_
  refine keeps_emit_record _ h hrunning (eventOf_base r _ x _ fun _ => rfl) (by decide) ?_ h.attempts
    rfl rfl
  simp only [LifecycleState.spent, hfirst, Bool.toNat_true, Bool.toNat_false]
  omega

theorem keeps_queued (x : Reading) (h : Within r l) : Keeps r (r.queued c x l) := by
  unfold LifecycleReservation.queued
  refine keeps_isOpen h fun hrunning => ?_
  refine keeps_demand h (by simp) fun _ => ?_
  refine keeps_demand h (by simp) fun hfirst => ?_
  refine keeps_emit_record _ h hrunning (eventOf_base r _ x _ fun _ => rfl) (by decide) ?_ h.attempts
    rfl rfl
  simp only [LifecycleState.spent, hfirst, Bool.toNat_true, Bool.toNat_false]
  omega

theorem keeps_attemptStarted (x : Reading) (lease : DispatchLease) (shadow : Bool) (h : Within r l) :
    Keeps r (r.attemptStarted c x lease shadow l) := by
  unfold LifecycleReservation.attemptStarted
  refine keeps_isOpen h fun hrunning => ?_
  refine keeps_demand h (by simp) fun _ => ?_
  refine keeps_demand h (by simp) fun hnew => ?_
  refine keeps_demand h (by simp) fun hroom => ?_
  have hnone := Dict.contains_eq_false_iff.mp hnew
  refine keeps_emit_record .attemptReserved h hrunning ?_ (by decide) ?_ ?_ rfl rfl
  · exact .bind (validates_optionally validates_milliseconds _) fun _ =>
      eventOf_base r _ x _ fun _ => rfl
  · exact LifecycleState.spent_insert_new hnone rfl
  · show (l.state.attempts.insert _ _).size ≤ _
    rw [Dict.size_insert_of_get?_eq_none _ hnone]
    exact hroom.1

theorem keeps_attemptHeaders (x : Reading) (attemptId : AttemptId) (h : Within r l) :
    Keeps r (LifecycleReservation.attemptHeaders x attemptId l) := by
  unfold LifecycleReservation.attemptHeaders
  refine keeps_isOpen h fun hrunning => ?_
  refine keeps_getAttempt h fun attempt hget => ?_
  refine keeps_demand h (by simp) fun hresolved => ?_
  have hspent := LifecycleState.spent_insert
    { attempt with headersAtMs := attempt.headersAtMs.or (some x.nowMs) } hget hresolved
  refine keeps_record h hrunning ?_ hspent.2 rfl rfl
  refine hspent.1.trans ?_
  rw [show ({ attempt with headersAtMs := _ } : AttemptState).resolved = false from hresolved]
  rfl

theorem keeps_attemptFirstByte (x : Reading) (attemptId : AttemptId) (h : Within r l) :
    Keeps r (LifecycleReservation.attemptFirstByte x attemptId l) := by
  unfold LifecycleReservation.attemptFirstByte
  refine keeps_isOpen h fun hrunning => ?_
  refine keeps_getAttempt h fun attempt hget => ?_
  refine keeps_demand h (by simp) fun hresolved => ?_
  refine keeps_demand h (by simp) fun _ => ?_
  have hspent := LifecycleState.spent_insert
    { attempt with firstByteAtMs := attempt.firstByteAtMs.or (some x.nowMs) } hget hresolved
  refine keeps_record h hrunning ?_ hspent.2 rfl rfl
  refine hspent.1.trans ?_
  rw [show ({ attempt with firstByteAtMs := _ } : AttemptState).resolved = false from hresolved]
  rfl

theorem keeps_attemptFinished (x : Reading) (lease : DispatchLease) (outcome : TerminalOutcome)
    (uncertain capacityReleased : Bool) (h : Within r l) :
    Keeps r (r.attemptFinished c x lease outcome uncertain capacityReleased l) := by
  unfold LifecycleReservation.attemptFinished
  refine keeps_isOpen h fun hrunning => ?_
  refine keeps_getAttempt h fun attempt hget => ?_
  by_cases hresolved : attempt.resolved = true
  · rw [if_pos hresolved]
    exact Keeps.answered h ()
  · rw [if_neg hresolved]
    rw [Bool.not_eq_true] at hresolved
    refine keeps_demand h (by simp) fun _ => ?_
    have hspent := LifecycleState.spent_insert { attempt with resolved := true } hget hresolved
    refine keeps_emit_record .attemptResolved h hrunning ?_ (by decide) hspent.1
      (hspent.2.le.trans h.attempts) rfl rfl
    refine .bind (validates_optionally validates_milliseconds _) fun _ => ?_
    refine .bind (validates_milliseconds _) fun _ => ?_
    refine .bind (validates_optionally validates_positiveMilliseconds _) fun _ => ?_
    refine .bind (validates_optionally validates_positiveMilliseconds _) fun _ => ?_
    refine .bind (validates_positiveMilliseconds _) fun _ => ?_
    exact eventOf_base r _ x _ fun _ => rfl

theorem ends_finished (x : Reading) (outcome : TerminalOutcome) (h : Within r l) :
    Ends r (r.finished c x outcome l) := by
  unfold LifecycleReservation.finished
  rcases h.phase with hrunning | hended
  · rw [if_neg (by rw [hrunning.terminal]; decide)]
    have hpass : demand (l.state.released = false)
        (.runtime "released request cannot emit a terminal event") l = (l, .ok ()) := by
      rw [demand, require_eq_ok_iff.mpr hrunning.released]
    rw [hpass]
    refine ends_emit_terminal h hrunning ?_
    refine .bind (validates_milliseconds _) fun _ => ?_
    refine .bind (validates_attemptsUsed _) fun _ => ?_
    exact eventOf_base r _ x _ fun _ => rfl
  · rw [if_pos hended.terminal]
    exact ⟨Keeps.answered h (), fun _ => hended⟩

/-- What a release has done when it returns. -/
structure Settled (r : LifecycleReservation) (l : Lifecycle) : Prop where
  once : l.terminalEvents.length = 1
  remaining : r.remainingEvents l = 0
  /-- Every outstanding slot is of another reservation. -/
  outstanding : l.capacity.spool.outstandingSlots =
    ((l.capacity.spool.reservations.eraseIdx r.slot).map ReservationState.remaining).sum

theorem Within.settled (h : Within r l) (hended : Ended r l) : Settled r l := by
  refine ⟨hended.once, hended.remaining, ?_⟩
  have hget := getElem?_slot h.slot
  obtain ⟨hlt, hat⟩ := List.getElem?_eq_some_iff.mp hget
  have hperm := (List.getElem_cons_eraseIdx_perm hlt).map ReservationState.remaining
  have hzero : (r.spoolState l).remaining = 0 := hended.remaining
  rw [h.accounted, ← hperm.sum_eq, List.map_cons, List.sum_cons, hat, hzero, Nat.zero_add]

theorem keeps_release (x : Reading) (h : Within r l) :
    Keeps r (r.release c x l) ∧
      ((r.release c x l).2 = .ok () → Ended r (r.release c x l).1) := by
  unfold LifecycleReservation.release
  by_cases hreleased : l.state.released = true
  · rw [if_pos hreleased]
    refine ⟨Keeps.answered h (), fun _ => ?_⟩
    rcases h.phase with hrunning | hended
    · rw [hrunning.released] at hreleased
      cases hreleased
    · exact hended
  · rw [if_neg hreleased]
    have hfinished : Ends r (if l.state.terminalRecorded = true then (l, .ok ())
        else r.finished c x .upstreamFailed l) := by
      split_ifs with hterminal
      · refine ⟨Keeps.answered h (), fun _ => ?_⟩
        rcases h.phase with hrunning | hended
        · rw [hrunning.terminal] at hterminal
          cases hterminal
        · exact hended
      · exact ends_finished x _ h
    generalize (if l.state.terminalRecorded = true then (l, .ok ())
        else r.finished c x .upstreamFailed l : Fallible Lifecycle LifecycleError Unit) = result
      at hfinished
    obtain ⟨l', answer⟩ := result
    cases answer with
    | error e =>
      exact ⟨⟨hfinished.within, fun heq => hfinished.fault (congrArg Except.error (Except.error.inj heq))⟩,
        fun heq => (by cases heq)⟩
    | ok =>
      have hended : Ended r l' := hfinished.ended rfl
      obtain ⟨spool, hrelease, hlength, haccounted, hzero⟩ :=
        releaseUnused_spec (r := r) hfinished.within.slot hfinished.within.accounted
      have hended' : Ended r { l' with
          capacity := { l'.capacity with
            spool := spool, active := l'.capacity.active.erase r.requestId }
          state := { l'.state with released := true } } := ⟨hended.terminal, hzero, hended.once⟩
      have hrest : (andThen ((l', .ok ()) : Fallible Lifecycle LifecycleError Unit) fun _ l =>
          andThen (r.releaseUnused l) fun _ l =>
          andThen (record (fun s => { s with released := true }) l) fun _ l =>
          ((⟨{ l.capacity with active := l.capacity.active.erase r.requestId }, l.state, l.emitted⟩,
            .ok ()) : Fallible Lifecycle LifecycleError Unit)) =
          ({ l' with
            capacity := { l'.capacity with
              spool := spool, active := l'.capacity.active.erase r.requestId }
            state := { l'.state with released := true } }, .ok ()) := by
        show andThen (r.releaseUnused l') _ = _
        rw [hrelease]
        rfl
      rw [hrest]
      exact ⟨⟨⟨hlength, haccounted, hfinished.within.attempts, Or.inr hended'⟩,
        fun heq => (by cases heq)⟩, fun _ => hended'⟩

theorem keeps_call (x : Reading) (call : ReservationCall) (h : Within r l) :
    Keeps r (call.run c r x l) := by
  cases call with
  | profileAccepted routeGroupId => exact keeps_profileAccepted x routeGroupId h
  | queued => exact keeps_queued x h
  | attemptStarted lease shadow => exact keeps_attemptStarted x lease shadow h
  | attemptHeaders attemptId => exact keeps_attemptHeaders x attemptId h
  | attemptFirstByte attemptId => exact keeps_attemptFirstByte x attemptId h
  | attemptFinished lease outcome uncertain capacityReleased =>
    exact keeps_attemptFinished x lease outcome uncertain capacityReleased h
  | finished outcome => exact (ends_finished x outcome h).toKeeps
  | release => exact (keeps_release x h).1

/-! ## Runs -/

theorem Within.step {sha256 : Json.Bytes → HexDigest} {l' : Lifecycle} {step : LifecycleStep}
    (h : Within r l) (hstep : l.step sha256 c r step = some l') : Within r l' := by
  cases step with
  | call x call =>
    obtain rfl := Option.some.inj hstep
    exact (keeps_call x call h).within
  | elsewhere action active =>
    unfold Lifecycle.step at hstep
    by_cases hspares : action.Spares r.slot
    · simp only [if_pos hspares] at hstep
      obtain ⟨spool, hspool, rfl⟩ := Option.map_eq_some_iff.mp hstep
      have hmove := Spool.step_slots hspool
      exact h.congr (hmove.getElem? h.slot (not_not.mpr hspares)) (hmove.accounted h.accounted) rfl rfl
    · simp only [if_neg hspares] at hstep
      cases hstep

theorem Within.run {sha256 : Json.Bytes → HexDigest} {l' : Lifecycle} {steps : List LifecycleStep}
    (h : Within r l) (hrun : l.run sha256 c r steps = some l') : Within r l' := by
  induction steps generalizing l with
  | nil => exact Option.some.inj hrun ▸ h
  | cons step rest ih =>
    obtain ⟨l₁, hstep, hrest⟩ := Option.bind_eq_some_iff.mp hrun
    exact ih (h.step hstep) hrest

/-! ## A healthy spool -/

/-- The writer is up, and its queue has room. -/
def Healthy (c : SpoolConfig) (s : Spool) : Prop :=
  s.status = .healthy ∧ s.queue.length < c.queueCapacity + 1

theorem modelValidate_of_kindFields {e : EventFields} (h : e.kindFields = .ok ()) :
    ∃ event, modelValidate e = .ok event :=
  ⟨⟨e, kindFieldsAndSize_of_kindFields h⟩, modelValidate_eq_ok_iff.mpr rfl⟩

/-- With a slot and a healthy spool, an emit returns. -/
theorem emit_of_healthy (event : LifecycleEventV1) (terminal : Bool) (h : Within r l)
    (hrunning : Running r l) (hhealthy : Healthy c l.capacity.spool) :
    (r.emit c event terminal l).2 = .ok () := by
  have hpos := h.unresolved_lt hrunning
  have hopen : ¬((r.spoolState l).closed = true ∨ (r.spoolState l).remaining < 1) := by
    rw [hrunning.closed]
    unfold LifecycleReservation.remainingEvents at hpos
    simp only [Bool.false_eq_true, false_or]
    omega
  obtain ⟨hstatus, hroom⟩ := hhealthy
  unfold LifecycleReservation.emit Spool.submit
  rw [if_neg hopen, hstatus, if_neg (by simp), if_neg (by simp), if_pos hroom]

/-- With a clock in range, the terminal event is valid. -/
theorem exists_terminalEvent {x : Reading} (outcome : TerminalOutcome)
    (hnow : 1 ≤ x.nowMs ∧ x.nowMs ≤ maxSafeInteger) (hadmitted : 0 ≤ r.admittedAtMs)
    (hused : l.state.attempts.size ≤ 4) :
    ∃ event, (do
      let duration ← milliseconds (max 0 (x.nowMs - r.admittedAtMs))
      let used ← attemptsUsed l.state.attempts.size
      let base ← r.eventBase l.capacity x .requestTerminal
      modelValidate { base with
        routeGroupId := l.state.routeGroupId
        outcome := some outcome
        reason := some (.fromOutcome outcome)
        timingsMs := some { durationMs := some duration, hasMeasurement := by simp }
        attemptsUsed := some used }) = Except.ok event := by
  have hduration : (max 0 (x.nowMs - r.admittedAtMs)).toNat ≤ maxSafeInteger := by omega
  have hbase : r.eventBase l.capacity x .requestTerminal = .ok
      { eventId := x.eventId
        requestId := r.requestId
        kind := .requestTerminal
        occurredAtMs := ⟨x.nowMs.toNat, by omega, by omega⟩
        installationId := l.capacity.installationId
        bootId := l.capacity.bootId
        keyId := r.keyId } := by
    unfold LifecycleReservation.eventBase positiveMilliseconds
    rw [dif_pos hnow]
    rfl
  unfold milliseconds attemptsUsed
  rw [dif_pos hduration, dif_pos (Nat.lt_succ_of_le hused), hbase]
  simp only [ok_bind]
  exact modelValidate_of_kindFields rfl

theorem finished_of_healthy {x : Reading} {outcome : TerminalOutcome} (h : Within r l)
    (hhealthy : Healthy c l.capacity.spool) (hnow : 1 ≤ x.nowMs ∧ x.nowMs ≤ maxSafeInteger)
    (hadmitted : 0 ≤ r.admittedAtMs) (hmax : r.maxAttempts ≤ 4) :
    (r.finished c x outcome l).2 = .ok () := by
  unfold LifecycleReservation.finished
  rcases h.phase with hrunning | hended
  · rw [if_neg (by rw [hrunning.terminal]; decide)]
    have hpass : demand (l.state.released = false)
        (.runtime "released request cannot emit a terminal event") l = (l, .ok ()) := by
      rw [demand, require_eq_ok_iff.mpr hrunning.released]
    obtain ⟨event, hevent⟩ := exists_terminalEvent outcome hnow hadmitted
      (h.attempts.trans hmax)
    rw [hpass]
    dsimp only [andThen]
    rw [hevent]
    have hemit := emit_of_healthy event true h hrunning hhealthy
    have hcases := emit_cases (c := c) h hrunning event true
    unfold LifecycleReservation.emitEvent
    dsimp only
    generalize r.emit c event true l = result at hcases hemit
    cases hcases with
    | failed _ _ => cases hemit
    | @returned spool haccounted hreservations =>
      have hlength : r.slot < spool.reservations.length := by
        rw [hreservations, List.length_set]
        exact h.slot
      obtain ⟨spool', hrelease, -⟩ := releaseUnused_spec (r := r)
        (l := { l with
          capacity := { l.capacity with spool := spool }
          emitted := l.emitted ++ [event]
          state := { l.state with terminalRecorded := true } }) hlength haccounted
      show (r.releaseUnused _).2 = _
      rw [hrelease]
  · rw [if_pos hended.terminal]

/-- **With a healthy spool, a release returns.** -/
theorem release_of_healthy {x : Reading} (h : Within r l) (hhealthy : Healthy c l.capacity.spool)
    (hnow : 1 ≤ x.nowMs ∧ x.nowMs ≤ maxSafeInteger) (hadmitted : 0 ≤ r.admittedAtMs)
    (hmax : r.maxAttempts ≤ 4) : (r.release c x l).2 = .ok () := by
  unfold LifecycleReservation.release
  by_cases hreleased : l.state.released = true
  · rw [if_pos hreleased]
  · rw [if_neg hreleased]
    have hanswer : (if l.state.terminalRecorded = true then (l, .ok ())
        else r.finished c x .upstreamFailed l : Fallible Lifecycle LifecycleError Unit).2 = .ok () := by
      split_ifs
      · rfl
      · exact finished_of_healthy h hhealthy hnow hadmitted hmax
    have hends : Keeps r (if l.state.terminalRecorded = true then (l, .ok ())
        else r.finished c x .upstreamFailed l) := by
      split_ifs
      · exact Keeps.answered h ()
      · exact (ends_finished x _ h).toKeeps
    generalize (if l.state.terminalRecorded = true then (l, .ok ())
        else r.finished c x .upstreamFailed l : Fallible Lifecycle LifecycleError Unit) = result
      at hanswer hends
    obtain ⟨l', answer⟩ := result
    obtain rfl : answer = .ok () := hanswer
    obtain ⟨spool, hrelease, -⟩ :=
      releaseUnused_spec (r := r) hends.within.slot hends.within.accounted
    show (andThen (r.releaseUnused l') _).2 = _
    rw [hrelease]
    rfl

/-! ## Reserving -/

/-- The first event of a reservation of `n` slots. -/
theorem emit_admitted {l' : Lifecycle} {n : Nat} {event : Except LifecycleError LifecycleEventV1}
    (hget : l.capacity.spool.reservations[r.slot]? = some { remaining := n }) (hpos : 1 ≤ n)
    (haccounted : l.capacity.spool.Accounted) (hevent : EventOf .requestAdmitted event)
    (h : r.emitEvent c event false l = (l', .ok ())) :
    r.slot < l'.capacity.spool.reservations.length ∧ l'.capacity.spool.Accounted ∧
      r.spoolState l' = { remaining := n - 1, emitted := 1, closed := n - 1 = 0 } ∧
      l'.state = l.state ∧ l'.terminalEvents = l.terminalEvents := by
  have hslot : r.slot < l.capacity.spool.reservations.length := (List.getElem?_eq_some_iff.mp hget).1
  have hstate : r.spoolState l = { remaining := n } := by
    rw [getElem?_slot hslot] at hget
    exact Option.some.inj hget
  cases hresult : event with
  | error e =>
    rw [hresult] at h
    cases h
  | ok event =>
    have hcases := Spool.submit_cases c event false hget rfl hpos
    have hkeep :=
      (Spool.submit_slots c event false hget).accounted haccounted
    rw [hresult] at h
    unfold LifecycleReservation.emitEvent LifecycleReservation.emit at h
    rw [hstate] at h
    dsimp only at h
    generalize l.capacity.spool.submit c r.slot { remaining := n } event false = result
      at h hcases hkeep
    cases hcases with
    | @failed spool fault hfault _ _ _ => cases fault <;> first | exact absurd rfl hfault | cases h
    | @returned spool hreservations _ =>
      obtain rfl := congrArg Prod.fst h
      refine ⟨?_, hkeep, ?_, rfl, ?_⟩
      · show r.slot < spool.reservations.length
        rw [hreservations, List.length_set]
        exact hslot
      · show spool.reservations.getD r.slot _ = _
        rw [hreservations, List.getD_eq_getElem?_getD, List.getElem?_set_self hslot]
        rfl
      · have hkind : event.kind = .requestAdmitted := hevent.kind event hresult
        show (l.emitted ++ [event]).filter (fun e => e.kind = .requestTerminal) = _
        rw [List.filter_append, List.filter_cons_of_neg (by rw [hkind]; decide)]
        exact List.append_nil _

/-- **A reservation starts within its budget.** -/
theorem within_reserve {cap cap' : TelemetryLifecycleCapacity} {requestId : RequestId} {keyId : KeyId}
    {events : Int} {x : Reading} (haccounted : cap.spool.Accounted)
    (h : cap.reserve c requestId keyId events x = (cap', .ok (some (r, l)))) :
    Within r l ∧ events = 4 + 2 * r.maxAttempts ∧ r.maxAttempts ≤ 4 ∧ 0 ≤ r.admittedAtMs := by
  unfold TelemetryLifecycleCapacity.reserve at h
  dsimp only at h
  split at h
  · cases h
  rename_i hbudget
  split at h
  · cases h
  split at h
  · cases h
  split at h
  · cases h
  rename_i hnone
  have hevents : events = 10 ∨ events = 12 := by omega
  rcases Spool.tryReserve_slots c events cap.spool with hsame | ⟨hreservations, houtstanding⟩
  · exact absurd (congrArg (fun s : Spool => s.reservations.length) hsame) hnone
  split at h
  · rename_i l' hemit
    simp only [Prod.mk.injEq, Except.ok.injEq, Option.some.injEq] at h
    obtain ⟨-, rfl, rfl⟩ := h
    have hmax : (4 : Int) + 2 * ((events - 4) / 2).toNat = events := by omega
    have hget : (cap.spool.tryReserve c events).reservations[cap.spool.reservations.length]? =
        some { remaining := events.toNat } := by
      rw [hreservations]
      simp
    have hgrown : (cap.spool.tryReserve c events).Accounted :=
      (show Spool.SlotMove (fun _ => False) cap.spool _ from
        .added _ hreservations houtstanding).accounted haccounted
    have hpositive : 1 ≤ x.nowMs := by
      by_contra hnot
      unfold LifecycleReservation.eventBase positiveMilliseconds at hemit
      rw [dif_neg fun hnow => hnot hnow.1] at hemit
      cases hemit
    obtain ⟨hslot, haccounted', hstate, hsame, hterminal⟩ := emit_admitted hget (by omega) hgrown
      (eventOf_base _ _ x _ (f := id) fun _ => rfl) hemit
    have hzero : l'.state.spent = 0 := by
      rw [hsame]
      rfl
    refine ⟨⟨hslot, haccounted', ?_, Or.inl ⟨?_, ?_, ?_, ?_, hterminal⟩⟩, hmax.symm, ?_, ?_⟩
    · rw [hsame]
      exact Nat.zero_le _
    · rw [hsame]
    · rw [hsame]
    · refine (congrArg ReservationState.closed hstate).trans ?_
      rw [decide_eq_false_iff_not]
      omega
    · have hremaining := congrArg ReservationState.remaining hstate
      show (LifecycleReservation.spoolState _ l').remaining + 1 + l'.state.spent = _
      rw [hremaining, hzero]
      dsimp only
      omega
    · dsimp only
      omega
    · exact (Int.zero_le_ofNat 1).trans hpositive
  · cases h

/-- **A request stays within its reservation.** In every run after a reserve: before the terminal event
there is a slot for every unresolved attempt and one more, no more attempts than reserved are
recorded, no emit fails for want of a slot, and with a healthy spool a release returns; a release that
returned has emitted one terminal event and left no slot outstanding. -/
theorem lifecycle_within_reservation {sha256 : Json.Bytes → HexDigest} {files : SpoolFiles}
    {before : List SpoolAction} {cap cap' : TelemetryLifecycleCapacity} {requestId : RequestId}
    {keyId : KeyId} {events : Int} {x : Reading} {l₀ : Lifecycle} {steps : List LifecycleStep}
    (hspool : Spool.run sha256 c { files := files } before = some cap.spool)
    (hreserve : cap.reserve c requestId keyId events x = (cap', .ok (some (r, l₀))))
    (hrun : l₀.run sha256 c r steps = some l) :
    events = 4 + 2 * r.maxAttempts ∧
      (l.state.terminalRecorded = false → l.state.unresolved + 1 ≤ r.remainingEvents l) ∧
      l.state.attempts.size ≤ r.maxAttempts ∧
      (∀ y call, (ReservationCall.run c r y call l).2 ≠ .error (.spool .reservationExhausted)) ∧
      (∀ y, Healthy c l.capacity.spool → 1 ≤ y.nowMs → y.nowMs ≤ (maxSafeInteger : Int) →
        (r.release c y l).2 = .ok ()) ∧
      (∀ y, (r.release c y l).2 = .ok () → Settled r (r.release c y l).1) ∧
      (l.state.released = true → Settled r l) := by
  have hfresh : ({ files := files } : Spool).Accounted := rfl
  obtain ⟨hstart, hbudget, hmax, hadmitted⟩ :=
    within_reserve (Spool.run_accounted hspool hfresh) hreserve
  have hwithin := hstart.run hrun
  refine ⟨hbudget, fun hopen => ?_, hwithin.attempts, fun y call => (keeps_call y call hwithin).fault,
    fun y hhealthy hpos hsafe => release_of_healthy hwithin hhealthy ⟨hpos, hsafe⟩ hadmitted hmax,
    fun y hok => ?_, fun hreleased => ?_⟩
  · rcases hwithin.phase with hrunning | hended
    · exact hwithin.unresolved_lt hrunning
    · rw [hended.terminal] at hopen
      cases hopen
  · obtain ⟨hkeeps, hended⟩ := keeps_release (c := c) y hwithin
    exact hkeeps.within.settled (hended hok)
  · rcases hwithin.phase with hrunning | hended
    · rw [hrunning.released] at hreleased
      cases hreleased
    · exact hwithin.settled hended

end Invariant

/-! ## A profiled request -/

/-- The settings of a small spool. -/
def smallSpool : SpoolConfig := { maxBytes := 1_000_000 }

/-- A digest, and SHA-256 on a history without records. -/
def zeroDigest : HexDigest := ⟨String.ofList (List.replicate 64 '0'), by decide⟩

/-- A process with a fresh spool. -/
def freshCapacity : TelemetryLifecycleCapacity where
  spool :=
    { files :=
      { current := { index := 1, digest := zeroDigest, openedAtMs := 1000 }
        lastSequence := 0
        lastDigest := zeroDigest
        physicalBytes := 0 } }
  installationId := .numbered _ 1
  bootId := .numbered _ 1

/-- What the request's calls read. -/
def readingAt (n : Nat) : Reading := ⟨1000 + n, .numbered _ n⟩

/-- A request that reserved ten slots and whose profile was accepted. -/
def profiledRequest : Option (LifecycleReservation × Lifecycle) :=
  match freshCapacity.reserve smallSpool (.numbered _ 1)
    ⟨String.ofList (List.replicate 32 'a'), by decide⟩ 10 (readingAt 0) with
  | (_, .ok (some (r, l))) =>
    (l.run (fun _ => zeroDigest) smallSpool r
      [.call (readingAt 1) (.profileAccepted (.numbered _ 1))]).map fun l => (r, l)
  | _ => none

theorem profiledRequest_settles : ∃ r l, profiledRequest = some (r, l) ∧
    l.state.unresolved + 1 ≤ r.remainingEvents l ∧
    Settled r (r.release smallSpool (readingAt 2) l).1 := by
  have hrun : profiledRequest.map (fun q => (q.2.state.terminalRecorded, q.2.capacity.spool.status,
      q.2.capacity.spool.queue.length)) = some (false, .healthy, 2) := by
    decide +kernel
  obtain ⟨⟨r, l⟩, hrequest, hread⟩ := Option.map_eq_some_iff.mp hrun
  simp only [Prod.mk.injEq] at hread
  obtain ⟨hopen, hstatus, hqueue⟩ := hread
  refine ⟨r, l, hrequest, ?_⟩
  unfold profiledRequest at hrequest
  split at hrequest
  · rename_i cap r' l₀ hreserve
    obtain ⟨l', hsteps, heq⟩ := Option.map_eq_some_iff.mp hrequest
    obtain ⟨rfl, rfl⟩ := Prod.mk.inj heq
    obtain ⟨-, hslots, -, -, hreturns, hsettled, -⟩ :=
      lifecycle_within_reservation
        (show Spool.run _ _ _ [] = some _ from rfl) hreserve hsteps
    have hhealthy : Healthy smallSpool l'.capacity.spool := ⟨hstatus, by rw [hqueue]; decide⟩
    exact ⟨hslots hopen, hsettled _ (hreturns _ hhealthy (by decide) (by decide))⟩
  · cases hrequest

end LlmMaxxing.Telemetry
