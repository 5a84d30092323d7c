import LlmMaxxing.Telemetry.Reserved

/-!
# Reservations and the control slot (`telemetry/writer.py`)

The queue holds one command more than the capacity: one control command and an event for every slot.
`Sound` is the invariant of a spool whose control slot has at most one command and whose events stand
before a stop. A `flush` or a `close` that times out leaves its command in the queue; the next one
puts a second command there, and an emit behind a stop puts an event where nobody reads it. `StepOk`
says that a step does neither, and `reservations_authoritative` what holds then.
-/

namespace LlmMaxxing.Telemetry

open Json

namespace Spool

/-! ## What is on its way -/

/-- The events of the queue, oldest first. -/
def queuedEvents (queue : List Command) : List LifecycleEventV1 :=
  queue.filterMap fun
    | .event e => some e.event
    | .control _ => none

/-- The control commands of the queue. -/
def queuedControls (queue : List Command) : List ControlCommand :=
  queue.filterMap fun
    | .event _ => none
    | .control k => some k

/-- The events that the writer has taken and not appended yet. -/
def heldEvents : WriterPhase → List LifecycleEventV1
  | .collecting batch _ => batch.map EventCommand.event
  | .writing _ pending _ _ _ => pending.map EventCommand.event
  | _ => []

/-- The slots that the writer holds. -/
def heldSlots : WriterPhase → Nat
  | .collecting batch _ => batch.length
  | .writing _ pending unsettled _ _ => pending.length + unsettled.toNat
  | _ => 0

/-- The writer has read a stop. -/
def readStop : WriterPhase → Bool
  | .writing _ _ _ _ (some ⟨.stop, _⟩) => true
  | .stopping _ | .leaving | .exited => true
  | _ => false

/-- A stop is on its way, or has been read. -/
def stopIssued (s : Spool) : Bool :=
  readStop s.writer || (queuedControls s.queue).any fun k => k.kind = .stop

@[simp] theorem queuedEvents_nil : queuedEvents [] = [] := rfl

@[simp] theorem queuedEvents_event (e : EventCommand) (rest : List Command) :
    queuedEvents (.event e :: rest) = e.event :: queuedEvents rest := rfl

@[simp] theorem queuedEvents_control (k : ControlCommand) (rest : List Command) :
    queuedEvents (.control k :: rest) = queuedEvents rest := rfl

@[simp] theorem queuedEvents_append (l m : List Command) :
    queuedEvents (l ++ m) = queuedEvents l ++ queuedEvents m := List.filterMap_append

@[simp] theorem queuedControls_nil : queuedControls [] = [] := rfl

@[simp] theorem queuedControls_event (e : EventCommand) (rest : List Command) :
    queuedControls (.event e :: rest) = queuedControls rest := rfl

@[simp] theorem queuedControls_control (k : ControlCommand) (rest : List Command) :
    queuedControls (.control k :: rest) = k :: queuedControls rest := rfl

@[simp] theorem queuedControls_append (l m : List Command) :
    queuedControls (l ++ m) = queuedControls l ++ queuedControls m := List.filterMap_append

@[simp] theorem heldSlots_waiting : heldSlots .waiting = 0 := rfl

@[simp] theorem heldSlots_collecting (batch : List EventCommand) (force : Bool) :
    heldSlots (.collecting batch force) = batch.length := rfl

@[simp] theorem heldSlots_writing (batch pending : List EventCommand) (unsettled force : Bool)
    (trailing : Option ControlCommand) :
    heldSlots (.writing batch pending unsettled force trailing) =
      pending.length + unsettled.toNat := rfl

/-- Only the command behind the batch counts. -/
theorem readStop_writing (batch pending pending' : List EventCommand) (unsettled unsettled' : Bool)
    (force : Bool) (trailing : Option ControlCommand) :
    readStop (.writing batch pending unsettled force trailing) =
      readStop (.writing batch pending' unsettled' force trailing) := by
  cases trailing with
  | none => rfl
  | some k =>
    obtain ⟨kind, ticket⟩ := k
    cases kind <;> rfl

/-- Every command is an event or a control command. -/
theorem length_queue (queue : List Command) :
    queue.length = (queuedEvents queue).length + (queuedControls queue).length := by
  induction queue with
  | nil => rfl
  | cons command rest ih =>
    cases command with
    | event e =>
      rw [queuedEvents_event, queuedControls_event, List.length_cons, List.length_cons]
      omega
    | control k =>
      rw [queuedEvents_control, queuedControls_control, List.length_cons, List.length_cons]
      omega

/-- No event stands behind a stop. -/
def TailClear : List Command → Prop
  | [] => True
  | .event _ :: rest => TailClear rest
  | .control k :: rest => (k.kind = .stop → queuedEvents rest = []) ∧ TailClear rest

theorem tailClear_append_event {queue : List Command} {e : EventCommand} (h : TailClear queue)
    (hstop : ((queuedControls queue).any fun k => k.kind = .stop) = false) :
    TailClear (queue ++ [.event e]) := by
  induction queue with
  | nil => trivial
  | cons command rest ih =>
    cases command with
    | event e' => exact ih h hstop
    | control k =>
      rw [queuedControls_control, List.any_cons, Bool.or_eq_false_iff, decide_eq_false_iff_not] at hstop
      exact ⟨fun hk => absurd hk hstop.1, ih h.2 hstop.2⟩

theorem tailClear_append_control {queue : List Command} {k : ControlCommand} (h : TailClear queue) :
    TailClear (queue ++ [.control k]) := by
  induction queue with
  | nil => exact ⟨fun _ => rfl, trivial⟩
  | cons command rest ih =>
    cases command with
    | event e' => exact ih h
    | control k' =>
      refine ⟨fun hk => ?_, ih h.2⟩
      show queuedEvents (rest ++ [.control k]) = []
      rw [queuedEvents_append, h.1 hk]
      rfl

/-! ## The invariant -/

/-- The invariant of a spool whose control slot is not shared. -/
structure Sound (c : SpoolConfig) (s : Spool) : Prop where
  accounted : s.Accounted
  bounded : s.outstandingSlots + s.queuedSlots ≤ c.queueCapacity
  queued : s.queuedSlots = heldSlots s.writer + (queuedEvents s.queue).length
  control : (queuedControls s.queue).length ≤ 1
  tail : TailClear s.queue
  stopped : readStop s.writer = true → queuedEvents s.queue = []
  delivered : s.accepted =
    s.files.appended.map AppendedLine.event ++ heldEvents s.writer ++ queuedEvents s.queue
  short : ∀ a ∈ s.files.appended, a.line.length ≤ maxEventBytes
  status : s.status = .healthy ∨ s.status = .closed ∧ s.writer = .exited
  returned : s.closeReturned = true → s.writer = .exited

/-- A step that leaves the control slot to one command and the space behind a stop empty, that stays
within its reservation, and whose record has safe numbers. -/
def StepOk (s : Spool) : SpoolAction → Prop
  | .emit i _ _ =>
    (∀ r, s.reservations[i]? = some r → r.closed = false ∧ 1 ≤ r.remaining) ∧ s.stopIssued = false
  | .releaseUnused i (some n) => ∀ r, s.reservations[i]? = some r → n ≤ r.remaining
  | .putControl => queuedControls s.queue = []
  | .writerAppend _ _ =>
    s.files.lastSequence + 1 ≤ maxSafeInteger ∧ s.files.maxIndex + 1 ≤ maxSafeInteger
  | _ => True

/-- Every step of the run is such a step. -/
def RunOk (sha256 : Bytes → HexDigest) (c : SpoolConfig) (s : Spool) : List SpoolAction → Prop
  | [] => True
  | a :: rest => s.StepOk a ∧ ∀ s', s.step sha256 c a = some s' → s'.RunOk sha256 c rest

section Steps

variable {sha256 : Bytes → HexDigest} {c : SpoolConfig} {s s' : Spool}

theorem sound_start {files : SpoolFiles} (h : files.appended = []) :
    Sound c { files := files } where
  accounted := rfl
  bounded := Nat.zero_le _
  queued := rfl
  control := Nat.zero_le _
  tail := trivial
  stopped := fun _ => rfl
  delivered := by
    show [] = files.appended.map AppendedLine.event ++ [] ++ []
    rw [h]
    rfl
  short := by
    show ∀ a ∈ files.appended, _
    rw [h]
    exact fun a ha => absurd ha List.not_mem_nil
  status := Or.inl rfl
  returned := fun h => (by cases h)

/-- The slots of an emit are in the queue's room. -/
theorem Sound.queue_length_lt (h : Sound c s) {i : Nat} {r : ReservationState}
    (hi : s.reservations[i]? = some r) (hpos : 1 ≤ r.remaining) :
    s.queue.length < c.queueCapacity + 1 := by
  have hsum : r.remaining ≤ s.outstandingSlots := by
    rw [h.accounted]
    exact List.single_le_sum (fun _ _ => Nat.zero_le _) _
      (List.mem_map_of_mem (List.mem_of_getElem? hi))
  have hbounded := h.bounded
  have hqueued := h.queued
  have hcontrol := h.control
  rw [length_queue]
  omega

theorem sound_tryReserve (h : Sound c s) (events : Int) : Sound c (s.tryReserve c events) := by
  unfold tryReserve
  split_ifs with hone hfull
  · exact h
  · exact h
  · have hmove : SlotMove (fun _ => False) s { s with
        reservations := s.reservations ++ [{ remaining := events.toNat }]
        outstandingSlots := s.outstandingSlots + events.toNat } := .added _ rfl rfl
    have hroom : ¬(s.outstandingSlots + s.queuedSlots + events.toNat > c.queueCapacity) :=
      fun hover => hfull (Or.inr (Or.inr (Or.inr (Or.inr hover))))
    refine { h with accounted := hmove.accounted h.accounted, bounded := ?_ }
    show s.outstandingSlots + events.toNat + s.queuedSlots ≤ c.queueCapacity
    omega

/-- The state after an emit whose event is put into the queue. -/
def emitted (i : Nat) (r : ReservationState) (event : LifecycleEventV1) (terminal : Bool)
    (s : Spool) : Spool :=
  { s with
    reservations := s.reservations.set i
      { remaining := r.remaining - 1, emitted := r.emitted + 1, closed := r.remaining - 1 = 0 }
    outstandingSlots := s.outstandingSlots - 1
    queuedSlots := s.queuedSlots + 1
    queue := s.queue ++ [.event ⟨i, event, terminal⟩]
    accepted := s.accepted ++ [event] }

/-- Until the writer exits, the spool is healthy and no `close` has returned. -/
theorem Sound.active (h : Sound c s) (hexited : s.writer ≠ .exited) :
    s.status = .healthy ∧ s.closeReturned = false := by
  refine ⟨h.status.resolve_right fun hclosed => hexited hclosed.2, ?_⟩
  rw [← Bool.not_eq_true]
  exact fun hreturned => hexited (h.returned hreturned)

/-- Before a stop, nothing has ended. -/
theorem Sound.running (h : Sound c s) (hstop : s.stopIssued = false) :
    readStop s.writer = false ∧ s.status = .healthy ∧ s.closeReturned = false := by
  have hread : readStop s.writer = false := (Bool.or_eq_false_iff.mp hstop).1
  refine ⟨hread, h.active fun hexit => ?_⟩
  rw [hexit] at hread
  cases hread

theorem submit_of_sound (h : Sound c s) (hstop : s.stopIssued = false) {i : Nat}
    {r : ReservationState} (event : LifecycleEventV1) (terminal : Bool)
    (hi : s.reservations[i]? = some r) (hclosed : r.closed = false) (hpos : 1 ≤ r.remaining) :
    s.submit c i r event terminal = (emitted i r event terminal s, .returned) := by
  obtain ⟨-, hstatus, hreturned⟩ := h.running hstop
  have hopen : ¬(r.closed = true ∨ r.remaining < 1) := by
    rw [hclosed]
    simpa using Nat.ne_of_gt hpos
  have hdown : ¬(s.status = .failed ∨ s.status = .crashed) := by
    rw [hstatus]
    decide
  have hended : ¬(s.status = .failed ∨ s.status = .crashed ∨ s.status = .closed) := by
    rw [hstatus]
    decide
  have hroom := h.queue_length_lt hi hpos
  unfold submit
  rw [if_neg hopen, if_neg fun hterminal => hdown hterminal.1, if_neg hended, if_pos hroom]
  unfold accept
  dsimp only [takeSlot]
  rw [if_neg (by simpa using hreturned)]
  rfl

theorem sound_emit (h : Sound c s) (hstop : s.stopIssued = false) {i : Nat}
    {r : ReservationState} (event : LifecycleEventV1) (terminal : Bool)
    (hi : s.reservations[i]? = some r) (hclosed : r.closed = false) (hpos : 1 ≤ r.remaining) :
    Sound c (s.submit c i r event terminal).1 := by
  have haccounted := (submit_slots c event terminal hi).accounted h.accounted
  have hsum : r.remaining ≤ s.outstandingSlots := by
    rw [h.accounted]
    exact List.single_le_sum (fun _ _ => Nat.zero_le _) _
      (List.mem_map_of_mem (List.mem_of_getElem? hi))
  obtain ⟨hread, -, -⟩ := h.running hstop
  have hqueue := (Bool.or_eq_false_iff.mp hstop).2
  rw [submit_of_sound h hstop event terminal hi hclosed hpos] at haccounted ⊢
  exact {
    accounted := haccounted
    bounded := by
      have hbounded := h.bounded
      show s.outstandingSlots - 1 + (s.queuedSlots + 1) ≤ c.queueCapacity
      omega
    queued := by
      show s.queuedSlots + 1 = heldSlots s.writer + (queuedEvents (s.queue ++ [_])).length
      rw [queuedEvents_append, List.length_append, h.queued]
      rfl
    control := by
      show (queuedControls (s.queue ++ [_])).length ≤ 1
      rw [queuedControls_append, queuedControls_event, queuedControls_nil, List.append_nil]
      exact h.control
    tail := tailClear_append_event h.tail hqueue
    stopped := fun hread' => absurd (hread.symm.trans hread') Bool.false_ne_true
    delivered := by
      show s.accepted ++ [event] = _ ++ _ ++ queuedEvents (s.queue ++ [_])
      rw [queuedEvents_append, h.delivered, List.append_assoc]
      rfl
    short := h.short
    status := h.status
    returned := h.returned }

theorem sound_releaseUnused (h : Sound c s) {i : Nat} {r : ReservationState} (count : Option Int)
    (hi : s.reservations[i]? = some r) (hle : ∀ n, count = some n → n ≤ r.remaining) :
    Sound c (s.releaseUnused i r count).1 := by
  have haccounted := (releaseUnused_slots count hi).accounted h.accounted
  unfold releaseUnused at haccounted ⊢
  split_ifs at haccounted ⊢ with hneg hzero
  · exact h
  · exact { h with accounted := haccounted }
  · have hreleased : ¬((count.map Int.toNat).getD r.remaining > r.remaining) := by
      cases count with
      | none => exact lt_irrefl _
      | some n =>
        have := hle n rfl
        show ¬(n.toNat > r.remaining)
        omega
    dsimp only at haccounted ⊢
    rw [if_neg hreleased] at haccounted ⊢
    refine { h with accounted := haccounted, bounded := ?_ }
    have hbounded := h.bounded
    show s.outstandingSlots - _ + s.queuedSlots ≤ c.queueCapacity
    omega

/-! ### The control lock -/

theorem sound_putControl (h : Sound c s) (hfree : queuedControls s.queue = [])
    (hstep : s.putControl c = some s') : Sound c s' := by
  unfold putControl at hstep
  split at hstep
  · split_ifs at hstep
    obtain rfl := Option.some.inj hstep
    have hevents : ∀ k, queuedEvents (s.queue ++ [.control k]) = queuedEvents s.queue := fun k => by
      rw [queuedEvents_append, queuedEvents_control, queuedEvents_nil, List.append_nil]
    exact { h with
      queued := h.queued.trans (by rw [hevents])
      control := by
        rw [queuedControls_append, hfree]
        exact le_refl 1
      tail := tailClear_append_control h.tail
      stopped := fun hread => (hevents _).trans (h.stopped hread)
      delivered := h.delivered.trans (by rw [hevents]) }
  · cases hstep

theorem sound_beginClose (h : Sound c s) (hstep : s.beginClose = some s') : Sound c s' := by
  unfold beginClose at hstep
  split_ifs at hstep with hbusy hclosed hfailed
  · obtain rfl := Option.some.inj hstep
    -- a closed spool was joined
    have hexited : s.writer = .exited := by
      rcases h.status with hhealthy | hclosed'
      · rw [hhealthy] at hclosed
        cases hclosed
      · exact hclosed'.2
    exact { h with returned := fun _ => hexited }
  · rcases h.status with hhealthy | hclosed'
    · rw [hhealthy] at hfailed
      rcases hfailed with hfailed | hfailed <;> cases hfailed
    · exact absurd hclosed'.1 hclosed
  · obtain rfl := Option.some.inj hstep
    exact { h with }

theorem sound_joinWriter (h : Sound c s) (hstep : s.joinWriter = some s') : Sound c s' := by
  unfold joinWriter at hstep
  split at hstep
  · split_ifs at hstep with hexited
    obtain rfl := Option.some.inj hstep
    exact { h with status := Or.inr ⟨rfl, hexited⟩, returned := fun _ => hexited }
  · cases hstep

/-! ### The writer -/

/-- A step of the writer: what it may change, and what it has to keep. -/
theorem Sound.write (h : Sound c s) (hactive : s.writer ≠ .exited)
    (hreservations : s'.reservations = s.reservations)
    (houtstanding : s'.outstandingSlots = s.outstandingSlots) (hstatus : s'.status = s.status)
    (hreturned : s'.closeReturned = s.closeReturned) (haccepted : s'.accepted = s.accepted)
    (hslots : s'.queuedSlots ≤ s.queuedSlots)
    (hqueued : s'.queuedSlots = heldSlots s'.writer + (queuedEvents s'.queue).length)
    (hcontrol : (queuedControls s'.queue).length ≤ (queuedControls s.queue).length)
    (htail : TailClear s'.queue) (hstopped : readStop s'.writer = true → queuedEvents s'.queue = [])
    (hdelivered : s'.files.appended.map AppendedLine.event ++ heldEvents s'.writer ++
      queuedEvents s'.queue = s.files.appended.map AppendedLine.event ++ heldEvents s.writer ++
        queuedEvents s.queue)
    (hshort : ∀ a ∈ s'.files.appended, a.line.length ≤ maxEventBytes) : Sound c s' where
  accounted := by
    have hkept : SlotMove (fun _ => False) s s' := .kept hreservations houtstanding
    exact hkept.accounted h.accounted
  bounded := by
    have hbounded := h.bounded
    omega
  queued := hqueued
  control := hcontrol.trans h.control
  tail := htail
  stopped := hstopped
  delivered := by rw [hdelivered, haccepted, h.delivered]
  short := hshort
  status := Or.inl (hstatus.trans (h.active hactive).1)
  returned := fun hreturned' => by
    rw [hreturned, (h.active hactive).2] at hreturned'
    cases hreturned'

theorem sound_writerGet (h : Sound c s) (hstep : s.writerGet = some s') : Sound c s' := by
  have hqueued := h.queued
  have htail := h.tail
  unfold writerGet at hstep
  split at hstep
  · rename_i e rest hwriter hqueue
    obtain rfl := Option.some.inj hstep
    rw [hwriter, hqueue] at hqueued
    rw [hqueue] at htail
    refine h.write (by rw [hwriter]; simp) rfl rfl rfl rfl rfl (le_refl _) ?_ ?_ htail ?_ ?_ h.short
    · show s.queuedSlots = 1 + (queuedEvents rest).length
      rw [hqueued, heldSlots_waiting, queuedEvents_event, List.length_cons]
      omega
    · rw [hqueue]
      exact le_refl _
    · exact fun hread => (by cases hread)
    · rw [hwriter, hqueue]
      show _ ++ [e.event] ++ queuedEvents rest = _ ++ [] ++ (e.event :: queuedEvents rest)
      rw [List.append_nil, List.append_assoc]
      rfl
  · rename_i ticket rest hwriter hqueue
    obtain rfl := Option.some.inj hstep
    rw [hqueue] at hqueued htail
    refine h.write (by rw [hwriter]; simp) rfl rfl rfl rfl rfl (le_refl _) hqueued ?_ htail.2 ?_ ?_
      h.short
    · rw [hqueue]
      exact Nat.le_succ _
    · rw [hwriter]
      exact fun hread => (by cases hread)
    · rw [hqueue]
      rfl
  · rename_i ticket rest hwriter hqueue
    obtain rfl := Option.some.inj hstep
    rw [hwriter, hqueue] at hqueued
    rw [hqueue] at htail
    refine h.write (by rw [hwriter]; simp) rfl rfl rfl rfl rfl (le_refl _) hqueued ?_ htail.2 ?_ ?_
      h.short
    · rw [hqueue]
      exact Nat.le_succ _
    · exact fun _ => htail.1 rfl
    · rw [hwriter, hqueue]
      rfl
  · cases hstep

theorem sound_writerCollect (h : Sound c s) (hstep : s.writerCollect c = some s') : Sound c s' := by
  have hqueued := h.queued
  have htail := h.tail
  unfold writerCollect at hstep
  split at hstep
  · rename_i batch force first rest hwriter hqueue
    split_ifs at hstep
    rw [hwriter, hqueue] at hqueued
    rw [hqueue] at htail
    cases first with
    | event e =>
      obtain rfl := Option.some.inj hstep
      refine h.write (by rw [hwriter]; simp) rfl rfl rfl rfl rfl (le_refl _) ?_ ?_ htail ?_ ?_ h.short
      · show s.queuedSlots = (batch ++ [e]).length + (queuedEvents rest).length
        rw [hqueued, heldSlots_collecting, queuedEvents_event, List.length_cons, List.length_append,
          List.length_singleton]
        omega
      · rw [hqueue]
        exact le_refl _
      · exact fun hread => (by cases hread)
      · rw [hwriter, hqueue]
        simp [heldEvents]
    | control k =>
      obtain rfl := Option.some.inj hstep
      refine h.write (by rw [hwriter]; simp) rfl rfl rfl rfl rfl (le_refl _) hqueued ?_ htail.2 ?_ ?_
        h.short
      · rw [hqueue]
        exact Nat.le_succ _
      · intro hread
        obtain ⟨kind, ticket⟩ := k
        cases kind with
        | flush => cases hread
        | stop => exact htail.1 rfl
      · rw [hwriter, hqueue]
        rfl
  · cases hstep

theorem sound_writerSeal (h : Sound c s) (hstep : s.writerSeal = some s') : Sound c s' := by
  have hqueued := h.queued
  unfold writerSeal at hstep
  split at hstep
  · rename_i batch force hwriter
    obtain rfl := Option.some.inj hstep
    rw [hwriter] at hqueued
    refine h.write (by rw [hwriter]; simp) rfl rfl rfl rfl rfl (le_refl _) hqueued (le_refl _) h.tail ?_
      ?_ h.short
    · exact fun hread => (by cases hread)
    · rw [hwriter]
      rfl
  · cases hstep

theorem sound_writerAppend {aged : Bool} {nowMs : Nat} (h : Sound c s)
    (hsequence : s.files.lastSequence + 1 ≤ maxSafeInteger)
    (hindex : s.files.maxIndex + 1 ≤ maxSafeInteger)
    (hstep : s.writerAppend sha256 c aged nowMs = some s') : Sound c s' := by
  have hqueued := h.queued
  unfold writerAppend at hstep
  split at hstep
  · rename_i batch e pending force trailing hwriter
    obtain ⟨files, happend, ⟨line, hadded, hevent, hlength⟩⟩ : ∃ files,
        s.files.appendEvent sha256 c aged nowMs e.event = (files, .ok ()) ∧
          SpoolFiles.Appends e.event s.files files :=
      SpoolFiles.appendEvent_ok hsequence hindex
    rw [happend] at hstep
    obtain rfl := Option.some.inj hstep
    rw [hwriter] at hqueued
    refine h.write (by rw [hwriter]; simp) rfl rfl rfl rfl rfl (le_refl _) ?_ (le_refl _) h.tail ?_ ?_ ?_
    · show s.queuedSlots = pending.length + 1 + (queuedEvents s.queue).length
      rw [hqueued, heldSlots_writing, List.length_cons, Bool.toNat_false, Nat.add_zero]
    · intro hread
      refine h.stopped ?_
      rw [hwriter, readStop_writing batch (e :: pending) pending false true]
      exact hread
    · show files.appended.map AppendedLine.event ++ _ ++ _ = _
      rw [hadded, hwriter, List.map_append, List.map_singleton, hevent]
      simp [heldEvents]
    · show ∀ a ∈ files.appended, _
      rw [hadded]
      intro a ha
      rcases List.mem_append.mp ha with hold | hnew
      · exact h.short a hold
      · rw [List.mem_singleton.mp hnew]
        exact hlength
  · cases hstep

theorem sound_writerSettle (h : Sound c s) (hstep : s.writerSettle = some s') : Sound c s' := by
  have hqueued := h.queued
  unfold writerSettle at hstep
  split at hstep
  · rename_i batch pending force trailing hwriter
    obtain rfl := Option.some.inj hstep
    rw [hwriter] at hqueued
    refine h.write (by rw [hwriter]; simp) rfl rfl rfl rfl rfl (Nat.sub_le _ _) ?_ (le_refl _) h.tail ?_
      ?_ h.short
    · show s.queuedSlots - 1 = pending.length + (queuedEvents s.queue).length
      rw [hqueued, heldSlots_writing, Bool.toNat_true]
      omega
    · intro hread
      refine h.stopped ?_
      rw [hwriter, readStop_writing batch pending pending true false]
      exact hread
    · rw [hwriter]
      rfl
  · cases hstep

theorem sound_writerFinish (h : Sound c s) (hstep : s.writerFinish = some s') : Sound c s' := by
  have hqueued := h.queued
  have hstopped := h.stopped
  unfold writerFinish at hstep
  split at hstep
  · rename_i batch force hwriter
    obtain rfl := Option.some.inj hstep
    rw [hwriter] at hqueued
    exact h.write (by rw [hwriter]; simp) rfl rfl rfl rfl rfl (le_refl _) hqueued (le_refl _) h.tail
      (fun hread => (by cases hread)) (by rw [hwriter]; rfl) h.short
  · rename_i batch force ticket hwriter
    obtain rfl := Option.some.inj hstep
    rw [hwriter] at hqueued
    exact h.write (by rw [hwriter]; simp) rfl rfl rfl rfl rfl (le_refl _) hqueued (le_refl _) h.tail
      (fun hread => (by cases hread)) (by rw [hwriter]; rfl) h.short
  · rename_i batch force ticket hwriter
    obtain rfl := Option.some.inj hstep
    rw [hwriter] at hqueued hstopped
    exact h.write (by rw [hwriter]; simp) rfl rfl rfl rfl rfl (le_refl _) hqueued (le_refl _) h.tail
      (fun _ => hstopped rfl) (by rw [hwriter]; rfl) h.short
  · cases hstep

theorem sound_writerStop (h : Sound c s) (hstep : s.writerStop = some s') : Sound c s' := by
  have hqueued := h.queued
  have hstopped := h.stopped
  unfold writerStop at hstep
  split at hstep
  · rename_i stop hwriter
    obtain rfl := Option.some.inj hstep
    rw [hwriter] at hqueued hstopped
    exact h.write (by rw [hwriter]; simp) rfl rfl rfl rfl rfl (le_refl _) hqueued (le_refl _) h.tail
      (fun _ => hstopped rfl) (by rw [hwriter]; rfl) h.short
  · cases hstep

theorem sound_writerExit (h : Sound c s) (hstep : s.writerExit = some s') : Sound c s' := by
  have hqueued := h.queued
  have hstopped := h.stopped
  unfold writerExit at hstep
  split at hstep
  · rename_i hwriter
    obtain rfl := Option.some.inj hstep
    rw [hwriter] at hqueued hstopped
    exact h.write (by rw [hwriter]; simp) rfl rfl rfl rfl rfl (le_refl _) hqueued (le_refl _) h.tail
      (fun _ => hstopped rfl) (by rw [hwriter]; rfl) h.short
  · cases hstep

/-! ### Runs -/

theorem Sound.step (h : Sound c s) {a : SpoolAction} (hok : s.StepOk a)
    (hstep : s.step sha256 c a = some s') : Sound c s' := by
  cases a with
  | tryReserve events =>
    obtain rfl := Option.some.inj hstep
    exact sound_tryReserve h events
  | emit i event terminal =>
    obtain ⟨r, hi, rfl⟩ := Option.map_eq_some_iff.mp hstep
    obtain ⟨hopen, hstop⟩ := hok
    obtain ⟨hclosed, hpos⟩ := hopen r hi
    exact sound_emit h hstop event terminal hi hclosed hpos
  | releaseUnused i count =>
    obtain ⟨r, hi, rfl⟩ := Option.map_eq_some_iff.mp hstep
    refine sound_releaseUnused h count hi fun n hn => ?_
    subst hn
    exact hok r hi
  | beginFlush =>
    change s.beginFlush = some s' at hstep
    unfold beginFlush at hstep
    split_ifs at hstep
    · exact Option.some.inj hstep ▸ h
    · obtain rfl := Option.some.inj hstep
      exact { h with }
  | beginClose => exact sound_beginClose h hstep
  | putControl => exact sound_putControl h hok hstep
  | seeDone =>
    change s.seeDone = some s' at hstep
    unfold seeDone at hstep
    repeat' split at hstep
    all_goals cases hstep
    all_goals exact { h with }
  | joinWriter => exact sound_joinWriter h hstep
  | timeOut =>
    change s.timeOut = some s' at hstep
    unfold timeOut at hstep
    repeat' split at hstep
    all_goals cases hstep
    all_goals exact { h with }
  | writerGet => exact sound_writerGet h hstep
  | writerCollect => exact sound_writerCollect h hstep
  | writerSeal => exact sound_writerSeal h hstep
  | writerAppend aged nowMs => exact sound_writerAppend h hok.1 hok.2 hstep
  | writerSettle => exact sound_writerSettle h hstep
  | writerFinish => exact sound_writerFinish h hstep
  | writerStop => exact sound_writerStop h hstep
  | writerExit => exact sound_writerExit h hstep

theorem Sound.run (h : Sound c s) {actions : List SpoolAction} (hok : s.RunOk sha256 c actions)
    (hrun : s.run sha256 c actions = some s') : Sound c s' := by
  induction actions generalizing s with
  | nil => exact Option.some.inj hrun ▸ h
  | cons a rest ih =>
    obtain ⟨t, hstep, hrest⟩ := Option.bind_eq_some_iff.mp hrun
    exact ih (h.step hok.1 hstep) (hok.2 t hstep) hrest

/-! ## What the reservations promise -/

/-- Reservations are authoritative. -/
structure Authoritative (sha256 : Bytes → HexDigest) (c : SpoolConfig) (s : Spool) : Prop where
  /-- The outstanding slots are those left in the reservations. -/
  accounted : s.outstandingSlots = (s.reservations.map ReservationState.remaining).sum
  bounded : s.outstandingSlots + s.queuedSlots ≤ c.queueCapacity
  /-- No emit of a reservation with a slot finds the queue full. -/
  room : ∀ (i : Nat) (r : ReservationState) (event : LifecycleEventV1) (terminal : Bool),
    s.reservations[i]? = some r → 1 ≤ r.remaining →
      (s.submit c i r event terminal).2 ≠ .reservedQueueFull
  fits : ∀ (event : LifecycleEventV1) (line : Bytes),
    MakesLine sha256 event line → line.length ≤ maxEventBytes
  /-- Every event that was accepted before a `close` returned is appended, once and in its order. -/
  delivered : s.closeReturned = true → s.files.appended.map AppendedLine.event = s.accepted

theorem Sound.authoritative (h : Sound c s) : Authoritative sha256 c s where
  accounted := h.accounted
  bounded := h.bounded
  room := fun i r event terminal hi hpos hfull => by
    unfold submit at hfull
    split_ifs at hfull with hopen hterminal hdown hroom
    · cases hfull
    · cases hfull
    · exact hroom (h.queue_length_lt hi hpos)
  fits := fun _ _ hline => hline.length_le
  delivered := fun hreturned => by
    have hexited := h.returned hreturned
    have hdelivered := h.delivered
    have hqueue : queuedEvents s.queue = [] := h.stopped (by rw [hexited]; rfl)
    rw [hexited, hqueue, List.append_nil] at hdelivered
    rw [hdelivered]
    exact (List.append_nil _).symm

/-- **Reservations are authoritative** in every state of a run whose steps leave the control slot to one
command, put no event behind a stop and stay within their reservations. -/
theorem reservations_authoritative {files : SpoolFiles} {actions : List SpoolAction}
    (hfiles : files.appended = [])
    (hok : Spool.RunOk sha256 c { files := files } actions)
    (hrun : Spool.run sha256 c { files := files } actions = some s) :
    Authoritative sha256 c s :=
  ((sound_start hfiles).run hok hrun).authoritative

end Steps

/-! ## A spool of one slot -/

theorem maxEventBytes_le_million : maxEventBytes ≤ 1_000_000 := by decide

theorem queueCapacity_one : 1 ≤ 1 := le_rfl

theorem batchRecords_default : 1 ≤ 256 ∧ 256 ≤ 256 := by decide

theorem segmentBytes_default : 1 ≤ 64 * 1024 * 1024 := by decide

theorem watermarkEvents_default : 1 ≤ 12 := by decide

/-- The settings of a spool of one slot. -/
def oneSlot : SpoolConfig where
  maxBytes := 1_000_000
  queueCapacity := 1
  maxBytes_bound := maxEventBytes_le_million
  queueCapacity_pos := queueCapacity_one
  batchRecords_bounds := batchRecords_default
  segmentBytes_pos := segmentBytes_default
  watermarkEvents_pos := watermarkEvents_default

theorem thousand_pos : 1 ≤ 1000 := by decide

theorem thousand_safe : 1000 ≤ maxSafeInteger := by decide

theorem isHex32_replicate : isHex32 (String.ofList (List.replicate 32 'a')) = true := by decide

theorem admissionEvent_valid : EventFields.kindFieldsAndSize
    { eventId := .numbered _ 1
      requestId := .numbered _ 1
      kind := .requestAdmissionEvent
      occurredAtMs := ⟨1000, thousand_pos, thousand_safe⟩
      installationId := .numbered _ 1
      bootId := .numbered _ 1
      keyId := ⟨String.ofList (List.replicate 32 'a'), isHex32_replicate⟩ } = .ok () :=
  kindFieldsAndSize_of_kindFields rfl

/-- An event of a request. -/
def admissionEvent : LifecycleEventV1 := ⟨_, admissionEvent_valid⟩

/-- Two flushes that time out. -/
def twoFlushes : List SpoolAction :=
  [.tryReserve 1, .beginFlush, .putControl, .timeOut, .beginFlush, .putControl, .timeOut]

/-- An emit after a close has put its stop. -/
def emitBehindStop : List SpoolAction :=
  [.tryReserve 1, .beginClose, .putControl, .emit 0 admissionEvent false, .writerGet, .writerStop,
    .writerExit, .seeDone, .joinWriter]

theorem reservations_not_authoritative :
    (∃ s r, Spool.run (fun _ => zeroDigest) oneSlot freshCapacity.spool twoFlushes = some s ∧
      s.reservations[0]? = some r ∧ 1 ≤ r.remaining ∧
        (s.submit oneSlot 0 r admissionEvent false).2 = .reservedQueueFull) ∧
      ∃ s, Spool.run (fun _ => zeroDigest) oneSlot freshCapacity.spool emitBehindStop = some s ∧
        s.closeReturned = true ∧ s.accepted = [admissionEvent] ∧ s.files.appended = [] :=
  ⟨⟨_, _, rfl, rfl, by decide, rfl⟩, _, rfl, rfl, rfl, rfl⟩

/-- An emit, a release and a flush that times out. -/
def oneFlush : List SpoolAction :=
  [.tryReserve 1, .emit 0 admissionEvent false, .releaseUnused 0 none, .beginFlush, .putControl,
    .timeOut]

theorem oneFlush_authoritative : ∃ s,
    Spool.run (fun _ => zeroDigest) oneSlot freshCapacity.spool oneFlush = some s ∧
      Authoritative (fun _ => zeroDigest) oneSlot s := by
  have hok : Spool.RunOk (fun _ => zeroDigest) oneSlot freshCapacity.spool oneFlush := by
    refine ⟨trivial, fun s₁ h₁ => ?_⟩
    obtain rfl := Option.some.inj h₁
    refine ⟨⟨fun r hr => ?_, rfl⟩, fun s₂ h₂ => ?_⟩
    · obtain rfl := Option.some.inj hr
      exact ⟨rfl, by decide⟩
    obtain rfl := Option.some.inj h₂
    refine ⟨trivial, fun s₃ h₃ => ?_⟩
    obtain rfl := Option.some.inj h₃
    refine ⟨trivial, fun s₄ h₄ => ?_⟩
    obtain rfl := Option.some.inj h₄
    refine ⟨rfl, fun s₅ h₅ => ?_⟩
    obtain rfl := Option.some.inj h₅
    exact ⟨trivial, fun _ _ => trivial⟩
  have hrun : ∃ s, Spool.run (fun _ => zeroDigest) oneSlot freshCapacity.spool oneFlush = some s :=
    ⟨_, rfl⟩
  obtain ⟨s, hs⟩ := hrun
  exact ⟨s, hs, reservations_authoritative rfl hok hs⟩

end Spool

end LlmMaxxing.Telemetry
