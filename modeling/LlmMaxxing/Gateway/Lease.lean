import LlmMaxxing.Gateway.RuntimeLaws

/-!
# Leases (`Lease` of `gateway/runtime_state.py`, `DispatchLease` of `gateway/scheduler.py`)

A lease settles its attempt through the runtime of its account. A dispatch lease also gives the
active permit of its request back, once, after a report that did not raise. The blocking call runs
in a shielded worker: a caller that is cancelled while it waits does not stop the worker, it only
sees less of how the worker ended.
-/

namespace LlmMaxxing

open Check AccountRuntime Fallible

namespace World

/-- `_finish` on the runtime of an account. A checkpoint that fails after the report has taken
effect raises instead of the receipt. -/
def finish (cfg : RuntimeConfig) (w : World) (accountId : AccountId) (clock : Nat)
    (attemptId : String) (r : AttemptResolution) : Result JournalReceipt :=
  match w.state.runtimes.get? accountId with
  | none => (w, .error (.keyError accountId.text))
  | some rt =>
    match rt.asks cfg (.finish clock attemptId r) with
    | none =>
      let (rt', outcome) := rt.finish cfg clock (.error (.journalUnavailable "not asked")) attemptId r
      (w.setRuntime accountId rt', outcome)
    | some body =>
      match w.append cfg body with
      | (w, .error e) =>
        let (rt', outcome) := rt.finish cfg clock (.error e) attemptId r
        (w.setRuntime accountId rt', outcome)
      | (w, .ok receipt) =>
        let (rt', outcome) := rt.finish cfg clock (.ok receipt) attemptId r
        andThen (maybeCheckpoint (w.setRuntime accountId rt') rt'.account) fun _ w => (w, outcome)

/-- The world after a finish is the one after the call. -/
theorem finish_world (cfg : RuntimeConfig) (w : World) (accountId : AccountId) (clock : Nat)
    (attemptId : String) (r : AttemptResolution) :
    (w.finish cfg accountId clock attemptId r).1 =
      (w.accountCall cfg accountId (.finish clock attemptId r)).1 := by
  unfold finish accountCall
  cases w.state.runtimes.get? accountId with
  | none => rfl
  | some rt =>
    simp only
    cases rt.asks cfg (.finish clock attemptId r) with
    | none => rfl
    | some body =>
      simp only
      rcases w.append cfg body with ⟨w', e | receipt⟩
      · rfl
      · exact andThen_answer_fst _ _

end World

/-- `Lease`: a handle on one attempt. -/
structure Lease where
  request : ReservationRequest
  reservationReceipt : JournalReceipt

/-- `Lease.finish`. -/
def Lease.finish (cfg : RuntimeConfig) (l : Lease) (clock : Nat) (r : AttemptResolution) (w : World) :
    World.Result JournalReceipt :=
  w.finish cfg l.request.accountId clock l.request.attemptId.text r

/-- `DispatchLease`, as far as it is reconciled. -/
structure DispatchLease where
  lease : Lease
  released : Bool := false

/-- How an awaited finish ends. -/
inductive FinishOutcome where
  | returned (receipt : JournalReceipt)
  | raised (fault : RuntimeFault)
  | cancelled
  deriving DecidableEq

/-- What a finish through a dispatch lease leaves: the world, the lease, and whether the active
permit was given back. -/
structure FinishedLease where
  world : World
  lease : DispatchLease
  permitReturned : Bool
  outcome : FinishOutcome

namespace DispatchLease

/-- `_release`. -/
def release (l : DispatchLease) : DispatchLease × Bool := ({ l with released := true }, !l.released)

/-- `finish`. -/
def finish (cfg : RuntimeConfig) (l : DispatchLease) (clock : Nat) (r : AttemptResolution) (w : World) :
    FinishedLease :=
  match l.lease.finish cfg clock r w with
  | (w, .error e) => ⟨w, l, false, .raised e⟩
  | (w, .ok receipt) => ⟨w, l.release.1, l.release.2, .returned receipt⟩

/-- `finish_async` of a caller that is cancelled `cancellations` times while it waits. The first
cancellation waits for the worker again; the next one leaves without the release. -/
def finishAsync (cfg : RuntimeConfig) (l : DispatchLease) (clock : Nat) (r : AttemptResolution)
    (cancellations : Nat) (w : World) : FinishedLease :=
  match l.lease.finish cfg clock r w, cancellations with
  | (w, .error e), 0 => ⟨w, l, false, .raised e⟩
  | (w, .ok receipt), 0 => ⟨w, l.release.1, l.release.2, .returned receipt⟩
  | (w, .error e), 1 => ⟨w, l, false, .raised e⟩
  | (w, .ok _), 1 => ⟨w, l.release.1, l.release.2, .cancelled⟩
  | (w, _), _ + 2 => ⟨w, l, false, .cancelled⟩

/-- **The attempt sees the same report whatever becomes of the caller.** -/
theorem finish_world (cfg : RuntimeConfig) (l : DispatchLease) (clock : Nat) (r : AttemptResolution)
    (w : World) : (l.finish cfg clock r w).world = (l.lease.finish cfg clock r w).1 := by
  unfold finish
  split <;> next heq => rw [heq]

theorem finishAsync_world (cfg : RuntimeConfig) (l : DispatchLease) (clock : Nat)
    (r : AttemptResolution) (cancellations : Nat) (w : World) :
    (l.finishAsync cfg clock r cancellations w).world = (l.lease.finish cfg clock r w).1 := by
  unfold finishAsync
  split <;> next heq => rw [heq]

end DispatchLease

end LlmMaxxing
