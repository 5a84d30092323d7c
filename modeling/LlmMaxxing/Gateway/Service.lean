import LlmMaxxing.Gateway.RestartLaws

/-!
# Runs of the runtime across processes

A `Service` is the world together with whether a process is up over it. Processes start, take
calls, publications and checkpoints, and end at any time; a crash is a restart, and a crash inside
an operation is a journal that takes no more records, followed by a restart. Beside the world a
service keeps what the process that is up has itself granted and which probes it has itself put
into circuits.
-/

namespace LlmMaxxing

open Check AccountRuntime Fallible

/-- What the environment allows during one event. -/
structure ServiceEnv where
  room : Nat
  due : Nat → Bool
  writable : Bool

/-- An environment that takes every record and writes checkpoints only when asked to. -/
def ServiceEnv.ample : ServiceEnv := ⟨1_000_000, fun _ => false, true⟩

/-- What happens to a service. -/
inductive ServiceEvent where
  | call (accountId : AccountId) (c : AccountCall)
  | publish (clock : AccountId → Nat) (accounts : List ProviderAccount)
  | checkpoint
  | restart (clock : World.StartClock) (accounts : List ProviderAccount)

/-- The world, whether a process is up over it, and what this process has granted and issued. -/
structure Service where
  world : World
  up : Bool
  granted : List (AccountId × String)
  issued : List (AccountId × String)

/-- The world with the environment of an event. -/
def World.under (w : World) (env : ServiceEnv) : World :=
  { w with room := env.room, due := env.due, writable := env.writable }

namespace Service

/-- Before the first process, with an empty journal. -/
def created : Service :=
  ⟨⟨RuntimeState.empty, JournalState.created, 0, fun _ => false, false⟩, false, [], []⟩

/-- The attempt a record grants. -/
def grants (accountId : AccountId) : Option RecordBody → List (AccountId × String)
  | some (.attemptReserved d) => [(accountId, d.attemptId)]
  | _ => []

/-- The probe a record puts into a circuit. -/
def issues (accountId : AccountId) : Option RecordBody → List (AccountId × String)
  | some (.circuitUpdated _ _ value) => (value.probeId.toList).map fun p => (accountId, p)
  | _ => []

/-- One event. A process that is not up takes none but its restart. -/
def step (cfg : RuntimeConfig) (s : Service) (env : ServiceEnv) : ServiceEvent → Service
  | .restart clock accounts =>
    match World.start cfg clock accounts (s.world.under env) with
    | (w, .ok ()) => ⟨w, true, [], []⟩
    | (w, .error _) => ⟨w, false, [], []⟩
  | .call accountId c =>
    if s.up then
      let w := s.world.under env
      let body := w.journaled cfg accountId c
      { s with
        world := (w.accountCall cfg accountId c).1
        granted := grants accountId body ++ s.granted
        issued := issues accountId body ++ s.issued }
    else s
  | .publish clock accounts =>
    if s.up then
      { s with world := (World.applyPublication cfg clock accounts (s.world.under env)).1 }
    else s
  | .checkpoint => if s.up then { s with world := (s.world.under env).checkpoint.1 } else s

/-- The services a run can reach when every event meets `C` in the service it happens to. -/
inductive Reachable (cfg : RuntimeConfig) (C : Service → ServiceEvent → Prop) : Service → Prop
  | created : Reachable cfg C created
  | step {s : Service} (h : Reachable cfg C s) (env : ServiceEnv) (e : ServiceEvent) (he : C s e) :
      Reachable cfg C (s.step cfg env e)

/-- A service and a later one of a run. -/
abbrev Later (cfg : RuntimeConfig) (C : Service → ServiceEvent → Prop) :=
  Relation.ReflTransGen fun s s' : Service => ∃ env e, C s e ∧ s' = s.step cfg env e

/-! ## Runs of a list of events -/

/-- A clock that stands still during a start. -/
def startedAt (clock : Nat) : World.StartClock := ⟨fun _ => clock, fun _ => clock, fun _ _ => clock⟩

/-- A run from the created service, every event in an ample environment. -/
def runs (cfg : RuntimeConfig) (events : List ServiceEvent) : Service :=
  events.foldl (fun s e => s.step cfg ServiceEnv.ample e) created

theorem reachable_runs {cfg : RuntimeConfig} {C : Service → ServiceEvent → Prop}
    {events : List ServiceEvent} (h : ∀ e ∈ events, ∀ s, C s e) :
    Reachable cfg C (runs cfg events) := by
  have hfold : ∀ s, Reachable cfg C s →
      Reachable cfg C (events.foldl (fun s e => s.step cfg ServiceEnv.ample e) s) := by
    induction events with
    | nil => exact fun s hs => hs
    | cons e rest ih =>
      intro s hs
      rw [List.forall_mem_cons] at h
      exact ih h.2 _ (hs.step ServiceEnv.ample e (h.1 s))
  exact hfold created .created

/-- Every event of a list meets `C` where it happens. -/
def Meets (cfg : RuntimeConfig) (C : Service → ServiceEvent → Prop) :
    Service → List ServiceEvent → Prop
  | _, [] => True
  | s, e :: rest => C s e ∧ Meets cfg C (s.step cfg ServiceEnv.ample e) rest

instance decidableMeets (cfg : RuntimeConfig) (C : Service → ServiceEvent → Prop)
    [∀ s e, Decidable (C s e)] : ∀ s events, Decidable (Meets cfg C s events)
  | _, [] => .isTrue trivial
  | s, e :: rest =>
    have := decidableMeets cfg C (s.step cfg ServiceEnv.ample e) rest
    inferInstanceAs (Decidable (C s e ∧ Meets cfg C (s.step cfg ServiceEnv.ample e) rest))

theorem later_of_meets {cfg : RuntimeConfig} {C : Service → ServiceEvent → Prop}
    {events : List ServiceEvent} {s : Service} (h : Meets cfg C s events) :
    Later cfg C s (events.foldl (fun s e => s.step cfg ServiceEnv.ample e) s) := by
  induction events generalizing s with
  | nil => exact .refl
  | cons e rest ih => exact (ih h.2).head ⟨ServiceEnv.ample, e, h.1, rfl⟩

theorem Reachable.later {cfg : RuntimeConfig} {C : Service → ServiceEvent → Prop} {s s' : Service}
    (h : Reachable cfg C s) (hrun : Later cfg C s s') : Reachable cfg C s' := by
  induction hrun with
  | refl => exact h
  | tail _ hstep ih =>
    obtain ⟨env, e, he, rfl⟩ := hstep
    exact ih.step env e he

end Service

end LlmMaxxing
