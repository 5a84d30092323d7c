import LlmMaxxing.Lib.Transaction
import LlmMaxxing.Storage.Repositories

/-!
# One nonterminal activation at a time

`ux_activations_single_nonterminal` is a unique index over the stage of the rows that are not
`applied`. It keeps two activations out of one stage, not out of two different nonterminal stages:
an activation that has left its first stage leaves that stage free for the next one, and the two
then block each other where the later one wants to follow.

`Pipeline` is the invariant of the runs that never open an activation while another is open.
-/

namespace LlmMaxxing.Storage

open Check Database

/-! ## Calls and runs -/

/-- The calls on the publication repository that write bundles and activations. -/
inductive PublicationCall where
  | addBundle (b : Bundle)
  | addActivation (a : Activation)
  | advance (activationId expectedDigest : String) (replacement : Activation)

/-- The database after a call that does not raise. -/
def PublicationCall.apply (db : Database) : PublicationCall → Except StorageFault Database
  | .addBundle b => db.addBundle b
  | .addActivation a => db.addActivation a
  | .advance id digest replacement => (db.advanceActivationStage id digest replacement).map Prod.snd

/-- An advance moves the stored activation to the stage after its own. -/
def PublicationCall.Along (db : Database) : PublicationCall → Prop
  | .advance id _ replacement =>
    ∀ stored, db.activations.get? id = some stored → stored.stage.next = some replacement.stage
  | _ => True

/-- The stored activations that are not `applied`. -/
def Database.Open (db : Database) (id : String) (a : Activation) : Prop :=
  db.activations.get? id = some a ∧ a.stage ≠ .applied

/-- An activation is opened only while none is open, and a row that is open carries a digest that
a later compare-and-swap accepts. -/
def PublicationCall.OpensAlone (db : Database) : PublicationCall → Prop
  | .addBundle _ => True
  | .addActivation a =>
    a.stage = .applied ∨ (∀ id stored, ¬db.Open id stored) ∧ isHex64 a.stageRecordDigest = true
  | .advance _ _ replacement =>
    replacement.stage = .applied ∨ isHex64 replacement.stageRecordDigest = true

/-- One call that meets `C` and does not raise. -/
def Publishes (C : Database → PublicationCall → Prop) (db db' : Database) : Prop :=
  ∃ c, C db c ∧ c.apply db = .ok db'

/-- The databases that committed units of work leave, with calls that meet `C`. -/
def Published (C : Database → PublicationCall → Prop) (db : Database) : Prop :=
  ∃ s, Relation.ReflTransGen (TransactionStore.Step (Publishes C)) (.idle migrated) s ∧
    s.committed = db

/-- **At most one activation is open, and it can be advanced to its next stage.** -/
structure OneOpen (db : Database) : Prop where
  single : ∀ id a id' a', db.Open id a → db.Open id' a' → id = id'
  advances : ∀ id a stage, db.activations.get? id = some a → a.stage.next = some stage →
    ∃ digest replacement row db', replacement.stage = stage ∧
      db.advanceActivationStage id digest replacement = .ok (row, db')

variable {db db' : Database}

/-! ## The invariant -/

/-- What the tables keep when an activation is opened only while none is open. -/
structure Pipeline (db : Database) : Prop where
  keyed : ∀ id a, db.activations.get? id = some a → a.activationId = id
  bundled : ∀ id a, db.activations.get? id = some a → db.bundles.contains a.bundleGeneration = true
  digest : ∀ id a, db.Open id a → isHex64 a.stageRecordDigest = true
  single : ∀ id a id' a', db.Open id a → db.Open id' a' → id = id'

theorem pipeline_migrated : Pipeline migrated where
  keyed _ _ h := by cases h
  bundled _ _ h := by cases h
  digest _ _ h := by cases h.1
  single _ _ _ _ h := by cases h.1

/-- A stage with a next one is not `applied`. -/
theorem open_of_next {id : String} {a : Activation} {stage : ActivationStage}
    (ha : db.activations.get? id = some a) (hnext : a.stage.next = some stage) : db.Open id a := by
  refine ⟨ha, fun happlied => ?_⟩
  rw [happlied] at hnext
  cases hnext

/-- Writing a row that is alone in being open, if it is open at all. -/
theorem Pipeline.insert (h : Pipeline db) {a : Activation}
    (hbundle : db.bundles.contains a.bundleGeneration = true)
    (hopen : a.stage = .applied ∨
      (∀ id stored, db.Open id stored → id = a.activationId) ∧
        isHex64 a.stageRecordDigest = true) :
    Pipeline { db with activations := db.activations.insert a.activationId a } := by
  have hrow : ∀ id b, (db.activations.insert a.activationId a).get? id = some b →
      id = a.activationId ∧ b = a ∨ db.activations.get? id = some b := by
    intro id b hb
    rw [Dict.get?_insert] at hb
    split at hb
    · next heq => exact .inl ⟨heq, (Option.some.inj hb).symm⟩
    · exact .inr hb
  -- Every open row of the new table has the identity of the written one, or the table is as it was.
  have hid : ∀ id b, (db.activations.insert a.activationId a).get? id = some b →
      b.stage ≠ .applied → a.stage = .applied ∧ db.Open id b ∨ id = a.activationId := by
    intro id b hb hne
    rcases hrow id b hb with ⟨heq, -⟩ | hold
    · exact .inr heq
    · rcases hopen with happlied | ⟨halone, -⟩
      · exact .inl ⟨happlied, hold, hne⟩
      · exact .inr (halone id b ⟨hold, hne⟩)
  refine ⟨fun id b hb => ?_, fun id b hb => ?_, fun id b hb => ?_, fun id b id' b' hb hb' => ?_⟩
  · rcases hrow id b hb with ⟨rfl, rfl⟩ | hold
    · rfl
    · exact h.keyed id b hold
  · rcases hrow id b hb with ⟨-, rfl⟩ | hold
    · exact hbundle
    · exact h.bundled id b hold
  · rcases hrow id b hb.1 with ⟨-, rfl⟩ | hold
    · rcases hopen with happlied | ⟨-, hhex⟩
      · exact absurd happlied hb.2
      · exact hhex
    · exact h.digest id b ⟨hold, hb.2⟩
  · rcases hid id b hb.1 hb.2 with ⟨happlied, hb₀⟩ | rfl
    · rcases hid id' b' hb'.1 hb'.2 with ⟨-, hb₀'⟩ | rfl
      · exact h.single id b id' b' hb₀ hb₀'
      · rcases hrow _ b' hb'.1 with ⟨-, rfl⟩ | hold
        · exact absurd happlied hb'.2
        · exact h.single id b _ b' hb₀ ⟨hold, hb'.2⟩
    · rcases hid id' b' hb'.1 hb'.2 with ⟨happlied, hb₀'⟩ | rfl
      · rcases hrow _ b hb.1 with ⟨-, rfl⟩ | hold
        · exact absurd happlied hb.2
        · exact h.single _ b id' b' ⟨hold, hb.2⟩ hb₀'
      · rfl

/-- **A call along the pipeline that opens alone keeps the invariant.** -/
theorem Pipeline.publishes (h : Pipeline db)
    (hpub : Publishes (fun db c => c.Along db ∧ c.OpensAlone db) db db') : Pipeline db' := by
  obtain ⟨c, ⟨halong, halone⟩, hok⟩ := hpub
  cases c with
  | addBundle b =>
    rw [addBundle_eq_ok hok]
    refine ⟨h.keyed, fun id a ha => ?_, h.digest, h.single⟩
    obtain ⟨bundle, hbundle⟩ := Dict.contains_iff.mp (h.bundled id a ha)
    rw [Dict.contains_iff, Dict.get?_insert]
    split
    · exact ⟨b, rfl⟩
    · exact ⟨bundle, hbundle⟩
  | addActivation a =>
    obtain ⟨-, hbundle, -, rfl⟩ := addActivation_eq_ok hok
    refine h.insert hbundle (halone.imp_right fun hnone => ⟨fun id stored hs => ?_, hnone.2⟩)
    exact absurd hs (hnone.1 id stored)
  | advance id digest replacement =>
    simp only [PublicationCall.apply, Except.map] at hok
    split at hok
    · cases hok
    · next p hadvance =>
      obtain ⟨stored, hstored, -, -, hp, hbundle, -, hdb⟩ := advanceActivationStage_eq_ok hadvance
      cases hok
      have hkey : p.1.activationId = id := by rw [hp]; exact h.keyed id stored hstored
      rw [hdb, ← hkey]
      have hstage : p.1.stage = replacement.stage := by rw [hp]; rfl
      have hdigest : p.1.stageRecordDigest = replacement.stageRecordDigest := by rw [hp]; rfl
      refine h.insert hbundle ?_
      rw [hstage, hdigest, hkey]
      -- The row it moves was open, so it is the only one that may be.
      refine halone.imp_right fun hhex => ⟨fun id' b hb => ?_, hhex⟩
      exact h.single id' b id stored hb (open_of_next hstored (halong stored hstored))

/-- An open activation of a pipeline can be advanced: its own row with the next stage. -/
theorem Pipeline.oneOpen (h : Pipeline db) : OneOpen db where
  single := h.single
  advances id a stage ha hnext := by
    have hopen := open_of_next ha hnext
    refine ⟨a.stageRecordDigest, { a with stage := stage }, { a with stage := stage },
      { db with activations := db.activations.insert id { a with stage := stage } }, rfl, ?_⟩
    have hfree : db.stageFree id stage = true := by
      rw [stageFree_iff]
      by_cases happlied : stage = .applied
      · exact .inl happlied
      · refine .inr fun id' b hb => ?_
        by_cases hstage : b.stage = stage
        · exact .inl (h.single id' b id a ⟨hb, hstage ▸ happlied⟩ hopen)
        · exact .inr hstage
    simp only [Database.advanceActivationStage, requireHex64, ha, bind_eq_ok_iff,
      require_eq_ok_iff, exists_unit_and_iff, pure_eq_ok]
    exact ⟨h.keyed id a ha, h.digest id a hopen, trivial, h.bundled id a ha, hfree, rfl⟩

/-! ## Whole runs -/

/-- **One nonterminal activation at a time**, in every database that committed units of work leave
when each advance goes along the pipeline and an activation is opened only while none is open. -/
theorem one_open_activation {db : Database}
    (h : Published (fun db c => c.Along db ∧ c.OpensAlone db) db) : OneOpen db := by
  obtain ⟨s, hrun, rfl⟩ := h
  have hholds : TransactionStore.Holds Pipeline s :=
    (TransactionStore.Holds.idle pipeline_migrated).run (fun _ _ hop hw => hw.publishes hop) hrun
  exact hholds.committed.oneOpen

/-- One more call, in a unit of work of its own. -/
theorem Published.call {C : Database → PublicationCall → Prop} {c : PublicationCall}
    (h : Published C db) (hc : C db c) (hok : c.apply db = .ok db') : Published C db' := by
  obtain ⟨s, hrun, rfl⟩ := h
  have hidle : Relation.ReflTransGen (TransactionStore.Step (Publishes C)) s (.idle s.committed) := by
    obtain ⟨committed, working⟩ := s
    cases working with
    | none => exact .refl
    | some w => exact .single (.rollback committed w)
  exact ⟨_, (hrun.trans hidle).trans (TransactionStore.single ⟨c, hc, hok⟩), rfl⟩

/-- A bundle of generation 1. -/
def firstBundle : Bundle := ⟨1, "bh_1", [], [], "0.1.0", 1, 0⟩

/-- Activation `id` of that bundle. -/
def activationAt (id : String) (stage : ActivationStage) : Activation where
  activationId := id
  opIdempotencyKey := id
  bundleGeneration := 1
  stage := stage
  stageRecordDigest := "00000000000000000000000000000000000000000000000000000000000000a1"
  baseGeneration := 0
  impactHash := ""
  outboxComplete := false
  createdAtMs := 0
  updatedAtMs := 0

/-- The bundle and these activations. -/
def withActivations (rows : List Activation) : Database :=
  { migrated with
    bundles := migrated.bundles.insert 1 firstBundle
    activations := rows.foldl (fun d a => d.insert a.activationId a) .empty }

/-- The first activation, opened and advanced. -/
theorem published_first {C : Database → PublicationCall → Prop}
    (hbundle : C migrated (.addBundle firstBundle))
    (hadd : C (withActivations []) (.addActivation (activationAt "a" .preparingBackend)))
    (hadvance : C (withActivations [activationAt "a" .preparingBackend])
      (.advance "a" (activationAt "a" .backendReady).stageRecordDigest
        (activationAt "a" .backendReady))) :
    Published C (withActivations [activationAt "a" .backendReady]) := by
  have hnone : Published C migrated := ⟨_, .refl, rfl⟩
  have hbundled : Published C (withActivations []) := hnone.call hbundle (by decide +kernel)
  have hopened : Published C (withActivations [activationAt "a" .preparingBackend]) :=
    hbundled.call hadd (by decide +kernel)
  exact hopened.call hadvance (by decide +kernel)

theorem first_activation_alone :
    OneOpen (withActivations [activationAt "a" .backendReady]) := by
  refine one_open_activation (published_first ⟨trivial, trivial⟩ ⟨trivial, ?_⟩ ⟨?_, ?_⟩)
  · exact .inr ⟨fun id a h => (by cases h.1), by decide⟩
  · intro stored hstored
    cases hstored
    rfl
  · exact .inr (by decide)

/-- **Two activations in two nonterminal stages**: the second is added once the first has left
`preparing_backend`. -/
theorem two_activations_open :
    ¬∀ db, Published (fun db c => c.Along db) db → OneOpen db := by
  intro hall
  have hfirst : Published (fun db c => c.Along db)
      (withActivations [activationAt "a" .backendReady]) := by
    refine published_first trivial trivial fun stored hstored => ?_
    cases hstored
    rfl
  have hboth : Published (fun db c => c.Along db)
      (withActivations [activationAt "a" .backendReady, activationAt "b" .preparingBackend]) :=
    Published.call (c := .addActivation (activationAt "b" .preparingBackend)) hfirst trivial
      (by decide +kernel)
  have hsame : "a" = "b" := (hall _ hboth).single "a" (activationAt "a" .backendReady) "b"
    (activationAt "b" .preparingBackend) ⟨by rfl, by decide⟩ ⟨by rfl, by decide⟩
  exact absurd hsame (by decide)

end LlmMaxxing.Storage
