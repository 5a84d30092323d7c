import LlmMaxxing.Core.KeyMaterial
import LlmMaxxing.Core.VerifierOrder
import LlmMaxxing.Lib.HashChain
import LlmMaxxing.Lib.SortOn
import LlmMaxxing.Storage.Idempotence
import Mathlib.Data.List.Pairwise

/-!
# The audit chain (`storage/backup.py`, `storage/repositories.py`)

An audit row holds the chain digest before it; the verifiers recompute the chain over the rows sorted
by `seq` and ask for one row at every number. PostgreSQL draws `seq` from a serial that goes on when a
transaction rolls back, so the rows of an honest history can have a gap: `audit_verification_iff` says
for which histories they have none. `sha256` is the hexadecimal SHA-256 of a byte string.
-/

namespace LlmMaxxing.Storage

open Check KeyMaterial

/-! ## Rows -/

/-- A row of `audit_log`. -/
structure AuditLog where
  seq : Int
  occurredAtMs : Int
  actorPrincipalId : String
  action : String
  subjectType : String
  subjectId : String
  recordDigest : String
  prevDigest : String
  deriving DecidableEq

/-- A row of `audit_checkpoints`. -/
structure AuditCheckpoint where
  checkpointSeq : Int
  throughSeq : Int
  checkpointDigest : String
  signerKeyId : String
  trustEpoch : Int
  createdAtMs : Int
  deriving DecidableEq

/-- What a verifier raises, by its text; a digest that is not ASCII cannot be encoded. -/
inductive AuditError where
  | value (message : String)
  | unicodeEncode
  deriving DecidableEq, Repr

/-! ## Verifiers -/

/-- The genesis digest: 64 zeros. -/
def genesisDigest : String := String.ofList (List.replicate 64 '0')

section Verify

variable (sha256 : Bytes → String)

/-- `audit_chain_digest`. -/
def auditChainDigest (prevDigest recordDigest : String) : Option String := do
  let prev ← encodeAscii prevDigest.toList
  let record ← encodeAscii recordDigest.toList
  return sha256 (prev ++ record)

/-- The loop of both verifiers from a number and a digest on. -/
def verifyLinks (broken : AuditLog → String) (expectedSeq : Int) (chain : String) :
    List AuditLog → Except AuditError String
  | [] => .ok chain
  | entry :: rest =>
    if entry.seq ≠ expectedSeq then
      .error (.value ("audit chain has a sequence gap at " ++ toString expectedSeq))
    else if entry.prevDigest ≠ chain then .error (.value (broken entry))
    else
      match auditChainDigest sha256 chain entry.recordDigest with
      | none => .error .unicodeEncode
      | some next => verifyLinks broken (expectedSeq + 1) next rest

/-- `verify_audit_chain_from_genesis`. -/
def verifyAuditChainFromGenesis (entries : List AuditLog) (genesis : String) :
    Except AuditError String :=
  let rows := sortOn AuditLog.seq entries
  verifyLinks sha256
    (fun entry => "audit chain broken at seq " ++ toString entry.seq ++
      ": forged or dropped prev_digest")
    ((rows.head?.map AuditLog.seq).getD 0) genesis rows

/-- `verify_audit_chain_from_checkpoint`. -/
def verifyAuditChainFromCheckpoint (entries : List AuditLog) (checkpoint : AuditCheckpoint)
    (genesis : String) : Except AuditError String := do
  let tail := entries.filter fun row => checkpoint.throughSeq < row.seq
  let _ ← verifyLinks sha256
    (fun entry => "audit chain broken at seq " ++ toString entry.seq ++ " after checkpoint " ++
      toString checkpoint.checkpointSeq)
    (checkpoint.throughSeq + 1) checkpoint.checkpointDigest (sortOn AuditLog.seq tail)
  let head := entries.filter fun row => row.seq ≤ checkpoint.throughSeq
  let recomputed ← verifyAuditChainFromGenesis sha256 head genesis
  require (recomputed = checkpoint.checkpointDigest)
    (.value ("audit chain does not reproduce checkpoint " ++ toString checkpoint.checkpointSeq))
  return genesis

end Verify

/-! ## Appending -/

/-- The table, and the last number that PostgreSQL's serial has given. -/
structure AuditStore where
  rows : List AuditLog
  serial : Int

/-- The store migration `0001` leaves. -/
def AuditStore.migrated : AuditStore := ⟨[], 0⟩

/-- What a caller appends, apart from the digest of the chain. -/
structure AuditEntry where
  occurredAtMs : Int
  actorPrincipalId : String
  action : String
  subjectType : String
  subjectId : String
  recordDigest : String
  deriving DecidableEq

namespace AuditStore

/-- The number the engine gives to the next row. -/
def nextSeq (dialect : Dialect) (s : AuditStore) : Int :=
  match dialect with
  | .sqlite => ((s.rows.map AuditLog.seq).max?.getD 0) + 1
  | .postgres => s.serial + 1

/-- `AuditRepository.append`. -/
def append (dialect : Dialect) (s : AuditStore) (e : AuditEntry) (prevDigest : String) :
    Except StorageFault (AuditLog × AuditStore) := do
  requireHex64 e.recordDigest "record_digest"
  requireHex64 prevDigest "prev_digest"
  let row : AuditLog :=
    { seq := s.nextSeq dialect
      occurredAtMs := e.occurredAtMs
      actorPrincipalId := e.actorPrincipalId
      action := e.action
      subjectType := e.subjectType
      subjectId := e.subjectId
      recordDigest := e.recordDigest
      prevDigest := prevDigest }
  return (row, ⟨s.rows ++ [row], match dialect with
    | .sqlite => s.serial
    | .postgres => row.seq⟩)

end AuditStore

/-! ## Units of work -/

/-- A unit of work appends entries, and commits or rolls back. -/
structure AuditUnit where
  entries : List AuditEntry
  commits : Bool

section Run

variable (sha256 : Bytes → String) (dialect : Dialect)

/-- The digest of the chain over some rows. -/
def chainDigest (rows : List AuditLog) : Option String :=
  rows.foldlM (fun chain row => auditChainDigest sha256 chain row.recordDigest) genesisDigest

/-- The appends of a unit, each with the digest of the chain so far, until one raises. -/
def AuditUnit.work (s : AuditStore) : List AuditEntry → AuditStore × Bool
  | [] => (s, true)
  | e :: rest =>
    match chainDigest sha256 s.rows with
    | none => (s, false)
    | some prevDigest =>
      match s.append dialect e prevDigest with
      | .error _ => (s, false)
      | .ok (_, s') => AuditUnit.work s' rest

/-- A unit of work. A rollback takes the rows back, and not the serial. -/
def AuditUnit.run (s : AuditStore) (u : AuditUnit) : AuditStore :=
  let (s', ok) := AuditUnit.work sha256 dialect s u.entries
  if ok && u.commits then s' else ⟨s.rows, s'.serial⟩

/-- The store after a history. -/
def auditHistory (units : List AuditUnit) : AuditStore :=
  units.foldl (AuditUnit.run sha256 dialect) .migrated

end Run

/-! ## What the verifiers accept -/

/-- What the chain covers of a row. -/
def AuditLog.contents (row : AuditLog) : String × String := (row.prevDigest, row.recordDigest)

/-- The rows have the numbers from one on. -/
def Contiguous : Int → List AuditLog → Prop
  | _, [] => True
  | expected, row :: rest => row.seq = expected ∧ Contiguous (expected + 1) rest

/-- The rows have consecutive numbers. -/
def Consecutive (rows : List AuditLog) : Prop := ∃ first, Contiguous first rows

theorem contiguous_append {e : Int} {a b : List AuditLog} :
    Contiguous e (a ++ b) ↔ Contiguous e a ∧ Contiguous (e + a.length) b := by
  induction a generalizing e with
  | nil => simp [Contiguous]
  | cons row rest ih =>
    simp only [List.cons_append, Contiguous, ih, List.length_cons, and_assoc]
    have hshift : e + 1 + (rest.length : Int) = e + ((rest.length + 1 : Nat) : Int) := by
      push_cast
      omega
    rw [hshift]

theorem Contiguous.le_seq {e : Int} {rows : List AuditLog} (h : Contiguous e rows) :
    ∀ row ∈ rows, e ≤ row.seq ∧ row.seq < e + rows.length := by
  induction rows generalizing e with
  | nil => exact fun _ hr => (by cases hr)
  | cons row rest ih =>
    obtain ⟨hseq, hrest⟩ := h
    intro r hr
    rw [List.length_cons]
    rcases List.mem_cons.mp hr with rfl | hr
    · omega
    · have := ih hrest r hr
      omega

theorem Contiguous.pairwise {e : Int} {rows : List AuditLog} (h : Contiguous e rows) :
    rows.Pairwise fun r r' => r.seq < r'.seq := by
  induction rows generalizing e with
  | nil => exact .nil
  | cons row rest ih =>
    obtain ⟨hseq, hrest⟩ := h
    refine .cons (fun r hr => ?_) (ih hrest)
    have := hrest.le_seq r hr
    omega

theorem Contiguous.exists_seq_iff {e k : Int} {rows : List AuditLog} (h : Contiguous e rows) :
    (∃ row ∈ rows, row.seq = k) ↔ e ≤ k ∧ k < e + rows.length := by
  constructor
  · rintro ⟨row, hrow, rfl⟩
    exact h.le_seq row hrow
  · induction rows generalizing e with
    | nil =>
      intro hk
      simp only [List.length_nil] at hk
      omega
    | cons row rest ih =>
      obtain ⟨rfl, hrest⟩ := h
      intro hk
      rw [List.length_cons] at hk
      by_cases heq : row.seq = k
      · exact ⟨row, List.mem_cons_self, heq⟩
      · obtain ⟨r, hr, hseq⟩ := ih hrest (by omega)
        exact ⟨r, List.mem_cons_of_mem _ hr, hseq⟩

/-- The first number is that of the first row. -/
theorem consecutive_iff {rows : List AuditLog} :
    Consecutive rows ↔ Contiguous ((rows.head?.map AuditLog.seq).getD 0) rows := by
  constructor
  · rintro ⟨first, h⟩
    cases rows with
    | nil => trivial
    | cons row rest =>
      obtain ⟨rfl, hrest⟩ := h
      exact ⟨rfl, hrest⟩
  · intro h
    exact ⟨_, h⟩

section Accepts

variable {sha256 : Bytes → String} {entries : List AuditLog} {checkpoint : AuditCheckpoint}
  {genesis d : String}

/-- The rows lead from one chain digest to another. -/
abbrev Leads (sha256 : Bytes → String) (c : String) (rows : List AuditLog) (d : String) : Prop :=
  HashChain.Linked (auditChainDigest sha256) c (rows.map AuditLog.contents) d

theorem leads_append {c : String} {a b : List AuditLog} :
    Leads sha256 c (a ++ b) d ↔ ∃ e, Leads sha256 c a e ∧ Leads sha256 e b d := by
  unfold Leads
  rw [List.map_append]
  exact HashChain.linked_append

theorem verifyLinks_eq_ok_iff {broken : AuditLog → String} {e : Int} {c : String}
    {rows : List AuditLog} :
    verifyLinks sha256 broken e c rows = .ok d ↔ Contiguous e rows ∧ Leads sha256 c rows d := by
  induction rows generalizing e c with
  | nil =>
    simp only [verifyLinks, Contiguous, Leads, List.map_nil, HashChain.Linked, true_and,
      Except.ok.injEq]
    exact eq_comm
  | cons row rest ih =>
    simp only [verifyLinks, Contiguous, Leads, List.map_cons, HashChain.Linked, AuditLog.contents]
    by_cases hseq : row.seq = e
    · by_cases hprev : row.prevDigest = c
      · rw [if_neg (not_not.mpr hseq), if_neg (not_not.mpr hprev)]
        cases hlink : auditChainDigest sha256 c row.recordDigest with
        | none => simp
        | some next =>
          simp only [ih, hseq, hprev, true_and, Option.some.injEq, exists_eq_left']
      · rw [if_neg (not_not.mpr hseq), if_pos hprev]
        simp [hprev]
    · rw [if_pos hseq]
      simp [hseq]

/-- **What the genesis verifier accepts.** -/
theorem fromGenesis_eq_ok_iff : verifyAuditChainFromGenesis sha256 entries genesis = .ok d ↔
    Consecutive (sortOn AuditLog.seq entries) ∧
      Leads sha256 genesis (sortOn AuditLog.seq entries) d := by
  rw [consecutive_iff]
  exact verifyLinks_eq_ok_iff

/-- The rows through the checkpoint, in the order of their numbers. -/
def rowsThrough (checkpoint : AuditCheckpoint) (entries : List AuditLog) : List AuditLog :=
  sortOn AuditLog.seq (entries.filter fun row => row.seq ≤ checkpoint.throughSeq)

/-- The rows after the checkpoint, in the order of their numbers. -/
def rowsAfter (checkpoint : AuditCheckpoint) (entries : List AuditLog) : List AuditLog :=
  sortOn AuditLog.seq (entries.filter fun row => checkpoint.throughSeq < row.seq)

/-- **What the checkpoint verifier accepts.** -/
theorem fromCheckpoint_eq_ok_iff :
    (∃ d, verifyAuditChainFromCheckpoint sha256 entries checkpoint genesis = .ok d) ↔
      Consecutive (rowsThrough checkpoint entries) ∧
        Leads sha256 genesis (rowsThrough checkpoint entries) checkpoint.checkpointDigest ∧
        Contiguous (checkpoint.throughSeq + 1) (rowsAfter checkpoint entries) ∧
        ∃ d, Leads sha256 checkpoint.checkpointDigest (rowsAfter checkpoint entries) d := by
  simp only [verifyAuditChainFromCheckpoint, bind_eq_ok_iff, verifyLinks_eq_ok_iff,
    fromGenesis_eq_ok_iff, require_eq_ok_iff, exists_unit_and_iff, pure_eq_ok, Except.ok.injEq]
  constructor
  · rintro ⟨-, d, ⟨hafter, htail⟩, c, ⟨hthrough, hhead⟩, rfl, -⟩
    exact ⟨hthrough, hhead, hafter, d, htail⟩
  · rintro ⟨hthrough, hhead, hafter, d, htail⟩
    exact ⟨genesis, d, ⟨hafter, htail⟩, _, ⟨hthrough, hhead⟩, rfl, rfl⟩

end Accepts

/-! ## What a unit of work leaves -/

namespace AuditUnit

/-- The entries that draw a number: those before the first digest that is not hexadecimal. -/
def drawn (u : AuditUnit) : List AuditEntry := u.entries.takeWhile fun e => isHex64 e.recordDigest

/-- The entries whose rows stay. -/
def kept (u : AuditUnit) : List AuditEntry :=
  if u.commits ∧ u.drawn.length = u.entries.length then u.drawn else []

/-- How many numbers the unit uses up. -/
def used (dialect : Dialect) (u : AuditUnit) : Nat :=
  match dialect with
  | .sqlite => u.kept.length
  | .postgres => u.drawn.length

/-- The unit uses up numbers of the serial and leaves no row. -/
def Skips (dialect : Dialect) (u : AuditUnit) : Prop := u.kept = [] ∧ u.used dialect ≠ 0

theorem used_of_kept {dialect : Dialect} {u : AuditUnit} (h : u.kept ≠ []) :
    u.used dialect = u.kept.length := by
  cases dialect with
  | sqlite => rfl
  | postgres =>
    unfold kept at h ⊢
    split at h
    · rename_i hall
      rw [if_pos hall]
      rfl
    · exact absurd rfl h

end AuditUnit

section Runs

variable {sha256 : Bytes → String} {dialect : Dialect}

theorem encodeAscii_of_isHex64 {text : String} (h : isHex64 text = true) :
    ∃ b, encodeAscii text.toList = some b := by
  refine ⟨_, if_pos (List.all_eq_true.mpr fun c hc => ?_)⟩
  have hrange := CredentialVerifier.toNat_of_isLowerHex (CredentialVerifier.isLowerHex_of_isHex64 h hc)
  rw [decide_eq_true_eq]
  omega

/-- Two hexadecimal digests have a link, and it is hexadecimal. -/
theorem exists_auditChainDigest (hsha : ∀ b, isHex64 (sha256 b) = true) {c r : String}
    (hc : isHex64 c = true) (hr : isHex64 r = true) :
    ∃ d, auditChainDigest sha256 c r = some d ∧ isHex64 d = true := by
  obtain ⟨prev, hprev⟩ := encodeAscii_of_isHex64 hc
  obtain ⟨record, hrecord⟩ := encodeAscii_of_isHex64 hr
  refine ⟨sha256 (prev ++ record), ?_, hsha _⟩
  unfold auditChainDigest
  rw [hprev, hrecord]
  rfl

theorem chainDigest_of_leads {rows : List AuditLog} {c d : String} (h : Leads sha256 c rows d) :
    rows.foldlM (fun chain row => auditChainDigest sha256 chain row.recordDigest) c = some d := by
  induction rows generalizing c with
  | nil => exact congrArg some (Eq.symm h)
  | cons row rest ih =>
    obtain ⟨hprev, next, hlink, hrest⟩ := h
    have hrow : auditChainDigest sha256 c row.recordDigest = some next := hlink
    rw [List.foldlM_cons, hrow]
    exact ih hrest

/-- The rows lead from the genesis digest to a hexadecimal digest. -/
structure AuditStore.Chained (sha256 : Bytes → String) (s : AuditStore) (d : String) : Prop where
  leads : Leads sha256 genesisDigest s.rows d
  hex : isHex64 d = true

theorem nextSeq_append {s s' : AuditStore} {e : AuditEntry} {d : String} {row : AuditLog}
    (h : s.append dialect e d = .ok (row, s')) :
    row.seq = s.nextSeq dialect ∧ row.contents = (d, e.recordDigest) ∧ s'.rows = s.rows ++ [row] ∧
      s'.nextSeq dialect = s.nextSeq dialect + 1 := by
  simp only [AuditStore.append, bind_eq_ok_iff, exists_unit_and_iff, pure_eq_ok, Except.ok.injEq,
    Prod.mk.injEq] at h
  obtain ⟨-, -, rfl, rfl⟩ := h
  refine ⟨rfl, rfl, rfl, ?_⟩
  cases dialect with
  | postgres => rfl
  | sqlite =>
    simp only [AuditStore.nextSeq, List.map_append, List.map_cons, List.map_nil]
    cases hmax : (s.rows.map AuditLog.seq).max? with
    | none =>
      rw [List.max?_eq_none_iff.mp hmax]
      rfl
    | some m =>
      have hle := (List.max?_eq_some_iff.mp hmax).2
      have hnew : (s.rows.map AuditLog.seq ++ [m + 1]).max? = some (m + 1) := by
        refine List.max?_eq_some_iff.mpr ⟨by simp, fun k hk => ?_⟩
        rcases List.mem_append.mp hk with hk | hk
        · have := hle k hk
          omega
        · exact (List.mem_singleton.mp hk).le
      rw [Option.getD_some, hnew]
      rfl

variable (dialect) in
/-- **An append of a hexadecimal digest** adds one row under the next number, and the chain goes on. -/
theorem append_spec (hsha : ∀ b, isHex64 (sha256 b) = true) {s : AuditStore} {d : String}
    (hs : s.Chained sha256 d) {e : AuditEntry} (he : isHex64 e.recordDigest = true) :
    ∃ row s' d', s.append dialect e d = .ok (row, s') ∧ s'.Chained sha256 d' ∧
      s'.rows = s.rows ++ [row] ∧ row.seq = s.nextSeq dialect ∧
      s'.nextSeq dialect = s.nextSeq dialect + 1 := by
  have happend : ∃ row s', s.append dialect e d = .ok (row, s') := by
    simp only [AuditStore.append, requireHex64, bind_eq_ok_iff, require_eq_ok_iff,
      exists_unit_and_iff, pure_eq_ok, Except.ok.injEq, Prod.mk.injEq]
    exact ⟨_, _, he, hs.hex, rfl, rfl⟩
  obtain ⟨row, s', happend⟩ := happend
  obtain ⟨hseq, hcontents, hrows, hnext⟩ := nextSeq_append happend
  obtain ⟨d', hlink, hhex⟩ := exists_auditChainDigest hsha hs.hex he
  refine ⟨row, s', d', happend, ⟨?_, hhex⟩, hrows, hseq, hnext⟩
  rw [hrows]
  unfold Leads
  rw [List.map_append, List.map_singleton, HashChain.linked_concat, hcontents]
  exact ⟨hs.leads, hlink⟩

variable (dialect) in
/-- **The appends of a unit** add a row for every entry that draws a number, under the next numbers. -/
theorem work_spec (hsha : ∀ b, isHex64 (sha256 b) = true) {s : AuditStore} {d : String}
    (hs : s.Chained sha256 d) (entries : List AuditEntry) :
    ∃ new s' d', AuditUnit.work sha256 dialect s entries =
        (s', decide ((entries.takeWhile fun e => isHex64 e.recordDigest).length = entries.length)) ∧
      s'.Chained sha256 d' ∧ s'.rows = s.rows ++ new ∧ Contiguous (s.nextSeq dialect) new ∧
      new.length = (entries.takeWhile fun e => isHex64 e.recordDigest).length ∧
      s'.nextSeq dialect = s.nextSeq dialect + new.length := by
  induction entries generalizing s d with
  | nil => exact ⟨[], s, d, rfl, hs, by simp, trivial, rfl, by simp⟩
  | cons e rest ih =>
    have hdigest : chainDigest sha256 s.rows = some d := chainDigest_of_leads hs.leads
    by_cases he : isHex64 e.recordDigest = true
    · obtain ⟨row, s₁, d₁, happend, hs₁, hrows, hseq, hnext⟩ := append_spec dialect hsha hs he
      obtain ⟨new, s', d', hwork, hs', hrows', hnew, hlen, hnext'⟩ := ih hs₁
      refine ⟨row :: new, s', d', ?_, hs', ?_, ⟨hseq, ?_⟩, ?_, ?_⟩
      · simp only [AuditUnit.work, hdigest, happend, hwork, List.takeWhile_cons, he, if_true,
          List.length_cons, Nat.add_right_cancel_iff]
      · rw [hrows', hrows, List.append_assoc]
        rfl
      · rw [← hnext]
        exact hnew
      · rw [List.takeWhile_cons, if_pos he, List.length_cons, List.length_cons, hlen]
      · rw [hnext', hnext, List.length_cons]
        push_cast
        omega
    · have hraise : ∃ fault, s.append dialect e d = .error fault := by
        simp only [AuditStore.append, requireHex64, Check.require, if_neg he]
        exact ⟨_, rfl⟩
      obtain ⟨fault, hraise⟩ := hraise
      refine ⟨[], s, d, ?_, hs, by simp, trivial, ?_, by simp⟩
      · simp only [AuditUnit.work, hdigest, hraise, List.takeWhile_cons, if_neg he]
        simp
      · rw [List.takeWhile_cons, if_neg he]
        rfl

variable (dialect) in
/-- **A unit of work** leaves a row for every entry it keeps, and uses up its numbers. -/
theorem run_spec (hsha : ∀ b, isHex64 (sha256 b) = true) {s : AuditStore} {d : String}
    (hs : s.Chained sha256 d) (u : AuditUnit) :
    ∃ new d', (u.run sha256 dialect s).Chained sha256 d' ∧
      (u.run sha256 dialect s).rows = s.rows ++ new ∧ Contiguous (s.nextSeq dialect) new ∧
      new.length = u.kept.length ∧
      (u.run sha256 dialect s).nextSeq dialect = s.nextSeq dialect + u.used dialect := by
  obtain ⟨new, s', d', hwork, hs', hrows, hnew, hlen, hnext⟩ :=
    work_spec dialect hsha hs u.entries
  simp only [AuditUnit.run, hwork]
  by_cases hcommit : u.commits ∧ u.drawn.length = u.entries.length
  · have hkept : u.kept = u.drawn := if_pos hcommit
    have hused : u.used dialect = new.length := by
      rw [hlen]
      cases dialect with
      | sqlite => exact congrArg List.length hkept
      | postgres => rfl
    have hok : (decide ((u.entries.takeWhile fun e => isHex64 e.recordDigest).length =
        u.entries.length) && u.commits) = true := by
      rw [Bool.and_eq_true, decide_eq_true_eq]
      exact ⟨hcommit.2, hcommit.1⟩
    rw [if_pos hok, hused, hkept]
    exact ⟨new, d', hs', hrows, hnew, hlen, hnext⟩
  · have hkept : u.kept = [] := if_neg hcommit
    have hno : ¬(decide ((u.entries.takeWhile fun e => isHex64 e.recordDigest).length =
        u.entries.length) && u.commits) = true := by
      rw [Bool.and_eq_true, decide_eq_true_eq]
      exact fun h => hcommit ⟨h.2, h.1⟩
    rw [if_neg hno, hkept]
    refine ⟨[], d, ⟨hs.leads, hs.hex⟩, by simp, trivial, rfl, ?_⟩
    cases dialect with
    | sqlite =>
      rw [AuditUnit.used, hkept]
      simp [AuditStore.nextSeq]
    | postgres =>
      rw [AuditUnit.used, AuditUnit.drawn, ← hlen]
      exact hnext

/-! ## Histories -/

/-- The rows of a history, unit by unit, with the number the first unit draws first. -/
def Numbered (dialect : Dialect) : Int → List AuditUnit → List AuditLog → Prop
  | _, [], rows => rows = []
  | next, u :: rest, rows => ∃ block later, rows = block ++ later ∧ Contiguous next block ∧
      block.length = u.kept.length ∧ Numbered dialect (next + u.used dialect) rest later

variable (dialect) in
theorem foldl_run_spec (hsha : ∀ b, isHex64 (sha256 b) = true) (units : List AuditUnit)
    {s : AuditStore} {d : String} (hs : s.Chained sha256 d) :
    ∃ new d', (units.foldl (AuditUnit.run sha256 dialect) s).Chained sha256 d' ∧
      (units.foldl (AuditUnit.run sha256 dialect) s).rows = s.rows ++ new ∧
      Numbered dialect (s.nextSeq dialect) units new := by
  induction units generalizing s d with
  | nil => exact ⟨[], d, hs, by simp, rfl⟩
  | cons u rest ih =>
    obtain ⟨block, d₁, hs₁, hrows, hblock, hlen, hnext⟩ := run_spec dialect hsha hs u
    obtain ⟨later, d', hs', hrows', hlater⟩ := ih hs₁
    refine ⟨block ++ later, d', hs', ?_, block, later, rfl, hblock, hlen, hnext ▸ hlater⟩
    rw [List.foldl_cons, hrows', hrows, List.append_assoc]

variable (dialect) in
/-- **A history** leaves its rows, and they lead from the genesis digest. -/
theorem history_spec (hsha : ∀ b, isHex64 (sha256 b) = true) (units : List AuditUnit) :
    (∃ d, Leads sha256 genesisDigest (auditHistory sha256 dialect units).rows d) ∧
      Numbered dialect 1 units (auditHistory sha256 dialect units).rows := by
  have hgenesis : AuditStore.migrated.Chained sha256 genesisDigest := ⟨rfl, by decide⟩
  obtain ⟨new, d, hs, hrows, hnew⟩ := foldl_run_spec dialect hsha units hgenesis
  have hfirst : AuditStore.migrated.nextSeq dialect = 1 := by
    cases dialect <;> rfl
  rw [hfirst] at hnew
  refine ⟨⟨d, hs.leads⟩, ?_⟩
  unfold auditHistory
  rw [hrows]
  exact hnew

theorem Numbered.le_seq {next : Int} {units : List AuditUnit} {rows : List AuditLog}
    (h : Numbered dialect next units rows) : ∀ row ∈ rows, next ≤ row.seq := by
  induction units generalizing next rows with
  | nil =>
    obtain rfl : rows = [] := h
    exact fun _ hr => (by cases hr)
  | cons u rest ih =>
    obtain ⟨block, later, rfl, hblock, -, hlater⟩ := h
    intro r hr
    rcases List.mem_append.mp hr with hr | hr
    · exact (hblock.le_seq r hr).1
    · have := ih hlater r hr
      omega

/-- A unit with a row uses up as many numbers as it has rows. -/
theorem used_eq_length {u : AuditUnit} {block : List AuditLog} {r : AuditLog}
    (hlen : block.length = u.kept.length) (hr : r ∈ block) : u.used dialect = block.length := by
  rw [hlen]
  refine AuditUnit.used_of_kept fun hnil => ?_
  rw [hnil, List.length_nil, List.length_eq_zero_iff] at hlen
  subst hlen
  cases hr

theorem Numbered.pairwise {next : Int} {units : List AuditUnit} {rows : List AuditLog}
    (h : Numbered dialect next units rows) : rows.Pairwise fun r r' => r.seq < r'.seq := by
  induction units generalizing next rows with
  | nil =>
    obtain rfl : rows = [] := h
    exact .nil
  | cons u rest ih =>
    obtain ⟨block, later, rfl, hblock, hlen, hlater⟩ := h
    refine List.pairwise_append.mpr ⟨hblock.pairwise, ih hlater, fun r hr r' hr' => ?_⟩
    have hlt := (hblock.le_seq r hr).2
    have hle := hlater.le_seq r' hr'
    rw [used_eq_length hlen hr] at hle
    omega

theorem Numbered.eq_nil_iff {next : Int} {units : List AuditUnit} {rows : List AuditLog}
    (h : Numbered dialect next units rows) : rows = [] ↔ ∀ u ∈ units, u.kept = [] := by
  induction units generalizing next rows with
  | nil =>
    obtain rfl : rows = [] := h
    simp
  | cons u rest ih =>
    obtain ⟨block, later, rfl, -, hlen, hlater⟩ := h
    rw [List.append_eq_nil_iff, ih hlater, List.forall_mem_cons, ← List.length_eq_zero_iff (l := block),
      hlen, List.length_eq_zero_iff]

/-- A split of the history splits its rows at a number. -/
theorem Numbered.split {next : Int} {a b : List AuditUnit} {rows : List AuditLog}
    (h : Numbered dialect next (a ++ b) rows) :
    ∃ mid before after, rows = before ++ after ∧ Numbered dialect next a before ∧
      Numbered dialect mid b after ∧ next ≤ mid ∧ ∀ row ∈ before, row.seq < mid := by
  induction a generalizing next rows with
  | nil => exact ⟨next, [], rows, rfl, rfl, h, le_rfl, fun _ hr => (by cases hr)⟩
  | cons u rest ih =>
    obtain ⟨block, later, rfl, hblock, hlen, hlater⟩ := h
    obtain ⟨mid, before, after, rfl, hbefore, hafter, hle, hlt⟩ := ih hlater
    refine ⟨mid, block ++ before, after, (List.append_assoc ..).symm,
      ⟨block, before, rfl, hblock, hlen, hbefore⟩, hafter, by omega, fun row hrow => ?_⟩
    rcases List.mem_append.mp hrow with hrow | hrow
    · have := (hblock.le_seq row hrow).2
      rw [used_eq_length hlen hrow] at hle
      omega
    · exact hlt row hrow

/-- No unit that skips numbers has a row before it and a row after it. -/
def Unbroken (dialect : Dialect) (units : List AuditUnit) : Prop :=
  ∀ a u b, units = a ++ u :: b → u.Skips dialect →
    (∀ v ∈ a, v.kept = []) ∨ ∀ v ∈ b, v.kept = []

/-- On SQLite, every history is unbroken. -/
theorem unbroken_sqlite (units : List AuditUnit) : Unbroken .sqlite units := by
  rintro a u b - ⟨hkept, hused⟩
  refine absurd ?_ hused
  show u.kept.length = 0
  rw [hkept, List.length_nil]

theorem Unbroken.tail {u : AuditUnit} {rest : List AuditUnit} (h : Unbroken dialect (u :: rest)) :
    Unbroken dialect rest := by
  intro a v b hsplit hskip
  have hcases := h (u :: a) v b (by rw [hsplit]; rfl) hskip
  exact hcases.imp_left fun hall w hw => hall w (List.mem_cons_of_mem _ hw)

/-- Where no unit before a row skips numbers, the rows have no gap. -/
theorem Numbered.contiguous {next : Int} {units : List AuditUnit} {rows : List AuditLog}
    (h : Numbered dialect next units rows)
    (htight : ∀ a u b, units = a ++ u :: b → u.Skips dialect → ∀ v ∈ b, v.kept = []) :
    Contiguous next rows := by
  induction units generalizing next rows with
  | nil =>
    obtain rfl : rows = [] := h
    trivial
  | cons u rest ih =>
    obtain ⟨block, later, rfl, hblock, hlen, hlater⟩ := h
    rw [contiguous_append]
    refine ⟨hblock, ?_⟩
    by_cases hskip : u.Skips dialect
    · have hnone := htight [] u rest rfl hskip
      rw [hlater.eq_nil_iff.mpr hnone]
      trivial
    · have hused : u.used dialect = block.length := by
        by_cases hkept : u.kept = []
        · rw [hlen, hkept]
          exact not_not.mp fun hne => hskip ⟨hkept, hne⟩
        · rw [hlen, AuditUnit.used_of_kept hkept]
      rw [← hused]
      refine ih hlater fun a v b hsplit hv => htight (u :: a) v b ?_ hv
      rw [hsplit]
      rfl

/-- **When the rows of a history have no gap.** -/
theorem Numbered.consecutive_iff {next : Int} {units : List AuditUnit} {rows : List AuditLog}
    (h : Numbered dialect next units rows) : Consecutive rows ↔ Unbroken dialect units := by
  constructor
  · rintro ⟨first, hrows⟩ a u b rfl hskip
    obtain ⟨mid, before, after, rfl, hbefore, ⟨block, later, rfl, hblock, hlen, hlater⟩, -, hlt⟩ :=
      h.split
    rw [← hbefore.eq_nil_iff, ← hlater.eq_nil_iff]
    by_contra hboth
    rw [not_or] at hboth
    obtain ⟨r, hr⟩ := List.exists_mem_of_ne_nil _ hboth.1
    obtain ⟨r', hr'⟩ := List.exists_mem_of_ne_nil _ hboth.2
    have hblock : block = [] := by
      rw [← List.length_eq_zero_iff, hlen, hskip.1]
      rfl
    subst hblock
    -- The first number that the unit used up lies between the two rows.
    have hr_lt := hlt r hr
    have hle_r' := hlater.le_seq r' hr'
    have hused := hskip.2
    have hfirst := hrows.le_seq r (by simp [hr])
    have hlast := hrows.le_seq r' (by simp [hr'])
    obtain ⟨row, hrow, hmid⟩ :=
      hrows.exists_seq_iff.mpr ⟨hfirst.1.trans hr_lt.le, (by omega : mid < _)⟩
    rw [List.nil_append] at hrow
    rcases List.mem_append.mp hrow with hrow | hrow
    · have := hlt row hrow
      omega
    · have := hlater.le_seq row hrow
      omega
  · intro hunbroken
    induction units generalizing next rows with
    | nil =>
      obtain rfl : rows = [] := h
      exact ⟨0, trivial⟩
    | cons u rest ih =>
      by_cases hkept : u.kept = []
      · obtain ⟨block, later, rfl, -, hlen, hlater⟩ := h
        obtain rfl : block = [] := by
          rw [← List.length_eq_zero_iff, hlen, hkept]
          rfl
        exact ih hlater hunbroken.tail
      · refine ⟨next, h.contiguous fun a v b hsplit hskip => ?_⟩
        refine (hunbroken a v b hsplit hskip).resolve_left fun hall => ?_
        cases a with
        | nil =>
          obtain ⟨rfl, -⟩ := List.cons.inj hsplit
          exact hkept hskip.1
        | cons w a =>
          obtain ⟨rfl, -⟩ := List.cons.inj hsplit
          exact hkept (hall u List.mem_cons_self)

end Runs

/-! ## Verification -/

section Verification

variable (sha256 : Bytes → String)

/-- The checkpoint holds the chain digest through one of the rows. -/
structure HoldsDigest (rows : List AuditLog) (checkpoint : AuditCheckpoint) : Prop where
  row : ∃ row ∈ rows, row.seq = checkpoint.throughSeq
  digest : chainDigest sha256 (rowsThrough checkpoint rows) = some checkpoint.checkpointDigest

/-- Both verifiers accept the rows of a history. -/
structure AcceptsHonest (dialect : Dialect) (units : List AuditUnit) : Prop where
  genesis : ∃ d, verifyAuditChainFromGenesis sha256 (auditHistory sha256 dialect units).rows
    genesisDigest = .ok d
  checkpoint : ∀ cp, HoldsDigest sha256 (auditHistory sha256 dialect units).rows cp →
    ∃ d, verifyAuditChainFromCheckpoint sha256 (auditHistory sha256 dialect units).rows cp
      genesisDigest = .ok d

/-- Where there are rows on both sides of the checkpoint, there is one at it. -/
def Joined (entries : List AuditLog) (checkpoint : AuditCheckpoint) : Prop :=
  rowsThrough checkpoint entries ≠ [] → rowsAfter checkpoint entries ≠ [] →
    ∃ row ∈ entries, row.seq = checkpoint.throughSeq

variable {sha256} {dialect : Dialect} {entries : List AuditLog} {checkpoint : AuditCheckpoint}

theorem mem_rowsThrough {row : AuditLog} :
    row ∈ rowsThrough checkpoint entries ↔ row ∈ entries ∧ row.seq ≤ checkpoint.throughSeq := by
  unfold rowsThrough
  rw [SortOn.mem_iff, List.mem_filter, decide_eq_true_eq]

theorem mem_rowsAfter {row : AuditLog} :
    row ∈ rowsAfter checkpoint entries ↔ row ∈ entries ∧ checkpoint.throughSeq < row.seq := by
  unfold rowsAfter
  rw [SortOn.mem_iff, List.mem_filter, decide_eq_true_eq]

theorem rowsThrough_append {before after : List AuditLog}
    (hsorted : (before ++ after).Pairwise fun r r' => r.seq < r'.seq)
    (hbefore : ∀ r ∈ before, r.seq ≤ checkpoint.throughSeq)
    (hafter : ∀ r ∈ after, checkpoint.throughSeq < r.seq) :
    rowsThrough checkpoint (before ++ after) = before ∧
      rowsAfter checkpoint (before ++ after) = after := by
  have hpairs := List.pairwise_append.mp hsorted
  unfold rowsThrough rowsAfter
  constructor
  · have hnone : after.filter (fun row => decide (row.seq ≤ checkpoint.throughSeq)) = [] :=
      List.filter_eq_nil_iff.mpr fun r hr => by simp [hafter r hr]
    rw [List.filter_append, hnone, List.append_nil, List.filter_eq_self.mpr (by simpa using hbefore)]
    exact SortOn.eq_self _ (hpairs.1.imp fun hlt => hlt.le)
  · have hnone : before.filter (fun row => decide (checkpoint.throughSeq < row.seq)) = [] :=
      List.filter_eq_nil_iff.mpr fun r hr => by simp [hbefore r hr]
    rw [List.filter_append, hnone, List.nil_append, List.filter_eq_self.mpr (by simpa using hafter)]
    exact SortOn.eq_self _ (hpairs.2.1.imp fun hlt => hlt.le)

/-- A checkpoint that holds a digest splits the rows after the one it names. -/
theorem HoldsDigest.split {rows : List AuditLog} (h : HoldsDigest sha256 rows checkpoint)
    (hsorted : rows.Pairwise fun r r' => r.seq < r'.seq) :
    ∃ before row after, rows = (before ++ [row]) ++ after ∧ row.seq = checkpoint.throughSeq ∧
      rowsThrough checkpoint rows = before ++ [row] ∧ rowsAfter checkpoint rows = after := by
  obtain ⟨row, hrow, hseq⟩ := h.row
  obtain ⟨before, after, rfl⟩ := List.append_of_mem hrow
  rw [show before ++ row :: after = (before ++ [row]) ++ after by simp] at hsorted ⊢
  have hpairs := List.pairwise_append.mp hsorted
  have hlast := List.pairwise_append.mp hpairs.1
  refine ⟨before, row, after, rfl, hseq, rowsThrough_append hsorted (fun r hr => ?_) fun r hr => ?_⟩
  · rw [← hseq]
    rcases List.mem_append.mp hr with hr | hr
    · exact (hlast.2.2 r hr row List.mem_cons_self).le
    · rw [List.mem_singleton.mp hr]
  · rw [← hseq]
    exact hpairs.2.2 row (by simp) r hr

theorem HoldsDigest.leads {rows : List AuditLog} {d : String}
    (h : HoldsDigest sha256 rows checkpoint) (hsorted : rows.Pairwise fun r r' => r.seq < r'.seq)
    (hleads : Leads sha256 genesisDigest rows d) :
    Leads sha256 genesisDigest (rowsThrough checkpoint rows) checkpoint.checkpointDigest ∧
      Leads sha256 checkpoint.checkpointDigest (rowsAfter checkpoint rows) d := by
  have hdigest := h.digest
  obtain ⟨before, row, after, hrows, -, hhead, htail⟩ := h.split hsorted
  rw [hrows] at hleads
  obtain ⟨c, hlead, hrest⟩ := leads_append.mp hleads
  rw [hhead] at hdigest ⊢
  have hc : checkpoint.checkpointDigest = c :=
    Option.some.inj (hdigest.symm.trans (chainDigest_of_leads hlead))
  rw [htail, hc]
  exact ⟨hlead, hrest⟩

/-- **Both verifiers accept the rows of a history where it is unbroken, and only there.** -/
theorem acceptsHonest_iff (hsha : ∀ b, isHex64 (sha256 b) = true) (units : List AuditUnit) :
    AcceptsHonest sha256 dialect units ↔ Unbroken dialect units := by
  obtain ⟨⟨d, hleads⟩, hnumbered⟩ := history_spec dialect hsha units
  generalize hstore : (auditHistory sha256 dialect units).rows = rows at hleads hnumbered
  have hsorted : sortOn AuditLog.seq rows = rows :=
    SortOn.eq_self _ (hnumbered.pairwise.imp fun hlt => hlt.le)
  have hgenesis : (∃ d, verifyAuditChainFromGenesis sha256 rows genesisDigest = .ok d) ↔
      Unbroken dialect units := by
    simp only [fromGenesis_eq_ok_iff, hsorted, hnumbered.consecutive_iff]
    exact ⟨fun h => h.choose_spec.1, fun h => ⟨d, h, hleads⟩⟩
  constructor
  · intro h
    have haccept := h.genesis
    rw [hstore] at haccept
    exact hgenesis.mp haccept
  · intro hunbroken
    refine ⟨hstore ▸ hgenesis.mpr hunbroken, ?_⟩
    rw [hstore]
    intro cp hcp
    rw [fromCheckpoint_eq_ok_iff]
    obtain ⟨hlead, hrest⟩ := hcp.leads hnumbered.pairwise hleads
    obtain ⟨before, row, after, hrows, hseq, hhead, htail⟩ := hcp.split hnumbered.pairwise
    obtain ⟨first, hcontiguous⟩ := hnumbered.consecutive_iff.mpr hunbroken
    rw [hrows] at hcontiguous
    obtain ⟨hbefore, hafter⟩ := contiguous_append.mp hcontiguous
    have hlast : row.seq = first + before.length := (contiguous_append.mp hbefore).2.1
    refine ⟨⟨first, hhead ▸ hbefore⟩, hlead, ?_, d, hrest⟩
    rw [htail, ← hseq, hlast]
    rw [List.length_append, List.length_singleton] at hafter
    push_cast at hafter
    rw [← add_assoc] at hafter
    exact hafter

theorem eq_of_seq_eq {rows : List AuditLog} (h : rows.Pairwise fun r r' => r.seq < r'.seq)
    {r r' : AuditLog} (hr : r ∈ rows) (hr' : r' ∈ rows) (hseq : r.seq = r'.seq) : r = r' := by
  have : Std.Symm fun r r' : AuditLog => r.seq = r'.seq → r = r' :=
    ⟨fun _ _ heq hseq => (heq hseq.symm).symm⟩
  have hall : rows.Pairwise fun r r' => r.seq = r'.seq → r = r' :=
    h.imp fun hlt heq => absurd heq hlt.ne
  exact hall.forall_of_forall (fun _ _ _ => rfl) hr hr' hseq

/-- Rows that the checkpoint verifier accepts are, sorted, those through it and those after it. -/
theorem sortOn_eq_append (hthrough : Consecutive (rowsThrough checkpoint entries))
    (hafter : Contiguous (checkpoint.throughSeq + 1) (rowsAfter checkpoint entries)) :
    sortOn AuditLog.seq entries = rowsThrough checkpoint entries ++ rowsAfter checkpoint entries := by
  obtain ⟨first, hthrough⟩ := hthrough
  have hpair : (rowsThrough checkpoint entries ++ rowsAfter checkpoint entries).Pairwise
      fun r r' => r.seq < r'.seq :=
    List.pairwise_append.mpr ⟨hthrough.pairwise, hafter.pairwise,
      fun r hr r' hr' => (mem_rowsThrough.mp hr).2.trans_lt (mem_rowsAfter.mp hr').2⟩
  have hperm : entries.Perm (rowsThrough checkpoint entries ++ rowsAfter checkpoint entries) := by
    apply List.Perm.symm
    refine ((SortOn.perm _ _).append (SortOn.perm _ _)).trans ?_
    have hnot : (fun row : AuditLog => decide (checkpoint.throughSeq < row.seq)) =
        fun row => !decide (row.seq ≤ checkpoint.throughSeq) := by
      funext row
      rw [← decide_not, decide_eq_decide, not_le]
    rw [hnot]
    exact List.filter_append_perm _ _
  rw [SortOn.eq_of_perm AuditLog.seq hperm fun r hr r' hr' =>
    eq_of_seq_eq hpair (hperm.mem_iff.mp hr) (hperm.mem_iff.mp hr')]
  exact SortOn.eq_self _ (hpair.imp fun h => h.le)

/-- The rows through the checkpoint and after it have no gap where they are joined. -/
theorem consecutive_append_iff (hthrough : Consecutive (rowsThrough checkpoint entries))
    (hafter : Contiguous (checkpoint.throughSeq + 1) (rowsAfter checkpoint entries)) :
    Consecutive (rowsThrough checkpoint entries ++ rowsAfter checkpoint entries) ↔
      Joined entries checkpoint := by
  obtain ⟨first, hfirst⟩ := hthrough
  have hat : (∃ row ∈ entries, row.seq = checkpoint.throughSeq) ↔
      ∃ row ∈ rowsThrough checkpoint entries, row.seq = checkpoint.throughSeq := by
    simp only [mem_rowsThrough]
    exact ⟨fun ⟨row, hrow, hseq⟩ => ⟨row, ⟨hrow, hseq.le⟩, hseq⟩,
      fun ⟨row, hrow, hseq⟩ => ⟨row, hrow.1, hseq⟩⟩
  have hle : ∀ row ∈ rowsThrough checkpoint entries, row.seq ≤ checkpoint.throughSeq :=
    fun row hrow => (mem_rowsThrough.mp hrow).2
  unfold Joined
  rw [hat, hfirst.exists_seq_iff]
  cases hrows : rowsThrough checkpoint entries with
  | nil =>
    rw [List.nil_append]
    exact ⟨fun _ h => absurd rfl h, fun _ => ⟨_, hafter⟩⟩
  | cons row rest =>
    cases hrows' : rowsAfter checkpoint entries with
    | nil =>
      rw [List.append_nil]
      exact ⟨fun _ _ h => absurd rfl h, fun _ => ⟨first, hrows ▸ hfirst⟩⟩
    | cons row' rest' =>
      rw [hrows] at hfirst hle
      rw [hrows'] at hafter
      constructor
      · rintro ⟨first', h⟩ - -
        obtain ⟨h, h'⟩ := contiguous_append.mp h
        have hrow : row.seq = first' := h.1
        have hrow' : row'.seq = first' + ((row :: rest).length : Int) := h'.1
        have hnext : row'.seq = checkpoint.throughSeq + 1 := hafter.1
        have hseq : row.seq = first := hfirst.1
        rw [List.length_cons] at hrow' ⊢
        omega
      · intro h
        obtain ⟨-, hlt⟩ := h (List.cons_ne_nil _ _) (List.cons_ne_nil _ _)
        refine ⟨first, contiguous_append.mpr ⟨hfirst, ?_⟩⟩
        -- The last row through the checkpoint is the one at it.
        have hrange : first ≤ first + ((row :: rest).length : Int) - 1 ∧
            first + ((row :: rest).length : Int) - 1 < first + ((row :: rest).length : Int) := by
          rw [List.length_cons]
          push_cast
          omega
        obtain ⟨last, hlast, hseq⟩ := hfirst.exists_seq_iff.mpr hrange
        have hlast := hle last hlast
        rw [show first + ((row :: rest).length : Int) = checkpoint.throughSeq + 1 by omega]
        exact hafter

/-- **When the genesis verifier accepts what the checkpoint verifier accepts.** -/
theorem fromGenesis_of_fromCheckpoint {genesis : String}
    (h : ∃ d, verifyAuditChainFromCheckpoint sha256 entries checkpoint genesis = .ok d) :
    (∃ d, verifyAuditChainFromGenesis sha256 entries genesis = .ok d) ↔
      Joined entries checkpoint := by
  obtain ⟨hthrough, hhead, hafter, d, htail⟩ := fromCheckpoint_eq_ok_iff.mp h
  have hsorted := sortOn_eq_append hthrough hafter
  have hleads : Leads sha256 genesis (sortOn AuditLog.seq entries) d := by
    rw [hsorted]
    exact leads_append.mpr ⟨_, hhead, htail⟩
  rw [← consecutive_append_iff hthrough hafter, ← hsorted]
  simp only [fromGenesis_eq_ok_iff]
  exact ⟨fun h => h.choose_spec.1, fun h => ⟨d, h, hleads⟩⟩

/-- **Without collisions, the checkpoint determines the contents through it.** -/
theorem contents_eq_of_fromCheckpoint {rows : List AuditLog} {genesis : String}
    (hrows : Leads sha256 genesis (rowsThrough checkpoint rows) checkpoint.checkpointDigest)
    (hfree : HashChain.CollisionFree (auditChainDigest sha256) genesis
      ((rowsThrough checkpoint entries).map AuditLog.contents)
      ((rowsThrough checkpoint rows).map AuditLog.contents))
    (h : ∃ d, verifyAuditChainFromCheckpoint sha256 entries checkpoint genesis = .ok d) :
    (rowsThrough checkpoint entries).map AuditLog.contents =
      (rowsThrough checkpoint rows).map AuditLog.contents := by
  obtain ⟨-, hhead, -⟩ := fromCheckpoint_eq_ok_iff.mp h
  exact hhead.eq_of_collisionFree hrows hfree

/-- **Audit verification.** The verifiers accept the rows of exactly the unbroken histories; what is
accepted from a checkpoint is accepted from genesis exactly where it is joined; and other contents
through a checkpoint of a history are not accepted from it. -/
theorem audit_verification_iff (hsha : ∀ b, isHex64 (sha256 b) = true) (units : List AuditUnit) :
    (AcceptsHonest sha256 dialect units ↔ Unbroken dialect units) ∧
      (∀ entries cp genesis,
        (∃ d, verifyAuditChainFromCheckpoint sha256 entries cp genesis = .ok d) →
          ((∃ d, verifyAuditChainFromGenesis sha256 entries genesis = .ok d) ↔ Joined entries cp)) ∧
      ∀ entries cp, HoldsDigest sha256 (auditHistory sha256 dialect units).rows cp →
        HashChain.CollisionFree (auditChainDigest sha256) genesisDigest
          ((rowsThrough cp entries).map AuditLog.contents)
          ((rowsThrough cp (auditHistory sha256 dialect units).rows).map AuditLog.contents) →
        (rowsThrough cp entries).map AuditLog.contents ≠
          (rowsThrough cp (auditHistory sha256 dialect units).rows).map AuditLog.contents →
        ¬∃ d, verifyAuditChainFromCheckpoint sha256 entries cp genesisDigest = .ok d := by
  refine ⟨acceptsHonest_iff hsha units, fun entries cp genesis h => fromGenesis_of_fromCheckpoint h,
    fun entries cp hcp hfree hne h => ?_⟩
  obtain ⟨⟨d, hleads⟩, hnumbered⟩ := history_spec dialect hsha units
  have hhonest := (hcp.leads hnumbered.pairwise hleads).1
  exact hne (contents_eq_of_fromCheckpoint hhonest hfree h)

end Verification

/-! ## A serial that goes on -/

/-- An entry of the given record digest. -/
def auditEntry (recordDigest : String) : AuditEntry :=
  ⟨1000, "principal", "key.issue", "key", "key_1", recordDigest⟩

/-- A digest of one digit. -/
def repeatedDigit (digit : Char) : String := String.ofList (List.replicate 64 digit)

/-- SHA-256 on the three inputs that occur below, told apart by their last and first bytes. -/
def sampleSha256 (b : Bytes) : String :=
  if b.getLast? = some 97 then
    "6b0440c1ce48fe6bbbdc6b7b1499bf9aa8b74171dcdb3eeff952e1e7cf527813"
  else if b.head? = some 48 then
    "75a482adaa9101a5c13e466724804d9c3623673471c79b96d1ae192b77a1fbef"
  else "8f41c5ea1abe681d4e04457dcda55853385bd0081da2b1d366d22fbfe4cb03d3"

theorem isHex64_sampleSha256 (b : Bytes) : isHex64 (sampleSha256 b) = true := by
  unfold sampleSha256
  split_ifs <;> decide

/-- A unit that rolls back, and one that commits a row. -/
def rollbackFirst : List AuditUnit :=
  [⟨[auditEntry (repeatedDigit 'a')], false⟩, ⟨[auditEntry (repeatedDigit 'a')], true⟩]

/-- A checkpoint with the chain digest through the row of `rollbackFirst`, which has number 2. -/
def secondNumber : AuditCheckpoint :=
  ⟨1, 2, "6b0440c1ce48fe6bbbdc6b7b1499bf9aa8b74171dcdb3eeff952e1e7cf527813", "signer-1", 1, 2000⟩

/-- A row of the given number and digests. -/
def auditRow (seq : Int) (recordDigest prevDigest : String) : AuditLog :=
  ⟨seq, 1000, "principal", "key.issue", "key", "key_1", recordDigest, prevDigest⟩

/-- A unit with a row, one that rolls back, and one with a row. -/
def rollbackBetween : List AuditUnit :=
  [⟨[auditEntry (repeatedDigit 'a')], true⟩, ⟨[auditEntry (repeatedDigit 'c')], false⟩,
    ⟨[auditEntry (repeatedDigit 'b')], true⟩]

theorem unbroken_rollbackFirst : Unbroken .postgres rollbackFirst := by
  intro a u b hsplit hskip
  cases a with
  | nil => exact Or.inl fun _ hv => (by cases hv)
  | cons v a =>
    obtain ⟨-, hsplit⟩ := List.cons.inj hsplit
    cases a with
    | nil =>
      obtain ⟨rfl, -⟩ := List.cons.inj hsplit
      exact absurd hskip.1 (by decide)
    | cons w a =>
      have hnil : [] = a ++ u :: b := (List.cons.inj hsplit).2
      exact absurd hnil.symm (List.append_ne_nil_of_right_ne_nil a (List.cons_ne_nil u b))

theorem rows_rollbackFirst : (auditHistory sampleSha256 .postgres rollbackFirst).rows =
    [auditRow 2 (repeatedDigit 'a') genesisDigest] := by
  decide +kernel

theorem rollbackFirst_verified : AcceptsHonest sampleSha256 .postgres rollbackFirst ∧
    ¬∃ d, verifyAuditChainFromCheckpoint sampleSha256 [auditRow 2 (repeatedDigit 'b') genesisDigest] secondNumber genesisDigest =
      .ok d := by
  have h := @audit_verification_iff _ .postgres isHex64_sampleSha256 rollbackFirst
  rw [rows_rollbackFirst] at h
  refine ⟨h.1.mpr unbroken_rollbackFirst, h.2.2 _ secondNumber ⟨?_, ?_⟩ ⟨?_, ?_⟩ ?_⟩
  · exact ⟨_, List.mem_singleton.mpr rfl, rfl⟩
  · decide +kernel
  · decide +kernel
  · have hfresh : ∀ q ∈ [(genesisDigest, repeatedDigit 'b'), (genesisDigest, repeatedDigit 'a')],
        auditChainDigest sampleSha256 q.1 q.2 ≠ some genesisDigest := by
      decide +kernel
    exact fun q hq => hfresh q (List.mem_append.mpr hq)
  · decide +kernel

theorem rows_rollbackBetween : (auditHistory sampleSha256 .postgres rollbackBetween).rows =
    [auditRow 1 (repeatedDigit 'a') genesisDigest,
      auditRow 3 (repeatedDigit 'b') secondNumber.checkpointDigest] := by
  decide +kernel

/-- **A rollback between two commits leaves a gap.** The rows have the numbers 1 and 3, and the genesis
verifier rejects them; from a checkpoint at the number that is missing, they are accepted. -/
theorem rollback_leaves_gap :
    verifyAuditChainFromGenesis sampleSha256
        (auditHistory sampleSha256 .postgres rollbackBetween).rows genesisDigest =
      .error (.value "audit chain has a sequence gap at 2") ∧
    verifyAuditChainFromCheckpoint sampleSha256
        (auditHistory sampleSha256 .postgres rollbackBetween).rows secondNumber genesisDigest =
      .ok genesisDigest := by
  rw [rows_rollbackBetween]
  decide +kernel

end LlmMaxxing.Storage
