import LlmMaxxing.Lib.Transaction
import LlmMaxxing.Storage.Repositories
import Mathlib.Data.Set.Function

/-!
# Compare-and-swap over interleaved units of work

Callers read rows inside units of work and write later with an expectation taken from a row they
have read, whatever the other callers did in between. A head is compared column by column and a
key by the digest of its canonical JSON, so a call that succeeds found the row its caller had read.
An identity and an activation are compared by a digest that the callers supply: the same holds as
long as these digests determine the rows (`Carried.Determines`), and an update is lost where a
replacement keeps the digest of the row it replaces.
-/

namespace LlmMaxxing.Storage

open Check Json Database

/-! ## Rows apart from their timestamps -/

def KeyRow.content (r : KeyRow) : KeyRow := { r with updatedAtMs := 0 }

def IdentityRecord.content (r : IdentityRecord) : IdentityRecord :=
  { r with createdAtMs := 0, updatedAtMs := 0 }

def Activation.content (a : Activation) : Activation :=
  { a with createdAtMs := 0, updatedAtMs := 0 }

def PublicationHead.content (h : PublicationHead) : PublicationHead := { h with updatedAtMs := 0 }

/-! ## Sessions -/

/-- The rows the callers have read so far. -/
structure Readings where
  keys : List KeyRow := []
  identities : List IdentityRecord := []
  activations : List Activation := []
  heads : List PublicationHead := []

/-- The tables, and the records each key has held, newest first. -/
structure Ledger where
  db : Database
  records : String → List ClientKeyRecord

/-- The writes. A compare-and-swap names the row its caller has read. -/
inductive ControlCall where
  | addBundle (b : Bundle)
  | addActivation (a : Activation)
  | addIdentity (r : IdentityRecord)
  | addKey (record : ClientKeyRecord) (updatedAtMs : Int)
  | updateRecord (read : KeyRow) (before after : ClientKeyRecord)
      (reassignment : Option PolicyReassignment) (updatedAtMs : Int)
  | swapIdentity (read : IdentityRecord) (replacement : IdentityRecord)
  | advance (read : Activation) (replacement : Activation)
  | casHead (read : PublicationHead) (replacement : PublicationHead)

/-- The ledger after a write that does not raise. -/
def ControlCall.apply (sha256 : Bytes → String) (l : Ledger) :
    ControlCall → Except StorageFault Ledger
  | .addBundle b => do
    let db ← l.db.addBundle b
    return { l with db }
  | .addActivation a => do
    let db ← l.db.addActivation a
    return { l with db }
  | .addIdentity r => do
    let db ← l.db.addIdentity r
    return { l with db }
  | .addKey record updatedAtMs => do
    let db ← l.db.addKey sha256 record updatedAtMs
    return ⟨db, Function.update l.records record.keyId [record]⟩
  | .updateRecord read before after reassignment updatedAtMs => do
    let (_, db) ← l.db.updateRecord sha256 read.keyId before after reassignment updatedAtMs
    return ⟨db, Function.update l.records read.keyId (after :: l.records read.keyId)⟩
  | .swapIdentity read replacement => do
    let (_, db) ← l.db.swapIdentity read.installationId read.identityRootDigest replacement
    return { l with db }
  | .advance read replacement => do
    let (_, db) ← l.db.advanceActivationStage read.activationId read.stageRecordDigest replacement
    return { l with db }
  | .casHead read replacement => do
    let (_, db) ← l.db.casHead (some read) replacement
    return { l with db }

/-- What a run stores: the JSON texts of its keys, and the contents of its identities and
activations. -/
structure Carried where
  texts : Set Bytes
  identities : Set IdentityRecord
  activations : Set Activation

/-- No two texts collide, and a row's digest determines its content. -/
structure Carried.Determines (k : Carried) (sha256 : Bytes → String) : Prop where
  texts : Set.InjOn sha256 k.texts
  identities : ∀ r ∈ k.identities, ∀ s ∈ k.identities, r.installationId = s.installationId →
    r.identityRootDigest = s.identityRootDigest → r = s
  activations : ∀ a ∈ k.activations, ∀ b ∈ k.activations, a.activationId = b.activationId →
    a.stageRecordDigest = b.stageRecordDigest → a = b

/-- The call expects a row that has been read, and stores a row that is carried. -/
def ControlCall.From (k : Carried) (seen : Readings) (l : Ledger) : ControlCall → Prop
  | .addBundle _ => True
  | .addActivation a => a.content ∈ k.activations
  | .addIdentity r => r.content ∈ k.identities
  | .addKey record _ => ∀ p, recordJson record = .ok p → p ∈ k.texts
  | .updateRecord read before after _ _ =>
    read ∈ seen.keys ∧ readRecord read.recordJson = .ok before ∧
      ∀ p, recordJson after = .ok p → p ∈ k.texts
  | .swapIdentity read replacement => read ∈ seen.identities ∧ replacement.content ∈ k.identities
  | .advance read replacement =>
    read ∈ seen.activations ∧ ∀ stored, l.db.activations.get? read.activationId = some stored →
      (activationUpdateRow stored replacement).content ∈ k.activations
  | .casHead read _ => read ∈ seen.heads

/-- The stored row was the row the caller had read, timestamps aside. -/
def ControlCall.Met (l : Ledger) : ControlCall → Prop
  | .updateRecord read _ _ _ _ =>
    ∃ stored, l.db.keys.get? read.keyId = some stored ∧ stored.content = read.content
  | .swapIdentity read _ =>
    ∃ stored, l.db.identities.get? read.installationId = some stored ∧
      stored.content = read.content
  | .advance read _ =>
    ∃ stored, l.db.activations.get? read.activationId = some stored ∧
      stored.content = read.content
  | .casHead read _ => l.db.head.content = read.content
  | _ => True

/-- The store and what has been read from it. -/
structure Session where
  store : TransactionStore Ledger
  seen : Readings := {}

/-- Before the first unit of work. -/
def Session.opened : Session where
  store := .idle ⟨migrated, fun _ => []⟩

/-- One event: a unit of work begins, ends or writes, or a row is read inside it. -/
inductive Session.Step (sha256 : Bytes → String) (k : Carried) : Session → Session → Prop where
  | transact {store store' : TransactionStore Ledger} {seen : Readings}
      (h : TransactionStore.Step
        (fun l l' => ∃ c : ControlCall, c.From k seen l ∧ c.apply sha256 l = .ok l') store store') :
      Step sha256 k ⟨store, seen⟩ ⟨store', seen⟩
  | readKey {store : TransactionStore Ledger} {seen : Readings} {l : Ledger} {row : KeyRow}
      (hl : store.working = some l) (id : String) (h : l.db.keys.get? id = some row) :
      Step sha256 k ⟨store, seen⟩ ⟨store, { seen with keys := row :: seen.keys }⟩
  | readIdentity {store : TransactionStore Ledger} {seen : Readings} {l : Ledger}
      {row : IdentityRecord} (hl : store.working = some l) (id : String)
      (h : l.db.identities.get? id = some row) :
      Step sha256 k ⟨store, seen⟩ ⟨store, { seen with identities := row :: seen.identities }⟩
  | readActivation {store : TransactionStore Ledger} {seen : Readings} {l : Ledger}
      {row : Activation} (hl : store.working = some l) (id : String)
      (h : l.db.activations.get? id = some row) :
      Step sha256 k ⟨store, seen⟩ ⟨store, { seen with activations := row :: seen.activations }⟩
  | readHead {store : TransactionStore Ledger} {seen : Readings} {l : Ledger}
      (hl : store.working = some l) :
      Step sha256 k ⟨store, seen⟩ ⟨store, { seen with heads := l.db.head :: seen.heads }⟩

/-- `older` may become `newer`. -/
def Accepts (newer older : ClientKeyRecord) : Prop :=
  ∃ reassignment, older.validateDelta newer reassignment = .ok ()

/-! ## The invariant -/

/-- The rows of a ledger are carried, a key's row is the columns of its newest record, and each
record was accepted after the one before it. -/
structure Kept (sha256 : Bytes → String) (k : Carried) (l : Ledger) : Prop where
  head : l.db.head.id = 1
  identities : ∀ id r, l.db.identities.get? id = some r →
    r.installationId = id ∧ r.content ∈ k.identities
  activations : ∀ id a, l.db.activations.get? id = some a →
    a.activationId = id ∧ a.content ∈ k.activations
  keys : ∀ id row, l.db.keys.get? id = some row → row.recordJson ∈ k.texts ∧
    ∃ record rest u, l.records id = record :: rest ∧ record.keyId = id ∧
      keyColumns sha256 record u = .ok row
  chained : ∀ id, (l.records id).IsChain Accepts

/-- What has been read is carried. -/
structure Readings.Kept (sha256 : Bytes → String) (k : Carried) (seen : Readings) : Prop where
  heads : ∀ h ∈ seen.heads, h.id = 1
  identities : ∀ r ∈ seen.identities, r.content ∈ k.identities
  activations : ∀ a ∈ seen.activations, a.content ∈ k.activations
  keys : ∀ row ∈ seen.keys, row.recordJson ∈ k.texts ∧
    ∃ record u, keyColumns sha256 record u = .ok row

variable {sha256 : Bytes → String} {k : Carried} {seen : Readings} {l l' : Ledger}

theorem kept_opened : Kept sha256 k ⟨migrated, fun _ => []⟩ where
  head := rfl
  identities _ _ h := by cases h
  activations _ _ h := by cases h
  keys _ _ h := by cases h
  chained _ := .nil

/-- Two rows of one record differ in their timestamp only. -/
theorem keyColumns_content {record : ClientKeyRecord} {u u' : Int} {row row' : KeyRow}
    (h : keyColumns sha256 record u = .ok row) (h' : keyColumns sha256 record u' = .ok row') :
    row.content = row'.content := by
  simp only [keyColumns, bind_eq_ok_iff, pure_eq_ok, Except.ok.injEq] at h h'
  obtain ⟨p, hp, rfl⟩ := h
  obtain ⟨p', hp', rfl⟩ := h'
  rw [hp] at hp'
  cases hp'
  rfl

/-- What `get` returns is the record whose columns the row has. -/
theorem readRecord_eq {record before : ClientKeyRecord} {u : Int} {row : KeyRow}
    (hrow : keyColumns sha256 record u = .ok row) (h : readRecord row.recordJson = .ok before) :
    before = record := by
  have hparse := parse_serialize Codec.clientKeyRecord
    (recordJson_eq_ok_iff.mp (keyColumns_eq_ok hrow).1)
  unfold readRecord at h
  rw [hparse] at h
  simp only [JsonCodec.dec_norm_enc, ok_bind] at h
  cases hvalid : record.validate with
  | error e => rw [hvalid] at h; cases h
  | ok u => rw [hvalid] at h; exact (Except.ok.inj h).symm

/-! ## One call -/

/-- **A key update that succeeds starts from the newest record of its key.** -/
theorem Kept.newest (hl : Kept sha256 k l) (hseen : seen.Kept sha256 k) (hk : k.Determines sha256)
    {read : KeyRow} {before after result : ClientKeyRecord}
    {reassignment : Option PolicyReassignment} {u : Int} {db : Database} (hread : read ∈ seen.keys)
    (hbefore : readRecord read.recordJson = .ok before)
    (hok : l.db.updateRecord sha256 read.keyId before after reassignment u = .ok (result, db)) :
    ∃ stored rest, l.db.keys.get? read.keyId = some stored ∧ stored.content = read.content ∧
      l.records read.keyId = before :: rest := by
  obtain ⟨stored, row, p, -, -, -, hp, -, hstored, hdigest, -⟩ := updateRecord_eq_ok hok
  obtain ⟨hreadText, record, v, hcolumns⟩ := hseen.keys read hread
  obtain ⟨hstoredText, record', rest, u', hrecords, -, hcolumns'⟩ := hl.keys _ stored hstored
  have hbefore : before = record := readRecord_eq hcolumns hbefore
  have hpread : p = read.recordJson := by
    rw [hbefore, (keyColumns_eq_ok hcolumns).1] at hp
    exact (Except.ok.inj hp).symm
  -- Equal digests of carried texts: the two records have the same text.
  have htext : stored.recordJson = read.recordJson := by
    apply hk.texts hstoredText hreadText
    rw [← (keyColumns_eq_ok hcolumns').2.2, hdigest, hpread]
  have hrecord : record' = record := by
    have hjson := recordJson_eq_ok_iff.mp (keyColumns_eq_ok hcolumns').1
    rw [htext] at hjson
    exact serialize_injective _ hjson (recordJson_eq_ok_iff.mp (keyColumns_eq_ok hcolumns).1)
  refine ⟨stored, rest, hstored, keyColumns_content hcolumns' (hrecord ▸ hcolumns), ?_⟩
  rw [hrecords, hrecord, hbefore]

/-- **A call that succeeds found the row its caller had read.** -/
theorem Kept.met (hl : Kept sha256 k l) (hseen : seen.Kept sha256 k) (hk : k.Determines sha256)
    {c : ControlCall} (hc : c.From k seen l) (hok : c.apply sha256 l = .ok l') : c.Met l := by
  cases c with
  | addBundle b => trivial
  | addActivation a => trivial
  | addIdentity r => trivial
  | addKey record u => trivial
  | updateRecord read before after reassignment u =>
    simp only [ControlCall.apply, bind_eq_ok_iff] at hok
    obtain ⟨⟨result, db⟩, hupdate, -⟩ := hok
    obtain ⟨stored, -, hstored, hcontent, -⟩ := hl.newest hseen hk hc.1 hc.2.1 hupdate
    exact ⟨stored, hstored, hcontent⟩
  | swapIdentity read replacement =>
    simp only [ControlCall.apply, bind_eq_ok_iff] at hok
    obtain ⟨⟨result, db⟩, hswap, -⟩ := hok
    obtain ⟨stored, hstored, hdigest, -, -⟩ := swapIdentity_eq_ok hswap
    obtain ⟨hid, hcarried⟩ := hl.identities _ stored hstored
    exact ⟨stored, hstored, hk.identities _ hcarried _ (hseen.identities read hc.1) hid hdigest⟩
  | advance read replacement =>
    simp only [ControlCall.apply, bind_eq_ok_iff] at hok
    obtain ⟨⟨result, db⟩, hadvance, -⟩ := hok
    obtain ⟨stored, hstored, hdigest, -⟩ := advanceActivationStage_eq_ok hadvance
    obtain ⟨hid, hcarried⟩ := hl.activations _ stored hstored
    exact ⟨stored, hstored, hk.activations _ hcarried _ (hseen.activations read hc.1) hid hdigest⟩
  | casHead read replacement =>
    simp only [ControlCall.apply, bind_eq_ok_iff] at hok
    obtain ⟨⟨result, db⟩, hcas, -⟩ := hok
    obtain ⟨hgeneration, hhash, hfence, -⟩ := casHead_eq_ok hcas
    show l.db.head.content = read.content
    simp only [PublicationHead.content, PublicationHead.mk.injEq, and_true]
    exact ⟨hl.head.trans (hseen.heads read hc).symm, hgeneration, hhash, hfence⟩

/-- Writing one key: its row has the columns of the newest of its records. -/
theorem Kept.setKey (hl : Kept sha256 k l) {record : ClientKeyRecord} {row : KeyRow} {u : Int}
    {records : List ClientKeyRecord} (hrow : keyColumns sha256 record u = .ok row)
    (htext : row.recordJson ∈ k.texts) (hchain : (record :: records).IsChain Accepts) :
    Kept sha256 k ⟨{ l.db with keys := l.db.keys.insert record.keyId row },
      Function.update l.records record.keyId (record :: records)⟩ := by
  refine ⟨hl.head, hl.identities, hl.activations, fun id row' hrow' => ?_, fun id => ?_⟩
  · simp only [Dict.get?_insert] at hrow'
    by_cases hid : id = record.keyId
    · rw [if_pos hid] at hrow'
      cases hrow'
      subst hid
      exact ⟨htext, record, records, u, Function.update_self .., rfl, hrow⟩
    · rw [if_neg hid] at hrow'
      dsimp only
      rw [Function.update_of_ne hid]
      exact hl.keys id row' hrow'
  · dsimp only
    by_cases hid : id = record.keyId
    · subst hid
      rw [Function.update_self]
      exact hchain
    · rw [Function.update_of_ne hid]
      exact hl.chained id

/-- **Every call keeps the invariant.** -/
theorem Kept.apply (hl : Kept sha256 k l) (hseen : seen.Kept sha256 k) (hk : k.Determines sha256)
    {c : ControlCall} (hc : c.From k seen l) (hok : c.apply sha256 l = .ok l') :
    Kept sha256 k l' := by
  cases c with
  | addBundle b =>
    simp only [ControlCall.apply, bind_eq_ok_iff, pure_eq_ok, Except.ok.injEq] at hok
    obtain ⟨db, hdb, rfl⟩ := hok
    rw [addBundle_eq_ok hdb]
    exact ⟨hl.head, hl.identities, hl.activations, hl.keys, hl.chained⟩
  | addActivation a =>
    simp only [ControlCall.apply, bind_eq_ok_iff, pure_eq_ok, Except.ok.injEq] at hok
    obtain ⟨db, hdb, rfl⟩ := hok
    obtain ⟨-, -, -, rfl⟩ := addActivation_eq_ok hdb
    refine ⟨hl.head, hl.identities, fun id b hb => ?_, hl.keys, hl.chained⟩
    simp only [Dict.get?_insert] at hb
    split at hb
    · next hid => cases hb; exact ⟨hid.symm, hc⟩
    · exact hl.activations id b hb
  | addIdentity r =>
    simp only [ControlCall.apply, bind_eq_ok_iff, pure_eq_ok, Except.ok.injEq] at hok
    obtain ⟨db, hdb, rfl⟩ := hok
    rw [addIdentity_eq_ok hdb]
    refine ⟨hl.head, fun id b hb => ?_, hl.activations, hl.keys, hl.chained⟩
    simp only [Dict.get?_insert] at hb
    split at hb
    · next hid => cases hb; exact ⟨hid.symm, hc⟩
    · exact hl.identities id b hb
  | addKey record u =>
    simp only [ControlCall.apply, bind_eq_ok_iff, pure_eq_ok, Except.ok.injEq] at hok
    obtain ⟨db, hdb, rfl⟩ := hok
    obtain ⟨row, hrow, -, rfl⟩ := addKey_eq_ok hdb
    exact hl.setKey hrow (hc _ (keyColumns_eq_ok hrow).1) (.singleton record)
  | updateRecord read before after reassignment u =>
    simp only [ControlCall.apply, bind_eq_ok_iff, pure_eq_ok, Except.ok.injEq] at hok
    obtain ⟨⟨result, db⟩, hupdate, rfl⟩ := hok
    obtain ⟨-, rest, -, -, hrecords⟩ := hl.newest hseen hk hc.1 hc.2.1 hupdate
    obtain ⟨-, row, -, hdelta, -, hafter, -, hrow, -, -, rfl⟩ := updateRecord_eq_ok hupdate
    have hchain := hl.chained read.keyId
    rw [hrecords] at hchain
    rw [hrecords, ← hafter]
    exact hl.setKey hrow (hc.2.2 _ (keyColumns_eq_ok hrow).1)
      (.cons_cons ⟨reassignment, hdelta⟩ hchain)
  | swapIdentity read replacement =>
    simp only [ControlCall.apply, bind_eq_ok_iff, pure_eq_ok, Except.ok.injEq] at hok
    obtain ⟨⟨result, db⟩, hswap, rfl⟩ := hok
    obtain ⟨stored, hstored, -, hid, rfl⟩ := swapIdentity_eq_ok hswap
    have hstoredId := (hl.identities _ stored hstored).1
    refine ⟨hl.head, fun id b hb => ?_, hl.activations, hl.keys, hl.chained⟩
    simp only [Dict.get?_insert] at hb
    split at hb
    · next heq =>
      cases hb
      refine ⟨hstoredId.trans heq.symm, ?_⟩
      have hsame : stored.installationId = replacement.installationId := hstoredId.trans hid.symm
      simp only [IdentityRecord.content, hsame]
      exact hc.2
    · exact hl.identities id b hb
  | advance read replacement =>
    simp only [ControlCall.apply, bind_eq_ok_iff, pure_eq_ok, Except.ok.injEq] at hok
    obtain ⟨⟨result, db⟩, hadvance, rfl⟩ := hok
    obtain ⟨stored, hstored, -, -, rfl, -, -, rfl⟩ := advanceActivationStage_eq_ok hadvance
    refine ⟨hl.head, hl.identities, fun id b hb => ?_, hl.keys, hl.chained⟩
    simp only [Dict.get?_insert] at hb
    split at hb
    · next heq =>
      cases hb
      exact ⟨(hl.activations _ stored hstored).1.trans heq.symm, hc.2 stored hstored⟩
    · exact hl.activations id b hb
  | casHead read replacement =>
    simp only [ControlCall.apply, bind_eq_ok_iff, pure_eq_ok, Except.ok.injEq] at hok
    obtain ⟨⟨result, db⟩, hcas, rfl⟩ := hok
    obtain ⟨-, -, -, rfl⟩ := casHead_eq_ok hcas
    exact ⟨hl.head, hl.identities, hl.activations, hl.keys, hl.chained⟩

/-! ## Whole runs -/

/-- What holds along a session. -/
structure Session.Sound (sha256 : Bytes → String) (k : Carried) (s : Session) : Prop where
  store : TransactionStore.Holds (Kept sha256 k) s.store
  seen : s.seen.Kept sha256 k

theorem Session.sound_opened : Session.opened.Sound sha256 k where
  store := .idle kept_opened
  seen := ⟨fun _ h => (by cases h), fun _ h => (by cases h), fun _ h => (by cases h),
    fun _ h => (by cases h)⟩

/-- One event of a session. -/
theorem Session.Sound.step {s s' : Session} (hk : k.Determines sha256) (hs : s.Sound sha256 k)
    (h : Session.Step sha256 k s s') : s'.Sound sha256 k := by
  cases h with
  | transact hstep =>
    refine ⟨hs.store.step (fun l l' hop hl => ?_) hstep, hs.seen⟩
    obtain ⟨c, hc, hok⟩ := hop
    exact hl.apply hs.seen hk hc hok
  | readKey hl id hrow =>
    refine ⟨hs.store, hs.seen.heads, hs.seen.identities, hs.seen.activations, ?_⟩
    obtain ⟨htext, record, -, u, -, -, hcolumns⟩ := (hs.store.working _ hl).keys id _ hrow
    exact List.forall_mem_cons.mpr ⟨⟨htext, record, u, hcolumns⟩, hs.seen.keys⟩
  | readIdentity hl id hrow =>
    refine ⟨hs.store, hs.seen.heads, ?_, hs.seen.activations, hs.seen.keys⟩
    exact List.forall_mem_cons.mpr
      ⟨((hs.store.working _ hl).identities id _ hrow).2, hs.seen.identities⟩
  | readActivation hl id hrow =>
    refine ⟨hs.store, hs.seen.heads, hs.seen.identities, ?_, hs.seen.keys⟩
    exact List.forall_mem_cons.mpr
      ⟨((hs.store.working _ hl).activations id _ hrow).2, hs.seen.activations⟩
  | readHead hl =>
    refine ⟨hs.store, ?_, hs.seen.identities, hs.seen.activations, hs.seen.keys⟩
    exact List.forall_mem_cons.mpr ⟨(hs.store.working _ hl).head, hs.seen.heads⟩

/-- A session after some events. -/
def Session.Reachable (sha256 : Bytes → String) (k : Carried) (s : Session) : Prop :=
  Relation.ReflTransGen (Session.Step sha256 k) .opened s

theorem Session.Reachable.sound {s : Session} (hk : k.Determines sha256)
    (h : s.Reachable sha256 k) : s.Sound sha256 k := by
  induction h with
  | refl => exact Session.sound_opened
  | tail _ hlast ih => exact ih.step hk hlast

/-- **Compare-and-swap loses no update** where digests determine the rows: whatever the callers
did before, a write that succeeds found the row its caller had read, and the records of every key
form a chain of accepted changes. -/
theorem cas_finds_the_row_read {s : Session} {c : ControlCall} (hk : k.Determines sha256)
    (hs : s.Reachable sha256 k) (hw : s.store.working = some l) (hc : c.From k s.seen l)
    (hok : c.apply sha256 l = .ok l') :
    c.Met l ∧ ∀ id, (l'.records id).IsChain Accepts := by
  have hsound := hs.sound hk
  have hl := hsound.store.working l hw
  exact ⟨hl.met hsound.seen hk hc hok, (hl.apply hsound.seen hk hc hok).chained⟩

/-- Nothing but a head is ever stored. -/
def headsOnly : Carried := ⟨∅, ∅, ∅⟩

theorem head_swap_finds_the_head_read :
    ControlCall.Met ⟨migrated, fun _ => []⟩
      (.casHead migrated.head ⟨1, 1, "bh_1", 1, 5⟩) := by
  have hk : headsOnly.Determines fun _ => "" :=
    ⟨Set.injOn_empty _, fun _ h => (by cases h), fun _ h => (by cases h)⟩
  have hbegun : Session.Reachable (fun _ => "") headsOnly
      ⟨⟨⟨migrated, fun _ => []⟩, some ⟨migrated, fun _ => []⟩⟩, {}⟩ :=
    Relation.ReflTransGen.refl.tail (.transact (.begin _))
  have hread := hbegun.tail (.readHead (l := ⟨migrated, fun _ => []⟩) rfl)
  have hswap : ControlCall.apply (fun _ => "") ⟨migrated, fun _ => []⟩
      (.casHead migrated.head ⟨1, 1, "bh_1", 1, 5⟩) =
        .ok ⟨{ migrated with head := ⟨1, 1, "bh_1", 1, 5⟩ }, fun _ => []⟩ := by rfl
  exact (cas_finds_the_row_read hk hread rfl (List.mem_singleton.mpr rfl) hswap).1

/-! ## A lost update -/

/-- An identity at a channel-key epoch, always with one digest. -/
def identityAt (epoch : Int) : IdentityRecord where
  installationId := "inst"
  channelKeyEpoch := epoch
  securityEpoch := 1
  identityRootDigest := "00000000000000000000000000000000000000000000000000000000000000b2"
  createdAtMs := 0
  updatedAtMs := epoch

/-- The tables with that identity. -/
def ledgerAt (epoch : Int) : Ledger :=
  ⟨{ migrated with identities := Dict.empty.insert "inst" (identityAt epoch) }, fun _ => []⟩

/-- No keys; identities and activations with any digests. -/
def anyDigests : Carried := ⟨∅, Set.univ, Set.univ⟩

/-- **An update is lost**: two callers read the identity of epoch 1; the second replaces it by
epoch 2 with the digest it had, and the first still replaces it by epoch 3. -/
theorem identity_update_lost :
    ¬∀ (s : Session) (l l' : Ledger) (c : ControlCall), s.Reachable (fun _ => "") anyDigests →
      s.store.working = some l → c.From anyDigests s.seen l → c.apply (fun _ => "") l = .ok l' →
      c.Met l := by
  intro hall
  -- A unit of work adds the identity, another reads it.
  have hadded : Session.Reachable (fun _ => "") anyDigests ⟨⟨ledgerAt 1, none⟩, {}⟩ :=
    (((Relation.ReflTransGen.refl).tail (.transact (.begin _))).tail
      (.transact (.operate _ ⟨.addIdentity (identityAt 1), trivial, by rfl⟩))).tail
      (.transact (.commit _ (ledgerAt 1)))
  have hrow : (ledgerAt 1).db.identities.get? "inst" = some (identityAt 1) := rfl
  have hread : Session.Reachable (fun _ => "") anyDigests
      ⟨⟨ledgerAt 1, none⟩, { identities := [identityAt 1] }⟩ :=
    ((hadded.tail (.transact (.begin _))).tail
      (.readIdentity rfl "inst" hrow)).tail (.transact (.commit _ _))
  -- The other caller's swap is committed before the first one's begins.
  have hswapped : Session.Reachable (fun _ => "") anyDigests
      ⟨⟨ledgerAt 2, some (ledgerAt 2)⟩, { identities := [identityAt 1] }⟩ :=
    (((hread.tail (.transact (.begin _))).tail (.transact (.operate _
      ⟨.swapIdentity (identityAt 1) (identityAt 2), ⟨List.mem_singleton.mpr rfl, trivial⟩,
        by rfl⟩))).tail (.transact (.commit _ (ledgerAt 2)))).tail (.transact (.begin _))
  obtain ⟨stored, hstored, hcontent⟩ := hall _ (ledgerAt 2) (ledgerAt 3)
    (.swapIdentity (identityAt 1) (identityAt 3)) hswapped rfl
    ⟨List.mem_singleton.mpr rfl, trivial⟩ (by rfl)
  cases hstored
  exact absurd hcontent (by decide)

end LlmMaxxing.Storage
