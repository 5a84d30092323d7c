import LlmMaxxing.Lib.Check
import LlmMaxxing.Lib.Dict
import LlmMaxxing.Lib.Json

/-!
# Logical backup and restore (`storage/backup.py`)

`exportLogical` reads the tables one statement after the other, each at the state committed by
then, and writes them with a fingerprint. `importLogical` checks the fingerprint, empties the
target, migrates it and inserts the rows. It never gets to the rows: the URL it hands to
`create_async_engine` has lost its scheme, and past that it uses a name its module does not bind.
-/

namespace LlmMaxxing.Storage

open Check

/-! ## Rows -/

/-- A column value. -/
inductive Cell where
  | null
  | bool (b : Bool)
  | int (n : Int)
  | text (s : String)
  | bytes (b : List UInt8)
  deriving DecidableEq

/-- A row by column name. -/
abbrev Row := List (String × Cell)

/-- The rows of every table. -/
abbrev Contents := String → List Row

/-- `TABLES_SNAPSHOT_ORDER`. -/
def tablesSnapshotOrder : List String := [
  "schema_meta", "bundles", "publications", "activations", "activation_acknowledgements",
  "outbox", "keys", "key_tombstones", "policies", "route_groups", "route_group_legs", "accounts",
  "account_bindings", "identity_records", "evidence", "audit_log", "audit_checkpoints",
  "terminal_ledger", "request_lifecycle", "telemetry_checkpoints", "backup_receipts"]

/-- The primary key of each table. -/
def primaryKey : String → List String
  | "schema_meta" => ["key"]
  | "bundles" => ["generation"]
  | "publications" => ["id"]
  | "activations" => ["activation_id"]
  | "activation_acknowledgements" => ["activation_id", "ack_kind", "boot_id"]
  | "outbox" => ["op_idempotency_key", "seq"]
  | "keys" => ["key_id"]
  | "key_tombstones" => ["key_id"]
  | "policies" => ["policy_id", "revision"]
  | "route_groups" => ["route_group_id", "revision"]
  | "route_group_legs" => ["leg_id"]
  | "accounts" => ["account_id", "revision"]
  | "account_bindings" => ["binding_id"]
  | "identity_records" => ["installation_id"]
  | "evidence" => ["evidence_id"]
  | "audit_log" => ["seq"]
  | "audit_checkpoints" => ["checkpoint_seq"]
  | "terminal_ledger" => ["seq"]
  | "request_lifecycle" => ["request_id"]
  | "telemetry_checkpoints" => ["checkpoint_id"]
  | "backup_receipts" => ["receipt_id"]
  | _ => []

/-- The seeds of migration `0001`. -/
def seeded : Contents
  | "publications" => [[("id", .int 1), ("applied_generation", .int 0),
      ("applied_bundle_hash", .text ""), ("dispatcher_fence", .int 0), ("updated_at_ms", .int 0)]]
  | "schema_meta" => [
      [("key", .text "min_reader_floor"), ("value", .text "0.1.0")],
      [("key", .text "last_migration_id"), ("value", .text "0001")],
      [("key", .text "backup_required_floor"), ("value", .text "0001")]]
  | _ => []

/-! ## The archive -/

/-- The two lowercase hex digits of a byte. -/
def hexByte (b : UInt8) : List Char :=
  [Nat.digitChar (b.toNat / 16), Nat.digitChar (b.toNat % 16)]

/-- A cell as `json.dumps` writes it, with `_encode_binary` for what JSON lacks. -/
def encodeCell : Cell → Json
  | .null => .null
  | .bool b => .bool b
  | .int n => .num n
  | .text s => .str s
  | .bytes b => .obj [("__bytes__", .str (String.ofList (b.flatMap hexByte)))]

/-- The value of a hex digit. -/
def hexDigitValue? (c : Char) : Option Nat :=
  if '0' ≤ c ∧ c ≤ '9' then some (c.toNat - '0'.toNat)
  else if 'a' ≤ c ∧ c ≤ 'f' then some (c.toNat - 'a'.toNat + 10)
  else if 'A' ≤ c ∧ c ≤ 'F' then some (c.toNat - 'A'.toNat + 10)
  else none

/-- `bytes.fromhex` on text without whitespace. -/
def fromHex? : List Char → Option (List UInt8)
  | [] => some []
  | [_] => none
  | hi :: lo :: rest => do
    let h ← hexDigitValue? hi
    let l ← hexDigitValue? lo
    let bytes ← fromHex? rest
    return UInt8.ofNat (h * 16 + l) :: bytes

/-- What import raises. -/
inductive ImportFault where
  | value (message : String)
  | keyError (name : String)
  | argumentError
  | nameError (name : String)
  | integrityError (table : String)
  | dataError
  deriving DecidableEq

/-- `_decode_binary`, and what the driver takes for a column. -/
def decodeCell : Json → Except ImportFault Cell
  | .null => .ok .null
  | .bool b => .ok (.bool b)
  | .num n => .ok (.int n)
  | .str s => .ok (.text s)
  | .obj [("__bytes__", .str hex)] =>
    match fromHex? hex.toList with
    | some b => .ok (.bytes b)
    | none => .error (.value "non-hexadecimal number found in fromhex() arg")
  | _ => .error .dataError

/-- A table in an archive. -/
abbrev ArchivedTable := List (List (String × Json))

/-- The document `_export_logical` writes; `artifacts_json` holds the fingerprint and the number
of tables. -/
structure Archive where
  mode : String
  sha256 : String
  tableCount : Nat
  tables : Dict String ArchivedTable

/-! ## Export -/

/-- A committed history of the source: the states that follow one another while the export runs,
and the one that the read of each table sees. -/
structure ExportRun where
  instants : List Contents
  sees : String → Contents
  sees_mem : ∀ name, sees name ∈ instants

/-- The rows of a table as the archive has them. -/
def encodeRows (rows : List Row) : ArchivedTable :=
  rows.map fun row => row.map fun q => (q.1, encodeCell q.2)

/-- `_async_tables`. Each `SELECT` of the one transaction reads what is committed by then. -/
def asyncTables (run : ExportRun) : Dict String ArchivedTable :=
  .ofList (tablesSnapshotOrder.map fun name => (name, encodeRows (run.sees name name)))

section Fingerprint

-- SHA-256 of `_canonical_artifact_bytes`, as a function of the tables in snapshot order.
variable (artifactDigest : List (String × ArchivedTable) → String)

/-- The tables the fingerprint covers. -/
def artifactTables (tables : Dict String ArchivedTable) :
    Except ImportFault (List (String × ArchivedTable)) :=
  tablesSnapshotOrder.mapM fun name =>
    match tables.get? name with
    | some rows => .ok (name, rows)
    | none => .error (.keyError name)

/-- `_export_logical`. -/
def exportLogical (run : ExportRun) : Except ImportFault Archive := do
  let tables := asyncTables run
  let covered ← artifactTables tables
  return ⟨"postgres", artifactDigest covered, tables.entries.length, tables⟩

/-- `verify_backup_integrity`. -/
def verifyBackupIntegrity (archive : Archive) : Except ImportFault String := do
  let covered ← artifactTables archive.tables
  let digest := artifactDigest covered
  require (archive.sha256 = digest)
    (.value "backup artifact digest mismatch: archive is corrupted")
  require (archive.tableCount = archive.tables.entries.length)
    (.value "backup artifact table inventory mismatch")
  return digest

/-! ## Import -/

/-- `sqlalchemy_async_url`, for the URLs of a server. -/
def sqlalchemyAsyncUrl (url : List Char) : Except ImportFault (List Char) :=
  if "postgresql+asyncpg://".toList <+: url then .ok url
  else if "postgres://".toList <+: url then
    .ok ("postgresql+asyncpg://".toList ++ url.drop "postgres://".length)
  else if "postgresql://".toList <+: url then
    .ok ("postgresql+asyncpg://".toList ++ url.drop "postgresql://".length)
  else .error (.value "unsupported database URL scheme")

/-- `removeprefix`. -/
def removeStart (start text : List Char) : List Char :=
  if start <+: text then text.drop start.length else text

/-- The names `backup.py` binds at its top level. -/
def backupGlobals : List String := [
  "annotations", "hashlib", "json", "shutil", "sqlite3", "tempfile", "dataclass", "Path", "Any",
  "BinaryIO", "select", "text", "create_async_engine", "m", "sqlalchemy_async_url",
  "ARCHIVE_DOMAIN", "TABLES_SNAPSHOT_ORDER", "audit_chain_digest",
  "verify_audit_chain_from_genesis", "verify_audit_chain_from_checkpoint", "BackupArtifact",
  "_canonical_artifact_bytes", "_encode_binary", "_decode_binary", "verify_backup_integrity",
  "export_database", "_async_tables", "_export_logical", "import_database", "_import_logical"]

/-- Reading a name in `_import_logical`, which binds `locals` itself. -/
def readName (locals : List String) (name : String) : Except ImportFault Unit :=
  require (name ∈ locals ∨ name ∈ backupGlobals) (.nameError name)

/-- Inserting one row: the primary key is unique. -/
def insertRow (db : Contents) (table : String) (row : Row) : Except ImportFault Contents :=
  let key (r : Row) := (primaryKey table).map fun c => Dict.lookup c r
  if (db table).any fun r => key r == key row then .error (.integrityError table)
  else .ok (Function.update db table (db table ++ [row]))

/-- The rows of one archived table. -/
def insertTable (archive : Archive) (db : Contents) (table : String) :
    Except ImportFault Contents := do
  let rows ← match archive.tables.get? table with
    | some rows => .ok rows
    | none => .error (.keyError table)
  rows.foldlM (fun db row => do
    let cells ← row.mapM fun q => do
      let cell ← decodeCell q.2
      return (q.1, cell)
    insertRow db table cells) db

/-- `_import_logical`: the target it leaves and how it ends. `hasScheme` says which texts
`create_async_engine` takes for a URL; the last insertion transaction rolls back as a whole. -/
def importLogical (hasScheme : List Char → Bool) (archive : Archive) (url : List Char)
    (target : Contents) : Contents × Except ImportFault Unit :=
  match verifyBackupIntegrity artifactDigest archive, sqlalchemyAsyncUrl url with
  | .error e, _ => (target, .error e)
  | .ok _, .error e => (target, .error e)
  | .ok _, .ok asyncUrl =>
    let plain := removeStart "postgresql+asyncpg://".toList asyncUrl
    if ¬hasScheme plain then (target, .error .argumentError)
    else
      -- `DROP SCHEMA public CASCADE`, then `asyncio.to_thread(migrate_database, plain)`.
      match readName ["migrate_database", "archive_path", "url", "archive", "plain", "engine",
          "connection"] "asyncio" with
      | .error e => (fun _ => [], .error e)
      | .ok () =>
        match tablesSnapshotOrder.foldlM (insertTable archive) seeded with
        | .ok db => (db, .ok ())
        | .error e => (seeded, .error e)

/-! ## How an import ends -/

variable {artifactDigest} {hasScheme : List Char → Bool} {archive : Archive} {url : List Char}
  {target : Contents}

/-- An archive whose fingerprint does not cover its tables is refused before anything is
written. -/
theorem importLogical_of_altered {covered : List (String × ArchivedTable)}
    (hcovered : artifactTables archive.tables = .ok covered)
    (haltered : archive.sha256 ≠ artifactDigest covered) :
    importLogical artifactDigest hasScheme archive url target =
      (target, .error (.value "backup artifact digest mismatch: archive is corrupted")) := by
  have hverify : verifyBackupIntegrity artifactDigest archive =
      .error (.value "backup artifact digest mismatch: archive is corrupted") := by
    simp only [verifyBackupIntegrity, hcovered, ok_bind, require, if_neg haltered, bind_error]
  simp only [importLogical, hverify]

/-- **No import returns**: the URL without its scheme is refused, and where it is not, the name
`asyncio` is not bound. -/
theorem importLogical_raises :
    (importLogical artifactDigest hasScheme archive url target).2 ≠ .ok () := by
  have hname : ∀ locals : List String, "asyncio" ∉ locals →
      readName locals "asyncio" = .error (.nameError "asyncio") := by
    intro locals hlocals
    have hglobals : "asyncio" ∉ backupGlobals := by decide
    rw [readName, require, if_neg (not_or.mpr ⟨hlocals, hglobals⟩)]
  unfold importLogical
  split
  · intro h; cases h
  · intro h; cases h
  · simp only
    split
    · intro h; cases h
    · rw [hname _ (by decide)]
      intro h; cases h

end Fingerprint

/-! ## The round trip -/

/-- An export during `run` and an import into `target` leave the rows of one instant. -/
def RoundTrips (artifactDigest : List (String × ArchivedTable) → String)
    (hasScheme : List Char → Bool) (run : ExportRun) (url : List Char) (target : Contents) : Prop :=
  ∃ archive db, exportLogical artifactDigest run = .ok archive ∧
    importLogical artifactDigest hasScheme archive url target = (db, .ok ()) ∧
    ∃ instant ∈ run.instants, ∀ name ∈ tablesSnapshotOrder, db name = instant name

/-- **No logical backup is ever restored**, whatever the source held, whatever was committed
during the export and whatever the URL of the target. -/
theorem logical_backup_never_restored (artifactDigest : List (String × ArchivedTable) → String)
    (hasScheme : List Char → Bool) (run : ExportRun) (url : List Char) (target : Contents) :
    ¬RoundTrips artifactDigest hasScheme run url target := by
  rintro ⟨archive, db, -, himport, -⟩
  have hraises : (importLogical artifactDigest hasScheme archive url target).2 ≠ .ok () :=
    importLogical_raises
  rw [himport] at hraises
  exact hraises rfl

/-- A scheme: word characters and `+` before `://`. -/
def urlHasScheme (text : List Char) : Bool :=
  let name := text.takeWhile fun c => c.isAlphanum || c == '_' || c == '+'
  !name.isEmpty && "://".toList.isPrefixOf (text.drop name.length)

/-- A source that holds its seeds and that nobody writes. -/
def quietRun : ExportRun where
  instants := [seeded]
  sees _ := seeded
  sees_mem _ := List.mem_singleton.mpr rfl

/-- The backup of a freshly migrated database cannot be restored. -/
theorem fresh_backup_not_restored :
    ¬RoundTrips (fun _ => "") urlHasScheme quietRun "postgresql://control@db/control".toList
      (fun _ => []) := by
  rintro ⟨archive, db, hexport, himport, -⟩
  cases hexport
  have hends : (importLogical (fun _ => "") urlHasScheme
      ⟨"postgres", "", (asyncTables quietRun).entries.length, asyncTables quietRun⟩
      "postgresql://control@db/control".toList fun _ => []).2 = .error .argumentError := by
    decide +kernel
  rw [himport] at hends
  cases hends

end LlmMaxxing.Storage
