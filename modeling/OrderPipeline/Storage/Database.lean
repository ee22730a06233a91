import OrderPipeline.Digest.Blake3
import OrderPipeline.Storage.Backing

/-!
# The database

A database keeps one row for each key: a text and the checksum that it was stored with. Until it is
migrated it has no table, and every access fails. A text that was changed behind the back of the
database no longer fits its checksum and is not given out.
-/

namespace OrderPipeline

/-- The checksum of a text. -/
def checksum (text : String) : String := Blake3.hex text

/-- A stored text. -/
structure Row where
  /-- The text. -/
  text : String
  /-- The checksum that the text had when it was stored. -/
  checksum : String
  deriving DecidableEq, Inhabited

/-- A database, which has a table only after it is migrated. -/
structure Database where
  /-- The rows under their keys. -/
  rows : Option (List (String × Row)) := none
  deriving DecidableEq, Inhabited

namespace Database

/-- The failure of an access without a table. -/
def noTable : StorageError :=
  .database "error returned from database: (code: 1) no such table: state_blob"

/-- The database with a table; rows that are there already stay. -/
def migrate (database : Database) : Database := ⟨some (database.rows.getD [])⟩

/-- The database without its table. -/
def dropTable (_ : Database) : Database := {}

/-- The rows, if there is a table. -/
def table (database : Database) : Except StorageError (List (String × Row)) :=
  match database.rows with
  | some rows => .ok rows
  | none => .error noTable

/-- Reads the text under a key, if it fits its checksum. -/
def read (database : Database) (key : String) : Except StorageError (Option String) :=
  match database.rows with
  | none => .error noTable
  | some rows =>
    match rows.lookup key with
    | none => .ok none
    | some row =>
      if checksum row.text = row.checksum then .ok (some row.text)
      else .error (.checksumMismatch key)

/-- Puts a text and its checksum under a key. -/
def write (database : Database) (key text : String) : Except StorageError Database :=
  match database.rows with
  | none => .error noTable
  | some rows => .ok ⟨some (Keyed.insert key ⟨text, checksum text⟩ rows)⟩

/-- Changes the row under a key behind the back of the database, and tells how many rows were
changed. -/
def edit (database : Database) (key : String) (change : Row → Row) :
    Except StorageError (Database × Nat) :=
  match database.rows with
  | none => .error noTable
  | some rows =>
    .ok (⟨some (Keyed.modify key change rows)⟩, if (rows.lookup key).isSome then 1 else 0)

instance : Backing Database where
  load database key := (database.read key, database)
  save database key text :=
    match database.write key text with
    | .ok next => (.ok (), next)
    | .error error => (.error error, database)

@[simp] theorem rows_migrate (database : Database) :
    database.migrate.rows = some (database.rows.getD []) := rfl

@[simp] theorem migrate_migrate (database : Database) :
    database.migrate.migrate = database.migrate := rfl

/-- What was written under a key is read from it, and the other keys are as before. -/
theorem read_write {database next : Database} {key text : String}
    (written : database.write key text = .ok next) (wanted : String) :
    next.read wanted = if wanted = key then .ok (some text) else database.read wanted := by
  obtain ⟨rows⟩ := database
  cases rows with
  | none => simp [write] at written
  | some rows =>
    simp only [write, Except.ok.injEq] at written
    subst written
    by_cases same : wanted = key <;> simp [read, same]

end Database

end OrderPipeline
