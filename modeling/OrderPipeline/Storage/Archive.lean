import OrderPipeline.Json.Decode
import OrderPipeline.Storage.Database

/-!
# The file of a database

A database is kept in a file as a record with its rows, each of which is the list of its key, its
text and its checksum; a database without a table has no rows to list.
-/

namespace OrderPipeline

namespace Row

/-- A row with its key as JSON. -/
def toJson (entry : String × Row) : Json :=
  .array [.string entry.1, .string entry.2.text, .string entry.2.checksum]

/-- Reads a row with its key. -/
def decode : Json.Decoder (String × Row) := fun node => do
  match ← node.asList Json.Node.asString with
  | [key, text, checksum] => return (key, ⟨text, checksum⟩)
  | _ => throw (node.wrongKind "a row")

end Row

namespace Database

/-- The database as a record. -/
def toJson (database : Database) : Json :=
  .object [("rows", .ofOption (database.rows.map fun rows => .array (rows.map Row.toJson)))]

/-- Reads a database from a record; the rows may stand in any order. -/
def decode : Json.Decoder Database := fun node => do
  let fields ← node.asFields "Database" ["rows"]
  let rows := fields.optional "rows" (Json.Node.asList Row.decode)
  let sorted := fun rows : List (String × Row) =>
    rows.foldl (fun sorted entry => Keyed.insert entry.1 entry.2 sorted) []
  (Json.both (fields.begin id) rows).map fun rows => ⟨rows.map sorted⟩

/-- The content of the file. -/
def fileText (database : Database) : String := database.toJson.text ++ "\n"

/-- The database in a file, if the file is that of a database. -/
def ofFileText? (text : String) : Option Database :=
  ((Json.Document.ofText text).decode decode).toOption

end Database

end OrderPipeline
