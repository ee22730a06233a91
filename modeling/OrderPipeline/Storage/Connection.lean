import OrderPipeline.Storage.Database

/-!
# Connections

A connection is a database that is in use. One that is read-only gives out what is stored and
refuses every change.
-/

namespace OrderPipeline

/-- A database in use. -/
structure Connection where
  /-- The database. -/
  database : Database
  /-- Whether it must not be changed. -/
  readOnly : Bool := false
  deriving DecidableEq, Inhabited

namespace Connection

/-- The failure of a change that is not allowed. -/
def refusal : String :=
  "error returned from database: (code: 8) attempt to write a readonly database"

/-- Gives the database a table, unless it has one. -/
def migrate (connection : Connection) : Except String Connection :=
  if connection.readOnly && connection.database.rows.isNone then .error refusal
  else .ok { connection with database := connection.database.migrate }

instance : Backing Connection where
  load connection key := (connection.database.read key, connection)
  save connection key text :=
    if connection.readOnly then (.error (.database refusal), connection)
    else
      match connection.database.write key text with
      | .ok database => (.ok (), { connection with database := database })
      | .error error => (.error error, connection)

end Connection

end OrderPipeline
