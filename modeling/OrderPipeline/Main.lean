import OrderPipeline.Command.Arguments
import OrderPipeline.Demo
import OrderPipeline.Storage.Archive
import Std.Time.DateTime.Timestamp

/-!
# The command line

`main` looks at the surroundings of the process as far as the command may ask for them, runs the
command, leaves changed databases behind, and prints the reply.
-/

namespace OrderPipeline.Program

/-- The number of the failure to read a directory as a file. -/
def isDirectoryCode : UInt32 := 21

/-- What stands at a path, if anything does. -/
def contentAt (path : String) : IO (Option FileContent) := do
  try
    let bytes ← IO.FS.readBinFile path
    match Utf8.decode bytes.toList with
    | .ok text => return some (.text text)
    | .error _ => return some .binary
  catch
    | .inappropriateType _ code _ =>
      return if code == isDirectoryCode then some .directory else none
    | _ => return none

/-- What stands at some paths. -/
def contentsAt (paths : List String) : IO (List (String × FileContent)) := do
  let found ← paths.mapM fun path => do
    return (← contentAt path).map fun content => (path, content)
  return found.filterMap id

/-- The bytes of the file in which the system shows the variables of the process, if there is such a
file: for each variable its name, an equals sign, its value and a zero. -/
def environmentBytes : IO (Option (List UInt8)) := do
  try
    return some (← IO.FS.readBinFile "/proc/self/environ").toList
  catch _ => return none

/-- What the bytes of a value make of a variable. -/
def variableOf (value : List UInt8) : Variable :=
  match Utf8.decode value with
  | .ok text => .text text
  | .error _ => .binary

/-- What a variable is set to, in the bytes of all variables, from its name with the equals sign.
The bytes are those of a new variable just if `atStart` holds. -/
def variableIn (name : List UInt8) (atStart : Bool) : List UInt8 → Option Variable
  | [] => none
  | byte :: rest =>
    match if atStart then name.isPrefixOf? (byte :: rest) else none with
    | some value => some (variableOf (value.takeWhile (· != 0)))
    | none => variableIn name (byte == 0) rest

/-- The variables with some names that are set. Where the system does not show their bytes, each is
taken for a text. -/
def environmentOf (names : List String) : IO Environment := do
  let bytes ← environmentBytes
  let values ← names.mapM fun name => do
    let value ← match bytes with
      | some bytes => pure (variableIn (name ++ "=").toUTF8.toList true bytes)
      | none => return (← IO.getEnv name).map fun text => (name, Variable.text text)
    return value.map fun value => (name, value)
  let given := values.filterMap id
  return ⟨fun name => given.lookup name⟩

/-- The names of the variables that some files and all settings may ask for. -/
def wantedNames (files : List (String × FileContent)) : List String :=
  Setting.all.flatMap Setting.variableNames ++ files.flatMap fun
    | (_, .text text) => namesIn text
    | _ => []

/-- The path of a place, which is a dot for the top. -/
def pathOf (place : List String) : String :=
  if place.isEmpty then "." else Host.placeName place

/-- The host with what stands at the place of its database, and in what. -/
def withDatabase (host : Host) (place : List String) : IO Host := do
  let entries ← contentsAt [pathOf place.dropLast, pathOf place]
  let host := { host with files := ⟨host.files.entries ++ entries⟩ }
  match entries.lookup (pathOf place) with
  | some (.text text) =>
    match Database.ofFileText? text with
    | some database =>
      return { host with databases := [(Host.placeName place, database)] }
    | none => return host
  | _ => return host

/-- What a command finds around it. -/
def surroundings : IO Host := do
  let files ← contentsAt Settings.candidates
  let environment ← environmentOf (wantedNames files)
  let host : Host := { environment := environment, files := ⟨files⟩ }
  let place? := do
    let settings ← host.settings.toOption
    let location ← (Location.ofAddress settings.databaseUrl).toOption
    FileTree.place? (← location.path)
  match place? with
  | some place => withDatabase host place
  | none => return host

/-- The present moment. -/
def present : IO Instant := do
  let now ← Std.Time.Timestamp.now
  return (Instant.ofUnixSeconds? now.val.second.val.toNat now.val.nano.val.toNat).getD
    Instant.epoch

/-- When the command runs, and what it draws at random. -/
def occasion : IO Occasion := do
  let now ← present
  let seed := (← IO.getRandomBytes 8).toList.foldl (fun n byte => n * 256 + byte.toUInt64) 0
  let (code, generator) := StateT.run (Generator.code 9) ⟨seed⟩
  return ⟨now, ⟨"LEAD-" ++ code⟩, (Demo.items? generator now.date).getD []⟩

/-- Leaves the databases behind that changed. -/
def leave (before after : Host) : IO Unit :=
  after.databases.forM fun (name, database) => do
    if before.databases.lookup name ≠ some database then
      IO.FS.writeFile name database.fileText

/-- Runs the command that the arguments ask for, and gives its exit code. -/
def run (words : List String) : IO UInt32 := do
  match Command.ofArguments? words with
  | none =>
    IO.eprintln "error: the arguments name no command"
    return 2
  | some command =>
    let host ← surroundings
    let (reply, after) := command.run (← occasion) host
    leave host after
    IO.println reply.output
    return reply.exitCode.toUInt32

end OrderPipeline.Program

/-- Runs the command that the arguments ask for. -/
def main (words : List String) : IO UInt32 := OrderPipeline.Program.run words
