import OrderPipeline.Text.Basic

/-!
# The files around a command

A `FileTree` lists files by their paths; a directory is there when it is listed or when a file in it
is. `FileTree.find?` follows a path from the top of the tree.
-/

namespace OrderPipeline

/-- What stands at a path. -/
inductive FileContent where
  /-- A file that holds a text. -/
  | text (text : String)
  /-- A file whose bytes are no text. -/
  | binary
  /-- A directory. -/
  | directory
  deriving DecidableEq

/-- The files around a command. -/
structure FileTree where
  /-- What stands at each path. -/
  entries : List (String × FileContent) := []
  deriving DecidableEq, Inhabited

namespace FileTree

/-- The names in a path, without the empty one and the one that stays in place. -/
def names (path : String) : List String :=
  ((Text.splitOn '/' path.toList).map String.ofList).filter fun name => name != "" && name != "."

/-- The steps of a path: its names, from the root for a path that begins with a slash. -/
def steps (path : String) : List String :=
  if path.startsWith "/" then "/" :: names path else names path

/-- The place that two dots lead to; there is none above the top, and the root leads to itself. -/
def above? (place : List String) : Option (List String) :=
  match place with
  | [] => none
  | ["/"] => some ["/"]
  | _ => some place.dropLast

/-- What stands where some steps from the top lead. -/
def at? (tree : FileTree) (place : List String) : Option FileContent :=
  if place.isEmpty then some .directory
  else
    match tree.entries.find? fun entry => steps entry.1 == place with
    | some (_, content) => some content
    | none =>
      if tree.entries.any fun entry => place.isPrefixOf (steps entry.1) then some .directory
      else none

/-- What stands at the end of a way that goes on from a place; every place on the way has to be a
directory. -/
def walk (tree : FileTree) (place : List String) : List String → Option FileContent
  | [] => tree.at? place
  | step :: rest =>
    match tree.at? place with
    | some .directory =>
      if step = ".." then
        match above? place with
        | some place => tree.walk place rest
        | none => none
      else tree.walk (place ++ [step]) rest
    | _ => none

/-- What stands at a path. Nothing stands at the empty path, and a path that ends with a slash leads
to a directory only. -/
def find? (tree : FileTree) (path : String) : Option FileContent :=
  if path.isEmpty then none
  else
    match tree.walk [] (steps path) with
    | some .directory => some .directory
    | found => if path.endsWith "/" || path.endsWith "/." then none else found

/-- The place that the steps of a path lead to, where two dots take the step before them back. -/
def place? (path : String) : Option (List String) := (steps path).foldlM follow []
where
  /-- The place after one more step. -/
  follow (place : List String) (step : String) : Option (List String) :=
    if step = ".." then above? place else some (place ++ [step])

/-- Whether a place lies in a directory. -/
def isInDirectory (tree : FileTree) (place : List String) : Bool :=
  tree.at? place.dropLast == some .directory

end FileTree

end OrderPipeline
