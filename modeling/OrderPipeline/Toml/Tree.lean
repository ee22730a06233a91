import OrderPipeline.Toml.Value

/-!
# Tables under construction

The lines of a file build up one tree of tables. Whether a line may add to a table depends on how
the table came to be (`Origin`): a table is defined by one header only, a dotted name adds to tables
that dotted names made, and to no others. `Tree.toValue` forgets all of that.
-/

namespace OrderPipeline.Toml

/-- How a table came to be. -/
inductive Origin where
  /-- It is the whole file, or it has a header or braces of its own. -/
  | defined
  /-- The header of a table inside it was read. -/
  | implied
  /-- A dotted name led through it. -/
  | dotted
  deriving DecidableEq

/-- A part of a file under construction. -/
inductive Tree where
  /-- A finished value. -/
  | value (value : Value)
  /-- A table. -/
  | table (origin : Origin) (entries : List (String × Tree))
  /-- A list of tables with headers of their own, of which the last one is under construction. -/
  | tables (earlier : List (List (String × Tree))) (last : List (String × Tree))

/-- The entries of a table under construction. -/
abbrev Branch := List (String × Tree)

/-- A change of a table; there is none where the table does not allow it. -/
abbrev Change := Origin → Branch → Option (Origin × Branch)

namespace Branch

/-- The entries with another tree under a name, which is added if it is not there. -/
def put (name : String) (tree : Tree) : Branch → Branch
  | [] => [(name, tree)]
  | (other, old) :: rest =>
    if name = other then (name, tree) :: rest else (other, old) :: put name tree rest

end Branch

/-- Changes the table that a path leads to. A missing table on the way is made with the origin
`made`; in a list of tables the way leads into the last one, and a dotted name does not lead into a
table that is defined elsewhere. -/
def Change.along (change : Change) (made : Origin) : (path : List String) → Change
  | [], origin, branch => change origin branch
  | name :: path, origin, branch =>
    let into := along change made path
    match branch.lookup name with
    | none =>
      (into made []).map fun (inner, entries) =>
        (origin, Branch.put name (.table inner entries) branch)
    | some (.value _) => none
    | some (.tables earlier last) =>
      (into .defined last).map fun (_, entries) =>
        (origin, Branch.put name (.tables earlier entries) branch)
    | some (.table inner entries) =>
      if made = .dotted ∧ inner = .defined then none
      else
        (into inner entries).map fun (inner, entries) =>
          (origin, Branch.put name (.table inner entries) branch)

/-- Adds a value under a name that is not taken. A table takes a plain name unless dotted names made
it, and the end of a dotted name only if they did (`isDotted`). -/
def Change.add (isDotted : Bool) (name : String) (value : Value) : Change := fun origin branch =>
  if (origin == .dotted) != isDotted || (branch.lookup name).isSome then none
  else some (origin, Branch.put name (.value value) branch)

/-- Adds a value at the end of a dotted name. -/
def Change.assign (path : List String) (name : String) (value : Value) : Change :=
  Change.along (Change.add (!path.isEmpty) name value) .dotted path

/-- Opens the table of a header under its last name: a new one, or one that is only implied so
far. -/
def Change.define (name : String) : Change := fun origin branch =>
  match branch.lookup name with
  | none => some (origin, Branch.put name (.table .defined []) branch)
  | some (.table .implied entries) =>
    some (origin, Branch.put name (.table .defined entries) branch)
  | some _ => none

/-- Opens one more table in the list of tables under the last name of a header. -/
def Change.extend (name : String) : Change := fun origin branch =>
  match branch.lookup name with
  | none => some (origin, Branch.put name (.tables [] []) branch)
  | some (.tables earlier last) =>
    some (origin, Branch.put name (.tables (earlier ++ [last]) []) branch)
  | some _ => none

mutual

/-- The value of a finished part. -/
def Tree.toValue : Tree → Value
  | .value finished => finished
  | .table _ entries => .table (Tree.toEntries entries)
  | .tables earlier last => .array (Tree.toTables earlier ++ [.table (Tree.toEntries last)])

/-- The values of finished entries. -/
def Tree.toEntries : List (String × Tree) → List (String × Value)
  | [] => []
  | (name, tree) :: rest => (name, tree.toValue) :: Tree.toEntries rest

/-- The values of finished tables. -/
def Tree.toTables : List (List (String × Tree)) → List Value
  | [] => []
  | entries :: rest => .table (Tree.toEntries entries) :: Tree.toTables rest

end

/-- The value of a whole that is built up by changes from an empty table. -/
def build? (changes : List Change) : Option Value := do
  let (_, branch) ← changes.foldlM (fun (origin, branch) change => change origin branch)
    (Origin.defined, ([] : Branch))
  return .table (Tree.toEntries branch)

end OrderPipeline.Toml
