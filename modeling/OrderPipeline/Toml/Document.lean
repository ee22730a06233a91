import OrderPipeline.Toml.Scalar
import OrderPipeline.Toml.Tree

/-!
# Configuration files as values

`Toml.ofText?` reads a whole file: its lines give the changes that build up its value. A file that
breaks the rules anywhere has no value.
-/

namespace OrderPipeline.Toml

/-- How deeply lists and tables may stand in one another within a line, and how many parts a name
may have. -/
def nestingLimit : Nat := 80

/-- Whether a character may stand in a name without quotes. -/
def isNameChar (c : Char) : Bool := c.isAlphanum || c == '_' || c == '-'

/-- Reads one part of a name. -/
def readNamePart (cs : List Char) : Option (String × List Char) :=
  match cs with
  | '"' :: rest => (readBasic 0 rest).map fun (chars, rest) => (String.ofList chars, rest)
  | '\'' :: rest => (readLiteral rest).map fun (chars, rest) => (String.ofList chars, rest)
  | _ =>
    let found := cs.takeWhile isNameChar
    if found.isEmpty then none else some (String.ofList found, cs.drop found.length)

/-- Reads the parts of a dotted name with the gaps around them; there are fewer than `parts`. -/
def readName : (parts : Nat) → List Char → Option (List String × List Char)
  | 0, _ => none
  | parts + 1, cs => do
    let (part, rest) ← readNamePart (skipGap cs)
    match skipGap rest with
    | '.' :: rest =>
      let (others, rest) ← readName parts rest
      return (part :: others, rest)
    | rest => return ([part], rest)

/-- Reads a name as the path to a table and the name in it. -/
def readPath (cs : List Char) : Option ((List String × String) × List Char) := do
  let (parts, rest) ← readName (nestingLimit - 1) cs
  return ((parts.dropLast, ← parts.getLast?), rest)

mutual

/-- Reads a value; `fuel` is more than twice the number of characters, and `depth` counts the lists
and tables around the value. -/
def readValue : (fuel depth : Nat) → List Char → Option (Value × List Char)
  | 0, _, _ => none
  | fuel + 1, depth, cs =>
    match cs with
    | '"' :: _ | '\'' :: _ => (readString cs).map fun (text, rest) => (.string text, rest)
    | '[' :: rest => do
      if nestingLimit ≤ depth + 1 then none
      let (items, rest) ← readItems fuel (depth + 1) rest
      return (.array items, rest)
    | '{' :: rest => do
      if nestingLimit ≤ depth + 1 then none
      let (changes, rest) ← match skipGap rest with
        | '}' :: rest => some ([], rest)
        | rest => readEntries fuel (depth + 1) rest
      return (← build? changes, rest)
    | _ => readScalar cs

/-- Reads the values of a list up to its closing bracket. -/
def readItems : (fuel depth : Nat) → List Char → Option (List Value × List Char)
  | 0, _, _ => none
  | fuel + 1, depth, cs => do
    match ← skipLines false cs with
    | ']' :: rest => return ([], rest)
    | start =>
      let (item, rest) ← readValue fuel depth start
      match ← skipLines false rest with
      | ',' :: rest =>
        let (items, rest) ← readItems fuel depth rest
        return (item :: items, rest)
      | ']' :: rest => return ([item], rest)
      | _ => none

/-- Reads the entries of a table in braces up to its closing brace. -/
def readEntries : (fuel depth : Nat) → List Char → Option (List Change × List Char)
  | 0, _, _ => none
  | fuel + 1, depth, cs => do
    let ((path, name), rest) ← readPath cs
    let (value, rest) ← readValue fuel depth (skipGap (← after? '=' rest))
    let change := Change.assign path name value
    match skipGap rest with
    | ',' :: rest =>
      let (changes, rest) ← readEntries fuel depth rest
      return (change :: changes, rest)
    | '}' :: rest => return ([change], rest)
    | _ => none

end

/-- Reads a header after its opening bracket; two brackets open one more table of a list. The parts
of the name lead to the table that the following lines fill. -/
def readHeader (cs : List Char) : Option ((List String × Change) × List Char) := do
  match cs with
  | '[' :: cs =>
    let ((path, name), rest) ← readPath cs
    let rest ← after? ']' (← after? ']' rest)
    return ((path ++ [name], Change.along (Change.extend name) .implied path), rest)
  | _ =>
    let ((path, name), rest) ← readPath cs
    let rest ← after? ']' rest
    return ((path ++ [name], Change.along (Change.define name) .implied path), rest)

/-- Reads the lines of a file; `current` leads to the table that is being filled. -/
def readFile : (fuel : Nat) → (current : List String) → List Char → Option (List Change)
  | 0, _, _ => none
  | fuel + 1, current, cs =>
    match skipGap cs with
    | [] => some []
    | '[' :: rest => do
      let ((current, change), rest) ← readHeader rest
      return change :: (← readFile fuel current (← afterLine? rest))
    | c :: rest =>
      if c = '#' ∨ c = '\n' ∨ c = '\r' then do
        readFile fuel current (← afterLine? (c :: rest))
      else do
        let ((path, name), rest) ← readPath (c :: rest)
        let start := skipGap (← after? '=' rest)
        let (value, rest) ← readValue (2 * start.length + 2) 0 start
        let change := Change.along (Change.assign path name value) .implied current
        return change :: (← readFile fuel current (← afterLine? rest))

/-- The value of a file; a mark of the byte order at its beginning does not count. -/
def ofText? (text : String) : Option Value := do
  let cs := match text.toList with
    | c :: rest => if c = Char.ofNat 0xFEFF then rest else c :: rest
    | [] => []
  build? (← readFile (cs.length + 1) [] cs)

end OrderPipeline.Toml
