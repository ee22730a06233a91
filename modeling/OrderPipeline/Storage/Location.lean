import OrderPipeline.Text.Basic
import OrderPipeline.Text.Utf8

/-!
# Where a database is

The address of a database names a file, in which bytes may be written as a percent sign and two
hexadecimal digits, or asks for a database in memory; after a question mark it may say how the
database is to be used. `Location.ofAddress` reads an address.
-/

namespace OrderPipeline

/-- Where a database is and how it is used. -/
structure Location where
  /-- The path of its file; a database without one is gone when it is closed. -/
  path : Option String
  /-- Whether it must not be changed. -/
  readOnly : Bool := false
  deriving DecidableEq

/-- Why an address cannot be read. -/
inductive LocationFault where
  /-- The bytes of the path are no text. -/
  | path (fault : Utf8.Fault)
  /-- There is no such parameter. -/
  | unknownParameter (name : String)
  /-- The parameter has no such value. -/
  | unknownValue (name value : String)
  deriving DecidableEq

/-- What is said about an address that cannot be read. -/
def LocationFault.message : LocationFault → String
  | path fault => fault.message
  | unknownParameter name =>
    "unknown query parameter `" ++ name ++ "` while parsing connection URL"
  | unknownValue name value => "unknown value " ++ Text.quoted value ++ " for `" ++ name ++ "`"

namespace Location

/-! ## Percent signs -/

/-- The number that a hexadecimal digit stands for. -/
def hexValue? (byte : UInt8) : Option UInt8 :=
  if 0x30 ≤ byte ∧ byte ≤ 0x39 then some (byte - 0x30)
  else if 0x41 ≤ byte ∧ byte ≤ 0x46 then some (byte - 0x37)
  else if 0x61 ≤ byte ∧ byte ≤ 0x66 then some (byte - 0x57)
  else none

/-- Bytes with every percent sign that two hexadecimal digits follow replaced by the byte that they
spell. -/
def unescape : List UInt8 → List UInt8
  | 0x25 :: high :: low :: rest =>
    match hexValue? high, hexValue? low with
    | some h, some l => (h * 16 + l) :: unescape rest
    | _, _ => 0x25 :: unescape (high :: low :: rest)
  | byte :: rest => byte :: unescape rest
  | [] => []
  termination_by bytes => bytes.length

/-! ## Parameters -/

/-- The text of a part of a parameter, where a plus sign stands for a blank. -/
def parameterText (cs : List Char) : String :=
  let spaced := cs.map fun c => if c = '+' then ' ' else c
  Utf8.decodeLossy (unescape (Utf8.encode (String.ofList spaced)))

/-- The parameters with their values. -/
def parameters (query : List Char) : List (String × String) :=
  ((Text.splitOn '&' query).filter fun part => !part.isEmpty).map fun part =>
    (parameterText (part.takeWhile (· != '=')),
      parameterText ((part.dropWhile (· != '=')).drop 1))

/-- The values that a parameter may have; any parameter not listed is unknown. -/
def valuesOf? : String → Option (List String)
  | "mode" => some ["ro", "rw", "rwc", "memory"]
  | "cache" => some ["private", "shared"]
  | "immutable" => some ["true", "1", "false", "0"]
  | _ => none

/-- What is wrong with a parameter; any name will do for a file system. -/
def parameterFault? (parameter : String × String) : Option LocationFault :=
  match valuesOf? parameter.1 with
  | some values =>
    if parameter.2 ∈ values then none else some (.unknownValue parameter.1 parameter.2)
  | none => if parameter.1 = "vfs" then none else some (.unknownParameter parameter.1)

/-! ## Addresses -/

/-- A list without what stands in front of it, as often as it does; `fuel` bounds how often. -/
def dropFront (front : List Char) : (fuel : Nat) → List Char → List Char
  | 0, cs => cs
  | fuel + 1, cs =>
    if front.isPrefixOf cs then dropFront front fuel (cs.drop front.length) else cs

/-- An address without its scheme. -/
def withoutScheme (cs : List Char) : List Char :=
  let cs := dropFront "sqlite://".toList cs.length cs
  dropFront "sqlite:".toList cs.length cs

/-- The location that an address names. -/
def ofAddress (address : String) : Except LocationFault Location := do
  let cs := withoutScheme address.toList
  let name := String.ofList (cs.takeWhile (· != '?'))
  let path ← (Utf8.decode (unescape (Utf8.encode name))).mapError .path
  let parameters := parameters ((cs.dropWhile (· != '?')).drop 1)
  match parameters.findSome? parameterFault? with
  | some fault => throw fault
  | none =>
    let inMemory := name == ":memory:" || path.isEmpty || parameters.contains ("mode", "memory")
    return ⟨if inMemory then none else some path, parameters.contains ("mode", "ro")⟩

end Location

end OrderPipeline
