import OrderPipeline.Json.Reader

/-!
# Texts and blanks of configuration files

Readers for what stands between values and for the four kinds of strings: with escapes or without,
on one line or on several. A reader takes the characters that are left and gives what it read with
the characters after it, or nothing where the text breaks the rules.
-/

namespace OrderPipeline.Toml

/-- Whether a character may stand between the words of a line. -/
def isGap (c : Char) : Bool := c == ' ' || c == '\t'

/-- A text without the gap at its beginning. -/
def skipGap (cs : List Char) : List Char := cs.dropWhile isGap

/-- Whether a character may stand in a comment or a string: all but the control characters other
than the tab. -/
def isPlain (c : Char) : Bool := c == '\t' || (32 ≤ c.toNat && c.toNat != 127)

/-- The text after a line end, which is a line feed with or without a carriage return before it. -/
def afterNewline? : List Char → Option (List Char)
  | '\n' :: rest => some rest
  | '\r' :: '\n' :: rest => some rest
  | _ => none

/-- A text without the comment at its beginning, if there is one. -/
def skipComment : List Char → List Char
  | '#' :: rest => rest.dropWhile isPlain
  | cs => cs

/-- The text after the rest of a line, which may hold a gap and a comment. -/
def afterLine? (cs : List Char) : Option (List Char) :=
  match skipComment (skipGap cs) with
  | [] => some []
  | rest => afterNewline? rest

/-- The text after gaps, comments and line ends; `comment` tells whether a comment is open. Every
comment has to be ended by a line end. -/
def skipLines (comment : Bool) : List Char → Option (List Char)
  | [] => if comment then none else some []
  | '\n' :: rest => skipLines false rest
  | '\r' :: '\n' :: rest => skipLines false rest
  | c :: rest =>
    if comment then (if isPlain c then skipLines true rest else none)
    else if isGap c then skipLines false rest
    else if c = '#' then skipLines true rest
    else some (c :: rest)

/-- Puts a character in front of what was read. -/
def consChar (c : Char) (reading : Option (List Char × List Char)) :
    Option (List Char × List Char) :=
  reading.map fun (cs, rest) => (c :: cs, rest)

/-- The character that a short escape stands for. -/
def shortEscape? (c : Char) : Option Char :=
  match c with
  | '"' => some '"'
  | '\\' => some '\\'
  | 'b' => some (Char.ofNat 8)
  | 'f' => some (Char.ofNat 12)
  | 'n' => some '\n'
  | 'r' => some '\r'
  | 't' => some '\t'
  | _ => none

/-- The character with the code written by hexadecimal digits. -/
def charOfHex? (digits : List Char) : Option Char := do
  let code ← digits.foldl (fun code c => do return (← code) * 16 + (← Json.hexValue? c)) (some 0)
  if Nat.isValidChar code then some (Char.ofNat code) else none

/-- Reads an escape after its backslash. -/
def readEscape : List Char → Option (Char × List Char)
  | 'u' :: rest => do
    if rest.length < 4 then none
    return (← charOfHex? (rest.take 4), rest.drop 4)
  | 'U' :: rest => do
    if rest.length < 8 then none
    return (← charOfHex? (rest.take 8), rest.drop 8)
  | c :: rest => (shortEscape? c).map fun char => (char, rest)
  | [] => none

/-- Whether nothing but a gap is left on a line. -/
def endsLine (cs : List Char) : Bool := (afterNewline? (skipGap cs)).isSome

/-- Reads a string with escapes up to its closing quote. `escaped` counts the characters of an
escape that are still to be passed. -/
def readBasic (escaped : Nat) : List Char → Option (List Char × List Char)
  | [] => none
  | c :: rest =>
    match escaped with
    | left + 1 => readBasic left rest
    | 0 =>
      if c = '"' then some ([], rest)
      else if c = '\\' then
        match readEscape rest with
        | some (char, after) =>
          consChar char (readBasic (rest.length - after.length) rest)
        | none => none
      else if isPlain c then consChar c (readBasic 0 rest)
      else none

/-- Reads a string without escapes up to its closing apostrophe. -/
def readLiteral : List Char → Option (List Char × List Char)
  | [] => none
  | c :: rest =>
    if c = '\'' then some ([], rest)
    else if isPlain c then consChar c (readLiteral rest)
    else none

/-- What closes a string of several lines: three quotes, before which up to two more may stand as
part of the string. -/
def closing? (quote : Char) (cs : List Char) : Option (List Char × List Char) :=
  let count := (cs.takeWhile fun c => c == quote).length
  if count < 3 then none
  else
    let kept := min (count - 3) 2
    some (List.replicate kept quote, cs.drop (kept + 3))

/-- Reads a string of several lines up to its closing quotes; `escapes` tells whether the backslash
escapes. `passed` counts the characters of an escape that are still to be passed, and `trimming` is
set after a backslash at the end of a line, which drops all blanks up to the next text. -/
def readLines (quote : Char) (escapes : Bool) (passed : Nat) (trimming : Bool) :
    List Char → Option (List Char × List Char)
  | [] => none
  | c :: rest =>
    match passed with
    | left + 1 => readLines quote escapes left false rest
    | 0 =>
      if trimming && (isGap c || c == '\n' || (c == '\r' && rest.head? == some '\n')) then
        readLines quote escapes 0 true rest
      else
        match closing? quote (c :: rest) with
        | some found => some found
        | none =>
          if c = '\n' then consChar '\n' (readLines quote escapes 0 false rest)
          else if c = '\r' then
            if rest.head? = some '\n' then readLines quote escapes 0 false rest else none
          else if escapes && c == '\\' then
            if endsLine rest then readLines quote escapes 0 true rest
            else
              match readEscape rest with
              | some (char, after) =>
                consChar char (readLines quote escapes (rest.length - after.length) false rest)
              | none => none
          else if isPlain c then consChar c (readLines quote escapes 0 false rest)
          else none

/-- A text without the line end at its beginning, if there is one. -/
def skipNewline (cs : List Char) : List Char := (afterNewline? cs).getD cs

/-- Reads a string of any kind. -/
def readString (cs : List Char) : Option (String × List Char) :=
  let chars := match cs with
    | '"' :: '"' :: '"' :: rest => readLines '"' true 0 false (skipNewline rest)
    | '\'' :: '\'' :: '\'' :: rest => readLines '\'' false 0 false (skipNewline rest)
    | '"' :: rest => readBasic 0 rest
    | '\'' :: rest => readLiteral rest
    | _ => none
  chars.map fun (chars, rest) => (String.ofList chars, rest)

end OrderPipeline.Toml
