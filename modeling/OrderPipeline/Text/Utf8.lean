/-!
# Text in bytes

`Utf8.decode` reads bytes as text and says where they stop being text; `Utf8.decodeLossy` puts a
replacement character where they do and goes on. A broken character covers the bytes up to the
first one that cannot follow those before it.
-/

namespace OrderPipeline.Utf8

/-- How a character that does not fit in one byte begins. -/
structure Lead where
  /-- How many bytes follow. -/
  following : Nat
  /-- The least byte that may come next. -/
  low : UInt8
  /-- The greatest byte that may come next. -/
  high : UInt8

/-- What a first byte announces. -/
def lead? (byte : UInt8) : Option Lead :=
  if 0xC2 ≤ byte ∧ byte ≤ 0xDF then some ⟨1, 0x80, 0xBF⟩
  else if byte = 0xE0 then some ⟨2, 0xA0, 0xBF⟩
  else if byte = 0xED then some ⟨2, 0x80, 0x9F⟩
  else if 0xE1 ≤ byte ∧ byte ≤ 0xEF then some ⟨2, 0x80, 0xBF⟩
  else if byte = 0xF0 then some ⟨3, 0x90, 0xBF⟩
  else if 0xF1 ≤ byte ∧ byte ≤ 0xF3 then some ⟨3, 0x80, 0xBF⟩
  else if byte = 0xF4 then some ⟨3, 0x80, 0x8F⟩
  else none

/-- The leading bytes of a list that may follow a first byte. -/
def Lead.tail (lead : Lead) : List UInt8 → List UInt8
  | [] => []
  | byte :: rest =>
    if lead.low ≤ byte ∧ byte ≤ lead.high then
      byte :: (rest.take (lead.following - 1)).takeWhile fun b => 0x80 ≤ b && b ≤ 0xBF
    else []

/-- The number that the bytes of a character spell: the low bits of the first byte, which depend on
how many follow, and six bits of each of the others. -/
def codePoint (first : UInt8) (tail : List UInt8) : Nat :=
  tail.foldl (fun code byte => code * 64 + byte.toNat % 64)
    (first.toNat % Nat.pow 2 (6 - tail.length))

/-- What stands at the beginning of some bytes. -/
inductive Piece where
  /-- A character of so many bytes. -/
  | char (c : Char) (length : Nat)
  /-- Bytes that begin no character. -/
  | invalid (length : Nat)
  /-- The beginning of a character that is cut off. -/
  | cut
  deriving DecidableEq

/-- What a first byte and the bytes after it begin with. -/
def piece (first : UInt8) (rest : List UInt8) : Piece :=
  if first < 0x80 then .char (Char.ofNat first.toNat) 1
  else
    match lead? first with
    | none => .invalid 1
    | some lead =>
      let tail := lead.tail rest
      if tail.length = lead.following then
        .char (Char.ofNat (codePoint first tail)) (tail.length + 1)
      else if tail.length = rest.length then .cut
      else .invalid (tail.length + 1)

/-- Why bytes are not a text. -/
inductive Fault where
  /-- Some bytes begin no character. -/
  | invalid (length offset : Nat)
  /-- The last character is cut off. -/
  | cut (offset : Nat)
  deriving DecidableEq

/-- What is said about bytes that are not a text. -/
def Fault.message : Fault → String
  | invalid length offset =>
    "invalid utf-8 sequence of " ++ toString length ++ " bytes from index " ++ toString offset
  | cut offset => "incomplete utf-8 byte sequence from index " ++ toString offset

/-- Reads bytes as text from an offset on; `skip` bytes still belong to the character before. -/
def decodeFrom (offset skip : Nat) : List UInt8 → Except Fault (List Char)
  | [] => .ok []
  | byte :: rest =>
    match skip with
    | skip + 1 => decodeFrom (offset + 1) skip rest
    | 0 =>
      match piece byte rest with
      | .char c length => (decodeFrom (offset + 1) (length - 1) rest).map (c :: ·)
      | .invalid length => .error (.invalid length offset)
      | .cut => .error (.cut offset)

/-- The text that bytes spell. -/
def decode (bytes : List UInt8) : Except Fault String := (decodeFrom 0 0 bytes).map String.ofList

/-- The character that stands for bytes that are not a text. -/
def replacement : Char := Char.ofNat 0xFFFD

/-- Reads bytes as text with replacements; `skip` bytes still belong to the character before. -/
def lossyChars (skip : Nat) : List UInt8 → List Char
  | [] => []
  | byte :: rest =>
    match skip with
    | skip + 1 => lossyChars skip rest
    | 0 =>
      match piece byte rest with
      | .char c length => c :: lossyChars (length - 1) rest
      | .invalid length => replacement :: lossyChars (length - 1) rest
      | .cut => [replacement]

/-- The text that bytes spell, with replacements where they spell none. -/
def decodeLossy (bytes : List UInt8) : String := String.ofList (lossyChars 0 bytes)

/-- The bytes of a text. -/
def encode (text : String) : List UInt8 := text.toList.flatMap String.utf8EncodeChar

end OrderPipeline.Utf8
