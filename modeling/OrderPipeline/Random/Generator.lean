/-!
# Random draws

A `Generator` is a counter of 64 bits whose mixed value is the next random word; the same seed gives
the same draws. `Generator.below` draws evenly among the first `bound` numbers: a word that would
favour some of them is drawn again.
-/

namespace OrderPipeline

/-- A source of random words. -/
structure Generator where
  /-- The counter. -/
  state : UInt64
  deriving DecidableEq, Inhabited

namespace Generator

/-- A draw: its value and the source after it. -/
abbrev Draw (α : Type) := StateM Generator α

/-- The mixed value of a counter. -/
def mix (state : UInt64) : UInt64 :=
  let z := (state ^^^ (state >>> 30)) * 0xBF58476D1CE4E5B9
  let z := (z ^^^ (z >>> 27)) * 0x94D049BB133111EB
  z ^^^ (z >>> 31)

/-- A word of 32 bits: the upper half of the next mixed value. -/
def word : Draw Nat := do
  let state := (← get).state + 0x9E3779B97F4A7C15
  set (Generator.mk state)
  return (mix state >>> 32).toNat

/-- How often a draw is repeated at most; each repetition is needed with a chance below one half. -/
def retries : Nat := 4096

/-- The largest lower half with which a word is taken for a number below `bound`. -/
def zone (bound : Nat) : Nat := bound * Nat.pow 2 (31 - bound.log2) - 1

/-- A number below `bound`, drawn at most `tries` times. -/
def drawBelow (bound : Nat) : (tries : Nat) → Draw Nat
  | 0 => return 0
  | tries + 1 => do
    let product := (← word) * bound
    if product % UInt32.size ≤ zone bound then return product / UInt32.size
    else drawBelow bound tries

/-- A number below `bound`, each with the same chance. -/
def below (bound : Nat) : Draw Nat := drawBelow bound retries

/-- The characters of a code, in the order of their draws. -/
def codeAlphabet : List Char :=
  "ABCDEFGHIJKLMNOPQRSTUVWXYZABCDEFGHIJKLMNOPQRSTUVWXYZ0123456789".toList

/-- A character of a code, drawn at most `tries` times; letters count twice. -/
def drawCodeChar : (tries : Nat) → Draw Char
  | 0 => return 'A'
  | tries + 1 => do
    match codeAlphabet[(← word) / Nat.pow 2 26]? with
    | some c => return c
    | none => drawCodeChar tries

/-- Some characters of a code. -/
def codeChars : (length : Nat) → Draw (List Char)
  | 0 => return []
  | length + 1 => return (← drawCodeChar retries) :: (← codeChars length)

/-- A code of capital letters and digits. -/
def code (length : Nat) : Draw String := return String.ofList (← codeChars length)

/-- One of several texts, each with the same chance. -/
def pick (texts : List String) : Draw String := return texts.getD (← below texts.length) ""

end Generator

end OrderPipeline
