import OrderPipeline.Text.Basic
import OrderPipeline.Text.Lower

/-!
# Lowering a piece of a text

A capital sigma is lowered by what stands around it, so a piece of a text may be lowered differently
within the text and by itself. `Text.lowerWithin` lowers a piece between what stands before and
after it, and `Text.lowerWithin_append` takes a text apart.

* `Text.lowerWithin_eq_iff` — a piece is lowered alike in two places just if each of its capital
  sigmas ends a word in both or in neither.
* `Text.nextIsCased_append_blank` — blanks around a piece make no difference.
-/

namespace OrderPipeline.Text

/-- Whether a letter between two texts ends a word: there is a letter before it and none after it.
The text before it is given nearest first. -/
def endsWord (before after : List Char) : Bool := nextIsCased before && !nextIsCased after

/-- The lower case of a character between two texts, the one before it nearest first. -/
def lowerBetween (before : List Char) (c : Char) (after : List Char) : List Char :=
  if c = capitalSigma then [if endsWord before after then finalSigma else innerSigma]
  else lowerChar c

/-- The lower case of a piece between two texts, the one before it nearest first. -/
def lowerWithin (before : List Char) : (piece after : List Char) → List Char
  | [], _ => []
  | c :: rest, after =>
    lowerBetween before c (rest ++ after) ++ lowerWithin (c :: before) rest after

variable {before after before' after' : List Char}

/-- A whole text is a piece with nothing after it. -/
theorem lowerAfter_eq (before cs : List Char) :
    lowerAfter before cs = lowerWithin before cs [] := by
  induction cs generalizing before with
  | nil => rfl
  | cons c rest ih => rw [lowerAfter, lowerWithin, List.append_nil, ih]; rfl

/-- Each of two pieces is lowered next to the other. -/
theorem lowerWithin_append (before first second after : List Char) :
    lowerWithin before (first ++ second) after =
      lowerWithin before first (second ++ after) ++
        lowerWithin (first.reverse ++ before) second after := by
  induction first generalizing before with
  | nil => rfl
  | cons c rest ih => simp [lowerWithin, ih]

/-- How long the lower case of a character is does not depend on what stands around it. -/
theorem length_lowerBetween (c : Char) :
    (lowerBetween before c after).length = (lowerBetween before' c after').length := by
  unfold lowerBetween
  split <;> rfl

/-- A capital sigma is lowered alike in two places where it ends a word in both or in neither. -/
theorem lowerBetween_eq_iff (c : Char) :
    lowerBetween before c after = lowerBetween before' c after' ↔
      (c = capitalSigma → endsWord before after = endsWord before' after') := by
  unfold lowerBetween
  split
  · cases endsWord before after <;> cases endsWord before' after' <;>
      simp_all [finalSigma, innerSigma]
  · simp_all

/-- A piece is lowered alike in two places just if each of its capital sigmas ends a word in both
places or in neither. -/
theorem lowerWithin_eq_iff (before before' piece after after' : List Char) :
    lowerWithin before piece after = lowerWithin before' piece after' ↔
      ∀ left right, piece = left ++ capitalSigma :: right →
        endsWord (left.reverse ++ before) (right ++ after) =
          endsWord (left.reverse ++ before') (right ++ after') := by
  induction piece generalizing before before' with
  | nil => simp [lowerWithin]
  | cons c rest ih =>
    have split : lowerWithin before (c :: rest) after = lowerWithin before' (c :: rest) after' ↔
        lowerBetween before c (rest ++ after) = lowerBetween before' c (rest ++ after') ∧
          lowerWithin (c :: before) rest after = lowerWithin (c :: before') rest after' :=
      ⟨fun same => List.append_inj same (length_lowerBetween c), fun ⟨first, others⟩ => by
        rw [lowerWithin, lowerWithin, first, others]⟩
    rw [split, lowerBetween_eq_iff, ih]
    constructor
    · rintro ⟨first, others⟩ left right whole
      cases left with
      | nil =>
        obtain ⟨rfl, rfl⟩ := List.cons.inj whole
        exact first rfl
      | cons d left =>
        obtain ⟨rfl, later⟩ := List.cons.inj whole
        simpa using others left right later
    · intro agree
      refine ⟨?_, fun left right whole => ?_⟩
      · rintro rfl
        exact agree [] rest rfl
      · simpa using agree (c :: left) right (by rw [whole]; rfl)

/-! ## Blanks -/

/-- The code points of the blanks. -/
def blankCodes : List Nat :=
  [9, 10, 11, 12, 13, 0x20, 0x85, 0xA0, 0x1680, 0x2000, 0x2001, 0x2002, 0x2003, 0x2004, 0x2005,
    0x2006, 0x2007, 0x2008, 0x2009, 0x200A, 0x2028, 0x2029, 0x202F, 0x205F, 0x3000]

/-- A blank is neither a letter nor passed over in the search for one. -/
theorem plain_of_isBlank {c : Char} (blank : isBlank c = true) :
    isCased c = false ∧ isCaseIgnorable c = false := by
  have listed : c.toNat ∈ blankCodes := by
    simp only [isBlank, Bool.or_eq_true, Bool.and_eq_true, decide_eq_true_eq, beq_iff_eq] at blank
    simp only [blankCodes, List.mem_cons, List.not_mem_nil]
    omega
  have plain : ∀ code ∈ blankCodes,
      inRanges casedRanges code = false ∧ inRanges caseIgnorableRanges code = false := by
    decide +kernel
  exact plain _ listed

/-- Blanks after a text hide no letter and show none. -/
theorem nextIsCased_append_blank (cs : List Char) {blanks : List Char}
    (blank : ∀ c ∈ blanks, isBlank c = true) : nextIsCased (cs ++ blanks) = nextIsCased cs := by
  induction cs with
  | nil =>
    cases blanks with
    | nil => rfl
    | cons c rest =>
      obtain ⟨uncased, unpassed⟩ := plain_of_isBlank (blank c List.mem_cons_self)
      simp [nextIsCased, uncased, unpassed]
  | cons c rest ih =>
    cases passed : isCaseIgnorable c with
    | true => simpa [nextIsCased, passed] using ih
    | false => simp [nextIsCased, passed]

end OrderPipeline.Text
