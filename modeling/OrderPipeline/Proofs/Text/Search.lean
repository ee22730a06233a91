import OrderPipeline.Proofs.Text.Lowering
import OrderPipeline.Tracker

/-!
# Searching for a piece of a name

A search term that stands in a customer's name finds the customer when the piece of the name is
lowered as the term is by itself (`Item.matchesSearch_of_piece`), which is so for every term without
a capital sigma. A capital sigma may end a word in the term and not in the name, or the other way
round, and then the term may find nothing (`unfound_piece_christos`).
-/

namespace OrderPipeline

namespace Text

/-- The blanks that are trimmed off a text stand at its two ends. -/
theorem exists_trimEnds (cs : List Char) :
    ∃ front back, cs = front ++ trimEnds cs ++ back ∧ (∀ c ∈ front, isBlank c = true) ∧
      ∀ c ∈ back, isBlank c = true := by
  have back : dropBlank cs = trimEnds cs ++ ((dropBlank cs).reverse.takeWhile isBlank).reverse := by
    rw [trimEnds, dropBlankEnd, ← List.reverse_append, dropBlank, dropBlank,
      List.takeWhile_append_dropWhile, List.reverse_reverse]
  refine ⟨cs.takeWhile isBlank, ((dropBlank cs).reverse.takeWhile isBlank).reverse, ?_, ?_, ?_⟩
  · rw [List.append_assoc, ← back, dropBlank, List.takeWhile_append_dropWhile]
  · exact List.all_eq_true.1 List.all_takeWhile
  · exact fun c isIn => List.all_eq_true.1 List.all_takeWhile c (List.mem_reverse.1 isIn)

/-- Whether each capital sigma of a piece ends a word between two texts just if it ends one in the
piece by itself. -/
def SigmasStay (before piece after : List Char) : Prop :=
  ∀ left right, piece = left ++ capitalSigma :: right →
    endsWord (left.reverse ++ before.reverse) (right ++ after) = endsWord left.reverse right

/-- The capital sigmas of a piece, looked at one after another. -/
theorem sigmasStay_iff {before piece after : List Char} :
    SigmasStay before piece after ↔ ∀ i < piece.length, piece[i]? = some capitalSigma →
      endsWord ((piece.take i).reverse ++ before.reverse) (piece.drop (i + 1) ++ after) =
        endsWord (piece.take i).reverse (piece.drop (i + 1)) := by
  constructor
  · intro stay i inside isSigma
    rw [List.getElem?_eq_getElem inside, Option.some.injEq] at isSigma
    refine stay _ _ ?_
    rw [← isSigma, ← List.drop_eq_getElem_cons inside, List.take_append_drop]
  · rintro stay left right rfl
    simpa using stay left.length (by simp) (by simp)

instance (before piece after : List Char) : Decidable (SigmasStay before piece after) :=
  decidable_of_iff' _ sigmasStay_iff

/-- Without a capital sigma there is nothing that could change. -/
theorem sigmasStay_of_not_mem {before piece after : List Char} (absent : capitalSigma ∉ piece) :
    SigmasStay before piece after := by
  rintro left right rfl
  exact absurd (by simp) absent

/-- A text is lowered piece by piece. -/
theorem lowerAfter_pieces (before piece after : List Char) :
    lowerAfter [] (before ++ piece ++ after) =
      lowerWithin [] before (piece ++ after) ++ lowerWithin before.reverse piece after ++
        lowerWithin (piece.reverse ++ before.reverse) after [] := by
  rw [lowerAfter_eq, List.append_assoc, lowerWithin_append, lowerWithin_append, List.append_nil,
    List.append_nil, List.append_nil, List.append_assoc]

/-- A piece is lowered in a text as it is by itself just if its capital sigmas stay as they are. -/
theorem lowerWithin_eq_lowerAfter_iff (before piece after : List Char) :
    lowerWithin before.reverse piece after = lowerAfter [] piece ↔
      SigmasStay before piece after := by
  rw [lowerAfter_eq, lowerWithin_eq_iff]
  simp [SigmasStay]

/-- What stays as it is in a piece stays so when blanks are trimmed off the piece. -/
theorem SigmasStay.trim {before front core back after : List Char}
    (blankFront : ∀ c ∈ front, isBlank c = true) (blankBack : ∀ c ∈ back, isBlank c = true)
    (stay : SigmasStay before (front ++ core ++ back) after) :
    SigmasStay (before ++ front) core (back ++ after) := by
  rintro left right rfl
  have whole := stay (front ++ left) (right ++ back) (by simp)
  -- by itself the trimmed piece has no blanks around it, and they do not count
  have trimmed : endsWord (front ++ left).reverse (right ++ back) =
      endsWord left.reverse right := by
    unfold endsWord
    rw [List.reverse_append, nextIsCased_append_blank _ (by simpa using blankFront),
      nextIsCased_append_blank _ blankBack]
  rw [← trimmed, ← whole]
  simp

end Text

namespace Item

variable {item : Item} {term : String} {before after : List Char}

/-- A piece of the customer's name finds the customer when its capital sigmas stay as they are. -/
theorem matchesSearch_of_piece (isPiece : item.customerName.toList = before ++ term.toList ++ after)
    (stay : Text.SigmasStay before term.toList after) : item.matchesSearch term = true := by
  obtain ⟨front, back, split, blankFront, blankBack⟩ := Text.exists_trimEnds term.toList
  have name : item.customerName.toList =
      (before ++ front) ++ Text.trimEnds term.toList ++ (back ++ after) := by
    rw [isPiece]
    conv => lhs; rw [split]
    simp
  rw [split] at stay
  have core := (Text.lowerWithin_eq_lowerAfter_iff _ _ _).2 (stay.trim blankFront blankBack)
  rw [matchesSearch, Bool.or_eq_true, Text.occursIn_iff]
  refine .inr ?_
  rw [Text.lower, Text.lower, String.toList_ofList, String.toList_ofList, Text.toList_trim, name,
    Text.lowerAfter_pieces, core]
  exact List.infix_append _ _ _

end Item

/-- A search term that stands in a customer's name finds the customer, among the pending orders of
the stage at which the order stands and in the history of each other stage that it was handled at,
unless the term has a capital sigma that ends a word in the name and not in the term, or in the term
and not in the name. -/
theorem search_finds_pieces (item : Item) (term : String) (before after : List Char)
    (isPiece : item.customerName.toList = before ++ term.toList ++ after)
    (stay : Text.capitalSigma ∈ term.toList → Text.SigmasStay before term.toList after) :
    item.matchesSearch term = true ∧
      ∀ tracker : Tracker, item ∈ tracker.items →
        item ∈ tracker.pendingItems item.stage term ∧
          ∀ stage : Stage, item.hasLogFor stage = true → item.stage ≠ stage →
            item ∈ tracker.historyItems stage term := by
  have found : item.matchesSearch term = true := by
    refine Item.matchesSearch_of_piece isPiece ?_
    by_cases sigma : Text.capitalSigma ∈ term.toList
    · exact stay sigma
    · exact Text.sigmasStay_of_not_mem sigma
  refine ⟨found, fun tracker isIn => ⟨?_, fun stage handled elsewhere => ?_⟩⟩
  · exact List.mem_filter.2 ⟨isIn, by simp [found]⟩
  · exact List.mem_filter.2 ⟨isIn, by simp [found, handled, elsewhere]⟩

/-- An order of a customer whose name has a sigma inside and one at its end, which is now at the
second stage. -/
def christos : Item where
  id := ⟨"LEAD-1"⟩
  customerName := "ΧΡΗΣΤΟΣ"
  phone := "9000000001"
  siteLocation := "Athens"
  stage := .stock
  logs := [⟨.followup, .epoch, .empty⟩]

/-- The second half of the name finds the order. -/
theorem search_finds_pieces_christos :
    christos.customerName.toList = "ΧΡΗ".toList ++ "ΣΤΟΣ".toList ++ [] ∧
      (Text.capitalSigma ∈ "ΣΤΟΣ".toList →
        Text.SigmasStay "ΧΡΗ".toList "ΣΤΟΣ".toList []) ∧
      christos ∈ Tracker.pendingItems ⟨[christos], ⟨[]⟩⟩ .stock "ΣΤΟΣ" ∧
      christos ∈ Tracker.historyItems ⟨[christos], ⟨[]⟩⟩ .followup "ΣΤΟΣ" := by
  have isPiece : christos.customerName.toList = "ΧΡΗ".toList ++ "ΣΤΟΣ".toList ++ [] := by
    decide +kernel
  have stay : Text.SigmasStay "ΧΡΗ".toList "ΣΤΟΣ".toList [] := by decide +kernel
  obtain ⟨-, listed⟩ := search_finds_pieces christos "ΣΤΟΣ" _ _ isPiece fun _ => stay
  obtain ⟨pending, handled⟩ := listed ⟨[christos], ⟨[]⟩⟩ List.mem_cons_self
  exact ⟨isPiece, fun _ => stay, pending, handled .followup (by decide) (by decide)⟩

/-- The first half of the name does not: its sigma ends a word there, and none in the name. -/
theorem unfound_piece_christos :
    christos.customerName.toList = [] ++ "ΧΡΗΣ".toList ++ "ΤΟΣ".toList ∧
      christos.matchesSearch "ΧΡΗΣ" = false ∧
      christos ∉ Tracker.pendingItems ⟨[christos], ⟨[]⟩⟩ .stock "ΧΡΗΣ" := by
  decide +kernel

end OrderPipeline
