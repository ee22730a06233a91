import OrderPipeline.Proofs.Json.Scalar
import Mathlib.Data.List.Forall2

/-!
# Reading written values

A value is read from its compact form as a tree that shows it (`Node.Shows`): the same value, with
nothing broken, out of range or nested too deeply. For that the whole numbers in the value have to
fit a word, and its lists and objects must not be nested too deeply (`Json.Fits`).

* `readsBack_of_fits` — every such value is read up to its end, whatever follows it.
* `Document.ofText_text` — a whole text is read up to its end.
* `Node.Shows.valueFault` — no fault is found in a tree that shows a value.
-/

namespace OrderPipeline

/-- Whether a value can be read back: its numbers fit a word, and at most `room` lists and objects
stand in one another. -/
inductive Json.Fits : (room : Nat) → Json → Prop where
  /-- The absent value. -/
  | null {room : Nat} : Fits room .null
  /-- A truth value. -/
  | bool {room : Nat} (value : Bool) : Fits room (.bool value)
  /-- A natural number that fits a word. -/
  | whole {room n : Nat} (small : n < wordLimit) : Fits room (.whole n)
  /-- A text. -/
  | string {room : Nat} (text : String) : Fits room (.string text)
  /-- A list of values that fit the room inside it. -/
  | array {room : Nat} {items : List Json} (inside : ∀ item ∈ items, Fits room item) :
    Fits (room + 1) (.array items)
  /-- An object with values that fit the room inside it. -/
  | object {room : Nat} {entries : List (String × Json)}
    (inside : ∀ entry ∈ entries, Fits room entry.2) : Fits (room + 1) (.object entries)

/-- More room does no harm. -/
theorem Json.Fits.mono {room wider : Nat} {value : Json} (fits : value.Fits room)
    (le : room ≤ wider) : value.Fits wider := by
  induction fits generalizing wider with
  | null => exact .null
  | bool value => exact .bool value
  | whole small => exact .whole small
  | string text => exact .string text
  -- there is room for one more level, since the narrower room had it
  | array _ ih =>
    obtain ⟨wider, rfl⟩ := Nat.exists_eq_add_of_lt le
    exact .array fun item member => ih item member (by omega)
  | object _ ih =>
    obtain ⟨wider, rfl⟩ := Nat.exists_eq_add_of_lt le
    exact .object fun entry member => ih entry member (by omega)

namespace Json

mutual

/-- Whether a tree is that of a value, with nothing in it that a reader objects to. -/
inductive Node.Shows : Node → Json → Prop where
  /-- The absent value. -/
  | null (span : Span) : Node.Shows (.null span) .null
  /-- A truth value. -/
  | bool (span : Span) (value : Bool) : Node.Shows (.bool span value) (.bool value)
  /-- A whole number. -/
  | whole (span : Span) (n : Int) : Node.Shows (.number span (.ok (.whole n))) (.whole n)
  /-- A text. -/
  | string (span : Span) (text : String) : Node.Shows (.string span (.ok text)) (.string text)
  /-- A list. -/
  | array {span : Span} {nodes : List Node} {items : List Json} (shallow : span.depth < depthLimit)
    (shown : List.Forall₂ Node.Shows nodes items) : Node.Shows (.array span nodes) (.array items)
  /-- An object. -/
  | object {span : Span} {fields : List (Name × Node)} {entries : List (String × Json)}
    (shallow : span.depth < depthLimit) (shown : List.Forall₂ EntryShows fields entries) :
    Node.Shows (.object span fields) (.object entries)

/-- Whether a field as it stands in a text has a name and shows a value. -/
inductive EntryShows : Name × Node → String × Json → Prop where
  /-- A name and a value. -/
  | intro {name : Name} {node : Node} {text : String} {value : Json} (named : name.text = .ok text)
    (shown : node.Shows value) : EntryShows (name, node) (text, value)

end

/-! ## Lists and objects -/

/-- The commas and values after the first value of a list. -/
def itemTail (items : List Json) : List Char := items.flatMap fun item => ',' :: item.chars

/-- A field as it is written. -/
def fieldChars (entry : String × Json) : List Char :=
  stringChars entry.1 ++ ':' :: entry.2.chars

theorem length_le_fieldChars (entry : String × Json) :
    entry.2.chars.length < (fieldChars entry).length := by
  rw [fieldChars, List.length_append, List.length_cons]
  omega

/-- The commas and fields after the first field of an object. -/
def entryTail (entries : List (String × Json)) : List Char :=
  entries.flatMap fun entry => ',' :: fieldChars entry

@[simp] theorem itemTail_cons (item : Json) (items : List Json) :
    itemTail (item :: items) = ',' :: (item.chars ++ itemTail items) := rfl

@[simp] theorem entryTail_cons (entry : String × Json) (entries : List (String × Json)) :
    entryTail (entry :: entries) = ',' :: (fieldChars entry ++ entryTail entries) := rfl

/-- A list is written as its first value and then the others, each after a comma. -/
theorem itemChars_cons (item : Json) (items : List Json) :
    itemChars (item :: items) = item.chars ++ itemTail items := by
  induction items generalizing item with
  | nil => rw [itemChars, itemTail, List.flatMap_nil, List.append_nil]
  | cons next items ih =>
    rw [itemChars, ih]
    · rfl
    · exact List.cons_ne_nil _ _

theorem entryChars_cons (entry : String × Json) (entries : List (String × Json)) :
    entryChars (entry :: entries) = fieldChars entry ++ entryTail entries := by
  induction entries generalizing entry with
  | nil => rw [entryChars, entryTail, List.flatMap_nil, List.append_nil, fieldChars]
  | cons next entries ih =>
    rw [entryChars, ih]
    · simp only [entryTail_cons, fieldChars, List.append_assoc, List.cons_append]
    · exact List.cons_ne_nil _ _

/-- What follows a value in a list is a comma or the end. -/
theorem ends_itemTail (items : List Json) (rest : List Char) :
    Ends (itemTail items ++ ']' :: rest) := by
  cases items with
  | nil => exact Ends.cons (by decide) rest
  | cons item items => exact Ends.cons (by decide) _

/-- What follows a value in an object is a comma or the end. -/
theorem ends_entryTail (entries : List (String × Json)) (rest : List Char) :
    Ends (entryTail entries ++ '}' :: rest) := by
  cases entries with
  | nil => exact Ends.cons (by decide) rest
  | cons entry entries => exact Ends.cons (by decide) _

/-- A value begins with a character that neither stands between values nor ends a list. -/
theorem chars_eq_cons (value : Json) :
    ∃ c cs, value.chars = c :: cs ∧ isGap c = false ∧ c ≠ ']' := by
  cases value with
  | null => exact ⟨_, _, rfl, by decide⟩
  | bool value => cases value <;> exact ⟨_, _, rfl, by decide⟩
  | whole n =>
    obtain ⟨c, cs, front⟩ :=
      List.exists_cons_of_ne_nil (Nat.toDigits_ne_nil (n := n.natAbs) (b := 10))
    rw [chars, wholeChars]
    split
    · exact ⟨_, _, rfl, by decide⟩
    · have digit := isDigit_toDigits n.natAbs c (by rw [front]; exact List.mem_cons_self)
      refine ⟨c, cs, front, ?_, ?_⟩
      · cases gap : isGap c with
        | false => rfl
        | true =>
          simp only [isGap, Bool.or_eq_true, beq_iff_eq] at gap
          rcases gap with ((rfl | rfl) | rfl) | rfl <;> cases digit
      · rintro rfl
        cases digit
  | string text => exact ⟨_, _, rfl, by decide⟩
  | array items => exact ⟨_, _, rfl, by decide⟩
  | object entries => exact ⟨_, _, rfl, by decide⟩

theorem length_chars_pos (value : Json) : 0 < value.chars.length := by
  obtain ⟨c, cs, front, -, -⟩ := value.chars_eq_cons
  rw [front]
  exact Nat.zero_lt_succ _

/-! ## Reading -/

/-- Whether a value at a depth is read up to its end as a tree that shows it, whatever follows. -/
def ReadsBack (depth : Nat) (value : Json) : Prop :=
  ∀ fuel rest offset, value.chars.length ≤ fuel → Ends rest →
    ∃ node stop, readValue fuel depth (value.chars ++ rest) offset = (node, some (rest, stop)) ∧
      node.Shows value

/-- There is always fuel for the first step, since no value is written as nothing. -/
theorem readsBack_of_succ {depth : Nat} {value : Json}
    (reads : ∀ fuel rest offset, value.chars.length ≤ fuel + 1 → Ends rest →
      ∃ node stop, readValue (fuel + 1) depth (value.chars ++ rest) offset =
        (node, some (rest, stop)) ∧ node.Shows value) :
    ReadsBack depth value := by
  intro fuel rest offset enough ends
  have some : 0 < fuel := Nat.lt_of_lt_of_le value.length_chars_pos enough
  obtain ⟨fuel, rfl⟩ := Nat.exists_eq_add_one_of_ne_zero (Nat.ne_zero_of_lt some)
  exact reads fuel rest offset enough ends

theorem skipGap_cons {c : Char} (solid : isGap c = false) (rest : List Char) (offset : Nat) :
    skipGap (c :: rest) offset = (c :: rest, offset) := by
  rw [skipGap, solid]
  rfl

/-- The comma in front of a value or field, unless it is the first. -/
def lead (first : Bool) : List Char := if first then [] else [',']

section Items

variable {fuel depth stop offset : Nat} {first : Bool} {rest : List Char}

/-- A list ends with a bracket. -/
theorem readItems_end :
    readItems (fuel + 1) depth first (']' :: rest) offset = ([], some (rest, offset + 1)) := by
  rw [readItems, skipGap_cons (by decide)]
  rfl

/-- A value of a list is read before those after it. -/
theorem readItems_cons {value : Json} {node : Node} {nodes : List Node} {remainder : Remainder}
    (item : readValue fuel depth (value.chars ++ rest) (offset + (lead first).length) =
      (node, some (rest, stop)))
    (items : readItems fuel depth false rest stop = (nodes, remainder)) :
    readItems (fuel + 1) depth first (lead first ++ (value.chars ++ rest)) offset =
      (node :: nodes, remainder) := by
  obtain ⟨c, cs, front, solid, inside⟩ := value.chars_eq_cons
  rw [front, List.cons_append] at item ⊢
  cases first with
  | true =>
    rw [readItems, lead, if_pos rfl, List.nil_append, skipGap_cons solid]
    simp only [lead, if_pos, List.length_nil, Nat.add_zero] at item
    simp [item, items]
  | false =>
    rw [readItems, lead, if_neg Bool.false_ne_true, List.singleton_append,
      skipGap_cons (by decide)]
    simp only [lead, Bool.false_eq_true, if_false, List.length_singleton] at item
    simp [skipGap_cons solid, inside, item, items]

/-- The values after the first are read up to the end of the list. -/
theorem readItems_itemTail {items : List Json} (each : ∀ item ∈ items, ReadsBack depth item)
    (enough : (itemTail items).length < fuel) (rest : List Char) (offset : Nat) :
    ∃ nodes stop, readItems fuel depth false (itemTail items ++ ']' :: rest) offset =
      (nodes, some (rest, stop)) ∧ List.Forall₂ Node.Shows nodes items := by
  -- each value costs one unit of fuel, and the comma before it pays for that
  induction items generalizing fuel offset with
  | nil =>
    obtain ⟨fuel, rfl⟩ := Nat.exists_eq_succ_of_ne_zero (Nat.ne_zero_of_lt enough)
    exact ⟨[], offset + 1, readItems_end, .nil⟩
  | cons item items ih =>
    obtain ⟨fuel, rfl⟩ := Nat.exists_eq_succ_of_ne_zero (Nat.ne_zero_of_lt enough)
    rw [itemTail_cons, List.length_cons, List.length_append] at enough
    obtain ⟨node, next, read, shown⟩ :=
      each item List.mem_cons_self fuel _ (offset + (lead false).length) (by omega)
        (ends_itemTail items rest)
    obtain ⟨nodes, stop, others, rest_shown⟩ :=
      ih (fun item member => each item (List.mem_cons_of_mem _ member))
        (show (itemTail items).length < fuel by omega) next
    rw [itemTail_cons, List.cons_append, List.append_assoc]
    exact ⟨node :: nodes, stop, readItems_cons read others, .cons shown rest_shown⟩

/-- The values of a list are read up to its end. -/
theorem readItems_itemChars {items : List Json} (each : ∀ item ∈ items, ReadsBack depth item)
    (enough : (itemChars items).length < fuel) (rest : List Char) (offset : Nat) :
    ∃ nodes stop, readItems fuel depth true (itemChars items ++ ']' :: rest) offset =
      (nodes, some (rest, stop)) ∧ List.Forall₂ Node.Shows nodes items := by
  obtain ⟨fuel, rfl⟩ := Nat.exists_eq_succ_of_ne_zero (Nat.ne_zero_of_lt enough)
  cases items with
  | nil => exact ⟨[], offset + 1, readItems_end, .nil⟩
  | cons item items =>
    rw [itemChars_cons, List.length_append] at enough
    -- there is no comma to pay for the unit of fuel, but the first value is not empty
    have written : 0 < item.chars.length := item.length_chars_pos
    obtain ⟨node, next, read, shown⟩ :=
      each item List.mem_cons_self fuel _ (offset + (lead true).length) (by omega)
        (ends_itemTail items rest)
    obtain ⟨nodes, stop, others, rest_shown⟩ :=
      readItems_itemTail (fun item member => each item (List.mem_cons_of_mem _ member))
        (show (itemTail items).length < fuel by omega) rest next
    rw [itemChars_cons, List.append_assoc]
    exact ⟨node :: nodes, stop, readItems_cons read others, .cons shown rest_shown⟩

end Items

section Entries

variable {fuel depth stop offset : Nat} {first : Bool} {rest : List Char}

/-- An object ends with a brace. -/
theorem readEntries_end :
    readEntries (fuel + 1) depth first ('}' :: rest) offset = ([], some (rest, offset + 1)) := by
  rw [readEntries, skipGap_cons (by decide)]
  rfl

/-- A field of an object is read before those after it. -/
theorem readEntries_cons {entry : String × Json} {entries : List (String × Json)}
    {after : List Char}
    (value : ∀ offset, ∃ node stop, readValue fuel depth (entry.2.chars ++ rest) offset =
      (node, some (rest, stop)) ∧ node.Shows entry.2)
    (others : ∀ offset, ∃ fields stop, readEntries fuel depth false rest offset =
      (fields, some (after, stop)) ∧ List.Forall₂ EntryShows fields entries) :
    ∃ fields stop, readEntries (fuel + 1) depth first (lead first ++ (fieldChars entry ++ rest))
      offset = (fields, some (after, stop)) ∧
        List.Forall₂ EntryShows fields (entry :: entries) := by
  -- the name, its colon and the value are read from where the one before ended
  have split : fieldChars entry ++ rest = '"' :: (entry.1.toList.flatMap escapeChar ++
      '"' :: ':' :: (entry.2.chars ++ rest)) := by
    simp [fieldChars, stringChars]
  obtain ⟨pieces, stop, name, named⟩ :=
    readPieces_string entry.1 (':' :: (entry.2.chars ++ rest)) (offset + (lead first).length + 1)
  have colon := skipGap_cons (show isGap ':' = false by decide) (entry.2.chars ++ rest) stop
  obtain ⟨node, next, read, shown⟩ := value (stop + 1)
  obtain ⟨fields, final, fields_read, fields_shown⟩ := others next
  refine ⟨(⟨textOfPieces pieces, stop⟩, node) :: fields, final, ?_,
    .cons ⟨named, shown⟩ fields_shown⟩
  rw [split]
  cases first with
  | true =>
    rw [readEntries, lead, if_pos rfl, List.nil_append, skipGap_cons (by decide)]
    simp only [lead, if_pos, List.length_nil, Nat.add_zero] at name
    simp [name, colon, read, fields_read]
  | false =>
    rw [readEntries, lead, if_neg Bool.false_ne_true, List.singleton_append,
      skipGap_cons (by decide)]
    simp only [lead, Bool.false_eq_true, if_false, List.length_singleton] at name
    simp [skipGap_cons (show isGap '"' = false by decide), name, colon, read, fields_read]

/-- The fields after the first are read up to the end of the object. -/
theorem readEntries_entryTail {entries : List (String × Json)}
    (each : ∀ entry ∈ entries, ReadsBack depth entry.2)
    (enough : (entryTail entries).length < fuel) (rest : List Char) (offset : Nat) :
    ∃ fields stop, readEntries fuel depth false (entryTail entries ++ '}' :: rest) offset =
      (fields, some (rest, stop)) ∧ List.Forall₂ EntryShows fields entries := by
  induction entries generalizing fuel offset with
  | nil =>
    obtain ⟨fuel, rfl⟩ := Nat.exists_eq_succ_of_ne_zero (Nat.ne_zero_of_lt enough)
    exact ⟨[], offset + 1, readEntries_end, .nil⟩
  | cons entry entries ih =>
    obtain ⟨fuel, rfl⟩ := Nat.exists_eq_succ_of_ne_zero (Nat.ne_zero_of_lt enough)
    rw [entryTail_cons, List.length_cons, List.length_append] at enough
    have long := length_le_fieldChars entry
    rw [entryTail_cons, List.cons_append, List.append_assoc]
    refine readEntries_cons ?_ ?_
    · intro offset
      exact each entry List.mem_cons_self fuel _ offset (by omega) (ends_entryTail entries rest)
    · intro offset
      exact ih (fun entry member => each entry (List.mem_cons_of_mem _ member)) (by omega) offset

/-- The fields of an object are read up to its end. -/
theorem readEntries_entryChars {entries : List (String × Json)}
    (each : ∀ entry ∈ entries, ReadsBack depth entry.2)
    (enough : (entryChars entries).length < fuel) (rest : List Char) (offset : Nat) :
    ∃ fields stop, readEntries fuel depth true (entryChars entries ++ '}' :: rest) offset =
      (fields, some (rest, stop)) ∧ List.Forall₂ EntryShows fields entries := by
  obtain ⟨fuel, rfl⟩ := Nat.exists_eq_succ_of_ne_zero (Nat.ne_zero_of_lt enough)
  cases entries with
  | nil => exact ⟨[], offset + 1, readEntries_end, .nil⟩
  | cons entry entries =>
    rw [entryChars_cons, List.length_append] at enough
    have long := length_le_fieldChars entry
    rw [entryChars_cons, List.append_assoc]
    refine readEntries_cons ?_ ?_
    · intro offset
      exact each entry List.mem_cons_self fuel _ offset (by omega) (ends_entryTail entries rest)
    · intro offset
      exact readEntries_entryTail (fun entry member => each entry (List.mem_cons_of_mem _ member))
        (by omega) rest offset

end Entries

/-- A value that is neither list nor object is read by its first character. -/
theorem readValue_scalar {c : Char} (solid : isGap c = false) (notList : c ≠ '[')
    (notObject : c ≠ '{') (fuel depth : Nat) (rest : List Char) (offset : Nat) :
    readValue (fuel + 1) depth (c :: rest) offset = readScalar depth c rest offset := by
  rw [readValue, skipGap_cons solid]
  split
  · next none => cases none
  · next list => exact absurd (List.cons.inj (Prod.mk.inj list).1).1 notList
  · next object => exact absurd (List.cons.inj (Prod.mk.inj object).1).1 notObject
  · next same =>
    cases same
    rfl

/-- A number is read by its digits. -/
theorem readScalar_digit {c : Char} {cs rest : List Char} {n depth offset stop : Nat}
    (digit : c.isDigit = true) (small : n < wordLimit)
    (read : readNumeral (c :: cs) offset = .done (numeralOf n) rest stop) :
    readScalar depth c cs offset =
      (.number ⟨offset, stop, depth⟩ (.ok (.whole n)), some (rest, stop)) := by
  have other : c = '-' ∨ (digit? c).isSome = true := Or.inr (by rwa [isSome_digit?])
  -- the four characters before the digits in the reader's match are no digits
  unfold readScalar
  split
  · cases digit
  · cases digit
  · cases digit
  · cases digit
  · rw [if_pos other, read]
    simp only [Progress.toNode, number?_numeralOf small]

/-- A word is read up to its end. -/
theorem readsBack_null (depth : Nat) : ReadsBack depth .null := by
  refine readsBack_of_succ fun fuel rest offset _ _ => ?_
  exact ⟨.null ⟨offset, offset + 4, depth⟩, offset + 4,
    readValue_scalar (by decide) (by decide) (by decide) fuel depth _ offset, .null _⟩

/-- A truth value is read up to its end. -/
theorem readsBack_bool (depth : Nat) (value : Bool) : ReadsBack depth (.bool value) := by
  refine readsBack_of_succ fun fuel rest offset _ _ => ?_
  cases value with
  | true =>
    exact ⟨.bool ⟨offset, offset + 4, depth⟩ true, offset + 4,
      readValue_scalar (by decide) (by decide) (by decide) fuel depth _ offset, .bool _ _⟩
  | false =>
    exact ⟨.bool ⟨offset, offset + 5, depth⟩ false, offset + 5,
      readValue_scalar (by decide) (by decide) (by decide) fuel depth _ offset, .bool _ _⟩

/-- A natural number that fits a word is read up to its end. -/
theorem readsBack_whole (depth : Nat) {n : Nat} (small : n < wordLimit) :
    ReadsBack depth (.whole n) := by
  refine readsBack_of_succ fun fuel rest offset _ ends => ?_
  have written : (whole n).chars = Nat.toDigits 10 n := by
    rw [chars, wholeChars, if_neg (by omega), Int.natAbs_natCast]
  obtain ⟨c, cs, front, solid, -⟩ := (whole n).chars_eq_cons
  have digit : c.isDigit = true :=
    isDigit_toDigits n c (by rw [← written, front]; exact List.mem_cons_self)
  obtain ⟨stop, read⟩ := readNumeral_toDigits n ends offset
  refine ⟨.number ⟨offset, stop, depth⟩ (.ok (.whole n)), stop, ?_, .whole _ _⟩
  rw [← written, front, List.cons_append] at read
  rw [front, List.cons_append, readValue_scalar solid (ne_of_isDigit digit (by decide))
    (ne_of_isDigit digit (by decide)), readScalar_digit digit small read]

/-- A string is read up to its end. -/
theorem readsBack_string (depth : Nat) (text : String) : ReadsBack depth (.string text) := by
  refine readsBack_of_succ fun fuel rest offset _ _ => ?_
  obtain ⟨pieces, stop, read, joined⟩ := readPieces_string text rest (offset + 1)
  refine ⟨.string ⟨offset, stop, depth⟩ (.ok text), stop, ?_, .string _ _⟩
  rw [chars, stringChars, List.append_assoc, List.cons_append, List.singleton_append,
    readValue_scalar (by decide) (by decide) (by decide), readScalar, read]
  simp only [Progress.toNode, joined]

/-- A list is read up to its end when its values are. -/
theorem readsBack_array {depth : Nat} {items : List Json} (shallow : depth < depthLimit)
    (inside : ∀ item ∈ items, ReadsBack (depth + 1) item) : ReadsBack depth (.array items) := by
  refine readsBack_of_succ fun fuel rest offset enough _ => ?_
  -- one bracket pays for the list itself, the other for its end
  rw [chars, List.length_append, List.length_cons, List.length_singleton] at enough
  obtain ⟨nodes, stop, read, shown⟩ :=
    readItems_itemChars inside (Nat.lt_of_succ_le (Nat.le_of_succ_le_succ enough)) rest (offset + 1)
  refine ⟨.array ⟨offset, stop, depth⟩ nodes, stop, ?_, .array shallow shown⟩
  rw [chars, List.append_assoc, List.cons_append, List.singleton_append, readValue,
    skipGap_cons (by decide)]
  simp only [read, stopOf]

/-- An object is read up to its end when its values are. -/
theorem readsBack_object {depth : Nat} {entries : List (String × Json)}
    (shallow : depth < depthLimit)
    (inside : ∀ entry ∈ entries, ReadsBack (depth + 1) entry.2) :
    ReadsBack depth (.object entries) := by
  refine readsBack_of_succ fun fuel rest offset enough _ => ?_
  rw [chars, List.length_append, List.length_cons, List.length_singleton] at enough
  obtain ⟨fields, stop, read, shown⟩ :=
    readEntries_entryChars inside (Nat.lt_of_succ_le (Nat.le_of_succ_le_succ enough)) rest
      (offset + 1)
  refine ⟨.object ⟨offset, stop, depth⟩ fields, stop, ?_, .object shallow shown⟩
  rw [chars, List.append_assoc, List.cons_append, List.singleton_append, readValue,
    skipGap_cons (by decide)]
  simp only [read, stopOf]

/-- Every value that fits is read up to its end as a tree that shows it. -/
theorem readsBack_of_fits {room depth : Nat} {value : Json} (fits : value.Fits room)
    (shallow : depth + room ≤ depthLimit) : ReadsBack depth value := by
  -- on the value: a level deeper there is one less room, so the sum stays below the limit
  induction fits generalizing depth with
  | null => exact readsBack_null depth
  | bool value => exact readsBack_bool depth value
  | whole small => exact readsBack_whole depth small
  | string text => exact readsBack_string depth text
  | array _ ih => exact readsBack_array (by omega) fun item member => ih item member (by omega)
  | object _ ih => exact readsBack_object (by omega) fun entry member => ih entry member (by omega)

/-! ## Whole texts -/

/-- The text of a value that fits is read to its end as a tree that shows the value. -/
theorem Document.ofText_text {room : Nat} {value : Json} (fits : value.Fits room)
    (shallow : room ≤ depthLimit) :
    ∃ root, Document.ofText value.text = ⟨root, none⟩ ∧ root.Shows value := by
  have enough : value.chars.length ≤ 2 * value.chars.length + 2 := by omega
  obtain ⟨root, stop, read, shown⟩ :=
    readsBack_of_fits fits (by rwa [Nat.zero_add]) _ [] 0 enough Ends.nil
  rw [List.append_nil] at read
  refine ⟨root, ?_, shown⟩
  rw [Document.ofText, text, String.toList_ofList, read]
  rfl

/-! ## Values that nobody looks at -/

theorem itemsValueFault_eq_none {nodes : List Node} {items : List Json}
    (shown : List.Forall₂ Node.Shows nodes items)
    (each : ∀ item ∈ items, ∀ node : Node, node.Shows item → node.valueFault = none) :
    Node.itemsValueFault nodes = none := by
  induction shown with
  | nil => rfl
  | cons first _ ih =>
    rw [Node.itemsValueFault, each _ List.mem_cons_self _ first, Option.none_or,
      ih fun item member => each item (List.mem_cons_of_mem _ member)]

theorem entriesValueFault_eq_none {fields : List (Name × Node)} {entries : List (String × Json)}
    (shown : List.Forall₂ EntryShows fields entries)
    (each : ∀ entry ∈ entries, ∀ node : Node, node.Shows entry.2 → node.valueFault = none) :
    Node.entriesValueFault fields = none := by
  induction shown with
  | nil => rfl
  | cons first _ ih =>
    obtain ⟨named, value⟩ := first
    rw [Node.entriesValueFault, named, each _ List.mem_cons_self _ value,
      ih fun entry member => each entry (List.mem_cons_of_mem _ member)]
    rfl

/-- No fault is found in a tree that shows a value. -/
theorem Node.Shows.valueFault_eq_none {room : Nat} {value : Json} (fits : value.Fits room)
    {node : Node} (shown : node.Shows value) : node.valueFault = none := by
  induction fits generalizing node with
  | null | bool | whole | string =>
    cases shown
    rfl
  -- a list or object that is shown is not nested too deeply
  | array _ ih =>
    cases shown with
    | array shallow shown =>
      rw [Node.valueFault, if_neg (Nat.not_le_of_lt shallow)]
      exact itemsValueFault_eq_none shown fun item member _ shown => ih item member shown
  | object _ ih =>
    cases shown with
    | object shallow shown =>
      rw [Node.valueFault, if_neg (Nat.not_le_of_lt shallow)]
      exact entriesValueFault_eq_none shown fun entry member _ shown => ih entry member shown

end Json

end OrderPipeline
