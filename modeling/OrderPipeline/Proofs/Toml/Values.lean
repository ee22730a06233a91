import OrderPipeline.Proofs.Toml.Scalars
import OrderPipeline.Proofs.Toml.Strings

/-!
# Names, values and headers

Names, values and headers are read whatever follows them, as long as they leave an equals sign
(`framed_readPath`, `framed_values`, `framed_readHeader`). The readers of lists and tables are cut
into steps first.
-/

namespace OrderPipeline.Toml

variable {cs rest more : List Char}

/-! ## Names -/

theorem framed_readNamePart : Framed readNamePart := by
  refine .of fun {cs part rest} done => ?_
  unfold readNamePart at done
  split at done
  · next cs =>
    obtain ⟨⟨chars, left⟩, read, same⟩ := Option.map_eq_some_iff.1 done
    cases same
    refine ⟨(readBasic_append read).1.trans (List.suffix_cons _ _), fun _ more => ?_⟩
    simp only [List.cons_append, readNamePart, (readBasic_append read).2 more]
    rfl
  · next cs =>
    obtain ⟨⟨chars, left⟩, read, same⟩ := Option.map_eq_some_iff.1 done
    cases same
    refine ⟨(readLiteral_append read).1.trans (List.suffix_cons _ _),
      fun _ more => ?_⟩
    simp only [List.cons_append, readNamePart, (readLiteral_append read).2 more]
    rfl
  · next noQuote noApostrophe =>
    dsimp only at done
    split at done
    · cases done
    · next named =>
      cases done
      have dropped : cs.drop (cs.takeWhile isNameChar).length = cs.dropWhile isNameChar := by
        have split := @List.drop_left _ (cs.takeWhile isNameChar) (cs.dropWhile isNameChar)
        rwa [List.takeWhile_append_dropWhile] at split
      refine ⟨List.drop_suffix _ cs, fun left more => ?_⟩
      rw [dropped] at left
      have inText := (List.dropWhile_suffix isNameChar).subset left
      have bounded := (List.takeWhile_prefix (l := cs) isNameChar).length_le
      rw [readNamePart]
      · simp only [takeWhile_append_of_mem left, named, List.drop_append_of_le_length bounded]
        rfl
      · exact not_append_of_mem ['"'] inText (by decide) noQuote
      · exact not_append_of_mem ['\''] inText (by decide) noApostrophe

/-- Reads what follows a part of a name: a dot and further parts, or nothing. -/
def readMoreParts (parts : Nat) (part : String) : List Char → Option (List String × List Char)
  | '.' :: rest => (readName parts rest).map fun found => (part :: found.1, found.2)
  | rest => some ([part], rest)

/-- The parts of a name are read one after another. -/
theorem readName_succ (parts : Nat) (cs : List Char) :
    readName (parts + 1) cs = (readNamePart (skipGap cs)).bind fun found =>
      readMoreParts parts found.1 (skipGap found.2) := by
  rw [readName]
  refine Option.bind_congr fun found _ => ?_
  dsimp only
  generalize skipGap found.2 = following
  cases following with
  | nil => rfl
  | cons c rest =>
    by_cases dot : c = '.'
    · subst dot
      exact Option.map_eq_bind.symm
    · simp [readMoreParts, dot]

theorem framed_readName (parts : Nat) : Framed (readName parts) := by
  induction parts with
  | zero => exact .none
  | succ parts ih =>
    have more (part : String) : Framed (readMoreParts parts part) := by
      refine .ofHead (fun done => ?_) fun c => ?_
      · cases done
        rfl
      · by_cases dot : c = '.'
        · subst dot
          exact ⟨_, ih.map, .inl fun rest => rfl⟩
        · exact ⟨_, .pure [part], .inr fun rest => by simp [readMoreParts, dot]⟩
    rw [funext (readName_succ parts)]
    exact .afterGap (framed_readNamePart.bind fun part => (more part).afterGap)

theorem framed_readPath : Framed readPath := by
  refine .of fun {cs name rest} done => ?_
  obtain ⟨⟨parts, left⟩, read, done⟩ := Option.bind_eq_some_iff.1 done
  obtain ⟨last, found, same⟩ := Option.bind_eq_some_iff.1 done
  cases same
  refine ⟨(framed_readName _).suffix read, fun left more => ?_⟩
  simp [readPath, (framed_readName _).append read left more, found]

/-- A name that is followed by an equals sign is read whatever follows that. -/
theorem readPath_append {found : List String × String} {start : List Char}
    (named : readPath cs = some (found, '=' :: start)) (more : List Char) :
    readPath (cs ++ more) = some (found, '=' :: (start ++ more)) :=
  framed_readPath.append named List.mem_cons_self more

/-! ## Values step by step -/

section Steps

variable (fuel depth : Nat)

/-- Reads the entries of a table after its opening brace, if there are any. -/
def readBraces (cs : List Char) : Option (List Change × List Char) :=
  match skipGap cs with
  | '}' :: rest => some ([], rest)
  | rest => readEntries fuel depth rest

/-- Builds the table in braces from its entries. -/
def buildBraces (found : List Change × List Char) : Option (Value × List Char) :=
  (build? found.1).bind fun value => some (value, found.2)

/-- Reads what follows an item of a list: further items or the closing bracket. -/
def readMoreItems (item : Value) : List Char → Option (List Value × List Char)
  | ',' :: rest => (readItems fuel depth rest).map fun found => (item :: found.1, found.2)
  | ']' :: rest => some ([item], rest)
  | _ => none

/-- Reads the items of a list from the first one. -/
def readItemsFrom (cs : List Char) : Option (List Value × List Char) := do
  let (item, rest) ← readValue fuel depth cs
  match ← skipLines false rest with
  | ',' :: rest =>
    let (items, rest) ← readItems fuel depth rest
    return (item :: items, rest)
  | ']' :: rest => return ([item], rest)
  | _ => none

/-- Reads the items of a list, if there are any. -/
def readItemsAt : List Char → Option (List Value × List Char)
  | ']' :: rest => some ([], rest)
  | start => readItemsFrom fuel depth start

/-- Reads what follows an entry of a table: further entries or the closing brace. -/
def readMoreEntries (change : Change) : List Char → Option (List Change × List Char)
  | ',' :: rest => (readEntries fuel depth rest).map fun found => (change :: found.1, found.2)
  | '}' :: rest => some ([change], rest)
  | _ => none

/-- A table in braces is built from its entries. -/
theorem readValue_braces (cs : List Char) :
    readValue (fuel + 1) depth ('{' :: cs) =
      if nestingLimit ≤ depth + 1 then none
      else (readBraces fuel (depth + 1) cs).bind buildBraces := by
  by_cases deep : nestingLimit ≤ depth + 1
  · simp [readValue, deep]
  · simp only [readValue, readBraces, deep, if_false]
    generalize skipGap cs = text
    cases text with
    | nil => rfl
    | cons c rest =>
      by_cases closes : c = '}'
      · subst closes
        rfl
      · simp only [List.cons.injEq, closes, false_and, imp_self, implies_true]
        rfl

/-- A list in brackets holds its items. -/
theorem readValue_brackets (cs : List Char) :
    readValue (fuel + 1) depth ('[' :: cs) =
      if nestingLimit ≤ depth + 1 then none
      else (readItems fuel (depth + 1) cs).map fun found => (.array found.1, found.2) := by
  by_cases deep : nestingLimit ≤ depth + 1
  · simp [readValue, deep]
  · simp only [readValue, deep, if_false]
    cases readItems fuel (depth + 1) cs <;> rfl

/-- The items of a list are read one after another. -/
theorem readItemsFrom_eq (cs : List Char) :
    readItemsFrom fuel depth cs = (readValue fuel depth cs).bind fun found =>
      (skipLines false found.2).bind (readMoreItems fuel depth found.1) := by
  refine Option.bind_congr fun found _ => Option.bind_congr fun following _ => ?_
  cases following with
  | nil => rfl
  | cons c rest =>
    by_cases comma : c = ','
    · subst comma
      exact Option.map_eq_bind.symm
    by_cases closes : c = ']'
    · subst closes
      rfl
    simp [readMoreItems, comma, closes]

/-- A list is read up to its closing bracket. -/
theorem readItems_succ (cs : List Char) :
    readItems (fuel + 1) depth cs = (skipLines false cs).bind (readItemsAt fuel depth) := by
  rw [readItems]
  refine Option.bind_congr fun start _ => ?_
  cases start with
  | nil => rfl
  | cons c rest =>
    by_cases closes : c = ']'
    · subst closes
      rfl
    · simp only [readItemsAt, List.cons.injEq, closes, false_and, imp_self, implies_true]
      rfl

/-- The entries of a table are read one after another. -/
theorem readEntries_succ (cs : List Char) :
    readEntries (fuel + 1) depth cs = (readPath cs).bind fun ((path, name), rest) =>
      (after? '=' rest).bind fun rest =>
        (readValue fuel depth (skipGap rest)).bind fun (value, rest) =>
          readMoreEntries fuel depth (Change.assign path name value) (skipGap rest) := by
  rw [readEntries]
  refine Option.bind_congr fun ⟨⟨path, name⟩, rest⟩ _ => Option.bind_congr fun start _ =>
    Option.bind_congr fun ⟨value, rest⟩ _ => ?_
  dsimp only
  generalize skipGap rest = following
  cases following with
  | nil => rfl
  | cons c rest =>
    by_cases comma : c = ','
    · subst comma
      exact Option.map_eq_bind.symm
    by_cases closes : c = '}'
    · subst closes
      rfl
    simp [readMoreEntries, comma, closes]

end Steps

/-! ## What follows a value -/

theorem framed_readBraces {fuel depth : Nat} (entries : Framed (readEntries fuel depth)) :
    Framed (readBraces fuel depth) := by
  refine @Framed.afterGap _ (fun cs => match cs with
    | '}' :: rest => some ([], rest)
    | rest => readEntries fuel depth rest) (.ofHead (fun done => ?_) fun c => ?_)
  · exact List.suffix_nil.1 (entries.suffix done)
  · by_cases closes : c = '}'
    · subst closes
      exact ⟨_, .pure [], .inl fun rest => rfl⟩
    · exact ⟨_, entries, .inr fun rest => by simp [closes]⟩

theorem framed_readMoreItems {fuel depth : Nat} (items : Framed (readItems fuel depth))
    (item : Value) : Framed (readMoreItems fuel depth item) := by
  refine .ofHead (fun done => nomatch done) fun c => ?_
  by_cases comma : c = ','
  · subst comma
    exact ⟨_, items.map, .inl fun rest => rfl⟩
  by_cases closes : c = ']'
  · subst closes
    exact ⟨_, .pure [item], .inl fun rest => rfl⟩
  exact ⟨_, .none, .inl fun rest => by simp [readMoreItems, comma, closes]⟩

theorem framed_readMoreEntries {fuel depth : Nat} (entries : Framed (readEntries fuel depth))
    (change : Change) : Framed (readMoreEntries fuel depth change) := by
  refine .ofHead (fun done => nomatch done) fun c => ?_
  by_cases comma : c = ','
  · subst comma
    exact ⟨_, entries.map, .inl fun rest => rfl⟩
  by_cases closes : c = '}'
  · subst closes
    exact ⟨_, .pure [change], .inl fun rest => rfl⟩
  exact ⟨_, .none, .inl fun rest => by simp [readMoreEntries, comma, closes]⟩

theorem framed_buildBraces (changes : List Change) :
    Framed fun rest => buildBraces (changes, rest) := by
  have built : Framed fun rest => (build? changes).bind fun value => some (value, rest) :=
    .given fun value => .pure value
  exact built

/-- Values, lists and tables are read whatever follows them. -/
theorem framed_values (fuel : Nat) : (∀ depth, Framed (readValue fuel depth)) ∧
    (∀ depth, Framed (readItems fuel depth)) ∧ ∀ depth, Framed (readEntries fuel depth) := by
  induction fuel with
  | zero => exact ⟨fun _ => .none, fun _ => .none, fun _ => .none⟩
  | succ fuel ih =>
    obtain ⟨values, items, entries⟩ := ih
    refine ⟨fun depth => ?_, fun depth => ?_, fun depth => ?_⟩
    · refine .ofHead (fun done => List.suffix_nil.1 (framed_readScalar.suffix done)) fun c => ?_
      -- the first character tells which reader goes on
      by_cases quote : c = '"'
      · subst quote
        exact ⟨_, framed_readString.map, .inr fun rest => rfl⟩
      by_cases apostrophe : c = '\''
      · subst apostrophe
        exact ⟨_, framed_readString.map, .inr fun rest => rfl⟩
      by_cases bracket : c = '['
      · subst bracket
        refine ⟨_, ?_, .inl fun rest => readValue_brackets fuel depth rest⟩
        split
        · exact .none
        · exact (items (depth + 1)).map
      by_cases brace : c = '{'
      · subst brace
        refine ⟨_, ?_, .inl fun rest => readValue_braces fuel depth rest⟩
        split
        · exact .none
        · exact (framed_readBraces (entries (depth + 1))).bind framed_buildBraces
      exact ⟨_, framed_readScalar, .inr fun rest => by
        simp [readValue, quote, apostrophe, bracket, brace]⟩
    · have from_ : Framed (readItemsFrom fuel depth) := by
        rw [funext (readItemsFrom_eq fuel depth)]
        exact (values depth).bind fun item =>
          .afterSkip (framedSkip_skipLines false) (framed_readMoreItems (items depth) item)
      rw [funext (readItems_succ fuel depth)]
      refine .afterSkip (framedSkip_skipLines false) (.ofHead (fun done => ?_) fun c => ?_)
      · exact List.suffix_nil.1 (from_.suffix done)
      · by_cases closes : c = ']'
        · subst closes
          exact ⟨_, .pure [], .inl fun rest => rfl⟩
        · exact ⟨_, from_, .inr fun rest => by simp [readItemsAt, closes]⟩
    · rw [funext (readEntries_succ fuel depth)]
      exact framed_readPath.bind fun _ => .afterSkip (framedSkip_after? '=')
        (.afterGap ((values depth).bind fun _ =>
          (framed_readMoreEntries (entries depth) _).afterGap))

/-! ## Headers -/

/-- A header is read whatever follows it. -/
theorem framed_readHeader : Framed readHeader := by
  refine .ofHead (fun done => nomatch done) fun c => ?_
  by_cases bracket : c = '['
  · subst bracket
    exact ⟨_, framed_readPath.bind fun _ => .afterSkip (framedSkip_after? ']')
      (.afterSkip (framedSkip_after? ']') (.pure _)), .inl fun rest => rfl⟩
  · have table : Framed fun cs => (do
        let ((path, name), rest) ← readPath cs
        let rest ← after? ']' rest
        return ((path ++ [name], Change.along (Change.define name) .implied path), rest) :
          Option ((List String × Change) × List Char)) :=
      framed_readPath.bind fun _ => .afterSkip (framedSkip_after? ']') (.pure _)
    exact ⟨_, table, .inr fun rest => by simp [readHeader, bracket]⟩

end OrderPipeline.Toml
