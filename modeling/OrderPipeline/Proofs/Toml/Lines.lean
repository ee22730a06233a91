import OrderPipeline.Proofs.Toml.Values

/-!
# Files line by line

The readers of values and files take fuel. What they read does not depend on it as long as there is
enough (`steady_values`), so `Reads`, `Entries` and `Lines` say what a text reads as without
any fuel, each with the steps of its reader.

* `ofText?_eq_some_iff` — a file is read as its lines are, one after another.
* `Line.append` — a line is read whatever follows it, as long as an equals sign is left.
-/

namespace OrderPipeline.Toml

variable {cs rest more : List Char} {fuel depth : Nat}

/-! ## Fuel -/

/-- What a reader reads with some fuel it reads with any that is enough for the text, where `extra`
is what it needs beyond two for each character. -/
def Steady {α : Type} (extra : Nat) (read : Nat → Nat → List Char → Option α) (fuel : Nat) : Prop :=
  ∀ {depth enough cs found}, read fuel depth cs = some found →
    2 * cs.length + extra < enough → read enough depth cs = some found

/-- More fuel does no harm to a table in braces. -/
theorem steady_readBraces (entries : Steady 1 readEntries fuel) : Steady 1 readBraces fuel := by
  intro depth enough cs found read bound
  have shorter := (skipGap_suffix cs).length_le
  unfold readBraces at read ⊢
  split at read
  · exact read
  · exact entries read (by omega)

theorem steady_readValue (items : Steady 1 readItems fuel) (entries : Steady 1 readEntries fuel) :
    Steady 0 readValue (fuel + 1) := by
  intro depth enough cs found read bound
  obtain ⟨enough, rfl⟩ : ∃ left, enough = left + 1 := ⟨enough - 1, by omega⟩
  cases cs with
  | nil => exact read
  | cons c cs =>
    rw [List.length_cons] at bound
    by_cases bracket : c = '['
    · subst bracket
      rw [readValue_brackets] at read ⊢
      split at read
      · cases read
      · next shallow =>
        obtain ⟨list, inside, same⟩ := Option.map_eq_some_iff.1 read
        rw [if_neg shallow, items inside (by omega), Option.map_some, same]
    by_cases brace : c = '{'
    · subst brace
      rw [readValue_braces] at read ⊢
      split at read
      · cases read
      · next shallow =>
        obtain ⟨table, inside, same⟩ := Option.bind_eq_some_iff.1 read
        rw [if_neg shallow, steady_readBraces entries inside (by omega), Option.bind_some, same]
    by_cases quote : c = '"'
    · subst quote
      exact read
    by_cases apostrophe : c = '\''
    · subst apostrophe
      exact read
    simpa [readValue, quote, apostrophe, bracket, brace] using read

theorem steady_readItems (values : Steady 0 readValue fuel) (items : Steady 1 readItems fuel) :
    Steady 1 readItems (fuel + 1) := by
  intro depth enough cs found read bound
  obtain ⟨enough, rfl⟩ : ∃ left, enough = left + 1 := ⟨enough - 1, by omega⟩
  rw [readItems_succ] at read ⊢
  obtain ⟨start, skipped, read⟩ := Option.bind_eq_some_iff.1 read
  have first := ((framedSkip_skipLines false).suffix skipped).length_le
  refine Option.bind_eq_some_iff.2 ⟨start, skipped, ?_⟩
  unfold readItemsAt at read ⊢
  split at read
  · exact read
  · rw [readItemsFrom_eq] at read ⊢
    obtain ⟨⟨item, rest⟩, readItem, read⟩ := Option.bind_eq_some_iff.1 read
    obtain ⟨following, skipped, read⟩ := Option.bind_eq_some_iff.1 read
    dsimp only at skipped
    have second := (((framed_values fuel).1 depth).suffix readItem).length_le
    have third := ((framedSkip_skipLines false).suffix skipped).length_le
    refine Option.bind_eq_some_iff.2 ⟨(item, rest), values readItem (by omega), ?_⟩
    refine Option.bind_eq_some_iff.2 ⟨following, skipped, ?_⟩
    unfold readMoreItems at read ⊢
    split at read
    · obtain ⟨others, readOthers, same⟩ := Option.map_eq_some_iff.1 read
      rw [List.length_cons] at third
      rw [items readOthers (by omega), Option.map_some, same]
    · exact read
    · cases read

theorem steady_readEntries (values : Steady 0 readValue fuel)
    (entries : Steady 1 readEntries fuel) : Steady 1 readEntries (fuel + 1) := by
  intro depth enough cs found read bound
  obtain ⟨enough, rfl⟩ : ∃ left, enough = left + 1 := ⟨enough - 1, by omega⟩
  rw [readEntries_succ] at read ⊢
  obtain ⟨⟨name, afterName⟩, readName, read⟩ := Option.bind_eq_some_iff.1 read
  obtain ⟨start, skipped, read⟩ := Option.bind_eq_some_iff.1 read
  obtain ⟨⟨value, rest⟩, readGiven, read⟩ := Option.bind_eq_some_iff.1 read
  have first := (framed_readPath.suffix readName).length_le
  have second := ((framedSkip_after? '=').suffix skipped).length_le
  have third := (skipGap_suffix start).length_le
  have fourth := (((framed_values fuel).1 depth).suffix readGiven).length_le
  have fifth := (skipGap_suffix rest).length_le
  refine Option.bind_eq_some_iff.2 ⟨(name, afterName), readName, ?_⟩
  refine Option.bind_eq_some_iff.2 ⟨start, skipped, ?_⟩
  refine Option.bind_eq_some_iff.2 ⟨(value, rest), values readGiven (by omega), ?_⟩
  dsimp only [readMoreEntries] at read ⊢
  split at read
  · next following comma =>
    obtain ⟨others, readOthers, same⟩ := Option.map_eq_some_iff.1 read
    rw [comma, List.length_cons] at fifth
    rw [entries readOthers (by omega), Option.map_some, same]
  · exact read
  · cases read

/-- Values, lists and tables are read with any fuel that is enough for the text. -/
theorem steady_values (fuel : Nat) :
    Steady 0 readValue fuel ∧ Steady 1 readItems fuel ∧ Steady 1 readEntries fuel := by
  -- the readers call one another with less fuel, so one induction carries all three
  induction fuel with
  | zero =>
    refine ⟨?_, ?_, ?_⟩ <;> intro _ _ _ _ read <;> cases read
  | succ fuel ih =>
    obtain ⟨values, items, entries⟩ := ih
    exact ⟨steady_readValue items entries, steady_readItems values items,
      steady_readEntries values entries⟩

/-! ## Values and entries without fuel -/

/-- A text begins with a value. -/
def Reads (depth : Nat) (cs : List Char) (value : Value) (rest : List Char) : Prop :=
  ∃ fuel, readValue fuel depth cs = some (value, rest)

/-- A value is read with any fuel that is enough. -/
theorem readValue_iff (fuel : Nat) {value : Value} (enough : 2 * cs.length < fuel) :
    readValue fuel depth cs = some (value, rest) ↔ Reads depth cs value rest :=
  ⟨fun read => ⟨fuel, read⟩, fun ⟨_, read⟩ => (steady_values _).1 read enough⟩

namespace Reads

variable {value other : Value}

/-- A text begins with one value only. -/
theorem unique {rest' : List Char} (read : Reads depth cs value rest)
    (read' : Reads depth cs other rest') : value = other ∧ rest = rest' := by
  have enough : 2 * cs.length < 2 * cs.length + 1 := Nat.lt_succ_self _
  have same := ((readValue_iff _ enough).2 read).symm.trans ((readValue_iff _ enough).2 read')
  cases same
  exact ⟨rfl, rfl⟩

theorem suffix (read : Reads depth cs value rest) : rest <:+ cs := by
  obtain ⟨fuel, read⟩ := read
  exact ((framed_values fuel).1 depth).suffix read

/-- A value is read whatever follows it. -/
theorem append (read : Reads depth cs value rest) (left : '=' ∈ rest) (more : List Char) :
    Reads depth (cs ++ more) value (rest ++ more) := by
  obtain ⟨fuel, read⟩ := read
  exact ⟨fuel, ((framed_values fuel).1 depth).append read left more⟩

end Reads

/-- A text begins with the entries of a table and its closing brace. -/
inductive Entries (depth : Nat) : List Char → List Change → List Char → Prop
  /-- There is one entry. -/
  | last {cs start after rest : List Char} {path : List String} {name : String} {value : Value}
    (named : readPath cs = some ((path, name), '=' :: start))
    (given : Reads depth (skipGap start) value after) (closed : skipGap after = '}' :: rest) :
    Entries depth cs [Change.assign path name value] rest
  /-- There are more after the first. -/
  | more {cs start after next rest : List Char} {path : List String} {name : String}
    {value : Value} {changes : List Change}
    (named : readPath cs = some ((path, name), '=' :: start))
    (given : Reads depth (skipGap start) value after) (comma : skipGap after = ',' :: next)
    (others : Entries depth next changes rest) :
    Entries depth cs (Change.assign path name value :: changes) rest

theorem after?_eq_some_iff {c : Char} : after? c cs = some rest ↔ cs = c :: rest := by
  cases cs with
  | nil => simp [after?]
  | cons first others =>
    by_cases same : first = c
    · simp [after?, same]
    · simp [after?, same]

/-- Entries that were read are entries. -/
theorem entries_of_readEntries {changes : List Change}
    (read : readEntries fuel depth cs = some (changes, rest)) : Entries depth cs changes rest := by
  induction fuel generalizing cs changes with
  | zero => cases read
  | succ fuel ih =>
    rw [readEntries_succ] at read
    obtain ⟨⟨⟨path, name⟩, afterName⟩, named, step⟩ := Option.bind_eq_some_iff.1 read
    obtain ⟨start, equals, found⟩ := Option.bind_eq_some_iff.1 step
    obtain ⟨⟨value, after⟩, given, read⟩ := Option.bind_eq_some_iff.1 found
    rw [after?_eq_some_iff.1 equals] at named
    dsimp only [readMoreEntries] at read
    split at read
    · next next comma =>
      obtain ⟨⟨others, left⟩, readOthers, same⟩ := Option.map_eq_some_iff.1 read
      cases same
      exact .more named ⟨fuel, given⟩ comma (ih readOthers)
    · next left closed =>
      cases read
      exact .last named ⟨fuel, given⟩ closed
    · cases read

/-- Entries are read with any fuel that is enough. -/
theorem readEntries_iff {changes : List Change} (enough : 2 * cs.length + 1 < fuel) :
    readEntries fuel depth cs = some (changes, rest) ↔ Entries depth cs changes rest := by
  refine ⟨entries_of_readEntries, fun entries => ?_⟩
  -- every step passes at least the equals sign, which pays for the fuel that it takes
  induction entries generalizing fuel with
  | @last cs start after rest path name value named given closed =>
    obtain ⟨fuel, rfl⟩ : ∃ left, fuel = left + 1 := ⟨fuel - 1, by omega⟩
    have bound := (framed_readPath.suffix named).length_le
    have gap := (skipGap_suffix start).length_le
    rw [List.length_cons] at bound
    have read := (readValue_iff fuel (by omega)).2 given
    simp [readEntries_succ, named, after?, read, closed, readMoreEntries]
  | @more cs start after next rest path name value changes named given comma others ih =>
    obtain ⟨fuel, rfl⟩ : ∃ left, fuel = left + 1 := ⟨fuel - 1, by omega⟩
    have bound := (framed_readPath.suffix named).length_le
    have gap := (skipGap_suffix start).length_le
    have used := given.suffix.length_le
    have gap' := (skipGap_suffix after).length_le
    rw [List.length_cons] at bound
    rw [comma, List.length_cons] at gap'
    have read := (readValue_iff fuel (by omega)).2 given
    have readOthers := @ih fuel (by omega)
    simp [readEntries_succ, named, after?, read, comma, readMoreEntries, readOthers]

/-! ## Lines without fuel -/

/-- A text begins with a line, read for the table that `current` leads to. The line makes changes,
and the next one is read for the table that `following` leads to. -/
inductive Line (current : List String) (cs : List Char) :
    (changes : List Change) → (following : List String) → (next : List Char) → Prop
  /-- The line is empty, but for a comment. -/
  | blank {c : Char} {start next : List Char} (begins : skipGap cs = c :: start)
    (isBlank : c = '#' ∨ c = '\n' ∨ c = '\r') (ended : afterLine? (c :: start) = some next) :
    Line current cs [] current next
  /-- The line is a header. -/
  | header {start after next : List Char} {following : List String} {change : Change}
    (begins : skipGap cs = '[' :: start)
    (read : readHeader start = some ((following, change), after))
    (ended : afterLine? after = some next) : Line current cs [change] following next
  /-- The line gives a name a value. -/
  | entry {start after next : List Char} {path : List String} {name : String} {value : Value}
    (named : readPath cs = some ((path, name), '=' :: start))
    (given : Reads 0 (skipGap start) value after) (ended : afterLine? after = some next) :
    Line current cs [Change.along (Change.assign path name value) .implied current] current next

/-- A text is a file that makes changes, read for the table that `current` leads to. -/
inductive Lines : (current : List String) → List Char → List Change → Prop
  /-- Nothing is left. -/
  | done {current : List String} {cs : List Char} (ended : skipGap cs = []) : Lines current cs []
  /-- There is a line, and more after it. -/
  | line {current following : List String} {cs next : List Char} {first others : List Change}
    (line : Line current cs first following next) (lines : Lines following next others) :
    Lines current cs (first ++ others)

theorem skipGap_skipGap (cs : List Char) : skipGap (skipGap cs) = skipGap cs := by
  induction cs with
  | nil => rfl
  | cons c rest ih =>
    by_cases gap : isGap c <;> simp_all [skipGap]

/-- A name is read after a gap. -/
theorem readPath_skipGap (cs : List Char) : readPath (skipGap cs) = readPath cs := by
  have named (parts : Nat) : readName (parts + 1) (skipGap cs) = readName (parts + 1) cs := by
    rw [readName, readName, skipGap_skipGap]
  rw [readPath, readPath, show nestingLimit - 1 = 78 + 1 from rfl, named]

/-- A line that begins with a name is neither blank nor a header. -/
theorem begins_of_readPath {found : (List String × String) × List Char}
    (named : readPath cs = some found) : ∃ c start, skipGap cs = c :: start ∧ c ≠ '[' ∧
      ¬ (c = '#' ∨ c = '\n' ∨ c = '\r') := by
  rw [← readPath_skipGap] at named
  cases begins : skipGap cs with
  | nil =>
    rw [begins] at named
    cases named
  | cons c start =>
    rw [begins] at named
    refine ⟨c, start, rfl, ?_, ?_⟩
    · rintro rfl
      cases named
    · rintro (rfl | rfl | rfl) <;> cases named

/-- The end of a line with something on it makes a file shorter. -/
theorem length_afterLine?_lt {c : Char} {start next : List Char}
    (isBlank : c = '#' ∨ c = '\n' ∨ c = '\r') (ended : afterLine? (c :: start) = some next) :
    next.length < (c :: start).length := by
  have inComment := (List.dropWhile_suffix (l := start) isPlain).length_le
  rcases isBlank with rfl | rfl | rfl
  · unfold afterLine? at ended
    split at ended
    · cases ended
      exact Nat.succ_pos _
    · have inLine := (afterNewline?_append ended).1.length_le
      exact Nat.lt_succ_of_le (Nat.le_trans inLine inComment)
  · cases ended
    exact Nat.lt_succ_self _
  · have ended : afterNewline? ('\r' :: start) = some next := ended
    unfold afterNewline? at ended
    split at ended
    · next same => cases same
    · next same =>
      cases ended
      rw [same]
      simp only [List.length_cons]
      omega
    · cases ended

/-- A line makes a file shorter. -/
theorem Line.length_lt {current following : List String} {changes : List Change}
    {next : List Char} (line : Line current cs changes following next) :
    next.length < cs.length := by
  have gap := (skipGap_suffix cs).length_le
  cases line with
  | blank begins isBlank ended =>
    rw [begins] at gap
    exact Nat.lt_of_lt_of_le (length_afterLine?_lt isBlank ended) gap
  | header begins read ended =>
    have inHeader := (framed_readHeader.suffix read).length_le
    have inLine := (framedSkip_afterLine?.suffix ended).length_le
    rw [begins, List.length_cons] at gap
    omega
  | @entry start after _ path name value named given ended =>
    have inName := (framed_readPath.suffix named).length_le
    have inGap := (skipGap_suffix start).length_le
    have inValue := given.suffix.length_le
    have inLine := (framedSkip_afterLine?.suffix ended).length_le
    rw [List.length_cons] at inName
    omega

/-- A file with a line is read as the line and the rest. -/
theorem Line.readFile_eq {current following : List String} {changes : List Change}
    {next : List Char} (line : Line current cs changes following next) (fuel : Nat) :
    readFile (fuel + 1) current cs = (readFile fuel following next).map (changes ++ ·) := by
  cases line with
  | @blank c start _ begins isBlank ended =>
    rcases isBlank with rfl | rfl | rfl <;> simp [readFile, begins, ended]
  | header begins read ended =>
    simp only [readFile, begins, read, ended, Option.bind_eq_bind, Option.bind_some]
    exact Option.map_eq_bind.symm
  | @entry given after _ path name value named read ended =>
    obtain ⟨c, start, begins, opens, filled⟩ := begins_of_readPath named
    rw [← readPath_skipGap, begins] at named
    have readGiven := (readValue_iff (2 * (skipGap given).length + 2) (by omega)).2 read
    have equals : after? '=' ('=' :: given) = some given := after?_eq_some_iff.2 rfl
    rw [readFile]
    simp only [begins]
    simp only [if_neg filled, named, equals, readGiven, ended, Option.bind_eq_bind,
      Option.bind_some]
    exact Option.map_eq_bind.symm

/-- A file that was read is empty or begins with a line. -/
theorem line_of_readFile {current : List String} {changes : List Change}
    (read : readFile (fuel + 1) current cs = some changes) :
    skipGap cs = [] ∧ changes = [] ∨ ∃ first following next others,
      Line current cs first following next ∧ readFile fuel following next = some others ∧
        changes = first ++ others := by
  rw [readFile] at read
  split at read
  · next ended =>
    cases read
    exact .inl ⟨ended, rfl⟩
  · next start begins =>
    obtain ⟨⟨⟨following, change⟩, after⟩, header, read⟩ := Option.bind_eq_some_iff.1 read
    obtain ⟨next, ended, read⟩ := Option.bind_eq_some_iff.1 read
    obtain ⟨others, readOthers, same⟩ := Option.bind_eq_some_iff.1 read
    cases same
    exact .inr ⟨_, _, _, _, .header begins header ended, readOthers, rfl⟩
  · next c start opens begins =>
    split at read
    · next isBlank =>
      obtain ⟨next, ended, read⟩ := Option.bind_eq_some_iff.1 read
      exact .inr ⟨_, _, _, _, .blank begins isBlank ended, read, rfl⟩
    · next filled =>
      obtain ⟨⟨⟨path, name⟩, afterName⟩, named, read⟩ := Option.bind_eq_some_iff.1 read
      obtain ⟨given, equals, read⟩ := Option.bind_eq_some_iff.1 read
      obtain ⟨⟨value, after⟩, readGiven, read⟩ := Option.bind_eq_some_iff.1 read
      obtain ⟨next, ended, read⟩ := Option.bind_eq_some_iff.1 read
      obtain ⟨others, readOthers, same⟩ := Option.bind_eq_some_iff.1 read
      cases same
      rw [← begins, readPath_skipGap, after?_eq_some_iff.1 equals] at named
      exact .inr ⟨_, _, _, _, .entry named ⟨_, readGiven⟩ ended, readOthers, rfl⟩

/-- A file is read as its lines are, with any fuel that is enough. -/
theorem readFile_iff {current : List String} {changes : List Change}
    (enough : cs.length < fuel) :
    readFile fuel current cs = some changes ↔ Lines current cs changes := by
  constructor
  · intro read
    clear enough
    induction fuel generalizing current cs changes with
    | zero => cases read
    | succ fuel ih =>
      rcases line_of_readFile read with ⟨ended, rfl⟩ | ⟨_, _, _, _, line, readOthers, rfl⟩
      · exact .done ended
      · exact .line line (ih readOthers)
  · intro lines
    -- a line makes the text shorter, so one unit of fuel less is enough for the rest
    induction lines generalizing fuel with
    | done ended =>
      obtain ⟨fuel, rfl⟩ : ∃ left, fuel = left + 1 := ⟨fuel - 1, by omega⟩
      simp only [readFile, ended]
    | line line lines ih =>
      obtain ⟨fuel, rfl⟩ : ∃ left, fuel = left + 1 := ⟨fuel - 1, by omega⟩
      have shorter := line.length_lt
      rw [line.readFile_eq, ih (by omega), Option.map_some]

/-- A file with a line is the line and the rest. -/
theorem Line.lines_iff {current following : List String} {first changes : List Change}
    {next : List Char} (line : Line current cs first following next) :
    Lines current cs changes ↔
      ∃ others, Lines following next others ∧ changes = first ++ others := by
  have shorter := line.length_lt
  rw [← readFile_iff (Nat.lt_succ_self cs.length), line.readFile_eq, Option.map_eq_some_iff]
  simp only [readFile_iff shorter, eq_comm]

/-- A line is read whatever follows it. -/
theorem Line.append {current following : List String} {changes : List Change}
    {next : List Char} (line : Line current cs changes following next) (left : '=' ∈ next)
    (more : List Char) : Line current (cs ++ more) changes following (next ++ more) := by
  cases line with
  | @blank c start _ begins isBlank ended =>
    have longer := framedSkip_afterLine?.append ended left more
    have inLine := (framedSkip_afterLine?.suffix ended).subset left
    have inText := (skipGap_suffix cs).subset (begins ▸ inLine)
    refine .blank ?_ isBlank longer
    rw [skipGap_append inText, begins]
    rfl
  | @header start after _ _ change begins read ended =>
    have inHeader := (framedSkip_afterLine?.suffix ended).subset left
    have inStart := (framed_readHeader.suffix read).subset inHeader
    have inText := (skipGap_suffix cs).subset (begins ▸ List.mem_cons_of_mem '[' inStart)
    refine .header ?_ (framed_readHeader.append read inHeader more)
      (framedSkip_afterLine?.append ended left more)
    rw [skipGap_append inText, begins]
    rfl
  | @entry start after _ path name value named given ended =>
    have inValue := (framedSkip_afterLine?.suffix ended).subset left
    have inStart := (skipGap_suffix start).subset (given.suffix.subset inValue)
    have longer : Reads 0 (skipGap (start ++ more)) value (after ++ more) := by
      rw [skipGap_append inStart]
      exact given.append inValue more
    exact .entry (readPath_append named more) longer
      (framedSkip_afterLine?.append ended left more)

/-! ## Files -/

/-- A text without the mark of the byte order at its beginning, if there is one. -/
def withoutMark : List Char → List Char
  | c :: rest => if c = Char.ofNat 0xFEFF then rest else c :: rest
  | [] => []

/-- A text is a file just if its lines make changes that build the value of the file. -/
theorem ofText?_eq_some_iff {text : String} {file : Value} :
    ofText? text = some file ↔
      ∃ changes, Lines [] (withoutMark text.toList) changes ∧ build? changes = some file := by
  have read : ofText? text = (readFile ((withoutMark text.toList).length + 1) []
      (withoutMark text.toList)).bind build? := by
    unfold ofText?
    cases text.toList <;> rfl
  simp only [read, Option.bind_eq_some_iff, readFile_iff (Nat.lt_succ_self _)]

/-- A file is a table. -/
theorem isTable_of_ofText? {text : String} {file : Value} (parsed : ofText? text = some file) :
    ∃ entries, file = .table entries := by
  obtain ⟨changes, -, built⟩ := ofText?_eq_some_iff.1 parsed
  obtain ⟨⟨origin, branch⟩, -, same⟩ := Option.bind_eq_some_iff.1 built
  cases same
  exact ⟨_, rfl⟩

end OrderPipeline.Toml
