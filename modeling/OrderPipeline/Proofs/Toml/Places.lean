import OrderPipeline.Proofs.Toml.Changes
import OrderPipeline.Proofs.Toml.Lines

/-!
# Places for values

A text can break off where the value of a name is to be written (`Awaits`). What the rest of the
text makes of the value depends on it only where it is put (`Puts`), so it can be swapped for
another (`Awaits.swap_quoted`).

* `AwaitsEntry.cut`, `Awaits.cut` — such a text is read as the value and what is done with it.
-/

namespace OrderPipeline.Toml

variable {cs rest : List Char} {depth : Nat} {x y : Value}

/-! ## What follows a name -/

/-- What entries that begin with a name make of its value and the text after it. -/
def AfterEntry (depth : Nat) (path : List String) (name : String) (final : List Char)
    (value : Value) (rest : List Char) (changes : List Change) : Prop :=
  skipGap rest = '}' :: final ∧ changes = [Change.assign path name value] ∨
    ∃ next others, skipGap rest = ',' :: next ∧ Entries depth next others final ∧
      changes = Change.assign path name value :: others

/-- What lines that begin with a name make of its value and the text after it. -/
def AfterLine (current path : List String) (name : String) (value : Value) (rest : List Char)
    (changes : List Change) : Prop :=
  ∃ next others, afterLine? rest = some next ∧ Lines current next others ∧
    changes = Change.along (Change.assign path name value) .implied current :: others

/-- Entries that begin with a name. -/
theorem entries_iff_of_named {path : List String} {name : String} {start : List Char}
    {changes : List Change} (named : readPath cs = some ((path, name), '=' :: start)) :
    Entries depth cs changes rest ↔ ∃ value after, Reads depth (skipGap start) value after ∧
      AfterEntry depth path name rest value after changes := by
  constructor
  · rintro (⟨named', given, closed⟩ | ⟨named', given, comma, others⟩)
    · cases named.symm.trans named'
      exact ⟨_, _, given, .inl ⟨closed, rfl⟩⟩
    · cases named.symm.trans named'
      exact ⟨_, _, given, .inr ⟨_, _, comma, others, rfl⟩⟩
  · rintro ⟨value, after, given, ⟨closed, rfl⟩ | ⟨next, others, comma, more, rfl⟩⟩
    · exact .last named given closed
    · exact .more named given comma more

/-- A table in braces that begins with a name. -/
theorem reads_braces_iff {inner : List Char} {found : (List String × String) × List Char}
    {value : Value} (named : readPath inner = some found) (shallow : depth + 1 < nestingLimit) :
    Reads depth ('{' :: inner) value rest ↔
      ∃ changes, Entries (depth + 1) inner changes rest ∧ build? changes = some value := by
  have filled (fuel : Nat) :
      readBraces fuel (depth + 1) inner = readEntries fuel (depth + 1) inner := by
    have skipped : readEntries fuel (depth + 1) (skipGap inner) =
        readEntries fuel (depth + 1) inner := by
      cases fuel with
      | zero => rfl
      | succ fuel => rw [readEntries_succ, readEntries_succ, readPath_skipGap]
    rw [← skipped, readBraces]
    split
    · next after closes =>
      -- no name begins with the brace that would close an empty table
      rw [← readPath_skipGap, closes] at named
      cases named
    · rfl
  have whole (fuel : Nat) : readValue (fuel + 1) depth ('{' :: inner) =
      (readEntries fuel (depth + 1) inner).bind buildBraces := by
    rw [readValue_braces, if_neg (Nat.not_le.2 shallow), filled]
  constructor
  · rintro ⟨fuel, read⟩
    cases fuel with
    | zero => cases read
    | succ fuel =>
      rw [whole] at read
      obtain ⟨⟨changes, left⟩, entries, read⟩ := Option.bind_eq_some_iff.1 read
      obtain ⟨built, found, same⟩ := Option.bind_eq_some_iff.1 read
      cases same
      exact ⟨changes, entries_of_readEntries entries, found⟩
  · rintro ⟨changes, entries, built⟩
    refine ⟨2 * inner.length + 2 + 1, ?_⟩
    rw [whole, (readEntries_iff (Nat.lt_succ_self _)).2 entries]
    simp [buildBraces, built]

/-- Lines that begin with a name. -/
theorem lines_iff_of_named {current path : List String} {name : String} {start : List Char}
    {changes : List Change} (named : readPath cs = some ((path, name), '=' :: start)) :
    Lines current cs changes ↔ ∃ value after, Reads 0 (skipGap start) value after ∧
      AfterLine current path name value after changes := by
  constructor
  · obtain ⟨c, from_, begins, opens, filled⟩ := begins_of_readPath named
    intro lines
    cases lines with
    | done ended =>
      rw [begins] at ended
      cases ended
    | line line lines =>
      cases line with
      | blank begins' isBlank =>
        cases begins.symm.trans begins'
        exact absurd isBlank filled
      | header begins' =>
        cases begins.symm.trans begins'
        exact absurd rfl opens
      | entry named' given ended =>
        cases named.symm.trans named'
        exact ⟨_, _, given, _, _, ended, lines, rfl⟩
  · rintro ⟨value, after, given, next, others, ended, lines, rfl⟩
    exact .line (.entry named given ended) lines

/-! ## Changes of lines -/

theorem Change.keeps_assign (path : List String) (name : String) (value : Value) :
    Keeps x y (assign path name value) :=
  (keeps_add _ name value).along .dotted path

/-- Two values for one name part where the name leads. -/
theorem Change.part_assign (path : List String) (name : String) (x y : Value) :
    Part x y (path ++ [name]) (assign path name x) (assign path name y) :=
  (part_add _ name x y).along .dotted path

theorem Entries.keeps {changes : List Change} (entries : Entries depth cs changes rest) :
    ∀ change ∈ changes, Change.Keeps x y change := by
  induction entries with
  | last => exact List.forall_mem_singleton.2 (Change.keeps_assign _ _ _)
  | more _ _ _ _ ih => exact List.forall_mem_cons.2 ⟨Change.keeps_assign _ _ _, ih⟩

theorem keeps_of_readHeader {following : List String} {change : Change}
    (read : readHeader cs = some ((following, change), rest)) : Change.Keeps x y change := by
  unfold readHeader at read
  split at read
  · obtain ⟨⟨⟨path, name⟩, after⟩, -, read⟩ := Option.bind_eq_some_iff.1 read
    obtain ⟨first, -, read⟩ := Option.bind_eq_some_iff.1 read
    obtain ⟨second, -, same⟩ := Option.bind_eq_some_iff.1 read
    cases same
    exact (Change.keeps_extend name).along .implied path
  · obtain ⟨⟨⟨path, name⟩, after⟩, -, read⟩ := Option.bind_eq_some_iff.1 read
    obtain ⟨first, -, same⟩ := Option.bind_eq_some_iff.1 read
    cases same
    exact (Change.keeps_define name).along .implied path

theorem Line.keeps {current following : List String} {changes : List Change} {next : List Char}
    (line : Line current cs changes following next) :
    ∀ change ∈ changes, Change.Keeps x y change := by
  cases line with
  | blank => simp
  | header _ read => exact List.forall_mem_singleton.2 (keeps_of_readHeader read)
  | entry => exact List.forall_mem_singleton.2 ((Change.keeps_assign _ _ _).along .implied current)

theorem Lines.keeps {current : List String} {changes : List Change}
    (lines : Lines current cs changes) : ∀ change ∈ changes, Change.Keeps x y change := by
  induction lines with
  | done => simp
  | line line _ ih => exact List.forall_mem_append.2 ⟨line.keeps, ih⟩

/-! ## Places -/

/-- The entries of a table in braces break off where the value of a name is to be written. -/
inductive AwaitsEntry (key : String) : List Char → Prop
  /-- The name has just been written. -/
  | here {cs gap : List Char} (named : readPath cs = some (([], key), '=' :: gap))
    (isGap : skipGap gap = []) : AwaitsEntry key cs
  /-- There is another entry before. -/
  | later {cs start after next : List Char} {path : List String} {name : String} {value : Value}
    (named : readPath cs = some ((path, name), '=' :: start))
    (given : Reads 1 (skipGap start) value after) (comma : skipGap after = ',' :: next)
    (awaits : AwaitsEntry key next) : AwaitsEntry key cs

/-- A file, read for the table that `current` leads to, breaks off where the value of a name in a
table is to be written. -/
inductive Awaits (table key : String) : (current : List String) → List Char → Prop
  /-- The name has just been written. -/
  | here {current path : List String} {name : String} {cs gap : List Char}
    (named : readPath cs = some ((path, name), '=' :: gap)) (isGap : skipGap gap = [])
    (leads : current ++ (path ++ [name]) = [table, key]) : Awaits table key current cs
  /-- The table is being written in braces. -/
  | inBraces {current path : List String} {name : String} {cs start inner : List Char}
    (named : readPath cs = some ((path, name), '=' :: start))
    (opened : skipGap start = '{' :: inner) (inside : AwaitsEntry key inner)
    (leads : current ++ (path ++ [name]) = [table]) : Awaits table key current cs
  /-- There is another line before. -/
  | later {current following : List String} {cs next : List Char} {changes : List Change}
    (line : Line current cs changes following next) (awaits : Awaits table key following next) :
    Awaits table key current cs

/-- A name that was read leaves its equals sign. -/
theorem mem_of_readPath {found : List String × String} {start : List Char}
    (named : readPath cs = some (found, '=' :: start)) : '=' ∈ cs :=
  (framed_readPath.suffix named).subset List.mem_cons_self

/-- Entries that break off have a name at least. -/
theorem AwaitsEntry.named {key : String} (awaits : AwaitsEntry key cs) :
    ∃ found start, readPath cs = some (found, '=' :: start) := by
  cases awaits with
  | here named | later named => exact ⟨_, _, named⟩

theorem AwaitsEntry.mem {key : String} (awaits : AwaitsEntry key cs) : '=' ∈ cs := by
  obtain ⟨found, start, named⟩ := awaits.named
  exact mem_of_readPath named

theorem Awaits.mem {table key : String} {current : List String}
    (awaits : Awaits table key current cs) : '=' ∈ cs := by
  induction awaits with
  | here named | inBraces named => exact mem_of_readPath named
  | later line _ ih =>
    cases line with
    | blank begins isBlank ended =>
      exact (skipGap_suffix _).subset (begins ▸ (framedSkip_afterLine?.suffix ended).subset ih)
    | header begins read ended =>
      have inStart := (framed_readHeader.suffix read).subset
        ((framedSkip_afterLine?.suffix ended).subset ih)
      exact (skipGap_suffix _).subset (begins ▸ List.mem_cons_of_mem '[' inStart)
    | entry named => exact mem_of_readPath named

/-- A gap that has just begun may go on. -/
theorem skipGap_append_of_nil {gap : List Char} (isGap : skipGap gap = []) (more : List Char) :
    skipGap (gap ++ more) = skipGap more := by
  rw [skipGap, List.dropWhile_append, if_pos]
  · rfl
  · rw [List.isEmpty_iff]
    exact isGap

/-! ## Putting a value in its place -/

/-- Two changes part at a path where they put two values. -/
def Change.Swap (x y : Value) (path : List String) (change change' : Change) : Prop :=
  ∃ outer inner part part', path = outer ++ inner ∧ Change.Part part part' outer change change' ∧
    Value.DifferAt x y inner part part'

/-- What is done with a value and the text after it depends on the value only where it is put at a
path, and the text does not go on with a quote. -/
structure Puts (path : List String) (finish : Value → List Char → List Change → Prop) : Prop where
  /-- The text does not go on with a quote. -/
  closed {value : Value} {rest : List Char} {changes : List Change} :
    finish value rest changes → rest.head? ≠ some '"'
  /-- Another value makes another change. -/
  swap {value : Value} {rest : List Char} {changes : List Change}
    (finished : finish value rest changes) (other : Value) :
    ∃ before change change' after, changes = before ++ change :: after ∧
      finish other rest (before ++ change' :: after) ∧ Change.Swap value other path change change' ∧
      ∀ later ∈ after, ∀ x y, Change.Keeps x y later

/-- A text whose gap leads to another character does not begin with a quote. -/
theorem head?_ne_quote {c : Char} {next : List Char} (found : skipGap cs = c :: next)
    (other : c ≠ '"') : cs.head? ≠ some '"' := by
  cases cs with
  | nil => simp
  | cons first rest =>
    rintro ⟨rfl⟩
    cases found
    exact other rfl

theorem head?_ne_quote_of_afterLine? {next : List Char} (ended : afterLine? cs = some next) :
    cs.head? ≠ some '"' := by
  cases cs with
  | nil => simp
  | cons first rest =>
    rintro ⟨rfl⟩
    cases ended

/-- Two values for one name are swapped where the name leads. -/
theorem Change.Swap.of_part {path : List String} {change change' : Change}
    (part : Change.Part x y path change change') : Change.Swap x y path change change' :=
  ⟨path, [], x, y, (List.append_nil path).symm, part, .here⟩

namespace Puts

variable {finish : Value → List Char → List Change → Prop}

/-- Entries put the value of a name where the name leads. -/
theorem afterEntry (depth : Nat) (key : String) (final : List Char) :
    Puts [key] (AfterEntry depth [] key final) where
  closed := by
    rintro value rest changes (⟨brace, -⟩ | ⟨next, others, comma, -⟩)
    · exact head?_ne_quote brace (by decide)
    · exact head?_ne_quote comma (by decide)
  swap := by
    rintro value rest changes (⟨brace, rfl⟩ | ⟨next, others, comma, more, rfl⟩) other
    · exact ⟨[], _, _, [], rfl, .inl ⟨brace, rfl⟩, .of_part (Change.part_assign [] key value other),
        by simp⟩
    · exact ⟨[], _, _, others, rfl, .inr ⟨next, others, comma, more, rfl⟩,
        .of_part (Change.part_assign [] key value other), fun later isIn _ _ =>
          more.keeps later isIn⟩

/-- Lines put the value of a name where the name leads. -/
theorem afterLine (current path : List String) (name : String) :
    Puts (current ++ (path ++ [name])) (AfterLine current path name) where
  closed := by
    rintro value rest changes ⟨next, others, ended, -⟩
    exact head?_ne_quote_of_afterLine? ended
  swap := by
    rintro value rest changes ⟨next, others, ended, lines, rfl⟩ other
    have part := (Change.part_assign path name value other).along .implied current
    exact ⟨[], _, _, others, rfl, ⟨next, others, ended, lines, rfl⟩, .of_part part,
      fun later isIn _ _ => lines.keeps later isIn⟩

/-- A value that is put in a part is put in the whole where the part is. -/
theorem within {path inner : List String}
    {part : List Char → Value → List Char → List Change → Prop} (puts : Puts path finish)
    (inside : ∀ after, Puts inner (part after)) :
    Puts (path ++ inner) fun value rest changes => ∃ parts after whole,
      part after value rest parts ∧ build? parts = some whole ∧ finish whole after changes where
  closed := by
    rintro value rest changes ⟨_, after, _, finished, -⟩
    exact (inside after).closed finished
  swap := by
    rintro value rest changes ⟨parts, after, whole, finished, built, final⟩ other
    obtain ⟨before, change, change', later, rfl, finished', ⟨outer, deep, x, y, rfl, parting,
      differ⟩, keeps⟩ := (inside after).swap finished other
    obtain ⟨whole', built', apart⟩ :=
      build?_swap parting (fun change isIn => keeps change isIn x y) built
    -- the other part is in turn a value that the whole takes in place of the first one
    obtain ⟨before₁, change₁, change₁', later₁, rfl, final', ⟨outer₁, deep₁, x₁, y₁, rfl, parting₁,
      differ₁⟩, keeps₁⟩ := puts.swap final whole'
    refine ⟨before₁, change₁, change₁', later₁, rfl,
      ⟨_, after, whole', finished', built', final'⟩,
      ⟨outer₁, deep₁ ++ (outer ++ deep), x₁, y₁, List.append_assoc .., parting₁, ?_⟩, keeps₁⟩
    exact differ₁.within (apart.within differ)

/-- What is done before does not matter. -/
theorem after {path : List String} (puts : Puts path finish) (first : List Change) :
    Puts path fun value rest changes => ∃ others, finish value rest others ∧
      changes = first ++ others where
  closed := by
    rintro value rest changes ⟨_, finished, -⟩
    exact puts.closed finished
  swap := by
    rintro value rest _ ⟨others, finished, rfl⟩ other
    obtain ⟨before, change, change', after, rfl, swapped, swap, keeps⟩ := puts.swap finished other
    exact ⟨first ++ before, change, change', after, (List.append_assoc ..).symm,
      ⟨_, swapped, List.append_assoc ..⟩, swap, keeps⟩

end Puts

/-! ## Cutting a text at a place -/

/-- Entries that break off where a value is to be written are a reading of the value, which begins
with no gap, and what is done with it. -/
theorem AwaitsEntry.cut {key : String} (awaits : AwaitsEntry key cs) :
    ∃ finish : List Char → Value → List Char → List Change → Prop,
      (∀ text, skipGap text = text → ∀ changes final, Entries 1 (cs ++ text) changes final ↔
        ∃ value rest, Reads 1 text value rest ∧ finish final value rest changes) ∧
      ∀ final, Puts [key] (finish final) := by
  induction awaits with
  | here named isGap =>
    refine ⟨AfterEntry 1 [] key, fun text solid changes final => ?_, .afterEntry 1 key⟩
    rw [entries_iff_of_named (readPath_append named _), skipGap_append_of_nil isGap, solid]
  | @later cs start after next path name value named given comma awaits ih =>
    obtain ⟨finish, whole, puts⟩ := ih
    refine ⟨fun final value' rest changes => ∃ others, finish final value' rest others ∧
      changes = [Change.assign path name value] ++ others, fun text solid changes final => ?_,
      fun final => (puts final).after _⟩
    have inAfter : '=' ∈ after := (skipGap_suffix after).subset
      (comma ▸ List.mem_cons_of_mem ',' awaits.mem)
    have inStart : '=' ∈ start := (skipGap_suffix start).subset (given.suffix.subset inAfter)
    have follows : skipGap (after ++ text) = ',' :: (next ++ text) := by
      rw [skipGap_append inAfter, comma, List.cons_append]
    -- the entry before is read as it was, so all depends on the entries after it
    have readFirst := given.append inAfter text
    rw [entries_iff_of_named (readPath_append named _), skipGap_append inStart]
    constructor
    · rintro ⟨value', after', given', closes⟩
      obtain ⟨rfl, rfl⟩ := readFirst.unique given'
      rcases closes with ⟨brace, -⟩ | ⟨next', others, comma', more, rfl⟩
      · cases follows.symm.trans brace
      · cases follows.symm.trans comma'
        obtain ⟨own, rest, read, finished⟩ := (whole text solid others final).1 more
        exact ⟨own, rest, read, others, finished, rfl⟩
    · rintro ⟨own, rest, read, others, finished, rfl⟩
      exact ⟨value, _, readFirst, .inr ⟨_, others, follows,
        (whole text solid others final).2 ⟨own, rest, read, finished⟩, rfl⟩⟩

/-- A file that breaks off where a value is to be written is a reading of the value, which begins
with no gap, and what is done with it. -/
theorem Awaits.cut {table key : String} {current : List String}
    (awaits : Awaits table key current cs) :
    ∃ depth finish, (∀ text, skipGap text = text → ∀ changes,
        (Lines current (cs ++ text) changes ↔
          ∃ value rest, Reads depth text value rest ∧ finish value rest changes)) ∧
      Puts [table, key] finish := by
  induction awaits with
  | @here current path name cs gap named isGap leads =>
    refine ⟨0, AfterLine current path name, fun text solid changes => ?_,
      leads ▸ .afterLine current path name⟩
    rw [lines_iff_of_named (readPath_append named _), skipGap_append_of_nil isGap, solid]
  | @inBraces current path name cs start inner named opened inside leads =>
    obtain ⟨finish, whole, puts⟩ := inside.cut
    have puts := (leads ▸ Puts.afterLine current path name : Puts [table] _).within puts
    refine ⟨1, _, fun text solid changes => ?_, puts⟩
    have inStart : '=' ∈ start := (skipGap_suffix start).subset
      (opened ▸ List.mem_cons_of_mem '{' inside.mem)
    obtain ⟨found, first, begins⟩ := inside.named
    have braces (part : Value) (after : List Char) :
        Reads 0 ('{' :: (inner ++ text)) part after ↔ ∃ parts,
          Entries 1 (inner ++ text) parts after ∧ build? parts = some part :=
      reads_braces_iff (readPath_append begins _) (by decide)
    rw [lines_iff_of_named (readPath_append named _), skipGap_append inStart, opened,
      List.cons_append]
    simp only [braces, whole text solid]
    constructor
    · rintro ⟨part, after, ⟨parts, ⟨value, rest, read, finished⟩, built⟩, ended⟩
      exact ⟨value, rest, read, parts, after, part, finished, built, ended⟩
    · rintro ⟨value, rest, read, parts, after, part, finished, built, ended⟩
      exact ⟨part, after, ⟨parts, ⟨value, rest, read, finished⟩, built⟩, ended⟩
  | @later current following cs next changes line awaits ih =>
    obtain ⟨depth, finish, whole, puts⟩ := ih
    refine ⟨depth, fun value rest changes' => ∃ others, finish value rest others ∧
      changes' = changes ++ others, fun text solid changes' => ?_, puts.after changes⟩
    have longer := line.append awaits.mem text
    rw [longer.lines_iff]
    simp only [whole text solid]
    constructor
    · rintro ⟨others, ⟨value, rest, read, finished⟩, same⟩
      exact ⟨value, rest, read, others, finished, same⟩
    · rintro ⟨value, rest, read, others, finished, same⟩
      exact ⟨others, ⟨value, rest, read, finished⟩, same⟩

/-! ## Swapping one value for another -/

/-- Whether a text begins with a quote or an apostrophe, as every string does. -/
def Quoted (cs : List Char) : Prop := cs.head? = some '"' ∨ cs.head? = some '\''

theorem Quoted.skipGap_eq {text : List Char} (quoted : Quoted text) : skipGap text = text := by
  cases text with
  | nil => rfl
  | cons c rest => rcases quoted with quoted | quoted <;> cases quoted <;> rfl

theorem quoted_of_readString {text : List Char} {found : String × List Char}
    (read : readString text = some found) : Quoted text := by
  obtain ⟨found, read, same⟩ := Option.map_eq_some_iff.1 read
  split at read
  · exact .inl rfl
  · exact .inr rfl
  · exact .inl rfl
  · exact .inr rfl
  · cases read

/-- A text that begins with a quote begins with a string. -/
theorem Quoted.reads_iff {text : List Char} {value : Value} (quoted : Quoted text) :
    Reads depth text value rest ↔
      ∃ string, readString text = some (string, rest) ∧ value = .string string := by
  have step (fuel : Nat) : readValue (fuel + 1) depth text =
      (readString text).map fun found => (.string found.1, found.2) := by
    cases text with
    | nil => rcases quoted with quoted | quoted <;> cases quoted
    | cons c rest => rcases quoted with quoted | quoted <;> cases quoted <;> rw [readValue]
  constructor
  · rintro ⟨fuel, read⟩
    cases fuel with
    | zero => cases read
    | succ fuel =>
      obtain ⟨⟨string, left⟩, found, same⟩ := Option.map_eq_some_iff.1 ((step fuel).symm.trans read)
      cases same
      exact ⟨string, found, rfl⟩
  · rintro ⟨string, found, rfl⟩
    exact ⟨1, by rw [step, found]; rfl⟩

theorem withoutMark_append (filled : cs ≠ []) (more : List Char) :
    withoutMark (cs ++ more) = withoutMark cs ++ more := by
  cases cs with
  | nil => exact absurd rfl filled
  | cons c rest =>
    simp only [List.cons_append, withoutMark]
    split <;> rfl

section Swap

variable {table key : String} {front text : List Char} {file : Value}

/-- A file in which a quoted text follows where a value is to be written, with what is read of the
string, stays a file if what is read becomes another string, and differs in that value only. -/
theorem Awaits.swap_quoted (awaits : Awaits table key [] (withoutMark front))
    (quoted : Quoted text) (parsed : ofText? (String.ofList (front ++ text)) = some file) :
    ∃ string rest, readString text = some (string, rest) ∧ rest.head? ≠ some '"' ∧
      ∀ other text', readString text' = some (other, rest) →
        ∃ file', ofText? (String.ofList (front ++ text')) = some file' ∧
          Value.DifferAt (.string string) (.string other) [table, key] file file' := by
  have filled : front ≠ [] := by
    rintro rfl
    cases awaits.mem
  obtain ⟨depth, finish, whole, puts⟩ := awaits.cut
  have isFile {text : List Char} (quoted : Quoted text) (file : Value) :
      ofText? (String.ofList (front ++ text)) = some file ↔
        ∃ changes, (∃ value rest, Reads depth text value rest ∧
          finish value rest changes) ∧ build? changes = some file := by
    rw [ofText?_eq_some_iff, String.toList_ofList, withoutMark_append filled]
    simp only [whole text quoted.skipGap_eq]
  obtain ⟨changes, ⟨value, rest, read, finished⟩, built⟩ := (isFile quoted file).1 parsed
  obtain ⟨string, found, rfl⟩ := quoted.reads_iff.1 read
  refine ⟨string, rest, found, puts.closed finished, fun other text' found' => ?_⟩
  obtain ⟨before, change, change', after, rfl, finished', ⟨outer, inner, x, y, splits, parting,
    differ⟩, keeps⟩ := puts.swap finished (.string other)
  obtain ⟨file', built', apart⟩ :=
    build?_swap parting (fun change isIn => keeps change isIn x y) built
  have quoted' := quoted_of_readString found'
  refine ⟨file', (isFile quoted' file').2 ⟨_, ⟨_, rest, ?_, finished'⟩, built'⟩, ?_⟩
  · exact quoted'.reads_iff.2 ⟨other, found', rfl⟩
  · exact splits ▸ apart.within differ

/-- The same for a text that begins with a quote. -/
theorem Awaits.swap (awaits : Awaits table key [] (withoutMark front))
    (parsed : ofText? (String.ofList (front ++ '"' :: text)) = some file) :
    ∃ string rest, readString ('"' :: text) = some (string, rest) ∧ rest.head? ≠ some '"' ∧
      ∀ other text', readString ('"' :: text') = some (other, rest) →
        ∃ file', ofText? (String.ofList (front ++ '"' :: text')) = some file' ∧
          Value.DifferAt (.string string) (.string other) [table, key] file file' := by
  obtain ⟨string, rest, read, closed, swap⟩ := awaits.swap_quoted (.inl rfl) parsed
  exact ⟨string, rest, read, closed, fun other _ read' => swap other _ read'⟩

end Swap

end OrderPipeline.Toml
