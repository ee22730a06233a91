import OrderPipeline.Form.Submission
import OrderPipeline.Proofs.Keyed
import OrderPipeline.Proofs.Validity.Value

/-!
# Values that are given as texts

A form is filled in with texts `name=value`. `Gives` says which name and value a text stands for,
`Malformed` which texts stand for none, and `LastGiven` which value counts for a name that is given
more than once.

* `splitPair?_eq_some_iff`, `splitPair?_eq_none_iff` — a text is split as these say.
* `ofPairs_of_malformed` — the first text that stands for no value is reported.
* `exists_holds_ofPairs` — otherwise the values that are read hold, in the order of the names, just
  what was given last for each name.
-/

namespace OrderPipeline.FormValues

/-! ## One text -/

/-- Whether a text gives a value for a name: the two stand around its first equals sign, without the
blanks at their ends, and the name is not empty. -/
structure Gives (pair name value : String) : Prop where
  /-- The text has an equals sign, and none before that. -/
  split : ∃ before after, pair.toList = before ++ '=' :: after ∧ '=' ∉ before ∧
    name = String.ofList (Text.trimEnds before) ∧ value = String.ofList (Text.trimEnds after)
  /-- There is a name. -/
  named : name ≠ ""

/-- Whether a text has no equals sign, or nothing but blanks before its first one. -/
def Malformed (pair : String) : Prop :=
  '=' ∉ pair.toList ∨
    ∃ before after, pair.toList = before ++ '=' :: after ∧ ∀ c ∈ before, Text.isBlank c = true

section Split

variable {pair name value : String} {before after : List Char}

/-- A text is split at its first equals sign. -/
theorem splitPair?_of_split (split : pair.toList = before ++ '=' :: after)
    (first : '=' ∉ before) :
    splitPair? pair =
      if Text.trimEnds before = [] then none
      else some (String.ofList (Text.trimEnds before), String.ofList (Text.trimEnds after)) := by
  have other : ∀ c ∈ before, (c != '=') = true := by
    intro c member
    rw [bne_iff_ne]
    rintro rfl
    exact first member
  have name : (before ++ '=' :: after).takeWhile (fun c => c != '=') = before := by
    rw [List.takeWhile_append_of_pos other, List.takeWhile_cons_of_neg (by simp), List.append_nil]
  have value : (before ++ '=' :: after).dropWhile (fun c => c != '=') = '=' :: after := by
    rw [List.dropWhile_append_of_pos other, List.dropWhile_cons_of_neg (by simp)]
  rw [splitPair?, split]
  simp only [name, value, List.isEmpty_iff]

/-- A text without an equals sign is not split. -/
theorem splitPair?_of_unsplit (unsplit : '=' ∉ pair.toList) : splitPair? pair = none := by
  have nothing : pair.toList.dropWhile (fun c => c != '=') = [] := by
    rw [List.dropWhile_eq_nil_iff]
    intro c member
    rw [bne_iff_ne]
    rintro rfl
    exact unsplit member
  simp only [splitPair?, nothing]

/-- A text with an equals sign has a first one. -/
theorem exists_split (sign : '=' ∈ pair.toList) :
    ∃ before after, pair.toList = before ++ '=' :: after ∧ '=' ∉ before := by
  obtain ⟨before, after, split, first⟩ := List.eq_append_cons_of_mem sign
  exact ⟨before, after, split, first⟩

/-- Splitting a text gives the name and the value that it stands for. -/
theorem splitPair?_eq_some_iff : splitPair? pair = some (name, value) ↔ Gives pair name value := by
  constructor
  · intro found
    by_cases sign : '=' ∈ pair.toList
    · obtain ⟨before, after, split, first⟩ := exists_split sign
      rw [splitPair?_of_split split first] at found
      split at found
      · cases found
      · next named =>
        cases found
        refine ⟨⟨before, after, split, first, rfl, rfl⟩, fun empty => named ?_⟩
        simpa using congrArg String.toList empty
    · rw [splitPair?_of_unsplit sign] at found
      cases found
  · rintro ⟨⟨before, after, split, first, rfl, rfl⟩, named⟩
    rw [splitPair?_of_split split first, if_neg]
    intro nothing
    exact named (by rw [nothing])

/-- A text is not split exactly when it stands for no value. -/
theorem splitPair?_eq_none_iff : splitPair? pair = none ↔ Malformed pair := by
  constructor
  · intro unread
    by_cases sign : '=' ∈ pair.toList
    · obtain ⟨before, after, split, first⟩ := exists_split sign
      rw [splitPair?_of_split split first] at unread
      split at unread
      · next nameless =>
        rw [Text.trimEnds_eq_nil_iff, List.all_eq_true] at nameless
        exact .inr ⟨before, after, split, nameless⟩
      · cases unread
    · exact .inl sign
  · rintro (unsplit | ⟨blanks, after, split, allBlank⟩)
    · exact splitPair?_of_unsplit unsplit
    -- no blank is an equals sign, so this one is the first
    · have first : '=' ∉ blanks := fun member => absurd (allBlank _ member) (by decide)
      have nameless : Text.trimEnds blanks = [] := by
        rwa [Text.trimEnds_eq_nil_iff, List.all_eq_true]
      rw [splitPair?_of_split split first, if_pos nameless]

/-- A text either stands for no value or gives one. -/
theorem exists_gives (wellFormed : ¬ Malformed pair) : ∃ name value, Gives pair name value := by
  rw [← splitPair?_eq_none_iff] at wellFormed
  obtain ⟨⟨name, value⟩, found⟩ := Option.ne_none_iff_exists'.1 wellFormed
  exact ⟨name, value, splitPair?_eq_some_iff.1 found⟩

/-- A text that gives a value stands for one. -/
theorem Gives.wellFormed (gives : Gives pair name value) : ¬ Malformed pair := by
  rw [← splitPair?_eq_none_iff, splitPair?_eq_some_iff.2 gives]
  exact nofun

/-- A text gives one value for one name. -/
theorem Gives.unique {otherName otherValue : String} (gives : Gives pair name value)
    (other : Gives pair otherName otherValue) : otherName = name ∧ otherValue = value := by
  have found := splitPair?_eq_some_iff.2 gives
  rw [splitPair?_eq_some_iff.2 other, Option.some.injEq, Prod.mk.injEq] at found
  exact found

end Split

/-! ## All texts -/

/-- Whether a value is the last one that some texts give for a name. -/
def LastGiven (pairs : List String) (name value : String) : Prop :=
  ∃ earlier pair later, pairs = earlier ++ pair :: later ∧ Gives pair name value ∧
    ∀ other ∈ later, ∀ value, ¬ Gives other name value

section Last

variable {pair name value : String} {pairs : List String}

/-- The last value for a name is given by the texts after the first one, or by that one if they give
none. -/
theorem lastGiven_cons :
    LastGiven (pair :: pairs) name value ↔
      LastGiven pairs name value ∨
        (Gives pair name value ∧ ∀ other ∈ pairs, ∀ value, ¬ Gives other name value) := by
  constructor
  · rintro ⟨earlier, giver, later, split, gives, last⟩
    cases earlier with
    | nil =>
      cases split
      exact .inr ⟨gives, last⟩
    | cons first earlier =>
      cases split
      exact .inl ⟨earlier, giver, later, rfl, gives, last⟩
  · rintro (⟨earlier, giver, later, rfl, gives, last⟩ | ⟨gives, last⟩)
    · exact ⟨pair :: earlier, giver, later, rfl, gives, last⟩
    · exact ⟨[], pair, pairs, rfl, gives, last⟩

/-- A text by itself gives its own value last. -/
theorem lastGiven_singleton_iff : LastGiven [pair] name value ↔ Gives pair name value := by
  rw [lastGiven_cons]
  simp [LastGiven]

end Last

/-! ## Reading the texts -/

variable {pairs : List String} {values : FormValues}

/-- The first text that stands for no value is reported, whatever was read before. -/
theorem addPairs_of_malformed {earlier later : List String} {bad : String}
    (wellFormed : ∀ pair ∈ earlier, ¬ Malformed pair) (malformed : Malformed bad) :
    values.addPairs (earlier ++ bad :: later) = .error (.malformedPair bad) := by
  induction earlier generalizing values with
  | nil => rw [List.nil_append, addPairs, splitPair?_eq_none_iff.2 malformed]
  | cons pair rest ih =>
    obtain ⟨name, value, gives⟩ := exists_gives (wellFormed pair List.mem_cons_self)
    rw [List.cons_append, addPairs, splitPair?_eq_some_iff.2 gives]
    exact ih fun other member => wellFormed other (List.mem_cons_of_mem _ member)

/-- Whether values are in the order of their names and are the last ones that some texts give. -/
structure Holds (values : FormValues) (pairs : List String) : Prop where
  /-- The names are in order, and each is there once. -/
  ordered : Keyed.Ordered values.entries
  /-- Under each name stands the last value that is given for it. -/
  lookup_eq_some_iff : ∀ name value,
    values.entries.lookup name = some value ↔ LastGiven pairs name value

/-- Texts that all give values are read, and replace what was there for the names that they give. -/
theorem exists_addPairs (ordered : Keyed.Ordered values.entries)
    (wellFormed : ∀ pair ∈ pairs, ¬ Malformed pair) :
    ∃ result, values.addPairs pairs = .ok result ∧ Keyed.Ordered result.entries ∧
      ∀ name value, result.entries.lookup name = some value ↔
        LastGiven pairs name value ∨
          (values.entries.lookup name = some value ∧
            ∀ pair ∈ pairs, ∀ value, ¬ Gives pair name value) := by
  -- on the texts, each of which is put in its place before the others are read
  induction pairs generalizing values with
  | nil =>
    refine ⟨values, rfl, ordered, fun name value => ?_⟩
    simp [LastGiven]
  | cons pair rest ih =>
    obtain ⟨own, text, gives⟩ := exists_gives (wellFormed pair List.mem_cons_self)
    obtain ⟨result, read, inOrder, found⟩ := ih (ordered.insert own text)
      fun other member => wellFormed other (List.mem_cons_of_mem _ member)
    refine ⟨result, ?_, inOrder, fun name value => ?_⟩
    · rw [addPairs, splitPair?_eq_some_iff.2 gives]
      exact read
    · rw [found, lastGiven_cons, or_assoc, Keyed.lookup_insert]
      refine or_congr_right ?_
      by_cases same : name = own
      · subst same
        have given : Gives pair name value ↔ text = value :=
          ⟨fun other => (other.unique gives).2, fun same => same ▸ gives⟩
        simp only [if_pos, Option.some.injEq, given, List.forall_mem_cons]
        constructor
        · exact fun ⟨equal, last⟩ => .inl ⟨equal, last⟩
        · rintro (⟨equal, last⟩ | ⟨-, ungiven, -⟩)
          · exact ⟨equal, last⟩
          · exact absurd gives (ungiven text)
      · have other : ∀ value, ¬ Gives pair name value :=
          fun value again => same (again.unique gives).1.symm
        simp only [if_neg same, List.forall_mem_cons, other]
        simp

/-- The first text that stands for no value is reported. -/
theorem ofPairs_of_malformed {earlier later : List String} {bad : String}
    (wellFormed : ∀ pair ∈ earlier, ¬ Malformed pair) (malformed : Malformed bad) :
    ofPairs (earlier ++ bad :: later) = .error (.malformedPair bad) :=
  addPairs_of_malformed wellFormed malformed

/-- Texts that all give values are read as the last ones that they give. -/
theorem exists_holds_ofPairs (wellFormed : ∀ pair ∈ pairs, ¬ Malformed pair) :
    ∃ values, ofPairs pairs = .ok values ∧ values.Holds pairs := by
  have start : Keyed.Ordered ({} : FormValues).entries := List.Pairwise.nil
  obtain ⟨values, read, ordered, found⟩ := exists_addPairs start wellFormed
  refine ⟨values, read, ordered, fun name value => ?_⟩
  rw [found]
  simp

namespace Holds

/-- Each name has one last value. -/
theorem lastGiven_unique (holds : values.Holds pairs) {name value other : String}
    (given : LastGiven pairs name value) (again : LastGiven pairs name other) : other = value := by
  have found := (holds.lookup_eq_some_iff name value).2 given
  rw [(holds.lookup_eq_some_iff name other).2 again] at found
  exact Option.some.inj found

/-- Only one list of values holds what is given last for each name. -/
theorem eq_of_lastGiven_iff {others : List String} {result : FormValues}
    (holds : values.Holds pairs) (too : result.Holds others)
    (same : ∀ name value, LastGiven others name value ↔ LastGiven pairs name value) :
    result = values := by
  have entries : result.entries = values.entries := by
    refine too.ordered.ext holds.ordered fun name => Option.ext fun value => ?_
    rw [too.lookup_eq_some_iff, holds.lookup_eq_some_iff, same]
  cases result
  cases values
  cases entries
  rfl

end Holds

end OrderPipeline.FormValues
