import Mathlib.Data.List.Basic
import OrderPipeline.Proofs.Settings.Expressions

/-!
# Texts in pieces

A text with expressions is cut into pieces from left to right (`Cut`): an expression reaches up to
the first brace that closes it, and every other character is a piece of its own. There is one way to
do so, and interpolation does nothing but put the value of its variable in the place of every
expression.

* `Cut.exists_cut`, `Cut.unique` — every text can be cut, in one way only.
* `Cut.interpolateFrom_eq` — what becomes of a text is what becomes of its pieces, or the first
  fault among them.
* `interpolate_replaces_expressions` — both for whole texts, and what becomes of an expression after
  a text without any.
-/

namespace OrderPipeline

/-! ## Pieces -/

/-- A piece of a text with expressions. -/
inductive Piece where
  /-- A character that stands for itself. -/
  | plain (c : Char)
  /-- An expression with the name of a variable. -/
  | expression (name : String)
  /-- An expression that is not closed, with all that follows its opening brace. -/
  | unclosed (cs : List Char)

namespace Piece

/-- How a piece is written. -/
def source : Piece → List Char
  | plain c => [c]
  | expression name => '$' :: '{' :: (name.toList ++ ['}'])
  | unclosed cs => '$' :: '{' :: cs

/-- What is put in the place of a piece. -/
def value (environment : Environment) : Piece → List Char
  | plain c => [c]
  | expression name => ((environment.text? name).map String.toList).getD []
  | unclosed _ => []

/-- Why nothing can be put in the place of a piece. -/
def fault? (environment : Environment) : Piece → Option InterpolationFault
  | plain _ => none
  | expression name => if (environment.text? name).isSome then none else some (.unset name)
  | unclosed _ => some .unterminated

end Piece

/-- A text is cut into pieces from left to right. -/
inductive Cut : List Char → List Piece → Prop
  /-- Nothing is left. -/
  | done : Cut [] []
  /-- The next character does not begin an expression. -/
  | plain {c : Char} {rest : List Char} {pieces : List Piece}
    (noExpression : ¬ ['$', '{'] <+: c :: rest) (later : Cut rest pieces) :
    Cut (c :: rest) (.plain c :: pieces)
  /-- There is an expression, which ends with the first brace that closes. -/
  | expression {name : String} {rest : List Char} {pieces : List Piece}
    (noBrace : '}' ∉ name.toList) (later : Cut rest pieces) :
    Cut ('$' :: '{' :: (name.toList ++ '}' :: rest)) (.expression name :: pieces)
  /-- There is an expression that no brace closes. -/
  | unclosed {cs : List Char} (noBrace : '}' ∉ cs) : Cut ('$' :: '{' :: cs) [.unclosed cs]

namespace Cut

variable {environment : Environment} {cs : List Char} {pieces others : List Piece}

/-- What follows an opening brace is cut at the first brace that closes, if there is one. -/
theorem of_opening (cut : Cut ('$' :: '{' :: cs) pieces) :
    (∃ name rest later, '}' ∉ String.toList name ∧ cs = name.toList ++ '}' :: rest ∧
        pieces = .expression name :: later ∧ Cut rest later) ∨
      '}' ∉ cs ∧ pieces = [.unclosed cs] := by
  cases cut with
  | plain noExpression => exact absurd ⟨cs, rfl⟩ noExpression
  | expression noBrace later => exact .inl ⟨_, _, _, noBrace, rfl, rfl, later⟩
  | unclosed noBrace => exact .inr ⟨noBrace, rfl⟩

/-- A name ends with the first brace, so there is only one that a brace follows. -/
theorem eq_of_append_eq {first second rest rest' : List Char} (fresh : '}' ∉ first)
    (fresh' : '}' ∉ second) (same : first ++ '}' :: rest = second ++ '}' :: rest') :
    first = second ∧ rest = rest' := by
  rcases List.append_eq_append_iff.1 same with ⟨extra, rfl, after⟩ | ⟨extra, rfl, after⟩
  · cases extra with
    | nil => simpa using after
    | cons c extra =>
      obtain ⟨rfl, -⟩ := List.cons.inj after
      simp at fresh'
  · cases extra with
    | nil => simpa [eq_comm] using after
    | cons c extra =>
      obtain ⟨rfl, -⟩ := List.cons.inj after
      simp at fresh

/-- A text can be cut in one way only. -/
theorem unique (cut : Cut cs pieces) (cut' : Cut cs others) : pieces = others := by
  induction cut generalizing others with
  | done => cases cut' with | done => rfl
  | @plain c rest pieces noExpression _ ih =>
    cases cut' with
    | plain _ later => rw [ih later]
    | expression | unclosed => exact absurd ⟨_, rfl⟩ noExpression
  | @expression name rest pieces noBrace _ ih =>
    rcases cut'.of_opening with ⟨name', rest', later, noBrace', same, rfl, cut'⟩ | ⟨noBrace', -⟩
    · obtain ⟨sameName, rfl⟩ := eq_of_append_eq noBrace noBrace' same
      rw [String.toList_inj.1 sameName, ih cut']
    · simp at noBrace'
  | unclosed noBrace =>
    rcases cut'.of_opening with ⟨name', rest', later, -, rfl, -⟩ | ⟨-, rfl⟩
    · simp at noBrace
    · rfl

/-- Every text can be cut. -/
theorem exists_cut (cs : List Char) : ∃ pieces, Cut cs pieces := by
  induction size : cs.length using Nat.strongRecOn generalizing cs with
  | _ size ih =>
    subst size
    by_cases opens : ['$', '{'] <+: cs
    · obtain ⟨rest, rfl⟩ := opens
      by_cases closed : '}' ∈ rest
      · obtain ⟨name, after, rfl, noBrace⟩ := List.eq_append_cons_of_mem closed
        obtain ⟨pieces, later⟩ := ih after.length (by simp; omega) after rfl
        have fresh : '}' ∉ (String.ofList name).toList := by simpa using noBrace
        have cut := Cut.expression fresh later
        rw [String.toList_ofList] at cut
        exact ⟨_, cut⟩
      · exact ⟨_, .unclosed closed⟩
    · cases cs with
      | nil => exact ⟨_, .done⟩
      | cons c rest =>
        obtain ⟨pieces, later⟩ := ih rest.length (Nat.lt_succ_self _) rest rfl
        exact ⟨_, .plain opens later⟩

/-- The pieces of a text are all that is written there. -/
theorem flatMap_source (cut : Cut cs pieces) : pieces.flatMap Piece.source = cs := by
  induction cut with
  | done => rfl
  | plain _ _ ih => rw [List.flatMap_cons, ih, Piece.source, List.singleton_append]
  | expression _ _ ih =>
    rw [List.flatMap_cons, ih, Piece.source]
    simp
  | unclosed => simp [Piece.source]

/-- What becomes of a text is what becomes of its pieces, or the first fault among them. -/
theorem interpolateFrom_eq (cut : Cut cs pieces) : interpolateFrom environment none cs =
    match pieces.findSome? (Piece.fault? environment) with
    | some fault => .error fault
    | none => .ok (pieces.flatMap (Piece.value environment)) := by
  -- what is put in front of a text that fails is lost
  have prepended (front : List Char) (later : List Piece) :
      prepend front (match later.findSome? (Piece.fault? environment) with
        | some fault => .error fault
        | none => .ok (later.flatMap (Piece.value environment))) =
      match later.findSome? (Piece.fault? environment) with
      | some fault => .error fault
      | none => .ok (front ++ later.flatMap (Piece.value environment)) := by
    cases later.findSome? (Piece.fault? environment) <;> rfl
  induction cut with
  | done => rfl
  | @plain c rest pieces noExpression _ ih =>
    rw [interpolateFrom_plain noExpression, ih, prepended]
    rfl
  | @expression name rest pieces noBrace _ ih =>
    cases found : environment.text? name with
    | some value =>
      rw [interpolateFrom_expression noBrace found, ih, prepended]
      simp [Piece.fault?, Piece.value, found]
    | none =>
      rw [interpolateFrom_unset noBrace found]
      simp [Piece.fault?, found]
  | unclosed noBrace => rw [interpolateFrom, interpolateFrom_unclosed noBrace]; rfl

end Cut

/-! ## Whole texts -/

variable {environment : Environment}

/-- A text is replaced by what is put in the place of its pieces, if that can be done for all. -/
theorem interpolate_eq_ok_iff {text filled : String} {pieces : List Piece}
    (cut : Cut text.toList pieces) :
    interpolate environment text = .ok filled ↔
      (∀ piece ∈ pieces, piece.fault? environment = none) ∧
        filled.toList = pieces.flatMap (Piece.value environment) := by
  rw [interpolate, cut.interpolateFrom_eq, ← List.findSome?_eq_none_iff]
  cases pieces.findSome? (Piece.fault? environment) with
  | none => simp [Except.map, ← String.toList_inj, eq_comm]
  | some fault => simp [Except.map]

/-- A text is not replaced if that cannot be done for one of its pieces, and the first of these
decides why. -/
theorem interpolate_eq_error_iff {text : String} {fault : InterpolationFault} {pieces : List Piece}
    (cut : Cut text.toList pieces) :
    interpolate environment text = .error fault ↔
      pieces.findSome? (Piece.fault? environment) = some fault := by
  rw [interpolate, cut.interpolateFrom_eq]
  cases pieces.findSome? (Piece.fault? environment) <;> simp [Except.map]

/-- A text without expressions stays as it is. -/
theorem interpolateFrom_of_plain {cs : List Char} (plain : ¬ ['$', '{'] <:+: cs) :
    interpolateFrom environment none cs = .ok cs := by
  induction cs with
  | nil => rfl
  | cons c rest ih =>
    have later : ¬ ['$', '{'] <:+: rest := fun found =>
      plain (found.trans (List.suffix_cons c rest).isInfix)
    rw [interpolateFrom_plain fun opens => plain opens.isInfix, ih later]
    rfl

/-- After a text without expressions, an expression is replaced by the value of its variable, and
neither of them is looked at again. -/
theorem interpolate_expression {before name value : String}
    (plain : ¬ ['$', '{'] <:+: before.toList)
    (noBrace : '}' ∉ name.toList) (isSet : environment.text? name = some value) (after : String) :
    interpolate environment (before ++ "$\x7b" ++ name ++ "\x7d" ++ after) =
      (interpolate environment after).map fun filled => before ++ value ++ filled := by
  have whole : (before ++ "$\x7b" ++ name ++ "\x7d" ++ after).toList =
      before.toList ++ '$' :: '{' :: (name.toList ++ '}' :: after.toList) := by
    simp [String.toList_append]
  rw [interpolate, whole, interpolateFrom_append (interpolateFrom_of_plain plain) (by simp),
    interpolateFrom_expression noBrace isSet, interpolate]
  cases interpolateFrom environment none after.toList with
  | error fault => rfl
  | ok rest => simp [prepend, Except.map, String.ofList_append, String.append_assoc]

/-- A text can be cut into pieces in exactly one way, and the pieces are all that is written there.
Interpolation puts the value of its variable in the place of every expression and leaves all other
characters; it fails just if an expression is not closed or names a variable that is not set, with
the fault of the first such expression. -/
theorem interpolate_replaces_expressions (environment : Environment) (text : String) :
    (∃! pieces, Cut text.toList pieces) ∧
    (∀ pieces, Cut text.toList pieces →
      pieces.flatMap Piece.source = text.toList ∧
      (∀ filled, interpolate environment text = .ok filled ↔
        (∀ piece ∈ pieces, piece.fault? environment = none) ∧
          filled.toList = pieces.flatMap (Piece.value environment)) ∧
      ∀ fault, interpolate environment text = .error fault ↔
        pieces.findSome? (Piece.fault? environment) = some fault) ∧
    ∀ before name value : String, ¬ ['$', '{'] <:+: before.toList → '}' ∉ name.toList →
      environment.text? name = some value →
      interpolate environment (before ++ "$\x7b" ++ name ++ "\x7d" ++ text) =
        (interpolate environment text).map fun filled => before ++ value ++ filled := by
  refine ⟨?_, fun pieces cut => ⟨cut.flatMap_source, fun filled => interpolate_eq_ok_iff cut,
    fun fault => interpolate_eq_error_iff cut⟩, fun before name value plain noBrace isSet =>
      interpolate_expression plain noBrace isSet text⟩
  obtain ⟨pieces, cut⟩ := Cut.exists_cut text.toList
  exact ⟨pieces, cut, fun other cut' => cut'.unique cut⟩

/-- The value of a variable may look like an expression, and a dollar sign may stand before one; the
text after it has a brace on its own and an expression that is not closed after one whose variable
is not set. -/
theorem interpolate_replaces_expressions_nested :
    let environment : Environment := fun name => if name = "A" then some "$\x7bB\x7d" else none
    (¬ ['$', '{'] <:+: "$".toList ∧ '}' ∉ "A".toList ∧ environment.text? "A" = some "$\x7bB\x7d") ∧
      interpolate environment ("$" ++ "$\x7b" ++ "A" ++ "\x7d" ++ "\x7d.") =
        .ok "$$\x7bB\x7d\x7d." ∧
      interpolate environment "\x7d$\x7bB\x7d$\x7bA" = .error (.unset "B") := by
  intro environment
  have plain : ¬ ['$', '{'] <:+: "$".toList := by decide
  have noBrace : '}' ∉ "A".toList := by decide
  have isSet : environment.text? "A" = some "$\x7bB\x7d" := rfl
  obtain ⟨-, -, expression⟩ := interpolate_replaces_expressions environment "\x7d."
  refine ⟨⟨plain, noBrace, isSet⟩, ?_, by decide⟩
  rw [expression "$" "A" _ plain noBrace isSet]
  decide

end OrderPipeline
