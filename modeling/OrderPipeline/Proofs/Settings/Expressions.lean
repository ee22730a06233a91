import OrderPipeline.Settings.Interpolation

/-!
# Expressions and the text around them

Interpolation goes through a text once, from left to right. So a text that can be interpolated comes
out in front of what follows it (`interpolateFrom_append`), and an expression comes out as the value
of its variable (`interpolateFrom_expression`), or not at all (`interpolateFrom_unset`,
`interpolateFrom_unclosed`).
-/

namespace OrderPipeline

variable {environment : Environment}

theorem prepend_nil (reading : Except InterpolationFault (List Char)) :
    prepend [] reading = reading := by
  cases reading <;> rfl

theorem prepend_prepend (first second : List Char)
    (reading : Except InterpolationFault (List Char)) :
    prepend first (prepend second reading) = prepend (first ++ second) reading := by
  cases reading with
  | error fault => rfl
  | ok rest => exact congrArg Except.ok (List.append_assoc first second rest).symm

theorem prepend_eq_ok_iff {front cs : List Char}
    {reading : Except InterpolationFault (List Char)} :
    prepend front reading = .ok cs ↔ ∃ rest, reading = .ok rest ∧ cs = front ++ rest := by
  cases reading with
  | error fault => exact iff_of_false (fun done => nomatch done) fun ⟨_, read, _⟩ => nomatch read
  | ok rest => simp [prepend, Except.map, eq_comm]

/-- A text that can be interpolated comes out in front of what follows it, unless a brace follows
that makes an expression of its last dollar sign. -/
theorem interpolateFrom_append {name : Option (List Char)} {cs front : List Char}
    (done : interpolateFrom environment name cs = .ok front) {rest : List Char}
    (noBrace : rest.head? ≠ some '{') :
    interpolateFrom environment name (cs ++ rest) =
      prepend front (interpolateFrom environment none rest) := by
  revert front
  fun_induction interpolateFrom environment name cs with
  | case1 =>
    intro front done
    cases done
    exact (prepend_nil _).symm
  | case2 =>
    intro front done
    cases done
  | case3 cs ih => exact ih
  | case4 c cs other ih =>
    intro front done
    obtain ⟨left, read, rfl⟩ := prepend_eq_ok_iff.1 done
    -- a dollar sign at the end would begin an expression only with a brace after it
    have apart (more : List Char) (isDollar : c = '$') (opens : cs ++ rest = '{' :: more) :
        False := by
      cases cs with
      | nil =>
        rw [List.nil_append] at opens
        exact noBrace (by rw [opens]; rfl)
      | cons next cs =>
        obtain ⟨rfl, -⟩ := List.cons.inj opens
        exact other cs isDollar rfl
    rw [List.cons_append, interpolateFrom, ih read, prepend_prepend]
    exact apart
  | @case5 name cs wanted value found ih =>
    intro front done
    obtain ⟨left, read, rfl⟩ := prepend_eq_ok_iff.1 done
    simp only [List.cons_append, interpolateFrom, if_true]
    rw [ih read]
    simp only [found, wanted, prepend_prepend]
  | case6 =>
    intro front done
    cases done
  | case7 name c cs other ih =>
    intro front done
    rw [List.cons_append, interpolateFrom, if_neg other]
    exact ih done

/-- An expression is read up to its brace, and what becomes of it depends on its variable. -/
theorem interpolateFrom_name {rest : List Char} (passed name : List Char) (noBrace : '}' ∉ name) :
    interpolateFrom environment (some passed) (name ++ '}' :: rest) =
      match environment.text? (String.ofList (passed.reverse ++ name)) with
      | some value => prepend value.toList (interpolateFrom environment none rest)
      | none => .error (.unset (String.ofList (passed.reverse ++ name))) := by
  induction name generalizing passed with
  | nil =>
    rw [List.append_nil, List.nil_append]
    cases isSet : environment.text? (String.ofList passed.reverse) <;> simp [interpolateFrom, isSet]
  | cons c name ih =>
    rw [List.mem_cons, not_or] at noBrace
    rw [List.cons_append, interpolateFrom, if_neg (Ne.symm noBrace.1), ih (c :: passed) noBrace.2,
      List.reverse_cons, List.append_assoc, List.singleton_append]

/-- An expression comes out as the value of its variable. -/
theorem interpolateFrom_expression {name value : String} {rest : List Char}
    (noBrace : '}' ∉ name.toList) (isSet : environment.text? name = some value) :
    interpolateFrom environment none ('$' :: '{' :: (name.toList ++ '}' :: rest)) =
      prepend value.toList (interpolateFrom environment none rest) := by
  rw [interpolateFrom, interpolateFrom_name [] name.toList noBrace, List.reverse_nil,
    List.nil_append, String.ofList_toList, isSet]

/-- Nothing comes out of an expression whose variable is not set. -/
theorem interpolateFrom_unset {name : String} {rest : List Char} (noBrace : '}' ∉ name.toList)
    (unset : environment.text? name = none) :
    interpolateFrom environment none ('$' :: '{' :: (name.toList ++ '}' :: rest)) =
      .error (.unset name) := by
  rw [interpolateFrom, interpolateFrom_name [] name.toList noBrace, List.reverse_nil,
    List.nil_append, String.ofList_toList, unset]

/-- Nothing comes out of an expression that is not closed. -/
theorem interpolateFrom_unclosed {cs : List Char} (noBrace : '}' ∉ cs) (passed : List Char) :
    interpolateFrom environment (some passed) cs = .error .unterminated := by
  induction cs generalizing passed with
  | nil => rfl
  | cons c rest ih =>
    rw [List.mem_cons, not_or] at noBrace
    rw [interpolateFrom, if_neg (Ne.symm noBrace.1), ih noBrace.2]

/-- A character that does not begin an expression comes out as it is. -/
theorem interpolateFrom_plain {c : Char} {rest : List Char}
    (noExpression : ¬ ['$', '{'] <+: c :: rest) :
    interpolateFrom environment none (c :: rest) =
      prepend [c] (interpolateFrom environment none rest) := by
  rw [interpolateFrom]
  rintro others rfl rfl
  exact noExpression ⟨others, rfl⟩

end OrderPipeline
