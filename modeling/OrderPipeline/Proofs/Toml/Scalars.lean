import OrderPipeline.Proofs.Toml.Frame

/-!
# Numbers and dates

Numbers, truth values, dates and times are read whatever follows them (`framed_readScalar`).
-/

namespace OrderPipeline.Toml

variable {cs rest more : List Char}

/-! ## Numbers -/

theorem framed_readMoreDigits (isDigit : Char → Bool) : Framed (readMoreDigits isDigit) := by
  refine .of fun {cs digits rest} done => ?_
  fun_induction readMoreDigits isDigit cs generalizing digits with
  | case1 c cs digit ih =>
    obtain ⟨others, read, rfl⟩ := consChar_eq_some_iff.1 done
    obtain ⟨isEnd, longer⟩ := ih read
    refine ⟨isEnd.trans (List.suffix_append ['_', c] cs), fun left more => ?_⟩
    simp only [List.cons_append, readMoreDigits, if_pos digit, longer left more]
    rfl
  | case2 => cases done
  | case3 c cs last digit ih =>
    obtain ⟨others, read, rfl⟩ := consChar_eq_some_iff.1 done
    obtain ⟨isEnd, longer⟩ := ih read
    refine ⟨isEnd.trans (List.suffix_cons c cs), fun left more => ?_⟩
    obtain ⟨d, ds, rfl⟩ := List.exists_cons_of_ne_nil (List.ne_nil_of_mem (isEnd.subset left))
    rw [List.cons_append, readMoreDigits, if_pos digit, longer left more]
    · rfl
    · exact fun _ _ underscore _ => last d ds underscore rfl
  | case4 => cases done
  | case5 c cs last noDigit noUnderscore =>
    cases done
    refine ⟨List.suffix_rfl, fun left more => ?_⟩
    rw [List.cons_append, readMoreDigits, if_neg noDigit, if_neg noUnderscore]
    exact fun _ _ underscore _ => noUnderscore underscore
  | case6 =>
    cases done
    exact ⟨List.suffix_rfl, fun left => by cases left⟩

theorem framed_readDigits (isDigit : Char → Bool) : Framed (readDigits isDigit) := by
  refine .ofHead (fun done => nomatch done) fun c => ?_
  cases digit : isDigit c with
  | true =>
    exact ⟨_, (framed_readMoreDigits isDigit).map, .inl fun rest => by
      simp only [readDigits, digit, if_true]
      rfl⟩
  | false => exact ⟨_, .none, .inl fun rest => by simp [readDigits, digit]⟩

theorem framed_readWhole : Framed readWhole := by
  refine .ofHead (fun done => nomatch done) fun c => ?_
  by_cases zero : c = '0'
  · subst zero
    exact ⟨_, .pure ['0'], .inl fun rest => rfl⟩
  · exact ⟨_, framed_readDigits isDigit, .inr fun rest => by simp [readWhole, zero]⟩

theorem framed_readInSystem (base : Nat) : Framed (readInSystem base) :=
  (framed_readDigits _).bind fun _ => .given fun _ => .pure _

theorem framed_readExponent : Framed readExponent := by
  have digits (negative : Bool) : Framed fun cs => readDigits isDigit cs >>= fun found =>
      some (if negative then -(numberOf 10 found.1 : Int) else numberOf 10 found.1, found.2) :=
    (framed_readDigits isDigit).bind fun found =>
      .pure (if negative then -(numberOf 10 found : Int) else numberOf 10 found)
  refine .ofHead (fun done => nomatch done) fun c => ?_
  by_cases minus : c = '-'
  · subst minus
    exact ⟨_, digits true, .inl fun rest => rfl⟩
  by_cases plus : c = '+'
  · subst plus
    exact ⟨_, digits false, .inl fun rest => rfl⟩
  exact ⟨_, digits false, .inr fun rest => by simp [readExponent, minus, plus]⟩

/-- The digits after a decimal point, if there is one. -/
def readFraction : List Char → Option (List Char × List Char)
  | '.' :: rest => readDigits isDigit rest
  | rest => some ([], rest)

/-- The exponent after its letter, if there is one. -/
def readScale : List Char → Option (Option Int × List Char)
  | 'e' :: rest | 'E' :: rest => (readExponent rest).map fun found => (some found.1, found.2)
  | rest => some (none, rest)

/-- The number that the parts of a decimal number make. -/
def decimal? (negative : Bool) (whole fraction : List Char) (exponent : Option Int) :
    Option Value :=
  if fraction.isEmpty && exponent.isNone then integer? negative (numberOf 10 whole)
  else if !negative && isTooLarge (numberOf 10 (whole ++ fraction))
      (exponent.getD 0 - fraction.length) then none
  else some .float

/-- A decimal number is read part by part. -/
theorem readDecimal_eq (negative : Bool) (cs : List Char) :
    readDecimal negative cs = (do
      let (whole, rest) ← readWhole cs
      let (fraction, rest) ← readFraction rest
      let (exponent, rest) ← readScale rest
      let value ← decimal? negative whole fraction exponent
      some (value, rest)) := by
  have finished (whole fraction : List Char) (exponent : Option Int) (rest : List Char) :
      (do
        if fraction.isEmpty && exponent.isNone then
          return (← integer? negative (numberOf 10 whole), rest)
        let scale : Int := exponent.getD 0 - fraction.length
        if !negative && isTooLarge (numberOf 10 (whole ++ fraction)) scale then none
        return (Value.float, rest)) =
      (decimal? negative whole fraction exponent).bind fun value => some (value, rest) := by
    unfold decimal?
    split
    · rfl
    · dsimp only
      split <;> rfl
  unfold readDecimal
  refine congrArg _ (funext fun ⟨whole, rest⟩ => ?_)
  dsimp -zeta only
  extract_lets parse
  have scaled (fraction rest : List Char) :
      parse (fraction, rest) = (readScale rest).bind fun found =>
        (decimal? negative whole fraction found.1).bind fun value => some (value, found.2) := by
    dsimp -zeta only [parse]
    extract_lets finish
    split
    · exact congrArg _ (funext fun found => finished whole fraction found.1 found.2)
    · exact congrArg _ (funext fun found => finished whole fraction found.1 found.2)
    · next noSmall noGreat =>
      rw [readScale]
      · exact finished whole fraction none _
      · exact noSmall
      · exact noGreat
  split
  · exact congrArg _ (funext fun found => scaled found.1 found.2)
  · next point =>
    rw [readFraction]
    · exact scaled [] _
    · exact point

theorem framed_readFraction : Framed readFraction := by
  refine .ofHead (fun done => by cases done; rfl) fun c => ?_
  by_cases point : c = '.'
  · subst point
    exact ⟨_, framed_readDigits isDigit, .inl fun rest => rfl⟩
  · exact ⟨_, .pure [], .inr fun rest => by simp [readFraction, point]⟩

theorem framed_readScale : Framed readScale := by
  refine .ofHead (fun done => by cases done; rfl) fun c => ?_
  by_cases small : c = 'e'
  · subst small
    exact ⟨_, framed_readExponent.map, .inl fun rest => rfl⟩
  by_cases great : c = 'E'
  · subst great
    exact ⟨_, framed_readExponent.map, .inl fun rest => rfl⟩
  exact ⟨_, .pure none, .inr fun rest => by simp [readScale, small, great]⟩

theorem framed_readDecimal (negative : Bool) : Framed (readDecimal negative) := by
  rw [funext (readDecimal_eq negative)]
  exact framed_readWhole.bind fun whole => framed_readFraction.bind fun fraction =>
    framed_readScale.bind fun exponent => .given fun value => .pure value

theorem framed_readSigned (negative : Bool) : Framed (readSigned negative) := by
  refine .of fun {cs value rest} done => ?_
  unfold readSigned at done
  split at done
  · cases done
    exact ⟨List.suffix_append ['i', 'n', 'f'] _, fun _ _ => rfl⟩
  · cases done
    exact ⟨List.suffix_append ['n', 'a', 'n'] _, fun _ _ => rfl⟩
  · next cs notInfinite notUndefined =>
    have isEnd := (framed_readDecimal negative).suffix done
    refine ⟨isEnd, fun left more => ?_⟩
    have inText := isEnd.subset left
    rw [readSigned, (framed_readDecimal negative).append done left more]
    · exact not_append_of_mem ['i', 'n', 'f'] inText (by decide) notInfinite
    · exact not_append_of_mem ['n', 'a', 'n'] inText (by decide) notUndefined

/-! ## Dates and times -/

theorem framed_readPair (most : Nat) : Framed (readPair most) := by
  refine .of fun {cs value rest} done => ?_
  unfold readPair at done
  split at done
  · next a b others =>
    obtain ⟨tens, readTens, done⟩ := Option.bind_eq_some_iff.1 done
    obtain ⟨ones, readOnes, done⟩ := Option.bind_eq_some_iff.1 done
    dsimp only at done
    split at done
    · next bounded =>
      cases done
      refine ⟨List.suffix_append [a, b] rest, fun _ more => ?_⟩
      simp [readPair, readTens, readOnes, bounded]
    · cases done
  · cases done

theorem framedSkip_after? (c : Char) : FramedSkip (after? c) := by
  refine .of fun {cs rest} done => ?_
  cases cs with
  | nil => cases done
  | cons first others =>
    simp only [after?] at done
    split at done
    · next same =>
      cases done
      exact ⟨List.suffix_cons _ _, fun _ more => by simp [after?, same]⟩
    · cases done

theorem skipFraction_suffix (cs : List Char) : skipFraction cs <:+ cs := by
  unfold skipFraction
  split
  · next c rest =>
    split
    · exact (List.dropWhile_suffix isDigit).trans (List.suffix_append ['.', c] rest)
    · exact List.suffix_rfl
  · exact List.suffix_rfl

/-- A fraction of a second is skipped whatever follows it. -/
theorem skipFraction_append (left : '=' ∈ cs) :
    skipFraction (cs ++ more) = skipFraction cs ++ more := by
  cases cs with
  | nil => cases left
  | cons c cs =>
    by_cases point : c = '.'
    · subst point
      have later := (List.mem_cons.1 left).resolve_left (by decide)
      cases cs with
      | nil => cases later
      | cons d cs =>
        cases digit : isDigit d with
        | false => simp [skipFraction, digit]
        | true =>
          have stops : isDigit '=' = false := by decide
          have different : '=' ≠ d := fun same => by
            rw [← same, stops] at digit
            cases digit
          have inRest := (List.mem_cons.1 later).resolve_left different
          simp [skipFraction, digit, dropWhile_append_of_mem (mem_dropWhile inRest stops)]
    · simp [skipFraction, point]

theorem framedSkip_skipFraction : FramedSkip fun cs => some (skipFraction cs) where
  suffix {cs rest} done := by
    cases done
    exact skipFraction_suffix cs
  append {cs rest} done left more := by
    cases done
    rw [skipFraction_append ((skipFraction_suffix cs).subset left)]

theorem framedSkip_afterTime? : FramedSkip afterTime? :=
  .afterRead (framed_readPair 23) fun _ =>
    .bind (framedSkip_after? ':') (.afterRead (framed_readPair 59) fun _ =>
      .bind (framedSkip_after? ':') (.afterRead (framed_readPair 60) fun _ =>
        framedSkip_skipFraction))

theorem framedSkip_afterOffset? : FramedSkip afterOffset? := by
  have offset : FramedSkip fun cs => readPair 23 cs >>= fun found =>
      after? ':' found.2 >>= fun cs => readPair 59 cs >>= fun found => some found.2 :=
    .afterRead (framed_readPair 23) fun _ =>
      .bind (framedSkip_after? ':') (.afterRead (framed_readPair 59) fun _ => .pure)
  refine .ofHead (fun done => by cases done; rfl) fun c => ?_
  by_cases great : c = 'Z'
  · subst great
    exact ⟨_, .pure, .inl fun rest => rfl⟩
  by_cases small : c = 'z'
  · subst small
    exact ⟨_, .pure, .inl fun rest => rfl⟩
  by_cases plus : c = '+'
  · subst plus
    exact ⟨_, offset, .inl fun rest => rfl⟩
  by_cases minus : c = '-'
  · subst minus
    exact ⟨_, offset, .inl fun rest => rfl⟩
  exact ⟨_, .pure, .inr fun rest => by simp [afterOffset?, great, small, plus, minus]⟩

/-- Two digits do not come about by what follows an equals sign. -/
theorem readPair_append {most : Nat} (left : '=' ∈ cs) :
    readPair most (cs ++ more) =
      (readPair most cs).map fun found => (found.1, found.2 ++ more) := by
  have noDigit : digit? '=' = none := by decide
  match cs with
  | [] => cases left
  | [a] =>
    obtain rfl := List.mem_singleton.1 left
    cases more <;> simp [readPair, noDigit]
  | a :: b :: rest =>
    simp only [List.cons_append, readPair]
    cases digit? a with
    | none => rfl
    | some tens =>
      cases digit? b with
      | none => rfl
      | some ones =>
        by_cases bounded : tens * 10 + ones ≤ most
        · simp [bounded]
        · simp [bounded]

/-- An equals sign is no digit. -/
theorem mem_of_readPair {most value : Nat} (left : '=' ∈ cs)
    (done : readPair most cs = some (value, rest)) : '=' ∈ rest := by
  have noDigit : digit? '=' = none := by decide
  unfold readPair at done
  split at done
  · next a b others =>
    obtain ⟨tens, readTens, done⟩ := Option.bind_eq_some_iff.1 done
    obtain ⟨ones, readOnes, done⟩ := Option.bind_eq_some_iff.1 done
    have notTens : '=' ≠ a := fun same => by
      rw [← same, noDigit] at readTens
      cases readTens
    have notOnes : '=' ≠ b := fun same => by
      rw [← same, noDigit] at readOnes
      cases readOnes
    dsimp only at done
    split at done <;> cases done
    simpa [notTens, notOnes] using left
  · cases done

/-- Whether a text begins like a time of day does not depend on what follows an equals sign. -/
theorem beginsTime_append (left : '=' ∈ cs) (more : List Char) :
    beginsTime (cs ++ more) = beginsTime cs := by
  rw [beginsTime, beginsTime, readPair_append left]
  cases read : readPair 23 cs with
  | none => rfl
  | some found =>
    obtain ⟨hour, rest⟩ := found
    obtain ⟨c, others, rfl⟩ :=
      List.exists_cons_of_ne_nil (List.ne_nil_of_mem (mem_of_readPair left read))
    by_cases colon : c = ':' <;> simp [colon]

/-- Whether a text begins like a date does not depend on what follows an equals sign. -/
theorem beginsDate_append (left : '=' ∈ cs) (more : List Char) :
    beginsDate (cs ++ more) = beginsDate cs := by
  have stops : isDigit '=' = false := by decide
  unfold beginsDate
  by_cases long : 5 ≤ cs.length
  · have four : 4 ≤ cs.length := by omega
    rw [List.take_append_of_le_length four, List.drop_append_of_le_length four]
    obtain ⟨c, others, kept⟩ : ∃ c others, cs.drop 4 = c :: others :=
      List.exists_cons_of_ne_nil (by rw [ne_eq, List.drop_eq_nil_iff]; omega)
    rw [kept]
    rfl
  · -- the equals sign is among the first four characters
    have inLonger : '=' ∈ (cs ++ more).take 4 := by
      rw [List.take_append, List.take_of_length_le (by omega)]
      exact List.mem_append_left _ left
    have noDigits (text : List Char) (isIn : '=' ∈ text) : text.all isDigit = false := by
      rw [List.all_eq_false]
      exact ⟨'=', isIn, by rw [stops]; decide⟩
    rw [noDigits _ inLonger, noDigits (cs.take 4) (by rwa [List.take_of_length_le (by omega)])]
    simp

/-- The text after the time of day that may follow a date. -/
def afterDay? : List Char → Option (List Char)
  | c :: time =>
    if (c == 'T' || c == 't' || c == ' ') && beginsTime time then afterTime? time >>= afterOffset?
    else some (c :: time)
  | [] => some []

/-- The text after the part of a date that follows its year. -/
def afterYear? (year : Nat) (cs : List Char) : Option (List Char) := do
  let (month, rest) ← readPair 12 (← after? '-' cs)
  let (day, rest) ← readPair 31 (← after? '-' rest)
  let _ ← Date.of? year month day
  afterDay? rest

theorem afterDate?_eq (cs : List Char) :
    afterDate? cs = (digits? (cs.take 4)).bind fun year => afterYear? year (cs.drop 4) := by
  simp only [afterDate?, afterYear?, Option.bind_eq_bind]
  refine Option.bind_congr fun year _ => Option.bind_congr fun _ _ => Option.bind_congr fun _ _ =>
    Option.bind_congr fun _ _ => Option.bind_congr fun day _ => Option.bind_congr fun _ _ => ?_
  -- the two ways of writing what follows the day agree on a text that is empty and on any other
  obtain ⟨day, rest⟩ := day
  cases rest <;> rfl

theorem framedSkip_afterDay? : FramedSkip afterDay? := by
  refine .of fun {cs rest} done => ?_
  cases cs with
  | nil =>
    cases done
    exact ⟨List.suffix_rfl, fun left => by cases left⟩
  | cons c time =>
    have framed := framedSkip_afterTime?.bind framedSkip_afterOffset?
    simp only [afterDay?] at done
    split at done
    · next begins =>
      have isEnd := framed.suffix done
      refine ⟨isEnd.trans (List.suffix_cons _ _), fun left more => ?_⟩
      rw [List.cons_append, afterDay?, beginsTime_append (isEnd.subset left), if_pos begins]
      exact framed.append done left more
    · next begins =>
      cases done
      refine ⟨List.suffix_rfl, fun left more => ?_⟩
      rw [List.cons_append, afterDay?, if_neg]
      by_cases separated : c == 'T' || c == 't' || c == ' '
      · have different : '=' ≠ c := fun same => by
          rw [← same] at separated
          exact absurd separated (by decide)
        rwa [beginsTime_append ((List.mem_cons.1 left).resolve_left different)]
      · simp [separated]

theorem framedSkip_afterYear? (year : Nat) : FramedSkip (afterYear? year) :=
  .bind (framedSkip_after? '-') (.afterRead (framed_readPair 12) fun _ =>
    .bind (framedSkip_after? '-') (.afterRead (framed_readPair 31) fun _ =>
      .given fun _ => framedSkip_afterDay?))

theorem framedSkip_afterDate? : FramedSkip afterDate? := by
  refine .of fun {cs rest} done => ?_
  rw [afterDate?_eq] at done
  obtain ⟨year, readYear, done⟩ := Option.bind_eq_some_iff.1 done
  have isEnd := (framedSkip_afterYear? year).suffix done
  refine ⟨isEnd.trans (List.drop_suffix 4 cs), fun left more => ?_⟩
  have enough : 4 ≤ cs.length := by
    have kept := List.length_pos_of_mem (isEnd.subset left)
    rw [List.length_drop] at kept
    omega
  rw [afterDate?_eq, List.take_append_of_le_length enough, List.drop_append_of_le_length enough,
    readYear]
  exact (framedSkip_afterYear? year).append done left more

/-! ## Scalars -/

/-- Reads a truth value or a number. -/
def readWord : List Char → Option (Value × List Char)
  | 't' :: 'r' :: 'u' :: 'e' :: rest => some (.boolean true, rest)
  | 'f' :: 'a' :: 'l' :: 's' :: 'e' :: rest => some (.boolean false, rest)
  | '0' :: 'x' :: rest => readInSystem 16 rest
  | '0' :: 'o' :: rest => readInSystem 8 rest
  | '0' :: 'b' :: rest => readInSystem 2 rest
  | '+' :: rest => readSigned false rest
  | '-' :: rest => readSigned true rest
  | cs => readSigned false cs

theorem readScalar_eq (cs : List Char) :
    readScalar cs =
      if beginsDate cs then (afterDate? cs).map fun rest => (.datetime, rest)
      else if beginsTime cs then (afterTime? cs).map fun rest => (.datetime, rest)
      else readWord cs := by
  unfold readScalar
  congr 2
  split
  · rfl
  · rfl
  · rfl
  · rfl
  · rfl
  · rfl
  · rfl
  · rw [readWord] <;> assumption

theorem framed_readWord : Framed readWord := by
  refine .of fun {cs value rest} done => ?_
  unfold readWord at done
  split at done
  · cases done
    exact ⟨List.suffix_append ['t', 'r', 'u', 'e'] _, fun _ _ => rfl⟩
  · cases done
    exact ⟨List.suffix_append ['f', 'a', 'l', 's', 'e'] _, fun _ _ => rfl⟩
  · next cs =>
    have framed := framed_readInSystem 16
    exact ⟨(framed.suffix done).trans (List.suffix_append ['0', 'x'] cs), framed.append done⟩
  · next cs =>
    have framed := framed_readInSystem 8
    exact ⟨(framed.suffix done).trans (List.suffix_append ['0', 'o'] cs), framed.append done⟩
  · next cs =>
    have framed := framed_readInSystem 2
    exact ⟨(framed.suffix done).trans (List.suffix_append ['0', 'b'] cs), framed.append done⟩
  · next cs =>
    have framed := framed_readSigned false
    exact ⟨(framed.suffix done).trans (List.suffix_cons _ _), framed.append done⟩
  · next cs =>
    have framed := framed_readSigned true
    exact ⟨(framed.suffix done).trans (List.suffix_cons _ _), framed.append done⟩
  · next cs noTrue noFalse noHex noOctal noBinary noPlus noMinus =>
    have framed := framed_readSigned false
    refine ⟨framed.suffix done, fun left more => ?_⟩
    have inText := (framed.suffix done).subset left
    rw [readWord, framed.append done left more]
    · exact not_append_of_mem ['t', 'r', 'u', 'e'] inText (by decide) noTrue
    · exact not_append_of_mem ['f', 'a', 'l', 's', 'e'] inText (by decide) noFalse
    · exact not_append_of_mem ['0', 'x'] inText (by decide) noHex
    · exact not_append_of_mem ['0', 'o'] inText (by decide) noOctal
    · exact not_append_of_mem ['0', 'b'] inText (by decide) noBinary
    · exact not_append_of_mem ['+'] inText (by decide) noPlus
    · exact not_append_of_mem ['-'] inText (by decide) noMinus

/-- A truth value, a number, a date or a time is read whatever follows it. -/
theorem framed_readScalar : Framed readScalar := by
  refine .of fun {cs value rest} done => ?_
  rw [readScalar_eq] at done
  have whole (isEnd : rest <:+ cs) (left : '=' ∈ rest) (more : List Char) :=
    And.intro (beginsDate_append (isEnd.subset left) more)
      (beginsTime_append (isEnd.subset left) more)
  split at done
  · next date =>
    obtain ⟨left, skipped, same⟩ := Option.map_eq_some_iff.1 done
    cases same
    have isEnd := framedSkip_afterDate?.suffix skipped
    refine ⟨isEnd, fun left more => ?_⟩
    rw [readScalar_eq, (whole isEnd left more).1, if_pos date,
      framedSkip_afterDate?.append skipped left more]
    rfl
  · next noDate =>
    split at done
    · next time =>
      obtain ⟨left, skipped, same⟩ := Option.map_eq_some_iff.1 done
      cases same
      have isEnd := framedSkip_afterTime?.suffix skipped
      refine ⟨isEnd, fun left more => ?_⟩
      rw [readScalar_eq, (whole isEnd left more).1, if_neg noDate, (whole isEnd left more).2,
        if_pos time, framedSkip_afterTime?.append skipped left more]
      rfl
    · next noTime =>
      have isEnd := framed_readWord.suffix done
      refine ⟨isEnd, fun left more => ?_⟩
      rw [readScalar_eq, (whole isEnd left more).1, if_neg noDate, (whole isEnd left more).2,
        if_neg noTime, framed_readWord.append done left more]

end OrderPipeline.Toml
