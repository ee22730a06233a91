import OrderPipeline.Proofs.Toml.Frame

/-!
# Strings

* `framed_readString` — a string is read whatever follows it.
* `readString_of_verbatim` — a text without quotes, backslashes and control characters other than
  the tab comes back as it stands between two quotes.
* `verbatim_of_readString` — no other text does.
-/

namespace OrderPipeline.Toml

variable {cs rest more : List Char}

/-! ## What follows a string -/

/-- A character that is written by its code is read whatever follows the code. -/
theorem readCode_append (size : Nat) {c : Char}
    (done : (do
      if cs.length < size then none
      return (← charOfHex? (cs.take size), cs.drop size)) = some (c, rest)) :
    rest.length ≤ cs.length ∧ ∀ more, (do
      if (cs ++ more).length < size then none
      return (← charOfHex? ((cs ++ more).take size), (cs ++ more).drop size)) =
        some (c, rest ++ more) := by
  by_cases short : cs.length < size
  · simp [short] at done
  · simp only [short, if_false] at done
    obtain ⟨char, coded, same⟩ := Option.bind_eq_some_iff.1 done
    cases same
    rw [Nat.not_lt] at short
    refine ⟨(List.drop_suffix size cs).length_le, fun more => ?_⟩
    have enough : ¬ cs.length + more.length < size := by omega
    simp [enough, List.take_append_of_le_length short, List.drop_append_of_le_length short, coded]

/-- An escape is read whatever follows it. -/
theorem readEscape_append {c : Char} (done : readEscape cs = some (c, rest)) :
    rest.length < cs.length ∧ ∀ more, readEscape (cs ++ more) = some (c, rest ++ more) := by
  cases cs with
  | nil => cases done
  | cons first others =>
    by_cases short : first = 'u'
    · subst short
      obtain ⟨isEnd, longer⟩ := readCode_append 4 done
      exact ⟨Nat.lt_succ_of_le isEnd, longer⟩
    by_cases long : first = 'U'
    · subst long
      obtain ⟨isEnd, longer⟩ := readCode_append 8 done
      exact ⟨Nat.lt_succ_of_le isEnd, longer⟩
    simp only [List.cons_append, readEscape] at done ⊢
    obtain ⟨char, escaped, same⟩ := Option.map_eq_some_iff.1 done
    cases same
    exact ⟨Nat.lt_succ_self _, fun more => by simp [escaped]⟩

/-- A string with escapes is read whatever follows it. -/
theorem readBasic_append {escaped : Nat} {chars : List Char}
    (done : readBasic escaped cs = some (chars, rest)) :
    rest <:+ cs ∧ ∀ more, readBasic escaped (cs ++ more) = some (chars, rest ++ more) := by
  fun_induction readBasic escaped cs generalizing chars with
  | case1 => cases done
  | case2 c cs left ih =>
    obtain ⟨isEnd, longer⟩ := ih done
    exact ⟨isEnd.trans (List.suffix_cons _ _), longer⟩
  | case3 cs =>
    cases done
    exact ⟨List.suffix_cons _ _, fun _ => rfl⟩
  | case4 cs char after escape noQuote ih =>
    obtain ⟨others, read, rfl⟩ := consChar_eq_some_iff.1 done
    obtain ⟨isEnd, longer⟩ := ih read
    obtain ⟨-, escaped⟩ := readEscape_append escape
    refine ⟨isEnd.trans (List.suffix_cons _ _), fun more => ?_⟩
    have passed : (cs ++ more).length - (after ++ more).length = cs.length - after.length := by
      simp only [List.length_append]
      omega
    simp only [List.cons_append, readBasic, noQuote, if_false, if_true, escaped more, passed,
      longer more]
    rfl
  | case5 => cases done
  | case6 c cs noQuote noEscape plain ih =>
    obtain ⟨others, read, rfl⟩ := consChar_eq_some_iff.1 done
    obtain ⟨isEnd, longer⟩ := ih read
    refine ⟨isEnd.trans (List.suffix_cons _ _), fun more => ?_⟩
    simp only [List.cons_append, readBasic, noQuote, noEscape, plain, if_false, if_true,
      longer more]
    rfl
  | case7 => cases done

/-- A string without escapes is read whatever follows it. -/
theorem readLiteral_append {chars : List Char} (done : readLiteral cs = some (chars, rest)) :
    rest <:+ cs ∧ ∀ more, readLiteral (cs ++ more) = some (chars, rest ++ more) := by
  fun_induction readLiteral cs generalizing chars with
  | case1 => cases done
  | case2 cs =>
    cases done
    exact ⟨List.suffix_cons _ _, fun _ => rfl⟩
  | case3 c cs noQuote plain ih =>
    obtain ⟨others, read, rfl⟩ := consChar_eq_some_iff.1 done
    obtain ⟨isEnd, longer⟩ := ih read
    refine ⟨isEnd.trans (List.suffix_cons _ _), fun more => ?_⟩
    simp only [List.cons_append, readLiteral, noQuote, plain, if_false, if_true, longer more]
    rfl
  | case4 => cases done

/-- Whether a text begins with the end of a string of several lines does not depend on what follows
an equals sign. -/
theorem closing?_append {quote c : Char} (isQuote : quote ≠ '=') (left : '=' ∈ cs) :
    closing? quote (c :: (cs ++ more)) =
      (closing? quote (c :: cs)).map fun found => (found.1, found.2 ++ more) := by
  have stops : ((fun c => c == quote) '=') = false := beq_false_of_ne isQuote.symm
  have inRest := mem_dropWhile (p := fun c => c == quote) (List.mem_cons_of_mem c left) stops
  rw [← List.cons_append]
  unfold closing?
  rw [takeWhile_append_of_mem inRest]
  generalize counted : ((c :: cs).takeWhile fun c => c == quote).length = count
  have bounded : count ≤ (c :: cs).length := counted ▸ (List.takeWhile_prefix _).length_le
  by_cases few : count < 3
  · simp [few]
  · have kept : min (count - 3) 2 + 3 ≤ (c :: cs).length := by omega
    simp only [few, if_false, List.drop_append_of_le_length kept, Option.map_some]

/-- What closes a string of several lines begins with a quote. -/
theorem closing?_suffix {quote c : Char} {chars : List Char}
    (done : closing? quote (c :: cs) = some (chars, rest)) : rest <:+ cs := by
  dsimp only [closing?] at done
  split at done
  · cases done
  · cases done
    exact List.drop_suffix _ cs

/-- Whether a line ends does not depend on what follows an equals sign. -/
theorem endsLine_append (left : '=' ∈ cs) : endsLine (cs ++ more) = endsLine cs := by
  rw [endsLine, endsLine, skipGap_append left]
  cases ended : afterNewline? (skipGap cs) with
  | none => rw [afterNewline?_eq_none_append (mem_skipGap left) ended]
  | some rest => rw [(afterNewline?_append ended).2 more]; rfl

/-- The first character of a text does not depend on what follows an equals sign. -/
theorem head?_append (left : '=' ∈ cs) : (cs ++ more).head? = cs.head? := by
  cases cs with
  | nil => cases left
  | cons c rest => rfl

/-- A string of several lines is read whatever follows it, up to further quotes. -/
theorem readLines_append {quote : Char} {escapes trimming : Bool} {passed : Nat}
    {chars : List Char} (isQuote : quote ≠ '=')
    (done : readLines quote escapes passed trimming cs = some (chars, rest)) :
    rest <:+ cs ∧ ('=' ∈ rest → ∀ more,
      readLines quote escapes passed trimming (cs ++ more) = some (chars, rest ++ more)) := by
  -- what a step looks ahead for is found before the equals sign, or not at all
  fun_induction readLines quote escapes passed trimming cs generalizing chars with
  | case1 => cases done
  | case2 trimming c cs left ih =>
    obtain ⟨isEnd, longer⟩ := ih done
    exact ⟨isEnd.trans (List.suffix_cons _ _), longer⟩
  | case3 trimming c cs trims ih =>
    obtain ⟨isEnd, longer⟩ := ih done
    refine ⟨isEnd.trans (List.suffix_cons _ _), fun left more => ?_⟩
    have inRest := isEnd.subset left
    simp only [List.cons_append, readLines, head?_append inRest, if_pos trims, longer left more]
  | case4 trimming c cs trims found closes =>
    cases done
    have isEnd := closing?_suffix closes
    refine ⟨isEnd.trans (List.suffix_cons _ _), fun left more => ?_⟩
    have inRest := isEnd.subset left
    simp only [List.cons_append, readLines, head?_append inRest, if_neg trims,
      closing?_append isQuote inRest, closes, Option.map_some]
  | case5 trimming cs trims unclosed ih =>
    obtain ⟨others, read, rfl⟩ := consChar_eq_some_iff.1 done
    obtain ⟨isEnd, longer⟩ := ih read
    refine ⟨isEnd.trans (List.suffix_cons _ _), fun left more => ?_⟩
    have inRest := isEnd.subset left
    simp only [List.cons_append, readLines, head?_append inRest, if_neg trims,
      closing?_append isQuote inRest, unclosed, Option.map_none, if_true, longer left more]
    rfl
  | case6 trimming cs feed trims unclosed noFeed ih =>
    obtain ⟨isEnd, longer⟩ := ih done
    refine ⟨isEnd.trans (List.suffix_cons _ _), fun left more => ?_⟩
    have inRest := isEnd.subset left
    simp only [List.cons_append, readLines, head?_append inRest, if_neg trims,
      closing?_append isQuote inRest, unclosed, Option.map_none, if_neg noFeed, if_true,
      if_pos feed, longer left more]
  | case7 => cases done
  | case8 trimming c cs trims unclosed noFeed noReturn escape ends ih =>
    obtain ⟨isEnd, longer⟩ := ih done
    refine ⟨isEnd.trans (List.suffix_cons _ _), fun left more => ?_⟩
    have inRest := isEnd.subset left
    simp only [List.cons_append, readLines, head?_append inRest, if_neg trims,
      closing?_append isQuote inRest, unclosed, Option.map_none, if_neg noFeed, if_neg noReturn,
      if_pos escape, endsLine_append inRest, if_pos ends, longer left more]
  | case9 trimming c cs trims unclosed noFeed noReturn escape ends char after escaped ih =>
    obtain ⟨others, read, rfl⟩ := consChar_eq_some_iff.1 done
    obtain ⟨isEnd, longer⟩ := ih read
    refine ⟨isEnd.trans (List.suffix_cons _ _), fun left more => ?_⟩
    have inRest := isEnd.subset left
    have passed : (cs ++ more).length - (after ++ more).length = cs.length - after.length := by
      simp only [List.length_append]
      omega
    simp only [List.cons_append, readLines, head?_append inRest, if_neg trims,
      closing?_append isQuote inRest, unclosed, Option.map_none, if_neg noFeed, if_neg noReturn,
      if_pos escape, endsLine_append inRest, if_neg ends, (readEscape_append escaped).2 more,
      passed, longer left more]
    rfl
  | case10 => cases done
  | case11 trimming c cs trims unclosed noFeed noReturn noEscape plain ih =>
    obtain ⟨others, read, rfl⟩ := consChar_eq_some_iff.1 done
    obtain ⟨isEnd, longer⟩ := ih read
    refine ⟨isEnd.trans (List.suffix_cons _ _), fun left more => ?_⟩
    have inRest := isEnd.subset left
    simp only [List.cons_append, readLines, head?_append inRest, if_neg trims,
      closing?_append isQuote inRest, unclosed, Option.map_none, if_neg noFeed, if_neg noReturn,
      if_neg noEscape, if_pos plain, longer left more]
    rfl
  | case12 => cases done

/-- A line end at the front does not come about by what follows an equals sign. -/
theorem skipNewline_append (left : '=' ∈ cs) :
    skipNewline (cs ++ more) = skipNewline cs ++ more := by
  unfold skipNewline
  cases ended : afterNewline? cs with
  | none => rw [afterNewline?_eq_none_append left ended]; rfl
  | some rest => rw [(afterNewline?_append ended).2 more]; rfl

theorem skipNewline_suffix (cs : List Char) : skipNewline cs <:+ cs := by
  unfold skipNewline
  cases ended : afterNewline? cs with
  | none => exact List.suffix_rfl
  | some rest => exact (afterNewline?_append ended).1

/-- A quote that is not followed by two more opens a string on one line. -/
theorem readString_basic (single : ∀ rest, cs = '"' :: '"' :: rest → False) :
    readString ('"' :: cs) =
      (readBasic 0 cs).map fun found => (String.ofList found.1, found.2) := by
  rw [readString]
  exact single

/-- An apostrophe that is not followed by two more opens a string on one line. -/
theorem readString_literal (single : ∀ rest, cs = '\'' :: '\'' :: rest → False) :
    readString ('\'' :: cs) =
      (readLiteral cs).map fun found => (String.ofList found.1, found.2) := by
  rw [readString]
  exact single

/-- Two quotes do not come about by what follows an equals sign. -/
theorem single_append {quote : Char} (isQuote : quote ≠ '=') (left : '=' ∈ cs)
    (single : ∀ rest, cs = quote :: quote :: rest → False) (rest : List Char)
    (same : cs ++ more = quote :: quote :: rest) : False :=
  not_append_of_mem [quote, quote] left (by simpa using isQuote.symm) single rest same

/-- A string is read whatever follows it. -/
theorem framed_readString : Framed readString := by
  refine .of fun {cs text rest} done => ?_
  obtain ⟨⟨chars, left⟩, read, same⟩ := Option.map_eq_some_iff.1 done
  cases same
  split at read
  · next cs =>
    obtain ⟨isEnd, longer⟩ := readLines_append (by decide) read
    have inText := isEnd.trans (skipNewline_suffix cs)
    refine ⟨inText.trans (List.suffix_append ['"', '"', '"'] cs), fun left more => ?_⟩
    simp [readString, skipNewline_append (inText.subset left), longer left more]
  · next cs =>
    obtain ⟨isEnd, longer⟩ := readLines_append (by decide) read
    have inText := isEnd.trans (skipNewline_suffix cs)
    refine ⟨inText.trans (List.suffix_append ['\'', '\'', '\''] cs), fun left more => ?_⟩
    simp [readString, skipNewline_append (inText.subset left), longer left more]
  · next cs single =>
    obtain ⟨isEnd, -⟩ := readBasic_append read
    refine ⟨isEnd.trans (List.suffix_cons _ _), fun left more => ?_⟩
    rw [List.cons_append,
      readString_basic (single_append (by decide) (isEnd.subset left) single),
      (readBasic_append read).2 more]
    rfl
  · next cs single =>
    obtain ⟨isEnd, -⟩ := readLiteral_append read
    refine ⟨isEnd.trans (List.suffix_cons _ _), fun left more => ?_⟩
    rw [List.cons_append,
      readString_literal (single_append (by decide) (isEnd.subset left) single),
      (readLiteral_append read).2 more]
    rfl
  · cases read

/-! ## Verbatim texts -/

/-- Whether a character stands for itself between two quotes: it is neither a quote, nor a
backslash, nor a control character other than the tab. -/
def Verbatim (c : Char) : Prop := isPlain c = true ∧ c ≠ '"' ∧ c ≠ '\\'

/-- Characters that stand for themselves come back as they are. -/
theorem readBasic_of_verbatim {chars : List Char} (verbatim : ∀ c ∈ chars, Verbatim c) :
    readBasic 0 (chars ++ '"' :: rest) = some (chars, rest) := by
  induction chars with
  | nil => rfl
  | cons c others ih =>
    obtain ⟨⟨plain, noQuote, noEscape⟩, later⟩ := List.forall_mem_cons.1 verbatim
    simp only [List.cons_append, readBasic, if_neg noQuote, if_neg noEscape, if_pos plain, ih later]
    rfl

/-- A text of such characters comes back from between two quotes; if it is empty, no third quote
may follow. -/
theorem readString_of_verbatim {chars : List Char} (verbatim : ∀ c ∈ chars, Verbatim c)
    (closed : chars = [] → rest.head? ≠ some '"') :
    readString ('"' :: (chars ++ '"' :: rest)) = some (String.ofList chars, rest) := by
  have single (others : List Char) : chars ++ '"' :: rest = '"' :: '"' :: others → False := by
    cases chars with
    | nil =>
      intro same
      simp only [List.nil_append, List.cons.injEq, true_and] at same
      rw [same] at closed
      exact closed rfl rfl
    | cons c more =>
      intro same
      exact (verbatim c List.mem_cons_self).2.1 (List.cons.inj same).1
  rw [readString_basic single, readBasic_of_verbatim verbatim]
  rfl

/-- A string with escapes is as long as what is read at most, apart from its quote. -/
theorem length_readBasic {escaped : Nat} {chars : List Char}
    (done : readBasic escaped cs = some (chars, rest)) :
    chars.length + escaped + 1 ≤ cs.length := by
  fun_induction readBasic escaped cs generalizing chars with
  | case1 => cases done
  | case2 c cs left ih =>
    have shorter := ih done
    simp only [List.length_cons]
    omega
  | case3 cs =>
    cases done
    simp
  | case4 cs char after escape noQuote ih =>
    obtain ⟨others, read, rfl⟩ := consChar_eq_some_iff.1 done
    have shorter := ih read
    simp only [List.length_cons]
    omega
  | case5 => cases done
  | case6 c cs noQuote noEscape plain ih =>
    obtain ⟨others, read, rfl⟩ := consChar_eq_some_iff.1 done
    have shorter := ih read
    simp only [List.length_cons]
    omega
  | case7 => cases done

/-- An escape is longer than the character that it stands for. -/
theorem verbatim_of_readBasic {chars : List Char} (done : readBasic 0 cs = some (chars, rest))
    (long : cs.length ≤ chars.length + 1) : ∀ c ∈ chars, Verbatim c := by
  induction cs generalizing chars with
  | nil => cases done
  | cons c cs ih =>
    simp only [readBasic] at done
    split at done
    · cases done
      simp
    · next noQuote =>
      split at done
      · split at done
        · next char after escape =>
          obtain ⟨others, read, rfl⟩ := consChar_eq_some_iff.1 done
          have shorter := length_readBasic read
          have passed := (readEscape_append escape).1
          simp only [List.length_cons] at long
          omega
        · cases done
      · next noEscape =>
        split at done
        · next plain =>
          obtain ⟨others, read, rfl⟩ := consChar_eq_some_iff.1 done
          simp only [List.length_cons, Nat.add_le_add_iff_right] at long
          exact List.forall_mem_cons.2 ⟨⟨plain, noQuote, noEscape⟩, ih read long⟩
        · cases done

/-- A string of several lines is shorter than what is read by its closing quotes at least. -/
theorem length_readLines {quote : Char} {escapes trimming : Bool} {passed : Nat}
    {chars : List Char} (done : readLines quote escapes passed trimming cs = some (chars, rest)) :
    chars.length + 3 ≤ cs.length := by
  fun_induction readLines quote escapes passed trimming cs generalizing chars with
  | case1 => cases done
  | case2 trimming c cs left ih => exact Nat.le_succ_of_le (ih done)
  | case3 trimming c cs trims ih => exact Nat.le_succ_of_le (ih done)
  | case4 trimming c cs trims found closes =>
    cases done
    dsimp only [closing?] at closes
    split at closes
    · cases closes
    · next enough =>
      cases closes
      have bounded := (List.takeWhile_prefix (l := c :: cs) fun c => c == quote).length_le
      rw [List.length_replicate]
      omega
  | case5 trimming cs trims unclosed ih =>
    obtain ⟨others, read, rfl⟩ := consChar_eq_some_iff.1 done
    exact Nat.succ_le_succ (ih read)
  | case6 trimming cs feed trims unclosed noFeed ih => exact Nat.le_succ_of_le (ih done)
  | case7 => cases done
  | case8 trimming c cs trims unclosed noFeed noReturn escape ends ih =>
    exact Nat.le_succ_of_le (ih done)
  | case9 trimming c cs trims unclosed noFeed noReturn escape ends char after escaped ih =>
    obtain ⟨others, read, rfl⟩ := consChar_eq_some_iff.1 done
    exact Nat.succ_le_succ (ih read)
  | case10 => cases done
  | case11 trimming c cs trims unclosed noFeed noReturn noEscape plain ih =>
    obtain ⟨others, read, rfl⟩ := consChar_eq_some_iff.1 done
    exact Nat.succ_le_succ (ih read)
  | case12 => cases done

/-- A text that comes back as it is from between two quotes with nothing after them has only
characters that stand for themselves. -/
theorem verbatim_of_readString {chars : List Char}
    (done : readString ('"' :: (chars ++ ['"'])) = some (String.ofList chars, rest)) :
    ∀ c ∈ chars, Verbatim c := by
  by_cases triple : ∃ others, chars ++ ['"'] = '"' :: '"' :: others
  · obtain ⟨others, triple⟩ := triple
    rw [triple] at done
    obtain ⟨⟨found, left⟩, read, same⟩ := Option.map_eq_some_iff.1 done
    obtain rfl : found = chars := String.ofList_inj.1 (Prod.mk.inj same).1
    -- the three quotes that open the string and the three that close it are not all there
    have shorter := length_readLines read
    have trimmed := (skipNewline_suffix others).length_le
    have counted := congrArg List.length triple
    simp only [List.length_append, List.length_cons, List.length_nil] at counted
    omega
  · rw [readString_basic fun others same => triple ⟨others, same⟩] at done
    obtain ⟨⟨found, left⟩, read, same⟩ := Option.map_eq_some_iff.1 done
    obtain rfl : found = chars := String.ofList_inj.1 (Prod.mk.inj same).1
    exact verbatim_of_readBasic read (by simp)

end OrderPipeline.Toml
