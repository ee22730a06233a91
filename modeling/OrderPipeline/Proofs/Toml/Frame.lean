import OrderPipeline.Toml.Document

/-!
# Readings that stand whatever follows

The readers of configuration files take what they read from the front of a text. `Framed` says that
such a reader reads the same whatever is put behind the text, as long as it leaves an equals sign:
no line, comment or gap that it looks at can then reach to the end of the text. Readers built up
from framed ones are framed (`Framed.bind`, `Framed.ofHead`), and so are the skips over gaps,
comments and lines (`framedSkip_afterLine?`, `framedSkip_skipLines`).
-/

namespace OrderPipeline.Toml

/-! ## Readers -/

/-- A reader that takes its characters from the front of a text, and reads the same whatever is put
behind the text, as long as it leaves an equals sign. -/
structure Framed {α : Type} (read : List Char → Option (α × List Char)) : Prop where
  /-- What is left is the end of the text. -/
  suffix {cs rest : List Char} {a : α} : read cs = some (a, rest) → rest <:+ cs
  /-- What is put behind the text is left as well. -/
  append {cs rest : List Char} {a : α} : read cs = some (a, rest) → '=' ∈ rest →
    ∀ more, read (cs ++ more) = some (a, rest ++ more)

/-- A reader of the same kind that gives only what it leaves. -/
structure FramedSkip (skip : List Char → Option (List Char)) : Prop where
  /-- What is left is the end of the text. -/
  suffix {cs rest : List Char} : skip cs = some rest → rest <:+ cs
  /-- What is put behind the text is left as well. -/
  append {cs rest : List Char} : skip cs = some rest → '=' ∈ rest →
    ∀ more, skip (cs ++ more) = some (rest ++ more)

namespace Framed

theorem of {α : Type} {read : List Char → Option (α × List Char)}
    (both : ∀ {cs a rest}, read cs = some (a, rest) →
      rest <:+ cs ∧ ('=' ∈ rest → ∀ more, read (cs ++ more) = some (a, rest ++ more))) :
    Framed read where
  suffix done := (both done).1
  append done left := (both done).2 left

variable {α β : Type} {read : List Char → Option (α × List Char)}
  {skip : List Char → Option (List Char)}

/-- One reader after another. -/
theorem bind {next : α × List Char → Option (β × List Char)} (first : Framed read)
    (second : ∀ a, Framed fun rest => next (a, rest)) : Framed fun cs => read cs >>= next where
  suffix done := by
    obtain ⟨⟨a, rest⟩, here, there⟩ := Option.bind_eq_some_iff.1 done
    exact ((second a).suffix there).trans (first.suffix here)
  append done left more := by
    obtain ⟨⟨a, rest⟩, here, there⟩ := Option.bind_eq_some_iff.1 done
    have kept := ((second a).suffix there).subset left
    exact Option.bind_eq_some_iff.2
      ⟨_, first.append here kept more, (second a).append there left more⟩

/-- A reader after one that only skips. -/
theorem afterSkip {next : List Char → Option (β × List Char)} (first : FramedSkip skip)
    (second : Framed next) : Framed fun cs => skip cs >>= next where
  suffix done := by
    obtain ⟨rest, here, there⟩ := Option.bind_eq_some_iff.1 done
    exact (second.suffix there).trans (first.suffix here)
  append done left more := by
    obtain ⟨rest, here, there⟩ := Option.bind_eq_some_iff.1 done
    have kept := (second.suffix there).subset left
    exact Option.bind_eq_some_iff.2 ⟨_, first.append here kept more, second.append there left more⟩

/-- Nothing is read. -/
theorem pure (a : α) : Framed fun cs => some (a, cs) where
  suffix done := by
    cases done
    exact List.suffix_rfl
  append done left more := by
    cases done
    rfl

/-- Reading fails. -/
theorem none : Framed fun _ => (Option.none : Option (α × List Char)) where
  suffix done := nomatch done
  append done := nomatch done

/-- What does not depend on the text comes before a reader. -/
theorem given {o : Option α} {next : α → List Char → Option (β × List Char)}
    (second : ∀ a, Framed (next a)) : Framed fun cs => o >>= fun a => next a cs := by
  cases o with
  | none => exact .none
  | some a => exact second a

/-- What was read is changed. -/
theorem map {f : α → β} (first : Framed read) :
    Framed fun cs => (read cs).map fun found => (f found.1, found.2) where
  suffix done := by
    obtain ⟨⟨a, rest⟩, here, same⟩ := Option.map_eq_some_iff.1 done
    cases same
    exact first.suffix here
  append done left more := by
    obtain ⟨⟨a, rest⟩, here, same⟩ := Option.map_eq_some_iff.1 done
    cases same
    exact Option.map_eq_some_iff.2 ⟨_, first.append here left more, rfl⟩

/-- A reader that looks at the first character, and reads on after it or from it. -/
theorem ofHead (empty : ∀ {a rest}, read [] = some (a, rest) → rest = [])
    (byHead : ∀ c, ∃ inner, Framed inner ∧
      ((∀ rest, read (c :: rest) = inner rest) ∨ ∀ rest, read (c :: rest) = inner (c :: rest))) :
    Framed read := by
  refine .of fun {cs a rest} done => ?_
  cases cs with
  | nil =>
    cases empty done
    exact ⟨List.suffix_rfl, fun left => by cases left⟩
  | cons c cs =>
    obtain ⟨inner, framed, after | whole⟩ := byHead c
    · rw [after] at done
      refine ⟨(framed.suffix done).trans (List.suffix_cons _ _), fun left more => ?_⟩
      rw [List.cons_append, after, framed.append done left more]
    · rw [whole] at done
      refine ⟨framed.suffix done, fun left more => ?_⟩
      rw [List.cons_append, whole, ← List.cons_append, framed.append done left more]

end Framed

namespace FramedSkip

theorem of {skip : List Char → Option (List Char)}
    (both : ∀ {cs rest}, skip cs = some rest →
      rest <:+ cs ∧ ('=' ∈ rest → ∀ more, skip (cs ++ more) = some (rest ++ more))) :
    FramedSkip skip where
  suffix done := (both done).1
  append done left := (both done).2 left

variable {α : Type} {read : List Char → Option (α × List Char)}
  {skip next : List Char → Option (List Char)}

/-- A skip after a reader. -/
theorem afterRead {next : α × List Char → Option (List Char)} (first : Framed read)
    (second : ∀ a, FramedSkip fun rest => next (a, rest)) :
    FramedSkip fun cs => read cs >>= next where
  suffix done := by
    obtain ⟨⟨a, rest⟩, here, there⟩ := Option.bind_eq_some_iff.1 done
    exact ((second a).suffix there).trans (first.suffix here)
  append done left more := by
    obtain ⟨⟨a, rest⟩, here, there⟩ := Option.bind_eq_some_iff.1 done
    have kept := ((second a).suffix there).subset left
    exact Option.bind_eq_some_iff.2
      ⟨_, first.append here kept more, (second a).append there left more⟩

/-- One skip after another. -/
theorem bind (first : FramedSkip skip) (second : FramedSkip next) :
    FramedSkip fun cs => skip cs >>= next where
  suffix done := by
    obtain ⟨rest, here, there⟩ := Option.bind_eq_some_iff.1 done
    exact (second.suffix there).trans (first.suffix here)
  append done left more := by
    obtain ⟨rest, here, there⟩ := Option.bind_eq_some_iff.1 done
    have kept := (second.suffix there).subset left
    exact Option.bind_eq_some_iff.2 ⟨_, first.append here kept more, second.append there left more⟩

/-- Nothing is skipped. -/
theorem pure : FramedSkip fun cs => some cs where
  suffix done := by
    cases done
    exact List.suffix_rfl
  append done left more := by
    cases done
    rfl

/-- What does not depend on the text comes before a skip. -/
theorem given {o : Option α} {next : α → List Char → Option (List Char)}
    (second : ∀ a, FramedSkip (next a)) : FramedSkip fun cs => o >>= fun a => next a cs := by
  cases o with
  | none => exact .of fun done => nomatch done
  | some a => exact second a

/-- A skip that looks at the first character, and goes on after it or from it. -/
theorem ofHead (empty : ∀ {rest}, skip [] = some rest → rest = [])
    (byHead : ∀ c, ∃ inner, FramedSkip inner ∧
      ((∀ rest, skip (c :: rest) = inner rest) ∨ ∀ rest, skip (c :: rest) = inner (c :: rest))) :
    FramedSkip skip := by
  refine .of fun {cs rest} done => ?_
  cases cs with
  | nil =>
    cases empty done
    exact ⟨List.suffix_rfl, fun left => by cases left⟩
  | cons c cs =>
    obtain ⟨inner, framed, after | whole⟩ := byHead c
    · rw [after] at done
      refine ⟨(framed.suffix done).trans (List.suffix_cons _ _), fun left more => ?_⟩
      rw [List.cons_append, after, framed.append done left more]
    · rw [whole] at done
      refine ⟨framed.suffix done, fun left more => ?_⟩
      rw [List.cons_append, whole, ← List.cons_append, framed.append done left more]

end FramedSkip

/-! ## Pieces of a text -/

section Pieces

variable {cs more : List Char} {p : Char → Bool}

/-- An equals sign that fails a test is not among the characters at the front that pass it. -/
theorem mem_dropWhile (left : '=' ∈ cs) (stops : p '=' = false) : '=' ∈ cs.dropWhile p := by
  rw [← List.takeWhile_append_dropWhile (p := p) (l := cs), List.mem_append] at left
  refine left.resolve_left fun isIn => ?_
  rw [List.all_eq_true.1 List.all_takeWhile _ isIn] at stops
  cases stops

/-- What is left after the characters that pass a test is left in front of what follows. -/
theorem dropWhile_append_of_mem (left : '=' ∈ cs.dropWhile p) :
    (cs ++ more).dropWhile p = cs.dropWhile p ++ more := by
  rw [List.dropWhile_append, if_neg]
  rw [List.isEmpty_iff]
  exact List.ne_nil_of_mem left

/-- The characters at the front that pass a test do not depend on what follows one that fails. -/
theorem takeWhile_append_of_mem (left : '=' ∈ cs.dropWhile p) :
    (cs ++ more).takeWhile p = cs.takeWhile p := by
  have whole := List.takeWhile_append_dropWhile (p := p) (l := cs ++ more)
  rw [dropWhile_append_of_mem left, ← List.append_assoc, List.append_left_inj] at whole
  exact List.append_cancel_right (whole.trans List.takeWhile_append_dropWhile.symm)

/-- A word without an equals sign at the front of a longer text is at the front of the text. -/
theorem eq_append_of_mem (word : List Char) {rest : List Char} (left : '=' ∈ cs)
    (fresh : '=' ∉ word) (same : cs ++ more = word ++ rest) :
    ∃ kept, cs = word ++ kept ∧ rest = kept ++ more := by
  rcases List.append_eq_append_iff.1 same with ⟨extra, rfl, -⟩ | ⟨kept, rfl, rfl⟩
  · exact absurd (List.mem_append_left extra left) fresh
  · exact ⟨kept, rfl, rfl⟩

/-- A word without an equals sign does not come about by what follows an equals sign. -/
theorem not_append_of_mem (word : List Char) (left : '=' ∈ cs) (fresh : '=' ∉ word)
    (absent : ∀ rest, cs = word ++ rest → False) (rest : List Char)
    (same : cs ++ more = word ++ rest) : False := by
  obtain ⟨kept, found, -⟩ := eq_append_of_mem word left fresh same
  exact absent kept found

/-- A character comes in front of what was read. -/
theorem consChar_eq_some_iff {c : Char} {reading : Option (List Char × List Char)}
    {chars rest : List Char} :
    consChar c reading = some (chars, rest) ↔
      ∃ others, reading = some (others, rest) ∧ chars = c :: others := by
  rw [consChar, Option.map_eq_some_iff]
  constructor
  · rintro ⟨⟨others, left⟩, read, same⟩
    cases same
    exact ⟨others, read, rfl⟩
  · rintro ⟨others, read, rfl⟩
    exact ⟨_, read, rfl⟩

theorem skipGap_suffix (cs : List Char) : skipGap cs <:+ cs := List.dropWhile_suffix isGap

/-- No equals sign is in a gap. -/
theorem mem_skipGap (left : '=' ∈ cs) : '=' ∈ skipGap cs := mem_dropWhile left rfl

/-- A gap ends before an equals sign. -/
theorem skipGap_append (left : '=' ∈ cs) : skipGap (cs ++ more) = skipGap cs ++ more :=
  dropWhile_append_of_mem (mem_skipGap left)

/-- A reader after a gap. -/
theorem Framed.afterGap {α : Type} {read : List Char → Option (α × List Char)}
    (framed : Framed read) : Framed fun cs => read (skipGap cs) where
  suffix done := (framed.suffix done).trans (skipGap_suffix _)
  append {cs rest a} done left more := by
    have inText := ((framed.suffix done).trans (skipGap_suffix cs)).subset left
    rw [skipGap_append inText, framed.append done left more]

theorem skipComment_suffix (cs : List Char) : skipComment cs <:+ cs := by
  unfold skipComment
  split
  · exact (List.dropWhile_suffix isPlain).trans (List.suffix_cons _ _)
  · exact List.suffix_rfl

/-- A comment is over where a character is left. -/
theorem skipComment_append (left : '=' ∈ skipComment cs) :
    skipComment (cs ++ more) = skipComment cs ++ more := by
  cases cs with
  | nil => cases left
  | cons c rest =>
    by_cases opens : c = '#'
    · subst opens
      exact dropWhile_append_of_mem left
    · simp [skipComment, opens]

/-- A line end is read whatever follows it. -/
theorem afterNewline?_append {rest : List Char} (done : afterNewline? cs = some rest) :
    rest <:+ cs ∧ ∀ more, afterNewline? (cs ++ more) = some (rest ++ more) := by
  unfold afterNewline? at done
  split at done <;> cases done
  · exact ⟨List.suffix_cons _ _, fun _ => rfl⟩
  · exact ⟨(List.suffix_cons _ _).trans (List.suffix_cons _ _), fun _ => rfl⟩

/-- Whether a text begins with a line end does not depend on what follows an equals sign. -/
theorem afterNewline?_eq_none_append (left : '=' ∈ cs) (absent : afterNewline? cs = none) :
    afterNewline? (cs ++ more) = none := by
  refine Option.eq_none_iff_forall_ne_some.2 fun rest done => ?_
  unfold afterNewline? at done
  split at done
  · next rest same =>
    obtain ⟨kept, rfl, -⟩ := eq_append_of_mem ['\n'] left (by decide) same
    cases absent
  · next rest same =>
    obtain ⟨kept, rfl, -⟩ := eq_append_of_mem ['\r', '\n'] left (by decide) same
    cases absent
  · cases done

theorem framedSkip_afterLine? : FramedSkip afterLine? where
  suffix {cs rest} done := by
    unfold afterLine? at done
    split at done
    · cases done
      exact List.nil_suffix
    · exact (afterNewline?_append done).1.trans
        ((skipComment_suffix _).trans (skipGap_suffix cs))
  append {cs rest} done left more := by
    unfold afterLine? at done
    split at done
    · cases done
      cases left
    · next ends =>
      obtain ⟨isEnd, longer⟩ := afterNewline?_append done
      have inComment := isEnd.subset left
      have inGap := (skipComment_suffix _).subset inComment
      have inText := (skipGap_suffix cs).subset inGap
      rw [afterLine?, skipGap_append inText, skipComment_append inComment]
      cases kept : skipComment (skipGap cs) with
      | nil => exact absurd kept ends
      | cons c others =>
        rw [kept] at longer
        exact longer more

/-- A line end does not come about by what follows an equals sign. -/
theorem not_newline_append {c : Char} (left : '=' ∈ c :: cs)
    (absent : ∀ rest, c = '\r' → cs = '\n' :: rest → False) (rest : List Char)
    (isReturn : c = '\r') (same : cs ++ more = '\n' :: rest) : False := by
  subst isReturn
  exact not_append_of_mem ['\n'] ((List.mem_cons.1 left).resolve_left (by decide))
    (by decide) (fun others => absent others rfl) rest same

end Pieces

/-- What is skipped over several lines is skipped whatever follows. -/
theorem framedSkip_skipLines (comment : Bool) : FramedSkip (skipLines comment) := by
  refine .of fun {cs rest} done => ?_
  fun_induction skipLines comment cs with
  | case1 => cases done
  | case2 =>
    cases done
    exact ⟨List.suffix_rfl, fun left => by cases left⟩
  | case3 comment cs ih =>
    obtain ⟨isEnd, longer⟩ := ih done
    exact ⟨isEnd.trans (List.suffix_cons _ _), longer⟩
  | case4 comment cs ih =>
    obtain ⟨isEnd, longer⟩ := ih done
    exact ⟨isEnd.trans ((List.suffix_cons _ _).trans (List.suffix_cons _ _)), longer⟩
  | case5 c cs noFeed noReturn plain ih =>
    obtain ⟨isEnd, longer⟩ := ih done
    refine ⟨isEnd.trans (List.suffix_cons _ _), fun left more => ?_⟩
    have inText := (isEnd.trans (List.suffix_cons c cs)).subset left
    rw [List.cons_append, skipLines]
    · simp [plain, longer left more]
    · exact noFeed
    · exact not_newline_append inText noReturn
  | case6 => cases done
  | case7 comment c cs noFeed noReturn closed gap ih =>
    obtain ⟨isEnd, longer⟩ := ih done
    refine ⟨isEnd.trans (List.suffix_cons _ _), fun left more => ?_⟩
    have inText := (isEnd.trans (List.suffix_cons c cs)).subset left
    rw [List.cons_append, skipLines]
    · simp [closed, gap, longer left more]
    · exact noFeed
    · exact not_newline_append inText noReturn
  | case8 comment cs closed noFeed noReturn gap ih =>
    obtain ⟨isEnd, longer⟩ := ih done
    refine ⟨isEnd.trans (List.suffix_cons _ _), fun left more => ?_⟩
    have inText := (isEnd.trans (List.suffix_cons '#' cs)).subset left
    rw [List.cons_append, skipLines]
    · simp [closed, gap, longer left more]
    · exact noFeed
    · exact not_newline_append inText noReturn
  | case9 comment c cs noFeed noReturn closed noGap noComment =>
    cases done
    refine ⟨List.suffix_rfl, fun left more => ?_⟩
    rw [List.cons_append, skipLines]
    · simp [closed, noGap, noComment]
    · exact noFeed
    · exact not_newline_append left noReturn

end OrderPipeline.Toml
