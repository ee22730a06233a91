import OrderPipeline.Text.Basic
import Mathlib.Data.List.Basic

/-!
# Ends of lines

Blanks at the end of a line are left off, which never reaches past a character that is not blank.
Lines that are put together with a separator are as many as before when they are split at it, unless
the separator occurs in one of them.

* `dropBlankEnd_append_cons` — what stands before a character that is not blank is kept.
* `length_splitOn_intercalate` — how many parts there are.
-/

namespace OrderPipeline

namespace Text

/-! ## Blanks at the end -/

/-- Of the first character and the blanks at the end, the character goes only if it is one of the
blanks. -/
theorem dropBlankEnd_cons (c : Char) (rest : List Char) :
    dropBlankEnd (c :: rest) =
      if isBlank c = true ∧ dropBlankEnd rest = [] then [] else c :: dropBlankEnd rest := by
  simp only [dropBlankEnd, dropBlank, List.reverse_cons, List.dropWhile_append, List.isEmpty_iff,
    List.reverse_eq_nil_iff]
  by_cases nothing : rest.reverse.dropWhile isBlank = []
  · by_cases blank : isBlank c = true <;> simp [nothing, blank]
  · simp [nothing]

/-- What stands before a character that is not blank is kept, and so is the character. -/
theorem dropBlankEnd_append_cons {c : Char} (solid : isBlank c = false) (before after : List Char) :
    dropBlankEnd (before ++ c :: after) = before ++ c :: dropBlankEnd after := by
  induction before with
  | nil => simp [dropBlankEnd_cons, solid]
  | cons first rest ih => simp [dropBlankEnd_cons, ih]

/-- Only blanks are left off. -/
theorem exists_blanks (cs : List Char) :
    ∃ blanks, (∀ c ∈ blanks, isBlank c = true) ∧ dropBlankEnd cs ++ blanks = cs := by
  induction cs with
  | nil => exact ⟨[], nofun, rfl⟩
  | cons c rest ih =>
    obtain ⟨blanks, blank, split⟩ := ih
    rw [dropBlankEnd_cons]
    split
    · next gone =>
      rw [gone.2, List.nil_append] at split
      subst split
      exact ⟨c :: blanks, List.forall_mem_cons.2 ⟨gone.1, blank⟩, rfl⟩
    · exact ⟨blanks, blank, by rw [List.cons_append, split]⟩

/-- A space in front makes no difference to whether another character is left. -/
theorem mem_dropBlankEnd_space {c : Char} (other : c ≠ ' ') (rest : List Char) :
    c ∈ dropBlankEnd (' ' :: rest) ↔ c ∈ dropBlankEnd rest := by
  rw [dropBlankEnd_cons]
  split
  · next gone => rw [gone.2]
  · simp [other]

/-- Spaces at the end are left off with the blanks before them. -/
theorem dropBlankEnd_append_spaces (cs : List Char) (n : Nat) :
    dropBlankEnd (cs ++ List.replicate n ' ') = dropBlankEnd cs := by
  induction cs with
  | nil =>
    induction n with
    | zero => rfl
    | succ n ih =>
      rw [List.nil_append] at ih
      rw [List.nil_append, List.replicate_succ, dropBlankEnd_cons, ih, if_pos ⟨by decide, rfl⟩]
      rfl
  | cons c rest ih => rw [List.cons_append, dropBlankEnd_cons, ih, ← dropBlankEnd_cons]

end Text

/-! ## Lines that are put together -/

section Lines

variable {α : Type*} [DecidableEq α]

/-- There is one part more than there are separators. -/
theorem length_splitOn (separator : α) (xs : List α) :
    (xs.splitOn separator).length = xs.count separator + 1 := by
  induction xs with
  | nil => rfl
  | cons x rest ih =>
    rw [List.splitOn, List.splitOnP_cons_eq_if_modifyHead, List.count_cons]
    rw [List.splitOn] at ih
    split <;> simp [ih]

/-- Lines with a separator between them have as many parts as there are lines, and one part more for
each separator in them. -/
theorem length_splitOn_intercalate (separator : α) {lines : List (List α)} (nonempty : lines ≠ []) :
    (([separator].intercalate lines).splitOn separator).length =
      lines.length + lines.flatten.count separator := by
  induction lines with
  | nil => exact absurd rfl nonempty
  | cons line rest ih =>
    cases rest with
    | nil => simp [length_splitOn, Nat.add_comm]
    | cons next rest =>
      have later := ih (List.cons_ne_nil _ _)
      rw [length_splitOn] at later ⊢
      simp only [List.intercalate_cons_cons, List.count_append, List.count_singleton_self,
        List.flatten_cons, List.length_cons] at later ⊢
      omega

/-- So they have as many parts as there are lines just if the separator occurs in none of them. -/
theorem length_splitOn_intercalate_eq_iff (separator : α) {lines : List (List α)}
    (nonempty : lines ≠ []) :
    (([separator].intercalate lines).splitOn separator).length = lines.length ↔
      ∀ line ∈ lines, separator ∉ line := by
  rw [length_splitOn_intercalate separator nonempty, Nat.add_eq_left, List.count_eq_zero]
  simp [List.mem_flatten]

end Lines

end OrderPipeline
