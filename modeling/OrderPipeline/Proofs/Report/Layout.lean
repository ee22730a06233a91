import OrderPipeline.Command.Reply
import OrderPipeline.Proofs.Number.Digits
import OrderPipeline.Proofs.Submission.History
import OrderPipeline.Proofs.Text.LineEnds
import OrderPipeline.Report.Table
import Mathlib.Data.List.Forall2

/-!
# How tables are laid out

All columns are as wide as their widest cells (`Table.fits_widths`), so in every line of a table the
bars between the cells stand where the crosses stand in the rule. `LaidOut` says so about a line
from a given offset on, and `Aligned` about a whole line, from which blanks have been left off.

A line is one line of the output only if no cell has a line feed in it, but for those among the
blanks at the end (`OneLine`).

* `Table.aligned_line` — the bars of a line stand where the crosses of the rule do, and no cell is
  cut short.
* `Table.lineFeed_notMem_line_iff` — when a line is one line of the output.
* `StageView.page_is_aligned` — the page of a stage, line by line.
-/

namespace OrderPipeline

/-! ## Widths -/

/-- Whether columns of some widths have room for some cells. -/
def Fits (cells : List String) (widths : List ℕ) : Prop :=
  List.Forall₂ (fun cell width => cell.length ≤ width) cells widths

namespace Fits

variable {cells : List String} {widths : List ℕ}

/-- Cells fit columns that are as wide as they are. -/
theorem self (cells : List String) : Fits cells (cells.map String.length) :=
  List.forall₂_map_right_iff.2 (List.forall₂_same.2 fun _ _ => Nat.le_refl _)

/-- Widening columns for other cells leaves room for those that fit. -/
theorem widen (fits : Fits cells widths) {others : List String}
    (same : others.length = widths.length) : Fits cells (Table.widen widths others) := by
  induction fits generalizing others with
  | nil => exact List.Forall₂.nil
  | @cons cell width cells widths room _ ih =>
    cases others with
    | nil => cases same
    | cons other others =>
      exact List.Forall₂.cons (Nat.le_trans room (Nat.le_max_left _ _)) (ih (Nat.succ.inj same))

/-- Cells fit columns that have been widened for them. -/
theorem of_widen (same : cells.length = widths.length) : Fits cells (Table.widen widths cells) := by
  induction cells generalizing widths with
  | nil =>
    cases widths with
    | nil => exact List.Forall₂.nil
    | cons => cases same
  | cons cell cells ih =>
    cases widths with
    | nil => cases same
    | cons width widths => exact List.Forall₂.cons (Nat.le_max_right _ _) (ih (Nat.succ.inj same))

end Fits

namespace Table

/-- Widening keeps the number of columns. -/
theorem length_widen {widths : List ℕ} {cells : List String}
    (same : cells.length = widths.length) : (widen widths cells).length = widths.length := by
  simp [widen, same]

/-- Columns that are widened for some rows have room for them, and for what fitted before. -/
theorem fits_foldl_widen {widths : List ℕ} {rows : List (List String)}
    (same : ∀ row ∈ rows, row.length = widths.length) :
    (∀ cells, Fits cells widths → Fits cells (rows.foldl widen widths)) ∧
      ∀ row ∈ rows, Fits row (rows.foldl widen widths) := by
  -- on the rows, each of which widens the columns before the others do
  induction rows generalizing widths with
  | nil => exact ⟨fun _ fits => fits, nofun⟩
  | cons row rest ih =>
    obtain ⟨first, others⟩ := List.forall_mem_cons.1 same
    obtain ⟨kept, fit⟩ := ih fun row member => (others row member).trans (length_widen first).symm
    exact ⟨fun cells fits => kept cells (fits.widen first),
      List.forall_mem_cons.2 ⟨kept row (.of_widen first), fit⟩⟩

/-- The columns of a table have room for its header and for all of its rows. -/
theorem fits_widths {table : Table} (same : ∀ row ∈ table.rows, row.length = table.header.length) :
    Fits table.header table.widths ∧ ∀ row ∈ table.rows, Fits row table.widths := by
  have columns : ∀ row ∈ table.rows, row.length = (table.header.map String.length).length := by
    simpa using same
  obtain ⟨kept, fit⟩ := fits_foldl_widen columns
  exact ⟨kept table.header (.self table.header), fit⟩

end Table

/-! ## Bars -/

/-- The offsets of the bars between columns of some widths, the first of which begins at an
offset. -/
def barsFrom (start : ℕ) : List ℕ → List ℕ
  | width :: next :: rest =>
    (start + width + 1) :: barsFrom (start + width + 3) (next :: rest)
  | _ => []

/-- Whether some characters are cells with bars between them, where the first cell begins at an
offset and the bars stand at given ones. -/
inductive LaidOut : ℕ → List ℕ → List String → List Char → Prop where
  /-- The last cell, with spaces after it. -/
  | last (start : ℕ) (cell : String) (spaces : ℕ) :
    LaidOut start [] [cell] (cell.toList ++ List.replicate spaces ' ')
  /-- A cell with spaces after it, and a bar between two more spaces. -/
  | next {start spaces bar : ℕ} {bars : List ℕ} {cell : String} {cells : List String}
    {rest : List Char} (here : bar = start + cell.length + spaces + 1)
    (later : LaidOut (bar + 2) bars cells rest) :
    LaidOut start (bar :: bars) (cell :: cells)
      (cell.toList ++ List.replicate spaces ' ' ++ [' ', '|', ' '] ++ rest)

/-- Whether a line is cells with bars between them at given offsets, but for blanks that were left
off at its end. -/
structure Aligned (bars : List ℕ) (cells : List String) (line : String) : Prop where
  /-- With some blanks at its end, the line is the cells with the bars between them. -/
  laidOut : ∃ blanks, (∀ c ∈ blanks, Text.isBlank c = true) ∧
    LaidOut 0 bars cells (line.toList ++ blanks)
  /-- The bars are in the line. -/
  bars : ∀ bar ∈ bars, line.toList[bar]? = some '|'

namespace Table

/-- The characters of a filled-up cell. -/
theorem toList_pad (width : ℕ) (cell : String) :
    (pad width cell).toList = cell.toList ++ List.replicate (width - cell.length) ' ' := by
  rw [pad, String.toList_append, repeated, String.toList_ofList]

/-- The characters of a line before the blanks at its end are left off. -/
def lineChars (widths : List ℕ) (cells : List String) : List Char :=
  (" | ".intercalate (List.zipWith pad widths cells)).toList

/-- A line with one column. -/
theorem lineChars_singleton (width : ℕ) (cell : String) :
    lineChars [width] [cell] = cell.toList ++ List.replicate (width - cell.length) ' ' := by
  simp [lineChars, toList_pad]

/-- A line with more columns. -/
theorem lineChars_cons_cons (width next : ℕ) (widths : List ℕ) (cell other : String)
    (cells : List String) :
    lineChars (width :: next :: widths) (cell :: other :: cells) =
      cell.toList ++ List.replicate (width - cell.length) ' ' ++ [' ', '|', ' '] ++
        lineChars (next :: widths) (other :: cells) := by
  simp only [lineChars, String.toList_intercalate, List.zipWith_cons_cons, List.map_cons,
    List.intercalate_cons_cons, toList_pad]
  rfl

/-- Cells that fit are laid out with the bars where the widths put them. -/
theorem laidOut_lineChars {cells : List String} {widths : List ℕ} (fits : Fits cells widths)
    (nonempty : cells ≠ []) (start : ℕ) :
    LaidOut start (barsFrom start widths) cells (lineChars widths cells) := by
  induction fits generalizing start with
  | nil => exact absurd rfl nonempty
  | @cons cell width cells widths room rest ih =>
    cases rest with
    | nil =>
      rw [lineChars_singleton]
      exact .last start cell _
    -- the cell and its spaces are as wide as the column, so the next one begins where it should
    | cons =>
      rw [lineChars_cons_cons, barsFrom]
      exact .next (by omega) (ih (List.cons_ne_nil _ _) _)

/-- There is no cross among dashes. -/
theorem idxsOf_dashes (width start : ℕ) :
    (List.replicate width '-').idxsOf '+' start = [] := by
  refine List.idxsOf_eq_nil_iff.2 fun c member => ?_
  rw [List.eq_of_mem_replicate member]
  rfl

/-- A rule for more than one column. -/
theorem toList_rule_cons_cons (width next : ℕ) (rest : List ℕ) :
    (rule (width :: next :: rest)).toList =
      List.replicate width '-' ++ ['-', '+', '-'] ++ (rule (next :: rest)).toList := by
  simp [rule, repeated, String.toList_intercalate]

/-- In a rule the crosses stand where bars do. -/
theorem idxsOf_rule (widths : List ℕ) (start : ℕ) :
    (rule widths).toList.idxsOf '+' start = barsFrom start widths := by
  induction widths generalizing start with
  | nil => rfl
  | cons width rest ih =>
    cases rest with
    | nil => simp [rule, repeated, barsFrom, idxsOf_dashes]
    | cons next rest =>
      rw [toList_rule_cons_cons, List.idxsOf_append, List.idxsOf_append, idxsOf_dashes, ih,
        barsFrom]
      simp [List.idxsOf_cons, Nat.add_assoc]

end Table

/-- The bars are among the characters that are laid out, counted from the offset where these
begin. -/
theorem LaidOut.getElem?_bar {start : ℕ} {bars : List ℕ} {cells : List String} {cs : List Char}
    (laidOut : LaidOut start bars cells cs) :
    ∀ bar ∈ bars, ∃ offset, bar = start + offset ∧ cs[offset]? = some '|' := by
  induction laidOut with
  | last => exact nofun
  | @next start spaces bar bars cell cells rest here later ih =>
    -- offsets are counted from the end of the cell with its spaces
    have skip : ∀ n, (cell.toList ++ List.replicate spaces ' ' ++ [' ', '|', ' '] ++ rest)[
        cell.length + spaces + n]? = (' ' :: '|' :: ' ' :: rest)[n]? := by
      intro n
      have front : (cell.toList ++ List.replicate spaces ' ').length = cell.length + spaces := by
        rw [List.length_append, List.length_replicate, String.length_toList]
      rw [List.append_assoc, ← front, List.getElem?_append_right (Nat.le_add_right _ _),
        Nat.add_sub_cancel_left]
      rfl
    refine List.forall_mem_cons.2 ⟨⟨cell.length + spaces + 1, by omega, skip 1⟩, ?_⟩
    intro other member
    obtain ⟨offset, there, found⟩ := ih other member
    exact ⟨cell.length + spaces + (offset + 3), by omega, (skip (offset + 3)).trans found⟩

namespace Table

/-- The characters of a line are those of its cells and bars, without the blanks at the end. -/
theorem toList_line (widths : List ℕ) (cells : List String) :
    (line widths cells).toList = Text.dropBlankEnd (lineChars widths cells) := by
  rw [line, Text.trimEnd, String.toList_ofList, lineChars]

/-- In a line of cells that fit, the bars stand where the crosses of the rule do, and no cell is cut
short but for blanks at the end. -/
theorem aligned_line {cells : List String} {widths : List ℕ} (fits : Fits cells widths)
    (nonempty : cells ≠ []) :
    Aligned ((rule widths).toList.idxsOf '+') cells (line widths cells) := by
  obtain ⟨blanks, blank, split⟩ := Text.exists_blanks (lineChars widths cells)
  rw [← toList_line] at split
  have laidOut := laidOut_lineChars fits nonempty 0
  rw [← idxsOf_rule widths 0, ← split] at laidOut
  refine ⟨⟨blanks, blank, laidOut⟩, fun bar member => ?_⟩
  obtain ⟨offset, here, found⟩ := laidOut.getElem?_bar bar member
  rw [Nat.zero_add] at here
  subst here
  -- a bar is no blank, so it was not left off
  by_cases within : bar < (line widths cells).toList.length
  · rwa [List.getElem?_append_left within] at found
  · rw [List.getElem?_append_right (by omega)] at found
    exact absurd (blank '|' (List.mem_of_getElem? found)) (by decide)

end Table

/-! ## Line feeds -/

/-- Whether some cells make one line: there is a line feed in none of them, but among the blanks at
the end of the last one. -/
def OneLine : List String → Prop
  | [] => True
  | [last] => '\n' ∉ Text.dropBlankEnd last.toList
  | cell :: next :: rest => '\n' ∉ cell.toList ∧ OneLine (next :: rest)

instance decidableOneLine : (cells : List String) → Decidable (OneLine cells)
  | [] => isTrue trivial
  | [last] => inferInstanceAs (Decidable ('\n' ∉ Text.dropBlankEnd last.toList))
  | _ :: next :: rest =>
    have := decidableOneLine (next :: rest)
    inferInstanceAs (Decidable (_ ∧ _))

/-- Cells without line feeds make one line. -/
theorem OneLine.of_forall {cells : List String} (single : ∀ cell ∈ cells, '\n' ∉ cell.toList) :
    OneLine cells := by
  induction cells with
  | nil => trivial
  | cons cell rest ih =>
    obtain ⟨first, others⟩ := List.forall_mem_cons.1 single
    cases rest with
    | nil =>
      obtain ⟨blanks, -, split⟩ := Text.exists_blanks cell.toList
      rw [← split] at first
      exact fun member => first (List.mem_append_left _ member)
    | cons => exact ⟨first, ih others⟩

namespace Table

/-- A line of cells that fit has no line feed just if the cells make one line. -/
theorem lineFeed_notMem_line_iff {cells : List String} {widths : List ℕ}
    (fits : Fits cells widths) : '\n' ∉ (line widths cells).toList ↔ OneLine cells := by
  rw [toList_line]
  induction fits with
  | nil => simp [lineChars, OneLine, Text.dropBlankEnd]
  | @cons cell width cells widths room rest ih =>
    cases rest with
    | nil => rw [lineChars_singleton, Text.dropBlankEnd_append_spaces, OneLine]
    -- the bar after the cell is no blank, so blanks are left off only after it
    | @cons other next cells widths =>
      have bar : lineChars (width :: next :: widths) (cell :: other :: cells) =
          (cell.toList ++ List.replicate (width - cell.length) ' ' ++ [' ']) ++
            '|' :: ' ' :: lineChars (next :: widths) (other :: cells) := by
        rw [lineChars_cons_cons]
        simp
      rw [bar, Text.dropBlankEnd_append_cons (by decide), OneLine, ← ih]
      simp [Text.mem_dropBlankEnd_space]

end Table

/-! ## The page of a stage -/

/-- There is no line feed in a title. -/
theorem StageForm.lineFeed_notMem_title :
    ∀ form ∈ StageForm.all, '\n' ∉ form.title.toList ∧ '\n' ∉ form.subtitle.toList := by
  decide +kernel

/-- A table has columns, and there is no line feed in their labels. -/
theorem StageView.lineFeed_notMem_label (view : StageView) :
    ∀ form ∈ StageForm.all, view.columns form ≠ [] ∧
      ∀ label ∈ view.columns form, '\n' ∉ label.toList := by
  cases view <;> decide +kernel

/-- There is no line feed in a number. -/
theorem lineFeed_notMem_toString (n : ℕ) : '\n' ∉ (toString n).toList := by
  rw [Nat.toString_eq_repr, Nat.repr_eq_ofList_toDigits, String.toList_ofList]
  exact fun member => absurd (isDigit_toDigits n _ member) (by decide)

/-- There is no line feed in a rule. -/
theorem Table.lineFeed_notMem_rule (widths : List ℕ) : '\n' ∉ (rule widths).toList := by
  induction widths with
  | nil => simp [rule]
  | cons width rest ih =>
    cases rest with
    | nil => simp [rule, repeated]
    | cons next rest =>
      rw [toList_rule_cons_cons]
      simp [ih]

namespace StageView

variable {view : StageView} {form : StageForm} {tracker : Tracker} {stage : Stage} {search : String}

/-- The page of a stage at which there are orders: a title, their number, and their table. -/
theorem lines_eq (formed : StageForm.of? stage = some form)
    (matching : view.items tracker stage search ≠ []) :
    view.lines form search tracker =
      (form.title ++ " (" ++ form.subtitle ++ ")") ::
        (toString (view.items tracker stage search).length ++ " " ++ view.name ++ " records") ::
          (Table.ofItems (view.columns form) (view.items tracker stage search)).lines := by
  have same : form.stage = stage := StageForm.stage_of_of? formed
  rw [lines, same, tableLines, if_neg (by simpa using matching)]

/-- The columns of such a page have room for its header and for the cells of all orders. -/
theorem fits_widths (view : StageView) (form : StageForm) (items : List Item) :
    Fits (view.columns form) (Table.ofItems (view.columns form) items).widths ∧
      ∀ item ∈ items, Fits ((view.columns form).map item.cell)
        (Table.ofItems (view.columns form) items).widths := by
  have same : ∀ row ∈ (Table.ofItems (view.columns form) items).rows,
      row.length = (Table.ofItems (view.columns form) items).header.length := by
    simp [Table.ofItems]
  obtain ⟨header, rows⟩ := Table.fits_widths same
  exact ⟨header, fun item member => rows _ (List.mem_map_of_mem member)⟩

/-- Its lines have no line feeds just if the cells of each order make one line. -/
theorem forall_lines_iff (formed : StageForm.of? stage = some form)
    (matching : view.items tracker stage search ≠ []) :
    (∀ line ∈ (view.lines form search tracker).map String.toList, '\n' ∉ line) ↔
      ∀ item ∈ view.items tracker stage search, OneLine ((view.columns form).map item.cell) := by
  have known := StageForm.mem_all_of_of? formed
  obtain ⟨title, subtitle⟩ := StageForm.lineFeed_notMem_title form known
  obtain ⟨-, labels⟩ := view.lineFeed_notMem_label form known
  obtain ⟨header, rows⟩ := view.fits_widths form (view.items tracker stage search)
  have first := (Table.lineFeed_notMem_line_iff header).2 (.of_forall labels)
  have number := lineFeed_notMem_toString (view.items tracker stage search).length
  have name : '\n' ∉ view.name.toList := by cases view <;> decide
  rw [lines_eq formed matching, Table.lines]
  simp only [List.forall_mem_map, List.forall_mem_cons, Table.ofItems]
  constructor
  · rintro ⟨-, -, -, -, orders⟩ item member
    exact (Table.lineFeed_notMem_line_iff (rows item member)).1 (orders item member)
  · intro single
    refine ⟨by simp [title, subtitle], by simpa [name] using number, first,
      Table.lineFeed_notMem_rule _, fun item member => ?_⟩
    exact (Table.lineFeed_notMem_line_iff (rows item member)).2 (single item member)

/-- The output is its lines with line feeds between them. -/
theorem toList_output (lines : List String) :
    (Reply.report lines).output.toList = ['\n'].intercalate (lines.map String.toList) := by
  rw [Reply.report, String.toList_intercalate]
  rfl

/-- The output has one line for each order and four more just if the cells of each order make one
line. -/
theorem length_splitOn_output_iff (formed : StageForm.of? stage = some form)
    (matching : view.items tracker stage search ≠ []) :
    ((Reply.report (view.lines form search tracker)).output.toList.splitOn '\n').length =
        (view.items tracker stage search).length + 4 ↔
      ∀ item ∈ view.items tracker stage search, OneLine ((view.columns form).map item.cell) := by
  have whole := lines_eq formed matching
  have count : ((view.lines form search tracker).map String.toList).length =
      (view.items tracker stage search).length + 4 := by
    simp [whole, Table.lines, Table.ofItems]
  have nonempty : (view.lines form search tracker).map String.toList ≠ [] := by simp [whole]
  rw [toList_output, ← count, length_splitOn_intercalate_eq_iff _ nonempty]
  exact forall_lines_iff formed matching

/-- The page of a stage at which there are orders has a title, their number, a header, a rule and a
line for each of the orders, as they come. In the header and in the lines of the orders, the bars
stand where the crosses of the rule do, and no cell is cut short but for blanks at the end. The
output consists of just these lines if the cells of each order make one line, and of more lines
otherwise. -/
theorem page_is_aligned (formed : StageForm.of? stage = some form)
    (matching : view.items tracker stage search ≠ []) :
    ∃ header rule rows,
      view.lines form search tracker =
        (form.title ++ " (" ++ form.subtitle ++ ")") ::
          (toString (view.items tracker stage search).length ++ " " ++ view.name ++ " records") ::
            header :: rule :: rows ∧
      Aligned (rule.toList.idxsOf '+') (view.columns form) header ∧
      List.Forall₂
        (fun item row => Aligned (rule.toList.idxsOf '+') ((view.columns form).map item.cell) row)
        (view.items tracker stage search) rows ∧
      (((Reply.report (view.lines form search tracker)).output.toList.splitOn '\n').length =
          (view.items tracker stage search).length + 4 ↔
        ∀ item ∈ view.items tracker stage search, OneLine ((view.columns form).map item.cell)) ∧
      ((∀ item ∈ view.items tracker stage search, OneLine ((view.columns form).map item.cell)) →
        (Reply.report (view.lines form search tracker)).output.toList.splitOn '\n' =
          (view.lines form search tracker).map String.toList) := by
  obtain ⟨nonempty, -⟩ := view.lineFeed_notMem_label form (StageForm.mem_all_of_of? formed)
  obtain ⟨header, rows⟩ := view.fits_widths form (view.items tracker stage search)
  have whole := lines_eq formed matching
  refine ⟨_, _, _, whole, Table.aligned_line header nonempty, ?_,
    length_splitOn_output_iff formed matching, fun single => ?_⟩
  · simp only [Table.ofItems, List.forall₂_map_right_iff, List.forall₂_same]
    exact fun item member => Table.aligned_line (rows item member) (by simpa using nonempty)
  · rw [toList_output]
    refine List.splitOn_intercalate _ ((forall_lines_iff formed matching).2 single) ?_
    simp [whole]

/-- Two orders that are followed up, the second one with a line feed in its remark. -/
def annotated : Tracker where
  items :=
    [{ id := ⟨"LEAD-1"⟩, customerName := "Amit Sharma", phone := "9000000001",
        siteLocation := "Mumbai", requirement := some "blue doors" },
      { id := ⟨"LEAD-10"⟩, customerName := "Priya", phone := "9000000002",
        siteLocation := "Delhi", attributes := { remark := some "ring\ntwice" } }]

/-- The table of pending orders has no column for remarks, so the page has its six lines. -/
theorem page_is_aligned_annotated :
    StageView.items .pending annotated .followup "" ≠ [] ∧
      ((Reply.report (StageView.lines .pending StageForm.followupForm "" annotated)
        ).output.toList.splitOn '\n').length = 6 := by
  have listed : StageView.items .pending annotated .followup "" = annotated.items := by
    simp [items, Tracker.pendingItems, annotated]
  have matching : StageView.items .pending annotated .followup "" ≠ [] := by
    rw [listed]
    exact List.cons_ne_nil _ _
  have single : ∀ item ∈ annotated.items,
      OneLine ((StageView.columns .pending StageForm.followupForm).map item.cell) := by
    decide +kernel
  obtain ⟨header, rule, rows, -, -, -, counted, -⟩ := page_is_aligned (by rfl) matching
  rw [listed] at counted
  exact ⟨matching, counted.2 single⟩

/-- What is typed into fields of which one may have several lines. -/
def severalLines : Attributes :=
  { status := some .orderReceived, notes := some "wants blue\nby May" }

/-- An order that was submitted with it. -/
def submitted : Tracker where
  items :=
    [{ id := ⟨"LEAD-1"⟩, customerName := "Amit Sharma", phone := "9000000001",
        siteLocation := "Mumbai", stage := .stock,
        logs := [⟨.followup, .epoch, severalLines⟩], attributes := severalLines }]

/-- The form takes the text, and the page with this order alone does not have five lines, as one of
them goes on in another. -/
theorem broken_line_submitted :
    Submission.read .followup ["status=order_received", "notes=wants blue\nby May"] =
        .ok severalLines ∧
      (StageView.items .history submitted .followup "").length = 1 ∧
      ((Reply.report (StageView.lines .history StageForm.followupForm "" submitted)
        ).output.toList.splitOn '\n').length ≠ 1 + 4 := by
  have listed : StageView.items .history submitted .followup "" = submitted.items := by
    simp [items, Tracker.historyItems, Item.hasLogFor, submitted]
  have matching : StageView.items .history submitted .followup "" ≠ [] := by
    rw [listed]
    exact List.cons_ne_nil _ _
  have broken : ¬ ∀ item ∈ submitted.items,
      OneLine ((StageView.columns .history StageForm.followupForm).map item.cell) := by
    decide +kernel
  have counted := length_splitOn_output_iff (by rfl) matching
  rw [listed] at counted
  exact ⟨by rfl, congrArg List.length listed, mt counted.1 broken⟩

end StageView

end OrderPipeline
