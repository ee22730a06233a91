import OrderPipeline.Column
import OrderPipeline.Form.Catalogue
import OrderPipeline.Tracker

/-!
# Tables of orders

A `Table` has a header and rows. Every column is as wide as its widest cell, counted in characters;
cells are filled up with blanks, and the blanks at the end of a line are left off.

`StageView.lines` is the page of a stage: a title, how many orders there are, and their table. The
labels of the columns and the labels of the form fields are two lists. `Property.ofLabel?_label`
says that they agree: a column that is labelled as a field of a form shows the attribute that the
field holds, and so does the cell of every order (`Item.cell_label`).
-/

namespace OrderPipeline

/-- A table: the labels of its columns and its rows. -/
structure Table where
  /-- The labels of the columns. -/
  header : List String
  /-- The rows, with a cell for every column. -/
  rows : List (List String)
  deriving DecidableEq

namespace Table

/-- A text many times over. -/
def repeated (c : Char) (times : Nat) : String := String.ofList (List.replicate times c)

/-- A cell filled up with blanks to a width. -/
def pad (width : Nat) (cell : String) : String := cell ++ repeated ' ' (width - cell.length)

/-- The widths of columns that are wide enough for some cells more. -/
def widen (widths : List Nat) (cells : List String) : List Nat :=
  List.zipWith max widths (cells.map String.length)

/-- The widths of the columns. -/
def widths (table : Table) : List Nat :=
  table.rows.foldl widen (table.header.map String.length)

/-- A line of cells. -/
def line (widths : List Nat) (cells : List String) : String :=
  Text.trimEnd (" | ".intercalate (List.zipWith pad widths cells))

/-- The line under the header. -/
def rule (widths : List Nat) : String := "-+-".intercalate (widths.map (repeated '-'))

/-- The lines of a table. -/
def lines (table : Table) : List String :=
  let widths := table.widths
  line widths table.header :: rule widths :: table.rows.map (line widths)

/-- A table of orders with given columns. -/
def ofItems (columns : List String) (items : List Item) : Table :=
  ⟨columns, items.map fun item => columns.map item.cell⟩

end Table

/-- Which orders of a stage are listed. -/
inductive StageView where
  /-- The orders that stand at it. -/
  | pending
  /-- The orders that have passed it. -/
  | history
  deriving DecidableEq

namespace StageView

/-- The name of a view. -/
def name : StageView → String
  | pending => "pending"
  | history => "history"

/-- The columns of a view. -/
def columns (view : StageView) (form : StageForm) : List String :=
  match view with
  | pending => form.pendingColumns
  | history => form.historyColumns

/-- The orders of a view that fit a search term. -/
def items (view : StageView) (tracker : Tracker) (stage : Stage) (search : String) : List Item :=
  match view with
  | pending => tracker.pendingItems stage search
  | history => tracker.historyItems stage search

/-- The table of some orders, or the words that stand in its place. -/
def tableLines (columns : List String) (items : List Item) : List String :=
  if items.isEmpty then ["no records"] else (Table.ofItems columns items).lines

/-- The lines of the page of a stage. -/
def lines (view : StageView) (form : StageForm) (search : String) (tracker : Tracker) :
    List String :=
  let items := view.items tracker form.stage search
  (form.title ++ " (" ++ form.subtitle ++ ")") ::
    (toString items.length ++ " " ++ view.name ++ " records") ::
    tableLines (view.columns form) items

end StageView

/-! ## Columns of the fields of a form -/

/-- The label of a field names the attribute that the field holds. -/
theorem Property.ofLabel?_label :
    ∀ form ∈ StageForm.all, ∀ own ∈ form.fields,
      Property.ofLabel? own.label = some (.field own.field) := by
  decide +kernel

/-- A column that is labelled as a field shows the value of its attribute, and a dash if there is
none. -/
theorem Item.cell_label {stage : Stage} {form : StageForm} {own : FormField}
    (formed : StageForm.of? stage = some form) (member : own ∈ form.fields) (item : Item) :
    item.cell own.label = ((item.attributes.get own.field).map own.field.type.cell).getD "-" := by
  have named := Property.ofLabel?_label form (StageForm.mem_all_of_of? formed) own member
  rw [Item.cell, named]
  rfl

end OrderPipeline
