import TableTalk.Proofs.Database.Order
import TableTalk.Proofs.Outcome
import TableTalk.Proofs.Text.AsciiCase

/-!
# Stored columns

The columns of a table are found by their names, if no two of these are alike up to case, and a
TEXT column holds no numbers. So comparing it with a text is comparing byte by byte. A stored table
may have more columns than the table that it is described by, and in another order.
-/

namespace TableTalk.Database

open TableTalk.Sql
open TableTalk.Text

set_option autoImplicit false

/-- The cells of TEXT columns. -/
inductive Cell.Textual : Cell → Prop where
  | null : Textual .null
  | text (s : String) : Textual (.text s)
  | blob (bytes : List UInt8) : Textual (.blob bytes)

def StoredTable.value (table : StoredTable) (name : String) (row : Row) : Cell :=
  ((table.columnIndex? name).map fun index => row.getD index .null).getD .null

def StoredTable.column? (table : StoredTable) (name : String) : Option StoredColumn :=
  (table.columnIndex? name).bind fun index => table.columns[index]?

/-- A name finds a TEXT column of just this name, which holds what such columns hold. -/
structure StoredTable.HasText (table : StoredTable) (name : String) : Prop where
  found : table.column? name = some ⟨name, some .text⟩
  textual : ∀ row ∈ table.rows, (table.value name row).Textual

/-- A table into whose columns these rows have been put. -/
def StoredTable.ofColumns (name : String) (columns : List StoredColumn) (rows : List Row) :
    StoredTable where
  name := name
  columns := columns
  rows := rows.map fun row => (columns.zip row).map fun (column, cell) => column.store cell

/-- A database has a table of this name, which has these columns among its own. No two of its
columns are alike up to case, and what stands in them has been put into them. -/
structure Contents.Holds (contents : Contents) (table : Catalog.Table) (stored : StoredTable) :
    Prop where
  found : contents.table? table.name = some stored
  columns : ∀ column ∈ table.columns,
    ⟨column.name, some (.ofType column.type)⟩ ∈ stored.columns
  apart : stored.columns.Pairwise fun earlier later => ¬equalAsciiCase earlier.name later.name
  filled : ∀ row ∈ stored.rows, ∀ place column, stored.columns[place]? = some column →
    ∃ cell, row.getD place .null = column.store cell

/-! ## Cells of TEXT columns -/

theorem textual_exact {cell : Cell} (textual : cell.Textual) : ¬cell.isReal := by
  cases textual with
  | _ => exact Bool.false_ne_true

theorem text_store_textual (cell : Cell) : (Affinity.text.store cell).Textual := by
  cases cell with
  | null => exact .null
  | integer n => exact .text _
  | real x => exact .text _
  | text s => exact .text s
  | blob bytes => exact .blob bytes

theorem equal_to_text {cell : Cell} (textual : cell.Textual) (text : String) :
    operate .equal (some .text) cell (.text text) = some true ↔ cell = .text text := by
  cases textual with
  | null => simp [operate, compareUnder, Affinity.aligned, Cell.toText, Cell.isNull]
  | text s => simp [operate, compareUnder, Affinity.aligned, Cell.toText, Cell.isNull, Cell.compare]
  | blob bytes =>
      simp [operate, compareUnder, Affinity.aligned, Cell.toText, Cell.isNull, Cell.compare]

/-! ## Columns of stored tables -/

section

variable {table : StoredTable} {name : String}

theorem index_of_column {column : StoredColumn} (found : table.column? name = some column) :
    ∃ index, table.columnIndex? name = some index ∧ table.columns[index]? = some column :=
  Option.bind_eq_some_iff.mp found

theorem scalar_column {scope : Scope} {column : StoredColumn}
    (found : scope.table.column? name = some column) (row : Row) :
    scope.scalar row (.column name) = .ok (scope.table.value name row) := by
  obtain ⟨index, known, _⟩ := index_of_column found
  simp [Scope.scalar, StoredTable.value, known]

theorem affinity_of_text {scope : Scope} (column : scope.table.HasText name) :
    scope.affinity? (.column name) = some .text := by
  obtain ⟨index, known, listed⟩ := index_of_column column.found
  simp [Scope.affinity?, known, listed]

end

section

variable {contents : Contents} {table : Catalog.Table} {stored : StoredTable}
variable {column : Catalog.Column}

theorem held_column_found (holds : contents.Holds table stored)
    (listed : column ∈ table.columns) :
    stored.column? column.name = some ⟨column.name, some (.ofType column.type)⟩ := by
  obtain ⟨before, after, columns⟩ := List.append_of_mem (holds.columns column listed)
  have apart := holds.apart
  rw [columns] at apart
  obtain ⟨_, _, across⟩ := List.pairwise_append.mp apart
  have missed : before.findIdx? (fun other => equalAsciiCase other.name column.name) = none := by
    rw [List.findIdx?_eq_none_iff]
    intro other earlier
    exact Bool.eq_false_iff.mpr (across other earlier _ List.mem_cons_self)
  have index : stored.columnIndex? column.name = some before.length := by
    unfold StoredTable.columnIndex?
    rw [columns, List.findIdx?_append, missed, List.findIdx?_cons,
      if_pos (equal_ascii_case_refl _)]
    simp
  unfold StoredTable.column?
  rw [index, Option.bind_some]
  simp [columns]

theorem held_has_text (holds : contents.Holds table stored) (listed : column ∈ table.columns)
    (isText : column.type = .text) : stored.HasText column.name := by
  have found := held_column_found holds listed
  rw [isText] at found
  refine ⟨found, ?_⟩
  intro row inside
  obtain ⟨index, known, held⟩ := index_of_column found
  obtain ⟨cell, put⟩ := holds.filled row inside index _ held
  simp only [StoredTable.value, known, Option.map_some, Option.getD_some]
  rw [put]
  exact text_store_textual cell

theorem column_store_null (column : StoredColumn) : column.store .null = .null := by
  unfold StoredColumn.store
  cases column.affinity with
  | none => rfl
  | some affinity => cases affinity <;> rfl

theorem of_columns_filled (name : String) (columns : List StoredColumn) (rows : List Row) :
    ∀ row ∈ (StoredTable.ofColumns name columns rows).rows, ∀ place column,
      columns[place]? = some column → ∃ cell, row.getD place .null = column.store cell := by
  intro row listed place column held
  obtain ⟨source, _, rfl⟩ := List.mem_map.mp listed
  rw [List.getD_eq_getElem?_getD, List.getElem?_map]
  cases entry : (columns.zip source)[place]? with
  | none => exact ⟨.null, (column_store_null column).symm⟩
  | some columnAndCell =>
      obtain ⟨same, _⟩ := List.getElem?_zip_eq_some.mp entry
      rw [held] at same
      cases same
      exact ⟨columnAndCell.2, rfl⟩

end

end TableTalk.Database
