import TableTalk.Catalog.Basic
import TableTalk.Database.Cell

/-!
# Stored tables

The tables of a database and the rows in them, in the order in which they were
inserted. Names are looked up in any case of the letters `a` to `z`.
-/

namespace TableTalk.Database

set_option autoImplicit false

structure StoredColumn where
  name : String
  /-- What the column prefers to hold, if anything. -/
  affinity : Option Affinity
  deriving Repr, DecidableEq, Inhabited

def StoredColumn.store (column : StoredColumn) (cell : Cell) : Cell :=
  match column.affinity with
  | some affinity => affinity.store cell
  | none => cell

structure StoredTable where
  name : String
  columns : List StoredColumn
  rows : List (List Cell) := []
  deriving Inhabited

/-- A table with the columns of a catalog table and some rows. -/
def StoredTable.ofRows (table : Catalog.Table) (rows : List (List Cell)) : StoredTable :=
  let columns := table.columns.map fun column =>
    { name := column.name, affinity := some (Affinity.ofType column.type) : StoredColumn }
  { name := table.name
    columns
    rows := rows.map fun row =>
      (columns.zip row).map fun (column, cell) => column.store cell }

def StoredTable.columnIndex? (table : StoredTable) (name : String) : Option Nat :=
  table.columns.findIdx? fun column => Text.equalAsciiCase column.name name

structure Contents where
  tables : List StoredTable := []
  deriving Inhabited

def Contents.table? (contents : Contents) (name : String) : Option StoredTable :=
  contents.tables.find? fun table => Text.equalAsciiCase table.name name

end TableTalk.Database
