import TableTalk.Database.Opening
import TableTalk.Database.Storage.Declaration
import TableTalk.Database.Storage.Record
import TableTalk.Database.Storage.Tree

/-!
# Database files

The tables of a database file. The first page leads to the list of all tables, with
the page where each of them starts and the statement that made it. Only the file
itself is read, without the log of changes that may lie beside it and without its
indexes: rows that an order leaves open come in the order of their numbers.
-/

namespace TableTalk.Database.Storage

set_option autoImplicit false

/-- A stored row as the table shows it. Columns that were added later are null in
older rows, and reals without a fraction are stored as integers. -/
def Declaration.row (declaration : Declaration) (number : Int) (cells : List Cell) : Row :=
  (declaration.columns.zipIdx).map fun (column, index) =>
    let cell := cells.getD index .null
    if declaration.rowNumber? = some index then .integer number
    else if column.affinity = some .real then cell.toReal
    else cell

def tableOfEntry? (pages : Pages) : List Cell → Option StoredTable
  | [.text "table", .text name, _, .integer root, .text statement] =>
      let declaration := Declaration.ofStatement statement
      some {
        name
        columns := declaration.columns
        rows := (pages.rows root.toNat).map fun (number, bytes) =>
          declaration.row number (cellsOf bytes) }
  | _ => none

def contentsOfPages (pages : Pages) : Contents :=
  { tables := (pages.rows 1).filterMap fun (_, bytes) => tableOfEntry? pages (cellsOf bytes) }

def openFile (file : ByteArray) : Opening :=
  if file.isEmpty then .contents {}
  else match Pages.ofFile? file with
    | some pages => .contents (contentsOfPages pages)
    | none => .damaged

end TableTalk.Database.Storage
