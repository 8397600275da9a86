import TableTalk.Text.Case

/-!
# Tables and their columns

The declarative description of the table that questions are asked about. The
examples of a column are representative values; they let free text be linked to
the column.
-/

namespace TableTalk.Catalog

open TableTalk.Text

set_option autoImplicit false

inductive DataType where
  | text
  | integer
  | real
  | date
  | dateTime
  deriving Repr, DecidableEq, Inhabited

def DataType.name : DataType → String
  | text => "TEXT"
  | integer => "INTEGER"
  | real => "REAL"
  | date => "DATE"
  | dateTime => "DATETIME"

def DataType.isText (type : DataType) : Bool := type = .text

structure Column where
  name : String
  type : DataType
  isPrimaryKey : Bool := false
  examples : List String := []
  deriving Repr, DecidableEq, Inhabited

/-- The first example that equals `text` up to case, in its own spelling. -/
def Column.exampleMatching (column : Column) (text : String) : Option String :=
  column.examples.find? fun candidate => lower candidate == lower text

structure Table where
  name : String
  columns : List Column := []
  deriving Repr, DecidableEq, Inhabited

def Table.column? (table : Table) (name : String) : Option Column :=
  table.columns.find? fun column => column.name == name

def Table.hasColumn (table : Table) (name : String) : Bool :=
  (table.column? name).isSome

/-- The projection of last resort. -/
def Table.firstColumn? (table : Table) : Option String :=
  table.columns.head?.map Column.name

/-- The flagged column, or the first one if none is flagged. -/
def Table.primaryKey? (table : Table) : Option String :=
  match table.columns.find? Column.isPrimaryKey with
  | some column => some column.name
  | none => table.firstColumn?

def Table.textColumns (table : Table) : List Column :=
  table.columns.filter fun column => column.type.isText

structure Schema where
  tables : List Table := []
  deriving Repr, DecidableEq, Inhabited

def Schema.table? (schema : Schema) (name : String) : Option Table :=
  schema.tables.find? fun table => table.name == name

end TableTalk.Catalog
