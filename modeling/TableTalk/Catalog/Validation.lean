import TableTalk.Catalog.Basic
import TableTalk.Text.Quoted

/-!
# Selecting and checking a table

The one table that questions are asked about is taken from its schema by name.
Only that table is checked.
-/

namespace TableTalk.Catalog

set_option autoImplicit false

inductive SchemaError where
  | fileNotFound (path : String)
  | unsupportedExtension (extension : String)
  | unreadable (reason : String)
  | malformed (origin : String)
  | noTables
  | tableNotFound (name : String)
  | emptyTable (name : String)
  | duplicateColumn (table column : String)
  | multiplePrimaryKeys (table : String) (columns : List String)
  deriving Repr, DecidableEq, Inhabited

def SchemaError.message : SchemaError → String
  | fileNotFound path => "Schema file not found: " ++ path
  | unsupportedExtension extension =>
      "Unsupported schema extension: " ++ extension ++ ". Supported: .toml, .json"
  | unreadable reason => "IO error: " ++ reason
  | malformed origin => "Failed to parse schema " ++ origin
  | noTables => "Schema is empty or not structured correctly: no tables defined"
  | tableNotFound name => "Table '" ++ name ++ "' not found in schema"
  | emptyTable name => "Table '" ++ name ++ "' has no columns"
  | duplicateColumn table column => "Duplicate column '" ++ column ++ "' in table '" ++ table ++ "'"
  | multiplePrimaryKeys table columns =>
      "Table '" ++ table ++ "' declares more than one primary key: " ++ Text.quotedList columns

def firstRepeated (seen : List String) : List String → Option String
  | [] => none
  | name :: rest =>
      if seen.contains name then some name else firstRepeated (name :: seen) rest

/-- A table needs columns of distinct names and at most one primary key. -/
def Table.validate (table : Table) : Except SchemaError Unit :=
  if table.columns.isEmpty then .error (.emptyTable table.name)
  else match firstRepeated [] (table.columns.map Column.name) with
    | some column => .error (.duplicateColumn table.name column)
    | none =>
        let keys := (table.columns.filter Column.isPrimaryKey).map Column.name
        if 1 < keys.length then .error (.multiplePrimaryKeys table.name keys) else .ok ()

def Schema.select (schema : Schema) (name : String) : Except SchemaError Table :=
  if schema.tables.isEmpty then .error .noTables
  else match schema.table? name with
    | none => .error (.tableNotFound name)
    | some table => do
        table.validate
        return table

end TableTalk.Catalog
