import TableTalk.Catalog.Basic
import TableTalk.Document.Reading

/-!
# Schemas as document values

How tables and columns are written in documents, and how they are read back.
Types are also read under the names that other databases give them.
-/

namespace TableTalk.Catalog

open TableTalk.Document

set_option autoImplicit false

/-- Other names under which a type is read. -/
def DataType.otherNames : List (String × DataType) := [
  ("STRING", text), ("VARCHAR", text), ("text", text),
  ("INT", integer), ("BIGINT", integer), ("integer", integer),
  ("FLOAT", real), ("DOUBLE", real), ("NUMERIC", real), ("real", real),
  ("date", date),
  ("TIMESTAMP", dateTime), ("datetime", dateTime)]

def DataType.all : List DataType := [text, integer, real, date, dateTime]

def DataType.ofName? (name : String) : Option DataType :=
  match all.find? fun type => type.name == name with
  | some type => some type
  | none => otherNames.lookup name

def DataType.toValue (type : DataType) : Value := .text type.name

def DataType.ofValue? (conventions : Conventions) (value : Value) : Option DataType := do
  let name ← conventions.constant? value
  DataType.ofName? name

def Column.toValue (column : Column) : Value := .record [
  ("name", .text column.name),
  ("data_type", column.type.toValue),
  ("is_primary_key", .bool column.isPrimaryKey),
  ("examples", .texts column.examples)]

def Column.ofValue? (conventions : Conventions) (value : Value) : Option Column := do
  let field ← conventions.fields ["name", "data_type", "is_primary_key", "examples"] value
  return {
    name := ← (field "name").bind readText
    type := ← (field "data_type").bind (DataType.ofValue? conventions)
    isPrimaryKey := ← readField false readBool (field "is_primary_key")
    examples := ← readField [] (readList readText) (field "examples") }

def Table.toValue (table : Table) : Value := .record [
  ("name", .text table.name),
  ("columns", .list (table.columns.map Column.toValue))]

def Table.ofValue? (conventions : Conventions) (value : Value) : Option Table := do
  let field ← conventions.fields ["name", "columns"] value
  return {
    name := ← (field "name").bind readText
    columns := ← readField [] (readList (Column.ofValue? conventions)) (field "columns") }

def Schema.toValue (schema : Schema) : Value := .record [
  ("tables", .list (schema.tables.map Table.toValue))]

def Schema.ofValue? (conventions : Conventions) (value : Value) : Option Schema := do
  let field ← conventions.fields ["tables"] value
  return { tables := ← readField [] (readList (Table.ofValue? conventions)) (field "tables") }

end TableTalk.Catalog
