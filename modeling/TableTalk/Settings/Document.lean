import TableTalk.Query.Document
import TableTalk.Question.Document
import TableTalk.Settings.Basic

/-!
# Settings as document values
-/

namespace TableTalk

open TableTalk.Document

set_option autoImplicit false

namespace Settings

def SchemaPlace.toValue (place : SchemaPlace) : Value := .record [
  ("root", .text place.root),
  ("path", .text place.path),
  ("table", .text place.table)]

def SchemaPlace.ofValue? (conventions : Conventions) (value : Value) : Option SchemaPlace := do
  let field ← conventions.fields ["root", "path", "table"] value
  let given : SchemaPlace := {}
  return {
    root := ← readField given.root readText (field "root")
    path := ← readField given.path readText (field "path")
    table := ← readField given.table readText (field "table") }

def DatabasePlace.toValue (place : DatabasePlace) : Value := .record [
  ("path", .optional .text place.path)]

def DatabasePlace.ofValue? (conventions : Conventions) (value : Value) :
    Option DatabasePlace := do
  let field ← conventions.fields ["path"] value
  return { path := ← readField none (readNullable readText) (field "path") }

def toValue (settings : Settings) : Value := .record [
  ("catalog", settings.schema.toValue),
  ("parser", settings.parser.toValue),
  ("compiler", settings.compiler.toValue),
  ("database", settings.database.toValue)]

def ofValue? (conventions : Conventions) (value : Value) : Option Settings := do
  let field ← conventions.fields ["catalog", "parser", "compiler", "database"] value
  return {
    schema := ← readField {} (SchemaPlace.ofValue? conventions) (field "catalog")
    parser := ← readField {} (Question.Options.ofValue? conventions) (field "parser")
    compiler := ← readField {} (CompileOptions.ofValue? conventions) (field "compiler")
    database := ← readField {} (DatabasePlace.ofValue? conventions) (field "database") }

end Settings

end TableTalk
