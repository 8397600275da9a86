import TableTalk.Catalog.Document
import TableTalk.Catalog.Validation
import TableTalk.Document.Json.Parser
import TableTalk.Document.Toml.Parser
import TableTalk.File.Path
import TableTalk.File.Surroundings

/-!
# Loading schemas

A schema is a TOML or JSON document; the extension of its file says which. Its
path is resolved against a root directory.
-/

namespace TableTalk.Catalog

open TableTalk.File

set_option autoImplicit false

inductive Format where
  | toml
  | json
  deriving Repr, DecidableEq, Inhabited

def Format.ofPath (path : String) : Except SchemaError Format :=
  match (extension? path).getD "" with
  | "toml" => .ok toml
  | "json" => .ok json
  | other => .error (.unsupportedExtension other)

def Format.schema? (format : Format) (document : String) : Option Schema :=
  match format with
  | toml =>
      (Document.Toml.parse? document).bind (Schema.ofValue? Document.Toml.conventions)
  | json =>
      (Document.Json.parse? document).bind (Schema.ofValue? Document.Json.conventions)

/-- The schema of a document. The origin only tells where it came from. -/
def Schema.parse (document : String) (format : Format) (origin : String) :
    Except SchemaError Schema :=
  match format.schema? document with
  | some schema => .ok schema
  | none => .error (.malformed origin)

/-- The schema that a file holds. A file that is not there is missed before its
format is looked at. -/
def Schema.ofFile (path : String) (state : State) : Except SchemaError Schema := do
  match state with
  | .absent => throw (.fileNotFound path)
  | .unreadable reason => do
      let _ ← Format.ofPath path
      throw (.unreadable reason)
  | .text content => do
      let format ← Format.ofPath path
      Schema.parse content format path

variable {m : Type → Type} [Monad m] [Surroundings m]

def Schema.load (root path : String) : m (Except SchemaError Schema) := do
  let place := join root path
  return Schema.ofFile place (← Surroundings.file place)

def Table.load (root path name : String) : m (Except SchemaError Table) := do
  return (← Schema.load root path) >>= fun schema => schema.select name

end TableTalk.Catalog
