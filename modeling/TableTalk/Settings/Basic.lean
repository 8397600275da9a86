import TableTalk.Query.Compiler
import TableTalk.Question.Draft
import TableTalk.Settings.Expansion

/-!
# Settings

Where the schema and the database lie, and the options of the parser and the
compiler. Paths may name variables; they are expanded when they are used.
-/

namespace TableTalk

set_option autoImplicit false

namespace Settings

structure SchemaPlace where
  /-- The directory that the path of the schema is resolved against. -/
  root : String := "."
  path : String := "schema/update.toml"
  /-- The table that questions are asked about. -/
  table : String := "update"
  deriving Repr, DecidableEq, Inhabited

structure DatabasePlace where
  path : Option String := none
  deriving Repr, DecidableEq, Inhabited

end Settings

structure Settings where
  schema : Settings.SchemaPlace := {}
  parser : Question.Options := {}
  compiler : CompileOptions := {}
  database : Settings.DatabasePlace := {}
  deriving Repr, DecidableEq, Inhabited

inductive SettingsError where
  | fileNotFound (path : String)
  | unreadable (reason : String)
  | malformed
  | missingVariable (name : String)
  deriving Repr, DecidableEq, Inhabited

def SettingsError.message : SettingsError → String
  | fileNotFound path => "Config file not found: " ++ path
  | unreadable reason => "Failed to read config file: " ++ reason
  | malformed => "Failed to parse config file"
  | missingVariable name => "Missing environment variable: " ++ name

namespace Settings

open TableTalk.File

variable {m : Type → Type} [Monad m] [Surroundings m]

/-- A path with its variables expanded. -/
def resolve (path : String) : m (Except SettingsError String) := do
  return (← expandHere path).mapError .missingVariable

def resolvedRoot (settings : Settings) : m (Except SettingsError String) :=
  resolve settings.schema.root

def resolvedPath (settings : Settings) : m (Except SettingsError String) :=
  resolve settings.schema.path

def resolvedDatabase (settings : Settings) : m (Except SettingsError (Option String)) :=
  match settings.database.path with
  | none => return .ok none
  | some path => do return (← resolve path).map some

end Settings

end TableTalk
