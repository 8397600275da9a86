import TableTalk.Catalog.Loading
import TableTalk.Engine.Basic
import TableTalk.Settings.Basic

/-!
# The engine of some settings
-/

namespace TableTalk

open TableTalk.File

set_option autoImplicit false

inductive EngineError where
  | settings (error : SettingsError)
  | schema (error : Catalog.SchemaError)
  deriving Repr, DecidableEq, Inhabited

def EngineError.message : EngineError → String
  | settings error => error.message
  | schema error => error.message

/-- Loads the table that the settings name. The variables of the root are expanded
before those of the path. -/
def Engine.ofSettings {m : Type → Type} [Monad m] [Surroundings m] (settings : Settings) :
    m (Except EngineError Engine) := do
  match ← settings.resolvedRoot, ← settings.resolvedPath with
  | .error error, _ => return .error (.settings error)
  | _, .error error => return .error (.settings error)
  | .ok root, .ok path =>
      match ← Catalog.Table.load root path settings.schema.table with
      | .error error => return .error (.schema error)
      | .ok table =>
          return .ok { table, parser := settings.parser, compiler := settings.compiler }

end TableTalk
