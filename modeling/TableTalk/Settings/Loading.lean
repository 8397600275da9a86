import TableTalk.Document.Toml.Parser
import TableTalk.File.Path
import TableTalk.Settings.Document

/-!
# Loading settings

Settings are read from a TOML file. It is the one that is asked for; or else the
one that a variable names, the one in the working directory, or the one of the
user. Without any of them all settings have their defaults.
-/

namespace TableTalk.Settings

open TableTalk.File

set_option autoImplicit false

def parse (document : String) : Except SettingsError Settings :=
  match (Document.Toml.parse? document).bind (ofValue? Document.Toml.conventions) with
  | some settings => .ok settings
  | none => .error .malformed

def ofFile (path : String) : State → Except SettingsError Settings
  | .absent => .error (.fileNotFound path)
  | .unreadable reason => .error (.unreadable reason)
  | .text content => parse content

def fileVariable : String := "NLQUERY_CONFIG"

def localFile : String := "nlquery.toml"

def userFile (directory : String) : String := join (join directory "nlquery") "config.toml"

variable {m : Type → Type} [Monad m] [Surroundings m]

def load (path : String) : m (Except SettingsError Settings) := do
  return ofFile path (← Surroundings.file path)

/-- The settings of the first of the files that is present. -/
def loadFirst : List String → m (Except SettingsError Settings)
  | [] => return .ok {}
  | path :: rest => do
      let state ← Surroundings.file path
      if state.isPresent then return ofFile path state else loadFirst rest

def loadDefault : m (Except SettingsError Settings) := do
  match ← Surroundings.valueOf? fileVariable with
  | some path => load path
  | none =>
      let directory ← Surroundings.userDirectory?
      loadFirst (localFile :: directory.toList.map userFile)

end TableTalk.Settings
