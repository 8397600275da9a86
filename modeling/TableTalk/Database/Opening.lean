import TableTalk.Database.Execution
import TableTalk.Database.Location

/-!
# Opening databases
-/

namespace TableTalk.Database

set_option autoImplicit false

inductive Opening where
  /-- There is none, for some reason. -/
  | failed (reason : String)
  /-- The file is no database, which shows as soon as it is used. -/
  | damaged
  | contents (contents : Contents)
  deriving Inhabited

/-- Directories can be opened for reading, but they cannot be read. -/
def Opening.ofDirectory? (access : Access) : Option Opening :=
  if access = .readOnly then some (.failed "disk I/O error") else none

class Databases (m : Type → Type) where
  /-- What comes of opening a file, if that is possible. -/
  openFile? : String → Access → m (Option Opening)

def openDatabase {m : Type → Type} [Monad m] [Databases m] (name : String) : m Opening := do
  match Location.ofName name with
  | .error error => return .failed error.message
  | .ok .memory => return .contents {}
  | .ok (.file path access) =>
      return (← Databases.openFile? path access).getD
        (.failed ("unable to open database file: " ++ name))

end TableTalk.Database
