/-!
# The surroundings of a program

What a program may ask for while it runs: variables and the state of files.
-/

namespace TableTalk.File

set_option autoImplicit false

inductive State where
  | absent
  /-- A directory, or a file that does not hold UTF-8 text, with the reason why it
  cannot be read. -/
  | unreadable (reason : String)
  | text (content : String)
  deriving Repr, DecidableEq, Inhabited

def State.isPresent : State → Bool
  | absent => false
  | _ => true

def directoryReason : String := "Is a directory (os error 21)"

/-- The reason why a file of other bytes than UTF-8 text cannot be read. -/
def encodingReason : String := "stream did not contain valid UTF-8"

class Surroundings (m : Type → Type) where
  /-- The value of a variable, if it is set. -/
  valueOf? : String → m (Option String)
  file : String → m State
  /-- Where the settings of the user lie, if that is known. -/
  userDirectory? : m (Option String)

end TableTalk.File
