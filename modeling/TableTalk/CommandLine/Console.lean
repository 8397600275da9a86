import TableTalk.CommandLine.Report
import TableTalk.Database.Storage.File

/-!
# The program on a machine

The surroundings of the running program: the variables, files and databases of the
machine. Nothing is decided here.
-/

namespace TableTalk.CommandLine

open TableTalk.Database
open TableTalk.File

set_option autoImplicit false

def stateOfBytes (bytes : ByteArray) : State :=
  match String.fromUTF8? bytes with
  | some text => .text text
  | none => .unreadable encodingReason

/-- What is found at a path that cannot be read. An error of type is that of a
directory (21), or of a way that leads through a file. -/
def stateOfError : IO.Error → State
  | .noFileOrDirectory _ _ _ => .absent
  | .inappropriateType _ code _ =>
      if code = 21 then .unreadable directoryReason else .absent
  | error => .unreadable (toString error)

instance : Surroundings IO where
  valueOf? name := IO.getEnv name
  file path := do
    if path.isEmpty then return .absent
    try return stateOfBytes (← IO.FS.readBinFile path)
    catch error => return stateOfError error
  userDirectory? := do
    match ← IO.getEnv "XDG_CONFIG_HOME" with
    | some directory => if isAbsolute directory then return some directory
    | none => pure ()
    return (← IO.getEnv "HOME").map fun home => join home ".config"

instance : Databases IO where
  openFile? path access := do
    try
      if access = .create then
        let handle ← IO.FS.Handle.mk path .append
        handle.flush
      return some (Storage.openFile (← IO.FS.readBinFile path))
    catch error =>
      return if stateOfError error = .unreadable directoryReason then
        Opening.ofDirectory? access else none

end TableTalk.CommandLine
