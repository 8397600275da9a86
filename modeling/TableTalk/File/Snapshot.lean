import TableTalk.Database.Storage.File
import TableTalk.File.Path
import TableTalk.File.Surroundings

/-!
# Surroundings held in memory

A set of variables and a working directory with some files in it. Nothing else
exists but the directories above.
-/

namespace TableTalk.File

open TableTalk.Database (Access Contents Databases Opening Storage.openFile)

set_option autoImplicit false

inductive Entry where
  | directory
  | bytes (content : ByteArray)
  | database (contents : Contents)
  deriving Inhabited

structure Snapshot where
  environment : List (String × String) := []
  /-- The files and directories by their paths; the directories on the way to them
  exist as well. -/
  entries : List (List Step × Entry) := []
  userDirectory : Option String := none
  deriving Inhabited

def Snapshot.insert (snapshot : Snapshot) (path : String) (entry : Entry) : Snapshot :=
  { snapshot with entries := (steps path, entry) :: snapshot.entries }

def Snapshot.entryAt? (snapshot : Snapshot) (place : List Step) : Option Entry :=
  match snapshot.entries.lookup place with
  | some entry => some entry
  | none =>
      if place.isEmpty || snapshot.entries.any fun entry => place.isPrefixOf entry.1 then
        some .directory
      else none

/-- Follows steps from a place below the working directory, or from some directory
above it. Only directories can be left. -/
def Snapshot.walk (snapshot : Snapshot) : Option (List Step) → List Step → Option Entry
  | some place, [] => snapshot.entryAt? place
  | none, [] => some .directory
  | none, .up :: rest => snapshot.walk none rest
  | none, .down _ :: _ => none
  | some place, step :: rest =>
      match snapshot.entryAt? place, step with
      | some .directory, .up =>
          snapshot.walk (if place.isEmpty then none else some place.dropLast) rest
      | some .directory, .down name => snapshot.walk (some (place ++ [.down name])) rest
      | _, _ => none

/-- What is found at a path. One that ends with a slash, or with `/.`, leads to a
directory. -/
def Snapshot.find? (snapshot : Snapshot) (path : String) : Option Entry :=
  if path.isEmpty then none
  else
    let found := snapshot.walk (if isAbsolute path then none else some []) (steps path)
    match found, (splitSlash path.toList).getLast? with
    | some .directory, _ | none, _ => found
    | _, some part => if (Step.ofPart? part).isNone then none else found
    | _, none => found

def Snapshot.state (snapshot : Snapshot) (path : String) : State :=
  match snapshot.find? path with
  | none => .absent
  | some .directory => .unreadable directoryReason
  | some (.bytes content) =>
      match String.fromUTF8? content with
      | some text => .text text
      | none => .unreadable encodingReason
  | some (.database _) => .unreadable encodingReason

def Snapshot.entryFrom? (snapshot : Snapshot) (isAbove : Bool) (place : List Step) :
    Option Entry :=
  if !isAbove then snapshot.entryAt? place
  else if place.all (· = .up) then some .directory
  else none

/-- Opens a database file. One that is not there is made, if that is allowed and its
directory is there. -/
def Snapshot.openFile? (snapshot : Snapshot) (path : String) (access : Access) :
    Option Opening := do
  guard ((steps path).all Step.isPossible)
  let place := straightened [] (steps path)
  let isAbove := isAbsolute path || place.head? = some .up
  match snapshot.entryFrom? isAbove place with
  | some (.database contents) => some (.contents contents)
  | some (.bytes content) => some (Storage.openFile content)
  | some .directory => Opening.ofDirectory? access
  | none =>
      match access, snapshot.entryFrom? isAbove place.dropLast with
      | .create, some .directory => some (.contents {})
      | _, _ => none

/-- The value of a variable. A name may go on into the value, if that has an equality
sign: what stands after the sign is found then. -/
def Snapshot.valueOf? (snapshot : Snapshot) (name : String) : Option String :=
  if name.isEmpty then none
  else snapshot.environment.findSome? fun (key, value) =>
    ((name ++ "=").toList.isPrefixOf? (key ++ "=" ++ value).toList).map String.ofList

abbrev InSnapshot := ReaderM Snapshot

instance : Surroundings InSnapshot where
  valueOf? name := do return (← read).valueOf? name
  file path := do return (← read).state path
  userDirectory? := do return (← read).userDirectory

instance : Databases InSnapshot where
  openFile? path access := do return (← read).openFile? path access

end TableTalk.File
