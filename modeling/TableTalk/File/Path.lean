/-!
# Paths

Paths are texts whose parts stand between slashes. Empty parts and the part `.`
lead nowhere, the part `..` leads up.
-/

namespace TableTalk.File

set_option autoImplicit false

def splitSlash : List Char → List (List Char)
  | [] => [[]]
  | c :: rest =>
      if c = '/' then [] :: splitSlash rest
      else match splitSlash rest with
        | [] => [[c]]
        | part :: parts => (c :: part) :: parts

inductive Step where
  | up
  | down (name : String)
  deriving Repr, DecidableEq, Inhabited

def Step.isPossible : Step → Bool
  | up => true
  | down name => name.utf8ByteSize ≤ 255

def Step.ofPart? (part : List Char) : Option Step :=
  if part.isEmpty || part = ['.'] then none
  else if part = ['.', '.'] then some .up
  else some (.down (String.ofList part))

def steps (path : String) : List Step := (splitSlash path.toList).filterMap Step.ofPart?

/-- Steps in which each step up has taken back the step before it, if there is one. -/
def straightened : List Step → List Step → List Step
  | place, [] => place
  | place, .down name :: rest => straightened (place ++ [.down name]) rest
  | place, .up :: rest =>
      match place.getLast? with
      | some (.down _) => straightened place.dropLast rest
      | _ => straightened (place ++ [.up]) rest

def isAbsolute (path : String) : Bool := path.toList.head? = some '/'

/-- A path as seen from a root. Absolute paths do not depend on the root. -/
def join (root path : String) : String :=
  if isAbsolute path || root.isEmpty then path
  else if root.toList.getLast? = some '/' then root ++ path
  else root ++ "/" ++ path

def fileName? (path : String) : Option String :=
  match (steps path).getLast? with
  | some (.down name) => some name
  | _ => none

/-- The part of a name after its last point, which must not be its first
character. -/
def extensionOf? (name : String) : Option String :=
  let reversed := name.toList.reverse
  match reversed.dropWhile (· ≠ '.') with
  | _ :: _ :: _ => some (String.ofList (reversed.takeWhile (· ≠ '.')).reverse)
  | _ => none

def extension? (path : String) : Option String := (fileName? path).bind extensionOf?

end TableTalk.File
