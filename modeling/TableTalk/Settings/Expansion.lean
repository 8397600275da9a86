import TableTalk.File.Surroundings
import TableTalk.Text.Alphabetic

/-!
# Variables in texts

A text may name variables, as `$name` or between braces. Their values are put in
as they are: what looks like a variable inside a value is not one.
-/

namespace TableTalk.Settings

open TableTalk.File
open TableTalk.Text

set_option autoImplicit false

inductive Piece where
  | plain (c : Char)
  | named (name : List Char)
  deriving Repr, DecidableEq, Inhabited

def isNameChar (c : Char) : Bool := isAlphanumeric c || c = '_'

/-- The parts of a text. Between braces a name goes up to the closing one, or to
the end of the text. Without braces it is as long as possible; a dollar sign with
no name after it stands for itself. -/
def pieces : List Char → List Piece
  | [] => []
  | '$' :: '{' :: rest =>
      .named (rest.takeWhile (· ≠ '}')) :: pieces (rest.dropWhile (· ≠ '}')).tail
  | '$' :: rest =>
      let name := rest.takeWhile isNameChar
      if name.isEmpty then .plain '$' :: pieces rest
      else .named name :: pieces (rest.dropWhile isNameChar)
  | c :: rest => .plain c :: pieces rest
termination_by text => text.length
decreasing_by
  · have shorter := (List.dropWhile_suffix (· ≠ '}') (l := rest)).length_le
    simp only [List.length_cons, List.length_tail]
    omega
  · simp only [List.length_cons]
    omega
  · have shorter := (List.dropWhile_suffix isNameChar (l := rest)).length_le
    simp only [List.length_cons]
    omega
  · simp only [List.length_cons]
    omega

def Piece.name? : Piece → Option String
  | plain _ => none
  | named name => some (String.ofList name)

/-- Puts values in the place of variables. The first name without a value is the
error. -/
def fill (value? : String → Option String) : List Piece → Except String (List Char)
  | [] => .ok []
  | .plain c :: rest => do
      let filled ← fill value? rest
      return c :: filled
  | .named name :: rest =>
      match value? (String.ofList name) with
      | none => .error (String.ofList name)
      | some value => do
          let filled ← fill value? rest
          return value.toList ++ filled

def expand (value? : String → Option String) (text : String) : Except String String :=
  (fill value? (pieces text.toList)).map String.ofList

def expandHere {m : Type → Type} [Monad m] [Surroundings m] (text : String) :
    m (Except String String) := do
  let names := (pieces text.toList).filterMap Piece.name?
  let values ← names.mapM fun name => do return (name, ← Surroundings.valueOf? name)
  return expand (fun name => (values.lookup name).join) text

end TableTalk.Settings
