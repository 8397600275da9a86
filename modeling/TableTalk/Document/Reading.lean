import TableTalk.Decimal.Integer
import TableTalk.Document.Value

/-!
# Reading typed values

The readers take a document value apart by the shape that a type expects. A
record gives its fields by name: unknown ones are ignored, and a known one may
occur once. A list gives them by position. A moment is a record that has none of
the declared fields.
-/

namespace TableTalk.Document

set_option autoImplicit false

/-- Where the document formats differ. -/
structure Conventions where
  /-- What stands beside the name when a constant is written as a record. -/
  isUnit : Value → Bool
  /-- Whether a list may be longer than the fields that it gives. -/
  allowsExcess : Bool

def Conventions.fields (conventions : Conventions) (names : List String) :
    Value → Option (String → Option Value)
  | .record entries =>
      if names.any fun name => 1 < entries.countP fun entry => entry.1 == name then none
      else some fun name => entries.lookup name
  | .list items =>
      if !conventions.allowsExcess && names.length < items.length then none
      else some fun name => (names.zip items).lookup name
  | .moment _ => some fun _ => none
  | _ => none

/-- The name of a constant, written as a text or as a record of one field. -/
def Conventions.constant? (conventions : Conventions) : Value → Option String
  | .text name => some name
  | .record [(name, value)] => if conventions.isUnit value then some name else none
  | _ => none

def Conventions.readConstant {α : Type} (conventions : Conventions) (all : List α)
    (name : α → String) (value : Value) : Option α := do
  let written ← conventions.constant? value
  all.find? fun a => name a == written

section Readers

variable {α : Type}

def readText : Value → Option String
  | .text s => some s
  | _ => none

def readBool : Value → Option Bool
  | .bool b => some b
  | _ => none

def readUInt64 : Value → Option UInt64
  | .integer n => if fitsUnsigned n then some (UInt64.ofNat n.toNat) else none
  | _ => none

def readList (read : Value → Option α) : Value → Option (List α)
  | .list items => items.mapM read
  | _ => none

def readNullable (read : Value → Option α) : Value → Option (Option α)
  | .null => some none
  | value => (read value).map some

/-- An absent field has its default. -/
def readField (default : α) (read : Value → Option α) : Option Value → Option α
  | none => some default
  | some value => read value

end Readers

end TableTalk.Document
