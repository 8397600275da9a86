import TableTalk.Database.Execution
import TableTalk.Document.Value

/-!
# Outcomes

The answer to a statement as a document value. A row is a record of its values by
column names; a name that occurs twice is written once, with its last value.
-/

namespace TableTalk.Database

set_option autoImplicit false

def realNotation : Notation where
  leastPower := -4
  greatestPower := 16
  keepsPoint := false
  signsExponent := true
  exponentWidth := 1

/-- Blobs are lists of their bytes. Reals that are not finite are written as null. -/
def Cell.toDocument : Cell → Document.Value
  | .null => .null
  | .integer n => .integer n
  | .real x =>
      if x.isFinite then .decimal ((Binary.ofFloat x).shortest.written realNotation)
      else .null
  | .text s => .text s
  | .blob bytes => .list (bytes.map fun byte => .integer byte.toNat)

/-- Puts a field into a record whose fields are in the order of their names. -/
def insertField (name : String) (value : Document.Value) :
    List (String × Document.Value) → List (String × Document.Value)
  | [] => [(name, value)]
  | field :: rest =>
      if name < field.1 then (name, value) :: field :: rest
      else if name = field.1 then (name, value) :: rest
      else field :: insertField name value rest

def record (columns : List String) (row : Row) : List (String × Document.Value) :=
  (columns.zip row).foldl (fun fields (name, cell) => insertField name cell.toDocument fields) []

def Answer.records (answer : Answer) : List (List (String × Document.Value)) :=
  answer.rows.map (record answer.columns)

structure Outcome where
  data : List (List (String × Document.Value)) := []
  error : Option String := none
  deriving Inhabited

def Outcome.success (outcome : Outcome) : Bool := outcome.error.isNone

def Outcome.of : Except ExecutionError Answer → Outcome
  | .ok answer => { data := answer.records }
  | .error error => { error := some error.message }

def Outcome.toValue (outcome : Outcome) : Document.Value := .record [
  ("success", .bool outcome.success),
  ("data", .list (outcome.data.map .record)),
  ("error", .optional .text outcome.error)]

end TableTalk.Database
