import TableTalk.Database.Pattern
import TableTalk.Database.Table
import TableTalk.Sql.Select

/-!
# Evaluating expressions

The value of an expression over a row or over a group of rows. Comparisons with
nothing are neither true nor false. Aggregates do not nest: their arguments are
evaluated row by row.

A column is found by its own name only. SQLite also knows the number of a row by the
names `rowid`, `oid` and `_rowid_` where no column has them; these are not modelled.
-/

namespace TableTalk.Database

open TableTalk.Sql

set_option autoImplicit false

inductive ExecutionError where
  | noSuchTable (name : String)
  | noSuchColumn (name : String)
  /-- The result of an aggregate is used where rows are selected or grouped. -/
  | misusedAggregate (name : String)
  | unknownFunction (name : String)
  | parameterCount (expected actual : Nat)
  | limitMismatch
  | integerOverflow
  | tooManyColumns
  | notADatabase
  deriving Repr, DecidableEq, Inhabited

def ExecutionError.message : ExecutionError → String
  | noSuchTable name => "SQLite error: no such table: " ++ name
  | noSuchColumn name => "SQLite error: no such column: " ++ name
  | misusedAggregate name => "SQLite error: misuse of aliased aggregate " ++ name
  | unknownFunction name =>
      "SQLite error: wrong number of arguments to function " ++ name ++ "()"
  | parameterCount expected actual =>
      "statement expects " ++ toString expected ++ " parameters, " ++ toString actual ++
        " were given"
  | limitMismatch => "SQLite error: datatype mismatch"
  | integerOverflow => "SQLite error: integer overflow"
  | tooManyColumns => "SQLite error: too many columns in result set"
  | notADatabase => "SQLite error: file is not a database"

abbrev Row := List Cell

/-- What the names and parameters of a statement are looked up in. -/
structure Scope where
  table : StoredTable
  dialect : Dialect
  parameters : List Cell := []
  deriving Inhabited

/-- A name between double quotes that is no column stands for itself as a text. -/
def Scope.allowsTexts (scope : Scope) : Bool := scope.dialect.quoteChar = '"'

def Scope.affinity? (scope : Scope) : Expr → Option Affinity
  | .column name => do
      let index ← scope.table.columnIndex? name
      let column ← scope.table.columns[index]?
      column.affinity
  | _ => none

/-! ## Conditions -/

def ofTruth : Option Bool → Cell
  | none => .null
  | some true => .integer 1
  | some false => .integer 0

def Cell.truth? (cell : Cell) : Option Bool :=
  match cell.toNumber with
  | .null => none
  | .integer n => some (n ≠ 0)
  | .real x => some (x != 0.0)
  | _ => some false

def conjunction : Option Bool → Option Bool → Option Bool
  | some false, _ | _, some false => some false
  | some true, some true => some true
  | _, _ => none

def jointAffinity : Option Affinity → Option Affinity → Option Affinity
  | none, affinity | affinity, none => affinity
  | some .text, some .text => none
  | some _, some _ => some .numeric

/-- The order of two values under an affinity; nothing has no order. -/
def compareUnder (affinity : Option Affinity) (a b : Cell) : Option Ordering :=
  let (a, b) := match affinity with
    | some affinity => affinity.aligned a b
    | none => (a, b)
  if a.isNull || b.isNull then none else some (a.compare b)

def operate (operator : BinaryOperator) (affinity : Option Affinity) (a b : Cell) :
    Option Bool :=
  match operator with
  | .equal => (compareUnder affinity a b).map (· == .eq)
  | .less => (compareUnder affinity a b).map (· == .lt)
  | .greater => (compareUnder affinity a b).map (· == .gt)
  | .like => a.like? b
  | .and => conjunction a.truth? b.truth?

/-! ## Expressions over a row -/

def Scope.scalar (scope : Scope) (row : Row) : Expr → Except ExecutionError Cell
  | .column name =>
      match scope.table.columnIndex? name with
      | some index => .ok (row.getD index .null)
      | none => if scope.allowsTexts then .ok (.text name) else .error (.noSuchColumn name)
  | .parameter index => .ok (scope.parameters.getD (index - 1) .null)
  | .binary operator left right => do
      let a ← scope.scalar row left
      let b ← scope.scalar row right
      let affinity := jointAffinity (scope.affinity? left) (scope.affinity? right)
      return ofTruth (operate operator affinity a b)
  | .resultName name => .error (.noSuchColumn name)
  | .call function _ => .error (.misusedAggregate function)
  | .star => .error (.noSuchColumn "*")

def Scope.meets (scope : Scope) (row : Row) (condition : Expr) : Except ExecutionError Bool := do
  let value ← scope.scalar row condition
  return value.truth? = some true

end TableTalk.Database
