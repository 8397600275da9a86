import TableTalk.Database.Evaluation
import TableTalk.Database.Total
import TableTalk.Query.Basic

/-!
# Aggregates

What a group of rows is reduced to. Null counts for no aggregate.
-/

namespace TableTalk.Database

open TableTalk.Sql

set_option autoImplicit false

def takesPlace (function : Aggregate) (best cell : Cell) : Bool :=
  if cell.isNull then false
  else if best.isNull then true
  else cell.compare best == (if function = .minimum then .lt else .gt)

def extreme (function : Aggregate) (cells : List Cell) : Cell :=
  cells.foldl (fun best cell => if takesPlace function best cell then cell else best) .null

def aggregate (function : Aggregate) (cells : List Cell) : Except ExecutionError Cell :=
  match function with
  | .count => .ok (.integer (cells.countP fun cell => !cell.isNull))
  | .sum => match (Total.ofCells cells).sum? with
      | some cell => .ok cell
      | none => .error .integerOverflow
  | .average => .ok (Total.ofCells cells).average
  | .minimum | .maximum => .ok (extreme function cells)

def aggregate? (name : String) : Option Aggregate :=
  Aggregate.all.find? fun function => function.name == Text.upper name

structure Group where
  rows : List Row
  shown : Row
  deriving Inhabited

def Scope.grouped (scope : Scope) (group : Group) : Expr → Except ExecutionError Cell
  | .call name [.star] =>
      if aggregate? name = some .count then .ok (.integer group.rows.length)
      else .error (.unknownFunction name)
  | .call name [argument] =>
      match aggregate? name with
      | some function => do
          let cells ← group.rows.mapM fun row => scope.scalar row argument
          aggregate function cells
      | none => .error (.unknownFunction name)
  | .call name _ => .error (.unknownFunction name)
  | expr => scope.scalar group.shown expr

/-! ## The shown row -/

def extreme? : Expr → Option (Aggregate × Expr)
  | .call name [argument] =>
      match aggregate? name with
      | some .minimum => some (.minimum, argument)
      | some .maximum => some (.maximum, argument)
      | _ => none
  | _ => none

/-- The row at which a least or greatest value was found last, with that value. As
long as there is none, each row takes the place of the one before. -/
def Scope.shownAfter (scope : Scope) (function : Aggregate) (argument : Expr)
    (state : Cell × Row) (row : Row) : Except ExecutionError (Cell × Row) := do
  let cell ← scope.scalar row argument
  if takesPlace function state.1 cell then return (cell, row)
  else if state.1.isNull then return (state.1, row)
  else return state

/-- The row whose plain columns stand for a group: the one with the value of the
last least or greatest value asked for, or else the first row. -/
def Scope.shownRow (scope : Scope) (asked : List (Aggregate × Expr)) (rows : List Row) :
    Except ExecutionError Row :=
  match asked.getLast? with
  | some (function, argument) => do
      let (_, row) ← rows.foldlM (scope.shownAfter function argument) (.null, [])
      return row
  | none => .ok (rows.headD [])

end TableTalk.Database
