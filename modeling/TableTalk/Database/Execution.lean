import TableTalk.Database.Aggregation
import TableTalk.Sql.Statement

/-!
# Executing statements

A SELECT is evaluated clause by clause: rows are selected, grouped, sorted, cut
off and projected. Rows come in the order of insertion and groups in the order of
their keys, unless they are sorted otherwise.

Statements are evaluated as they are built and not parsed from their texts, so a bare
result name that is a reserved word of SQLite is a name like any other, where SQLite
reports a syntax error. Of its limits only the number of columns in an answer is kept.
-/

namespace TableTalk.Database

open TableTalk.Sql

set_option autoImplicit false

structure Answer where
  columns : List String := []
  rows : List Row := []
  deriving Inhabited

def maxColumns : Nat := 2000

/-! ## Names -/

def columnNames : Expr → List String
  | .column name => [name]
  | .binary _ left right => columnNames left ++ columnNames right
  | .call _ [.column name] => [name]
  | _ => []

/-- The projected expressions, with whole rows spelled out. -/
def Scope.items (scope : Scope) (select : Select) : List SelectItem :=
  select.items.flatMap fun item => match item.expr with
    | .star => scope.table.columns.map fun column => { expr := .column column.name }
    | _ => [item]

/-- The name of a result column: the one that it was given, the name of its column,
or its text. -/
def Scope.resultName (scope : Scope) (item : SelectItem) : String :=
  match item.resultName, item.expr with
  | some name, _ => name
  | none, .column name =>
      match (scope.table.columnIndex? name).bind fun index => scope.table.columns[index]? with
      | some column => column.name
      | none => scope.dialect.quote name
  | none, expr => render scope.dialect expr.tokens

def namedItem? (items : List SelectItem) (name : String) : Option Expr :=
  (items.find? fun item => item.resultName.any (Text.equalAsciiCase · name)).map
    SelectItem.expr

/-- What is sorted by. The names of results come before those of columns. -/
def sortExpr (items : List SelectItem) (expr : Expr) : Expr :=
  match expr with
  | .column name | .resultName name => (namedItem? items name).getD expr
  | _ => expr

def Scope.checkNames (scope : Scope) (names : List String) : Except ExecutionError Unit :=
  match names.find? fun name => (scope.table.columnIndex? name).isNone with
  | some name => if scope.allowsTexts then .ok () else .error (.noSuchColumn name)
  | none => .ok ()

/-- Rows cannot be selected or grouped by results. -/
def Scope.checkRowNames (scope : Scope) (items : List SelectItem) (names : List String) :
    Except ExecutionError Unit :=
  match names.find? fun name =>
      (scope.table.columnIndex? name).isNone && (namedItem? items name).isSome with
  | some name => .error (.misusedAggregate name)
  | none => scope.checkNames names

def checkCall : Expr → Except ExecutionError Unit
  | .call name arguments =>
      match aggregate? name, arguments with
      | some .count, [_] => .ok ()
      | some _, [.star] => .error (.unknownFunction name)
      | some _, [_] => .ok ()
      | _, _ => .error (.unknownFunction name)
  | _ => .ok ()

def Scope.check (scope : Scope) (select : Select) : Except ExecutionError Unit := do
  let items := scope.items select
  if maxColumns < items.length then throw .tooManyColumns
  items.forM fun item => checkCall item.expr
  scope.checkNames (items.flatMap fun item => columnNames item.expr)
  scope.checkRowNames items (select.condition.toList.flatMap columnNames)
  scope.checkRowNames items (select.groupBy.flatMap columnNames)
  scope.checkNames (select.orderBy.flatMap fun item => columnNames (sortExpr items item.expr))

/-! ## Clauses -/

def Scope.selectRows (scope : Scope) (condition : Option Expr) :
    Except ExecutionError (List Row) :=
  match condition with
  | none => .ok scope.table.rows
  | some condition => do
      let judged ← scope.table.rows.mapM fun row => do
        return (row, ← scope.meets row condition)
      return (judged.filter Prod.snd).map Prod.fst

def compareKeys : List (Cell × Bool) → List Cell → Ordering
  | (a, descending) :: as, b :: bs =>
      let order := if descending then (a.compare b).swap else a.compare b
      order.then (compareKeys as bs)
  | _, _ => .eq

def sortByKeys {α : Type} (descending : List Bool) (keyed : List (List Cell × α)) :
    List (List Cell × α) :=
  keyed.mergeSort fun a b => compareKeys (a.1.zip descending) b.1 != .gt

def Scope.groupRows (scope : Scope) (keys : List Expr) (descending : List Bool)
    (rows : List Row) : Except ExecutionError (List (List Row)) := do
  let keyed ← rows.mapM fun row => do
    return (← keys.mapM (scope.scalar row), row)
  let groups := (sortByKeys descending keyed).splitBy fun a b =>
    compareKeys (a.1.zip descending) b.1 == .eq
  return groups.map fun group => group.map Prod.snd

/-- Groups are ordered in the directions in which they will be sorted, if there are
as many of them as keys. -/
def groupDirections (select : Select) : List Bool :=
  if select.orderBy.length = select.groupBy.length then
    select.orderBy.map SortItem.descending
  else select.groupBy.map fun _ => false

def isAggregate (item : SelectItem) : Bool :=
  match item.expr with
  | .call _ _ => true
  | _ => false

def Scope.isSameName (scope : Scope) (a b : String) : Bool :=
  match scope.table.columnIndex? a, scope.table.columnIndex? b with
  | some i, some j => i = j
  | none, none => a = b
  | _, _ => false

def Scope.isSame (scope : Scope) : Expr → Expr → Bool
  | .column a, .column b => scope.isSameName a b
  | a, b => a.tokens = b.tokens

def Scope.distinct (scope : Scope) (asked : List (Aggregate × Expr)) :
    List (Aggregate × Expr) :=
  asked.foldl (fun earlier (function, argument) =>
    if earlier.any fun present => present.1 = function && scope.isSame present.2 argument
    then earlier else earlier ++ [(function, argument)]) []

/-- The groups that the projection sees: those of equal keys, or one of all rows if
there are only aggregates, or else one for each row. -/
def Scope.groups (scope : Scope) (select : Select) (rows : List Row) :
    Except ExecutionError (List Group) := do
  let items := scope.items select
  let asked := scope.distinct (items.filterMap fun item => extreme? item.expr)
  let parts ←
    if !select.groupBy.isEmpty then scope.groupRows select.groupBy (groupDirections select) rows
    else if items.any isAggregate then pure [rows]
    else pure (rows.map fun row => [row])
  parts.mapM fun rows => do
    return { rows, shown := ← scope.shownRow asked rows }

def Scope.sortGroups (scope : Scope) (select : Select) (groups : List Group) :
    Except ExecutionError (List Group) :=
  if select.orderBy.isEmpty then .ok groups
  else do
    let items := scope.items select
    let keyed ← groups.mapM fun group => do
      let keys ← select.orderBy.mapM fun item => scope.grouped group (sortExpr items item.expr)
      return (keys, group)
    return (sortByKeys (select.orderBy.map SortItem.descending) keyed).map Prod.snd

def Scope.limit? (scope : Scope) (select : Select) : Except ExecutionError (Option Nat) :=
  match select.limit with
  | none => .ok none
  | some expr => do
      match integerIfWhole (← scope.scalar [] expr).toNumber with
      | .integer n => return if n < 0 then none else some n.toNat
      | _ => throw .limitMismatch

def takeAtMost {α : Type} : Option Nat → List α → List α
  | none, all => all
  | some count, all => all.take count

def Scope.answer (scope : Scope) (select : Select) : Except ExecutionError Answer := do
  let items := scope.items select
  let columns := items.map scope.resultName
  let limit ← scope.limit? select
  if limit = some 0 then return { columns }
  let rows ← scope.selectRows select.condition
  let groups ← scope.groups select rows
  let sorted ← scope.sortGroups select groups
  let projected ← (takeAtMost limit sorted).mapM fun group =>
    items.mapM fun item => scope.grouped group item.expr
  return { columns, rows := projected }

/-! ## Statements -/

def Cell.ofValue : Value → Cell
  | .integer n => .integer n
  | .text s => .text s

/-- Executes a statement. Its names are looked up first, then its parameters are
counted, then it is evaluated. -/
def Contents.execute (contents : Contents) (statement : Statement) :
    Except ExecutionError Answer := do
  let name := statement.select.source.getD ""
  match contents.table? name with
  | none => throw (.noSuchTable name)
  | some table =>
      let scope : Scope :=
        { table, dialect := statement.dialect
          parameters := statement.parameters.map Cell.ofValue }
      scope.check statement.select
      let expected := statement.select.parameterCount
      if expected ≠ statement.parameters.length then
        throw (.parameterCount expected statement.parameters.length)
      scope.answer statement.select

end TableTalk.Database
