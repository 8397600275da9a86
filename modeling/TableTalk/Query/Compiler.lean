import TableTalk.Catalog.Basic
import TableTalk.Decimal.Integer
import TableTalk.Query.Basic
import TableTalk.Sql.Statement

/-!
# Compiling queries

A structured query becomes a parameterized statement over one table. Filter
values and the limit are bound as parameters, numbered in the order of the text.

Whether a statement can be read back is for the caller to say. There is no error for a text
of several statements, as a compiled text has one terminator, at its end.
-/

namespace TableTalk

open TableTalk.Catalog
open TableTalk.Sql

set_option autoImplicit false

structure CompileOptions where
  dialect : Dialect := .sqlite
  /-- Whether unknown operators are refused instead of read as equality. -/
  strictOperators : Bool := false
  /-- Whether the statement is read back before it is returned. -/
  verifyStatement : Bool := true
  deriving Repr, DecidableEq, Inhabited

def CompileOptions.withDialect (options : CompileOptions) (dialect : Dialect) : CompileOptions :=
  { options with dialect }

def CompileOptions.strict (options : CompileOptions) : CompileOptions :=
  { options with strictOperators := true }

inductive CompileError where
  | missingTargetTable
  | unknownTable (name : String)
  | invalidResultName (name : String)
  | unsupportedOperator (operator column : String)
  | limitOutOfRange (limit : UInt64)
  | invalidStatement
  deriving Repr, DecidableEq, Inhabited

def CompileError.message : CompileError → String
  | missingTargetTable => "query has no target table"
  | unknownTable name => "table '" ++ name ++ "' is not in the catalog"
  | invalidResultName name => "'" ++ name ++ "' cannot be used as an ORDER BY alias"
  | unsupportedOperator operator column =>
      "unsupported operator '" ++ operator ++ "' on column '" ++ column ++ "'"
  | limitOutOfRange limit => "LIMIT " ++ toString limit.toNat ++ " is out of range"
  | invalidStatement => "generated SQL does not parse"

def isPlainStart (c : Char) : Bool := c.isAlpha || c = '_'

def isPlainChar (c : Char) : Bool := c.isAlphanum || c = '_'

/-- Names of letters `a` to `z`, digits and underscores that do not start with a
digit may be written without quotes. -/
def isPlainName (name : String) : Bool :=
  match name.toList with
  | [] => false
  | c :: rest => isPlainStart c && rest.all isPlainChar

def Aggregation.item (aggregation : Aggregation) : SelectItem :=
  { expr := .call aggregation.function.name
      [if aggregation.isOfRows then .star else .column aggregation.column]
    resultName := aggregation.resultName }

/-- The columns, then the aggregations; the first column of the table, or whole
rows, if the query names neither. -/
def projection (table : Table) (query : Query) : List SelectItem :=
  let items := query.selectColumns.map (fun name => { expr := .column name }) ++
    query.aggregations.map Aggregation.item
  if items.isEmpty then
    [{ expr := match table.firstColumn? with
        | some name => .column name
        | none => .star }]
  else items

/-- The comparison that an operator stands for, and whether its value is a
pattern. Unknown operators stand for equality, unless they are refused. -/
def Filter.comparison (strict : Bool) (filter : Filter) :
    Except CompileError (BinaryOperator × Bool) :=
  match filter.operator with
  | .equals => .ok (.equal, false)
  | .contains | .like => .ok (.like, true)
  | .greaterThan => .ok (.greater, false)
  | .lessThan => .ok (.less, false)
  | .other name =>
      if strict then .error (.unsupportedOperator name filter.column) else .ok (.equal, false)

def containsPattern (value : String) : String := "%" ++ value ++ "%"

def Filter.compile (strict : Bool) (index : Nat) (filter : Filter) :
    Except CompileError (Expr × Value) := do
  let (operator, isPattern) ← filter.comparison strict
  let value := if isPattern then containsPattern filter.value else filter.value
  return (.binary operator (.column filter.column) (.parameter index), .text value)

def compileFilters (strict : Bool) (index : Nat) :
    List Filter → Except CompileError (List (Expr × Value))
  | [] => .ok []
  | filter :: rest => do
      let compiled ← filter.compile strict index
      let others ← compileFilters strict (index + 1) rest
      return compiled :: others

/-- Results of aggregations are referred to without quotes, columns with them. -/
def sortItem (query : Query) (key : SortKey) : Except CompileError SortItem :=
  let descending := key.direction == .descending
  if query.isResultName key.column then
    if isPlainName key.column then .ok { expr := .resultName key.column, descending }
    else .error (.invalidResultName key.column)
  else .ok { expr := .column key.column, descending }

/-- The number of a limit; it has to be positive and fit 64 bits with sign. -/
def limitValue (limit : UInt64) : Except CompileError Int :=
  if 0 < limit.toNat && fitsSigned limit.toNat then .ok limit.toNat
  else .error (.limitOutOfRange limit)

def compileWith (isReadable : Statement → Bool) (table : Table) (options : CompileOptions)
    (query : Query) : Except CompileError Statement := do
  if query.targetTable.isEmpty then throw .missingTargetTable
  if query.targetTable ≠ table.name then throw (.unknownTable query.targetTable)
  let filters ← compileFilters options.strictOperators 1 query.filters
  let orderBy ← query.orderBy.toList.mapM (sortItem query)
  let limit ← query.limit.mapM limitValue
  let base : Select :=
    { items := projection table query
      source := some table.name
      groupBy := query.groupBy.toList.map .column
      orderBy
      limit := limit.map fun _ => .parameter (filters.length + 1) }
  let statement : Statement :=
    { select := (filters.map Prod.fst).foldl Select.filter base
      dialect := options.dialect
      parameters := filters.map Prod.snd ++ limit.toList.map .integer }
  if options.verifyStatement && !isReadable statement then throw .invalidStatement
  return statement

def compile (table : Table) (options : CompileOptions) (query : Query) :
    Except CompileError Statement :=
  compileWith Statement.isReadable table options query

end TableTalk
