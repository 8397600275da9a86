import TableTalk.Document.Reading
import TableTalk.Query.Compiler

/-!
# Queries as document values

How queries, compiler options and bound values are written in documents, and how
they are read back. Everything is written; what is missing has its default.
-/

namespace TableTalk

open TableTalk.Document

set_option autoImplicit false

def Intent.toValue (intent : Intent) : Value := .text intent.name

def Intent.ofValue? (conventions : Conventions) : Value → Option Intent :=
  conventions.readConstant all name

def Operator.toValue (operator : Operator) : Value := .text operator.name

def Operator.ofValue? (value : Value) : Option Operator := (readText value).map ofName

def Filter.toValue (filter : Filter) : Value := .record [
  ("column", .text filter.column),
  ("operator", filter.operator.toValue),
  ("value", .text filter.value)]

def Filter.ofValue? (conventions : Conventions) (value : Value) : Option Filter := do
  let field ← conventions.fields ["column", "operator", "value"] value
  return {
    column := ← (field "column").bind readText
    operator := ← readField .equals Operator.ofValue? (field "operator")
    value := ← (field "value").bind readText }

def Aggregate.toValue (aggregate : Aggregate) : Value := .text aggregate.name

def Aggregate.ofValue? (conventions : Conventions) : Value → Option Aggregate :=
  conventions.readConstant all name

def Aggregation.toValue (aggregation : Aggregation) : Value := .record [
  ("type", aggregation.function.toValue),
  ("column", .text aggregation.column),
  ("alias", .optional .text aggregation.resultName)]

def Aggregation.ofValue? (conventions : Conventions) (value : Value) : Option Aggregation := do
  let field ← conventions.fields ["type", "column", "alias"] value
  return {
    function := ← readField .count (Aggregate.ofValue? conventions) (field "type")
    column := ← readField "*" readText (field "column")
    resultName := ← readField none (readNullable readText) (field "alias") }

def Direction.toValue (direction : Direction) : Value := .text direction.name

def Direction.ofValue? (conventions : Conventions) : Value → Option Direction :=
  conventions.readConstant all name

def SortKey.toValue (key : SortKey) : Value := .record [
  ("column", .text key.column),
  ("direction", key.direction.toValue)]

def SortKey.ofValue? (conventions : Conventions) (value : Value) : Option SortKey := do
  let field ← conventions.fields ["column", "direction"] value
  return {
    column := ← (field "column").bind readText
    direction := ← readField .ascending (Direction.ofValue? conventions) (field "direction") }

def limitToValue (limit : UInt64) : Value := .integer limit.toNat

def Query.fieldNames : List String := [
  "intent", "select_columns", "filters", "aggregations", "group_by_column", "order_by",
  "limit", "target_table"]

def Query.toValue (query : Query) : Value := .record [
  ("intent", query.intent.toValue),
  ("select_columns", .texts query.selectColumns),
  ("filters", .list (query.filters.map Filter.toValue)),
  ("aggregations", .list (query.aggregations.map Aggregation.toValue)),
  ("group_by_column", .optional .text query.groupBy),
  ("order_by", .optional SortKey.toValue query.orderBy),
  ("limit", .optional limitToValue query.limit),
  ("target_table", .text query.targetTable)]

def Query.ofValue? (conventions : Conventions) (value : Value) : Option Query := do
  let field ← conventions.fields fieldNames value
  return {
    intent := ← readField .findData (Intent.ofValue? conventions) (field "intent")
    selectColumns := ← readField [] (readList readText) (field "select_columns")
    filters := ← readField [] (readList (Filter.ofValue? conventions)) (field "filters")
    aggregations :=
      ← readField [] (readList (Aggregation.ofValue? conventions)) (field "aggregations")
    groupBy := ← readField none (readNullable readText) (field "group_by_column")
    orderBy := ← readField none (readNullable (SortKey.ofValue? conventions)) (field "order_by")
    limit := ← readField none (readNullable readUInt64) (field "limit")
    targetTable := ← readField "" readText (field "target_table") }

namespace Sql

def Dialect.toValue (dialect : Dialect) : Document.Value := .text dialect.name

def Dialect.ofValue? (conventions : Conventions) : Document.Value → Option Dialect :=
  conventions.readConstant all name

def Value.toDocument : Value → Document.Value
  | integer n => .integer n
  | text s => .text s

/-- Bound integers have 64 bits with sign. -/
def Value.ofDocument? : Document.Value → Option Value
  | .integer n => if fitsSigned n then some (integer n) else none
  | .text s => some (text s)
  | _ => none

def Statement.toValue (statement : Statement) : Document.Value := .record [
  ("statement", .text statement.text),
  ("parameters", .list (statement.parameters.map Value.toDocument))]

end Sql

def CompileOptions.toValue (options : CompileOptions) : Value := .record [
  ("dialect", options.dialect.toValue),
  ("strict_operators", .bool options.strictOperators),
  ("verify_statement", .bool options.verifyStatement)]

def CompileOptions.ofValue? (conventions : Conventions) (value : Value) :
    Option CompileOptions := do
  let field ← conventions.fields ["dialect", "strict_operators", "verify_statement"] value
  return {
    dialect := ← readField .sqlite (Sql.Dialect.ofValue? conventions) (field "dialect")
    strictOperators := ← readField false readBool (field "strict_operators")
    verifyStatement := ← readField true readBool (field "verify_statement") }

end TableTalk
