import TableTalk.Text.Case

/-!
# Structured queries

The structured form of a question: what it asks for, and the projection,
filters, aggregations, grouping, order and limit that answer it.
-/

namespace TableTalk

set_option autoImplicit false

inductive Intent where
  | findData
  | count
  | findMostFrequent
  | findMostFrequentEntity
  deriving Repr, DecidableEq, Inhabited

def Intent.all : List Intent := [findData, count, findMostFrequent, findMostFrequentEntity]

def Intent.name : Intent → String
  | findData => "find_data"
  | count => "count"
  | findMostFrequent => "find_most_frequent"
  | findMostFrequentEntity => "find_most_frequent_entity"

/-- The comparison of a filter. Names without a meaning here are kept, so that
queries written by hand still load; the compiler decides what becomes of them. -/
inductive Operator where
  | equals
  | contains
  | like
  | greaterThan
  | lessThan
  | other (name : String)
  deriving Repr, DecidableEq, Inhabited

def Operator.name : Operator → String
  | equals => "EQUALS"
  | contains => "CONTAINS"
  | like => "LIKE"
  | greaterThan => "GREATER_THAN"
  | lessThan => "LESS_THAN"
  | other name => name

def Operator.known : List Operator := [equals, contains, like, greaterThan, lessThan]

/-- Operators are recognized in any case; all other names are kept as written. -/
def Operator.ofName (name : String) : Operator :=
  (known.find? fun operator => operator.name == Text.upper name).getD (other name)

def Operator.isKnown : Operator → Bool
  | other _ => false
  | _ => true

structure Filter where
  column : String
  operator : Operator := .equals
  value : String
  deriving Repr, DecidableEq, Inhabited

def Filter.equals (column value : String) : Filter := { column, value }

/-- Filters with the same key restrict alike: column, operator and value up to
case. -/
def Filter.key (filter : Filter) : String × String × String :=
  (filter.column, filter.operator.name, Text.lower filter.value)

/-- The same column and the same value up to case, whatever the operator. -/
def Filter.targets (filter : Filter) (column value : String) : Bool :=
  filter.column == column && Text.lower filter.value == Text.lower value

inductive Aggregate where
  | count
  | sum
  | average
  | minimum
  | maximum
  deriving Repr, DecidableEq, Inhabited

def Aggregate.all : List Aggregate := [count, sum, average, minimum, maximum]

def Aggregate.name : Aggregate → String
  | count => "COUNT"
  | sum => "SUM"
  | average => "AVG"
  | minimum => "MIN"
  | maximum => "MAX"

/-- An aggregate over a column, or over whole rows if the column is `*`. -/
structure Aggregation where
  function : Aggregate := .count
  column : String := "*"
  resultName : Option String := none
  deriving Repr, DecidableEq, Inhabited

def Aggregation.count (column resultName : String) : Aggregation :=
  { function := .count, column, resultName := some resultName }

def Aggregation.isOfRows (aggregation : Aggregation) : Bool := aggregation.column == "*"

inductive Direction where
  | ascending
  | descending
  deriving Repr, DecidableEq, Inhabited

def Direction.all : List Direction := [ascending, descending]

def Direction.name : Direction → String
  | ascending => "ASC"
  | descending => "DESC"

/-- What rows are sorted by: a column, or the result name of an aggregation. -/
structure SortKey where
  column : String
  direction : Direction := .ascending
  deriving Repr, DecidableEq, Inhabited

def SortKey.descending (column : String) : SortKey := { column, direction := .descending }

structure Query where
  intent : Intent := .findData
  selectColumns : List String := []
  filters : List Filter := []
  aggregations : List Aggregation := []
  groupBy : Option String := none
  orderBy : Option SortKey := none
  limit : Option UInt64 := none
  targetTable : String := ""
  deriving Repr, DecidableEq, Inhabited

def Query.filtersOn (query : Query) (column : String) : List Filter :=
  query.filters.filter fun filter => filter.column == column

def Query.isResultName (query : Query) (name : String) : Bool :=
  query.aggregations.any fun aggregation => aggregation.resultName == some name

end TableTalk
