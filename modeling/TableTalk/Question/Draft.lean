import TableTalk.Catalog.Basic
import TableTalk.Language.Analysis
import TableTalk.Query.Basic
import TableTalk.Text.Search

/-!
# Drafts of queries

What the rules look at, and the query that they build up step by step.
-/

namespace TableTalk.Question

open TableTalk.Catalog
open TableTalk.Language

set_option autoImplicit false

structure Options where
  /-- The column that holds the provider. -/
  providerColumn : String := "provider"
  /-- The column that holds the product or service. -/
  productColumn : String := "product_name"
  /-- The projection when no rule decides on one. -/
  defaultSelectColumns : List String := ["title", "provider", "product_name", "published_date"]
  /-- Provider names that are recognized inside words, in order of preference. -/
  providerKeywords : List String := ["aws", "azure"]
  /-- The limit of the general "most updates" rule. -/
  mostFrequentLimit : UInt64 := 5
  /-- Words that let "top N" rank the product column. -/
  entityWords : List String := ["service", "product"]
  deriving Repr, DecidableEq, Inhabited

structure Context where
  text : String
  analysis : Analysis
  table : Table
  options : Options
  deriving Repr, DecidableEq, Inhabited

def Context.mentions (context : Context) (needle : String) : Bool :=
  Text.mentions context.text needle

/-- The column that rows are counted by; without columns all rows count. -/
def Context.countedColumn (context : Context) : String :=
  context.table.primaryKey?.getD "*"

structure Draft where
  intent : Option Intent := none
  selectColumns : List String := []
  filters : List Filter := []
  aggregations : List Aggregation := []
  groupBy : Option String := none
  orderBy : Option SortKey := none
  limit : Option UInt64 := none
  /-- Whether the query was ranked by "top N". -/
  ranked : Bool := false
  deriving Repr, DecidableEq, Inhabited

def Draft.hasFilterOn (draft : Draft) (column : String) : Bool :=
  draft.filters.any fun filter => filter.column == column

/-- Appends a filter unless its column is already restricted to that value, up
to case. -/
def Draft.addFilter (draft : Draft) (filter : Filter) : Draft :=
  if draft.filters.any fun present => present.targets filter.column filter.value then draft
  else { draft with filters := draft.filters ++ [filter] }

def Draft.finish (draft : Draft) (targetTable : String) : Query :=
  { intent := draft.intent.getD .findData
    selectColumns := draft.selectColumns
    filters := draft.filters
    aggregations := draft.aggregations
    groupBy := draft.groupBy
    orderBy := draft.orderBy
    limit := draft.limit
    targetTable }

end TableTalk.Question
