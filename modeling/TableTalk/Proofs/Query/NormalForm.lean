import TableTalk.Proofs.Outcome
import TableTalk.Query.Compiler

/-!
# Normal forms of queries

What a compiled query depends on: the projection with its last resort filled in, the
comparisons that the filters stand for with the values that are bound, the grouping,
the order and the limit. A query that compiles becomes the statement of its normal
form.
-/

namespace TableTalk

open TableTalk.Catalog
open TableTalk.Sql

set_option autoImplicit false

/-- An entry of a projection. An aggregate without an argument is one of whole rows. -/
inductive Projected where
  | column (name : String)
  | aggregate (function : Aggregate) (argument : Option String) (resultName : Option String)
  | rows
  deriving Repr, DecidableEq

/-- A filter as the comparison that it stands for, with the value that is bound. -/
structure BoundFilter where
  column : String
  comparison : BinaryOperator
  value : String
  deriving Repr, DecidableEq

structure NormalForm where
  projection : List Projected
  filters : List BoundFilter
  groupBy : Option String
  orderBy : Option SortKey
  limit : Option UInt64
  deriving Repr, DecidableEq

def Aggregation.projected (aggregation : Aggregation) : Projected :=
  .aggregate aggregation.function
    (if aggregation.column = "*" then none else some aggregation.column) aggregation.resultName

/-- The first column of a table, or whole rows of a table without columns. -/
def lastResort (table : Table) : Projected :=
  match table.columns with
  | [] => .rows
  | column :: _ => .column column.name

def Query.projected (query : Query) : List Projected :=
  query.selectColumns.map .column ++ query.aggregations.map Aggregation.projected

def Filter.bound (filter : Filter) : BoundFilter :=
  match filter.operator with
  | .equals | .other _ => ⟨filter.column, .equal, filter.value⟩
  | .contains | .like => ⟨filter.column, .like, "%" ++ filter.value ++ "%"⟩
  | .greaterThan => ⟨filter.column, .greater, filter.value⟩
  | .lessThan => ⟨filter.column, .less, filter.value⟩

def Query.normalForm (table : Table) (query : Query) : NormalForm where
  projection := if query.projected = [] then [lastResort table] else query.projected
  filters := query.filters.map Filter.bound
  groupBy := query.groupBy
  orderBy := query.orderBy
  limit := query.limit

/-! ## The statement of a normal form -/

def Projected.item : Projected → SelectItem
  | .column name => { expr := .column name }
  | .aggregate function argument resultName =>
      { expr := .call function.name [argument.elim .star .column], resultName }
  | .rows => { expr := .star }

def Projected.isNamed (name : String) : Projected → Bool
  | .aggregate _ _ resultName => resultName == some name
  | _ => false

/-- Whether a result of the projection goes by this name. -/
def NormalForm.isResultName (form : NormalForm) (name : String) : Bool :=
  form.projection.any (Projected.isNamed name)

def BoundFilter.condition (filter : BoundFilter) (index : Nat) : Expr :=
  .binary filter.comparison (.column filter.column) (.parameter index)

/-- The conditions of filters whose values are bound from `index` on. -/
def conditionsFrom (index : Nat) (filters : List BoundFilter) : List Expr :=
  (filters.zipIdx index).map fun entry => entry.1.condition entry.2

def NormalForm.sortItem (form : NormalForm) (key : SortKey) : SortItem :=
  { expr := if form.isResultName key.column then .resultName key.column else .column key.column
    descending := key.direction == .descending }

def NormalForm.select (source : String) (form : NormalForm) : Select :=
  (conditionsFrom 1 form.filters).foldl Select.filter
    { items := form.projection.map Projected.item
      source := some source
      groupBy := form.groupBy.toList.map .column
      orderBy := form.orderBy.toList.map form.sortItem
      limit := form.limit.map fun _ => .parameter (form.filters.length + 1) }

/-- The values that are bound, in the order of the text. -/
def NormalForm.parameters (form : NormalForm) : List Value :=
  form.filters.map (fun filter => .text filter.value) ++
    form.limit.toList.map fun limit => .integer limit.toNat

def NormalForm.statement (source : String) (dialect : Dialect) (form : NormalForm) : Statement :=
  { select := form.select source, dialect, parameters := form.parameters }

/-- What the compiler has checked of a normal form: a result that rows are sorted by
has a plain name, and the limit is a positive number that fits 64 bits with sign. -/
structure NormalForm.Checked (form : NormalForm) : Prop where
  plain : ∀ key ∈ form.orderBy, form.isResultName key.column → isPlainName key.column
  limited : ∀ limit ∈ form.limit, 0 < limit.toNat ∧ fitsSigned limit.toNat

theorem conditions_from_cons (index : Nat) (filter : BoundFilter) (others : List BoundFilter) :
    conditionsFrom index (filter :: others) =
      filter.condition index :: conditionsFrom (index + 1) others := by
  simp [conditionsFrom]

theorem filter_parameter {form : NormalForm} {place : Nat} {filter : BoundFilter}
    (filtered : form.filters[place]? = some filter) :
    form.parameters[place]? = some (.text filter.value) := by
  have inside : place < form.filters.length := (List.getElem?_eq_some_iff.mp filtered).1
  rw [NormalForm.parameters, List.getElem?_append_left (by simpa using inside), List.getElem?_map,
    filtered]
  rfl

/-! ## Compiling -/

theorem normal_form_projection_nonempty (table : Table) (query : Query) :
    (query.normalForm table).projection ≠ [] := by
  unfold Query.normalForm
  by_cases empty : query.projected = []
  · simp [empty]
  · simp [empty]

theorem aggregation_item_eq (aggregation : Aggregation) :
    aggregation.item = aggregation.projected.item := by
  by_cases rows : aggregation.column = "*"
  · simp [Aggregation.item, Aggregation.projected, Aggregation.isOfRows, Projected.item, rows]
  · simp [Aggregation.item, Aggregation.projected, Aggregation.isOfRows, Projected.item, rows]

theorem projection_eq (table : Table) (query : Query) :
    projection table query = (query.normalForm table).projection.map Projected.item := by
  have items : query.selectColumns.map (fun name => ({ expr := .column name } : SelectItem)) ++
      query.aggregations.map Aggregation.item = query.projected.map Projected.item := by
    simp [Query.projected, Projected.item, aggregation_item_eq, Function.comp_def]
  unfold projection
  rw [items]
  by_cases empty : query.projected = []
  · cases columns : table.columns with
    | nil => simp [Query.normalForm, empty, lastResort, columns, Table.firstColumn?, Projected.item]
    | cons column rest =>
        simp [Query.normalForm, empty, lastResort, columns, Table.firstColumn?, Projected.item]
  · simp [Query.normalForm, empty]

theorem normal_form_is_result_name (table : Table) (query : Query) (name : String) :
    (query.normalForm table).isResultName name = query.isResultName name := by
  have projected : query.projected.any (Projected.isNamed name) = query.isResultName name := by
    simp [Query.projected, Query.isResultName, Projected.isNamed, Aggregation.projected,
      Function.comp_def]
  by_cases empty : query.projected = []
  · have none : query.isResultName name = false := by rw [← projected, empty]; rfl
    rw [none]
    unfold NormalForm.isResultName Query.normalForm lastResort
    cases table.columns <;> simp [empty, Projected.isNamed]
  · simpa [NormalForm.isResultName, Query.normalForm, empty] using projected

theorem filter_compile_eq_ok {strict : Bool} {index : Nat} {filter : Filter} {result : Expr × Value}
    (compiled : filter.compile strict index = .ok result) :
    result = (filter.bound.condition index, .text filter.bound.value) := by
  obtain ⟨⟨comparison, isPattern⟩, compared, compiled⟩ := except_bind_eq_ok compiled
  cases compiled
  revert compared
  unfold Filter.comparison Filter.bound
  cases filter.operator with
  | other name =>
      cases strict with
      | true =>
          rintro ⟨⟩
      | false =>
          rintro ⟨⟩
          rfl
  | _ =>
      rintro ⟨⟩
      rfl

theorem compile_filters_eq_ok {strict : Bool} {index : Nat} {filters : List Filter}
    {result : List (Expr × Value)} (compiled : compileFilters strict index filters = .ok result) :
    result.map Prod.fst = conditionsFrom index (filters.map Filter.bound) ∧
      result.map Prod.snd = filters.map fun filter => .text filter.bound.value := by
  induction filters generalizing index result with
  | nil =>
      cases compiled
      exact ⟨rfl, rfl⟩
  | cons filter filters ih =>
      obtain ⟨first, firstCompiled, compiled⟩ := except_bind_eq_ok compiled
      obtain ⟨others, othersCompiled, compiled⟩ := except_bind_eq_ok compiled
      cases compiled
      obtain ⟨conditions, values⟩ := ih othersCompiled
      rw [filter_compile_eq_ok firstCompiled]
      constructor
      · simp [conditions, conditions_from_cons]
      · simp [values]

theorem sort_item_eq_ok (table : Table) {query : Query} {key : SortKey} {item : SortItem}
    (sorted : sortItem query key = .ok item) :
    item = (query.normalForm table).sortItem key ∧
      ((query.normalForm table).isResultName key.column → isPlainName key.column) := by
  unfold sortItem at sorted
  unfold NormalForm.sortItem
  rw [normal_form_is_result_name]
  split at sorted
  · split at sorted
    · cases sorted
      simp_all
    · cases sorted
  · cases sorted
    simp_all

theorem limit_value_eq_ok {limit : UInt64} {value : Int} (accepted : limitValue limit = .ok value) :
    value = limit.toNat ∧ 0 < limit.toNat ∧ fitsSigned limit.toNat := by
  unfold limitValue at accepted
  split at accepted
  · rename_i fits
    cases accepted
    rw [Bool.and_eq_true, decide_eq_true_eq] at fits
    exact ⟨rfl, fits⟩
  · cases accepted

theorem sort_items_eq_ok (table : Table) {query : Query} {items : List SortItem}
    (sorted : query.orderBy.toList.mapM (sortItem query) = .ok items) :
    items = query.orderBy.toList.map (query.normalForm table).sortItem ∧
      ∀ key ∈ query.orderBy,
        (query.normalForm table).isResultName key.column → isPlainName key.column := by
  cases order : query.orderBy with
  | none =>
      rw [order] at sorted
      cases sorted
      simp
  | some key =>
      rw [order] at sorted
      simp only [Option.toList_some, List.mapM_cons, List.mapM_nil] at sorted
      obtain ⟨item, itemSorted, sorted⟩ := except_bind_eq_ok sorted
      cases sorted
      obtain ⟨rfl, plain⟩ := sort_item_eq_ok table itemSorted
      simpa using plain

theorem limit_eq_ok {limit : Option UInt64} {value : Option Int}
    (accepted : limit.mapM limitValue = .ok value) :
    value = limit.map (fun number => (number.toNat : Int)) ∧
      ∀ number ∈ limit, 0 < number.toNat ∧ fitsSigned number.toNat := by
  cases limit with
  | none =>
      cases accepted
      simp
  | some number =>
      obtain ⟨bound, boundAccepted, accepted⟩ := except_bind_eq_ok accepted
      cases accepted
      obtain ⟨rfl, limited⟩ := limit_value_eq_ok boundAccepted
      simpa using limited

/-- The statement that is put together from accepted parts is that of the normal form. -/
theorem built_statement_eq {table : Table} {query : Query} {strict : Bool}
    {filters : List (Expr × Value)} {orderBy : List SortItem} {limit : Option Int}
    (compiled : compileFilters strict 1 query.filters = .ok filters)
    (sorted : query.orderBy.toList.mapM (sortItem query) = .ok orderBy)
    (accepted : query.limit.mapM limitValue = .ok limit) (dialect : Dialect) :
    ({ select := (filters.map Prod.fst).foldl Select.filter
        { items := projection table query
          source := some table.name
          groupBy := query.groupBy.toList.map .column
          orderBy
          limit := limit.map fun _ => .parameter (filters.length + 1) }
       dialect
       parameters := filters.map Prod.snd ++ limit.toList.map .integer } : Statement) =
      (query.normalForm table).statement table.name dialect := by
  obtain ⟨conditions, values⟩ := compile_filters_eq_ok compiled
  obtain ⟨rfl, _⟩ := sort_items_eq_ok table sorted
  obtain ⟨rfl, _⟩ := limit_eq_ok accepted
  have count : filters.length = query.filters.length := by
    simpa [conditionsFrom] using congrArg List.length conditions
  have limits : (query.limit.map fun number => (number.toNat : Int)).toList.map Value.integer =
      query.limit.toList.map fun number => .integer number.toNat := by
    cases query.limit <;> rfl
  rw [conditions, values, projection_eq, count, limits]
  simp [NormalForm.statement, NormalForm.select, NormalForm.parameters, Query.normalForm,
    Option.map_map, Function.comp_def]

/-- A query that compiles becomes the statement of its normal form. -/
theorem compile_with_eq_ok {isReadable : Statement → Bool} {table : Table}
    {options : CompileOptions} {query : Query} {statement : Statement}
    (compiled : compileWith isReadable table options query = .ok statement) :
    query.targetTable = table.name ∧ (query.normalForm table).Checked ∧
      statement = (query.normalForm table).statement table.name options.dialect := by
  by_cases missing : query.targetTable.isEmpty
  · simp only [compileWith, if_pos missing] at compiled
    cases compiled
  by_cases unknown : query.targetTable ≠ table.name
  · simp only [compileWith, if_neg missing, if_pos unknown] at compiled
    cases compiled
  simp only [compileWith, if_neg missing, if_neg unknown] at compiled
  obtain ⟨filters, filtersCompiled, compiled⟩ := except_bind_eq_ok compiled
  obtain ⟨orderBy, sorted, compiled⟩ := except_bind_eq_ok compiled
  obtain ⟨limit, accepted, compiled⟩ := except_bind_eq_ok compiled
  have plain := (sort_items_eq_ok table sorted).2
  have limited := (limit_eq_ok accepted).2
  refine ⟨Decidable.not_not.mp unknown, ⟨plain, limited⟩, ?_⟩
  split at compiled
  · cases compiled
  · cases compiled
    exact built_statement_eq filtersCompiled sorted accepted options.dialect

theorem compile_eq_ok {table : Table} {options : CompileOptions} {query : Query}
    {statement : Statement} (compiled : compile table options query = .ok statement) :
    query.targetTable = table.name ∧ (query.normalForm table).Checked ∧
      statement = (query.normalForm table).statement table.name options.dialect :=
  compile_with_eq_ok compiled

end TableTalk
