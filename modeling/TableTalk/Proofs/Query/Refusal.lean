import TableTalk.Proofs.Query.NormalForm
import TableTalk.Proofs.Sql.Select

/-!
# When queries are refused

Each check of the compiler as the error that it gives, and compiling as the first of
these errors or else the statement of the normal form. The values of filters have no
part in any of the checks.
-/

namespace TableTalk

open TableTalk.Catalog
open TableTalk.Sql

set_option autoImplicit false

/-- A limit that lets rows through and fits 64 bits with sign: at most 2^63 - 1. -/
def Bindable (limit : UInt64) : Prop := 1 ≤ limit.toNat ∧ limit.toNat ≤ 9223372036854775807

instance (limit : UInt64) : Decidable (Bindable limit) :=
  inferInstanceAs (Decidable (_ ∧ _))

def Filter.refusal (strict : Bool) (filter : Filter) : Option CompileError :=
  match filter.operator with
  | .other name => if strict then some (.unsupportedOperator name filter.column) else none
  | _ => none

def SortKey.refusal (query : Query) (key : SortKey) : Option CompileError :=
  if query.isResultName key.column ∧ ¬isPlainName key.column then
    some (.invalidResultName key.column)
  else none

def limitRefusal (limit : UInt64) : Option CompileError :=
  if Bindable limit then none else some (.limitOutOfRange limit)

/-- Whether rows are sorted by a result whose name cannot be read back without quotes. -/
def Query.sortsByReserved (dialect : Dialect) (query : Query) : Bool :=
  query.orderBy.any fun key =>
    query.isResultName key.column && isReservedResultName dialect key.column

/-- The first check that a query does not pass, with the caller's word on which statements
can be read back. -/
def Query.refusalWith (isReadable : Statement → Bool) (table : Table)
    (options : CompileOptions) (query : Query) : Option CompileError :=
  if query.targetTable = "" then some .missingTargetTable
  else if query.targetTable ≠ table.name then some (.unknownTable query.targetTable)
  else (query.filters.findSome? (Filter.refusal options.strictOperators)).or <|
    (query.orderBy.bind (SortKey.refusal query)).or <|
    (query.limit.bind limitRefusal).or <|
    if options.verifyStatement &&
        !isReadable ((query.normalForm table).statement table.name options.dialect) then
      some .invalidStatement
    else none

def Query.refusal (table : Table) (options : CompileOptions) (query : Query) :
    Option CompileError :=
  query.refusalWith Statement.isReadable table options

/-! ## The checks one by one -/

theorem comparison_error (strict : Bool) (filter : Filter) :
    errorOf (filter.comparison strict) = filter.refusal strict := by
  unfold Filter.comparison Filter.refusal
  cases filter.operator with
  | other name => cases strict <;> rfl
  | _ => rfl

theorem filter_compile_error (strict : Bool) (index : Nat) (filter : Filter) :
    errorOf (filter.compile strict index) = filter.refusal strict := by
  unfold Filter.compile
  rw [error_of_bind_total fun _ => rfl, comparison_error]

theorem compile_filters_error (strict : Bool) (index : Nat) (filters : List Filter) :
    errorOf (compileFilters strict index filters) =
      filters.findSome? (Filter.refusal strict) := by
  induction filters generalizing index with
  | nil => rfl
  | cons filter filters ih =>
      have others : ∀ compiled, errorOf (do
          let others ← compileFilters strict (index + 1) filters
          return compiled :: others : Except CompileError (List (Expr × Value))) =
            filters.findSome? (Filter.refusal strict) := by
        intro compiled
        rw [error_of_bind_total fun _ => rfl, ih]
      unfold compileFilters
      rw [error_of_bind (fun compiled _ => others compiled), filter_compile_error,
        List.findSome?_cons]
      cases filter.refusal strict with
      | none => rfl
      | some error => rfl

theorem sort_item_error (query : Query) (key : SortKey) :
    errorOf (sortItem query key) = key.refusal query := by
  unfold sortItem SortKey.refusal
  by_cases named : query.isResultName key.column
  · by_cases plain : isPlainName key.column
    · simp [named, plain, errorOf]
    · simp [named, plain, errorOf]
  · simp [named, errorOf]

theorem sort_items_error (query : Query) :
    errorOf (query.orderBy.toList.mapM (sortItem query)) =
      query.orderBy.bind (SortKey.refusal query) := by
  cases query.orderBy with
  | none => rfl
  | some key =>
      simp only [Option.toList_some, List.mapM_cons, List.mapM_nil, Option.bind_some]
      rw [error_of_bind_total fun _ => rfl, sort_item_error]

theorem limit_value_error (limit : UInt64) :
    errorOf (limitValue limit) = limitRefusal limit := by
  have bounds : (0 < limit.toNat && fitsSigned limit.toNat) = true ↔ Bindable limit := by
    simp only [fitsSigned, Bindable, Bool.and_eq_true, decide_eq_true_eq]
    omega
  unfold limitValue limitRefusal
  by_cases bindable : Bindable limit
  · rw [if_pos (bounds.mpr bindable), if_pos bindable]
    rfl
  · rw [if_neg (mt bounds.mp bindable), if_neg bindable]
    rfl

theorem limit_error (limit : Option UInt64) :
    errorOf (limit.mapM limitValue) = limit.bind limitRefusal := by
  cases limit with
  | none => rfl
  | some number =>
      have mapped : (some number).mapM limitValue = some <$> limitValue number := rfl
      rw [mapped, error_of_map, limit_value_error, Option.bind_some]

/-- A statement can be read back unless its rows are sorted by a reserved name. -/
theorem normal_form_readable (table : Table) (query : Query) (source : String)
    (dialect : Dialect) :
    ((query.normalForm table).statement source dialect).isReadable =
      !query.sortsByReserved dialect := by
  have sorted : ((query.normalForm table).select source).orderBy =
      query.orderBy.toList.map (query.normalForm table).sortItem := by
    obtain ⟨_, folded⟩ := filter_fold_frame (conditionsFrom 1 (query.normalForm table).filters) _
    rw [NormalForm.select, folded]
    rfl
  unfold Statement.isReadable Query.sortsByReserved
  rw [NormalForm.statement, sorted]
  cases query.orderBy with
  | none => rfl
  | some key =>
      simp only [Option.toList_some, List.map_cons, List.map_nil, List.all_cons, List.all_nil,
        Bool.and_true, Option.any_some, NormalForm.sortItem, normal_form_is_result_name]
      by_cases named : query.isResultName key.column
      · simp [named]
      · simp [named]

/-! ## Compiling -/

theorem compile_with_error (isReadable : Statement → Bool) (table : Table)
    (options : CompileOptions) (query : Query) :
    errorOf (compileWith isReadable table options query) =
      query.refusalWith isReadable table options := by
  unfold Query.refusalWith
  by_cases missing : query.targetTable.isEmpty
  · have empty : query.targetTable = "" := by simpa using missing
    simp only [compileWith, if_pos missing, if_pos empty]
    rfl
  have nonempty : query.targetTable ≠ "" := by simpa using missing
  by_cases unknown : query.targetTable ≠ table.name
  · simp only [compileWith, if_neg missing, if_pos unknown, if_neg nonempty]
    rfl
  simp only [compileWith, if_neg missing, if_neg unknown, if_neg nonempty]
  -- Each part puts its own error before those of the parts after it.
  rw [error_of_bind, compile_filters_error]
  intro filters compiled
  rw [error_of_bind, sort_items_error]
  intro orderBy sorted
  rw [error_of_bind, limit_error]
  intro limit accepted
  rw [built_statement_eq compiled sorted accepted]
  split
  · rfl
  · rfl

/-- Compiling gives the first error there is, or the statement of the normal form. -/
theorem compile_with_eq (isReadable : Statement → Bool) (table : Table)
    (options : CompileOptions) (query : Query) :
    compileWith isReadable table options query =
      match query.refusalWith isReadable table options with
      | some error => .error error
      | none => .ok ((query.normalForm table).statement table.name options.dialect) := by
  have outcome := compile_with_error isReadable table options query
  cases refused : query.refusalWith isReadable table options with
  | some error =>
      rw [refused] at outcome
      exact eq_error_of_error_of outcome
  | none =>
      rw [refused] at outcome
      obtain ⟨statement, compiled⟩ := eq_ok_of_error_of outcome
      obtain ⟨_, _, written⟩ := compile_with_eq_ok compiled
      rw [compiled, written]

theorem compile_eq (table : Table) (options : CompileOptions) (query : Query) :
    compile table options query = match query.refusal table options with
      | some error => .error error
      | none => .ok ((query.normalForm table).statement table.name options.dialect) :=
  compile_with_eq Statement.isReadable table options query

end TableTalk
