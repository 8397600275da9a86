import TableTalk.Proofs.Database.Ranking
import TableTalk.Proofs.Database.Selecting
import TableTalk.Proofs.Query.Emitted

/-!
# Tallies

The answer to a statement that counts rows for each value of a TEXT column and keeps the greatest
counts is a ranking of these values among the rows that meet its filters.
-/

namespace TableTalk.Database

open TableTalk.Sql
open TableTalk.Text

set_option autoImplicit false

/-- Rows are counted for each value of a column; without a key, whole rows are. -/
def tallyForm (group : String) (key : Option String) (resultName : String)
    (filters : List BoundFilter) (limit : UInt64) : NormalForm where
  projection := [.column group, .aggregate .count key (some resultName)]
  filters
  groupBy := some group
  orderBy := some ⟨resultName, .descending⟩
  limit := some limit

/-- Whether a row counts: without a key all rows do, otherwise those with a key. -/
def StoredTable.counts (table : StoredTable) (key : Option String) (row : Row) : Bool :=
  key.all fun name => !(table.value name row).isNull

/-- A table in which a tally finds its columns. -/
structure Tallied (table : StoredTable) (group : String) (key : Option String)
    (filters : List BoundFilter) : Prop where
  grouped : table.HasText group
  counted : ∀ name ∈ key, ∃ column, table.column? name = some column
  filtered : ∀ filter ∈ filters, filter.comparison = .equal ∧ table.HasText filter.column

section

variable {scope : Scope} {group resultName : String} {key : Option String}
  {filters : List BoundFilter} {limit : UInt64} {source : String}

def countOf (key : Option String) : Expr := .call "COUNT" [key.elim .star .column]

/-- The statement of a tally with a condition, whose limit is the parameter `index`. -/
def tallySelect (group : String) (key : Option String) (resultName source : String)
    (condition : Option Expr) (index : Nat) : Select where
  items := [{ expr := .column group }, { expr := countOf key, resultName }]
  source := some source
  condition
  groupBy := [.column group]
  orderBy := [{ expr := .resultName resultName, descending := true }]
  limit := some (.parameter index)

theorem tally_select_eq (group : String) (key : Option String) (resultName : String)
    (filters : List BoundFilter) (limit : UInt64) (source : String) :
    (tallyForm group key resultName filters limit).select source =
      tallySelect group key resultName source
        ((tallyForm group key resultName filters limit).select source).condition
        (filters.length + 1) := by
  obtain ⟨condition, folded, _⟩ := filter_fold_condition (conditionsFrom 1 filters)
    (tallySelect group key resultName source none (filters.length + 1)) rfl
  have named : (tallyForm group key resultName filters limit).isResultName resultName = true := by
    simp [tallyForm, NormalForm.isResultName, Projected.isNamed]
  have item : (tallyForm group key resultName filters limit).sortItem
      ⟨resultName, .descending⟩ = { expr := .resultName resultName, descending := true } := by
    rw [NormalForm.sortItem, named]
    rfl
  have select : (tallyForm group key resultName filters limit).select source =
      (conditionsFrom 1 filters).foldl Select.filter
        (tallySelect group key resultName source none (filters.length + 1)) := by
    unfold NormalForm.select
    simp only [tallyForm, Option.toList_some, List.map_cons, List.map_nil] at item ⊢
    rw [item]
    rfl
  rw [select, folded]
  rfl

/-! ## Names -/

theorem check_names_found {names : List String}
    (found : ∀ name ∈ names, (scope.table.columnIndex? name).isSome) :
    scope.checkNames names = .ok () := by
  have none : names.find? (fun name => (scope.table.columnIndex? name).isNone) = none := by
    apply List.find?_eq_none.mpr
    intro name listed
    simp [Option.isSome_iff_ne_none.mp (found name listed)]
  rw [Scope.checkNames, none]

theorem check_row_names_found {names : List String} (items : List SelectItem)
    (found : ∀ name ∈ names, (scope.table.columnIndex? name).isSome) :
    scope.checkRowNames items names = .ok () := by
  have none : names.find? (fun name =>
      (scope.table.columnIndex? name).isNone && (namedItem? items name).isSome) = none := by
    apply List.find?_eq_none.mpr
    intro name listed
    simp [Option.isSome_iff_ne_none.mp (found name listed)]
  rw [Scope.checkRowNames, none]
  exact check_names_found found

theorem folded_names {select : Select} {conditions : List Expr} {known : String → Prop}
    (earlier : ∀ name ∈ select.condition.toList.flatMap columnNames, known name)
    (each : ∀ condition ∈ conditions, ∀ name ∈ columnNames condition, known name) :
    ∀ name ∈ (conditions.foldl Select.filter select).condition.toList.flatMap columnNames,
      known name := by
  induction conditions generalizing select with
  | nil => exact earlier
  | cons condition conditions ih =>
      obtain ⟨first, others⟩ := List.forall_mem_cons.mp each
      apply ih _ others
      intro name member
      cases present : select.condition with
      | none =>
          simp only [Select.filter, present, Option.toList_some, List.flatMap_singleton] at member
          exact first name member
      | some whole =>
          simp only [Select.filter, present, Option.toList_some, List.flatMap_singleton,
            columnNames] at member earlier
          rcases List.mem_append.mp member with before | last
          · exact earlier name before
          · exact first name last

theorem tally_items (scope : Scope) (group : String) (key : Option String)
    (resultName source : String) (condition : Option Expr) (index : Nat) :
    scope.items (tallySelect group key resultName source condition index) =
      [{ expr := .column group }, { expr := countOf key, resultName }] := rfl

/-- What is sorted by is the count itself, whatever columns go by its name. -/
theorem sorted_by_count (group : String) (key : Option String) (resultName : String) :
    sortExpr [{ expr := .column group }, { expr := countOf key, resultName := some resultName }]
      (.resultName resultName) = countOf key := by
  simp [sortExpr, namedItem?, equal_ascii_case_refl]

theorem condition_names_found (resultName source : String) (limit : UInt64)
    (tallied : Tallied scope.table group key filters) :
    ∀ name ∈ ((tallyForm group key resultName filters limit).select
        source).condition.toList.flatMap columnNames, (scope.table.columnIndex? name).isSome := by
  unfold NormalForm.select
  apply folded_names
  · exact fun _ absent => absurd absent List.not_mem_nil
  · intro condition member name named
    obtain ⟨entry, listed, rfl⟩ := List.mem_map.mp member
    simp only [BoundFilter.condition, columnNames, List.append_nil, List.mem_singleton] at named
    obtain ⟨_, filtered⟩ := List.mem_zipIdx_iff_le_and_getElem?_sub.mp listed
    obtain ⟨index, known, _⟩ := index_of_column
      (tallied.filtered entry.1 (List.mem_of_getElem? filtered)).2.found
    rw [named, known]
    rfl

theorem count_names_found (tallied : Tallied scope.table group key filters) :
    ∀ name ∈ columnNames (countOf key), (scope.table.columnIndex? name).isSome := by
  intro name named
  cases key with
  | none => cases named
  | some counted =>
      obtain ⟨column, found⟩ := tallied.counted counted rfl
      obtain ⟨index, known, _⟩ := index_of_column found
      rw [List.mem_singleton.mp named, known]
      rfl

theorem count_recognized : aggregate? "COUNT" = some .count := by decide +kernel

theorem count_accepted (key : Option String) : checkCall (countOf key) = .ok () := by
  unfold countOf checkCall
  simp only [count_recognized]

/-- A statement is accepted if each of its clauses is. -/
theorem check_of_clauses {select : Select} {items : List SelectItem}
    (projected : scope.items select = items) (few : items.length ≤ maxColumns)
    (calls : (items.forM fun item => checkCall item.expr) = .ok ())
    (itemNames : scope.checkNames (items.flatMap fun item => columnNames item.expr) = .ok ())
    (rowNames : scope.checkRowNames items (select.condition.toList.flatMap columnNames) = .ok ())
    (groupNames : scope.checkRowNames items (select.groupBy.flatMap columnNames) = .ok ())
    (sortNames : scope.checkNames (select.orderBy.flatMap fun item =>
      columnNames (sortExpr items item.expr)) = .ok ()) :
    scope.check select = .ok () := by
  unfold Scope.check
  rw [projected, if_neg (Nat.not_lt.mpr few), calls]
  change (scope.checkNames _ >>= _) = _
  rw [itemNames]
  change (scope.checkRowNames items _ >>= _) = _
  rw [rowNames]
  change (scope.checkRowNames items _ >>= _) = _
  rw [groupNames]
  exact sortNames

theorem tally_checked (tallied : Tallied scope.table group key filters) :
    scope.check ((tallyForm group key resultName filters limit).select source) = .ok () := by
  have conditionNames := condition_names_found resultName source limit tallied
  have countNames := count_names_found tallied
  have groupName : (scope.table.columnIndex? group).isSome := by
    obtain ⟨index, known, _⟩ := index_of_column tallied.grouped.found
    rw [known]
    rfl
  rw [tally_select_eq]
  generalize ((tallyForm group key resultName filters limit).select source).condition =
    condition at *
  apply check_of_clauses (tally_items scope group key resultName source condition _)
  · exact (by decide : 2 ≤ maxColumns)
  · change (checkCall (countOf key) >>= fun _ => pure ()) = _
    rw [count_accepted]
    rfl
  · apply check_names_found
    rw [List.flatMap_cons, List.flatMap_singleton]
    exact List.forall_mem_cons.mpr ⟨groupName, countNames⟩
  · exact check_row_names_found _ conditionNames
  · exact check_row_names_found _ (List.forall_mem_singleton.mpr groupName)
  · apply check_names_found
    change ∀ name ∈ columnNames (sortExpr _ (.resultName resultName)) ++ [], _
    rw [List.append_nil, sorted_by_count]
    exact countNames

/-! ## Groups -/

theorem count_of_group (tallied : Tallied scope.table group key filters) (part : Group) :
    scope.grouped part (countOf key) =
      .ok (.integer (part.rows.countP (scope.table.counts key))) := by
  cases key with
  | none =>
      have all : part.rows.countP (scope.table.counts none) = part.rows.length :=
        List.countP_eq_length.mpr fun _ _ => rfl
      simp only [countOf, Option.elim_none, Scope.grouped, count_recognized, if_true, all]
  | some name =>
      obtain ⟨column, found⟩ := tallied.counted name rfl
      have cells : (part.rows.mapM fun row => scope.scalar row (.column name)) =
          .ok (part.rows.map (scope.table.value name)) :=
        map_all_eq_ok fun row _ => scalar_column found row
      simp only [countOf, Option.elim_some, Scope.grouped, count_recognized, cells]
      change Except.ok (Cell.integer _) = _
      rw [List.countP_map]
      rfl

theorem tally_groups (tallied : Tallied scope.table group key filters) {rows : List Row}
    (stored : rows ⊆ scope.table.rows) (condition : Option Expr) (index : Nat) :
    scope.groups (tallySelect group key resultName source condition index) rows =
      .ok ((runsDown (scope.table.value group) rows).map fun part => ⟨part, part.headD []⟩) := by
  have runs : scope.groupRows [.column group] [true] rows =
      .ok (runsDown (scope.table.value group) rows) := by
    apply group_rows_eq
    · exact fun row _ => scalar_column tallied.grouped.found row
    · exact fun row listed => textual_exact (tallied.grouped.textual row (stored listed))
  have plain : extreme? (countOf key) = none := by
    simp only [countOf, extreme?, count_recognized]
  have asked : scope.distinct ((scope.items (tallySelect group key resultName source condition
      index)).filterMap fun item => extreme? item.expr) = [] := by
    have column : extreme? (.column group) = none := rfl
    rw [tally_items]
    simp only [List.filterMap_cons, List.filterMap_nil, column, plain]
    rfl
  have shown : ((runsDown (scope.table.value group) rows).mapM fun part => do
      return ({ rows := part, shown := ← scope.shownRow [] part } : Group)) =
        .ok ((runsDown (scope.table.value group) rows).map fun part => ⟨part, part.headD []⟩) :=
    map_all_eq_ok fun part _ => rfl
  unfold Scope.groups
  simp only [asked]
  simp only [tallySelect, groupDirections, List.isEmpty_cons, Bool.not_false, if_true,
    List.length_cons, List.length_nil, List.map_cons, List.map_nil]
  rw [runs]
  exact shown

theorem tally_sorted (tallied : Tallied scope.table group key filters) (parts : List Group)
    (condition : Option Expr) (index : Nat) :
    scope.sortGroups (tallySelect group key resultName source condition index) parts =
      .ok (sortedDown (fun part => .integer (part.rows.countP (scope.table.counts key)))
        parts) := by
  let cell : Group → Cell := fun part => .integer (part.rows.countP (scope.table.counts key))
  have keyed : (parts.mapM fun part => do
      return (← [SortItem.mk (.resultName resultName) true].mapM fun (item : SortItem) =>
        scope.grouped part
          (sortExpr [{ expr := .column group }, { expr := countOf key, resultName }] item.expr),
        part)) = .ok (parts.map fun part => ([cell part], part)) := by
    apply map_all_eq_ok
    intro part _
    rw [List.mapM_cons, sorted_by_count, count_of_group tallied]
    rfl
  have sorted : sortByKeys [true] (parts.map fun part => ([cell part], part)) =
      (sortedDown cell parts).map fun part => ([cell part], part) :=
    sort_by_cell fun _ _ => Bool.false_ne_true
  have partsBack : ((sortedDown cell parts).map fun part => ([cell part], part)).map Prod.snd =
      sortedDown cell parts := by
    simp [Function.comp_def]
  unfold Scope.sortGroups
  simp only [tally_items]
  simp only [tallySelect, List.isEmpty_cons, Bool.false_eq_true, if_false]
  rw [keyed]
  change Except.ok ((sortByKeys [true] _).map Prod.snd) = _
  rw [sorted, partsBack]

theorem tally_limit (limit : UInt64) (condition : Option Expr)
    (bound : scope.parameters.getD filters.length .null = .integer limit.toNat) :
    scope.limit? (tallySelect group key resultName source condition (filters.length + 1)) =
      .ok (some limit.toNat) := by
  have value : scope.scalar [] (.parameter (filters.length + 1)) = .ok (.integer limit.toNat) := by
    rw [Scope.scalar, Nat.add_sub_cancel, bound]
  have positive : ¬((limit.toNat : Int) < 0) := by omega
  simp only [Scope.limit?, tallySelect]
  rw [value]
  change Except.ok (if (limit.toNat : Int) < 0 then none else some (limit.toNat : Int).toNat) = _
  rw [if_neg positive, Int.toNat_natCast]

/-! ## The answer -/

/-- An answer is assembled from the results of the clauses. -/
theorem answer_of_clauses {select : Select} {bound : Nat} {rows : List Row}
    {parts sorted : List Group} {projected : List Row}
    (limited : scope.limit? select = .ok (some bound)) (positive : 0 < bound)
    (selected : scope.selectRows select.condition = .ok rows)
    (grouped : scope.groups select rows = .ok parts)
    (ordered : scope.sortGroups select parts = .ok sorted)
    (shown : ((sorted.take bound).mapM fun part =>
      (scope.items select).mapM fun item => scope.grouped part item.expr) = .ok projected) :
    scope.answer select =
      .ok { columns := (scope.items select).map scope.resultName, rows := projected } := by
  have unlimited : ¬some bound = some 0 := by
    simpa using Nat.ne_of_gt positive
  unfold Scope.answer
  rw [limited]
  change (if some bound = some 0 then _ else _) = _
  rw [if_neg unlimited, selected]
  change (scope.groups select rows >>= _) = _
  rw [grouped]
  change (scope.sortGroups select parts >>= _) = _
  rw [ordered]
  change ((sorted.take bound).mapM (fun part =>
    (scope.items select).mapM fun item => scope.grouped part item.expr) >>= _) = _
  rw [shown]
  rfl

theorem tally_answer (scope : Scope) (resultName source : String)
    (tallied : Tallied scope.table group key filters) (positive : 0 < limit.toNat)
    (bound : scope.parameters =
      (tallyForm group key resultName filters limit).parameters.map Cell.ofValue) :
    ∃ ranking, Ranks (scope.table.value group) (scope.table.counts key)
        (scope.table.rows.filter fun row => filters.all fun filter =>
          scope.table.value filter.column row = .text filter.value) limit.toNat ranking ∧
      scope.answer ((tallyForm group key resultName filters limit).select source) =
        .ok { columns := [group, resultName]
              rows := ranking.map fun entry => [entry.1, .integer entry.2] } := by
  let value := scope.table.value group
  let counts := scope.table.counts key
  let rows := scope.table.rows.filter fun row => filters.all fun filter =>
    scope.table.value filter.column row = .text filter.value
  let parts : List Group := (runsDown value rows).map fun part => ⟨part, part.headD []⟩
  let entry : Group → Cell × Nat := fun part => (value part.shown, part.rows.countP counts)
  let sorted := sortedDown (fun part => .integer (entry part).2) parts
  have selected : scope.selectRows ((tallyForm group key resultName filters limit).select
      source).condition = .ok rows := normal_form_rows tallied.filtered bound
  have stored : rows ⊆ scope.table.rows := List.filter_subset_self _
  have exact : ∀ row ∈ rows, ¬(value row).isReal :=
    fun row listed => textual_exact (tallied.grouped.textual row (stored listed))
  have limitBound : scope.parameters.getD filters.length .null = .integer limit.toNat := by
    rw [bound]
    simp [NormalForm.parameters, tallyForm, Cell.ofValue]
  have shown : ((sorted.take limit.toNat).mapM fun part =>
      [SelectItem.mk (.column group) none, ⟨countOf key, some resultName⟩].mapM
        fun item => scope.grouped part item.expr) =
          .ok ((sorted.take limit.toNat).map fun part =>
            [(entry part).1, .integer (entry part).2]) := by
    apply map_all_eq_ok
    intro part _
    have first : scope.grouped part (.column group) = .ok (value part.shown) :=
      scalar_column tallied.grouped.found part.shown
    rw [List.mapM_cons, first, List.mapM_cons, count_of_group tallied]
    rfl
  -- Sorting groups by their sizes is sorting their entries by the numbers in them.
  have ranking : (sorted.take limit.toNat).map entry =
      (sortedByCount ((runsDown value rows).map (entryOf value counts))).take limit.toNat := by
    rw [List.map_take, sorted_down_map (fun entry => .integer entry.2) entry, List.map_map]
    rfl
  have column : scope.resultName { expr := .column group } = group := by
    have found := tallied.grouped.found
    unfold StoredTable.column? at found
    simp only [Scope.resultName, found]
  refine ⟨_, groups_rank (runs_down_grouped exact) limit.toNat, ?_⟩
  rw [← ranking, List.map_map, tally_select_eq]
  generalize ((tallyForm group key resultName filters limit).select source).condition =
    condition at selected
  rw [answer_of_clauses (tally_limit limit condition limitBound) positive selected
    (tally_groups tallied stored condition _) (tally_sorted tallied parts condition _) shown,
    tally_items, List.map_cons, column]
  rfl

theorem execute_of_answer {contents : Contents} {statement : Statement} {table : StoredTable}
    {name : String} {answer : Answer} (source : statement.select.source = some name)
    (stored : contents.table? name = some table)
    (checked : Scope.check ⟨table, statement.dialect, statement.parameters.map Cell.ofValue⟩
      statement.select = .ok ())
    (count : statement.select.parameterCount = statement.parameters.length)
    (answered : Scope.answer ⟨table, statement.dialect, statement.parameters.map Cell.ofValue⟩
      statement.select = .ok answer) :
    contents.execute statement = .ok answer := by
  unfold Contents.execute
  simp only [source, Option.getD_some, stored]
  rw [checked]
  change (if statement.select.parameterCount ≠ statement.parameters.length then _ else _) = _
  rw [if_neg (not_not.mpr count)]
  exact answered

theorem execute_tally {contents : Contents} {table : StoredTable} (resultName : String)
    (stored : contents.table? source = some table) (tallied : Tallied table group key filters)
    (positive : 0 < limit.toNat) (dialect : Dialect) :
    ∃ ranking, Ranks (table.value group) (table.counts key)
        (table.rows.filter fun row => filters.all fun filter =>
          table.value filter.column row = .text filter.value) limit.toNat ranking ∧
      contents.execute ((tallyForm group key resultName filters limit).statement source dialect) =
        .ok { columns := [group, resultName]
              rows := ranking.map fun entry => [entry.1, .integer entry.2] } := by
  let form := tallyForm group key resultName filters limit
  let scope : Scope := { table, dialect, parameters := form.parameters.map Cell.ofValue }
  have named : (form.select source).source = some source := by
    rw [tally_select_eq]
    rfl
  have checked : scope.check (form.select source) = .ok () := tally_checked tallied
  have count : (form.select source).parameterCount = form.parameters.length := by
    rw [Select.parameterCount, parameter_count_eq, tokens_parameters source form,
      List.length_range']
  obtain ⟨ranking, ranks, answered⟩ := tally_answer scope resultName source tallied positive rfl
  exact ⟨ranking, ranks, execute_of_answer named stored checked count answered⟩

end

end TableTalk.Database
