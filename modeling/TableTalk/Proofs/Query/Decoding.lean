import TableTalk.Proofs.Query.Markers
import TableTalk.Proofs.Sql.Units

/-!
# Statements determine their normal forms

The text of a compiled statement says everything about the normal form but the values
that are bound: it is taken apart clause by clause, and each clause can be told from
what follows it.
-/

namespace TableTalk

open TableTalk.Catalog
open TableTalk.Sql

set_option autoImplicit false

section

variable {dialect : Dialect}

/-! ## Projections -/

theorem units_of_aggregate (function : Aggregate) (argument resultName : Option String)
    (rest : List Lexeme) :
    unitsOf dialect (Projected.aggregate function argument resultName).item.tokens ++ rest =
      function.name.toList.map .bare ++ .bare '(' ::
        ((argument.elim (.bare '*') fun name => .quoted name.toList) :: .bare ')' ::
          (unitsOf dialect (resultName.elim [] fun name =>
            [.space, .naming, .space, .identifier name]) ++ rest)) := by
  have upper : Text.upper function.name = function.name := by cases function <;> rfl
  cases argument <;> cases resultName <;>
    simp [Projected.item, SelectItem.tokens, Expr.tokens, listTokens, separated, unitsOf,
      Token.units, Token.render, upper]

theorem function_name_injective {first second : Aggregate} {x y : List Lexeme}
    (same : first.name.toList.map Lexeme.bare ++ .bare '(' :: x =
      second.name.toList.map Lexeme.bare ++ .bare '(' :: y) : first = second ∧ x = y := by
  have unopened : ∀ function : Aggregate, Lexeme.bare '(' ∉ function.name.toList.map .bare := by
    intro function
    cases function <;> decide
  have distinct : ∀ left right : Aggregate, left.name.toList = right.name.toList →
      left = right := by
    intro left right
    cases left <;> cases right <;> decide
  obtain ⟨names, rest⟩ := until_mark_injective (unopened first) (unopened second) same
  exact ⟨distinct first second (bare_map_injective names), rest⟩

theorem result_name_injective {first second : Option String} {x y : List Lexeme}
    (stopX : opening x ≠ some 'A') (stopY : opening y ≠ some 'A')
    (same : unitsOf dialect (first.elim [] fun name =>
        [.space, .naming, .space, .identifier name]) ++ x =
      unitsOf dialect (second.elim [] fun name =>
        [.space, .naming, .space, .identifier name]) ++ y) : first = second ∧ x = y := by
  have named : ∀ (name : String) (rest : List Lexeme), unitsOf dialect
      [.space, .naming, .space, .identifier name] ++ rest =
        .bare ' ' :: .bare 'A' :: .bare 'S' :: .bare ' ' :: .quoted name.toList :: rest := by
    intro name rest
    simp [unitsOf, Token.units, Token.render]
  cases first with
  | none =>
      cases second with
      | none => exact ⟨rfl, same⟩
      | some name =>
          simp only [Option.elim, named] at same
          exact absurd (congrArg opening same) stopX
  | some name =>
      cases second with
      | none =>
          simp only [Option.elim, named] at same
          exact absurd (congrArg opening same).symm stopY
      | some other =>
          simp only [Option.elim, named, List.cons.injEq, true_and] at same
          obtain ⟨names, rest⟩ := quoted_injective (List.cons_eq_cons.mpr same)
          exact ⟨congrArg _ names, rest⟩

theorem projected_injective {first second : Projected} {x y : List Lexeme}
    (stopX : opening x ≠ some 'A') (stopY : opening y ≠ some 'A')
    (same : unitsOf dialect first.item.tokens ++ x = unitsOf dialect second.item.tokens ++ y) :
    first = second ∧ x = y := by
  have column : ∀ (name : String) (rest : List Lexeme),
      unitsOf dialect (Projected.column name).item.tokens ++ rest =
        .quoted name.toList :: rest := by
    intro name rest
    simp [unitsOf, Projected.item, SelectItem.tokens, Expr.tokens, Token.units]
  have rows : ∀ rest : List Lexeme,
      unitsOf dialect Projected.rows.item.tokens ++ rest = .bare '*' :: rest := by
    intro rest
    simp [unitsOf, Projected.item, SelectItem.tokens, Expr.tokens, Token.units, Token.render]
  have lettered : ∀ function : Aggregate, ∃ c rest, function.name.toList = c :: rest ∧ c ≠ '*' := by
    intro function
    cases function <;> exact ⟨_, _, rfl, by decide⟩
  -- Entries of two kinds differ in their first unit: an identifier, the star or a letter.
  cases first with
  | column name =>
      cases second with
      | column other =>
          rw [column, column] at same
          obtain ⟨rfl, rest⟩ := quoted_injective same
          exact ⟨rfl, rest⟩
      | rows =>
          rw [column, rows] at same
          cases same
      | aggregate function argument resultName =>
          obtain ⟨c, letters, written, _⟩ := lettered function
          rw [column, units_of_aggregate, written] at same
          cases same
  | rows =>
      cases second with
      | column other =>
          rw [column, rows] at same
          cases same
      | rows =>
          rw [rows, rows] at same
          exact ⟨rfl, (List.cons.inj same).2⟩
      | aggregate function argument resultName =>
          obtain ⟨c, letters, written, other⟩ := lettered function
          rw [rows, units_of_aggregate, written] at same
          exact absurd (Lexeme.bare.inj (List.cons.inj same).1).symm other
  | aggregate function argument resultName =>
      cases second with
      | column other =>
          obtain ⟨c, letters, written, _⟩ := lettered function
          rw [column, units_of_aggregate, written] at same
          cases same
      | rows =>
          obtain ⟨c, letters, written, other⟩ := lettered function
          rw [rows, units_of_aggregate, written] at same
          exact absurd (Lexeme.bare.inj (List.cons.inj same).1) other
      | aggregate other otherArgument otherName =>
          rw [units_of_aggregate, units_of_aggregate] at same
          obtain ⟨rfl, afterName⟩ := function_name_injective same
          obtain ⟨arguments, afterArgument⟩ := List.cons.inj afterName
          obtain ⟨rfl, rest⟩ := result_name_injective stopX stopY (List.cons.inj afterArgument).2
          have equal : argument = otherArgument := by
            cases argument <;> cases otherArgument <;> simp_all [String.toList_inj]
          exact ⟨by rw [equal], rest⟩

theorem projection_injective {first second : List Projected} {x y : List Lexeme}
    (firstPresent : first ≠ []) (secondPresent : second ≠ [])
    (stopX : opening x = some 'F') (stopY : opening y = some 'F')
    (same : unitsOf dialect (separated (first.map fun entry => entry.item.tokens)) ++ x =
      unitsOf dialect (separated (second.map fun entry => entry.item.tokens)) ++ y) :
    first = second ∧ x = y := by
  have opens : ∀ rest, opening (unitsOf dialect [.comma, .space] ++ rest) = some ',' := by
    intro rest
    simp [unitsOf, Token.units, Token.render, opening]
  have ended : ∀ (parts : List Projected) (rest : List Lexeme), opening rest = some 'F' →
      opening (unitsOf dialect (marked [.comma, .space]
        (fun _ (entry : Projected) => entry.item.tokens) 0 parts) ++ rest) ≠ some 'A' := by
    intro parts rest stop
    cases parts with
    | nil =>
        rw [marked_nil, stop]
        decide
    | cons part parts =>
        rw [marked_cons, opens]
        decide
  cases first with
  | nil => exact absurd rfl firstPresent
  | cons head first =>
      cases second with
      | nil => exact absurd rfl secondPresent
      | cons other second =>
          rw [separated_eq_marked, separated_eq_marked, units_of_append, units_of_append,
            List.append_assoc, List.append_assoc] at same
          obtain ⟨rfl, later⟩ := projected_injective (ended first x stopX)
            (ended second y stopY) same
          obtain ⟨others, rest⟩ := marked_list_injective
            (fun _ (entry : Projected) => entry.item.tokens) id
            (fun rest => opening rest ≠ some 'A') opens
            (fun rest => by rw [opens]; decide)
            (fun _ _ _ _ _ endX endY equal => projected_injective endX endY equal)
            (by rw [stopX]; decide) (by rw [stopY]; decide) (by rw [stopX]; decide)
            (by rw [stopY]; decide) later
          rw [List.map_id, List.map_id] at others
          exact ⟨by rw [others], rest⟩

/-! ## Groups and limits -/

theorem group_injective {first second : Option String} {x y : List Lexeme}
    (stopX : opening x ≠ some 'G') (stopY : opening y ≠ some 'G')
    (same : unitsOf dialect (optionalClause .groupBy
        (first.map fun name => [.identifier name])) ++ x =
      unitsOf dialect (optionalClause .groupBy
        (second.map fun name => [.identifier name])) ++ y) : first = second ∧ x = y := by
  have word : Word dialect .groupBy 'G' := by simp [Word, Token.units, Token.render]
  have decode : ∀ left ∈ first, ∀ right ∈ second, unitsOf dialect [.identifier left] ++ x =
      unitsOf dialect [.identifier right] ++ y → id left = id right ∧ x = y :=
    fun _ _ _ _ written => quoted_injective written
  simpa using mapped_clause_injective word id stopX stopY decode same

/-- Limits that are bound under one number cannot be told apart. -/
theorem limit_injective {first second : Option UInt64} {index : Nat} {x y : List Lexeme}
    (stopX : opening x ≠ some 'L') (stopY : opening y ≠ some 'L')
    (same : unitsOf dialect (optionalClause .limit
        (first.map fun _ => [.parameter index])) ++ x =
      unitsOf dialect (optionalClause .limit
        (second.map fun _ => [.parameter index])) ++ y) :
    (first.map fun _ => (0 : UInt64)) = second.map fun _ => 0 := by
  have word : Word dialect .limit 'L' := by simp [Word, Token.units, Token.render]
  exact (mapped_clause_injective word (fun _ => (0 : UInt64)) stopX stopY
    (fun _ _ _ _ written => ⟨rfl, List.append_cancel_left written⟩) same).1

/-! ## Conditions -/

/-- A filter up to the value that is bound. -/
def BoundFilter.blanked (filter : BoundFilter) : BoundFilter :=
  { filter with value := "" }

theorem comparison_injective {first second : BinaryOperator} {x y : List Lexeme}
    (same : first.token.units dialect ++ .bare ' ' :: x =
      second.token.units dialect ++ .bare ' ' :: y) : first = second ∧ x = y := by
  have unspaced : ∀ operator : BinaryOperator,
      Lexeme.bare ' ' ∉ operator.token.units dialect := by
    intro operator
    cases operator <;> simp [BinaryOperator.token, Token.units, Token.render]
  obtain ⟨words, rest⟩ := until_mark_injective (unspaced first) (unspaced second) same
  refine ⟨?_, rest⟩
  revert words
  cases first <;> cases second <;> simp [BinaryOperator.token, Token.units, Token.render]

theorem units_of_condition (filter : BoundFilter) (index : Nat) (rest : List Lexeme) :
    unitsOf dialect (filter.condition index).tokens ++ rest =
      .quoted filter.column.toList :: .bare ' ' :: (filter.comparison.token.units dialect ++
        .bare ' ' :: ((Token.parameter index).units dialect ++ rest)) := by
  simp [BoundFilter.condition, Expr.tokens, unitsOf, Token.units, Token.render]

/-- Conditions with parameters of one number differ in columns and comparisons only. -/
theorem condition_injective {first second : BoundFilter} {index : Nat} {x y : List Lexeme}
    (same : unitsOf dialect (first.condition index).tokens ++ x =
      unitsOf dialect (second.condition index).tokens ++ y) :
    first.blanked = second.blanked ∧ x = y := by
  rw [units_of_condition, units_of_condition] at same
  obtain ⟨columns, afterColumn⟩ := quoted_injective same
  obtain ⟨comparisons, afterComparison⟩ := comparison_injective (List.cons.inj afterColumn).2
  exact ⟨by rw [BoundFilter.blanked, BoundFilter.blanked, columns, comparisons],
    List.append_cancel_left afterComparison⟩

theorem conjoined_eq_marked (index : Nat) (filters : List BoundFilter) :
    conjoined (conditionsFrom index filters) =
      marked [.space, .conjunction, .space] (fun index (filter : BoundFilter) =>
        (filter.condition index).tokens) index filters := by
  simp [conjoined, conditionsFrom, marked, List.flatMap_map]

theorem conditions_injective {first second : List BoundFilter} {x y : List Lexeme}
    (stopX : opening x ≠ some 'W' ∧ opening x ≠ some 'A')
    (stopY : opening y ≠ some 'W' ∧ opening y ≠ some 'A')
    (same : unitsOf dialect (optionalClause .condition (conjunction (conditionsFrom 1 first))) ++ x =
      unitsOf dialect (optionalClause .condition (conjunction (conditionsFrom 1 second))) ++ y) :
    first.map BoundFilter.blanked = second.map BoundFilter.blanked ∧ x = y := by
  have word : Word dialect .condition 'W' := by simp [Word, Token.units, Token.render]
  have opens : ∀ rest, opening (unitsOf dialect [.space, .conjunction, .space] ++ rest) =
      some 'A' := by
    intro rest
    simp [unitsOf, Token.units, Token.render, opening]
  have absent : ∀ filters : List BoundFilter, conjunction (conditionsFrom 1 filters) = none →
      filters = [] := by
    intro filters none
    cases filters with
    | nil => rfl
    | cons filter filters => cases none
  have present : ∀ (filters : List BoundFilter) (tokens : List Token),
      conjunction (conditionsFrom 1 filters) = some tokens → ∃ filter others,
        filters = filter :: others ∧ tokens = (filter.condition 1).tokens ++
          conjoined (conditionsFrom 2 others) := by
    intro filters tokens written
    cases filters with
    | nil => cases written
    | cons filter filters =>
        rw [conditions_from_cons, conjunction] at written
        exact ⟨filter, filters, rfl, (Option.some.inj written).symm⟩
  rcases optional_clause_cases word stopX.1 stopY.1 same with
    ⟨none, otherNone, rest⟩ | ⟨left, right, some, otherSome, tokens⟩
  · rw [absent first none, absent second otherNone]
    exact ⟨rfl, rest⟩
  · obtain ⟨filter, filters, rfl, rfl⟩ := present first left some
    obtain ⟨other, others, rfl, rfl⟩ := present second right otherSome
    rw [units_of_append, units_of_append, List.append_assoc, List.append_assoc] at tokens
    obtain ⟨heads, later⟩ := condition_injective tokens
    rw [conjoined_eq_marked, conjoined_eq_marked] at later
    obtain ⟨tails, rest⟩ := marked_list_injective
      (fun index (filter : BoundFilter) => (filter.condition index).tokens) BoundFilter.blanked
      (fun _ => True) opens (fun _ => trivial) (fun _ _ _ _ _ _ _ equal => condition_injective equal) trivial trivial
      stopX.2 stopY.2 later
    exact ⟨by rw [List.map_cons, List.map_cons, heads, tails], rest⟩

/-! ## Orders -/

theorem plain_name_unspaced {name : String} (plain : isPlainName name) :
    Lexeme.bare ' ' ∉ name.toList.map Lexeme.bare ∧ ∃ c letters, name.toList = c :: letters := by
  unfold isPlainName at plain
  split at plain
  · cases plain
  · rename_i c rest written
    simp only [Bool.and_eq_true, List.all_eq_true] at plain
    obtain ⟨start, others⟩ := plain
    refine ⟨?_, c, rest, written⟩
    rw [written]
    intro member
    obtain ⟨blank, inside, isBlank⟩ := List.mem_map.mp member
    obtain rfl := Lexeme.bare.inj isBlank
    cases inside with
    | head => exact absurd start (by decide)
    | tail _ later => exact absurd (others ' ' later) (by decide)

theorem direction_injective {first second : Direction} {x y : List Lexeme}
    (same : (if first == .descending then Token.descending else .ascending).units dialect ++ x =
      (if second == .descending then Token.descending else .ascending).units dialect ++ y) :
    first = second ∧ x = y := by
  cases first with
  | ascending =>
      cases second with
      | ascending => exact ⟨rfl, List.append_cancel_left same⟩
      | descending => simp [Token.units, Token.render] at same
  | descending =>
      cases second with
      | ascending => simp [Token.units, Token.render] at same
      | descending => exact ⟨rfl, List.append_cancel_left same⟩

theorem units_of_sort_item (form : NormalForm) (key : SortKey) (rest : List Lexeme) :
    unitsOf dialect (form.sortItem key).tokens ++ rest =
      (if form.isResultName key.column then key.column.toList.map .bare
        else [.quoted key.column.toList]) ++ .bare ' ' ::
        ((if key.direction == .descending then Token.descending else .ascending).units dialect ++
          rest) := by
  unfold SortItem.tokens NormalForm.sortItem unitsOf
  by_cases named : form.isResultName key.column
  · simp [named, Expr.tokens, Token.units, Token.render]
  · simp [named, Expr.tokens, Token.units, Token.render]

/-- Rows of one projection are sorted by a name with quotes or by one without them,
and the latter holds no blank. -/
theorem sort_item_injective {form : NormalForm} {first second : SortKey} {x y : List Lexeme}
    (firstPlain : form.isResultName first.column → isPlainName first.column)
    (secondPlain : form.isResultName second.column → isPlainName second.column)
    (same : unitsOf dialect (form.sortItem first).tokens ++ x =
      unitsOf dialect (form.sortItem second).tokens ++ y) : first = second ∧ x = y := by
  have unspaced : ∀ key : SortKey, (form.isResultName key.column → isPlainName key.column) →
      Lexeme.bare ' ' ∉ (if form.isResultName key.column then key.column.toList.map .bare
        else [.quoted key.column.toList]) := by
    intro key plain
    by_cases named : form.isResultName key.column
    · rw [if_pos named]
      exact (plain_name_unspaced (plain named)).1
    · simp [named]
  have unequal : ∀ named other : String, isPlainName named →
      named.toList.map Lexeme.bare ≠ [.quoted other.toList] := by
    intro named other plain same
    obtain ⟨_, c, letters, written⟩ := plain_name_unspaced plain
    rw [written] at same
    cases same
  rw [units_of_sort_item, units_of_sort_item] at same
  obtain ⟨columns, later⟩ := until_mark_injective (unspaced first firstPlain)
    (unspaced second secondPlain) same
  obtain ⟨directions, rest⟩ := direction_injective later
  have names : first.column = second.column := by
    by_cases named : form.isResultName first.column
    · by_cases otherNamed : form.isResultName second.column
      · rw [if_pos named, if_pos otherNamed] at columns
        exact String.toList_inj.mp (bare_map_injective columns)
      · rw [if_pos named, if_neg otherNamed] at columns
        exact absurd columns (unequal _ _ (firstPlain named))
    · by_cases otherNamed : form.isResultName second.column
      · rw [if_neg named, if_pos otherNamed] at columns
        exact absurd columns.symm (unequal _ _ (secondPlain otherNamed))
      · rw [if_neg named, if_neg otherNamed] at columns
        exact (quoted_injective columns).1
  cases first
  cases second
  exact ⟨by rw [SortKey.mk.injEq]; exact ⟨names, directions⟩, rest⟩

theorem order_injective {form : NormalForm} {first second : Option SortKey} {x y : List Lexeme}
    (firstPlain : ∀ key ∈ first, form.isResultName key.column → isPlainName key.column)
    (secondPlain : ∀ key ∈ second, form.isResultName key.column → isPlainName key.column)
    (stopX : opening x ≠ some 'O') (stopY : opening y ≠ some 'O')
    (same : unitsOf dialect (optionalClause .orderBy
        (first.map fun key => (form.sortItem key).tokens)) ++ x =
      unitsOf dialect (optionalClause .orderBy
        (second.map fun key => (form.sortItem key).tokens)) ++ y) : first = second ∧ x = y := by
  have word : Word dialect .orderBy 'O' := by simp [Word, Token.units, Token.render]
  simpa using mapped_clause_injective word id stopX stopY
    (fun left present right otherPresent =>
      sort_item_injective (firstPlain left present) (secondPlain right otherPresent)) same

/-! ## Whole statements -/

/-- A normal form up to the values that are bound. -/
def NormalForm.blanked (form : NormalForm) : NormalForm :=
  { form with
    filters := form.filters.map BoundFilter.blanked
    limit := form.limit.map fun _ => 0 }

theorem select_blanked (source : String) (form : NormalForm) :
    form.blanked.select source = form.select source := by
  have conditions : conditionsFrom 1 (form.filters.map BoundFilter.blanked) =
      conditionsFrom 1 form.filters := by
    simp [conditionsFrom, List.zipIdx_map, Function.comp_def, BoundFilter.condition,
      BoundFilter.blanked]
  have keys : form.blanked.sortItem = form.sortItem := rfl
  unfold NormalForm.select
  rw [keys]
  simp [NormalForm.blanked, conditions, Function.comp_def]

/-- The units of a statement, clause by clause. -/
theorem units_of_select (source : String) {form : NormalForm} (nonempty : form.projection ≠ []) :
    (form.select source).tokens.flatMap (Token.units dialect) ++ [.bare ';'] =
      unitsOf dialect [.select, .space] ++
        (unitsOf dialect (separated (form.projection.map fun entry => entry.item.tokens)) ++
        (unitsOf dialect (clause .source [.identifier source]) ++
        (unitsOf dialect (optionalClause .condition
          (conjunction (conditionsFrom 1 form.filters))) ++
        (unitsOf dialect (optionalClause .groupBy
          (form.groupBy.map fun name => [.identifier name])) ++
        (unitsOf dialect (optionalClause .orderBy
          (form.orderBy.map fun key => (form.sortItem key).tokens)) ++
        (unitsOf dialect (optionalClause .limit
          (form.limit.map fun _ => [.parameter (form.filters.length + 1)])) ++
        [.bare ';'])))))) := by
  rw [normal_form_tokens source form nonempty]
  simp [unitsOf, List.flatMap_append]

/-- Checked normal forms that are written with the same units differ in the values
that are bound and in nothing else. -/
theorem select_units_injective (source : String) {first second : NormalForm}
    (firstNonempty : first.projection ≠ []) (secondNonempty : second.projection ≠ [])
    (firstChecked : first.Checked) (secondChecked : second.Checked)
    (same : (first.select source).tokens.flatMap (Token.units dialect) ++ [.bare ';'] =
      (second.select source).tokens.flatMap (Token.units dialect) ++ [.bare ';']) :
    first.blanked = second.blanked := by
  have sourceWord : Word dialect .source 'F' := by simp [Word, Token.units, Token.render]
  have groupWord : Word dialect .groupBy 'G' := by simp [Word, Token.units, Token.render]
  have orderWord : Word dialect .orderBy 'O' := by simp [Word, Token.units, Token.render]
  have limitWord : Word dialect .limit 'L' := by simp [Word, Token.units, Token.render]
  have ended : ∀ stop : Char, ';' ≠ stop → opening [.bare ';'] ≠ some stop :=
    fun stop other same => other (Option.some.inj same)
  rw [units_of_select source firstNonempty, units_of_select source secondNonempty,
    List.append_cancel_left_eq] at same
  obtain ⟨projections, afterProjection⟩ := projection_injective firstNonempty secondNonempty
    (opening_of_clause sourceWord _ _) (opening_of_clause sourceWord _ _) same
  have afterSource := List.append_cancel_left afterProjection
  have stops : ∀ (groups keys limits : Option (List Token)) (stop : Char),
      'G' ≠ stop → 'O' ≠ stop → 'L' ≠ stop → ';' ≠ stop →
      opening (unitsOf dialect (optionalClause .groupBy groups) ++
        (unitsOf dialect (optionalClause .orderBy keys) ++
        (unitsOf dialect (optionalClause .limit limits) ++ [.bare ';']))) ≠ some stop := by
    intro groups keys limits stop group order limit terminator
    exact optional_clause_stop groupWord group (optional_clause_stop orderWord order
      (optional_clause_stop limitWord limit (ended stop terminator)))
  obtain ⟨filters, afterConditions⟩ := conditions_injective
    ⟨stops _ _ _ 'W' (by decide) (by decide) (by decide) (by decide),
      stops _ _ _ 'A' (by decide) (by decide) (by decide) (by decide)⟩
    ⟨stops _ _ _ 'W' (by decide) (by decide) (by decide) (by decide),
      stops _ _ _ 'A' (by decide) (by decide) (by decide) (by decide)⟩
    afterSource
  obtain ⟨groups, afterGroup⟩ := group_injective
    (optional_clause_stop orderWord (by decide) (optional_clause_stop limitWord (by decide)
      (ended 'G' (by decide))))
    (optional_clause_stop orderWord (by decide) (optional_clause_stop limitWord (by decide)
      (ended 'G' (by decide)))) afterConditions
  -- Whether a sort key stands between quotes depends on the projection alone.
  have resultNames : first.isResultName = second.isResultName := by
    funext name
    rw [NormalForm.isResultName, NormalForm.isResultName, projections]
  have items : first.sortItem = second.sortItem := by
    funext key
    rw [NormalForm.sortItem, NormalForm.sortItem, resultNames]
  rw [items] at afterGroup
  obtain ⟨orders, afterOrder⟩ := order_injective (resultNames ▸ firstChecked.plain)
    secondChecked.plain (optional_clause_stop limitWord (by decide) (ended 'O' (by decide)))
    (optional_clause_stop limitWord (by decide) (ended 'O' (by decide))) afterGroup
  -- The number of the last marker is that of the filters, which agree up to their values.
  have count : first.filters.length = second.filters.length := by
    simpa using congrArg List.length filters
  rw [count] at afterOrder
  have limits := limit_injective (ended 'L' (by decide)) (ended 'L' (by decide)) afterOrder
  unfold NormalForm.blanked
  rw [projections, filters, groups, orders, limits]

end

theorem filters_eq_of_blanked {first second : List BoundFilter}
    (blanked : first.map BoundFilter.blanked = second.map BoundFilter.blanked)
    (values : first.map BoundFilter.value = second.map BoundFilter.value) : first = second := by
  induction first generalizing second with
  | nil => exact (List.map_eq_nil_iff.mp blanked.symm).symm
  | cons filter first ih =>
      cases second with
      | nil => cases blanked
      | cons other second =>
          simp only [List.map_cons, List.cons.injEq] at blanked values
          obtain ⟨column, comparison, value⟩ := filter
          obtain ⟨otherColumn, otherComparison, otherValue⟩ := other
          have heads := blanked.1
          simp only [BoundFilter.blanked, BoundFilter.mk.injEq, and_true] at heads
          obtain ⟨rfl, rfl⟩ := heads
          obtain rfl : value = otherValue := values.1
          rw [ih blanked.2 values.2]

theorem normal_form_eq_of_blanked {first second : NormalForm}
    (blanked : first.blanked = second.blanked) (values : first.parameters = second.parameters) :
    first = second := by
  obtain ⟨projection, filters, groupBy, orderBy, limit⟩ := first
  obtain ⟨otherProjection, otherFilters, otherGroup, otherOrder, otherLimit⟩ := second
  simp only [NormalForm.blanked, NormalForm.mk.injEq] at blanked
  obtain ⟨rfl, filtersBlanked, rfl, rfl, limitsBlanked⟩ := blanked
  have count : filters.length = otherFilters.length := by
    simpa using congrArg List.length filtersBlanked
  have parted := List.append_inj values (by simpa using count)
  have texts : ∀ filters : List BoundFilter,
      filters.map (fun filter => Value.text filter.value) =
        (filters.map BoundFilter.value).map Value.text := by simp
  have filterValues : filters.map BoundFilter.value = otherFilters.map BoundFilter.value := by
    have written := parted.1
    rw [texts, texts] at written
    exact List.map_injective_iff.mpr (fun _ _ => Value.text.inj) written
  have limits : limit = otherLimit := by
    have written := parted.2
    cases limit with
    | none =>
        cases otherLimit with
        | none => rfl
        | some other => cases limitsBlanked
    | some number =>
        cases otherLimit with
        | none => cases limitsBlanked
        | some other =>
            have numbers : number.toNat = other.toNat := by simpa using written
            rw [UInt64.toNat_inj.mp numbers]
  rw [filters_eq_of_blanked filtersBlanked filterValues, limits]

/-- Two compiled queries have the same text and the same parameters exactly if they
have the same normal form; the text alone determines everything but the values that
are bound. -/
theorem compiled_text_determines_normal_form {table : Table} {options otherOptions : CompileOptions}
    {query other : Query} {statement otherStatement : Statement}
    (sameDialect : options.dialect = otherOptions.dialect)
    (compiled : compile table options query = .ok statement)
    (otherCompiled : compile table otherOptions other = .ok otherStatement) :
    (statement.text = otherStatement.text ∧ statement.parameters = otherStatement.parameters ↔
      query.normalForm table = other.normalForm table) ∧
    (statement.text = otherStatement.text ↔
      (query.normalForm table).blanked = (other.normalForm table).blanked) := by
  obtain ⟨_, checked, rfl⟩ := compile_eq_ok compiled
  obtain ⟨_, otherChecked, rfl⟩ := compile_eq_ok otherCompiled
  rw [← sameDialect]
  have nonempty := normal_form_projection_nonempty table query
  have otherNonempty := normal_form_projection_nonempty table other
  have texts : ((query.normalForm table).statement table.name options.dialect).text =
      ((other.normalForm table).statement table.name options.dialect).text ↔
        (query.normalForm table).blanked = (other.normalForm table).blanked := by
    constructor
    · intro same
      have units := lexemes_statement table.name options.dialect nonempty checked
      rw [same, lexemes_statement table.name options.dialect otherNonempty otherChecked] at units
      exact select_units_injective table.name nonempty otherNonempty checked otherChecked
        (Option.some.inj units).symm
    · intro same
      unfold NormalForm.statement Statement.text
      rw [← select_blanked, same, select_blanked]
  refine ⟨⟨?_, ?_⟩, texts⟩
  · rintro ⟨same, values⟩
    exact normal_form_eq_of_blanked (texts.mp same) values
  · intro same
    rw [same]
    exact ⟨rfl, rfl⟩

def twoColumns : Query where
  selectColumns := ["a", "b"]
  targetTable := "t"

def joinedColumn : Query where
  selectColumns := ["a\", \"b"]
  targetTable := "t"

theorem joined_column_told_apart :
    compile ⟨"t", []⟩ {} twoColumns =
        .ok ((twoColumns.normalForm ⟨"t", []⟩).statement "t" .sqlite) ∧
      compile ⟨"t", []⟩ { strictOperators := true } joinedColumn =
        .ok ((joinedColumn.normalForm ⟨"t", []⟩).statement "t" .sqlite) ∧
      ((twoColumns.normalForm ⟨"t", []⟩).statement "t" .sqlite).text ≠
        ((joinedColumn.normalForm ⟨"t", []⟩).statement "t" .sqlite).text := by
  have compiled : compile ⟨"t", []⟩ {} twoColumns =
      .ok ((twoColumns.normalForm ⟨"t", []⟩).statement "t" .sqlite) := rfl
  have otherCompiled : compile ⟨"t", []⟩ { strictOperators := true } joinedColumn =
      .ok ((joinedColumn.normalForm ⟨"t", []⟩).statement "t" .sqlite) := rfl
  have determined := compiled_text_determines_normal_form rfl compiled otherCompiled
  refine ⟨compiled, otherCompiled, fun same => ?_⟩
  exact absurd (determined.2.mp same) (by decide)

end TableTalk
