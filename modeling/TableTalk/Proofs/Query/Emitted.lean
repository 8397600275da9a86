import Mathlib.Data.Nat.Digits.Defs
import TableTalk.Proofs.Query.NormalForm
import TableTalk.Proofs.Sql.Parameters

/-!
# The tokens of compiled statements

The tokens that the statement of a normal form consists of, and the characters that
they are written with. Outside quotes there are letters, digits and a few signs of
punctuation, and parameter markers; nothing of the query's own text is among them but
plain result names.
-/

namespace TableTalk

open TableTalk.Catalog
open TableTalk.Sql

set_option autoImplicit false

theorem normal_form_tokens (source : String) (form : NormalForm)
    (nonempty : form.projection ≠ []) :
    (form.select source).tokens =
      .select :: .space :: (separated (form.projection.map fun entry => entry.item.tokens) ++
        (clause .source [.identifier source] ++
        (optionalClause .condition (conjunction (conditionsFrom 1 form.filters)) ++
        (optionalClause .groupBy (form.groupBy.map fun name => [.identifier name]) ++
        (optionalClause .orderBy (form.orderBy.map fun key => (form.sortItem key).tokens) ++
        optionalClause .limit
          (form.limit.map fun _ => [.parameter (form.filters.length + 1)])))))) := by
  obtain ⟨condition, folded, tokens⟩ := filter_fold_condition (conditionsFrom 1 form.filters)
    { items := form.projection.map Projected.item
      source := some source
      groupBy := form.groupBy.toList.map .column
      orderBy := form.orderBy.toList.map form.sortItem
      limit := form.limit.map fun _ => .parameter (form.filters.length + 1) } rfl
  have items : listed SelectItem.tokens (form.projection.map Projected.item) =
      some (separated (form.projection.map fun entry => entry.item.tokens)) := by
    simp [listed, nonempty, Function.comp_def]
  have groups : listed Expr.tokens (form.groupBy.toList.map .column) =
      form.groupBy.map fun name => [.identifier name] := by
    cases form.groupBy <;> simp [listed, separated, Expr.tokens]
  have keys : listed SortItem.tokens (form.orderBy.toList.map form.sortItem) =
      form.orderBy.map fun key => (form.sortItem key).tokens := by
    cases form.orderBy <;> simp [listed, separated]
  have bound : (form.limit.map fun _ => Expr.parameter (form.filters.length + 1)).map Expr.tokens =
      form.limit.map fun _ => [.parameter (form.filters.length + 1)] := by
    cases form.limit <;> simp [Expr.tokens]
  rw [NormalForm.select, folded, select_tokens_eq, items, tokens, groups, keys, bound]
  simp [optionalClause]

/-! ## Which tokens there are -/

/-- The tokens inside a compiled statement: no terminator, only plain result names and
only aggregate functions. -/
def Emitted : Token → Prop
  | .semicolon => False
  | .plain name => isPlainName name
  | .function name => ∃ function : Aggregate, name = function.name
  | _ => True

theorem emitted_projected (entry : Projected) : ∀ token ∈ entry.item.tokens, Emitted token := by
  cases entry with
  | column name => simp [Projected.item, SelectItem.tokens, Expr.tokens, Emitted]
  | rows => simp [Projected.item, SelectItem.tokens, Expr.tokens, Emitted]
  | aggregate function argument resultName =>
      have known : ∃ other : Aggregate, function.name = other.name := ⟨function, rfl⟩
      cases argument <;> cases resultName <;>
        simp [Projected.item, SelectItem.tokens, Expr.tokens, listTokens, separated, Emitted, known]

theorem emitted_condition (filter : BoundFilter) (index : Nat) :
    ∀ token ∈ (filter.condition index).tokens, Emitted token := by
  have comparison : Emitted filter.comparison.token := by cases filter.comparison <;> trivial
  simp only [BoundFilter.condition, Expr.tokens, List.forall_mem_append, List.forall_mem_cons,
    List.not_mem_nil, false_imp_iff, implies_true, and_true]
  exact ⟨⟨trivial, trivial, comparison, trivial⟩, trivial⟩

theorem emitted_conditions (index : Nat) (filters : List BoundFilter) :
    ∀ tokens ∈ conjunction (conditionsFrom index filters), ∀ token ∈ tokens, Emitted token := by
  intro tokens joined
  have conditions : ∀ condition ∈ conditionsFrom index filters,
      ∀ token ∈ condition.tokens, Emitted token := by
    intro condition member
    obtain ⟨entry, _, rfl⟩ := List.mem_map.mp member
    exact emitted_condition entry.1 entry.2
  cases written : conditionsFrom index filters with
  | nil =>
      rw [written] at joined
      cases joined
  | cons first others =>
      rw [written] at joined conditions
      cases joined
      simp only [conjoined, List.forall_mem_append, List.forall_mem_flatMap,
        List.forall_mem_cons] at *
      refine ⟨conditions.1, fun condition member => ?_⟩
      exact ⟨⟨trivial, trivial, trivial, by simp⟩, conditions.2 condition member⟩

theorem emitted_sort_item {form : NormalForm} {key : SortKey}
    (plain : form.isResultName key.column → isPlainName key.column) :
    ∀ token ∈ (form.sortItem key).tokens, Emitted token := by
  simp only [SortItem.tokens, NormalForm.sortItem, List.forall_mem_append, List.forall_mem_cons,
    List.not_mem_nil, false_imp_iff, implies_true, and_true]
  have direction : ∀ descending : Bool,
      Emitted (if descending then Token.descending else .ascending) := by
    intro descending
    cases descending <;> trivial
  refine ⟨?_, trivial, direction _⟩
  by_cases named : form.isResultName key.column
  · simpa [named, Expr.tokens, Emitted] using plain named
  · simp [named, Expr.tokens, Emitted]

/-- A checked normal form is written with the tokens of a compiled statement only. -/
theorem emitted_tokens (source : String) {form : NormalForm} (nonempty : form.projection ≠ [])
    (checked : form.Checked) : ∀ token ∈ (form.select source).tokens, Emitted token := by
  have items : ∀ part ∈ form.projection.map fun entry => entry.item.tokens,
      ∀ token ∈ part, Emitted token := by
    intro part member
    obtain ⟨entry, _, rfl⟩ := List.mem_map.mp member
    exact emitted_projected entry
  have groups : ∀ tokens ∈ form.groupBy.map fun name => [Token.identifier name],
      ∀ token ∈ tokens, Emitted token := by
    intro tokens member
    obtain ⟨name, _, rfl⟩ := Option.map_eq_some_iff.mp member
    simp [Emitted]
  have keys : ∀ tokens ∈ form.orderBy.map fun key => (form.sortItem key).tokens,
      ∀ token ∈ tokens, Emitted token := by
    intro tokens member
    obtain ⟨key, present, rfl⟩ := Option.map_eq_some_iff.mp member
    exact emitted_sort_item (checked.plain key present)
  have limits : ∀ tokens ∈ form.limit.map fun _ => [Token.parameter (form.filters.length + 1)],
      ∀ token ∈ tokens, Emitted token := by
    intro tokens member
    obtain ⟨_, _, rfl⟩ := Option.map_eq_some_iff.mp member
    simp [Emitted]
  rw [normal_form_tokens source form nonempty]
  simp only [List.forall_mem_cons, List.forall_mem_append, clause, List.not_mem_nil,
    false_imp_iff, implies_true, and_true]
  exact ⟨trivial, trivial, all_separated Emitted trivial trivial items,
    ⟨⟨trivial, trivial, trivial⟩, trivial⟩,
    all_optional_clause Emitted trivial (by trivial) (emitted_conditions 1 form.filters),
    all_optional_clause Emitted trivial (by trivial) groups,
    all_optional_clause Emitted trivial (by trivial) keys,
    all_optional_clause Emitted trivial (by trivial) limits⟩

/-! ## Which parameters there are -/

theorem projected_unbound (entry : Projected) : entry.item.expr.parameters = [] := by
  cases entry with
  | column name => rfl
  | rows => rfl
  | aggregate function argument resultName => cases argument <;> rfl

theorem sort_item_unbound (form : NormalForm) (key : SortKey) :
    (form.sortItem key).expr.parameters = [] := by
  unfold NormalForm.sortItem
  by_cases named : form.isResultName key.column
  · simp [named, Expr.parameters]
  · simp [named, Expr.parameters]

theorem conditions_parameters (index : Nat) (filters : List BoundFilter) :
    (conditionsFrom index filters).flatMap Expr.parameters =
      List.range' index filters.length := by
  induction filters generalizing index with
  | nil => rfl
  | cons filter filters ih =>
      rw [conditions_from_cons, List.flatMap_cons, ih (index + 1)]
      rfl

/-- The parameters of a normal form are numbered in the order of the text. -/
theorem tokens_parameters (source : String) (form : NormalForm) :
    (form.select source).tokens.filterMap Token.parameterIndex =
      List.range' 1 form.parameters.length := by
  have items : (form.projection.map Projected.item).flatMap (fun item => item.expr.parameters) =
      [] := by
    rw [List.flatMap_map, List.flatMap_eq_nil_iff]
    exact fun entry _ => projected_unbound entry
  have groups : (form.groupBy.toList.map Expr.column).flatMap Expr.parameters = [] := by
    cases form.groupBy <;> rfl
  have keys : (form.orderBy.toList.map form.sortItem).flatMap
      (fun item => item.expr.parameters) = [] := by
    rw [List.flatMap_map, List.flatMap_eq_nil_iff]
    exact fun key _ => sort_item_unbound form key
  rw [select_tokens_parameters, NormalForm.select, filter_fold_parameters]
  dsimp only
  rw [items, groups, keys, Option.toList_none, List.nil_append, List.nil_append,
    List.append_nil, List.append_nil, conditions_parameters]
  cases limit : form.limit with
  | none => simp [NormalForm.parameters, limit]
  | some number =>
      have count : form.parameters.length = form.filters.length + 1 := by
        simp [NormalForm.parameters, limit]
      rw [count, List.range'_1_concat, Nat.add_comm 1]
      rfl

end TableTalk
