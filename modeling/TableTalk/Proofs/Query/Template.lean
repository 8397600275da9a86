import TableTalk.Proofs.Query.Decoding
import TableTalk.Proofs.Query.Refusal

/-!
# Queries up to the values that they bind

Two queries that differ in the values of their filters and in the number of their
limit fail alike or have one text: what is bound decides neither whether a query
compiles nor how its statement reads, whatever else decides which statements can be
read back.
-/

namespace TableTalk

open TableTalk.Catalog
open TableTalk.Sql

set_option autoImplicit false

def Filter.template (filter : Filter) : Filter := { filter with value := "" }

/-- A query without the values that it binds. -/
def Query.template (query : Query) : Query :=
  { query with
    filters := query.filters.map Filter.template
    limit := query.limit.map fun _ => 1 }

theorem filter_bound_template (filter : Filter) :
    filter.template.bound.blanked = filter.bound.blanked := by
  unfold Filter.bound Filter.template
  cases filter.operator with
  | _ => rfl

theorem limit_refusal_template {query : Query}
    (bindable : ∀ limit ∈ query.limit, Bindable limit) :
    query.template.limit.bind limitRefusal = query.limit.bind limitRefusal := by
  simp only [Query.template]
  cases limit : query.limit with
  | none => rfl
  | some number =>
      have accepted : limitRefusal number = none := if_pos (bindable number limit)
      rw [Option.bind_some, accepted]
      rfl

theorem normal_form_template (table : Table) (query : Query) :
    (query.template.normalForm table).blanked = (query.normalForm table).blanked := by
  have filters : query.template.filters.map (BoundFilter.blanked ∘ Filter.bound) =
      query.filters.map (BoundFilter.blanked ∘ Filter.bound) := by
    simp only [Query.template, List.map_map]
    apply List.map_congr_left
    intro filter _
    exact filter_bound_template filter
  simp only [NormalForm.blanked, Query.normalForm, List.map_map, filters]
  simp [Query.template, Query.projected, Function.comp_def]

/-- Statements of one template differ in the bound values only. -/
theorem template_statement (table : Table) (query : Query) (source : String) (dialect : Dialect) :
    (query.template.normalForm table).statement source dialect =
      { (query.normalForm table).statement source dialect with
        parameters := (query.template.normalForm table).parameters } := by
  have select : (query.template.normalForm table).select source =
      (query.normalForm table).select source := by
    rw [← select_blanked, normal_form_template, select_blanked]
  simp only [NormalForm.statement, select]

theorem refusal_template {isReadable : Statement → Bool}
    (unbound : ∀ statement parameters,
      isReadable { statement with parameters } = isReadable statement)
    (table : Table) (options : CompileOptions) {query : Query}
    (bindable : ∀ limit ∈ query.limit, Bindable limit) :
    query.template.refusalWith isReadable table options =
      query.refusalWith isReadable table options := by
  have filters : query.template.filters.findSome? (Filter.refusal options.strictOperators) =
      query.filters.findSome? (Filter.refusal options.strictOperators) := by
    simp only [Query.template, List.findSome?_map]
    rfl
  unfold Query.refusalWith
  rw [template_statement, unbound, filters, limit_refusal_template bindable]
  rfl

theorem parameters_length_blanked (form : NormalForm) :
    form.blanked.parameters.length = form.parameters.length := by
  cases limit : form.limit with
  | none => simp [NormalForm.parameters, NormalForm.blanked, limit]
  | some number => simp [NormalForm.parameters, NormalForm.blanked, limit]

/-- Queries with one template fail with one error, or have one text and bind equally many
values, if the bound values have no part in which statements can be read back. -/
theorem bound_values_have_no_influence {isReadable : Statement → Bool}
    (unbound : ∀ statement parameters,
      isReadable { statement with parameters } = isReadable statement)
    (table : Table) (options : CompileOptions) {first second : Query}
    (alike : first.template = second.template)
    (bindable : ∀ limit ∈ first.limit, Bindable limit)
    (otherBindable : ∀ limit ∈ second.limit, Bindable limit) :
    (∃ error, compileWith isReadable table options first = .error error ∧
      compileWith isReadable table options second = .error error) ∨
    ∃ statement other, compileWith isReadable table options first = .ok statement ∧
      compileWith isReadable table options second = .ok other ∧ statement.text = other.text ∧
      statement.parameters.length = other.parameters.length := by
  have refusals : first.refusalWith isReadable table options =
      second.refusalWith isReadable table options := by
    rw [← refusal_template unbound table options bindable, alike,
      refusal_template unbound table options otherBindable]
  have forms : (first.normalForm table).blanked = (second.normalForm table).blanked := by
    rw [← normal_form_template, alike, normal_form_template]
  rw [compile_with_eq, compile_with_eq, refusals]
  cases second.refusalWith isReadable table options with
  | some error => exact .inl ⟨error, rfl, rfl⟩
  | none =>
      refine .inr ⟨_, _, rfl, rfl, ?_, ?_⟩
      · unfold NormalForm.statement Statement.text
        rw [← select_blanked, forms, select_blanked]
      · unfold NormalForm.statement
        rw [← parameters_length_blanked, forms, parameters_length_blanked]

def searchQuery (value : String) (limit : UInt64) : Query where
  selectColumns := ["title"]
  filters := [⟨"title", .contains, value⟩, ⟨"provider", .other "SOUNDS_LIKE", value⟩]
  limit := some limit
  targetTable := "update"

theorem hostile_value_has_no_influence :
    (searchQuery "'; --" 1).template = (searchQuery "" 9223372036854775807).template ∧
      Bindable 1 ∧ Bindable 9223372036854775807 ∧
      ∃ statement other, compile ⟨"update", []⟩ {} (searchQuery "'; --" 1) = .ok statement ∧
        compile ⟨"update", []⟩ {} (searchQuery "" 9223372036854775807) = .ok other ∧
        statement.text = other.text ∧
        statement.parameters.length = other.parameters.length := by
  have alike : (searchQuery "'; --" 1).template =
      (searchQuery "" 9223372036854775807).template := rfl
  have bindable (value : String) {limit : UInt64} (fits : Bindable limit) :
      ∀ given ∈ (searchQuery value limit).limit, Bindable given := by
    intro given bound
    rwa [← Option.some.inj bound]
  have unbound : ∀ (statement : Statement) (parameters : List Value),
      Statement.isReadable { statement with parameters } = statement.isReadable :=
    fun _ _ => rfl
  have least : Bindable 1 := by decide
  have greatest : Bindable 9223372036854775807 := by decide
  refine ⟨alike, least, greatest, ?_⟩
  rcases bound_values_have_no_influence unbound ⟨"update", []⟩ {} alike
    (bindable "'; --" least) (bindable "" greatest) with ⟨error, refused, _⟩ | compiled
  · cases refused
  · exact compiled

end TableTalk
