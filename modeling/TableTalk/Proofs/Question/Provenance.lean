import TableTalk.Engine.Basic
import TableTalk.Proofs.Query.NormalForm
import TableTalk.Proofs.Question.Filters

/-!
# Where the values of filters come from

A question only selects among the values that a table and the options list. No text
of the question is bound to a parameter, whatever an analysis makes of the question.
-/

namespace TableTalk.Question

open TableTalk.Catalog
open TableTalk.Language
open TableTalk.Text

set_option autoImplicit false

/-- A filter on a listed value, and what in the question has selected it. -/
inductive Sourced (context : Context) (filter : Filter) : Prop where
  | entity (column : Column) (entity : Entity) (present : column ∈ context.table.columns)
      (isText : column.type = .text) (restricts : filter.column = column.name)
      (listed : filter.value ∈ column.examples) (recognized : entity ∈ context.analysis.entities)
      (linkable : entity.label ∈ [.organization, .product, .place])
      (same : Text.lower filter.value = Text.lower entity.text)
  | keyword (restricts : filter.column = context.options.providerColumn)
      (listed : filter.value ∈ context.options.providerKeywords)
      (occurs : Occurs filter.value context.text)
  | product (column : Column)
      (found : context.table.column? context.options.productColumn = some column)
      (restricts : filter.column = context.options.productColumn)
      (listed : filter.value ∈ column.examples)
      (occurs : Occurs (Text.lower filter.value) context.text)

def Draft.Sourced (context : Context) (draft : Draft) : Prop :=
  ∀ filter ∈ draft.filters, filter.operator = .equals ∧ Question.Sourced context filter

theorem linkable_sourced {context : Context} {filter : Filter}
    (linkable : Linkable context filter) :
    filter.operator = .equals ∧ Question.Sourced context filter := by
  cases linkable with
  | entity recognized linkable linked =>
      obtain ⟨column, present, isText, rfl, listed, same⟩ := link_text_eq_some linked
      exact ⟨rfl, .entity column _ present isText rfl listed recognized
        (linkable_label linkable) same⟩
  | keyword _ listed occurs => exact ⟨rfl, .keyword rfl listed occurs⟩
  | product known listed occurs => exact ⟨rfl, .product _ known rfl listed occurs⟩

theorem run_cascade_sourced (context : Context) : (runCascade context).Sourced context := by
  intro filter member
  rcases run_cascade_member member with linkable | ⟨_, keyword, pinned, rfl⟩
  · exact linkable_sourced linkable
  · unfold pinnedProvider? at pinned
    have mentioned := List.find?_some pinned
    have occurs := occurs_of_append ((mentions_iff _ _).mp mentioned)
    exact ⟨rfl, .keyword rfl (List.mem_of_find?_eq_some pinned) occurs⟩

theorem sourced_value_listed {context : Context} {filter : Filter}
    (source : Sourced context filter) :
    (∃ column ∈ context.table.columns, filter.value ∈ column.examples) ∨
      filter.value ∈ context.options.providerKeywords := by
  cases source with
  | entity column _ present _ _ listed => exact .inl ⟨column, present, listed⟩
  | keyword _ listed => exact .inr listed
  | product column found _ listed => exact .inl ⟨column, List.mem_of_find?_eq_some found, listed⟩

theorem translate_eq_ok {engine : Engine} {question : String} {translation : Translation}
    (translated : engine.translate question = .ok translation) :
    parse engine.table engine.parser question = .ok translation.parsed ∧
      compile engine.table engine.compiler translation.parsed = .ok translation.statement := by
  obtain ⟨parsed, parsedOk, translated⟩ := except_bind_eq_ok translated
  obtain ⟨statement, compiledOk, translated⟩ := except_bind_eq_ok translated
  cases translated
  exact ⟨map_error_eq_ok parsedOk, map_error_eq_ok compiledOk⟩

/-- Filters compare for equality with values that the table or the options list; so
does every text that a translation binds. -/
theorem filters_come_from_configuration (table : Table) (options : Options) (question : String) :
    (∀ (analyze : String → Analysis) (query : Query),
      parseWith analyze table options question = .ok query →
      ∀ filter ∈ query.filters, filter.operator = .equals ∧
        Sourced (.ofQuestion analyze table options question) filter) ∧
    (∀ (compiler : CompileOptions) (translation : Translation),
      Engine.translate ⟨table, options, compiler⟩ question = .ok translation →
      ∀ value : String, .text value ∈ translation.statement.parameters →
        (∃ column ∈ table.columns, value ∈ column.examples) ∨
          value ∈ options.providerKeywords) := by
  have parsedFilters : ∀ (analyze : String → Analysis) (query : Query),
      parseWith analyze table options question = .ok query →
      ∀ filter ∈ query.filters, filter.operator = .equals ∧
        Sourced (.ofQuestion analyze table options question) filter := by
    intro analyze query parsed
    rw [parse_with_eq_ok parsed]
    exact run_cascade_sourced _
  refine ⟨parsedFilters, ?_⟩
  intro compiler translation translated value bound
  obtain ⟨parsed, compiled⟩ := translate_eq_ok translated
  obtain ⟨_, _, written⟩ := compile_eq_ok compiled
  rw [written] at bound
  simp only [NormalForm.statement, NormalForm.parameters, Query.normalForm, List.mem_append,
    List.mem_map, reduceCtorEq, and_false, exists_false, or_false, Sql.Value.text.injEq] at bound
  obtain ⟨_, ⟨filter, member, rfl⟩, rfl⟩ := bound
  obtain ⟨equals, source⟩ := parsedFilters _ _ parsed filter member
  have verbatim : filter.bound.value = filter.value := by
    rw [Filter.bound, equals]
  rw [verbatim]
  exact sourced_value_listed source

def cloudUpdates : Table where
  name := "update"
  columns := [⟨"provider", .text, false, []⟩, ⟨"product_name", .text, false, ["EC2"]⟩]

def cloudQuery : Query where
  selectColumns := ["product_name"]
  filters := [⟨"product_name", .equals, "EC2"⟩, ⟨"provider", .equals, "aws"⟩]
  targetTable := "update"

/-- An entity is bound in the spelling of the table, a part of a word in that of the
options. -/
theorem spelling_of_configuration_bound :
    (∀ filter ∈ cloudQuery.filters, filter.operator = .equals ∧
      Sourced (.ofQuestion (Gazetteer.ofTable cloudUpdates organizationNames).analyze cloudUpdates
        { defaultSelectColumns := ["product_name"] } "ec2, awsome") filter) ∧
    ∃ translation, Engine.translate
        ⟨cloudUpdates, { defaultSelectColumns := ["product_name"] }, {}⟩ "ec2, awsome" =
          .ok translation ∧
      translation.parsed = cloudQuery ∧
      ∀ value : String, .text value ∈ translation.statement.parameters →
        (∃ column ∈ cloudUpdates.columns, value ∈ column.examples) ∨
          value ∈ ["aws", "azure"] := by
  have sources := filters_come_from_configuration cloudUpdates
    { defaultSelectColumns := ["product_name"] } "ec2, awsome"
  have parsed : parse cloudUpdates { defaultSelectColumns := ["product_name"] } "ec2, awsome" =
      .ok cloudQuery := eq_ok_of_to_option (by decide +kernel)
  have translated : Engine.translate
      ⟨cloudUpdates, { defaultSelectColumns := ["product_name"] }, {}⟩ "ec2, awsome" =
        .ok ⟨cloudQuery, (cloudQuery.normalForm cloudUpdates).statement "update" .sqlite⟩ := by
    unfold Engine.translate
    rw [parsed]
    rfl
  exact ⟨sources.1 _ _ parsed, _, translated, rfl, sources.2 {} _ translated⟩

end TableTalk.Question
