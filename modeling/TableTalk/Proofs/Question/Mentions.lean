import TableTalk.Proofs.Question.FixedPoint

/-!
# Mentions are not lost

Once a column is restricted it stays restricted: rules exchange filters on a column for others
on it, and none takes away the last one. So a provider keyword or a product example that the
text mentions leaves a filter on its column, whatever the question turns out to ask for.
-/

namespace TableTalk.Question

open TableTalk.Catalog
open TableTalk.Language
open TableTalk.Text

set_option autoImplicit false

section

variable {context : Context} {draft : Draft} {column : String}

/-! ## What restricts a column goes on restricting it -/

theorem has_filter_on_iff :
    draft.hasFilterOn column ↔ ∃ filter ∈ draft.filters, filter.column = column := by
  simp [Draft.hasFilterOn]

theorem pin_provider_keeps_column (provider keyword : String)
    (restricted : draft.hasFilterOn column) :
    (pinProvider provider keyword draft).hasFilterOn column := by
  by_cases onProvider : column = provider
  · subst onProvider
    unfold pinProvider
    dsimp only
    split
    · rename_i pinned
      exact pinned
    · exact has_filter_on_iff.mpr
        ⟨.equals column keyword, List.mem_append_right _ (List.mem_singleton_self _), rfl⟩
  · obtain ⟨filter, member, rfl⟩ := has_filter_on_iff.mp restricted
    have other : filter.column ≠ provider := onProvider
    have survives : filter ∈ draft.filters.filter fun filter =>
        filter.column != provider || equalAsciiCase filter.value keyword :=
      List.mem_filter.mpr ⟨member, by simp [other]⟩
    unfold pinProvider
    dsimp only
    split
    · exact has_filter_on_iff.mpr ⟨filter, survives, rfl⟩
    · exact has_filter_on_iff.mpr ⟨filter, List.mem_append_left _ survives, rfl⟩

theorem select_service_keeps_column (restricted : draft.hasFilterOn column) :
    (selectService context draft).hasFilterOn column := by
  unfold selectService
  cases pinnedProvider? context with
  | none => exact restricted
  | some keyword => exact pin_provider_keeps_column _ keyword restricted

theorem drop_repeated_keeps_column (context : Context) (restricted : draft.hasFilterOn column) :
    (dropRepeatedFilters context draft).hasFilterOn column := by
  obtain ⟨filter, member, rfl⟩ := has_filter_on_iff.mp restricted
  rcases first_of_each_key_covers [] draft.filters member with seen | ⟨kept, present, same⟩
  · exact absurd seen List.not_mem_nil
  · exact has_filter_on_iff.mpr ⟨kept, present, congrArg Prod.fst same⟩

theorem rank_entities_filters (context : Context) (draft : Draft) :
    (rankEntities context draft).filters = draft.filters := by
  unfold rankEntities
  split
  · rfl
  · rfl

/-- No rule takes the last filter away from a column. -/
theorem effect_keeps_column {rule : Rule} (listed : rule ∈ cascade)
    (restricted : draft.hasFilterOn column) : (rule.effect context draft).hasFilterOn column := by
  simp only [cascade, List.mem_cons, List.not_mem_nil, or_false] at listed
  rcases listed with rfl | rfl | rfl | rfl | rfl | rfl | rfl
  · exact (has_filter_on_congr (rank_entities_filters context draft) column).trans restricted
  · exact restricted
  · exact restricted
  · exact has_filter_on_mono (fun _ => adds_keeps (add_entity_filters_adds _ _)) restricted
  · exact select_service_keeps_column restricted
  · exact drop_repeated_keeps_column context restricted
  · exact restricted

theorem rules_keep_column {rules : List Rule} (listed : rules ⊆ cascade)
    (restricted : draft.hasFilterOn column) :
    (runRules rules context draft).hasFilterOn column := by
  let filtered : Draft → Prop := fun current => current.hasFilterOn column
  have preserved : ∀ rule ∈ rules, ∀ current, filtered current →
      filtered (rule.effect context current) :=
    fun _ member _ => effect_keeps_column (listed member)
  exact run_rules_preserve preserved restricted

/-! ## What is mentioned is linked -/

theorem link_provider_mentioned
    (known : context.options.providerColumn ∈ context.table.columns.map Column.name)
    (mentioned : ∃ keyword ∈ context.options.providerKeywords, Occurs keyword context.text)
    (draft : Draft) : (linkProvider context draft).hasFilterOn context.options.providerColumn := by
  by_cases restricted : draft.hasFilterOn context.options.providerColumn
  · rw [link_provider_of_filter restricted]
    exact restricted
  · have free : ¬(draft.hasFilterOn context.options.providerColumn ||
        !context.table.hasColumn context.options.providerColumn) := by
      simp [restricted, (has_column_iff _ _).mpr known]
    unfold linkProvider
    dsimp only
    rw [if_neg free]
    split
    · rename_i keyword _
      exact has_filter_on_iff.mpr ⟨.equals context.options.providerColumn keyword,
        List.mem_append_right _ (List.mem_singleton_self _), rfl⟩
    · rename_i missing
      obtain ⟨keyword, listed, occurs⟩ := mentioned
      exact absurd ((mentions_iff _ _).mpr occurs) (List.find?_eq_none.mp missing keyword listed)

theorem link_product_mentioned {product : Column}
    (known : context.table.column? context.options.productColumn = some product)
    (mentioned : ∃ phrase ∈ product.examples, Occurs (lower phrase) context.text)
    (draft : Draft) : (linkProduct context draft).hasFilterOn context.options.productColumn := by
  by_cases restricted : draft.hasFilterOn context.options.productColumn
  · rw [link_product_of_filter restricted]
    exact restricted
  · unfold linkProduct
    dsimp only
    rw [if_neg restricted, known, Option.map_some, Option.getD_some]
    split
    · rename_i found _
      rw [add_filter_on_free_column restricted]
      exact has_filter_on_iff.mpr ⟨.equals context.options.productColumn found,
        List.mem_append_right _ (List.mem_singleton_self _), rfl⟩
    · rename_i missing
      obtain ⟨phrase, listed, occurs⟩ := mentioned
      exact absurd ((mentions_iff _ _).mpr occurs) (List.find?_eq_none.mp missing phrase listed)

theorem add_entity_filters_provider
    (known : context.options.providerColumn ∈ context.table.columns.map Column.name)
    (mentioned : ∃ keyword ∈ context.options.providerKeywords, Occurs keyword context.text)
    (draft : Draft) :
    (addEntityFilters context draft).hasFilterOn context.options.providerColumn := by
  have provider := link_provider_mentioned known mentioned (linkEntities context draft)
  -- Products are looked for after providers, and only add filters.
  exact has_filter_on_mono (fun _ => adds_keeps (link_product_adds _ _)) provider

theorem add_entity_filters_product {product : Column}
    (known : context.table.column? context.options.productColumn = some product)
    (mentioned : ∃ phrase ∈ product.examples, Occurs (lower phrase) context.text)
    (draft : Draft) :
    (addEntityFilters context draft).hasFilterOn context.options.productColumn :=
  link_product_mentioned known mentioned _

/-- What the rule of linking restricts is restricted when all rules have run. -/
theorem linked_column_filtered
    (linked : ∀ draft, (addEntityFilters context draft).hasFilterOn column) :
    ∃ filter ∈ (runCascade context).filters, filter.column = column := by
  have behind : runCascade context = runRules (cascade.drop 4) context
      (addEntityFilters context (runRules (cascade.take 3) context {})) := by
    rw [run_cascade_parts]
    rfl
  have restricted : (runCascade context).hasFilterOn column := by
    rw [behind]
    exact rules_keep_column (List.drop_subset 4 cascade) (linked _)
  exact has_filter_on_iff.mp restricted

end

/-- A mentioned provider or product restricts the query on its column; no rule lifts such a
restriction. -/
theorem mentioned_columns_filtered (analyze : String → Analysis) (table : Table)
    (options : Options) (question : String) :
    let context := Context.ofQuestion analyze table options question
    (table.name ≠ "" → table.columns ≠ [] →
      ∃ query, parseWith analyze table options question = .ok query) ∧
    (∀ rule ∈ cascade, ∀ (draft : Draft) (column : String),
      (∃ filter ∈ draft.filters, filter.column = column) →
      ∃ filter ∈ (rule.run context draft).filters, filter.column = column) ∧
    ∀ query, parseWith analyze table options question = .ok query →
      (options.providerColumn ∈ table.columns.map Column.name →
        (∃ keyword ∈ options.providerKeywords, Occurs keyword (lower question)) →
        ∃ filter ∈ query.filters, filter.column = options.providerColumn) ∧
      ∀ product, table.column? options.productColumn = some product →
        (∃ phrase ∈ product.examples, Occurs (lower phrase) (lower question)) →
        ∃ filter ∈ query.filters, filter.column = options.productColumn := by
  intro context
  refine ⟨?_, ?_, ?_⟩
  · intro named listed
    exact ⟨_, parse_with_available analyze options question named listed⟩
  · intro rule listed draft column restricted
    rw [← has_filter_on_iff] at restricted ⊢
    have alone : [rule] ⊆ cascade := List.cons_subset.mpr ⟨listed, List.nil_subset _⟩
    exact rules_keep_column alone restricted
  · intro query parsed
    rw [parse_with_eq_ok parsed]
    constructor
    · intro known mentioned
      exact linked_column_filtered (add_entity_filters_provider known mentioned)
    · intro product known mentioned
      exact linked_column_filtered (add_entity_filters_product known mentioned)

def namedUpdates : Table where
  name := "update"
  columns := [⟨"name", .text, false, ["EC2"]⟩]

/-- With one column for both, pinning the provider replaces the filter on the product. -/
theorem mention_survives_pinning :
    let options : Options := { providerColumn := "name", productColumn := "name" }
    let question := "EC2 or the AWS service with the most updates?"
    let service : Rule :=
      { name := "service_most_updates", guard := asksService, effect := selectService }
    namedUpdates.name ≠ "" ∧ namedUpdates.columns ≠ [] ∧ service ∈ cascade ∧
      (∃ filter ∈ (service.run (.ofQuestion (fun _ => ⟨[], []⟩) namedUpdates options question)
        { filters := [.equals "name" "EC2"] }).filters, filter.column = "name") ∧
      "name" ∈ namedUpdates.columns.map Column.name ∧ Occurs "aws" (lower question) ∧
      namedUpdates.column? "name" = some ⟨"name", .text, false, ["EC2"]⟩ ∧
      Occurs (lower "EC2") (lower question) ∧
      ∃ query, parseWith (fun _ => ⟨[], []⟩) namedUpdates options question = .ok query ∧
        query.filters = [.equals "name" "aws"] ∧
        (∃ filter ∈ query.filters, filter.column = options.providerColumn) ∧
        ∃ filter ∈ query.filters, filter.column = options.productColumn := by
  intro options question service
  obtain ⟨answered, kept, filtered⟩ :=
    mentioned_columns_filtered (fun _ => ⟨[], []⟩) namedUpdates options question
  have named : namedUpdates.name ≠ "" := by decide
  have listed : namedUpdates.columns ≠ [] := by decide
  have rule : service ∈ cascade := by simp [cascade, service]
  have column : "name" ∈ namedUpdates.columns.map Column.name := by decide
  have keyword : Occurs "aws" (lower question) := by decide +kernel
  have phrase : Occurs (lower "EC2") (lower question) := by decide +kernel
  have found : namedUpdates.column? "name" = some ⟨"name", .text, false, ["EC2"]⟩ := by
    decide +kernel
  obtain ⟨query, parsed⟩ := answered named listed
  obtain ⟨provider, product⟩ := filtered query parsed
  have filters : (parseWith (fun _ => ⟨[], []⟩) namedUpdates options question).toOption.map
      Query.filters = some [.equals "name" "aws"] := by decide +kernel
  rw [parsed] at filters
  refine ⟨named, listed, rule, kept service rule _ "name" ⟨_, List.mem_singleton_self _, rfl⟩,
    column, keyword, found, phrase, query, parsed, Option.some.inj filters, ?_, ?_⟩
  · exact provider column ⟨"aws", by decide, keyword⟩
  · exact product _ found ⟨"EC2", by decide, phrase⟩

end TableTalk.Question
