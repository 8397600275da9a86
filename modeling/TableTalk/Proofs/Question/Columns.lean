import TableTalk.Proofs.Question.DecisionTable
import TableTalk.Proofs.Question.Filters

/-!
# Columns that a table lacks

The columns of the provider and of the product are configured, and a table need not have
them. Ranking and linking look before they use one. Pinning a provider and grouping the
updates do not, and these are the only ways by which a column that the table lacks gets
into the filters or the grouping of a query.
-/

namespace TableTalk.Question

open TableTalk.Catalog
open TableTalk.Language
open TableTalk.Text

set_option autoImplicit false

/-- A single service is asked for, and no ranking, by the name of a provider. -/
def PinsProvider (context : Context) : Prop :=
  ranking? context = none ∧ Occurs "service with the most updates" context.text ∧
    ∃ keyword ∈ context.options.providerKeywords, Occurs (keyword ++ " service") context.text

def GroupsUpdates (context : Context) : Prop :=
  Occurs "most" context.text ∧ Occurs "updates" context.text

instance (context : Context) : Decidable (GroupsUpdates context) := by
  unfold GroupsUpdates
  infer_instance

section

variable {context : Context} {filter : Filter}

/-! ## Filters -/

theorem linkable_on_column (linkable : Linkable context filter) :
    filter.column ∈ context.table.columns.map Column.name := by
  cases linkable with
  | entity _ _ linked =>
      obtain ⟨column, present, _, named, _⟩ := link_text_eq_some linked
      exact List.mem_map.mpr ⟨column, present, named⟩
  | keyword known _ _ => exact (has_column_iff _ _).mp known
  | product known _ _ =>
      obtain ⟨present, named⟩ := column_listed known
      exact List.mem_map.mpr ⟨_, present, named⟩

theorem pinned_provider_some_iff :
    (∃ keyword, pinnedProvider? context = some keyword) ↔
      ∃ keyword ∈ context.options.providerKeywords,
        Occurs (keyword ++ " service") context.text := by
  rw [← Option.isSome_iff_exists, pinnedProvider?, List.find?_isSome]
  simp only [Context.mentions, mentions_iff]

theorem pin_provider_restricts (provider keyword : String) (draft : Draft) :
    ∃ pinned ∈ (pinProvider provider keyword draft).filters, pinned.column = provider := by
  unfold pinProvider
  dsimp only
  split
  · rename_i kept
    obtain ⟨pinned, member, same⟩ := List.any_eq_true.mp kept
    exact ⟨pinned, member, beq_iff_eq.mp same⟩
  · exact ⟨_, List.mem_append_right _ (List.mem_singleton_self _), rfl⟩

theorem pins_provider_restricts (pins : PinsProvider context) :
    ∃ pinned ∈ (runCascade context).filters, pinned.column = context.options.providerColumn := by
  obtain ⟨unranked, service, asked⟩ := pins
  obtain ⟨keyword, found⟩ := pinned_provider_some_iff.mpr asked
  rw [run_cascade_filters]
  dsimp only
  rw [if_pos ⟨unranked, service⟩]
  unfold selectService
  rw [found]
  obtain ⟨pinned, member, restricts⟩ := pin_provider_restricts
    context.options.providerColumn keyword _
  -- If the pinned filter is dropped as a repetition, another one on its column is left.
  obtain ⟨kept, present, same⟩ :=
    (first_of_each_key_covers [] _ member).resolve_left List.not_mem_nil
  have column : kept.column = pinned.column := congrArg Prod.fst same
  exact ⟨kept, present, column.trans restricts⟩

theorem filters_on_columns_iff (context : Context) :
    (∀ filter ∈ (runCascade context).filters,
        filter.column ∈ context.table.columns.map Column.name) ↔
      context.options.providerColumn ∈ context.table.columns.map Column.name ∨
        ¬PinsProvider context := by
  constructor
  · intro known
    by_cases pins : PinsProvider context
    · obtain ⟨pinned, member, restricts⟩ := pins_provider_restricts pins
      exact .inl (restricts ▸ known pinned member)
    · exact .inr pins
  · intro safe filter member
    rcases run_cascade_member member with linkable | ⟨⟨unranked, service⟩, keyword, found, rfl⟩
    · exact linkable_on_column linkable
    · have pins : PinsProvider context :=
        ⟨unranked, service, pinned_provider_some_iff.mp ⟨keyword, found⟩⟩
      exact safe.resolve_right (not_not.mpr pins)

/-! ## Groupings -/

theorem ranking_on_product_column {limit : UInt64} {column : String}
    (found : ranking? context = some (limit, column)) :
    column = context.options.productColumn ∧
      column ∈ context.table.columns.map Column.name := by
  unfold ranking? at found
  split at found
  · cases found
  · dsimp only at found
    split at found
    · rename_i known
      cases found
      exact ⟨rfl, (has_column_iff _ _).mp (Bool.and_eq_true_iff.mp known).2⟩
    · cases found

theorem service_groups_updates
    (service : Occurs "service with the most updates" context.text) : GroupsUpdates context := by
  have most : Occurs "most" "service with the most updates" := by decide
  have updates : Occurs "updates" "service with the most updates" := by decide
  exact ⟨most.trans service, updates.trans service⟩

theorem decision_table_groups (first : Column) (others : List Column) (context : Context) :
    (decisionTable first others context).groupBy =
      if (ranking? context).isSome ∨ GroupsUpdates context then
        some context.options.productColumn
      else none := by
  unfold decisionTable
  cases found : ranking? context with
  | some ranking =>
      obtain ⟨limit, column⟩ := ranking
      obtain ⟨rfl, _⟩ := ranking_on_product_column found
      rfl
  | none =>
      simp only [Option.isSome_none, Bool.false_eq_true, false_or]
      by_cases service : Occurs "service with the most updates" context.text
      · rw [if_pos service, if_pos (service_groups_updates service)]
        rfl
      · rw [if_neg service]
        by_cases grouped : GroupsUpdates context
        · rw [if_pos grouped, if_pos (show _ ∧ _ from grouped)]
          rfl
        · rw [if_neg grouped, if_neg (show ¬(_ ∧ _) from grouped)]
          split
          · rfl
          · rfl

theorem grouped_by_column_iff (context : Context) (listed : context.table.columns ≠ []) :
    (∀ column ∈ (runCascade context).groupBy,
        column ∈ context.table.columns.map Column.name) ↔
      context.options.productColumn ∈ context.table.columns.map Column.name ∨
        ¬GroupsUpdates context := by
  obtain ⟨first, others, columns⟩ := List.exists_cons_of_ne_nil listed
  have grouping := congrArg Outline.groupBy (run_cascade_outline columns)
  rw [decision_table_groups] at grouping
  change (runCascade context).groupBy = _ at grouping
  rw [grouping]
  cases found : ranking? context with
  | some ranking =>
      obtain ⟨limit, column⟩ := ranking
      obtain ⟨rfl, known⟩ := ranking_on_product_column found
      rw [if_pos (.inl rfl)]
      exact ⟨fun _ => .inl known, fun _ column same => Option.some.inj same ▸ known⟩
  | none =>
      by_cases grouped : GroupsUpdates context
      · simp [grouped]
      · simp [grouped]

end

/-! ## Parsed queries -/

/-- Which questions may be asked about a table that lacks the provider or the product
column: its filters, and its grouping, are on columns of the table for exactly these. -/
theorem query_on_columns_iff (analyze : String → Analysis) {table : Table} (options : Options)
    (question : String) (named : table.name ≠ "") (listed : table.columns ≠ []) :
    ∃ query, parseWith analyze table options question = .ok query ∧
      ((∀ filter ∈ query.filters, filter.column ∈ table.columns.map Column.name) ↔
        options.providerColumn ∈ table.columns.map Column.name ∨
          ¬PinsProvider (.ofQuestion analyze table options question)) ∧
      ((∀ column ∈ query.groupBy, column ∈ table.columns.map Column.name) ↔
        options.productColumn ∈ table.columns.map Column.name ∨
          ¬GroupsUpdates (.ofQuestion analyze table options question)) := by
  let context := Context.ofQuestion analyze table options question
  have parsed := parse_with_available analyze options question named listed
  have filters := filters_on_columns_iff context
  have grouping := grouped_by_column_iff context listed
  exact ⟨_, parsed, filters, grouping⟩

def titledUpdates : Table where
  name := "update"
  columns := [⟨"title", .text, false, []⟩]

theorem missing_columns_left_alone :
    titledUpdates.name ≠ "" ∧ titledUpdates.columns ≠ [] ∧
      ∃ query, parse titledUpdates {} "How many updates for AWS?" = .ok query ∧
        (∀ filter ∈ query.filters, filter.column ∈ ["title"]) ∧
        ∀ column ∈ query.groupBy, column ∈ ["title"] := by
  have named : titledUpdates.name ≠ "" := by decide
  have listed : titledUpdates.columns ≠ [] := by decide
  obtain ⟨query, parsed, filters, grouping⟩ := query_on_columns_iff
    (Gazetteer.ofTable titledUpdates organizationNames).analyze {} "How many updates for AWS?"
    named listed
  have lowered : Text.lower "How many updates for AWS?" = "how many updates for aws?" := by
    decide +kernel
  refine ⟨named, listed, query, parsed, filters.mpr (.inr ?_), grouping.mpr (.inr ?_)⟩
  · rintro ⟨_, service, _⟩
    rw [Context.ofQuestion, lowered] at service
    exact absurd service (by decide +kernel)
  · rw [Context.ofQuestion, lowered]
    decide +kernel

/-- A service of a provider is asked for, and gets both columns into the query. -/
theorem missing_columns_filtered_and_grouped :
    titledUpdates.name ≠ "" ∧ titledUpdates.columns ≠ [] ∧
      ∃ query, parse titledUpdates {} "AWS service with the most updates" = .ok query ∧
        (∃ filter ∈ query.filters, filter.column ∉ titledUpdates.columns.map Column.name) ∧
        ∃ column ∈ query.groupBy, column ∉ titledUpdates.columns.map Column.name := by
  let query : Query := {
    intent := .findMostFrequentEntity
    selectColumns := ["title"]
    filters := [.equals "provider" "aws"]
    aggregations := [.count "title" "update_count"]
    groupBy := some "product_name"
    orderBy := some (.descending "update_count")
    limit := some 1
    targetTable := "update" }
  have parsed : parse titledUpdates {} "AWS service with the most updates" = .ok query :=
    eq_ok_of_to_option (by decide +kernel)
  refine ⟨by decide, by decide, query, parsed, ⟨.equals "provider" "aws", ?_, ?_⟩,
    "product_name", rfl, ?_⟩
  · exact List.mem_singleton_self _
  · decide
  · decide

end TableTalk.Question
