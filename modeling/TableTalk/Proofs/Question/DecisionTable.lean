import TableTalk.Proofs.Question.Filters

/-!
# The decision table of the rules

Which outline a question gets, the filters left aside. The rules overwrite each
other's fields, and later ones look at what earlier ones have settled; all of it
together amounts to a table with one row for each kind of question, in which the
first row that applies decides.
-/

namespace TableTalk

open TableTalk.Catalog
open TableTalk.Text

set_option autoImplicit false

/-- A query without its table and filters. -/
structure Outline where
  intent : Intent
  selectColumns : List String
  aggregations : List Aggregation
  groupBy : Option String
  orderBy : Option SortKey
  limit : Option UInt64
  deriving Repr, DecidableEq

def Query.outline (query : Query) : Outline where
  intent := query.intent
  selectColumns := query.selectColumns
  aggregations := query.aggregations
  groupBy := query.groupBy
  orderBy := query.orderBy
  limit := query.limit

/-- Rows are counted by `key` for each value of `group`, the largest counts first. -/
def Outline.tally (intent : Intent) (column key resultName group : String) (limit : UInt64) :
    Outline where
  intent
  selectColumns := [column]
  aggregations := [⟨.count, key, some resultName⟩]
  groupBy := some group
  orderBy := some ⟨resultName, .descending⟩
  limit := some limit

namespace Question

/-- The flagged key of a table with these columns, or the first of them. -/
def keyColumn (first : Column) (others : List Column) : String :=
  (((first :: others).find? Column.isPrimaryKey).getD first).name

def productElse (first : Column) (others : List Column) (options : Options)
    (fallback : String) : String :=
  if options.productColumn ∈ (first :: others).map Column.name then options.productColumn
  else fallback

/-- The outline of a question about a table with these columns. -/
def decisionTable (first : Column) (others : List Column) (context : Context) : Outline :=
  let key := keyColumn first others
  let product := context.options.productColumn
  let projected := productElse first others context.options
  match ranking? context with
  | some (limit, column) =>
      .tally .findMostFrequentEntity column key "mention_count" column limit
  | none =>
      if Occurs "service with the most updates" context.text then
        .tally .findMostFrequentEntity (projected key) key "update_count" product 1
      else if Occurs "most" context.text ∧ Occurs "updates" context.text then
        .tally .findMostFrequent (projected first.name) key "update_count" product
          context.options.mostFrequentLimit
      else if Occurs "count" context.text ∨ Occurs "how many" context.text then
        ⟨.count, [], [⟨.count, key, some "total_count"⟩], none, none, none⟩
      else
        ⟨.findData, context.options.defaultSelectColumns, [], none, none, none⟩

/-! ## Tables with columns -/

theorem primary_key_listed {table : Table} {key : String} (found : table.primaryKey? = some key) :
    ∃ column ∈ table.columns, column.name = key := by
  unfold Table.primaryKey? at found
  split at found
  · rename_i column flagged
    exact ⟨column, List.mem_of_find?_eq_some flagged, Option.some.inj found⟩
  · obtain ⟨column, first, named⟩ := Option.map_eq_some_iff.mp found
    exact ⟨column, List.mem_of_head? first, named⟩

theorem primary_key_eq {table : Table} {first : Column} {others : List Column}
    (columns : table.columns = first :: others) :
    table.primaryKey? = some (keyColumn first others) := by
  unfold Table.primaryKey? Table.firstColumn? keyColumn
  rw [columns]
  cases (first :: others).find? Column.isPrimaryKey with
  | none => rfl
  | some column => rfl

section

variable {context : Context} {first : Column} {others : List Column}

theorem counted_column_eq (columns : context.table.columns = first :: others) :
    context.countedColumn = keyColumn first others := by
  rw [Context.countedColumn, primary_key_eq columns]
  rfl

theorem product_or_eq (columns : context.table.columns = first :: others) (fallback : String) :
    productOr context fallback = productElse first others context.options fallback := by
  have known : context.table.hasColumn context.options.productColumn ↔
      context.options.productColumn ∈ (first :: others).map Column.name := by
    rw [has_column_iff, columns]
  unfold productOr productElse
  by_cases listed : context.options.productColumn ∈ (first :: others).map Column.name
  · rw [if_pos (known.mpr listed), if_pos listed]
  · rw [if_neg (mt known.mp listed), if_neg listed]

/-! ## The cascade -/

def Draft.outline (draft : Draft) : Outline where
  intent := draft.intent.getD .findData
  selectColumns := draft.selectColumns
  aggregations := draft.aggregations
  groupBy := draft.groupBy
  orderBy := draft.orderBy
  limit := draft.limit

theorem select_service_outline (columns : context.table.columns = first :: others)
    (draft : Draft) :
    (selectService context draft).outline =
      .tally .findMostFrequentEntity
        (productElse first others context.options (keyColumn first others))
        (keyColumn first others) "update_count" context.options.productColumn 1 ∧
    (selectService context draft).intent = some .findMostFrequentEntity := by
  rw [← product_or_eq columns, ← counted_column_eq columns]
  unfold selectService
  cases pinnedProvider? context with
  | none => exact ⟨rfl, rfl⟩
  | some keyword =>
      dsimp only
      obtain ⟨filters, pinned⟩ := pin_provider_frame context.options.providerColumn keyword
        { draft with
          intent := some .findMostFrequentEntity
          groupBy := some context.options.productColumn
          aggregations := [.count context.countedColumn updateCount]
          orderBy := some (.descending updateCount)
          limit := some 1
          selectColumns := [productOr context context.countedColumn] }
      rw [pinned]
      exact ⟨rfl, rfl⟩

theorem first_rules_of_ranking {limit : UInt64} {column : String}
    (found : ranking? context = some (limit, column)) (draft : Draft) :
    runRules (cascade.take 3) context draft = rankEntities context draft := by
  have ranked : (rankEntities context draft).intent = some .findMostFrequentEntity ∧
      (rankEntities context draft).ranked = true := by
    simp [rankEntities, found]
  have notCounted : asksCount context (rankEntities context draft) = false := by
    simp [asksCount, ranked]
  have notGrouped : asksMostFrequent context (rankEntities context draft) = false := by
    simp [asksMostFrequent, ranked]
  rw [first_rules_eq]
  simp only [found, Option.isSome_some, if_true, notCounted, notGrouped, Bool.false_eq_true,
    if_false]

theorem first_rules_without_ranking (unranked : ranking? context = none) {draft : Draft}
    (undecided : draft.intent ≠ some .findMostFrequentEntity) :
    runRules (cascade.take 3) context draft =
      let counted := if Occurs "count" context.text ∨ Occurs "how many" context.text
        then countRows context draft else draft
      if (Occurs "most" context.text ∧ Occurs "updates" context.text) ∧
          ¬Occurs "service with the most updates" context.text
        then groupMostFrequent context counted else counted := by
  have counted : (countRows context draft).intent ≠ some .findMostFrequentEntity := by
    simp [countRows]
  rw [first_rules_eq]
  simp only [unranked, Option.isSome_none, Bool.false_eq_true, if_false,
    asks_count_iff undecided]
  by_cases counts : Occurs "count" context.text ∨ Occurs "how many" context.text
  · simp only [if_pos counts, asks_most_frequent_iff counted]
  · simp only [if_neg counts, asks_most_frequent_iff undecided]

theorem last_rules_outline (columns : context.table.columns = first :: others) (draft : Draft) :
    (runRules (cascade.drop 3) context draft).outline =
      if draft.ranked = false ∧ Occurs "service with the most updates" context.text then
        .tally .findMostFrequentEntity
          (productElse first others context.options (keyColumn first others))
          (keyColumn first others) "update_count" context.options.productColumn 1
      else if draft.intent = none then
        { draft.outline with
          intent := .findData, selectColumns := context.options.defaultSelectColumns }
      else draft.outline := by
  obtain ⟨filters, linked⟩ := adds_frame (add_entity_filters_adds context draft)
  have service : asksService context (addEntityFilters context draft) ↔
      draft.ranked = false ∧ Occurs "service with the most updates" context.text := by
    rw [linked]
    simp [asksService, Context.mentions, mentions_iff, servicePhrase]
  have kept : ∀ served : Draft, (dropRepeatedFilters context served).outline = served.outline :=
    fun _ => rfl
  have intents : ∀ served : Draft, (dropRepeatedFilters context served).intent = served.intent :=
    fun _ => rfl
  rw [last_rules_eq]
  simp only [service, intents]
  by_cases asked : draft.ranked = false ∧ Occurs "service with the most updates" context.text
  · obtain ⟨outline, intent⟩ := select_service_outline columns (addEntityFilters context draft)
    simp only [if_pos asked, intent, Option.isNone_some, Bool.false_eq_true, if_false, kept,
      outline]
  · simp only [if_neg asked, linked]
    cases intent : draft.intent with
    | none => simp [findData, Draft.outline, dropRepeatedFilters]
    | some decided => simp [Draft.outline, dropRepeatedFilters, intent]

theorem group_most_frequent_outline (columns : context.table.columns = first :: others)
    (draft : Draft) :
    (groupMostFrequent context draft).outline =
      .tally .findMostFrequent
        (productElse first others context.options first.name)
        (keyColumn first others) "update_count" context.options.productColumn
        context.options.mostFrequentLimit := by
  rw [← product_or_eq columns, ← counted_column_eq columns]
  have fallback : context.table.firstColumn? = some first.name := by
    rw [Table.firstColumn?, columns]
    rfl
  unfold groupMostFrequent
  rw [fallback]
  rfl

theorem run_cascade_outline (columns : context.table.columns = first :: others) :
    (runCascade context).outline = decisionTable first others context := by
  rw [run_cascade_parts, last_rules_outline columns]
  unfold decisionTable
  cases found : ranking? context with
  | some ranking =>
      obtain ⟨limit, column⟩ := ranking
      rw [first_rules_of_ranking found]
      simp [rankEntities, found, Draft.outline, Outline.tally, counted_column_eq columns,
        Aggregation.count, SortKey.descending, mentionCount]
  | none =>
      rw [first_rules_without_ranking found (by decide)]
      by_cases service : Occurs "service with the most updates" context.text
      · have unranked : (if Occurs "count" context.text ∨ Occurs "how many" context.text
            then countRows context {} else {}).ranked = false := by
          split
          · rfl
          · rfl
        simp only [service, not_true_eq_false, and_false, if_false, unranked, and_self, if_true]
      · by_cases most : Occurs "most" context.text ∧ Occurs "updates" context.text
        · simp only [service, most, not_false_eq_true, and_self, if_true, and_false, if_false,
            group_most_frequent_outline columns]
          rfl
        · by_cases counts : Occurs "count" context.text ∨ Occurs "how many" context.text
          · simp only [service, most, counts, false_and, and_false, if_true, if_false]
            simp [countRows, Draft.outline, counted_column_eq columns, Aggregation.count,
              totalCount]
          · simp only [service, most, counts, false_and, and_false, if_false]
            rfl

end

/-- A table with a name and columns has an answer to every question, and the outline
of the answer is that of the decision table, whatever the analysis says. -/
theorem parse_follows_decision_table (analyze : String → Language.Analysis) {table : Table}
    (options : Options) (question : String) {first : Column} {others : List Column}
    (named : table.name ≠ "") (columns : table.columns = first :: others) :
    ∃ query, parseWith analyze table options question = .ok query ∧
      query.targetTable = table.name ∧
      query.outline =
        decisionTable first others (.ofQuestion analyze table options question) := by
  have available : checkTable table = .ok () := by
    simp [checkTable, named, columns]
  refine ⟨(runCascade (.ofQuestion analyze table options question)).finish table.name, ?_, rfl, ?_⟩
  · rw [parseWith, available]
    rfl
  · exact run_cascade_outline columns

theorem service_outline_overrides_count :
    ∃ query, parseWith (fun _ => ⟨[], []⟩)
        ⟨"update", [⟨"title", .text, false, []⟩, ⟨"id", .integer, true, []⟩]⟩ {}
        "Count: Service with the most updates" = .ok query ∧
      query.targetTable = "update" ∧
      query.outline =
        .tally .findMostFrequentEntity "id" "id" "update_count" "product_name" 1 := by
  have lowered : Text.lower "Count: Service with the most updates" =
      "count: service with the most updates" := by decide +kernel
  obtain ⟨query, parsed, target, outline⟩ := parse_follows_decision_table (fun _ => ⟨[], []⟩) {}
    "Count: Service with the most updates" (by decide)
    (rfl : (⟨"update", [⟨"title", .text, false, []⟩, ⟨"id", .integer, true, []⟩]⟩ :
      Table).columns = _)
  refine ⟨query, parsed, target, outline.trans ?_⟩
  rw [Context.ofQuestion, lowered]
  decide +kernel

end Question

end TableTalk
