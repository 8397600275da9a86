import Mathlib.Data.List.Nodup
import TableTalk.Catalog.Validation
import TableTalk.Database.Outcome
import TableTalk.Engine.Basic
import TableTalk.Proofs.Database.Tallying
import TableTalk.Proofs.Question.Columns
import TableTalk.Proofs.Question.Provenance

/-!
# The most frequent values

A question for the most frequent products is answered by a ranking of the values of the product
column, among the rows that meet all filters of the question. Rows without a key do not count,
unless the key column has the name that stands for whole rows.
-/

namespace TableTalk

open TableTalk.Catalog
open TableTalk.Database
open TableTalk.Language
open TableTalk.Question
open TableTalk.Sql

set_option autoImplicit false

/-- A column of that name, the first one, holds texts. -/
def Catalog.Table.HasText (table : Table) (name : String) : Prop :=
  ∃ column, table.column? name = some column ∧ column.type = .text

/-- The stored rows that meet all filters. -/
def Database.StoredTable.meeting (table : StoredTable) (filters : List Filter) : List Row :=
  table.rows.filter fun row => filters.all fun filter =>
    table.value filter.column row = .text filter.value

/-- What is counted for a key column: it may have the name that stands for whole rows. -/
def keyArgument (key : String) : Option String := if key = "*" then none else some key

section

variable {context : Context} {filter : Filter}

/-! ## Queries for the most frequent values -/

theorem frequent_outline (context : Context) {first : Column} {others : List Column}
    (product : context.options.productColumn ∈ (first :: others).map Column.name)
    (frequent : (decisionTable first others context).intent ∈
      [Intent.findMostFrequent, .findMostFrequentEntity]) :
    ∃ intent resultName limit, decisionTable first others context =
      .tally intent context.options.productColumn (keyColumn first others) resultName
        context.options.productColumn limit := by
  have projected : ∀ fallback, productElse first others context.options fallback =
      context.options.productColumn := fun _ => if_pos product
  unfold decisionTable at frequent ⊢
  cases found : ranking? context with
  | some ranking =>
      obtain ⟨limit, column⟩ := ranking
      obtain ⟨rfl, _⟩ := ranking_on_product_column found
      exact ⟨_, _, _, rfl⟩
  | none =>
      simp only [found, projected] at frequent ⊢
      split_ifs at frequent ⊢
      · exact ⟨_, _, _, rfl⟩
      · exact ⟨_, _, _, rfl⟩
      · exact absurd frequent
          (by decide : Intent.count ∉ [Intent.findMostFrequent, .findMostFrequentEntity])
      · exact absurd frequent
          (by decide : Intent.findData ∉ [Intent.findMostFrequent, .findMostFrequentEntity])

theorem normal_form_of_tally (table : Table) {query : Query} {intent : Intent}
    {group key resultName : String} {limit : UInt64}
    (outline : query.outline = .tally intent group key resultName group limit) :
    query.normalForm table =
      tallyForm group (keyArgument key) resultName (query.filters.map Filter.bound) limit := by
  have selectColumns : query.selectColumns = [group] := congrArg Outline.selectColumns outline
  have aggregations : query.aggregations = [⟨.count, key, some resultName⟩] :=
    congrArg Outline.aggregations outline
  have groupBy : query.groupBy = some group := congrArg Outline.groupBy outline
  have orderBy : query.orderBy = some ⟨resultName, .descending⟩ := congrArg Outline.orderBy outline
  have limited : query.limit = some limit := congrArg Outline.limit outline
  have projected : query.projected =
      [.column group, .aggregate .count (keyArgument key) (some resultName)] := by
    rw [Query.projected, selectColumns, aggregations]
    rfl
  rw [Query.normalForm, projected, groupBy, orderBy, limited, if_neg (List.cons_ne_nil _ _)]
  rfl

theorem parsed_filter_on_text (provider : context.table.HasText context.options.providerColumn)
    (product : context.table.HasText context.options.productColumn)
    (member : filter ∈ (runCascade context).filters) :
    filter.operator = .equals ∧
      ∃ column ∈ context.table.columns, column.name = filter.column ∧ column.type = .text := by
  have listed : ∀ name, context.table.HasText name →
      ∃ column ∈ context.table.columns, column.name = name ∧ column.type = .text := by
    rintro name ⟨column, found, isText⟩
    obtain ⟨present, named⟩ := column_listed found
    exact ⟨column, present, named, isText⟩
  rcases run_cascade_member member with linkable | ⟨_, keyword, _, rfl⟩
  · cases linkable with
    | entity _ _ linked =>
        obtain ⟨column, present, isText, named, _⟩ := link_text_eq_some linked
        exact ⟨rfl, column, present, named, isText⟩
    | keyword _ _ _ => exact ⟨rfl, listed _ provider⟩
    | product _ _ _ => exact ⟨rfl, listed _ product⟩
  · exact ⟨rfl, listed _ provider⟩

/-! ## Rows -/

theorem counts_of_key (table : StoredTable) (key : String) :
    table.counts (keyArgument key) =
      fun row => decide (key = "*") || !(table.value key row).isNull := by
  funext row
  unfold StoredTable.counts keyArgument
  by_cases whole : key = "*"
  · simp [whole]
  · simp [whole]

theorem meeting_bound (table : StoredTable) {filters : List Filter}
    (equals : ∀ filter ∈ filters, filter.operator = .equals) :
    (table.rows.filter fun row => (filters.map Filter.bound).all fun filter =>
      table.value filter.column row = .text filter.value) = table.meeting filters := by
  apply List.filter_congr
  intro row _
  rw [List.all_map, Bool.eq_iff_iff, List.all_eq_true, List.all_eq_true]
  apply forall₂_congr
  intro filter member
  simp [Filter.bound, equals filter member]

theorem tallied_of_parsed (context : Context) {contents : Contents} {stored : StoredTable} {key : String}
    (holds : contents.Holds context.table stored)
    (provider : context.table.HasText context.options.providerColumn)
    (product : context.table.HasText context.options.productColumn)
    (listed : ∃ column ∈ context.table.columns, column.name = key) :
    Tallied stored context.options.productColumn (keyArgument key)
      ((runCascade context).filters.map Filter.bound) := by
  refine ⟨?_, ?_, ?_⟩
  · obtain ⟨column, found, isText⟩ := product
    obtain ⟨present, named⟩ := column_listed found
    rw [← named]
    exact held_has_text holds present isText
  · intro name counted
    obtain ⟨column, present, rfl⟩ := listed
    unfold keyArgument at counted
    split at counted
    · cases counted
    · cases counted
      exact ⟨_, held_column_found holds present⟩
  · intro bound member
    obtain ⟨filter, present, rfl⟩ := List.mem_map.mp member
    obtain ⟨equals, column, columnPresent, named, isText⟩ :=
      parsed_filter_on_text provider product present
    have text := held_has_text holds columnPresent isText
    rw [named] at text
    simpa [Filter.bound, equals] using text

/-! ## Records -/

theorem record_of_two {first second : String} (apart : first ≠ second) (left right : Cell) :
    (record [first, second] [left, right]).Perm
      [(first, left.toDocument), (second, right.toDocument)] := by
  have fields : record [first, second] [left, right] =
      insertField second right.toDocument [(first, left.toDocument)] := rfl
  rw [fields, insertField]
  split
  · exact List.Perm.swap _ _ _
  · rw [if_neg apart.symm]
    exact List.Perm.refl _

theorem textual_document_injective {first second : Cell} (firstTextual : first.Textual)
    (secondTextual : second.Textual) (same : first.toDocument = second.toDocument) :
    first = second := by
  cases firstTextual with
  | blob bytes =>
      cases secondTextual with
      | blob others =>
          have octets : Function.Injective fun byte : UInt8 =>
              Document.Value.integer byte.toNat := by
            intro byte other equal
            exact UInt8.toNat_inj.mp (Int.ofNat_inj.mp (Document.Value.integer.inj equal))
          rw [List.map_injective_iff.mpr octets (Document.Value.list.inj same)]
      | _ => cases same
  | _ =>
      cases secondTextual with
      | _ => cases same <;> rfl

end

/-! ## Answers -/

def Engine.context (engine : Engine) (question : String) : Context :=
  .ofQuestion (Gazetteer.ofTable engine.table organizationNames).analyze engine.table
    engine.parser question

section

variable {engine : Engine} {question : String} {translation : Translation}

theorem translated_query (translated : engine.translate question = .ok translation) :
    translation.parsed = (runCascade (engine.context question)).finish engine.table.name :=
  parse_with_eq_ok (translate_eq_ok translated).1

theorem frequent_statement (product : engine.table.HasText engine.parser.productColumn)
    (translated : engine.translate question = .ok translation)
    (frequent : translation.parsed.intent ∈ [Intent.findMostFrequent, .findMostFrequentEntity]) :
    ∃ key resultName limit, engine.table.primaryKey? = some key ∧
      translation.parsed.aggregations = [.count key resultName] ∧
      translation.parsed.limit = some limit ∧ 0 < limit.toNat ∧
      translation.statement =
        (tallyForm engine.parser.productColumn (keyArgument key) resultName
          (translation.parsed.filters.map Filter.bound) limit).statement engine.table.name
            engine.compiler.dialect := by
  have known : engine.parser.productColumn ∈ engine.table.columns.map Column.name := by
    obtain ⟨_, found, _⟩ := product
    obtain ⟨present, named⟩ := column_listed found
    exact List.mem_map.mpr ⟨_, present, named⟩
  obtain ⟨first, others, columns⟩ : ∃ first others, engine.table.columns = first :: others :=
    List.exists_cons_of_ne_nil fun empty => by simp [empty] at known
  have decided : translation.parsed.outline =
      decisionTable first others (engine.context question) := by
    rw [translated_query translated]
    exact run_cascade_outline columns
  rw [columns] at known
  obtain ⟨intent, resultName, limit, tally⟩ :=
    frequent_outline (engine.context question) known (decided ▸ frequent)
  have outline : translation.parsed.outline = .tally intent engine.parser.productColumn
      (keyColumn first others) resultName engine.parser.productColumn limit :=
    decided.trans tally
  have limited : translation.parsed.limit = some limit := congrArg Outline.limit outline
  obtain ⟨_, checked, statement⟩ := compile_eq_ok (translate_eq_ok translated).2
  rw [normal_form_of_tally engine.table outline] at statement
  exact ⟨keyColumn first others, resultName, limit, primary_key_eq columns,
    congrArg Outline.aggregations outline, limited, (checked.limited limit limited).1, statement⟩

end

/-- The answer to a question for the most frequent values of the product column. -/
theorem most_frequent_values_ranked {engine : Engine} {question : String}
    {translation : Translation} {contents : Contents} {table : StoredTable}
    (provider : engine.table.HasText engine.parser.providerColumn)
    (product : engine.table.HasText engine.parser.productColumn)
    (holds : contents.Holds engine.table table)
    (translated : engine.translate question = .ok translation)
    (frequent : translation.parsed.intent ∈ [Intent.findMostFrequent, .findMostFrequentEntity])
    (unlike : ∀ count ∈ translation.parsed.aggregations,
      count.resultName ≠ some engine.parser.productColumn) :
    let column := engine.parser.productColumn
    ∃ key resultName limit ranking answer,
      engine.table.primaryKey? = some key ∧
      translation.parsed.aggregations = [.count key resultName] ∧
      translation.parsed.limit = some limit ∧
      Ranks (table.value column) (fun row => key = "*" || !(table.value key row).isNull)
        (table.meeting translation.parsed.filters) limit.toNat ranking ∧
      contents.execute translation.statement = .ok answer ∧
      answer.columns = [column, resultName] ∧
      (ranking.map fun entry => entry.1.toDocument).Nodup ∧
      List.Forall₂ (fun entry fields => fields.Perm
          [(column, entry.1.toDocument), (resultName, .integer entry.2)])
        ranking answer.records := by
  intro column
  obtain ⟨key, resultName, limit, primary, aggregations, limited, positive, statement⟩ :=
    frequent_statement product translated frequent
  have filters : translation.parsed.filters = (runCascade (engine.context question)).filters := by
    rw [translated_query translated]
    rfl
  have equals : ∀ filter ∈ translation.parsed.filters, filter.operator = .equals := by
    intro filter member
    rw [filters] at member
    exact (parsed_filter_on_text provider product member).1
  have tallied : Tallied table column (keyArgument key)
      (translation.parsed.filters.map Filter.bound) := by
    rw [filters]
    exact tallied_of_parsed (engine.context question) holds provider product
      (primary_key_listed primary)
  obtain ⟨ranking, ranks, executed⟩ :=
    execute_tally resultName holds.found tallied positive engine.compiler.dialect
  rw [meeting_bound table equals, counts_of_key] at ranks
  rw [← statement] at executed
  refine ⟨key, resultName, limit, ranking, _, primary, aggregations, limited, ranks, executed, rfl,
    ?_, ?_⟩
  · -- The cells of the ranking differ, and cells of texts differ as parts of a document too.
    have textual : ∀ cell ∈ ranking.map Prod.fst, cell.Textual := by
      intro cell member
      obtain ⟨entry, ranked, rfl⟩ := List.mem_map.mp member
      obtain ⟨row, met, value⟩ := ranks.found entry ranked
      rw [← value]
      exact tallied.grouped.textual row (List.mem_of_mem_filter met)
    have distinct := List.Nodup.map_on (fun left leftListed right rightListed same =>
      textual_document_injective (textual left leftListed) (textual right rightListed) same)
      ranks.distinct
    rwa [List.map_map] at distinct
  · have named : column ≠ resultName := by
      intro same
      exact unlike _ (aggregations ▸ List.mem_singleton_self _) (congrArg some same.symm)
    rw [Answer.records, List.map_map, List.forall₂_map_right_iff, List.forall₂_same]
    intro entry _
    exact record_of_two named entry.1 (.integer entry.2)

def keyedUpdates : Engine where
  table := ⟨"update", [⟨"id", .integer, true, []⟩, ⟨"provider", .text, false, ["aws"]⟩,
    ⟨"product_name", .text, false, []⟩]⟩

/-- The columns stand in another order, behind one that the engine does not know. -/
def reorderedUpdates : StoredTable :=
  .ofColumns "Update"
    [⟨"note", none⟩, ⟨"product_name", some .text⟩, ⟨"provider", some .text⟩, ⟨"id", some .numeric⟩]
    [[.null, .text "EC2", .text "aws", .integer 1],
      [.text "new", .text "AKS", .text "azure", .integer 2],
      [.null, .text "EC2", .text "aws", .null]]

theorem products_of_provider_ranked :
    keyedUpdates.table.HasText "provider" ∧ keyedUpdates.table.HasText "product_name" ∧
      Contents.Holds ⟨[reorderedUpdates]⟩ keyedUpdates.table reorderedUpdates ∧
      ∃ translation, keyedUpdates.translate "Most updates from AWS" = .ok translation ∧
        translation.parsed.intent ∈ [Intent.findMostFrequent, .findMostFrequentEntity] ∧
        (∀ count ∈ translation.parsed.aggregations,
          count.resultName ≠ some "product_name") ∧
        ∃ ranking answer,
          Ranks (reorderedUpdates.value "product_name")
            (fun row => !(reorderedUpdates.value "id" row).isNull)
            (reorderedUpdates.meeting [.equals "provider" "aws"]) 5 ranking ∧
          Contents.execute ⟨[reorderedUpdates]⟩ translation.statement = .ok answer ∧
          answer.columns = ["product_name", "update_count"] := by
  have provider : keyedUpdates.table.HasText "provider" :=
    ⟨⟨"provider", .text, false, ["aws"]⟩, by decide, rfl⟩
  have product : keyedUpdates.table.HasText "product_name" :=
    ⟨⟨"product_name", .text, false, []⟩, by decide, rfl⟩
  have holds : Contents.Holds ⟨[reorderedUpdates]⟩ keyedUpdates.table reorderedUpdates :=
    ⟨rfl, by decide, by decide, of_columns_filled _ _ _⟩
  have parsed : ((keyedUpdates.translate "Most updates from AWS").toOption.map fun translation =>
      (translation.parsed.intent, translation.parsed.filters, translation.parsed.aggregations,
        translation.parsed.limit)) = some (.findMostFrequent, [.equals "provider" "aws"],
          [.count "id" "update_count"], some 5) := by
    decide +kernel
  obtain ⟨translation, translated, fields⟩ := Option.map_eq_some_iff.mp parsed
  obtain ⟨intent, filters, aggregations, limit⟩ := by simpa only [Prod.mk.injEq] using fields
  have frequent : translation.parsed.intent ∈
      [Intent.findMostFrequent, .findMostFrequentEntity] := by
    rw [intent]
    decide
  have unlike : ∀ count ∈ translation.parsed.aggregations,
      count.resultName ≠ some keyedUpdates.parser.productColumn := by
    rw [aggregations]
    decide
  obtain ⟨key, resultName, bound, ranking, answer, primary, counts, limited, ranks, executed,
    columns, _⟩ := most_frequent_values_ranked provider product holds
      (eq_ok_of_to_option translated) frequent unlike
  rw [aggregations] at counts
  rw [limit] at limited
  cases counts
  cases limited
  rw [filters] at ranks
  exact ⟨provider, product, holds, translation, eq_ok_of_to_option translated, frequent, unlike,
    ranking, answer, ranks, executed, columns⟩

def starredUpdates : Engine where
  table := ⟨"update", [⟨"*", .integer, true, []⟩, ⟨"provider", .text, false, []⟩,
    ⟨"product_name", .text, false, []⟩]⟩

def unkeyedUpdates : StoredTable :=
  .ofRows starredUpdates.table [[.null, .text "aws", .text "EC2"]]

/-- A row without a key is counted all the same. -/
theorem row_without_key_counted :
    starredUpdates.table.validate = .ok () ∧ starredUpdates.table.primaryKey? = some "*" ∧
      starredUpdates.table.HasText "provider" ∧ starredUpdates.table.HasText "product_name" ∧
      Contents.Holds ⟨[unkeyedUpdates]⟩ starredUpdates.table unkeyedUpdates ∧
      ∃ translation answer, starredUpdates.translate "most updates" = .ok translation ∧
        translation.parsed.intent = .findMostFrequent ∧
        Contents.execute ⟨[unkeyedUpdates]⟩ translation.statement = .ok answer ∧
        answer.rows = [[.text "EC2", .integer 1]] ∧
        tallyOf (unkeyedUpdates.value "product_name")
          (fun row => !(unkeyedUpdates.value "*" row).isNull)
          (unkeyedUpdates.meeting translation.parsed.filters) (.text "EC2") = 0 := by
  have valid : starredUpdates.table.validate = .ok () := eq_ok_of_to_option (by decide)
  have provider : starredUpdates.table.HasText "provider" :=
    ⟨⟨"provider", .text, false, []⟩, by decide, rfl⟩
  have product : starredUpdates.table.HasText "product_name" :=
    ⟨⟨"product_name", .text, false, []⟩, by decide, rfl⟩
  have holds : Contents.Holds ⟨[unkeyedUpdates]⟩ starredUpdates.table unkeyedUpdates :=
    ⟨rfl, by decide, by decide, of_columns_filled _ _ _⟩
  have run : ((starredUpdates.translate "most updates").toOption.bind fun translation =>
      (Contents.execute ⟨[unkeyedUpdates]⟩
        translation.statement).toOption.map fun answer =>
          (translation.parsed.intent, translation.parsed.filters, answer.rows)) =
            some (.findMostFrequent, [], [[.text "EC2", .integer 1]]) := by
    decide +kernel
  obtain ⟨translation, translated, executed⟩ := Option.bind_eq_some_iff.mp run
  obtain ⟨answer, answered, fields⟩ := Option.map_eq_some_iff.mp executed
  obtain ⟨intent, filters, answerRows⟩ := by simpa only [Prod.mk.injEq] using fields
  refine ⟨valid, by decide, provider, product, holds, translation, answer,
    eq_ok_of_to_option translated, intent, eq_ok_of_to_option answered, answerRows, ?_⟩
  rw [filters]
  decide +kernel

end TableTalk
