import TableTalk.Proofs.Question.Filters

/-!
# No filter twice

Linking never adds a filter on a column and value that are restricted already, and pinning a
provider adds one only for want of any on its column. So the rule that drops repeated filters
finds none among those that the rules before it have gathered.
-/

namespace TableTalk.Question

open TableTalk.Catalog
open TableTalk.Language
open TableTalk.Text

set_option autoImplicit false

section

variable {context : Context} {draft : Draft}

theorem pin_provider_unrepeated (provider keyword : String)
    (unrepeated : Unrepeated draft.filters) :
    Unrepeated (pinProvider provider keyword draft).filters := by
  unfold pinProvider
  dsimp only
  split
  · exact unrepeated.filter _
  · rename_i unpinned
    apply List.pairwise_append.mpr
    refine ⟨unrepeated.filter _, List.pairwise_singleton _ _, ?_⟩
    intro present member last same
    rw [List.mem_singleton.mp same]
    intro targeted
    have onProvider := (Bool.and_eq_true_iff.mp targeted).1
    exact unpinned (List.any_eq_true.mpr ⟨present, member, onProvider⟩)

theorem select_service_unrepeated (unrepeated : Unrepeated draft.filters) :
    Unrepeated (selectService context draft).filters := by
  unfold selectService
  cases pinnedProvider? context with
  | none => exact unrepeated
  | some keyword =>
      apply pin_provider_unrepeated
      exact unrepeated

/-- The rules before the one that drops repeated filters. -/
theorem gathering_rules_eq (context : Context) :
    runRules (cascade.take 5) context {} =
      let linked := addEntityFilters context (runRules (cascade.take 3) context {})
      if asksService context linked then selectService context linked else linked := by
  simp only [runRules, cascade, List.take_succ_cons, List.take_zero, List.foldl_cons,
    List.foldl_nil, Rule.run, if_true]

theorem gathered_filters_unrepeated (context : Context) :
    Unrepeated (runRules (cascade.take 5) context {}).filters := by
  rw [gathering_rules_eq]
  dsimp only
  split
  · exact select_service_unrepeated (linked_filters_unrepeated context)
  · exact linked_filters_unrepeated context

theorem drop_repeated_filters_eq (context : Context) (unrepeated : Unrepeated draft.filters) :
    dropRepeatedFilters context draft = draft := by
  unfold dropRepeatedFilters
  rw [first_of_each_key_eq (fun _ _ => List.not_mem_nil) unrepeated]

theorem run_cascade_filters_gathered (context : Context) :
    (runCascade context).filters = (runRules (cascade.take 5) context {}).filters := by
  have parts : runCascade context =
      runRules (cascade.drop 5) context (runRules (cascade.take 5) context {}) := by
    rw [← run_rules_append, List.take_append_drop]
    rfl
  have kept := drop_repeated_filters_eq context (gathered_filters_unrepeated context)
  rw [parts]
  simp only [runRules, cascade, List.drop_succ_cons, List.drop_zero, List.foldl_cons,
    List.foldl_nil, Rule.run, if_true] at kept ⊢
  rw [kept]
  split
  · rfl
  · rfl

end

theorem unrepeated_iff (filters : List Filter) :
    Unrepeated filters ↔ filters.Pairwise fun earlier later =>
      (earlier.column, Text.lower earlier.value) ≠ (later.column, Text.lower later.value) := by
  unfold Unrepeated
  simp [Filter.targets, Prod.ext_iff]

/-- The rules gather no two filters on one column and value, up to case, so that there are none
to drop, and a parsed query has none. -/
theorem no_filter_repeated (analyze : String → Analysis) (table : Table) (options : Options)
    (question : String) :
    let context := Context.ofQuestion analyze table options question
    let gathered := runRules (cascade.take 5) context {}
    (gathered.filters.Pairwise fun earlier later =>
      (earlier.column, Text.lower earlier.value) ≠ (later.column, Text.lower later.value)) ∧
    dropRepeatedFilters context gathered = gathered ∧
    (table.name ≠ "" → table.columns ≠ [] →
      ∃ query, parseWith analyze table options question = .ok query) ∧
    ∀ query, parseWith analyze table options question = .ok query →
      query.filters = gathered.filters ∧
      (query.filters.Pairwise fun earlier later =>
        (earlier.column, Text.lower earlier.value) ≠ (later.column, Text.lower later.value)) ∧
      query.filters.Pairwise fun earlier later => earlier.key ≠ later.key := by
  intro context gathered
  have unrepeated := gathered_filters_unrepeated context
  have distinct := (unrepeated_iff gathered.filters).mp unrepeated
  refine ⟨distinct, drop_repeated_filters_eq context unrepeated, ?_, ?_⟩
  · intro named listed
    exact ⟨_, parse_with_available analyze options question named listed⟩
  · intro query parsed
    have same : query.filters = gathered.filters := by
      rw [parse_with_eq_ok parsed]
      exact run_cascade_filters_gathered context
    rw [same]
    exact ⟨rfl, distinct, unrepeated_keys unrepeated⟩

def vendorUpdates : Table where
  name := "update"
  columns := [⟨"provider", .text, false, ["aws", "Azure"]⟩,
    ⟨"product_name", .text, false, ["EC2"]⟩]

/-- An analysis that recognizes two providers, one of them twice and in two spellings. -/
def vendorEntities : Analysis where
  tokens := []
  entities := [⟨"azure", .organization, 0, 1⟩, ⟨"AWS", .organization, 2, 3⟩,
    ⟨"AZURE", .organization, 4, 5⟩]

theorem provider_in_two_spellings_filtered_once :
    vendorUpdates.name ≠ "" ∧ vendorUpdates.columns ≠ [] ∧
      ∃ query, parseWith (fun _ => vendorEntities) vendorUpdates {} "azure, AWS, AZURE: EC2" =
          .ok query ∧
        query.filters = [.equals "provider" "Azure", .equals "provider" "aws",
          .equals "product_name" "EC2"] ∧
        query.filters.Pairwise fun earlier later => earlier.key ≠ later.key := by
  have named : vendorUpdates.name ≠ "" := by decide
  have listed : vendorUpdates.columns ≠ [] := by decide
  obtain ⟨_, _, answered, distinct⟩ := no_filter_repeated (fun _ => vendorEntities)
    vendorUpdates {} "azure, AWS, AZURE: EC2"
  obtain ⟨query, parsed⟩ := answered named listed
  have filters : (parseWith (fun _ => vendorEntities) vendorUpdates {}
      "azure, AWS, AZURE: EC2").toOption.map Query.filters =
        some [.equals "provider" "Azure", .equals "provider" "aws",
          .equals "product_name" "EC2"] := by
    decide +kernel
  rw [parsed] at filters
  exact ⟨named, listed, query, parsed, Option.some.inj filters, (distinct query parsed).2.2⟩

end TableTalk.Question
