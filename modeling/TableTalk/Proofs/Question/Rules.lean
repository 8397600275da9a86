import TableTalk.Proofs.Outcome
import TableTalk.Proofs.Text.Search
import TableTalk.Question.Parser

/-!
# What the rules do

When a rule applies, which fields of a draft it leaves as they are, and what a run of
all rules amounts to.
-/

namespace TableTalk.Question

open TableTalk.Catalog
open TableTalk.Language
open TableTalk.Text

set_option autoImplicit false

/-! ## Guards -/

section

variable {context : Context} {draft : Draft}

theorem asks_count_iff (other : draft.intent ≠ some .findMostFrequentEntity) :
    asksCount context draft ↔
      Occurs "count" context.text ∨ Occurs "how many" context.text := by
  simp [asksCount, other, Context.mentions, mentions_iff]

theorem asks_most_frequent_iff (other : draft.intent ≠ some .findMostFrequentEntity) :
    asksMostFrequent context draft ↔
      (Occurs "most" context.text ∧ Occurs "updates" context.text) ∧
        ¬Occurs "service with the most updates" context.text := by
  simp [asksMostFrequent, other, Context.mentions, mentions_iff, servicePhrase,
    ← Bool.not_eq_true]

/-! ## Fields that are left as they are -/

theorem pin_provider_frame (provider keyword : String) (draft : Draft) :
    ∃ filters, pinProvider provider keyword draft = { draft with filters } := by
  unfold pinProvider
  dsimp only
  split
  · exact ⟨_, rfl⟩
  · exact ⟨_, rfl⟩

/-! ## What is found -/

theorem has_column_iff (table : Table) (name : String) :
    table.hasColumn name ↔ name ∈ table.columns.map Column.name := by
  simp only [Table.hasColumn, Table.column?, List.find?_isSome, List.mem_map, beq_iff_eq]

theorem column_listed {table : Table} {name : String} {column : Column}
    (known : table.column? name = some column) :
    column ∈ table.columns ∧ column.name = name := by
  unfold Table.column? at known
  have same := List.find?_some known
  exact ⟨List.mem_of_find?_eq_some known, beq_iff_eq.mp same⟩

theorem link_text_eq_some {table : Table} {text name found : String}
    (linked : linkText table text = some (name, found)) :
    ∃ column ∈ table.columns, column.type = .text ∧ column.name = name ∧
      found ∈ column.examples ∧ Text.lower found = Text.lower text := by
  unfold linkText at linked
  obtain ⟨column, member, matched⟩ := List.exists_of_findSome?_eq_some linked
  obtain ⟨value, matching, same⟩ := Option.map_eq_some_iff.mp matched
  obtain ⟨rfl, rfl⟩ := Prod.mk.inj same
  obtain ⟨present, isText⟩ := List.mem_filter.mp member
  have equal := List.find?_some matching
  exact ⟨column, present, by simpa [DataType.isText] using isText, rfl,
    List.mem_of_find?_eq_some matching, by simpa using equal⟩

theorem linkable_label {label : EntityLabel} (linkable : label.isLinkable) :
    label ∈ [EntityLabel.organization, .product, .place] := by
  cases label with
  | other => cases linkable
  | _ => decide

theorem first_of_each_key_subset (seen : List (String × String × String))
    (filters : List Filter) : firstOfEachKey seen filters ⊆ filters := by
  induction filters generalizing seen with
  | nil => exact List.Subset.refl _
  | cons filter filters ih =>
      unfold firstOfEachKey
      split
      · exact List.subset_cons_of_subset filter (ih seen)
      · exact List.cons_subset_cons filter (ih (filter.key :: seen))

/-! ## Runs -/

/-- What every rule preserves holds after all of them. -/
theorem run_rules_preserve {holds : Draft → Prop} {rules : List Rule}
    (preserved : ∀ rule ∈ rules, ∀ draft, holds draft → holds (rule.effect context draft))
    (start : holds draft) : holds (runRules rules context draft) := by
  unfold runRules
  apply List.foldlRecOn _ _ start
  intro current currentHolds rule member
  unfold Rule.run
  split
  · exact preserved rule member current currentHolds
  · exact currentHolds

end

theorem run_rules_append (first last : List Rule) (context : Context) (draft : Draft) :
    runRules (first ++ last) context draft =
      runRules last context (runRules first context draft) :=
  List.foldl_append

/-- The first three rules settle on a ranking or a count, the others link filters and
have the last word on services. -/
theorem run_rules_parts (context : Context) (draft : Draft) :
    runRules cascade context draft =
      runRules (cascade.drop 3) context (runRules (cascade.take 3) context draft) := by
  rw [← run_rules_append, List.take_append_drop]

theorem run_cascade_parts (context : Context) :
    runCascade context =
      runRules (cascade.drop 3) context (runRules (cascade.take 3) context {}) :=
  run_rules_parts context {}

theorem first_rules_eq (context : Context) (draft : Draft) :
    runRules (cascade.take 3) context draft =
      let ranked := if (ranking? context).isSome then rankEntities context draft else draft
      let counted := if asksCount context ranked then countRows context ranked else ranked
      if asksMostFrequent context counted then groupMostFrequent context counted
        else counted := by
  simp only [runRules, cascade, List.take_succ_cons, List.take_zero, List.foldl_cons,
    List.foldl_nil, Rule.run]

theorem last_rules_eq (context : Context) (draft : Draft) :
    runRules (cascade.drop 3) context draft =
      let linked := addEntityFilters context draft
      let served := if asksService context linked then selectService context linked else linked
      let kept := dropRepeatedFilters context served
      if kept.intent.isNone then findData context kept else kept := by
  simp only [runRules, cascade, List.drop_succ_cons, List.drop_zero, List.foldl_cons,
    List.foldl_nil, Rule.run, if_true]

/-- A table with a name and columns has an answer to every question. -/
theorem parse_with_available (analyze : String → Analysis) {table : Table} (options : Options)
    (question : String) (named : table.name ≠ "") (listed : table.columns ≠ []) :
    parseWith analyze table options question =
      .ok ((runCascade (.ofQuestion analyze table options question)).finish table.name) := by
  have available : checkTable table = .ok () := by
    simp [checkTable, named, listed]
  rw [parseWith, available]
  rfl

theorem parse_with_unavailable (analyze : String → Analysis) {table : Table} (options : Options)
    (question : String) (lacking : table.name = "" ∨ table.columns = []) :
    ∃ error, parseWith analyze table options question = .error error := by
  unfold parseWith checkTable
  by_cases named : table.name = ""
  · exact ⟨⟨table.name, .noName⟩, by simp [named]⟩
  · have listed : table.columns = [] := lacking.resolve_left named
    exact ⟨⟨table.name, .noColumns⟩, by simp [named, listed]⟩

theorem parse_with_eq_ok {analyze : String → Analysis} {table : Table} {options : Options}
    {question : String} {query : Query}
    (parsed : parseWith analyze table options question = .ok query) :
    query = (runCascade (.ofQuestion analyze table options question)).finish table.name := by
  obtain ⟨_, _, finished⟩ := except_bind_eq_ok parsed
  exact (Except.ok.inj finished).symm

end TableTalk.Question
