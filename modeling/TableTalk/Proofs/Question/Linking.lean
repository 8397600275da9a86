import TableTalk.Catalog.Validation
import TableTalk.Proofs.Language.Phrases
import TableTalk.Proofs.Question.Filters

/-!
# Recognition and linking

Entities are recognized by their words and linked by their text. A span that has the words
of an example need not be written like it: blanks, line breaks or punctuation may separate
the words in another way, or surround them in the example. Spans that are written like an
example are linked; the others have no part in the query.
-/

namespace TableTalk

open TableTalk.Catalog
open TableTalk.Language
open TableTalk.Text

set_option autoImplicit false

/-- A text column has an example that the text equals, up to case. -/
def SpelledIn (table : Table) (text : String) : Prop :=
  ∃ column ∈ table.columns, column.type = .text ∧
    ∃ phrase ∈ column.examples, lower phrase = lower text

instance (table : Table) (text : String) : Decidable (SpelledIn table text) := by
  unfold SpelledIn
  infer_instance

/-- A filter restricts a text column to an example of it that has these words. -/
def RestrictsTo (table : Table) (filters : List Filter) (words : List String) : Prop :=
  ∃ filter ∈ filters, ∃ column ∈ table.columns, column.type = .text ∧
    filter.column = column.name ∧ filter.value ∈ column.examples ∧
    phraseWords filter.value = words

instance (table : Table) (filters : List Filter) (words : List String) :
    Decidable (RestrictsTo table filters words) := by
  unfold RestrictsTo
  infer_instance

/-- An analysis without the entities that are not written like an example. -/
def Language.Analysis.spelledIn (table : Table) (analysis : Analysis) : Analysis :=
  { analysis with entities := analysis.entities.filter fun entity => SpelledIn table entity.text }

namespace Question

/-! ## Single texts -/

theorem spelled_iff_linked (table : Table) (text : String) :
    SpelledIn table text ↔ (linkText table text).isSome := by
  unfold linkText
  rw [List.isSome_findSome?, List.any_eq_true]
  constructor
  · rintro ⟨column, present, isText, phrase, listed, same⟩
    refine ⟨column, List.mem_filter.mpr ⟨present, by simp [DataType.isText, isText]⟩, ?_⟩
    rw [Option.isSome_map, Column.exampleMatching, List.find?_isSome]
    exact ⟨phrase, listed, beq_iff_eq.mpr same⟩
  · rintro ⟨column, textual, matched⟩
    obtain ⟨present, isText⟩ := List.mem_filter.mp textual
    rw [Option.isSome_map, Column.exampleMatching, List.find?_isSome] at matched
    obtain ⟨phrase, listed, same⟩ := matched
    exact ⟨column, present, by simpa [DataType.isText] using isText, phrase, listed,
      beq_iff_eq.mp same⟩

section

variable {context : Context} {draft : Draft} {entity : Entity}

/-! ## Spans that are written like an example -/

theorem link_entities_covers (recognized : entity ∈ context.analysis.entities)
    (linkable : entity.label.isLinkable) {column found : String}
    (linked : linkText context.table entity.text = some (column, found)) :
    ∃ kept ∈ (linkEntities context draft).filters, kept.targets column found := by
  have listed : entity ∈ context.analysis.entities.filter fun entity => entity.label.isLinkable :=
    List.mem_filter.mpr ⟨recognized, linkable⟩
  unfold linkEntities
  generalize context.analysis.entities.filter _ = entities at listed
  induction entities generalizing draft with
  | nil => cases listed
  | cons first others ih =>
      rw [List.foldl_cons]
      rcases List.mem_cons.mp listed with rfl | later
      · have covered : ∃ kept ∈ (linkEntity context draft entity).filters,
            kept.targets column found := by
          rw [linkEntity, linked]
          exact add_filter_covers draft (.equals column found)
        obtain ⟨kept, member, targets⟩ := covered
        -- The entities after it only add filters.
        have othersAdd : Adds (fun _ => True) (linkEntity context draft entity)
            (others.foldl (linkEntity context) (linkEntity context draft entity)) := by
          apply List.foldlRecOn _ _ .none
          intro current adds other _
          exact adds_trans adds (link_entity_adds fun _ _ _ => trivial)
        exact ⟨kept, adds_keeps othersAdd member, targets⟩
      · exact ih later

theorem phrase_words_congr {first second : String} (same : lower first = lower second) :
    phraseWords first = phraseWords second := by
  rw [phraseWords, phraseWords, same]

theorem spelled_entity_restricts (recognized : entity ∈ context.analysis.entities)
    (linkable : entity.label.isLinkable) (spelled : SpelledIn context.table entity.text)
    (unasked : ¬Occurs "service with the most updates" context.text) :
    RestrictsTo context.table (runCascade context).filters (phraseWords entity.text) := by
  obtain ⟨⟨name, found⟩, linked⟩ :=
    Option.isSome_iff_exists.mp ((spelled_iff_linked _ _).mp spelled)
  obtain ⟨_, _, _, _, _, spelling⟩ := link_text_eq_some linked
  obtain ⟨unfiltered, _⟩ := first_rules_frame context
  obtain ⟨kept, member, targets⟩ := link_entities_covers recognized linkable linked
  have present : kept ∈ (runCascade context).filters := by
    rw [run_cascade_filters_linked unasked]
    exact adds_keeps (link_product_adds _ _) (adds_keeps (link_provider_adds _ _) member)
  have source := adds_member (link_entities_adds _ _) member
  rw [unfiltered] at source
  obtain ⟨other, _, _, otherName, value, otherLinked, rfl⟩ :=
    source.resolve_left List.not_mem_nil
  obtain ⟨column, listed, isText, named, valued, _⟩ := link_text_eq_some otherLinked
  have same : lower value = lower found := beq_iff_eq.mp (Bool.and_eq_true_iff.mp targets).2
  exact ⟨_, present, column, listed, isText, named.symm, valued,
    phrase_words_congr (same.trans spelling)⟩

/-! ## Spans that are not -/

theorem link_entity_unspelled (unspelled : ¬SpelledIn context.table entity.text) (draft : Draft) :
    linkEntity context draft entity = draft := by
  have unlinked : linkText context.table entity.text = none := by
    rwa [spelled_iff_linked, Option.not_isSome_iff_eq_none] at unspelled
  rw [linkEntity, unlinked]

theorem link_entities_spelled (context : Context) (draft : Draft) :
    linkEntities { context with analysis := context.analysis.spelledIn context.table } draft =
      linkEntities context draft := by
  unfold linkEntities Analysis.spelledIn
  rw [List.foldl_filter, List.foldl_filter, List.foldl_filter]
  congr 1
  funext current entity
  by_cases spelled : SpelledIn context.table entity.text
  · rw [if_pos (decide_eq_true spelled)]
    rfl
  · rw [if_neg (by simpa using spelled), link_entity_unspelled spelled, ite_self]

theorem run_rules_congr {rules : List Rule} {context other : Context}
    (same : ∀ rule ∈ rules, ∀ draft, rule.run context draft = rule.run other draft)
    (draft : Draft) : runRules rules context draft = runRules rules other draft := by
  unfold runRules
  induction rules generalizing draft with
  | nil => rfl
  | cons rule rules ih =>
      obtain ⟨first, others⟩ := List.forall_mem_cons.mp same
      rw [List.foldl_cons, List.foldl_cons, first, ih others]

theorem run_cascade_spelled (context : Context) :
    runCascade { context with analysis := context.analysis.spelledIn context.table } =
      runCascade context := by
  apply run_rules_congr
  intro rule member draft
  -- Linking is the only rule that looks at entities; all others see the same.
  simp only [cascade, List.mem_cons, List.not_mem_nil, or_false] at member
  rcases member with rfl | rfl | rfl | rfl | rfl | rfl | rfl
  · rfl
  · rfl
  · rfl
  · simp only [Rule.run, if_true, addEntityFilters, link_entities_spelled]
    rfl
  · rfl
  · rfl
  · rfl

end

/-! ## Questions about a table -/

theorem validated_has_columns {table : Table} (valid : table.validate = .ok ()) :
    table.columns ≠ [] := by
  intro absent
  rw [Table.validate, absent] at valid
  cases valid

/-- What the phrase list of a table recognizes and what its examples link: every recognized
span has the words of an example; one that is written like an example restricts the query to
an example with its words; the query does not depend on the others. -/
theorem linked_if_written_like_example {table : Table} (options : Options) (question : String)
    (valid : table.validate = .ok ())
    (unasked : ¬Occurs "service with the most updates" (lower question)) :
    let recognizer := Gazetteer.ofTable table organizationNames
    let analysis := recognizer.analyze (lower question)
    (∀ entity ∈ analysis.entities, ∃ column ∈ table.columns, column.type = .text ∧
      ∃ phrase ∈ column.examples, phraseWords phrase = analysis.wordsOf entity) ∧
    (table.name ≠ "" → ∃ query, parse table options question = .ok query) ∧
    (∀ query, parse table options question = .ok query →
      ∀ entity ∈ analysis.entities, SpelledIn table entity.text →
        RestrictsTo table query.filters (analysis.wordsOf entity)) ∧
    parseWith (fun text => (recognizer.analyze text).spelledIn table) table options question =
      parse table options question := by
  intro recognizer analysis
  refine ⟨?_, ?_, ?_, ?_⟩
  · intro entity member
    exact (recognized_entity rfl member).2.2
  · intro named
    exact ⟨_, parse_with_available recognizer.analyze options question named
      (validated_has_columns valid)⟩
  · intro query parsed entity member spelled
    obtain ⟨linkable, words, _⟩ := recognized_entity rfl member
    let context := Context.ofQuestion recognizer.analyze table options question
    have restricted : RestrictsTo table (runCascade context).filters (phraseWords entity.text) :=
      spelled_entity_restricts member linkable spelled unasked
    rw [parse_with_eq_ok parsed, ← words]
    exact restricted
  · have same := run_cascade_spelled (.ofQuestion recognizer.analyze table options question)
    unfold parse parseWith
    rw [← same]
    rfl

def deviceUpdates : Table where
  name := "update"
  columns := [⟨"title", .text, false, []⟩, ⟨"product_name", .text, false, ["IoT Hub"]⟩]

theorem phrase_in_other_case_linked :
    deviceUpdates.validate = .ok () ∧
      ¬Occurs "service with the most updates" (lower "IOT hub?") ∧
      ∃ query, parse deviceUpdates {} "IOT hub?" = .ok query ∧
        RestrictsTo deviceUpdates query.filters ["iot", "hub"] := by
  let recognizer := Gazetteer.ofTable deviceUpdates organizationNames
  let entity : Entity := ⟨"iot hub", .product, 0, 2⟩
  have valid : deviceUpdates.validate = .ok () := eq_ok_of_to_option (by decide +kernel)
  have unasked : ¬Occurs "service with the most updates" (lower "IOT hub?") := by decide +kernel
  obtain ⟨_, succeeds, linked, _⟩ := linked_if_written_like_example {} "IOT hub?" valid unasked
  obtain ⟨query, parsed⟩ := succeeds (by decide)
  have recognized : entity ∈ (recognizer.analyze (lower "IOT hub?")).entities := by
    decide +kernel
  have words : (recognizer.analyze (lower "IOT hub?")).wordsOf entity = ["iot", "hub"] := by
    decide +kernel
  have restricted := linked query parsed entity recognized (by decide +kernel)
  rw [words] at restricted
  exact ⟨valid, unasked, query, parsed, restricted⟩

/-- Two blanks between the words are no matter to recognition, and keep the product from being
linked. -/
theorem phrase_with_two_blanks_not_linked :
    deviceUpdates.validate = .ok () ∧
      ¬Occurs "service with the most updates" (lower "iot  hub") ∧
      ∃ entity ∈ ((Gazetteer.ofTable deviceUpdates organizationNames).analyze
          (lower "iot  hub")).entities,
        ((Gazetteer.ofTable deviceUpdates organizationNames).analyze
          (lower "iot  hub")).wordsOf entity = ["iot", "hub"] ∧
        ∃ query, parse deviceUpdates {} "iot  hub" = .ok query ∧
          ¬RestrictsTo deviceUpdates query.filters ["iot", "hub"] := by
  let query : Query := {
    intent := .findData
    selectColumns := ["title", "provider", "product_name", "published_date"]
    targetTable := "update" }
  have valid : deviceUpdates.validate = .ok () := eq_ok_of_to_option (by decide +kernel)
  have parsed : parse deviceUpdates {} "iot  hub" = .ok query :=
    eq_ok_of_to_option (by decide +kernel)
  refine ⟨valid, by decide +kernel, ⟨"iot  hub", .product, 0, 2⟩, by decide +kernel,
    by decide +kernel, query, parsed, ?_⟩
  rintro ⟨filter, member, _⟩
  exact List.not_mem_nil member

end Question

end TableTalk
