import TableTalk.Proofs.Language.WholePhrase
import TableTalk.Proofs.Question.FixedPoint

/-!
# Examples as questions

An example that is asked by itself is recognized as one entity, and is linked to the first text
column that lists it in any spelling, in the spelling that this column lists first.
-/

namespace TableTalk

open TableTalk.Catalog
open TableTalk.Language
open TableTalk.Text

set_option autoImplicit false

/-- The first text column with an example that the text equals up to case, and the first such
example of it. -/
structure FirstSpelling (table : Table) (text : String) (column : Column) (found : String) :
    Prop where
  inTable : ∃ before after, table.columns = before ++ column :: after ∧ column.type = .text ∧
    ∀ other ∈ before, other.type = .text → ∀ phrase ∈ other.examples, lower phrase ≠ lower text
  inColumn : ∃ before after, column.examples = before ++ found :: after ∧
    lower found = lower text ∧ ∀ phrase ∈ before, lower phrase ≠ lower text

namespace Question

/-! ## Which column is linked -/

theorem example_matching_iff {column : Column} {text found : String} :
    column.exampleMatching text = some found ↔
      ∃ before after, column.examples = before ++ found :: after ∧
        lower found = lower text ∧ ∀ phrase ∈ before, lower phrase ≠ lower text := by
  rw [Column.exampleMatching, List.find?_eq_some_iff_append]
  constructor
  · rintro ⟨same, before, after, split, others⟩
    refine ⟨before, after, split, beq_iff_eq.mp same, ?_⟩
    intro phrase member
    simpa using others phrase member
  · rintro ⟨before, after, split, same, others⟩
    refine ⟨beq_iff_eq.mpr same, before, after, split, ?_⟩
    intro phrase member
    simpa using others phrase member

theorem example_matching_none {column : Column} {text : String} :
    column.exampleMatching text = none ↔ ∀ phrase ∈ column.examples, lower phrase ≠ lower text := by
  simp [Column.exampleMatching]

theorem link_text_iff {table : Table} {text name found : String} :
    linkText table text = some (name, found) ↔
      ∃ column, column.name = name ∧ FirstSpelling table text column found := by
  rw [linkText, List.findSome?_eq_some_iff]
  constructor
  · rintro ⟨before, column, after, split, matching, others⟩
    obtain ⟨value, matched, same⟩ := Option.map_eq_some_iff.mp matching
    obtain ⟨rfl, rfl⟩ := Prod.mk.inj same
    -- Columns of other types stand between the text columns; they cannot be the first one.
    obtain ⟨front, rest, columns, earlier, following⟩ := List.filter_eq_append_iff.mp split
    obtain ⟨skipped, later, cut, otherTypes, textual, _⟩ := List.filter_eq_cons_iff.mp following
    refine ⟨column, rfl, ⟨front ++ skipped, later, ?_, ?_, ?_⟩, example_matching_iff.mp matched⟩
    · rw [columns, cut, List.append_assoc]
    · simpa [DataType.isText] using textual
    · intro other member isText
      have kept : other.type.isText := by simp [DataType.isText, isText]
      rcases List.mem_append.mp member with ahead | between
      · have listed : other ∈ before := by
          rw [← earlier]
          exact List.mem_filter.mpr ⟨ahead, kept⟩
        exact example_matching_none.mp (Option.map_eq_none_iff.mp (others other listed))
      · exact absurd kept (otherTypes other between)
  · rintro ⟨column, rfl, ⟨before, after, columns, isText, others⟩, spelled⟩
    have kept : column.type.isText := by simp [DataType.isText, isText]
    refine ⟨before.filter fun other => other.type.isText, column,
      after.filter fun other => other.type.isText, ?_, ?_, ?_⟩
    · rw [Table.textColumns, columns, List.filter_append]
      exact congrArg _ (List.filter_cons_of_pos kept)
    · rw [example_matching_iff.mpr spelled, Option.map_some]
    · intro other member
      obtain ⟨ahead, textual⟩ := List.mem_filter.mp member
      have unspelled := others other ahead (by simpa [DataType.isText] using textual)
      rw [example_matching_none.mpr unspelled, Option.map_none]

/-! ## What is recognized -/

theorem lower_lower (text : String) : lower (lower text) = lower text :=
  lower_part_of_lowered (List.Subset.refl _)

section

variable {table : Table} {column : Column} {phrase : String}

theorem example_recognized (listed : column ∈ table.columns) (isText : column.type = .text)
    (given : phrase ∈ column.examples) (bounded : WordBounded (lower phrase).toList) :
    ∃ label : EntityLabel, label.isLinkable ∧
      ((Gazetteer.ofTable table organizationNames).analyze (lower phrase)).entities =
        [⟨lower phrase, label, 0, (tokenize (lower phrase)).length⟩] := by
  have textual : column ∈ table.textColumns :=
    List.mem_filter.mpr ⟨listed, by simp [DataType.isText, isText]⟩
  have entry := List.mem_map_of_mem
    (f := fun phrase => GazetteerEntry.ofPhrase phrase
      (if organizationNames.contains (lower phrase) then .organization else .product))
    (List.mem_flatMap.mpr ⟨column, textual, given⟩)
  have words : (tokenize (lower phrase)).map Token.text =
      loweredWords (tokenize (lower phrase)) := by
    apply List.map_congr_left
    intro token member
    exact (lower_token_text member).symm
  obtain ⟨found, known, recognized⟩ := whole_phrase_recognized entry words bounded
  exact ⟨found.label, (of_table_entry known).1, recognized⟩

theorem example_linked (listed : column ∈ table.columns) (isText : column.type = .text)
    (given : phrase ∈ column.examples) :
    ∃ first found, linkText table (lower phrase) = some (first.name, found) ∧
      FirstSpelling table phrase first found := by
  have spelled : SpelledIn table (lower phrase) :=
    ⟨column, listed, isText, phrase, given, (lower_lower phrase).symm⟩
  obtain ⟨⟨name, found⟩, linked⟩ :=
    Option.isSome_iff_exists.mp ((spelled_iff_linked table (lower phrase)).mp spelled)
  have same := link_text_congr table (lower_lower phrase)
  obtain ⟨first, rfl, spelling⟩ := link_text_iff.mp (same.symm.trans linked)
  exact ⟨first, found, linked, spelling⟩

/-- An example that is a question by itself, and does not ask for a single service, restricts the
first column that lists it to the first spelling there. -/
theorem example_alone_is_bound (options : Options) (named : table.name ≠ "")
    (listed : column ∈ table.columns) (isText : column.type = .text)
    (given : phrase ∈ column.examples) (bounded : WordBounded (lower phrase).toList)
    (unasked : ¬Occurs "service with the most updates" (lower phrase)) :
    ∃ query, parse table options phrase = .ok query ∧
      ∃ first found, FirstSpelling table phrase first found ∧
        ⟨first.name, .equals, found⟩ ∈ query.filters := by
  let recognizer := Gazetteer.ofTable table organizationNames
  let context := Context.ofQuestion recognizer.analyze table options phrase
  obtain ⟨label, linkable, entities⟩ := example_recognized listed isText given bounded
  obtain ⟨first, found, linked, spelling⟩ := example_linked listed isText given
  let entity : Entity := ⟨lower phrase, label, 0, (tokenize (lower phrase)).length⟩
  have recognized : entity ∈ context.analysis.entities := by
    change entity ∈ (recognizer.analyze (lower phrase)).entities
    rw [entities]
    exact List.mem_singleton_self _
  have unpinned : ¬PinsProvider context := fun pins => unasked pins.2.1
  have bound : .equals first.name found ∈ (runCascade context).filters := by
    rw [run_cascade_filters_unpinned unpinned]
    exact linked_entity_filtered recognized linkable linked
  exact ⟨_, parse_with_available recognizer.analyze options phrase named
    (List.ne_nil_of_mem listed), first, found, spelling, bound⟩

end

def streetUpdates : Table where
  name := "update"
  columns := [⟨"number", .integer, true, ["İstanbul ΟΔΟΣ"]⟩,
    ⟨"title", .text, false, ["İstanbul", "ΟΔΟΣ"]⟩,
    ⟨"product_name", .text, false, ["İstanbul ΟΔΟΣ 2", "İSTANBUL Οδος", "İstanbul ΟΔΟΣ"]⟩]

/-- Neither parts of the example nor longer ones come in its way, and its lower case form, which
has a mark between two words, is that of a spelling given before. -/
theorem overlapping_example_bound :
    streetUpdates.name ≠ "" ∧
      ⟨"product_name", .text, false, ["İstanbul ΟΔΟΣ 2", "İSTANBUL Οδος", "İstanbul ΟΔΟΣ"]⟩ ∈
        streetUpdates.columns ∧
      WordBounded (lower "İstanbul ΟΔΟΣ").toList ∧
      ¬Occurs "service with the most updates" (lower "İstanbul ΟΔΟΣ") ∧
      ∃ query, parse streetUpdates {} "İstanbul ΟΔΟΣ" = .ok query ∧
        ∃ first found, FirstSpelling streetUpdates "İstanbul ΟΔΟΣ" first found ∧
          ⟨first.name, .equals, found⟩ ∈ query.filters ∧
          first.name = "product_name" ∧ found = "İSTANBUL Οδος" := by
  have named : streetUpdates.name ≠ "" := by decide
  have listed :
      ⟨"product_name", .text, false, ["İstanbul ΟΔΟΣ 2", "İSTANBUL Οδος", "İstanbul ΟΔΟΣ"]⟩ ∈
        streetUpdates.columns := by decide
  have bounded : WordBounded (lower "İstanbul ΟΔΟΣ").toList :=
    ⟨⟨'i', by decide +kernel, by decide +kernel⟩, 'ς', by decide +kernel, by decide +kernel⟩
  have unasked : ¬Occurs "service with the most updates" (lower "İstanbul ΟΔΟΣ") := by
    decide +kernel
  obtain ⟨query, parsed, first, found, spelling, bound⟩ :=
    example_alone_is_bound {} named listed rfl (by decide) bounded unasked
  have linked : linkText streetUpdates "İstanbul ΟΔΟΣ" = some ("product_name", "İSTANBUL Οδος") := by
    decide +kernel
  have same := link_text_iff.mpr ⟨first, rfl, spelling⟩
  obtain ⟨name, value⟩ := Prod.mk.inj (Option.some.inj (same.symm.trans linked))
  exact ⟨named, listed, bounded, unasked, query, parsed, first, found, spelling, bound,
    name, value⟩

end Question

end TableTalk
