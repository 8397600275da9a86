import TableTalk.Proofs.Language.PhraseList
import TableTalk.Proofs.Language.Words
import TableTalk.Proofs.Text.Lowered

/-!
# Recognized phrases

What a phrase list recognizes in a text: whole sequences of tokens, each of which is a
phrase of the list. In a lowered text the span of a phrase has the words of the phrase,
whatever stands between them.
-/

namespace TableTalk.Language

open TableTalk.Catalog
open TableTalk.Text

set_option autoImplicit false

/-- The lower case words of a phrase, by which it is recognized. -/
def phraseWords (phrase : String) : List String := (tokenize (lower phrase)).map Token.text

/-- The lower case words of the tokens that an entity covers. -/
def Analysis.wordsOf (analysis : Analysis) (entity : Entity) : List String :=
  ((analysis.tokens.drop entity.firstToken).take (entity.endToken - entity.firstToken)).map
    fun token => lower token.text

/-! ## Phrases of a table -/

theorem of_table_entry {table : Table} {organizations : List String} {entry : GazetteerEntry}
    (member : entry ∈ (Gazetteer.ofTable table organizations).entries) :
    entry.label.isLinkable ∧ ∃ column ∈ table.columns, column.type = .text ∧
      ∃ phrase ∈ column.examples, entry.tokens = phraseWords phrase := by
  obtain ⟨listed, _⟩ := of_entries_entry member
  obtain ⟨phrase, given, rfl⟩ := List.mem_map.mp listed
  obtain ⟨column, textual, known⟩ := List.mem_flatMap.mp given
  obtain ⟨present, isText⟩ := List.mem_filter.mp textual
  refine ⟨?_, column, present, by simpa [DataType.isText] using isText, phrase, known, rfl⟩
  unfold GazetteerEntry.ofPhrase
  split
  · rfl
  · rfl

/-! ## Phrases in texts -/

theorem longest_at_some {gazetteer : Gazetteer} {words : List String} {entry : GazetteerEntry}
    (found : gazetteer.longestAt words = some entry) :
    entry ∈ gazetteer.entries ∧ ∃ after, words = entry.tokens ++ after := by
  unfold Gazetteer.longestAt at found
  have starts := List.find?_some found
  obtain ⟨after, split⟩ := List.isPrefixOf_iff_prefix.mp starts
  exact ⟨List.mem_of_find?_eq_some found, after, split.symm⟩

theorem phrases_from_sound {gazetteer : Gazetteer}
    (nonempty : ∀ entry ∈ gazetteer.entries, entry.tokens ≠ []) {index place : Nat}
    {words : List String} {entry : GazetteerEntry}
    (member : (place, entry) ∈ gazetteer.phrasesFrom index words) :
    entry ∈ gazetteer.entries ∧
      ∃ before after, words = before ++ (entry.tokens ++ after) ∧
        place = index + before.length := by
  fun_induction Gazetteer.phrasesFrom gazetteer index words
  case case1 => cases member
  case case2 index word rest first found width ih =>
    obtain ⟨listed, after, split⟩ := longest_at_some found
    rcases List.mem_cons.mp member with here | later
    · obtain ⟨rfl, rfl⟩ := Prod.mk.inj here
      exact ⟨listed, [], after, split, rfl⟩
    · obtain ⟨known, before, following, continued, same⟩ := ih later
      refine ⟨known, first.tokens ++ before, following, ?_, ?_⟩
      · obtain ⟨token, tokens, phrase⟩ := List.exists_cons_of_ne_nil (nonempty first listed)
        have dropped : rest.drop (width - 1) = after := by
          rw [phrase, List.cons_append] at split
          simp [width, phrase, (List.cons.inj split).2]
        rw [split, List.append_assoc, ← continued, dropped]
      · rw [same, List.length_append, Nat.add_assoc]
  case case3 index word rest missing ih =>
    obtain ⟨known, before, following, continued, same⟩ := ih member
    refine ⟨known, word :: before, following, ?_, ?_⟩
    · rw [continued, List.cons_append]
    · rw [same, List.length_cons]
      omega

/-! ## Entities -/

theorem analyzed_entity {gazetteer : Gazetteer}
    (nonempty : ∀ entry ∈ gazetteer.entries, entry.tokens ≠ []) {text : String} {entity : Entity}
    (member : entity ∈ (gazetteer.analyze text).entities) :
    ∃ entry ∈ gazetteer.entries, ∃ before covered after,
      tokenize text = before ++ (covered ++ after) ∧
      (covered.map fun token => lower token.text) = entry.tokens ∧
      entity = ⟨spanText text.toList covered, entry.label, before.length,
        before.length + covered.length⟩ := by
  obtain ⟨⟨place, entry⟩, found, rfl⟩ := List.mem_map.mp member
  obtain ⟨listed, words, others, split, same⟩ := phrases_from_sound nonempty found
  obtain ⟨before, continued, tokens, rfl, cut⟩ := List.map_eq_append_iff.mp split
  obtain ⟨covered, after, rfl, phrase, rfl⟩ := List.map_eq_append_iff.mp cut
  refine ⟨entry, listed, before, covered, after, tokens, phrase, ?_⟩
  have index : place = before.length := by rw [same, Nat.zero_add, List.length_map]
  have width : entry.tokens.length = covered.length := by rw [← phrase, List.length_map]
  dsimp only
  rw [GazetteerEntry.entity, width, index, tokens, List.drop_left, List.take_left]

theorem words_of_covered {analysis : Analysis} {before covered after : List Token}
    (tokens : analysis.tokens = before ++ (covered ++ after)) (text : String)
    (label : EntityLabel) :
    analysis.wordsOf ⟨text, label, before.length, before.length + covered.length⟩ =
      covered.map fun token => lower token.text := by
  unfold Analysis.wordsOf
  dsimp only
  rw [tokens, List.drop_left, Nat.add_sub_cancel_left, List.take_left]

theorem lower_token_text {text : String} {token : Token} (member : token ∈ tokenize (lower text)) :
    lower token.text = token.text := lower_part_of_lowered (token_text_subset member)

/-- The words of an entity of a lowered text are those of its span, and of an example. -/
theorem recognized_entity {table : Table} {organizations : List String} {question : String}
    {entity : Entity} {analysis : Analysis}
    (analyzed : analysis = (Gazetteer.ofTable table organizations).analyze (lower question))
    (member : entity ∈ analysis.entities) :
    entity.label.isLinkable ∧ phraseWords entity.text = analysis.wordsOf entity ∧
      ∃ column ∈ table.columns, column.type = .text ∧
        ∃ phrase ∈ column.examples, phraseWords phrase = analysis.wordsOf entity := by
  have nonempty : ∀ entry ∈ (Gazetteer.ofTable table organizations).entries,
      entry.tokens ≠ [] := fun entry listed => (of_entries_entry listed).2
  rw [analyzed] at member
  obtain ⟨entry, listed, before, covered, after, tokens, phrase, rfl⟩ :=
    analyzed_entity nonempty member
  obtain ⟨linkable, column, present, isText, given, known, words⟩ := of_table_entry listed
  have covers : analysis.wordsOf ⟨spanText (lower question).toList covered, entry.label,
      before.length, before.length + covered.length⟩ = entry.tokens := by
    rw [analyzed, ← phrase]
    exact words_of_covered tokens _ _
  have covering : covered ≠ [] := by
    rintro rfl
    exact nonempty entry listed phrase.symm
  obtain ⟨inside, spanned⟩ := span_of_tokens tokens covering
  have lowered : (covered.map fun token => lower token.text) = covered.map Token.text := by
    apply List.map_congr_left
    intro token known
    have listed : token ∈ tokenize (lower question) := by
      rw [tokens]
      exact List.mem_append_right _ (List.mem_append_left _ known)
    exact lower_token_text listed
  refine ⟨linkable, ?_, column, present, isText, given, known, ?_⟩
  · rw [covers, phraseWords, lower_part_of_lowered inside, spanned, ← lowered, phrase]
  · rw [covers, words]

end TableTalk.Language
