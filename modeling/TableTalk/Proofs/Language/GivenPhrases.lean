import Mathlib.Data.List.Permutation
import TableTalk.Proofs.Language.Phrases

/-!
# Phrases as they are given

A phrase list holds each phrase that is given once, with the label that it is given first, and
its order does not depend on the order in which the phrases are given. So any rearrangement of
them recognizes the same spans in every text, and only a phrase that is given with two labels
can come out with another one.
-/

namespace TableTalk.Language

open TableTalk.Text

set_option autoImplicit false

/-! ## The order of the list -/

/-- The phrases of a list, in the order in which they are tried. -/
def Gazetteer.phrases (gazetteer : Gazetteer) : List (List String) :=
  gazetteer.entries.map GazetteerEntry.tokens

/-- The first phrase has more tokens, or equally many that come before those of the second. -/
def PhraseBefore (first second : List String) : Prop :=
  second.length < first.length ∨ (first.length = second.length ∧ first < second)

theorem phrase_before_asymm {first second : List String} (before : PhraseBefore first second) :
    ¬PhraseBefore second first := by
  rintro (longer | ⟨same, after⟩)
  · rcases before with shorter | ⟨same, _⟩
    · exact Nat.lt_asymm longer shorter
    · exact Nat.ne_of_lt longer same
  · rcases before with shorter | ⟨_, before⟩
    · exact Nat.ne_of_lt shorter same
    · exact List.lt_asymm before after

theorem of_entries_phrases_sorted (entries : List GazetteerEntry) :
    (Gazetteer.ofEntries entries).phrases.Pairwise PhraseBefore := by
  have ordered := of_entries_in_order entries
  apply List.pairwise_map.mpr
  apply (ordered.sorted.and (List.pairwise_map.mp ordered.distinct)).imp
  rintro first second ⟨longer | ⟨same, notAfter⟩, differs⟩
  · exact Or.inl longer
  · exact Or.inr ⟨same, (List.le_iff_lt_or_eq.mp notAfter).resolve_right differs⟩

theorem mem_of_entries_phrases {entries : List GazetteerEntry} {tokens : List String} :
    tokens ∈ (Gazetteer.ofEntries entries).phrases ↔
      tokens ≠ [] ∧ tokens ∈ entries.map GazetteerEntry.tokens := by
  simp only [Gazetteer.phrases, List.mem_map]
  constructor
  · rintro ⟨entry, member, rfl⟩
    obtain ⟨given, nonempty⟩ := of_entries_entry member
    exact ⟨nonempty, entry, given, rfl⟩
  · rintro ⟨nonempty, entry, given, rfl⟩
    obtain ⟨kept, member, same⟩ := of_entries_covers given nonempty
    exact ⟨kept, member, same⟩

/-- Rearranging the given phrases does not change the list but for labels. -/
theorem of_entries_phrases_perm {entries others : List GazetteerEntry}
    (rearranged : entries.Perm others) :
    (Gazetteer.ofEntries entries).phrases = (Gazetteer.ofEntries others).phrases := by
  have antisymmetric : ∀ first second, first ∈ (Gazetteer.ofEntries entries).phrases →
      second ∈ (Gazetteer.ofEntries others).phrases → PhraseBefore first second →
      PhraseBefore second first → first = second :=
    fun _ _ _ _ before after => absurd after (phrase_before_asymm before)
  apply List.Perm.eq_of_pairwise antisymmetric
  · exact of_entries_phrases_sorted entries
  · exact of_entries_phrases_sorted others
  · apply (List.perm_ext_iff_of_nodup (of_entries_in_order entries).distinct
      (of_entries_in_order others).distinct).mpr
    intro tokens
    have given := (rearranged.map GazetteerEntry.tokens).mem_iff (a := tokens)
    exact mem_of_entries_phrases.trans ((and_congr_right' given).trans mem_of_entries_phrases.symm)

/-! ## Recognized spans -/

def GazetteerEntry.unlabelled (entry : GazetteerEntry) : GazetteerEntry :=
  { entry with label := .other }

def Gazetteer.unlabelled (gazetteer : Gazetteer) : Gazetteer :=
  { entries := gazetteer.entries.map GazetteerEntry.unlabelled }

def Entity.span (entity : Entity) : String × Nat × Nat :=
  (entity.text, entity.firstToken, entity.endToken)

theorem longest_at_unlabelled (gazetteer : Gazetteer) (words : List String) :
    gazetteer.unlabelled.longestAt words =
      (gazetteer.longestAt words).map GazetteerEntry.unlabelled :=
  List.find?_map

theorem phrases_from_unlabelled (gazetteer : Gazetteer) (index : Nat) (words : List String) :
    gazetteer.unlabelled.phrasesFrom index words =
      (gazetteer.phrasesFrom index words).map fun (place, entry) => (place, entry.unlabelled) := by
  fun_induction Gazetteer.phrasesFrom gazetteer index words with
  | case1 => rw [Gazetteer.phrasesFrom, List.map_nil]
  | case2 index word rest entry found width ih =>
      rw [Gazetteer.phrasesFrom, longest_at_unlabelled, found, Option.map_some, List.map_cons, ← ih]
      rfl
  | case3 index word rest missing ih =>
      rw [Gazetteer.phrasesFrom, longest_at_unlabelled, missing, Option.map_none, ih]

theorem analyze_unlabelled_spans (gazetteer : Gazetteer) (text : String) :
    (gazetteer.unlabelled.analyze text).entities.map Entity.span =
      (gazetteer.analyze text).entities.map Entity.span := by
  unfold Gazetteer.analyze
  dsimp only
  rw [phrases_from_unlabelled, List.map_map, List.map_map, List.map_map]
  rfl

theorem unlabelled_eq (gazetteer : Gazetteer) :
    gazetteer.unlabelled = { entries := gazetteer.phrases.map (⟨·, .other⟩) } := by
  rw [Gazetteer.unlabelled, Gazetteer.phrases, List.map_map]
  rfl

theorem spans_of_phrases {first second : Gazetteer} (same : first.phrases = second.phrases)
    (text : String) : (first.analyze text).entities.map Entity.span =
      (second.analyze text).entities.map Entity.span := by
  rw [← analyze_unlabelled_spans, unlabelled_eq, same, ← unlabelled_eq, analyze_unlabelled_spans]

/-- The phrase is given more than once, and not always with the same label. -/
def GivenTwice (entries : List GazetteerEntry) (phrase : List String) : Prop :=
  ∃ first ∈ entries, ∃ second ∈ entries, first.tokens = phrase ∧ second.tokens = phrase ∧
    first.label ≠ second.label

theorem analyzed_label {entries : List GazetteerEntry} {text : String} {entity : Entity}
    (member : entity ∈ ((Gazetteer.ofEntries entries).analyze text).entities) :
    ∃ entry ∈ entries, entity.label = entry.label ∧
      entry.tokens = ((Gazetteer.ofEntries entries).analyze text).wordsOf entity := by
  obtain ⟨entry, listed, before, covered, after, tokens, phrase, rfl⟩ :=
    analyzed_entity (of_entries_in_order entries).nonempty member
  refine ⟨entry, (of_entries_entry listed).1, rfl, ?_⟩
  rw [words_of_covered tokens, phrase]

/-- A phrase list has no empty phrase and none twice, longer phrases first and phrases of one
length in the order of their tokens; its phrases are those that are given, each with the label
of its first entry. Any rearrangement of the entries recognizes the same spans in every text,
with the same labels unless a phrase is given with different ones. -/
theorem phrase_list_canonical (entries : List GazetteerEntry) :
    (∀ tokens, tokens ∈ (Gazetteer.ofEntries entries).phrases ↔
      tokens ≠ [] ∧ tokens ∈ entries.map GazetteerEntry.tokens) ∧
    (Gazetteer.ofEntries entries).phrases.Nodup ∧
    (Gazetteer.ofEntries entries).phrases.Pairwise PhraseBefore ∧
    (∀ entry, entry ∈ (Gazetteer.ofEntries entries).entries ↔
      entry.tokens ≠ [] ∧ entry.FirstGiven entries) ∧
    ∀ others, entries.Perm others → ∀ text,
      let first := (Gazetteer.ofEntries entries).analyze text
      let second := (Gazetteer.ofEntries others).analyze text
      first.entities.map Entity.span = second.entities.map Entity.span ∧
      ∀ entity ∈ first.entities, ∀ other ∈ second.entities, entity.span = other.span →
        entity.label ≠ other.label → GivenTwice entries (first.wordsOf entity) := by
  refine ⟨fun _ => mem_of_entries_phrases, (of_entries_in_order entries).distinct,
    of_entries_phrases_sorted entries, fun _ => mem_of_entries_iff, ?_⟩
  intro others rearranged text first second
  refine ⟨spans_of_phrases (of_entries_phrases_perm rearranged) text, ?_⟩
  intro entity member other present span differs
  obtain ⟨entry, given, label, words⟩ := analyzed_label member
  obtain ⟨another, known, otherLabel, otherWords⟩ := analyzed_label present
  obtain ⟨_, start, stop⟩ : _ ∧ _ ∧ _ := by simpa [Entity.span] using span
  have sameWords : second.wordsOf other = first.wordsOf entity := by
    unfold Analysis.wordsOf
    rw [start, stop]
    rfl
  refine ⟨entry, given, another, rearranged.mem_iff.mpr known, words,
    otherWords.trans sameWords, ?_⟩
  rwa [← label, ← otherLabel]

def azurePhrases : List GazetteerEntry := [
  ⟨["azure"], .organization⟩, ⟨[], .product⟩, ⟨["azure", "functions"], .product⟩,
  ⟨["azure"], .product⟩]

theorem reversed_phrases_change_one_label :
    let text := "Azure functions (Azure)"
    let first := (Gazetteer.ofEntries azurePhrases).analyze text
    let second := (Gazetteer.ofEntries azurePhrases.reverse).analyze text
    azurePhrases.Perm azurePhrases.reverse ∧
      first.entities.map Entity.span = second.entities.map Entity.span ∧
      ⟨"Azure", .organization, 2, 3⟩ ∈ first.entities ∧
      ⟨"Azure", .product, 2, 3⟩ ∈ second.entities ∧
      GivenTwice azurePhrases (first.wordsOf ⟨"Azure", .organization, 2, 3⟩) := by
  intro text first second
  have rearranged : azurePhrases.Perm azurePhrases.reverse := (List.reverse_perm _).symm
  have given : Gazetteer.ofEntries azurePhrases =
      ⟨[⟨["azure", "functions"], .product⟩, ⟨["azure"], .organization⟩]⟩ := by cbv
  have reversed : Gazetteer.ofEntries azurePhrases.reverse =
      ⟨[⟨["azure", "functions"], .product⟩, ⟨["azure"], .product⟩]⟩ := by cbv
  have member : ⟨"Azure", .organization, 2, 3⟩ ∈ first.entities := by
    rw [show first = _ from congrArg (Gazetteer.analyze · text) given]
    decide +kernel
  have present : ⟨"Azure", .product, 2, 3⟩ ∈ second.entities := by
    rw [show second = _ from congrArg (Gazetteer.analyze · text) reversed]
    decide +kernel
  obtain ⟨spans, relabelled⟩ :=
    (phrase_list_canonical azurePhrases).2.2.2.2 _ rearranged text
  exact ⟨rearranged, spans, member, present, relabelled _ member _ present rfl (by decide)⟩

end TableTalk.Language
