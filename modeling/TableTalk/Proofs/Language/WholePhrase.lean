import TableTalk.Proofs.Language.LongestMatch
import TableTalk.Proofs.Language.Phrases

/-!
# Texts that are phrases

A lowered text with the words of a phrase of the list, and no character outside of its words at
either end, is recognized as a whole: whatever other phrases begin or stand in it, one entity
covers all of its tokens, and its span is the text.
-/

namespace TableTalk.Language

open TableTalk.Text

set_option autoImplicit false

/-- The text begins and ends with a letter or number. -/
structure WordBounded (text : List Char) : Prop where
  opens : ∃ c ∈ text.head?, isWordChar c
  closes : ∃ c ∈ text.getLast?, isWordChar c

section

variable {offset : Nat} {text : List Char} {tokens : List Token}

/-! ## The words at the ends -/

theorem first_token_starts (segmented : Segmentation offset text tokens)
    (opens : ∃ c ∈ text.head?, isWordChar c) :
    ∃ first others, tokens = first :: others ∧ first.start = offset := by
  obtain ⟨c, first, wordChar⟩ := opens
  obtain ⟨rest, rfl⟩ := List.head?_eq_some_iff.mp first
  obtain ⟨others, rfl⟩ := first_token_eq wordChar segmented
  exact ⟨_, others, rfl, rfl⟩

theorem last_token_eq (segmented : Segmentation offset text tokens) {token : Token}
    (member : token ∈ tokens) (stop : token.stop = offset + utf8Length text) :
    ∃ others, tokens = others ++ [token] := by
  obtain ⟨others, later, rfl⟩ := List.append_of_mem member
  refine ⟨others, ?_⟩
  have none : later = [] := by
    apply List.eq_nil_iff_forall_not_mem.mpr
    intro other behind
    have present : other ∈ others ++ token :: later :=
      List.mem_append_right _ (List.mem_cons_of_mem token behind)
    have following := (List.pairwise_append.mp segmented.separated).2.1
    have apart := (List.pairwise_cons.mp following).1 other behind
    have within := segmentation_within segmented other present
    have long := segmented.nonempty other present
    omega
  rw [none]

theorem last_token_stops (segmented : Segmentation offset text tokens)
    (closes : ∃ c ∈ text.getLast?, isWordChar c) :
    ∃ others last, tokens = others ++ [last] ∧ last.stop = offset + utf8Length text := by
  obtain ⟨c, final, wordChar⟩ := closes
  obtain ⟨kept, split⟩ := List.getLast?_eq_some_iff.mp final
  obtain ⟨token, ⟨member, covers⟩, _⟩ := segmented.covered kept c [] split wordChar
  obtain ⟨before, after, stands⟩ := segmented.placed token member
  have start := stands.start
  have stop := stands.stop
  -- The last character lies in the token, so nothing is left behind the token.
  have ends : after = [] := by
    have whole : (before ++ token.text.toList) ++ after = kept ++ c :: [] := by
      rw [← split, stands.split, List.append_assoc]
    have ahead : utf8Length kept < utf8Length (before ++ token.text.toList) := by
      have inside := covers.2
      rw [utf8_length_append]
      omega
    obtain ⟨left, _, remaining⟩ := split_ahead whole ahead
    exact (List.append_eq_nil_iff.mp remaining.symm).2
  have reached : token.stop = offset + utf8Length text := by
    rw [stop, start, stands.split, ends, List.append_nil, utf8_length_append, Nat.add_assoc]
  obtain ⟨others, listed⟩ := last_token_eq segmented member reached
  exact ⟨others, token, listed, reached⟩

end

theorem whole_span {text : String} (bounded : WordBounded text.toList) :
    spanText text.toList (tokenize text) = text := by
  have segmented : Segmentation 0 text.toList (tokenize text) :=
    tokens_from_segmentation 0 text.toList
  obtain ⟨first, later, opening, start⟩ := first_token_starts segmented bounded.opens
  obtain ⟨earlier, last, closing, stop⟩ := last_token_stops segmented bounded.closes
  have head : (tokenize text).head? = some first := by rw [opening, List.head?_cons]
  have tail : (tokenize text).getLast? = some last := by rw [closing, List.getLast?_concat]
  have slice := byte_slice_start text.toList []
  rw [List.append_nil] at slice
  rw [spanText, head, tail]
  change String.ofList (byteSlice first.start last.stop text.toList) = text
  rw [start, stop, Nat.zero_add, slice, String.ofList_toList]

/-! ## The whole text as an entity -/

section

variable {entries : List GazetteerEntry} {entry : GazetteerEntry} {text : String}

theorem longest_at_whole (listed : entry ∈ entries)
    (words : entry.tokens = loweredWords (tokenize text)) (nonempty : tokenize text ≠ []) :
    ∃ found ∈ (Gazetteer.ofEntries entries).entries,
      (Gazetteer.ofEntries entries).longestAt ((loweredWords (tokenize text)).drop 0) =
        some found ∧ found.tokens.length = (tokenize text).length := by
  have spelled : entry.tokens ≠ [] := by
    rw [words]
    exact mt List.map_eq_nil_iff.mp nonempty
  obtain ⟨kept, present, same⟩ := of_entries_covers listed spelled
  have stands : kept.StandsAt (tokenize text) 0 := by
    rw [GazetteerEntry.StandsAt, same, words]
    exact List.prefix_refl _
  cases found : (Gazetteer.ofEntries entries).longestAt
      ((loweredWords (tokenize text)).drop 0) with
  | none => exact absurd stands (longest_at_none found kept present)
  | some longest =>
      have ordered := of_entries_in_order entries
      obtain ⟨known, standing, longer⟩ := longest_at_longest ordered found
      obtain ⟨_, within⟩ := stands_at_within (ordered.nonempty longest known) standing
      have width := longer kept present stands
      rw [same, words, lowered_words_length] at width
      exact ⟨longest, known, rfl, by omega⟩

/-- A text that is a phrase is a single entity. -/
theorem whole_phrase_recognized (listed : entry ∈ entries)
    (words : entry.tokens = loweredWords (tokenize text)) (bounded : WordBounded text.toList) :
    ∃ found ∈ (Gazetteer.ofEntries entries).entries,
      ((Gazetteer.ofEntries entries).analyze text).entities =
        [⟨text, found.label, 0, (tokenize text).length⟩] := by
  have segmented : Segmentation 0 text.toList (tokenize text) :=
    tokens_from_segmentation 0 text.toList
  obtain ⟨first, others, opening, _⟩ := first_token_starts segmented bounded.opens
  have nonempty : tokenize text ≠ [] := by
    rw [opening]
    exact List.cons_ne_nil _ _
  have positive : 0 < (tokenize text).length := List.length_pos_iff.mpr nonempty
  obtain ⟨found, known, longest, width⟩ := longest_at_whole listed words nonempty
  refine ⟨found, known, ?_⟩
  change (Gazetteer.ofEntries entries).entitiesFrom text.toList (tokenize text) 0 = _
  rw [entities_from_hit positive (by rwa [width]) longest, entities_from_end (by omega),
    GazetteerEntry.entity, width, List.drop_zero, List.take_length, whole_span bounded,
    Nat.zero_add]

end

end TableTalk.Language
