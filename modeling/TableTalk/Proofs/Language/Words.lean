import Mathlib.Data.List.Basic
import TableTalk.Language.Gazetteer

/-!
# Spans of words

A text that is cut before a word and after a word has, between the cuts, the words that it
had there before: a joiner belongs to a word only if the word goes on, so no word depends on
what follows it. The span of some tokens is what lies between such cuts.
-/

namespace TableTalk.Language

open TableTalk.Text

set_option autoImplicit false

/-! ## Slices -/

theorem utf8_length_cons (c : Char) (text : List Char) :
    utf8Length (c :: text) = c.utf8Size + utf8Length text := rfl

theorem utf8_length_append (first second : List Char) :
    utf8Length (first ++ second) = utf8Length first + utf8Length second := by
  induction first with
  | nil => exact (Nat.zero_add _).symm
  | cons c first ih => rw [List.cons_append, utf8_length_cons, utf8_length_cons, ih, Nat.add_assoc]

theorem byte_slice_start (kept after : List Char) :
    byteSlice 0 (utf8Length kept) (kept ++ after) = kept := by
  induction kept with
  | nil =>
      cases after with
      | nil => rfl
      | cons c after => rfl
  | cons c kept ih =>
      have positive := c.utf8Size_pos
      rw [List.cons_append, utf8_length_cons, byteSlice, if_neg (by omega), if_pos rfl,
        Nat.zero_sub, Nat.add_sub_cancel_left, ih]
      rfl

theorem byte_slice_between (before kept after : List Char) :
    byteSlice (utf8Length before) (utf8Length before + utf8Length kept)
      (before ++ (kept ++ after)) = kept := by
  induction before with
  | nil =>
      rw [List.nil_append, utf8Length, List.foldr_nil, Nat.zero_add]
      exact byte_slice_start kept after
  | cons c before ih =>
      have positive := c.utf8Size_pos
      have stop : c.utf8Size + utf8Length before + utf8Length kept - c.utf8Size =
          utf8Length before + utf8Length kept := by omega
      rw [List.cons_append, utf8_length_cons, byteSlice, if_neg (by omega), if_neg (by omega),
        Nat.add_sub_cancel_left, stop, ih]
      rfl

/-! ## Words -/

theorem word_part_take (text : List Char) :
    wordPart text ++ text.drop (wordPart text).length = text := by
  induction text with
  | nil => rfl
  | cons c rest ih =>
      unfold wordPart
      split
      · rw [List.length_cons, List.drop_succ_cons, List.cons_append, ih]
      · rfl

theorem opens_word_append {kept dropped : List Char} (opens : opensWord kept) :
    opensWord (kept ++ dropped) := by
  cases kept with
  | nil => cases opens
  | cons c kept => exact opens

theorem word_part_of_opens_word {text : List Char} (opens : opensWord text) :
    wordPart text ≠ [] := by
  cases text with
  | nil => cases opens
  | cons c rest =>
      have first : isWordChar c := opens
      rw [wordPart, if_pos (by rw [first]; rfl)]
      exact List.cons_ne_nil _ _

/-- A word that ends before a cut is the same after the cut. -/
theorem word_part_cut {kept dropped : List Char}
    (ends : wordPart (kept ++ dropped) <+: kept) :
    wordPart kept = wordPart (kept ++ dropped) := by
  induction kept with
  | nil => exact (List.prefix_nil.mp ends).symm
  | cons c kept ih =>
      rw [List.cons_append] at ends ⊢
      rw [wordPart] at ends ⊢
      rw [wordPart]
      by_cases goesOn : isWordChar c || (isJoiner c && opensWord (kept ++ dropped))
      · rw [if_pos goesOn] at ends ⊢
        have shorter : wordPart (kept ++ dropped) <+: kept := (List.cons_prefix_cons.mp ends).2
        have still : isWordChar c || (isJoiner c && opensWord kept) := by
          -- A joiner only goes on to a character of the word, which is then kept too.
          cases kept with
          | nil =>
              have noWord : opensWord dropped = false := Bool.eq_false_iff.mpr fun opens =>
                word_part_of_opens_word opens (List.prefix_nil.mp shorter)
              rw [List.nil_append, noWord] at goesOn
              exact goesOn
          | cons d kept => exact goesOn
        rw [if_pos still, ih shorter]
      · have stops : ¬(isWordChar c || (isJoiner c && opensWord kept)) := by
          intro still
          apply goesOn
          rw [Bool.or_eq_true, Bool.and_eq_true] at still ⊢
          exact still.imp_right (And.imp_right opens_word_append)
        rw [if_neg goesOn, if_neg stops]

theorem word_part_then {text kept dropped : List Char}
    (cut : text.drop (wordPart text).length = kept ++ dropped) :
    wordPart (wordPart text ++ kept) = wordPart text := by
  have whole : (wordPart text ++ kept) ++ dropped = text := by
    rw [List.append_assoc, ← cut, word_part_take]
  have ends : wordPart ((wordPart text ++ kept) ++ dropped) <+: wordPart text ++ kept := by
    rw [whole]
    exact List.prefix_append _ _
  rw [word_part_cut ends, whole]

theorem words_from_word {offset : Nat} {c : Char} {rest : List Char} (opens : isWordChar c) :
    wordsFrom offset (c :: rest) =
      (offset, c :: wordPart rest) ::
        wordsFrom (offset + utf8Length (c :: wordPart rest))
          (rest.drop (wordPart rest).length) := by
  rw [wordsFrom, if_pos opens]

theorem words_from_gap {offset : Nat} {c : Char} {rest : List Char} (other : ¬isWordChar c) :
    wordsFrom offset (c :: rest) = wordsFrom (offset + c.utf8Size) rest := by
  rw [wordsFrom, if_neg other]

/-- Where a text starts moves its words and does not change them. -/
theorem words_from_offset (offset other : Nat) (text : List Char) :
    (wordsFrom offset text).map Prod.snd = (wordsFrom other text).map Prod.snd := by
  fun_induction wordsFrom offset text generalizing other with
  | case1 offset => rw [wordsFrom]
  | case2 offset c rest opens word ih =>
      rw [words_from_word opens, List.map_cons, List.map_cons, ih]
  | case3 offset c rest stays ih => rw [words_from_gap stays, ih]

/-- A text may be cut before and after any of its words. -/
theorem words_from_cut_before {offset : Nat} {text : List Char}
    {before after : List (Nat × List Char)} {entry : Nat × List Char}
    (split : wordsFrom offset text = before ++ entry :: after) :
    ∃ skipped kept, text = skipped ++ kept ∧ entry.1 = offset + utf8Length skipped ∧
      wordsFrom entry.1 kept = entry :: after := by
  fun_induction wordsFrom offset text generalizing before
  case case1 => simp at split
  case case2 offset c rest opens word ih =>
      cases before with
      | nil =>
          obtain ⟨rfl, rfl⟩ := List.cons.inj split
          exact ⟨[], c :: rest, rfl, rfl, words_from_word opens⟩
      | cons first before =>
          obtain ⟨rfl, later⟩ := List.cons.inj split
          obtain ⟨skipped, kept, cut, place, words⟩ := ih later
          refine ⟨word ++ skipped, kept, ?_, ?_, words⟩
          · rw [List.append_assoc, ← cut, List.cons_append, word_part_take]
          · rw [place, utf8_length_append, Nat.add_assoc]
  case case3 offset c rest stays ih =>
      obtain ⟨skipped, kept, cut, place, words⟩ := ih split
      refine ⟨c :: skipped, kept, ?_, ?_, words⟩
      · rw [cut, List.cons_append]
      · rw [place, utf8_length_cons, Nat.add_assoc]

theorem words_from_cut_after {offset : Nat} {text : List Char}
    {before after : List (Nat × List Char)} {entry : Nat × List Char}
    (split : wordsFrom offset text = before ++ entry :: after) :
    ∃ kept dropped, text = kept ++ dropped ∧
      entry.1 + utf8Length entry.2 = offset + utf8Length kept ∧
      wordsFrom offset kept = before ++ [entry] := by
  fun_induction wordsFrom offset text generalizing before
  case case1 => simp at split
  case case2 offset c rest opens word ih =>
      cases before with
      | nil =>
          obtain ⟨rfl, -⟩ := List.cons.inj split
          refine ⟨word, rest.drop (wordPart rest).length, ?_, rfl, ?_⟩
          · rw [List.cons_append, word_part_take]
          · have alone : wordPart (wordPart rest ++ []) = wordPart rest :=
              word_part_then (List.nil_append _).symm
            rw [List.append_nil] at alone
            rw [words_from_word opens, alone, List.drop_length, wordsFrom, List.nil_append]
      | cons first before =>
          obtain ⟨rfl, later⟩ := List.cons.inj split
          obtain ⟨kept, dropped, cut, place, words⟩ := ih later
          refine ⟨word ++ kept, dropped, ?_, ?_, ?_⟩
          · rw [List.append_assoc, ← cut, List.cons_append, word_part_take]
          · rw [place, utf8_length_append, Nat.add_assoc]
          · rw [List.cons_append, words_from_word opens, word_part_then cut,
              List.drop_left, words, List.cons_append]
  case case3 offset c rest stays ih =>
      obtain ⟨kept, dropped, cut, place, words⟩ := ih split
      refine ⟨c :: kept, dropped, ?_, ?_, ?_⟩
      · rw [cut, List.cons_append]
      · rw [place, utf8_length_cons, Nat.add_assoc]
      · rw [words_from_gap stays, words]

theorem words_from_subset {offset : Nat} {text : List Char} {entry : Nat × List Char}
    (member : entry ∈ wordsFrom offset text) : entry.2 ⊆ text := by
  fun_induction wordsFrom offset text
  case case1 => cases member
  case case2 offset c rest opens word ih =>
    rcases List.mem_cons.mp member with rfl | later
    · apply List.cons_subset_cons
      intro d inside
      rw [← word_part_take rest]
      exact List.mem_append_left _ inside
    · have after : entry.2 ⊆ rest := List.Subset.trans (ih later) (List.drop_subset _ _)
      exact List.subset_cons_of_subset c after
  case case3 offset c rest stays ih => exact List.subset_cons_of_subset c (ih member)

/-! ## Spans -/

theorem token_text_subset {text : String} {token : Token} (member : token ∈ tokenize text) :
    token.text.toList ⊆ text.toList := by
  obtain ⟨entry, found, rfl⟩ := List.mem_map.mp member
  rw [Token.ofWord, String.toList_ofList]
  exact words_from_subset found

theorem token_texts (entries : List (Nat × List Char)) :
    (entries.map fun entry => Token.ofWord entry.1 entry.2).map Token.text =
      (entries.map Prod.snd).map String.ofList := by
  rw [List.map_map, List.map_map]
  rfl

/-- The span of neighbouring tokens is a part of the text, and they are its tokens. -/
theorem span_of_tokens {text : String} {before tokens after : List Token}
    (split : tokenize text = before ++ (tokens ++ after)) (nonempty : tokens ≠ []) :
    (spanText text.toList tokens).toList ⊆ text.toList ∧
      (tokenize (spanText text.toList tokens)).map Token.text = tokens.map Token.text := by
  obtain ⟨skippedWords, others, words, rfl, cut⟩ := List.map_eq_append_iff.mp split
  obtain ⟨kept, left, rfl, rfl, rfl⟩ := List.map_eq_append_iff.mp cut
  have present : kept ≠ [] := by
    rintro rfl
    exact nonempty rfl
  obtain ⟨first, others, starts⟩ := List.exists_cons_of_ne_nil present
  obtain ⟨earlier, last, ends⟩ := List.eq_nil_or_concat kept |>.resolve_left present
  -- One cut goes before the first word of the span, the other after the last one.
  have opening : wordsFrom 0 text.toList = skippedWords ++ first :: (others ++ left) := by
    rw [words, starts, List.cons_append]
  obtain ⟨skipped, continued, cutBefore, place, following⟩ := words_from_cut_before opening
  have closing : wordsFrom first.1 continued = earlier ++ last :: left := by
    rw [following, ← List.cons_append, ← starts, ends, List.concat_eq_append, List.append_assoc]
    rfl
  obtain ⟨span, dropped, cutAfter, stop, spanWords⟩ := words_from_cut_after closing
  rw [Nat.zero_add] at place
  have sliced : spanText text.toList (kept.map fun entry => Token.ofWord entry.1 entry.2) =
      String.ofList span := by
    have head : (kept.map fun entry => Token.ofWord entry.1 entry.2).head? =
        some (Token.ofWord first.1 first.2) := by
      rw [starts]
      rfl
    have tail : (kept.map fun entry => Token.ofWord entry.1 entry.2).getLast? =
        some (Token.ofWord last.1 last.2) := by
      rw [ends, List.concat_eq_append, List.map_append, List.map_singleton,
        List.getLast?_concat]
    rw [spanText, head, tail]
    change String.ofList (byteSlice first.1 (last.1 + utf8Length last.2) text.toList) = _
    rw [stop, place, cutBefore, cutAfter, byte_slice_between]
  constructor
  · rw [sliced, String.toList_ofList, cutBefore, cutAfter]
    exact fun c member => List.mem_append_right _ (List.mem_append_left _ member)
  · have same : (wordsFrom 0 span).map Prod.snd = kept.map Prod.snd := by
      rw [words_from_offset 0 first.1, spanWords, ends, List.concat_eq_append]
    rw [sliced, tokenize, String.toList_ofList, token_texts, token_texts, same]

end TableTalk.Language
