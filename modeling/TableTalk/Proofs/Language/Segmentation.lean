import TableTalk.Proofs.Language.Words

/-!
# The words of a text

What the words of a text are, said of their places in it: runs of letters and numbers with
single joiners in them, apart from each other, that leave out no letter or number and
cannot be extended on either side. Every text has exactly one list of such words. Lists of
words of two texts can be put together where no word goes on from the first into the second.
-/

namespace TableTalk.Language

open TableTalk.Text

set_option autoImplicit false

/-! ## Words by themselves -/

/-- Runs of letters and numbers with single joiners between them. -/
inductive IsWord : List Char → Prop where
  | run {run : List Char} (nonempty : run ≠ []) (inside : ∀ c ∈ run, isWordChar c) : IsWord run
  | joined {run rest : List Char} {joiner : Char} (nonempty : run ≠ [])
      (inside : ∀ c ∈ run, isWordChar c) (joins : isJoiner joiner) (word : IsWord rest) :
      IsWord (run ++ joiner :: rest)

theorem joiner_not_word_char {c : Char} (joins : isJoiner c) : isWordChar c = false := by
  simp only [isJoiner, Bool.or_eq_true, decide_eq_true_eq] at joins
  rcases joins with ((rfl | rfl) | rfl) | rfl
  · decide +kernel
  · decide +kernel
  · decide +kernel
  · decide +kernel

theorem is_word_cons {c : Char} {word : List Char} (inside : isWordChar c)
    (continued : IsWord word) : IsWord (c :: word) := by
  cases continued with
  | run nonempty others =>
      exact .run (List.cons_ne_nil _ _) (List.forall_mem_cons.mpr ⟨inside, others⟩)
  | joined nonempty others joins rest =>
      rw [← List.cons_append]
      exact .joined (List.cons_ne_nil _ _) (List.forall_mem_cons.mpr ⟨inside, others⟩) joins rest

theorem is_word_opens {word : List Char} (whole : IsWord word) : opensWord word := by
  have first : ∀ {run : List Char}, run ≠ [] → (∀ c ∈ run, isWordChar c) → opensWord run := by
    intro run nonempty inside
    cases run with
    | nil => exact absurd rfl nonempty
    | cons c run => exact inside c List.mem_cons_self
  cases whole with
  | run nonempty inside => exact first nonempty inside
  | joined nonempty inside => exact opens_word_append (first nonempty inside)

theorem is_word_last {word : List Char} (whole : IsWord word) :
    ∃ before last, word = before ++ [last] ∧ isWordChar last := by
  induction whole with
  | @run run nonempty inside =>
      obtain ⟨before, last, rfl⟩ := List.eq_nil_or_concat run |>.resolve_left nonempty
      exact ⟨before, last, List.concat_eq_append, inside last (by simp)⟩
  | @joined run rest joiner nonempty inside joins word ih =>
      obtain ⟨before, last, rfl, wordChar⟩ := ih
      exact ⟨run ++ joiner :: before, last, by simp, wordChar⟩

/-! ## Words in a text -/

/-- A word that stands before this text does not go on in it. -/
def EndsWord (after : List Char) : Prop :=
  ¬opensWord after ∧ ∀ joiner rest, after = joiner :: rest → isJoiner joiner → ¬opensWord rest

theorem word_part_eq_nil_iff (after : List Char) : wordPart after = [] ↔ EndsWord after := by
  cases after with
  | nil => simp [wordPart, EndsWord, opensWord]
  | cons c rest =>
      have stops : wordPart (c :: rest) = [] ↔
          ¬(isWordChar c || (isJoiner c && opensWord rest)) := by
        rw [wordPart]
        split
        · rename_i continues
          simp [continues]
        · rename_i broken
          exact iff_of_true rfl broken
      rw [stops, Bool.or_eq_true, Bool.and_eq_true, not_or, not_and]
      constructor
      · rintro ⟨outside, broken⟩
        refine ⟨outside, ?_⟩
        intro joiner others same joins
        cases same
        exact broken joins
      · rintro ⟨outside, broken⟩
        exact ⟨outside, broken c rest rfl⟩

theorem word_part_run {run : List Char} (inside : ∀ c ∈ run, isWordChar c) (rest : List Char) :
    wordPart (run ++ rest) = run ++ wordPart rest := by
  induction run with
  | nil => rfl
  | cons c run ih =>
      obtain ⟨first, others⟩ := List.forall_mem_cons.mp inside
      rw [List.cons_append, wordPart, if_pos (by rw [first]; rfl), ih others, List.cons_append]

theorem word_part_of_word {word : List Char} (whole : IsWord word) : wordPart word = word := by
  induction whole with
  | @run run nonempty inside =>
      have part := word_part_run inside []
      rwa [List.append_nil, wordPart, List.append_nil] at part
  | @joined run rest joiner nonempty inside joins word ih =>
      have continues : isWordChar joiner || (isJoiner joiner && opensWord rest) := by
        rw [joins, is_word_opens word]
        exact Bool.or_true _
      rw [word_part_run inside, wordPart, if_pos continues, ih]

theorem word_of_word_part {text : List Char} (read : wordPart text = text) :
    (∀ c, isWordChar c → IsWord (c :: text)) ∧ (opensWord text → IsWord text) := by
  induction text with
  | nil =>
      refine ⟨fun c inside => .run (List.cons_ne_nil _ _) (by simpa using inside), ?_⟩
      intro opens
      cases opens
  | cons d rest ih =>
      rw [wordPart] at read
      split at read
      · rename_i continues
        obtain ⟨extended, opened⟩ := ih (List.cons.inj read).2
        have whole : isWordChar d → IsWord (d :: rest) := extended d
        refine ⟨?_, whole⟩
        intro c inside
        by_cases wordChar : isWordChar d
        · exact is_word_cons inside (whole wordChar)
        · rw [Bool.not_eq_true] at wordChar
          rw [wordChar, Bool.false_or, Bool.and_eq_true] at continues
          have single : ∀ c' ∈ [c], isWordChar c' := by simpa using inside
          exact .joined (List.cons_ne_nil _ _) single continues.1 (opened continues.2)
      · cases read

theorem word_part_append {word after : List Char} (whole : wordPart word = word)
    (ends : EndsWord after) : wordPart (word ++ after) = word := by
  induction word with
  | nil => exact (word_part_eq_nil_iff after).mpr ends
  | cons c word ih =>
      rw [wordPart] at whole
      split at whole
      · rename_i continues
        have still : isWordChar c || (isJoiner c && opensWord (word ++ after)) := by
          rw [Bool.or_eq_true, Bool.and_eq_true] at continues ⊢
          exact continues.imp_right (And.imp_right opens_word_append)
        rw [List.cons_append, wordPart, if_pos still, ih (List.cons.inj whole).2]
      · cases whole

theorem word_part_ends (text : List Char) : EndsWord (text.drop (wordPart text).length) := by
  induction text with
  | nil => exact (word_part_eq_nil_iff []).mp rfl
  | cons c rest ih =>
      by_cases stops : wordPart (c :: rest) = []
      · rw [stops]
        exact (word_part_eq_nil_iff (c :: rest)).mp stops
      · rw [wordPart] at stops ⊢
        split
        · exact ih
        · rename_i broken
          rw [if_neg broken] at stops
          exact absurd rfl stops

theorem word_of_rest {c : Char} (opens : isWordChar c) (rest : List Char) :
    IsWord (c :: wordPart rest) := by
  have again : wordPart (wordPart rest ++ []) = wordPart rest :=
    word_part_then (List.nil_append _).symm
  rw [List.append_nil] at again
  exact (word_of_word_part again).1 c opens

/-! ## Places -/

/-- The token stands between these two parts of a text that starts at `offset`. -/
structure Token.StandsBetween (offset : Nat) (text before after : List Char) (token : Token) :
    Prop where
  split : text = before ++ (token.text.toList ++ after)
  start : token.start = offset + utf8Length before
  stop : token.stop = token.start + utf8Length token.text.toList

def Token.Covers (position : Nat) (token : Token) : Prop :=
  token.start ≤ position ∧ position < token.stop

/-- The tokens are the words of a text that starts at `offset`, each with what is known of
words by themselves. -/
structure Segmentation (offset : Nat) (text : List Char) (tokens : List Token) : Prop where
  nonempty : ∀ token ∈ tokens, token.start < token.stop
  separated : tokens.Pairwise fun first second => first.stop < second.start
  placed : ∀ token ∈ tokens, ∃ before after, token.StandsBetween offset text before after
  words : ∀ token ∈ tokens, IsWord token.text.toList
  covered : ∀ before c after, text = before ++ c :: after → isWordChar c →
    ∃! token, token ∈ tokens ∧ token.Covers (offset + utf8Length before)
  maximal : ∀ token ∈ tokens, ∀ before after, token.StandsBetween offset text before after →
    (∀ c ∈ before.getLast?, ¬isWordChar c) ∧ EndsWord after
  described : ∀ token ∈ tokens,
    token.base = baseForm token.text ∧ token.likeNumber = isNumeral token.text

theorem utf8_length_pos {text : List Char} (nonempty : text ≠ []) : 0 < utf8Length text := by
  cases text with
  | nil => exact absurd rfl nonempty
  | cons c text =>
      have positive := c.utf8Size_pos
      rw [utf8_length_cons]
      omega

/-- A part that reaches behind the first of two texts starts with all of it. -/
theorem split_behind {front rest before after : List Char} (split : front ++ rest = before ++ after)
    (behind : utf8Length front ≤ utf8Length before) :
    ∃ skipped, before = front ++ skipped ∧ rest = skipped ++ after := by
  rcases List.append_eq_append_iff.mp split with ⟨skipped, reached, left⟩ | ⟨missing, cut, right⟩
  · exact ⟨skipped, reached, left⟩
  · have none : missing = [] := by
      by_contra some
      have positive := utf8_length_pos some
      rw [cut, utf8_length_append] at behind
      omega
    rw [none, List.append_nil] at cut
    rw [none, List.nil_append] at right
    exact ⟨[], by rw [cut, List.append_nil], right.symm⟩

/-- A character that lies ahead of the end of the first of two texts is in it. -/
theorem split_ahead {front rest before after : List Char} {c : Char}
    (split : front ++ rest = before ++ c :: after)
    (ahead : utf8Length before < utf8Length front) :
    ∃ left, front = before ++ c :: left ∧ after = left ++ rest := by
  rcases List.append_eq_append_iff.mp split with ⟨skipped, reached, _⟩ | ⟨missing, cut, right⟩
  · rw [reached, utf8_length_append] at ahead
    omega
  · cases missing with
    | nil =>
        rw [List.append_nil] at cut
        rw [cut] at ahead
        exact absurd ahead (Nat.lt_irrefl _)
    | cons d left =>
        rw [List.cons_append] at right
        obtain ⟨rfl, rfl⟩ := List.cons.inj right
        exact ⟨left, cut, rfl⟩

section

variable {offset : Nat} {front rest before after : List Char} {token : Token}

theorem stands_in_first (stands : token.StandsBetween offset front before after) :
    token.StandsBetween offset (front ++ rest) before (after ++ rest) where
  split := by rw [stands.split, List.append_assoc, List.append_assoc]
  start := stands.start
  stop := stands.stop

theorem stands_in_second
    (stands : token.StandsBetween (offset + utf8Length front) rest before after) :
    token.StandsBetween offset (front ++ rest) (front ++ before) after where
  split := by rw [stands.split, List.append_assoc]
  start := by rw [stands.start, utf8_length_append, Nat.add_assoc]
  stop := stands.stop

theorem stands_behind (stands : token.StandsBetween offset (front ++ rest) before after)
    (behind : offset + utf8Length front ≤ token.start) :
    ∃ skipped, before = front ++ skipped ∧
      token.StandsBetween (offset + utf8Length front) rest skipped after := by
  have start := stands.start
  obtain ⟨skipped, rfl, split⟩ := split_behind stands.split (by omega)
  refine ⟨skipped, rfl, ⟨split, ?_, stands.stop⟩⟩
  rw [start, utf8_length_append, Nat.add_assoc]

theorem stands_ahead (stands : token.StandsBetween offset (front ++ rest) before after)
    (ahead : token.stop ≤ offset + utf8Length front) :
    ∃ left, after = left ++ rest ∧ token.StandsBetween offset front before left := by
  have start := stands.start
  have stop := stands.stop
  have split : (before ++ token.text.toList) ++ after = front ++ rest := by
    rw [stands.split, List.append_assoc]
  obtain ⟨left, rfl, right⟩ := split_behind split (by rw [utf8_length_append]; omega)
  exact ⟨left, right, ⟨List.append_assoc _ _ _, start, stop⟩⟩

theorem stands_within (stands : token.StandsBetween offset front before after) :
    token.stop ≤ offset + utf8Length front := by
  rw [stands.stop, stands.start, stands.split, utf8_length_append, utf8_length_append]
  omega

theorem stands_from (stands : token.StandsBetween offset front before after) :
    offset ≤ token.start := by
  rw [stands.start]
  omega

end

/-! ## Texts put together -/

/-- No word goes on from the first text into the second. -/
structure Parted (front rest : List Char) : Prop where
  ends : ∀ c ∈ front.getLast?, isWordChar c → EndsWord rest
  held : ∀ kept c joiner, front = kept ++ [c, joiner] → isWordChar c → isJoiner joiner →
    ¬opensWord rest

theorem ends_word_append {front rest before word after : List Char} (parted : Parted front rest)
    (split : front = before ++ (word ++ after)) (whole : IsWord word) (ends : EndsWord after) :
    EndsWord (after ++ rest) := by
  obtain ⟨kept, last, rfl, wordChar⟩ := is_word_last whole
  cases after with
  | nil =>
      apply parted.ends last _ wordChar
      rw [split]
      simp
  | cons c after =>
      refine ⟨ends.1, ?_⟩
      intro joiner others same joins
      obtain ⟨rfl, rfl⟩ := List.cons.inj same
      cases after with
      | nil => exact parted.held (before ++ kept) last c (by simp [split]) wordChar joins
      | cons d after => exact ends.2 c (d :: after) rfl joins

theorem ends_word_at_cut {offset : Nat} {front rest before after : List Char} {token : Token}
    (parted : Parted front rest) (stands : token.StandsBetween offset front before after)
    (whole : IsWord token.text.toList) (touches : token.stop = offset + utf8Length front) :
    EndsWord rest := by
  obtain ⟨kept, last, word, wordChar⟩ := is_word_last whole
  have start := stands.start
  have stop := stands.stop
  have split := stands.split
  have closes : after = [] := by
    by_contra left
    have positive := utf8_length_pos left
    rw [split, utf8_length_append, utf8_length_append] at touches
    omega
  apply parted.ends last _ wordChar
  rw [split, closes, word]
  simp

theorem opens_word_at_start {offset : Nat} {text before after : List Char} {token : Token}
    (stands : token.StandsBetween offset text before after) (whole : IsWord token.text.toList)
    (starts : token.start = offset) : before = [] ∧ opensWord text := by
  have start := stands.start
  have opens : before = [] := by
    by_contra skipped
    have positive := utf8_length_pos skipped
    omega
  refine ⟨opens, ?_⟩
  rw [stands.split, opens, List.nil_append]
  exact opens_word_append (is_word_opens whole)

section

variable {offset : Nat} {front rest : List Char} {first others : List Token}

theorem segmentation_within (ahead : Segmentation offset front first) :
    ∀ token ∈ first, token.stop ≤ offset + utf8Length front := by
  intro token member
  obtain ⟨before, after, stands⟩ := ahead.placed token member
  exact stands_within stands

theorem segmentation_from (behind : Segmentation offset rest others) :
    ∀ token ∈ others, offset ≤ token.start := by
  intro token member
  obtain ⟨before, after, stands⟩ := behind.placed token member
  exact stands_from stands

/-- The words of two parted texts are those of the two put together. -/
theorem Segmentation.append (parted : Parted front rest) (ahead : Segmentation offset front first)
    (behind : Segmentation (offset + utf8Length front) rest others) :
    Segmentation offset (front ++ rest) (first ++ others) := by
  have within := segmentation_within ahead
  have beyond := segmentation_from behind
  refine ⟨?_, ?_, ?_, ?_, ?_, ?_, ?_⟩
  · exact List.forall_mem_append.mpr ⟨ahead.nonempty, behind.nonempty⟩
  · refine List.pairwise_append.mpr ⟨ahead.separated, behind.separated, ?_⟩
    intro earlier early later late
    have upTo := within earlier early
    have fromThere := beyond later late
    apply Nat.lt_of_le_of_ne (Nat.le_trans upTo fromThere)
    -- Two words that touch at the cut would be one.
    intro touch
    obtain ⟨_, _, stands⟩ := ahead.placed earlier early
    obtain ⟨_, _, follows⟩ := behind.placed later late
    have ends := ends_word_at_cut parted stands (ahead.words earlier early) (by omega)
    exact ends.1 (opens_word_at_start follows (behind.words later late) (by omega)).2
  · intro token member
    rcases List.mem_append.mp member with early | late
    · obtain ⟨before, after, stands⟩ := ahead.placed token early
      exact ⟨before, after ++ rest, stands_in_first stands⟩
    · obtain ⟨before, after, stands⟩ := behind.placed token late
      exact ⟨front ++ before, after, stands_in_second stands⟩
  · exact List.forall_mem_append.mpr ⟨ahead.words, behind.words⟩
  · intro before c after split wordChar
    -- The character is covered in the text that it lies in, and the tokens of the other one
    -- end before it or start behind it.
    by_cases reached : utf8Length front ≤ utf8Length before
    · obtain ⟨skipped, rfl, inRest⟩ := split_behind split reached
      obtain ⟨token, ⟨member, covers⟩, unique⟩ := behind.covered skipped c after inRest wordChar
      rw [utf8_length_append, ← Nat.add_assoc]
      refine ⟨token, ⟨List.mem_append_right _ member, covers⟩, ?_⟩
      rintro other ⟨present, covering⟩
      rcases List.mem_append.mp present with early | late
      · have stop := within other early
        have passed := covering.2
        omega
      · exact unique other ⟨late, covering⟩
    · obtain ⟨left, inFront, rfl⟩ := split_ahead split (Nat.lt_of_not_le reached)
      obtain ⟨token, ⟨member, covers⟩, unique⟩ := ahead.covered before c left inFront wordChar
      refine ⟨token, ⟨List.mem_append_left _ member, covers⟩, ?_⟩
      rintro other ⟨present, covering⟩
      rcases List.mem_append.mp present with early | late
      · exact unique other ⟨early, covering⟩
      · have start := beyond other late
        have passed := covering.1
        omega
  · intro token member before after stands
    rcases List.mem_append.mp member with early | late
    · obtain ⟨left, rfl, inFront⟩ := stands_ahead stands (within token early)
      obtain ⟨starts, ends⟩ := ahead.maximal token early before left inFront
      exact ⟨starts, ends_word_append parted inFront.split (ahead.words token early) ends⟩
    · obtain ⟨skipped, rfl, inRest⟩ := stands_behind stands (beyond token late)
      obtain ⟨starts, ends⟩ := behind.maximal token late skipped after inRest
      refine ⟨?_, ends⟩
      intro c last
      cases skipped with
      | nil =>
          -- At the cut, what stands before the word is the end of the first text.
          intro wordChar
          rw [List.append_nil] at last
          have touches : token.start = offset + utf8Length front := inRest.start
          exact (parted.ends c last wordChar).1
            (opens_word_at_start inRest (behind.words token late) touches).2
      | cons d skipped =>
          rw [List.getLast?_append_of_ne_nil _ (List.cons_ne_nil _ _)] at last
          exact starts c last
  · exact List.forall_mem_append.mpr ⟨ahead.described, behind.described⟩

/-- What stands behind a part of a text, none of whose words reach beyond the part, has the
other words. -/
theorem Segmentation.behind (whole : Segmentation offset (front ++ rest) (first ++ others))
    (within : ∀ token ∈ first, token.stop ≤ offset + utf8Length front)
    (beyond : ∀ token ∈ others, offset + utf8Length front ≤ token.start) :
    Segmentation (offset + utf8Length front) rest others := by
  have listed : ∀ token ∈ others, token ∈ first ++ others :=
    fun token member => List.mem_append_right _ member
  refine ⟨?_, ?_, ?_, ?_, ?_, ?_, ?_⟩
  · exact fun token member => whole.nonempty token (listed token member)
  · exact (List.pairwise_append.mp whole.separated).2.1
  · intro token member
    obtain ⟨before, after, stands⟩ := whole.placed token (listed token member)
    obtain ⟨skipped, _, inRest⟩ := stands_behind stands (beyond token member)
    exact ⟨skipped, after, inRest⟩
  · exact fun token member => whole.words token (listed token member)
  · intro before c after split wordChar
    have place : offset + utf8Length (front ++ before) =
        offset + utf8Length front + utf8Length before := by
      rw [utf8_length_append, Nat.add_assoc]
    obtain ⟨token, ⟨member, covers⟩, unique⟩ := whole.covered (front ++ before) c after
      (by rw [split, List.append_assoc]) wordChar
    rw [place] at covers unique
    rcases List.mem_append.mp member with early | late
    · have stop := within token early
      have passed := covers.2
      omega
    · exact ⟨token, ⟨late, covers⟩, fun other given => unique other ⟨listed other given.1, given.2⟩⟩
  · intro token member before after stands
    obtain ⟨starts, ends⟩ := whole.maximal token (listed token member) (front ++ before) after
      (stands_in_second stands)
    refine ⟨?_, ends⟩
    intro c last
    apply starts c
    rwa [List.getLast?_append_of_ne_nil _]
    rintro rfl
    cases last
  · exact fun token member => whole.described token (listed token member)

end

/-! ## The words that are found -/

theorem no_words (offset : Nat) {text : List Char} (wordless : ∀ c ∈ text, ¬isWordChar c) :
    Segmentation offset text [] := by
  refine ⟨nofun, List.Pairwise.nil, nofun, nofun, ?_, nofun, nofun⟩
  intro before c after split wordChar
  exact absurd wordChar (wordless c (by rw [split]; simp))

theorem single_word (offset : Nat) {word : List Char} (whole : IsWord word) :
    Segmentation offset word [Token.ofWord offset word] := by
  have text : (Token.ofWord offset word).text.toList = word := String.toList_ofList
  have nonempty : word ≠ [] := by
    rintro rfl
    exact absurd (is_word_opens whole) (by decide)
  have positive := utf8_length_pos nonempty
  have stands : (Token.ofWord offset word).StandsBetween offset word [] [] := by
    refine ⟨?_, rfl, ?_⟩
    · rw [text, List.append_nil, List.nil_append]
    · rw [text]
      rfl
  refine ⟨?_, List.pairwise_singleton _ _, ?_, ?_, ?_, ?_, ?_⟩
  · intro token member
    rw [List.mem_singleton.mp member]
    exact Nat.lt_add_of_pos_right positive
  · intro token member
    rw [List.mem_singleton.mp member]
    exact ⟨[], [], stands⟩
  · intro token member
    rwa [List.mem_singleton.mp member, text]
  · intro before c after split _
    refine ⟨_, ⟨List.mem_singleton_self _, ?_, ?_⟩, fun token given => List.mem_singleton.mp given.1⟩
    · exact Nat.le_add_right _ _
    · have shorter := utf8_length_pos (List.cons_ne_nil c after)
      change offset + utf8Length before < offset + utf8Length word
      rw [split, utf8_length_append]
      omega
  · intro token member before after placed
    rw [List.mem_singleton.mp member] at placed
    obtain ⟨rfl, _⟩ := opens_word_at_start placed (by rwa [text]) rfl
    have closes : after = [] := by
      have split := placed.split
      rw [text, List.nil_append] at split
      exact List.append_right_eq_self.mp split.symm
    -- Nothing is left of the text on either side of the word.
    rw [closes]
    exact ⟨nofun, (word_part_eq_nil_iff []).mp rfl⟩
  · intro token member
    rw [List.mem_singleton.mp member]
    simp only [Token.ofWord, and_self]

theorem parted_after_word {word rest : List Char} (whole : IsWord word) (ends : EndsWord rest) :
    Parted word rest := by
  refine ⟨fun _ _ _ => ends, ?_⟩
  intro kept c joiner split _ joins
  obtain ⟨before, last, word, wordChar⟩ := is_word_last whole
  have same : last = joiner := by
    have tails := congrArg List.getLast? (word.symm.trans split)
    simpa using tails
  rw [same, joiner_not_word_char joins] at wordChar
  cases wordChar

theorem parted_after_gap {c : Char} (gap : ¬isWordChar c) (rest : List Char) :
    Parted [c] rest := by
  constructor
  · intro d last wordChar
    obtain rfl : c = d := by simpa using last
    exact absurd wordChar gap
  · intro kept d joiner split
    have lengths := congrArg List.length split
    simp at lengths

def tokensFrom (offset : Nat) (text : List Char) : List Token :=
  (wordsFrom offset text).map fun entry => Token.ofWord entry.1 entry.2

theorem tokens_from_segmentation (offset : Nat) (text : List Char) :
    Segmentation offset text (tokensFrom offset text) := by
  unfold tokensFrom
  fun_induction wordsFrom offset text
  case case1 offset => exact no_words offset (List.forall_mem_nil _)
  case case2 offset c rest opens word ih =>
    have whole : IsWord word := word_of_rest opens rest
    have parted := parted_after_word whole (word_part_ends rest)
    have joined := Segmentation.append parted (single_word offset whole) ih
    rwa [List.cons_append, word_part_take] at joined
  case case3 offset c rest stays ih =>
    have alone : Segmentation offset [c] [] := no_words offset (by simpa using stays)
    exact Segmentation.append (parted_after_gap stays rest) alone ih

theorem first_word_eq {c : Char} {rest word after : List Char} (opens : isWordChar c)
    (split : c :: rest = word ++ after) (whole : IsWord word) (ends : EndsWord after) :
    word = c :: wordPart rest := by
  have part := word_part_append (word_part_of_word whole) ends
  rw [← split, wordPart, if_pos (by rw [opens]; rfl)] at part
  exact part.symm

theorem first_token_eq {offset : Nat} {c : Char} {rest : List Char} {tokens : List Token}
    (opens : isWordChar c) (segmented : Segmentation offset (c :: rest) tokens) :
    ∃ others, tokens = Token.ofWord offset (c :: wordPart rest) :: others := by
  obtain ⟨token, ⟨member, covers⟩, _⟩ := segmented.covered [] c rest rfl opens
  have starts : token.start = offset :=
    Nat.le_antisymm covers.1 (segmentation_from segmented token member)
  obtain ⟨before, after, stands⟩ := segmented.placed token member
  obtain ⟨rfl, _⟩ := opens_word_at_start stands (segmented.words token member) starts
  have ends := (segmented.maximal token member [] after stands).2
  have split : c :: rest = token.text.toList ++ after := stands.split
  have word := first_word_eq opens split (segmented.words token member) ends
  have same : token = Token.ofWord offset (c :: wordPart rest) := by
    have text : token.text = String.ofList (c :: wordPart rest) := by
      rw [← word, String.ofList_toList]
    have stop := stands.stop
    obtain ⟨base, likeNumber⟩ := segmented.described token member
    rw [starts, word] at stop
    rw [text] at base likeNumber
    cases token
    simp only [Token.ofWord, Token.mk.injEq]
    exact ⟨text, base, likeNumber, starts, stop⟩
  obtain ⟨earlier, others, split⟩ := List.append_of_mem member
  -- An earlier token would have to end before the start of the text.
  have first : earlier = [] := by
    apply List.eq_nil_iff_forall_not_mem.mpr
    intro other early
    have listed : other ∈ tokens := by
      rw [split]
      exact List.mem_append_left _ early
    have separated := segmented.separated
    rw [split] at separated
    have before := (List.pairwise_append.mp separated).2.2 other early token List.mem_cons_self
    have after := segmentation_from segmented other listed
    have long := segmented.nonempty other listed
    omega
  exact ⟨others, by rw [split, first, same, List.nil_append]⟩

/-- The words of a text are the only ones that it has. -/
theorem segmentation_unique {offset : Nat} {text : List Char} {tokens : List Token}
    (segmented : Segmentation offset text tokens) : tokens = tokensFrom offset text := by
  unfold tokensFrom
  fun_induction wordsFrom offset text generalizing tokens
  case case1 offset =>
    apply List.eq_nil_iff_forall_not_mem.mpr
    intro token member
    obtain ⟨before, after, stands⟩ := segmented.placed token member
    have empty := List.append_eq_nil_iff.mp stands.split.symm
    have whole := segmented.words token member
    rw [(List.append_eq_nil_iff.mp empty.2).1] at whole
    exact absurd (is_word_opens whole) (by decide)
  case case2 offset c rest opens word ih =>
    obtain ⟨others, rfl⟩ := first_token_eq opens segmented
    rw [List.map_cons]
    apply congrArg (List.cons _)
    apply ih
    have separated := (List.pairwise_cons.mp segmented.separated).1
    have cut : Segmentation offset (word ++ rest.drop (wordPart rest).length)
        ([Token.ofWord offset word] ++ others) := by
      rw [List.cons_append, word_part_take]
      exact segmented
    apply cut.behind
    · intro token member
      rw [List.mem_singleton.mp member]
      exact Nat.le_refl _
    · intro token member
      exact Nat.le_of_lt (separated token member)
  case case3 offset c rest stays ih =>
    apply ih
    have cut : Segmentation offset ([c] ++ rest) ([] ++ tokens) := segmented
    apply cut.behind (List.forall_mem_nil _)
    intro token member
    obtain ⟨before, after, stands⟩ := segmented.placed token member
    rw [stands.start]
    cases before with
    | nil =>
        have opens := (opens_word_at_start stands (segmented.words token member) stands.start).2
        exact absurd opens stays
    | cons d before =>
        obtain ⟨rfl, _⟩ := List.cons.inj stands.split
        rw [utf8_length_cons, utf8_length_cons]
        exact Nat.add_le_add_left (Nat.add_le_add_left (Nat.zero_le _) _) _

/-- The tokens of a text are its words, and no other list of tokens is. -/
theorem tokens_are_the_words (text : String) (tokens : List Token) :
    Segmentation 0 text.toList tokens ↔ tokens = tokenize text := by
  constructor
  · exact segmentation_unique
  · rintro rfl
    exact tokens_from_segmentation 0 text.toList

end TableTalk.Language
