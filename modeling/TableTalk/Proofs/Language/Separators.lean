import TableTalk.Proofs.Language.Segmentation

/-!
# Words between separators

A character that is neither part of a word nor a joiner parts the text around it: the words
of the whole are those before it and those behind it. A word by itself is its own only word.
So the words of a phrase are the same alone and in a text where it stands between separators.
-/

namespace TableTalk.Language

open TableTalk.Text

set_option autoImplicit false

/-- No letter, number or joiner. -/
def IsSeparator (c : Char) : Prop := ¬isWordChar c ∧ ¬isJoiner c

instance (c : Char) : Decidable (IsSeparator c) := inferInstanceAs (Decidable (_ ∧ _))

def Token.shifted (distance : Nat) (token : Token) : Token :=
  { token with start := token.start + distance, stop := token.stop + distance }

theorem shifted_texts (distance : Nat) (tokens : List Token) :
    (tokens.map (Token.shifted distance)).map Token.text = tokens.map Token.text := by
  rw [List.map_map]
  rfl

theorem utf8_length_eq (text : String) : utf8Length text.toList = text.utf8ByteSize := by
  have bytes : ∀ characters : List Char,
      utf8Length characters = (String.ofList characters).utf8ByteSize := by
    intro characters
    induction characters with
    | nil => rfl
    | cons c characters ih =>
        rw [utf8_length_cons, ih, String.ofList_cons, String.utf8ByteSize_append,
          String.utf8ByteSize_singleton]
  rw [bytes, String.ofList_toList]

/-! ## Texts put together -/

theorem tokens_from_shifted (offset distance : Nat) (text : List Char) :
    tokensFrom (offset + distance) text =
      (tokensFrom offset text).map (Token.shifted distance) := by
  unfold tokensFrom
  fun_induction wordsFrom offset text
  case case1 offset => simp [wordsFrom]
  case case2 offset c rest opens word ih =>
    have start : offset + utf8Length word + distance = offset + distance + utf8Length word := by
      omega
    rw [start] at ih
    rw [words_from_word opens, List.map_cons, List.map_cons, List.map_cons, ih]
    apply congrArg (List.cons · _)
    have stop := Nat.add_right_comm offset distance (utf8Length word)
    simp only [Token.ofWord, Token.shifted, stop, word]
  case case3 offset c rest stays ih =>
    have start : offset + c.utf8Size + distance = offset + distance + c.utf8Size := by omega
    rw [start] at ih
    rw [words_from_gap stays, ih]

theorem tokens_from_append {front rest : List Char} (parted : Parted front rest) (offset : Nat) :
    tokensFrom offset (front ++ rest) =
      tokensFrom offset front ++ tokensFrom (offset + utf8Length front) rest := by
  have ahead := tokens_from_segmentation offset front
  have behind := tokens_from_segmentation (offset + utf8Length front) rest
  exact (segmentation_unique (Segmentation.append parted ahead behind)).symm

section

variable {separator : Char} (separates : IsSeparator separator)

include separates

theorem parted_at_separator (front rest : List Char) : Parted front (separator :: rest) := by
  have closed : ¬opensWord (separator :: rest) := separates.1
  constructor
  · intro _ _ _
    refine ⟨closed, ?_⟩
    intro joiner others same joins
    obtain ⟨rfl, _⟩ := List.cons.inj same
    exact absurd joins separates.2
  · intro _ _ _ _ _ _
    exact closed

theorem tokens_from_separator (offset : Nat) (first last : List Char) :
    tokensFrom offset (first ++ separator :: last) =
      tokensFrom offset first ++
        tokensFrom (offset + utf8Length first + separator.utf8Size) last := by
  have gap : tokensFrom (offset + utf8Length first) (separator :: last) =
      tokensFrom (offset + utf8Length first + separator.utf8Size) last := by
    unfold tokensFrom
    rw [words_from_gap separates.1]
  rw [tokens_from_append (parted_at_separator separates first last), gap]

theorem tokenize_separated (first last : String) :
    tokenize (first ++ String.singleton separator ++ last) =
      tokenize first ++
        (tokenize last).map (Token.shifted (first.utf8ByteSize + separator.utf8Size)) := by
  have split : (first ++ String.singleton separator ++ last).toList =
      first.toList ++ separator :: last.toList := by simp
  have moved := tokens_from_shifted 0 (first.utf8ByteSize + separator.utf8Size) last.toList
  have parts := tokens_from_separator separates 0 first.toList last.toList
  rw [Nat.zero_add, utf8_length_eq] at parts
  rw [Nat.zero_add] at moved
  rw [moved, ← split] at parts
  exact parts

end

/-! ## Words by themselves -/

theorem token_alone {text : String} {token : Token} (member : token ∈ tokenize text) :
    tokenize token.text = [{ token with start := 0, stop := token.text.utf8ByteSize }] := by
  have segmented := tokens_from_segmentation 0 text.toList
  have whole : IsWord token.text.toList := segmented.words token member
  obtain ⟨base, likeNumber⟩ := segmented.described token member
  have alone : [Token.ofWord 0 token.text.toList] = tokenize token.text :=
    segmentation_unique (single_word 0 whole)
  rw [← alone]
  apply congrArg (List.cons · [])
  simp only [Token.ofWord, String.ofList_toList, Nat.zero_add, utf8_length_eq, base, likeNumber]

/-- Words next to a separator are those of the texts on its two sides, a word by itself is
its only word, and so a phrase between separators has the words by which it is listed. -/
theorem words_parted_by_separators :
    (∀ (first last : String) (separator : Char), IsSeparator separator →
      tokenize (first ++ String.singleton separator ++ last) =
        tokenize first ++
          (tokenize last).map (Token.shifted (first.utf8ByteSize + separator.utf8Size))) ∧
    (∀ text : String, ∀ token ∈ tokenize text,
      tokenize token.text = [{ token with start := 0, stop := token.text.utf8ByteSize }]) ∧
    ∀ (before phrase after : String) (opening closing : Char) (label : EntityLabel),
      IsSeparator opening → IsSeparator closing →
      let opened := before ++ String.singleton opening
      let closed := opened ++ lower phrase ++ String.singleton closing
      let inside := (tokenize (lower phrase)).map (Token.shifted opened.utf8ByteSize)
      tokenize (closed ++ after) =
          tokenize before ++ inside ++ (tokenize after).map (Token.shifted closed.utf8ByteSize) ∧
        inside.map Token.text = (GazetteerEntry.ofPhrase phrase label).tokens := by
  refine ⟨fun first last separator separates => tokenize_separated separates first last,
    fun text token member => token_alone member, ?_⟩
  intro before phrase after opening closing label opens closes opened closed inside
  constructor
  · have outer := tokenize_separated closes (opened ++ lower phrase) after
    have inner := tokenize_separated opens before (lower phrase)
    rw [inner] at outer
    simpa only [opened, closed, inside, String.utf8ByteSize_append,
      String.utf8ByteSize_singleton] using outer
  · exact shifted_texts _ _

/-- Joiners around the brackets do not bind the words to the phrase in them. -/
theorem phrase_in_brackets_found :
    IsSeparator '（' ∧ IsSeparator '）' ∧
      ⟨"x-ray", "x-ray", false, 7, 12⟩ ∈ tokenize "new-（x-ray, ec2）-aws" ∧
      tokenize "x-ray" = [⟨"x-ray", "x-ray", false, 0, 5⟩] ∧
      tokenize "new-（x-ray, ec2）-aws" =
        tokenize "new-（x-ray, ec2" ++ (tokenize "-aws").map (Token.shifted 20) ∧
      tokenize "new-（x-ray, ec2）-aws" = tokenize "new-" ++
        (tokenize "x-ray, ec2").map (Token.shifted 7) ++ (tokenize "-aws").map (Token.shifted 20) ∧
      (GazetteerEntry.ofPhrase "X-Ray, EC2" .product).tokens = ["x-ray", "ec2"] := by
  obtain ⟨parted, alone, between⟩ := words_parted_by_separators
  have opens : IsSeparator '（' := by decide +kernel
  have closes : IsSeparator '）' := by decide +kernel
  have member : ⟨"x-ray", "x-ray", false, 7, 12⟩ ∈ tokenize "new-（x-ray, ec2）-aws" := by
    decide +kernel
  obtain ⟨tokens, words⟩ := between "new-" "X-Ray, EC2" "-aws" '（' '）' .product opens closes
  have lowered : lower "X-Ray, EC2" = "x-ray, ec2" := by decide +kernel
  rw [lowered] at tokens words
  refine ⟨opens, closes, member, alone _ _ member, parted "new-（x-ray, ec2" "-aws" '）' closes,
    tokens, ?_⟩
  rw [← words]
  decide +kernel

end TableTalk.Language
