import Mathlib.Data.List.Permutation
import Mathlib.Data.Option.Basic
import TableTalk.Proofs.Language.PhraseList
import TableTalk.Proofs.Language.Segmentation

/-!
# The longest phrases of a text

A text is read from left to right. Where phrases of the list stand, the longest of them is
taken and reading goes on behind it; elsewhere it goes on with the next token. The entities
of a text are the only ones that this describes, and they are found without an access
outside the tokens or between the bytes of a character.
-/

namespace TableTalk.Language

open TableTalk.Text

set_option autoImplicit false

/-! ## Slices between characters -/

/-- The part of a text from one byte offset to another. -/
def IsSlice (text : List Char) (start stop : Nat) (slice : List Char) : Prop :=
  ∃ before after, text = before ++ (slice ++ after) ∧ start = utf8Length before ∧
    stop = start + utf8Length slice

/-- The parts of a text on both sides of a byte offset, if no character stands across it. -/
def cutAt (offset : Nat) (text : List Char) : Option (List Char × List Char) :=
  if offset = 0 then some ([], text)
  else
    match text with
    | [] => none
    | c :: rest =>
        if offset < c.utf8Size then none
        else (cutAt (offset - c.utf8Size) rest).map fun (before, after) => (c :: before, after)

/-- The part of a text between two offsets, if they are in order and no character stands
across either of them. -/
def checkedSlice (start stop : Nat) (text : List Char) : Option (List Char) := do
  guard (start ≤ stop)
  let (_, rest) ← cutAt start text
  let (slice, _) ← cutAt (stop - start) rest
  return slice

theorem cut_at_eq_some_iff {offset : Nat} {text before after : List Char} :
    cutAt offset text = some (before, after) ↔
      text = before ++ after ∧ offset = utf8Length before := by
  fun_induction cutAt offset text generalizing before
  case case1 text =>
    constructor
    · intro cut
      obtain ⟨rfl, rfl⟩ := Prod.mk.inj (Option.some.inj cut)
      exact ⟨rfl, rfl⟩
    · rintro ⟨rfl, empty⟩
      have none : before = [] := by
        by_contra some
        exact absurd empty (Nat.ne_of_lt (utf8_length_pos some))
      rw [none, List.nil_append]
  case case2 offset positive =>
    constructor
    · nofun
    · rintro ⟨empty, size⟩
      rw [(List.append_eq_nil_iff.mp empty.symm).1] at size
      exact absurd size positive
  case case3 offset positive c rest across =>
    constructor
    · nofun
    · rintro ⟨split, size⟩
      cases before with
      | nil => exact absurd size positive
      | cons d before =>
          obtain ⟨rfl, _⟩ := List.cons.inj split
          rw [utf8_length_cons] at size
          omega
  case case4 offset positive c rest reached ih =>
    rw [Option.map_eq_some_iff]
    constructor
    · rintro ⟨⟨others, after⟩, cut, same⟩
      obtain ⟨rfl, rfl⟩ := Prod.mk.inj same
      obtain ⟨rfl, size⟩ := ih.mp cut
      rw [utf8_length_cons, ← size]
      exact ⟨rfl, by omega⟩
    · rintro ⟨split, size⟩
      cases before with
      | nil => exact absurd size positive
      | cons d before =>
          obtain ⟨rfl, continued⟩ := List.cons.inj split
          rw [utf8_length_cons] at size
          exact ⟨(before, after), ih.mpr ⟨continued, by omega⟩, rfl⟩

theorem checked_slice_eq_some_iff {text slice : List Char} {start stop : Nat} :
    checkedSlice start stop text = some slice ↔ IsSlice text start stop slice := by
  constructor
  · intro sliced
    obtain ⟨_, ordered, sliced⟩ := Option.bind_eq_some_iff.mp sliced
    obtain ⟨⟨before, rest⟩, opened, sliced⟩ := Option.bind_eq_some_iff.mp sliced
    obtain ⟨⟨kept, after⟩, closed, same⟩ := Option.bind_eq_some_iff.mp sliced
    obtain ⟨rfl, rfl⟩ := cut_at_eq_some_iff.mp opened
    obtain ⟨rfl, size⟩ := cut_at_eq_some_iff.mp closed
    obtain rfl := Option.some.inj same
    have forward := (Option.guard_eq_some' _).mp ordered
    exact ⟨before, after, rfl, rfl, by omega⟩
  · rintro ⟨before, after, rfl, rfl, rfl⟩
    have cut (front rest : List Char) : cutAt (utf8Length front) (front ++ rest) =
        some (front, rest) := cut_at_eq_some_iff.mpr ⟨rfl, rfl⟩
    simp [checkedSlice, cut]

theorem byte_slice_eq {text slice : List Char} {start stop : Nat}
    (part : IsSlice text start stop slice) : byteSlice start stop text = slice := by
  obtain ⟨before, after, rfl, rfl, rfl⟩ := part
  exact byte_slice_between before slice after

/-! ## Phrases among tokens -/

def loweredWords (tokens : List Token) : List String := tokens.map fun token => lower token.text

/-- The phrase is matched by the tokens from this place on. -/
def GazetteerEntry.StandsAt (tokens : List Token) (place : Nat) (entry : GazetteerEntry) : Prop :=
  entry.tokens <+: (loweredWords tokens).drop place

def Entity.Covers (place : Nat) (entity : Entity) : Prop :=
  entity.firstToken ≤ place ∧ place < entity.endToken

/-- The entity is a phrase of the list and no longer one stands at its place. -/
structure Entity.IsLongest (entries : List GazetteerEntry) (text : List Char)
    (tokens : List Token) (entity : Entity) : Prop where
  nonempty : entity.firstToken < entity.endToken
  within : entity.endToken ≤ tokens.length
  named : ∃ entry ∈ entries, entity.label = entry.label ∧
    ((loweredWords tokens).drop entity.firstToken).take (entity.endToken - entity.firstToken) =
      entry.tokens
  spans : ∃ first last, tokens[entity.firstToken]? = some first ∧
    tokens[entity.endToken - 1]? = some last ∧
    IsSlice text first.start last.stop entity.text.toList
  longest : ∀ entry ∈ entries, entry.StandsAt tokens entity.firstToken →
    entry.tokens.length ≤ entity.endToken - entity.firstToken

/-- The entities are the longest phrases among the tokens from `index` on, each behind the
one before it, with no phrase left out between them. -/
structure LeftmostLongest (entries : List GazetteerEntry) (text : List Char)
    (tokens : List Token) (index : Nat) (entities : List Entity) : Prop where
  phrases : ∀ entity ∈ entities, entity.IsLongest entries text tokens
  starts : ∀ entity ∈ entities, index ≤ entity.firstToken
  apart : entities.Pairwise fun earlier later => earlier.endToken ≤ later.firstToken
  complete : ∀ place, index ≤ place → place < tokens.length →
    (∀ entity ∈ entities, ¬entity.Covers place) → ∀ entry ∈ entries, ¬entry.StandsAt tokens place

theorem stands_at_within {tokens : List Token} {place : Nat} {entry : GazetteerEntry}
    (nonempty : entry.tokens ≠ []) (stands : entry.StandsAt tokens place) :
    0 < entry.tokens.length ∧ place + entry.tokens.length ≤ tokens.length := by
  have positive := List.length_pos_iff.mpr nonempty
  have shorter := stands.length_le
  rw [loweredWords, List.length_drop, List.length_map] at shorter
  exact ⟨positive, by omega⟩

section

variable {gazetteer : Gazetteer} {tokens : List Token} {index : Nat}

theorem longest_at_none
    (missing : gazetteer.longestAt ((loweredWords tokens).drop index) = none) :
    ∀ entry ∈ gazetteer.entries, ¬entry.StandsAt tokens index := by
  intro entry listed stands
  exact List.find?_eq_none.mp missing entry listed (List.isPrefixOf_iff_prefix.mpr stands)

/-- The first phrase that stands at a place is the longest one, since longer phrases are
tried before it. -/
theorem longest_at_longest {entry : GazetteerEntry} (ordered : gazetteer.InOrder)
    (found : gazetteer.longestAt ((loweredWords tokens).drop index) = some entry) :
    entry ∈ gazetteer.entries ∧ entry.StandsAt tokens index ∧
      ∀ other ∈ gazetteer.entries, other.StandsAt tokens index →
        other.tokens.length ≤ entry.tokens.length := by
  obtain ⟨stands, tried, untried, split, failed⟩ := List.find?_eq_some_iff_append.mp found
  have sorted := ordered.sorted
  rw [split] at sorted ⊢
  refine ⟨by simp, List.isPrefixOf_iff_prefix.mp stands, ?_⟩
  intro other listed standing
  rcases List.mem_append.mp listed with before | after
  · have fails := failed other before
    rw [List.isPrefixOf_iff_prefix.mpr standing] at fails
    cases fails
  · rcases List.mem_cons.mp after with rfl | behind
    · exact Nat.le_refl _
    · have later := (List.pairwise_cons.mp (List.pairwise_append.mp sorted).2.1).1 other behind
      rcases later with shorter | ⟨same, _⟩
      · exact Nat.le_of_lt shorter
      · exact Nat.le_of_eq same.symm

end

/-! ## Spans of tokens -/

section

variable {text : List Char} {tokens : List Token} {first last : Token} {index stop : Nat}

theorem first_before_last (segmented : Segmentation 0 text tokens) (ordered : index ≤ stop)
    (opening : tokens[index]? = some first) (closing : tokens[stop]? = some last) :
    first.start < last.stop := by
  have long := segmented.nonempty last (List.mem_of_getElem? closing)
  rcases Nat.eq_or_lt_of_le ordered with rfl | earlier
  · rwa [Option.some.inj (opening.symm.trans closing)]
  · obtain ⟨inside, rfl⟩ := List.getElem?_eq_some_iff.mp opening
    obtain ⟨bound, rfl⟩ := List.getElem?_eq_some_iff.mp closing
    have separated := List.pairwise_iff_getElem.mp segmented.separated index stop inside bound
      earlier
    have short := segmented.nonempty tokens[index] (List.getElem_mem inside)
    omega

theorem slice_of_tokens (segmented : Segmentation 0 text tokens) (ordered : index ≤ stop)
    (opening : tokens[index]? = some first) (closing : tokens[stop]? = some last) :
    ∃ slice, IsSlice text first.start last.stop slice := by
  have forward := first_before_last segmented ordered opening closing
  obtain ⟨before, rest, opens⟩ := segmented.placed first (List.mem_of_getElem? opening)
  obtain ⟨front, after, closes⟩ := segmented.placed last (List.mem_of_getElem? closing)
  have start := opens.start
  have start' := closes.start
  have stop := closes.stop
  rw [Nat.zero_add] at start start'
  have split : before ++ (first.text.toList ++ rest) = (front ++ last.text.toList) ++ after := by
    rw [← opens.split, closes.split, List.append_assoc]
  obtain ⟨slice, reached, remaining⟩ := split_behind split (by rw [utf8_length_append]; omega)
  refine ⟨slice, before, after, ?_, start, ?_⟩
  · rw [opens.split, remaining]
  · have sizes := congrArg utf8Length reached
    rw [utf8_length_append, utf8_length_append] at sizes
    omega

theorem span_is_slice (segmented : Segmentation 0 text tokens) {width : Nat}
    (positive : 0 < width) (within : index + width ≤ tokens.length) :
    ∃ first last, tokens[index]? = some first ∧ tokens[index + width - 1]? = some last ∧
      IsSlice text first.start last.stop
        (spanText text ((tokens.drop index).take width)).toList := by
  have opening : tokens[index]? = some tokens[index] := List.getElem?_eq_getElem (by omega)
  have closing : tokens[index + width - 1]? = some tokens[index + width - 1] :=
    List.getElem?_eq_getElem (by omega)
  refine ⟨_, _, opening, closing, ?_⟩
  obtain ⟨slice, part⟩ := slice_of_tokens segmented (by omega) opening closing
  have head : ((tokens.drop index).take width).head? = tokens[index]? := by
    rw [List.head?_take, if_neg (Nat.ne_of_gt positive), List.head?_drop]
  have tail : ((tokens.drop index).take width).getLast? = tokens[index + width - 1]? := by
    rw [List.getLast?_take, if_neg (Nat.ne_of_gt positive), List.getElem?_drop,
      ← Nat.add_sub_assoc positive, closing, Option.some_or]
  rw [spanText, head, tail, opening, closing]
  change IsSlice text _ _ (String.ofList (byteSlice _ _ text)).toList
  rwa [byte_slice_eq part, String.toList_ofList]

end

/-! ## The entity at a place -/

section

variable {gazetteer : Gazetteer} {text : List Char} {tokens : List Token} {index : Nat}

theorem found_is_longest {entry : GazetteerEntry} (ordered : gazetteer.InOrder)
    (segmented : Segmentation 0 text tokens)
    (found : gazetteer.longestAt ((loweredWords tokens).drop index) = some entry) :
    (entry.entity text tokens index).IsLongest gazetteer.entries text tokens := by
  obtain ⟨listed, stands, longest⟩ := longest_at_longest ordered found
  obtain ⟨positive, within⟩ := stands_at_within (ordered.nonempty entry listed) stands
  have width : index + entry.tokens.length - index = entry.tokens.length :=
    Nat.add_sub_cancel_left _ _
  refine ⟨Nat.lt_add_of_pos_right positive, within, ⟨entry, listed, rfl, ?_⟩,
    span_is_slice segmented positive within, ?_⟩
  · change ((loweredWords tokens).drop index).take (index + entry.tokens.length - index) = _
    rw [width]
    exact (List.prefix_iff_eq_take.mp stands).symm
  · intro other known standing
    change other.tokens.length ≤ index + entry.tokens.length - index
    rw [width]
    exact longest other known standing

theorem is_longest_stands {entries : List GazetteerEntry} {entity : Entity}
    (whole : entity.IsLongest entries text tokens) :
    ∃ entry ∈ entries, entry.StandsAt tokens entity.firstToken ∧ entity.label = entry.label ∧
      entity.endToken = entity.firstToken + entry.tokens.length := by
  obtain ⟨entry, listed, label, words⟩ := whole.named
  have nonempty := whole.nonempty
  have within := whole.within
  refine ⟨entry, listed, ?_, label, ?_⟩
  · rw [GazetteerEntry.StandsAt, ← words]
    exact List.take_prefix _ _
  · rw [← words, List.length_take, List.length_drop, loweredWords, List.length_map]
    omega

theorem is_longest_unique {first second : Entity} (ordered : gazetteer.InOrder)
    (one : first.IsLongest gazetteer.entries text tokens)
    (other : second.IsLongest gazetteer.entries text tokens)
    (place : first.firstToken = second.firstToken) : first = second := by
  obtain ⟨entry, listed, stands, label, stop⟩ := is_longest_stands one
  obtain ⟨entry', listed', stands', label', stop'⟩ := is_longest_stands other
  have shorter := other.longest entry listed (by rwa [← place])
  have longer := one.longest entry' listed' (by rwa [place])
  have width : entry.tokens.length = entry'.tokens.length := by omega
  have same : entry = entry' := by
    rw [← place] at stands'
    exact List.inj_on_of_nodup_map ordered.distinct listed listed' <|
      (List.prefix_of_prefix_length_le stands stands' (Nat.le_of_eq width)).eq_of_length width
  have ends : first.endToken = second.endToken := by rw [stop, stop', place, width]
  obtain ⟨_, _, opening, closing, part⟩ := one.spans
  obtain ⟨_, _, opening', closing', part'⟩ := other.spans
  rw [place] at opening
  rw [ends] at closing
  obtain rfl := Option.some.inj (opening.symm.trans opening')
  obtain rfl := Option.some.inj (closing.symm.trans closing')
  have text : first.text = second.text :=
    String.toList_injective ((byte_slice_eq part).symm.trans (byte_slice_eq part'))
  have label : first.label = second.label := by rw [label, label', same]
  cases first
  cases second
  simp only [Entity.mk.injEq]
  exact ⟨text, label, place, ends⟩

end

/-! ## One step of reading -/

section

variable {entries : List GazetteerEntry} {text : List Char} {tokens : List Token} {index : Nat}
  {entity : Entity} {entities : List Entity}

theorem leftmost_longest_at_end (closed : tokens.length ≤ index) :
    LeftmostLongest entries text tokens index entities ↔ entities = [] := by
  constructor
  · intro recognized
    apply List.eq_nil_iff_forall_not_mem.mpr
    intro entity member
    have whole := recognized.phrases entity member
    have start := recognized.starts entity member
    have nonempty := whole.nonempty
    have within := whole.within
    omega
  · rintro rfl
    refine ⟨nofun, nofun, List.Pairwise.nil, ?_⟩
    intro place beyond inside
    omega

theorem leftmost_longest_skip (missing : ∀ entry ∈ entries, ¬entry.StandsAt tokens index) :
    LeftmostLongest entries text tokens index entities ↔
      LeftmostLongest entries text tokens (index + 1) entities := by
  constructor
  · intro recognized
    refine ⟨recognized.phrases, ?_, recognized.apart, ?_⟩
    · intro entity member
      apply Nat.lt_of_le_of_ne (recognized.starts entity member)
      intro same
      obtain ⟨entry, listed, stands, _⟩ := is_longest_stands (recognized.phrases entity member)
      rw [← same] at stands
      exact missing entry listed stands
    · intro place beyond
      exact recognized.complete place (Nat.le_of_succ_le beyond)
  · intro recognized
    refine ⟨recognized.phrases, ?_, recognized.apart, ?_⟩
    · exact fun entity member => Nat.le_of_succ_le (recognized.starts entity member)
    · intro place beyond inside uncovered
      rcases Nat.eq_or_lt_of_le beyond with rfl | later
      · exact missing
      · exact recognized.complete place later inside uncovered

theorem leftmost_longest_cons (whole : entity.IsLongest entries text tokens)
    (place : entity.firstToken = index) :
    LeftmostLongest entries text tokens index (entity :: entities) ↔
      LeftmostLongest entries text tokens entity.endToken entities := by
  have nonempty := whole.nonempty
  constructor
  · intro recognized
    obtain ⟨behind, apart⟩ := List.pairwise_cons.mp recognized.apart
    refine ⟨(List.forall_mem_cons.mp recognized.phrases).2, behind, apart, ?_⟩
    intro place beyond inside uncovered
    apply recognized.complete place (by omega) inside
    refine List.forall_mem_cons.mpr ⟨?_, uncovered⟩
    rintro ⟨_, ahead⟩
    omega
  · intro recognized
    refine ⟨List.forall_mem_cons.mpr ⟨whole, recognized.phrases⟩,
      List.forall_mem_cons.mpr ⟨Nat.le_of_eq place.symm, ?_⟩,
      List.pairwise_cons.mpr ⟨recognized.starts, recognized.apart⟩, ?_⟩
    · intro other member
      have start := recognized.starts other member
      omega
    · intro place' beyond inside uncovered
      obtain ⟨outside, others⟩ := List.forall_mem_cons.mp uncovered
      by_cases passed : entity.endToken ≤ place'
      · exact recognized.complete place' passed inside others
      · exact absurd ⟨by omega, by omega⟩ outside

theorem leftmost_longest_head {entry : GazetteerEntry} (listed : entry ∈ entries)
    (stands : entry.StandsAt tokens index) (inside : index < tokens.length)
    (recognized : LeftmostLongest entries text tokens index entities) :
    ∃ first others, entities = first :: others ∧ first.firstToken = index := by
  have covered : ∃ entity ∈ entities, entity.Covers index := by
    by_contra none
    exact recognized.complete index (Nat.le_refl _) inside
      (fun entity member covers => none ⟨entity, member, covers⟩) entry listed stands
  obtain ⟨entity, member, covers⟩ := covered
  cases entities with
  | nil => cases member
  | cons first others =>
      refine ⟨first, others, rfl, ?_⟩
      have start := recognized.starts first List.mem_cons_self
      have nonempty := (recognized.phrases first List.mem_cons_self).nonempty
      have reached := covers.1
      rcases List.mem_cons.mp member with rfl | later
      · exact Nat.le_antisymm reached start
      · have behind := (List.pairwise_cons.mp recognized.apart).1 entity later
        omega

end

/-! ## A whole text -/

def Gazetteer.entitiesFrom (gazetteer : Gazetteer) (text : List Char) (tokens : List Token)
    (index : Nat) : List Entity :=
  (gazetteer.phrasesFrom index ((loweredWords tokens).drop index)).map
    fun (place, entry) => entry.entity text tokens place

@[simp]
theorem lowered_words_length (tokens : List Token) :
    (loweredWords tokens).length = tokens.length := List.length_map _

section

variable {gazetteer : Gazetteer} {text : List Char} {tokens : List Token} {index : Nat}

theorem entities_from_end (closed : tokens.length ≤ index) :
    gazetteer.entitiesFrom text tokens index = [] := by
  rw [Gazetteer.entitiesFrom, List.drop_eq_nil_of_le (by rwa [lowered_words_length]),
    Gazetteer.phrasesFrom, List.map_nil]

theorem entities_from_skip (inside : index < tokens.length)
    (missing : gazetteer.longestAt ((loweredWords tokens).drop index) = none) :
    gazetteer.entitiesFrom text tokens index =
      gazetteer.entitiesFrom text tokens (index + 1) := by
  unfold Gazetteer.entitiesFrom
  rw [List.drop_eq_getElem_cons (by rwa [lowered_words_length])] at missing ⊢
  rw [Gazetteer.phrasesFrom, missing]

theorem entities_from_hit {entry : GazetteerEntry} (inside : index < tokens.length)
    (nonempty : 0 < entry.tokens.length)
    (found : gazetteer.longestAt ((loweredWords tokens).drop index) = some entry) :
    gazetteer.entitiesFrom text tokens index =
      entry.entity text tokens index ::
        gazetteer.entitiesFrom text tokens (index + entry.tokens.length) := by
  have behind : index + 1 + (entry.tokens.length - 1) = index + entry.tokens.length := by omega
  unfold Gazetteer.entitiesFrom
  rw [List.drop_eq_getElem_cons (by rwa [lowered_words_length])] at found ⊢
  rw [Gazetteer.phrasesFrom, found]
  simp only [List.drop_drop, behind, List.map_cons]

/-- The entities that are found are the longest phrases, and no others are. -/
theorem leftmost_longest_iff (ordered : gazetteer.InOrder)
    (segmented : Segmentation 0 text tokens) {steps : Nat}
    (suffice : tokens.length ≤ index + steps) {entities : List Entity} :
    LeftmostLongest gazetteer.entries text tokens index entities ↔
      entities = gazetteer.entitiesFrom text tokens index := by
  induction steps generalizing index entities with
  | zero =>
      have closed : tokens.length ≤ index := suffice
      rw [entities_from_end closed, leftmost_longest_at_end closed]
  | succ steps ih =>
      by_cases inside : index < tokens.length
      · cases found : gazetteer.longestAt ((loweredWords tokens).drop index) with
        | none =>
            rw [entities_from_skip inside found, leftmost_longest_skip (longest_at_none found)]
            exact ih (by omega)
        | some entry =>
            obtain ⟨listed, stands, _⟩ := longest_at_longest ordered found
            have positive := (stands_at_within (ordered.nonempty entry listed) stands).1
            have whole := found_is_longest ordered segmented found
            have others : ∀ {others : List Entity}, LeftmostLongest gazetteer.entries text tokens
                (entry.entity text tokens index).endToken others ↔
                  others = gazetteer.entitiesFrom text tokens (index + entry.tokens.length) :=
              ih (show tokens.length ≤ index + entry.tokens.length + steps by omega)
            rw [entities_from_hit inside positive found]
            constructor
            · intro recognized
              obtain ⟨first, rest, rfl, place⟩ :=
                leftmost_longest_head listed stands inside recognized
              have longest := recognized.phrases first List.mem_cons_self
              obtain rfl := is_longest_unique ordered longest whole place
              rw [others.mp ((leftmost_longest_cons whole rfl).mp recognized)]
            · rintro rfl
              exact (leftmost_longest_cons whole rfl).mpr (others.mpr rfl)
      · rw [entities_from_end (by omega), leftmost_longest_at_end (by omega)]

end

/-! ## Reading with checks -/

def Gazetteer.hitAt (gazetteer : Gazetteer) (words : List String) (index : Nat) :
    Option GazetteerEntry :=
  gazetteer.entries.find? fun entry =>
    index + entry.tokens.length ≤ words.length &&
      (words.drop index).take entry.tokens.length == entry.tokens

/-- The entity that a phrase names, if its tokens and the slice of the text between them
exist. -/
def GazetteerEntry.checkedEntity (text : List Char) (tokens : List Token) (index : Nat)
    (entry : GazetteerEntry) : Option Entity := do
  let stop := index + entry.tokens.length
  guard (0 < stop)
  let first ← tokens[index]?
  let last ← tokens[stop - 1]?
  let slice ← checkedSlice first.start last.stop text
  return {
    text := String.ofList slice, label := entry.label, firstToken := index, endToken := stop }

/-- The entities by the places of their tokens. There is no result if a token or a slice of
the text is asked for that does not exist, or if the steps do not suffice to read all of the
tokens. -/
def Gazetteer.scan (gazetteer : Gazetteer) (text : List Char) (tokens : List Token) :
    Nat → Nat → Option (List Entity)
  | 0, index => if index < tokens.length then none else some []
  | steps + 1, index =>
      if index < tokens.length then
        match gazetteer.hitAt (loweredWords tokens) index with
        | some entry => do
            let entity ← entry.checkedEntity text tokens index
            let others ← gazetteer.scan text tokens steps entity.endToken
            return entity :: others
        | none => gazetteer.scan text tokens steps (index + 1)
      else some []

theorem hit_at_eq (gazetteer : Gazetteer) {words : List String} {index : Nat}
    (inside : index < words.length) :
    gazetteer.hitAt words index = gazetteer.longestAt (words.drop index) := by
  apply congrArg (List.find? · gazetteer.entries)
  funext entry
  rw [Bool.eq_iff_iff, List.isPrefixOf_iff_prefix, List.prefix_iff_eq_take, Bool.and_eq_true,
    decide_eq_true_iff, beq_iff_eq]
  constructor
  · exact fun within => within.2.symm
  · intro same
    refine ⟨?_, same.symm⟩
    have lengths := congrArg List.length same
    rw [List.length_take, List.length_drop] at lengths
    omega

section

variable {gazetteer : Gazetteer} {text : List Char} {tokens : List Token} {steps index : Nat}

theorem scan_end (closed : tokens.length ≤ index) :
    gazetteer.scan text tokens steps index = some [] := by
  cases steps with
  | zero => rw [Gazetteer.scan, if_neg (Nat.not_lt_of_le closed)]
  | succ steps => rw [Gazetteer.scan, if_neg (Nat.not_lt_of_le closed)]

theorem scan_skip (inside : index < tokens.length)
    (missing : gazetteer.longestAt ((loweredWords tokens).drop index) = none) :
    gazetteer.scan text tokens (steps + 1) index =
      gazetteer.scan text tokens steps (index + 1) := by
  rw [Gazetteer.scan, if_pos inside, hit_at_eq gazetteer (by rwa [lowered_words_length]), missing]

theorem checked_entity_eq {entry : GazetteerEntry} (ordered : gazetteer.InOrder)
    (segmented : Segmentation 0 text tokens)
    (found : gazetteer.longestAt ((loweredWords tokens).drop index) = some entry) :
    entry.checkedEntity text tokens index = some (entry.entity text tokens index) := by
  have whole := found_is_longest ordered segmented found
  have positive : 0 < index + entry.tokens.length := Nat.zero_lt_of_lt whole.nonempty
  obtain ⟨first, last, opening, closing, part⟩ := whole.spans
  have opening : tokens[index]? = some first := opening
  have closing : tokens[index + entry.tokens.length - 1]? = some last := closing
  have sliced := checked_slice_eq_some_iff.mpr part
  simp [GazetteerEntry.checkedEntity, positive, opening, closing, sliced, GazetteerEntry.entity]

theorem scan_hit {entry : GazetteerEntry} (ordered : gazetteer.InOrder)
    (segmented : Segmentation 0 text tokens) (inside : index < tokens.length)
    (found : gazetteer.longestAt ((loweredWords tokens).drop index) = some entry) :
    gazetteer.scan text tokens (steps + 1) index =
      (gazetteer.scan text tokens steps (index + entry.tokens.length)).map
        (entry.entity text tokens index :: ·) := by
  rw [Gazetteer.scan, if_pos inside, hit_at_eq gazetteer (by rwa [lowered_words_length]), found]
  dsimp only
  rw [checked_entity_eq ordered segmented found, Option.bind_eq_bind, Option.bind_some,
    Option.map_eq_bind]
  rfl

theorem scan_eq (ordered : gazetteer.InOrder) (segmented : Segmentation 0 text tokens)
    (suffice : tokens.length ≤ index + steps) :
    gazetteer.scan text tokens steps index = some (gazetteer.entitiesFrom text tokens index) := by
  induction steps generalizing index with
  | zero =>
      have closed : tokens.length ≤ index := suffice
      rw [scan_end closed, entities_from_end closed]
  | succ steps ih =>
      by_cases inside : index < tokens.length
      · cases found : gazetteer.longestAt ((loweredWords tokens).drop index) with
        | none =>
            rw [scan_skip inside found, entities_from_skip inside found]
            exact ih (by omega)
        | some entry =>
            obtain ⟨listed, stands, _⟩ := longest_at_longest ordered found
            have positive := (stands_at_within (ordered.nonempty entry listed) stands).1
            rw [scan_hit ordered segmented inside found, entities_from_hit inside positive found,
              ih (by omega), Option.map_some]
      · rw [scan_end (by omega), entities_from_end (by omega)]

end

/-- Analysis reads every text to its end with nothing missing on the way, and its entities
are the leftmost longest phrases of the text. The phrases are those of the given entries, each
with the label of the first entry that has it. -/
theorem entities_are_leftmost_longest (entries : List GazetteerEntry) (text : String) :
    let gazetteer := Gazetteer.ofEntries entries
    let tokens := tokenize text
    gazetteer.scan text.toList tokens tokens.length 0 =
        some (gazetteer.analyze text).entities ∧
      (∀ entities, LeftmostLongest gazetteer.entries text.toList tokens 0 entities ↔
        entities = (gazetteer.analyze text).entities) ∧
      ∀ entry, entry ∈ gazetteer.entries ↔ entry.tokens ≠ [] ∧ entry.FirstGiven entries := by
  intro gazetteer tokens
  have ordered : gazetteer.InOrder := of_entries_in_order entries
  have segmented : Segmentation 0 text.toList tokens := tokens_from_segmentation 0 text.toList
  have suffice : tokens.length ≤ 0 + tokens.length := Nat.le_add_left _ _
  exact ⟨scan_eq ordered segmented suffice,
    fun entities => leftmost_longest_iff ordered segmented suffice,
    fun entry => mem_of_entries_iff⟩

/-- A phrase, a longer one that starts with it, the same one with another label, and a phrase
without tokens. -/
def cosmosPhrases : List GazetteerEntry := [
  ⟨["cosmos"], .product⟩, ⟨["cosmos", "db"], .product⟩, ⟨["cosmos"], .organization⟩,
  ⟨[], .product⟩]

theorem longest_phrase_recognized :
    let gazetteer := Gazetteer.ofEntries cosmosPhrases
    let text := "the Cosmos  DB of cosmos"
    let entities := [⟨"Cosmos  DB", .product, 1, 3⟩, ⟨"cosmos", .product, 4, 5⟩]
    (gazetteer.analyze text).entities = entities ∧
      gazetteer.scan text.toList (tokenize text) 5 0 = some entities ∧
      LeftmostLongest gazetteer.entries text.toList (tokenize text) 0 entities ∧
      ⟨["cosmos"], .product⟩ ∈ gazetteer.entries ∧
      ⟨["cosmos"], .organization⟩ ∉ gazetteer.entries := by
  intro gazetteer text entities
  have kept : Gazetteer.ofEntries cosmosPhrases =
      ⟨[⟨["cosmos", "db"], .product⟩, ⟨["cosmos"], .product⟩]⟩ := by cbv
  have recognized : (gazetteer.analyze text).entities = entities := by
    rw [show gazetteer = _ from kept]
    decide +kernel
  have size : (tokenize text).length = 5 := by decide +kernel
  obtain ⟨scanned, longest, listed⟩ := entities_are_leftmost_longest cosmosPhrases text
  rw [size, recognized] at scanned
  refine ⟨recognized, scanned, (longest entities).mpr recognized.symm, ?_, ?_⟩
  · exact (listed _).mpr ⟨by decide, [], _, rfl, by decide⟩
  · rw [show gazetteer = _ from kept]
    decide

end TableTalk.Language
