import Mathlib.Data.List.Infix
import TableTalk.Database.Pattern

/-!
# What patterns match

The answers that are computed from the end of a pattern are those of the relation between
patterns and texts: a percent sign is left out together with any front part of the text, and every
other character of the pattern together with one character. So a pattern between two percent signs
matches the texts with a part that it matches. These are the texts that contain it, up to the case
of the letters `a` to `z`, if there is no wildcard in it, and only then.
-/

namespace TableTalk.Database

set_option autoImplicit false

/-- A text is like a pattern, which is read from its start. -/
inductive Like : List Char → List Char → Prop where
  | nil : Like [] []
  | any {pattern text : List Char} (skipped : List Char) :
      Like pattern text → Like ('%' :: pattern) (skipped ++ text)
  | one {pattern text : List Char} (c : Char) :
      Like pattern text → Like ('_' :: pattern) (c :: text)
  | letter {pattern text : List Char} {c d : Char} :
      c ≠ '%' → c ≠ '_' → c.toLower = d.toLower → Like pattern text →
      Like (c :: pattern) (d :: text)

/-- What one character of a pattern stands for, a percent sign apart. -/
def Fits (c d : Char) : Prop := c = '_' ∨ c.toLower = d.toLower

section

variable {pattern text : List Char}

/-! ## The pattern read from its start -/

theorem like_nil_iff : Like [] text ↔ text = [] := by
  constructor
  · intro like
    cases like
    rfl
  · rintro rfl
    exact .nil

theorem like_percent_iff :
    Like ('%' :: pattern) text ↔ ∃ rest, rest <:+ text ∧ Like pattern rest := by
  constructor
  · intro like
    cases like with
    | any skipped like => exact ⟨_, List.suffix_append .., like⟩
    | letter other => exact absurd rfl other
  · rintro ⟨rest, ⟨skipped, rfl⟩, like⟩
    exact .any skipped like

theorem like_cons_iff {c : Char} (other : c ≠ '%') :
    Like (c :: pattern) text ↔ ∃ d rest, text = d :: rest ∧ Fits c d ∧ Like pattern rest := by
  constructor
  · intro like
    cases like with
    | any => exact absurd rfl other
    | one d like => exact ⟨d, _, rfl, .inl rfl, like⟩
    | letter _ _ same like => exact ⟨_, _, rfl, .inr same, like⟩
  · rintro ⟨d, rest, rfl, fits, like⟩
    by_cases wild : c = '_'
    · subst wild
      exact .one d like
    · exact .letter other wild (fits.resolve_left wild) like

/-- Patterns one behind the other match texts one behind the other. -/
theorem like_append_iff {first second : List Char} :
    Like (first ++ second) text ↔
      ∃ front back, text = front ++ back ∧ Like first front ∧ Like second back := by
  induction first generalizing text with
  | nil => simp [like_nil_iff]
  | cons c first ih =>
      rw [List.cons_append]
      by_cases wild : c = '%'
      · subst wild
        simp only [like_percent_iff, ih]
        constructor
        · rintro ⟨_, ⟨skipped, rfl⟩, front, back, rfl, like, likeBack⟩
          exact ⟨skipped ++ front, back, (List.append_assoc ..).symm,
            ⟨front, List.suffix_append .., like⟩, likeBack⟩
        · rintro ⟨_, back, rfl, ⟨front, ⟨skipped, rfl⟩, like⟩, likeBack⟩
          exact ⟨front ++ back, ⟨skipped, (List.append_assoc ..).symm⟩, front, back, rfl, like,
            likeBack⟩
      · simp only [like_cons_iff wild, ih]
        constructor
        · rintro ⟨d, _, rfl, fits, front, back, rfl, like, likeBack⟩
          exact ⟨d :: front, back, rfl, ⟨d, front, rfl, fits, like⟩, likeBack⟩
        · rintro ⟨_, back, rfl, ⟨d, front, rfl, fits, like⟩, likeBack⟩
          exact ⟨d, front ++ back, rfl, fits, front, back, rfl, like, likeBack⟩

/-- Between percent signs, a pattern has to match some part of the text. -/
theorem like_between_percents_iff :
    Like ('%' :: (pattern ++ ['%'])) text ↔ ∃ part, part <:+: text ∧ Like pattern part := by
  have anything : ∀ text, Like ['%'] text := fun text => by
    simpa using Like.any text .nil
  rw [like_percent_iff]
  constructor
  · rintro ⟨_, ⟨skipped, rfl⟩, like⟩
    obtain ⟨part, back, rfl, like, _⟩ := like_append_iff.mp like
    exact ⟨part, ⟨skipped, back, List.append_assoc ..⟩, like⟩
  · rintro ⟨part, ⟨skipped, back, rfl⟩, like⟩
    refine ⟨part ++ back, ⟨skipped, (List.append_assoc ..).symm⟩, ?_⟩
    exact like_append_iff.mpr ⟨part, back, rfl, like, anything back⟩

/-! ## The answers computed from its end -/

theorem matches_at_nonempty (pattern text : List Char) : matchesAt pattern text ≠ [] := by
  induction pattern generalizing text with
  | nil => simp [matchesAt]
  | cons c pattern ih =>
      by_cases wild : c = '%'
      · obtain ⟨answer, later, answers⟩ := List.exists_cons_of_ne_nil (ih text)
        simp [matchesAt, wild, answers, fromHereOn]
      · simp [matchesAt, wild]

theorem matches_at_head (pattern text : List Char) :
    matchesAt pattern text = matchesPattern pattern text :: (matchesAt pattern text).tail := by
  obtain ⟨answer, later, answers⟩ := List.exists_cons_of_ne_nil (matches_at_nonempty pattern text)
  simp [matchesPattern, answers]

/-- The answers behind the first one are those for the text behind its first character. -/
theorem matches_at_cons (pattern : List Char) (d : Char) (text : List Char) :
    matchesAt pattern (d :: text) =
      matchesPattern pattern (d :: text) :: matchesAt pattern text := by
  rw [matches_at_head]
  congr 1
  induction pattern with
  | nil => simp [matchesAt]
  | cons c pattern ih =>
      rw [matchesAt, matchesAt, matches_at_head pattern (d :: text), ih]
      by_cases wild : c = '%'
      · simp [wild, fromHereOn]
      · rw [if_neg wild, if_neg wild, List.tail_cons]
        nth_rewrite 1 [matches_at_head pattern text]
        rfl

theorem matches_at_end (pattern : List Char) :
    matchesAt pattern [] = [matchesPattern pattern []] := by
  have last : (matchesAt pattern []).tail = [] := by
    induction pattern with
    | nil => rfl
    | cons c pattern ih =>
        rw [matchesAt, matches_at_head pattern, ih]
        by_cases wild : c = '%'
        · simp [wild, fromHereOn]
        · simp [wild]
  rw [matches_at_head, last]

theorem matches_nil_iff : matchesPattern [] text ↔ text = [] := by
  cases text with
  | nil => simp [matchesPattern, matchesAt]
  | cons d text => simp [matchesPattern, matchesAt]

theorem matches_percent_nil : matchesPattern ('%' :: pattern) [] = matchesPattern pattern [] := by
  nth_rewrite 1 [matchesPattern]
  rw [matchesAt, matches_at_end]
  simp [fromHereOn]

theorem matches_percent_cons (d : Char) :
    matchesPattern ('%' :: pattern) (d :: text) =
      (matchesPattern pattern (d :: text) || matchesPattern ('%' :: pattern) text) := by
  nth_rewrite 1 [matchesPattern]
  rw [matchesAt, matches_at_cons]
  simp [fromHereOn, matchesPattern, matchesAt]

theorem matches_cons_nil {c : Char} (other : c ≠ '%') :
    matchesPattern (c :: pattern) [] = false := by
  simp [matchesPattern, matchesAt, other]

theorem matches_cons_cons {c : Char} (other : c ≠ '%') (d : Char) :
    matchesPattern (c :: pattern) (d :: text) =
      ((c = '_' || sameLetter c d) && matchesPattern pattern text) := by
  nth_rewrite 1 [matchesPattern]
  rw [matchesAt, if_neg other, matches_at_cons, List.tail_cons, matches_at_head pattern text]
  rfl

theorem matches_percent_iff :
    matchesPattern ('%' :: pattern) text ↔ ∃ rest, rest <:+ text ∧ matchesPattern pattern rest := by
  induction text with
  | nil => simp [matches_percent_nil]
  | cons d text ih =>
      simp only [matches_percent_cons, Bool.or_eq_true, ih, List.suffix_cons_iff, or_and_right,
        exists_or, exists_eq_left]

theorem matches_iff_like : matchesPattern pattern text ↔ Like pattern text := by
  induction pattern generalizing text with
  | nil => rw [matches_nil_iff, like_nil_iff]
  | cons c pattern ih =>
      by_cases wild : c = '%'
      · subst wild
        simp only [matches_percent_iff, like_percent_iff, ih]
      · rw [like_cons_iff wild]
        cases text with
        | nil => simp [matches_cons_nil wild]
        | cons d text => simp [matches_cons_cons wild, sameLetter, Fits, ih]

/-! ## Wildcards -/

/-- A pattern matches what it is written with, wildcards or not. -/
theorem like_of_same_letters (same : pattern.map Char.toLower = text.map Char.toLower) :
    Like pattern text := by
  induction pattern generalizing text with
  | nil =>
      rw [List.map_nil, eq_comm, List.map_eq_nil_iff] at same
      exact same ▸ .nil
  | cons c pattern ih =>
      cases text with
      | nil => cases same
      | cons d text =>
          rw [List.map_cons, List.map_cons, List.cons.injEq] at same
          obtain ⟨letter, rest⟩ := same
          by_cases wild : c = '%'
          · subst wild
            exact .any [d] (ih rest)
          · exact (like_cons_iff wild).mpr ⟨d, text, rfl, .inr letter, ih rest⟩

theorem same_letters_of_like (noPercent : '%' ∉ pattern) (noUnderscore : '_' ∉ pattern)
    (like : Like pattern text) : pattern.map Char.toLower = text.map Char.toLower := by
  induction like with
  | nil => rfl
  | any => exact absurd List.mem_cons_self noPercent
  | one => exact absurd List.mem_cons_self noUnderscore
  | letter _ _ same _ ih =>
      rw [List.map_cons, List.map_cons, same,
        ih (List.not_mem_of_not_mem_cons noPercent) (List.not_mem_of_not_mem_cons noUnderscore)]

/-- A text without wildcards that is like the pattern: nothing for a percent sign, and a letter for
an underscore. -/
def exemplar : List Char → List Char
  | [] => []
  | c :: pattern =>
      if c = '%' then exemplar pattern
      else if c = '_' then 'x' :: exemplar pattern
      else c :: exemplar pattern

theorem like_exemplar (pattern : List Char) : Like pattern (exemplar pattern) := by
  induction pattern with
  | nil => exact .nil
  | cons c pattern ih =>
      unfold exemplar
      split
      · subst c
        exact .any [] ih
      · split
        · subst c
          exact .one 'x' ih
        · exact .letter ‹_› ‹_› rfl ih

theorem exemplar_member {c : Char} (member : c ∈ exemplar pattern) :
    (c ≠ '%' ∧ c ≠ '_') ∧ (c = 'x' ∨ c ∈ pattern) := by
  induction pattern with
  | nil => cases member
  | cons d pattern ih =>
      have later (member : c ∈ exemplar pattern) :
          (c ≠ '%' ∧ c ≠ '_') ∧ (c = 'x' ∨ c ∈ d :: pattern) :=
        ⟨(ih member).1, (ih member).2.imp_right (List.mem_cons_of_mem d)⟩
      unfold exemplar at member
      split at member
      · exact later member
      · split at member
        · rcases List.mem_cons.mp member with rfl | member
          · exact ⟨by decide, .inl rfl⟩
          · exact later member
        · rcases List.mem_cons.mp member with rfl | member
          · exact ⟨⟨‹_›, ‹_›⟩, .inr List.mem_cons_self⟩
          · exact later member

end

end TableTalk.Database
