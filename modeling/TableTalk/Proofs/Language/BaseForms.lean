import TableTalk.Language.Analysis
import TableTalk.Proofs.Text.Lowered

/-!
# Base forms are in lower case

A base form is made from the lower case form of a word: an ending is cut off or a listed one put
in its place. Both leave characters that have no other lower case form.
-/

namespace TableTalk.Language

open TableTalk.Text

set_option autoImplicit false

def Lowered (text : List Char) : Prop := ∀ c ∈ text, IsLowered c

instance (text : List Char) : Decidable (Lowered text) :=
  List.decidableBAll IsLowered text

/-- What the rule makes of a word in lower case is in lower case. -/
def KeepsLowered (rule : SingularRule) : Prop :=
  ∀ word form, Lowered word → rule word = some form → Lowered form

theorem lowered_append {first second : List Char} (left : Lowered first)
    (right : Lowered second) : Lowered (first ++ second) :=
  List.forall_mem_append.mpr ⟨left, right⟩

theorem lowered_of_subset {part text : List Char} (lowered : Lowered text)
    (taken : part ⊆ text) : Lowered part :=
  fun c member => lowered c (taken member)

theorem lower_of_lowered {text : String} (lowered : Lowered text.toList) : lower text = text := by
  rw [lower, lowerChars, lower_after_of_lowered [] _ lowered, String.ofList_toList]

theorem lowered_lower (text : String) : Lowered (lower text).toList := by
  intro c member
  rw [lower, String.toList_ofList] at member
  exact lower_after_lowered [] text.toList member

/-! ## Rules -/

theorem before_ending_subset {ending : String} {word front : List Char}
    (ended : beforeEnding ending word = some front) : front ⊆ word := by
  unfold beforeEnding at ended
  split at ended
  · cases ended
    exact List.take_subset _ _
  · cases ended

theorem kept_part_subset (text : List Char) : keptPart text ⊆ text := by
  intro c member
  have kept := List.takeWhile_subset _ (List.mem_reverse.mp member)
  exact List.mem_reverse.mp kept

theorem exchange_keeps {endings : List String} {replacement : String}
    (lowered : Lowered replacement.toList) : KeepsLowered (exchange endings replacement) := by
  intro word form wordLowered made
  obtain ⟨front, found, rfl⟩ := Option.map_eq_some_iff.mp made
  obtain ⟨ending, _, ended⟩ := List.exists_of_findSome?_eq_some found
  have kept := lowered_of_subset wordLowered (before_ending_subset ended)
  exact lowered_append (lowered_of_subset kept (kept_part_subset front)) lowered

theorem only_stem_keeps {stems endings : List String} {replacement : String}
    (stemsLowered : ∀ stem ∈ stems, Lowered stem.toList) (lowered : Lowered replacement.toList) :
    KeepsLowered (onlyStem stems endings replacement) := by
  intro word form _ made
  obtain ⟨stem, listed, found⟩ := List.exists_of_findSome?_eq_some made
  obtain ⟨ending, _, ended⟩ := List.exists_of_findSome?_eq_some found
  obtain ⟨_, _, rfl⟩ := Option.map_eq_some_iff.mp ended
  exact lowered_append (stemsLowered stem listed) lowered

theorem whole_word_keeps {words : List String} {form : String} (lowered : Lowered form.toList) :
    KeepsLowered (wholeWord words form) := by
  intro word made _ whole
  unfold wholeWord at whole
  split at whole
  · cases whole
    exact lowered
  · cases whole

theorem oxen_keeps : KeepsLowered fun word =>
    if "oxen".toList.isPrefixOf word then some "ox".toList else none := by
  intro word form _ made
  dsimp only at made
  split at made
  · cases made
    decide +kernel
  · cases made

theorem consonant_ies_keeps : KeepsLowered consonantIes := by
  intro word form wordLowered made
  obtain ⟨front, ended, made⟩ := Option.bind_eq_some_iff.mp made
  obtain ⟨last, isLast, made⟩ := Option.bind_eq_some_iff.mp made
  have frontLowered := lowered_of_subset wordLowered (before_ending_subset ended)
  have kept : ∀ part, part ⊆ front → Lowered (keptPart part) := fun part taken =>
    lowered_of_subset frontLowered (List.Subset.trans (kept_part_subset part) taken)
  have y : Lowered ['y'] := by decide +kernel
  split at made
  · cases made
    have lastLowered := frontLowered last (List.mem_of_getLast? isLast)
    exact lowered_append (kept _ (List.dropLast_subset front))
      (List.forall_mem_cons.mpr ⟨lastLowered, y⟩)
  · split at made
    · cases made
      exact lowered_append (kept front (List.Subset.refl _)) y
    · cases made

theorem dropped_ves_keeps : KeepsLowered droppedVes := by
  intro word form wordLowered made
  obtain ⟨front, ended, made⟩ := Option.bind_eq_some_iff.mp made
  obtain ⟨last, _, made⟩ := Option.bind_eq_some_iff.mp made
  split at made
  · cases made
  · cases made
    have shortened := List.Subset.trans (List.dropLast_subset front) (before_ending_subset ended)
    have taken := List.Subset.trans (kept_part_subset front.dropLast) shortened
    exact lowered_append (lowered_of_subset wordLowered taken) (by decide +kernel)

theorem singular_rules_keep : ∀ rule ∈ singularRules, KeepsLowered rule := by
  unfold singularRules
  simp only [List.forall_mem_cons]
  and_intros
  -- Each rule is of one of the kinds above.
  all_goals first
    | exact only_stem_keeps (by decide +kernel) (by decide +kernel)
    | exact exchange_keeps (by decide +kernel)
    | exact whole_word_keeps (by decide +kernel)
    | exact oxen_keeps
    | exact consonant_ies_keeps
    | exact dropped_ves_keeps
    | exact nofun

theorem singular_lowered {word : String} (lowered : Lowered word.toList) :
    Lowered (singular word).toList := by
  have irregular : ∀ entry ∈ irregularPlurals, Lowered entry.2.toList := by decide +kernel
  unfold singular
  split
  · exact lowered
  · split
    · rename_i form listed
      obtain ⟨before, after, cut, _⟩ := List.lookup_eq_some_iff.mp listed
      exact irregular (word, form) (by simp [cut])
    · split
      · rename_i form found
        obtain ⟨rule, listed, made⟩ := List.exists_of_findSome?_eq_some found
        rw [String.toList_ofList]
        exact singular_rules_keep rule listed _ _ lowered made
      · exact lowered

theorem lower_base_form (word : String) : lower (baseForm word) = baseForm word := by
  apply lower_of_lowered
  unfold baseForm
  dsimp only
  split
  · exact lowered_lower word
  · exact singular_lowered (lowered_lower word)

theorem lower_token_base {text : String} {token : Token} (member : token ∈ tokenize text) :
    lower token.base = token.base := by
  obtain ⟨entry, _, same⟩ := List.mem_map.mp member
  rw [← same]
  simp only [Token.ofWord, lower_base_form]

end TableTalk.Language
