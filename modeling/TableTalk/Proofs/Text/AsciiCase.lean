import Mathlib.Data.List.Basic
import TableTalk.Text.Case

/-!
# Equality up to the case of ASCII letters

Texts that differ only in the case of the letters `a` to `z` have one lower case form: a
letter and its other case are lowered alike, and both are cased, so that they decide alike
whether a sigma next to them ends a word.
-/

namespace TableTalk.Text

set_option autoImplicit false

/-- All that lowering asks of a character is the same for both cases. -/
def LowersAlike (c d : Char) : Prop :=
  (c = 'Σ' ↔ d = 'Σ') ∧ lowerChar c = lowerChar d ∧ isCased c = isCased d ∧
    isCaseIgnorable c = isCaseIgnorable d

instance (c d : Char) : Decidable (LowersAlike c d) :=
  inferInstanceAs (Decidable (_ ∧ _ ∧ _ ∧ _))

theorem ascii_letters_lower_alike :
    ∀ index ∈ List.range 26,
      LowersAlike (Char.ofNat (65 + index)) (Char.ofNat (65 + index)).toLower := by
  decide +kernel

theorem to_lower_unmoved {c : Char} (small : ¬(65 ≤ c.toNat ∧ c.toNat ≤ 90)) : c.toLower = c := by
  unfold Char.toLower
  exact dif_neg small

theorem to_lower_moved {c : Char} (capital : 65 ≤ c.toNat ∧ c.toNat ≤ 90) :
    c.toLower.toNat = c.toNat + 32 := by
  have moved : c.toLower.val = c.val + 32 := by
    unfold Char.toLower
    exact congrArg Char.val (dif_pos capital)
  have offset : (32 : UInt32).toNat = 32 := rfl
  unfold Char.toNat at *
  rw [moved, UInt32.toNat_add, offset]
  exact Nat.mod_eq_of_lt (by omega)

/-- What lies before the small letters is the lower case form of itself only. -/
theorem eq_of_to_lower_eq {c d : Char} (before : d.toNat < 97) (lowered : c.toLower = d) :
    c = d := by
  by_cases capital : 65 ≤ c.toNat ∧ c.toNat ≤ 90
  · have moved := to_lower_moved capital
    rw [lowered] at moved
    omega
  · rw [← lowered, to_lower_unmoved capital]

theorem to_lower_lowers_alike (c : Char) : LowersAlike c c.toLower := by
  by_cases letter : 65 ≤ c.toNat ∧ c.toNat ≤ 90
  · have listed : c.toNat - 65 ∈ List.range 26 := by
      apply List.mem_range.mpr
      omega
    have alike := ascii_letters_lower_alike (c.toNat - 65) listed
    have point : 65 + (c.toNat - 65) = c.toNat := by omega
    rwa [point, Char.ofNat_toNat] at alike
  · rw [to_lower_unmoved letter]
    exact ⟨Iff.rfl, rfl, rfl, rfl⟩

theorem reaches_cased_to_lower (text : List Char) :
    reachesCased (text.map Char.toLower) = reachesCased text := by
  unfold reachesCased
  induction text with
  | nil => rfl
  | cons c text ih =>
      obtain ⟨_, _, cased, ignorable⟩ := to_lower_lowers_alike c
      rw [List.map_cons, List.dropWhile_cons, List.dropWhile_cons, ← ignorable]
      by_cases skipped : isCaseIgnorable c
      · simp only [skipped, if_true]
        exact ih
      · simp only [skipped, if_false, Bool.false_eq_true]
        exact cased.symm

theorem lower_after_to_lower (before text : List Char) :
    lowerAfter (before.map Char.toLower) (text.map Char.toLower) = lowerAfter before text := by
  induction text generalizing before with
  | nil => rfl
  | cons c text ih =>
      obtain ⟨sigma, lowered, _, _⟩ := to_lower_lowers_alike c
      have rest := ih (c :: before)
      rw [List.map_cons] at rest
      rw [List.map_cons, lowerAfter, lowerAfter, rest]
      by_cases capital : c = 'Σ'
      · rw [if_pos capital, if_pos (sigma.mp capital)]
        rw [endsWord, endsWord, reaches_cased_to_lower, reaches_cased_to_lower]
      · rw [if_neg capital, if_neg (mt sigma.mpr capital), lowered]

theorem lower_eq_of_equal_ascii_case {a b : String} (same : equalAsciiCase a b) :
    lower a = lower b := by
  have folded : a.toList.map Char.toLower = b.toList.map Char.toLower := beq_iff_eq.mp same
  unfold lower lowerChars
  rw [← lower_after_to_lower [] a.toList, folded, lower_after_to_lower]

theorem equal_ascii_case_refl (text : String) : equalAsciiCase text text :=
  beq_self_eq_true _

theorem equal_ascii_case_symm {a b : String} (same : equalAsciiCase a b) :
    equalAsciiCase b a := by
  unfold equalAsciiCase at *
  rw [beq_iff_eq] at *
  exact same.symm

theorem equal_ascii_case_trans {a b c : String} (first : equalAsciiCase a b)
    (second : equalAsciiCase b c) : equalAsciiCase a c := by
  unfold equalAsciiCase at *
  rw [beq_iff_eq] at *
  exact first.trans second

end TableTalk.Text
