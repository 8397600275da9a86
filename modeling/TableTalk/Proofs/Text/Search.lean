import Mathlib.Data.List.Infix
import TableTalk.Text.Search

/-!
# Occurrences in texts

A text mentions a needle exactly if the characters of the needle stand in it, one
after the other.
-/

namespace TableTalk.Text

set_option autoImplicit false

/-- The characters of `needle` stand in `text` without a gap. -/
def Occurs (needle text : String) : Prop := needle.toList <:+: text.toList

instance (needle text : String) : Decidable (Occurs needle text) := by
  unfold Occurs
  infer_instance

theorem occurs_in_iff (needle text : List Char) : occursIn needle text ↔ needle <:+: text := by
  induction text with
  | nil => simp [occursIn]
  | cons c text ih =>
      rw [occursIn, Bool.or_eq_true, ih, List.isPrefixOf_iff_prefix, List.infix_cons_iff]

theorem mentions_iff (text needle : String) : mentions text needle ↔ Occurs needle text :=
  occurs_in_iff needle.toList text.toList

theorem occurs_of_append {needle after text : String} (occurs : Occurs (needle ++ after) text) :
    Occurs needle text := by
  unfold Occurs at *
  rw [String.toList_append] at occurs
  exact (List.prefix_append _ _).isInfix.trans occurs

end TableTalk.Text
