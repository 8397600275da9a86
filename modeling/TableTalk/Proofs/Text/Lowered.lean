import Mathlib.Data.List.Basic
import TableTalk.Text.Case

/-!
# Lower case is final

No character of a lowered text has another lower case form, and none is a capital sigma,
the one character that is lowered by its context. So every part of a lowered text is its
own lower case form.
-/

namespace TableTalk.Text

set_option autoImplicit false

def IsLowered (c : Char) : Prop := lowerChar c = [c]

instance (c : Char) : Decidable (IsLowered c) := by
  unfold IsLowered
  infer_instance

/-! ## The images of the runs -/

/-- The code points that a run moves. -/
def CaseRun.points (run : CaseRun) : List Nat :=
  (List.range ((run.last - run.first) / run.step + 1)).map fun index =>
    run.first + run.step * index

/-- No image of `run` is covered by `other`. Only runs near by are looked at closely. -/
def CaseRun.avoids (run other : CaseRun) : Bool :=
  (Nat.blt (run.apply run.last) other.first || Nat.blt other.last (run.apply run.first)) ||
    run.points.all fun point => !other.covers (run.apply point)

theorem covered_point {run : CaseRun} {point : Nat} (covered : run.covers point) :
    (run.first ≤ point ∧ point ≤ run.last) ∧ point ∈ run.points := by
  simp only [CaseRun.covers, Bool.and_eq_true, decide_eq_true_eq, beq_iff_eq] at covered
  obtain ⟨⟨above, below⟩, aligned⟩ := covered
  have offset : run.step * ((point - run.first) / run.step) = point - run.first := by
    have division := Nat.div_add_mod (point - run.first) run.step
    omega
  have bounded : (point - run.first) / run.step ≤ (run.last - run.first) / run.step :=
    Nat.div_le_div_right (Nat.sub_le_sub_right below run.first)
  refine ⟨⟨above, below⟩, List.mem_map.mpr ⟨(point - run.first) / run.step, ?_, ?_⟩⟩
  · exact List.mem_range.mpr (Nat.lt_succ_of_le bounded)
  · omega

theorem image_not_covered {run other : CaseRun} {point : Nat} (avoids : run.avoids other)
    (covered : run.covers point) : ¬other.covers (run.apply point) := by
  obtain ⟨⟨lower, upper⟩, listed⟩ := covered_point covered
  -- Shifting keeps the order, so the images lie between those of the ends.
  have least : run.apply run.first ≤ run.apply point := by
    unfold CaseRun.apply
    omega
  have greatest : run.apply point ≤ run.apply run.last := by
    unfold CaseRun.apply
    omega
  simp only [CaseRun.avoids, Bool.or_eq_true, Nat.blt_eq, List.all_eq_true,
    Bool.not_eq_true'] at avoids
  rcases avoids with (below | above) | apart
  · simp only [CaseRun.covers, Bool.and_eq_true, decide_eq_true_eq]
    omega
  · simp only [CaseRun.covers, Bool.and_eq_true, decide_eq_true_eq]
    omega
  · exact Bool.not_eq_true _ ▸ apart point listed

/-- The code points with a lower case form of their own; that of the first one has two
characters. -/
def upperPoints : List CaseRun := ⟨0x130, 0x130, 1, 0⟩ :: lowerRuns

theorem lower_runs_avoid :
    (lowerRuns.all fun run => upperPoints.all fun other => run.avoids other) = true := by
  decide +kernel

theorem lowered_of_uncovered {point : Nat}
    (uncovered : ∀ other ∈ upperPoints, ¬other.covers point) : IsLowered (Char.ofNat point) := by
  by_cases valid : point.isValidChar
  · have value : (Char.ofNat point).toNat = point := by
      rw [Char.ofNat, dif_pos valid]
      rfl
    obtain ⟨dotted, unmoved⟩ := List.forall_mem_cons.mp uncovered
    have other : Char.ofNat point ≠ 'İ' := by
      intro same
      rw [same] at value
      subst value
      exact dotted (by decide)
    have unshifted : shiftedBy lowerRuns (Char.ofNat point).toNat = none := by
      rw [value, shiftedBy, List.find?_eq_none.mpr unmoved, Option.map_none]
    rw [IsLowered, lowerChar, if_neg other, unshifted]
  -- For a number that is no code point stands the null character.
  · have null : Char.ofNat point = Char.ofNat 0 := by
      rw [Char.ofNat, dif_neg valid]
      rfl
    rw [null]
    decide +kernel

theorem image_lowered {run : CaseRun} (listed : run ∈ lowerRuns) {point : Nat}
    (covered : run.covers point) : IsLowered (Char.ofNat (run.apply point)) := by
  apply lowered_of_uncovered
  intro other member
  have avoid := List.all_eq_true.mp (List.all_eq_true.mp lower_runs_avoid run listed) other member
  exact image_not_covered avoid covered

/-! ## Characters and texts -/

theorem lower_char_lowered {c d : Char} (member : d ∈ lowerChar c) : IsLowered d := by
  unfold lowerChar at member
  split at member
  · simp only [List.mem_cons, List.not_mem_nil, or_false] at member
    rcases member with rfl | rfl
    · decide +kernel
    · decide +kernel
  · rename_i other
    cases shifted : shiftedBy lowerRuns c.toNat with
    | none =>
        rw [shifted] at member
        have same := List.mem_singleton.mp member
        rw [same, IsLowered, lowerChar, if_neg other, shifted]
    | some point =>
        rw [shifted] at member
        obtain ⟨run, found, image⟩ := Option.map_eq_some_iff.mp shifted
        have covered := List.find?_some found
        rw [List.mem_singleton.mp member, ← image]
        exact image_lowered (List.mem_of_find?_eq_some found) covered

theorem lower_after_lowered (before text : List Char) {d : Char}
    (member : d ∈ lowerAfter before text) : IsLowered d := by
  induction text generalizing before with
  | nil => cases member
  | cons c rest ih =>
      rw [lowerAfter] at member
      rcases List.mem_append.mp member with first | later
      · split at first
        · rw [List.mem_singleton.mp first]
          split
          · decide +kernel
          · decide +kernel
        · exact lower_char_lowered first
      · exact ih (c :: before) later

theorem lower_after_of_lowered (before text : List Char) (lowered : ∀ c ∈ text, IsLowered c) :
    lowerAfter before text = text := by
  induction text generalizing before with
  | nil => rfl
  | cons c rest ih =>
      obtain ⟨first, others⟩ := List.forall_mem_cons.mp lowered
      have noSigma : c ≠ 'Σ' := by
        rintro rfl
        exact absurd first (by decide +kernel)
      rw [lowerAfter, if_neg noSigma, first, ih (c :: before) others]
      rfl

/-- What consists of characters of a lowered text is its own lower case form. -/
theorem lower_part_of_lowered {part text : String}
    (taken : part.toList ⊆ (lower text).toList) : lower part = part := by
  have lowered : ∀ c ∈ part.toList, IsLowered c := by
    intro c member
    have listed := taken member
    rw [lower, String.toList_ofList] at listed
    exact lower_after_lowered [] text.toList listed
  rw [lower, lowerChars, lower_after_of_lowered [] _ lowered, String.ofList_toList]

end TableTalk.Text
