import TableTalk.Proofs.Database.Stored
import TableTalk.Proofs.Query.NormalForm

/-!
# Selecting rows

A row meets the condition of a statement if it meets the conditions of all filters, and that of
an equality on a TEXT column if the column holds just this text.
-/

namespace TableTalk.Database

open TableTalk.Sql

set_option autoImplicit false

/-- Whether a row meets a condition that a statement need not have. -/
def Scope.admits (scope : Scope) (row : Row) : Option Expr → Except ExecutionError Bool
  | none => .ok true
  | some condition => scope.meets row condition

section

variable {scope : Scope} {row : Row}

/-! ## One condition -/

theorem truth_of_truth (truth : Option Bool) : (ofTruth truth).truth? = truth := by
  cases truth with
  | none => rfl
  | some met =>
      cases met with
      | false => rfl
      | true => rfl

theorem conjunction_true (first second : Option Bool) :
    conjunction first second = some true ↔ first = some true ∧ second = some true := by
  rcases first with _ | _ | _
  · rcases second with _ | _ | _ <;> decide
  · rcases second with _ | _ | _ <;> decide
  · rcases second with _ | _ | _ <;> decide

theorem meets_of_truth {condition : Expr} {truth : Option Bool}
    (value : scope.scalar row condition = .ok (ofTruth truth)) :
    scope.meets row condition = .ok (truth = some true) := by
  unfold Scope.meets
  rw [value]
  change Except.ok _ = _
  rw [truth_of_truth]

theorem meets_and {first second : Expr} {firstMet secondMet : Bool}
    (left : scope.meets row first = .ok firstMet)
    (right : scope.meets row second = .ok secondMet) :
    scope.meets row (.binary .and first second) = .ok (firstMet && secondMet) := by
  obtain ⟨firstCell, firstValue, firstTruth⟩ := except_bind_eq_ok left
  obtain ⟨secondCell, secondValue, secondTruth⟩ := except_bind_eq_ok right
  cases firstTruth
  cases secondTruth
  have value : scope.scalar row (.binary .and first second) =
      .ok (ofTruth (conjunction firstCell.truth? secondCell.truth?)) := by
    rw [Scope.scalar, firstValue, secondValue]
    rfl
  rw [meets_of_truth value]
  simp only [conjunction_true, Bool.decide_and]

theorem meets_equal {name text : String} {index : Nat} (column : scope.table.HasText name)
    (listed : row ∈ scope.table.rows)
    (bound : scope.parameters.getD (index - 1) .null = .text text) :
    scope.meets row (.binary .equal (.column name) (.parameter index)) =
      .ok (scope.table.value name row = .text text) := by
  have value : scope.scalar row (.binary .equal (.column name) (.parameter index)) =
      .ok (ofTruth (operate .equal (some .text) (scope.table.value name row) (.text text))) := by
    rw [Scope.scalar, scalar_column column.found, Scope.scalar, bound, affinity_of_text column]
    rfl
  rw [meets_of_truth value]
  simp only [equal_to_text (column.textual row listed)]

/-! ## All conditions -/

theorem admits_filtered {select : Select} {condition : Expr} {earlierMet met : Bool}
    (earlier : scope.admits row select.condition = .ok earlierMet)
    (last : scope.meets row condition = .ok met) :
    scope.admits row (select.filter condition).condition = .ok (earlierMet && met) := by
  cases present : select.condition with
  | none =>
      rw [present] at earlier
      cases earlier
      simpa [Select.filter, present, Scope.admits] using last
  | some first =>
      rw [present] at earlier
      simpa [Select.filter, present, Scope.admits] using meets_and earlier last

theorem admits_folded {filters : List BoundFilter} {index : Nat} {select : Select} {met : Bool}
    {test : BoundFilter → Bool} (earlier : scope.admits row select.condition = .ok met)
    (each : ∀ entry ∈ filters.zipIdx index,
      scope.meets row (entry.1.condition entry.2) = .ok (test entry.1)) :
    scope.admits row ((conditionsFrom index filters).foldl Select.filter select).condition =
      .ok (met && filters.all test) := by
  induction filters generalizing index select met with
  | nil => simpa [conditionsFrom] using earlier
  | cons filter filters ih =>
      rw [List.zipIdx_cons, List.forall_mem_cons] at each
      rw [conditions_from_cons, List.foldl_cons, ih (admits_filtered earlier each.1) each.2,
        List.all_cons, Bool.and_assoc]

theorem select_rows_eq {condition : Option Expr} {test : Row → Bool}
    (each : ∀ row ∈ scope.table.rows, scope.admits row condition = .ok (test row)) :
    scope.selectRows condition = .ok (scope.table.rows.filter test) := by
  cases condition with
  | none =>
      have all : ∀ row ∈ scope.table.rows, test row = true := by
        intro row listed
        have met : Except.ok true = Except.ok (test row) := each row listed
        exact (Except.ok.inj met).symm
      rw [List.filter_eq_self.mpr all]
      rfl
  | some condition =>
      have judged : (scope.table.rows.mapM fun row => do
          return (row, ← scope.meets row condition)) =
            .ok (scope.table.rows.map fun row => (row, test row)) := by
        apply map_all_eq_ok
        intro row listed
        have met : scope.meets row condition = .ok (test row) := each row listed
        rw [met]
        rfl
      unfold Scope.selectRows
      dsimp only
      rw [judged]
      change Except.ok _ = _
      rw [List.filter_map, List.map_map]
      simp [Function.comp_def]

/-- The rows of the statement of a normal form that compares TEXT columns for equality. -/
theorem normal_form_rows {form : NormalForm} {source : String}
    (columns : ∀ filter ∈ form.filters, filter.comparison = .equal ∧
      scope.table.HasText filter.column)
    (bound : scope.parameters = form.parameters.map Cell.ofValue) :
    scope.selectRows (form.select source).condition =
      .ok (scope.table.rows.filter fun row => form.filters.all fun filter =>
        scope.table.value filter.column row = .text filter.value) := by
  apply select_rows_eq
  intro row listed
  have unconditional : scope.admits row none = .ok true := rfl
  rw [NormalForm.select, admits_folded unconditional, Bool.true_and]
  intro entry member
  obtain ⟨_, filtered⟩ := List.mem_zipIdx_iff_le_and_getElem?_sub.mp member
  obtain ⟨equal, column⟩ := columns entry.1 (List.mem_of_getElem? filtered)
  have value : scope.parameters.getD (entry.2 - 1) .null = .text entry.1.value := by
    rw [bound, List.getD_eq_getElem?_getD, List.getElem?_map, filter_parameter filtered]
    rfl
  rw [BoundFilter.condition, equal]
  exact meets_equal column listed value

end

end TableTalk.Database
