import Mathlib.Data.List.Forall2

/-!
# Outcomes that are no errors

What is known about the parts of a computation once the whole has succeeded.
-/

namespace TableTalk

set_option autoImplicit false

theorem except_bind_eq_ok {Error Value Result : Type} {first : Except Error Value}
    {next : Value → Except Error Result} {result : Result}
    (done : first >>= next = .ok result) :
    ∃ value, first = .ok value ∧ next value = .ok result := by
  cases first with
  | error error => cases done
  | ok value => exact ⟨value, rfl, done⟩

theorem map_error_eq_ok {Error Other Value : Type} {translate : Error → Other}
    {result : Except Error Value} {value : Value}
    (done : result.mapError translate = .ok value) : result = .ok value := by
  cases result with
  | error error => cases done
  | ok other =>
      cases done
      rfl

theorem eq_ok_of_to_option {Error Value : Type} {result : Except Error Value} {value : Value}
    (done : result.toOption = some value) : result = .ok value := by
  cases result with
  | error error => cases done
  | ok other => rw [Option.some.inj done]

theorem map_all_eq_ok {Error Value Result : Type} {compute : Value → Except Error Result}
    {result : Value → Result} {values : List Value}
    (each : ∀ value ∈ values, compute value = .ok (result value)) :
    values.mapM compute = .ok (values.map result) := by
  induction values with
  | nil => rfl
  | cons value values ih =>
      obtain ⟨first, others⟩ := List.forall_mem_cons.mp each
      rw [List.mapM_cons, first, ih others]
      rfl

theorem related_of_map_all {Error Value Result : Type} {compute : Value → Except Error Result}
    {values : List Value} {results : List Result} (done : values.mapM compute = .ok results) :
    List.Forall₂ (fun value result => compute value = .ok result) values results := by
  induction values generalizing results with
  | nil =>
      cases done
      exact .nil
  | cons value values ih =>
      rw [List.mapM_cons] at done
      obtain ⟨result, first, others⟩ := except_bind_eq_ok done
      obtain ⟨later, computed, whole⟩ := except_bind_eq_ok others
      cases whole
      exact .cons first (ih computed)

theorem computed_of_mem {Error Value Result : Type} {compute : Value → Except Error Result}
    {values : List Value} {results : List Result} {result : Result}
    (done : values.mapM compute = .ok results) (member : result ∈ results) :
    ∃ value ∈ values, compute value = .ok result := by
  have related := related_of_map_all done
  clear done
  induction related with
  | nil => cases member
  | @cons value first values results computed related ih =>
      cases member with
      | head => exact ⟨value, List.mem_cons_self, computed⟩
      | tail _ later =>
          obtain ⟨source, present, computed⟩ := ih later
          exact ⟨source, List.mem_cons_of_mem value present, computed⟩

/-- The error of a computation, if it has failed. -/
def errorOf {Error Value : Type} : Except Error Value → Option Error
  | .error error => some error
  | .ok _ => none

/-- A computation in two parts fails with the error of the first part, or else with that
of the second. -/
theorem error_of_bind {Error Value Result : Type} {first : Except Error Value}
    {next : Value → Except Error Result} {later : Option Error}
    (second : ∀ value, first = .ok value → errorOf (next value) = later) :
    errorOf (first >>= next) = (errorOf first).or later := by
  cases first with
  | error error => rfl
  | ok value => exact second value rfl

theorem error_of_bind_total {Error Value Result : Type} {first : Except Error Value}
    {next : Value → Except Error Result} (total : ∀ value, errorOf (next value) = none) :
    errorOf (first >>= next) = errorOf first := by
  rw [error_of_bind (fun value _ => total value), Option.or_none]

theorem error_of_map {Error Value Result : Type} (change : Value → Result)
    (result : Except Error Value) : errorOf (change <$> result) = errorOf result := by
  cases result with
  | error error => rfl
  | ok value => rfl

theorem eq_error_of_error_of {Error Value : Type} {result : Except Error Value} {error : Error}
    (failed : errorOf result = some error) : result = .error error := by
  cases result with
  | error other => rw [Option.some.inj failed]
  | ok value => cases failed

theorem eq_ok_of_error_of {Error Value : Type} {result : Except Error Value}
    (done : errorOf result = none) : ∃ value, result = .ok value := by
  cases result with
  | error error => cases done
  | ok value => exact ⟨value, rfl⟩

end TableTalk
