import TableTalk.Proofs.Query.Refusal

/-!
# Which error is reported

The faults that a query can have, each by itself and without regard to the others. Faults
have an order of precedence: a query with several is refused for the first of them, and
one without any compiles, whatever decides which statements can be read back.
-/

namespace TableTalk

open TableTalk.Catalog
open TableTalk.Sql

set_option autoImplicit false

/-! ## Plain names -/

def IsLatinLetter (c : Char) : Prop := ('A' ≤ c ∧ c ≤ 'Z') ∨ ('a' ≤ c ∧ c ≤ 'z')

/-- A letter or an underscore, and from there letters, digits and underscores to the end. -/
def PlainIdentifier (name : String) : Prop :=
  ∃ first rest, name.toList = first :: rest ∧ (IsLatinLetter first ∨ first = '_') ∧
    ∀ c ∈ rest, IsLatinLetter c ∨ ('0' ≤ c ∧ c ≤ '9') ∨ c = '_'

theorem alphabetic_iff (c : Char) : c.isAlpha ↔ IsLatinLetter c := by
  unfold Char.isAlpha Char.isUpper Char.isLower
  simp only [Bool.or_eq_true, Bool.and_eq_true, decide_eq_true_eq]
  rfl

theorem plain_start_iff (c : Char) : isPlainStart c ↔ IsLatinLetter c ∨ c = '_' := by
  rw [isPlainStart, Bool.or_eq_true, decide_eq_true_eq, alphabetic_iff]

theorem plain_char_iff (c : Char) :
    isPlainChar c ↔ IsLatinLetter c ∨ ('0' ≤ c ∧ c ≤ '9') ∨ c = '_' := by
  have digit : c.isDigit ↔ '0' ≤ c ∧ c ≤ '9' := by
    unfold Char.isDigit
    rw [Bool.and_eq_true, decide_eq_true_eq, decide_eq_true_eq]
    rfl
  rw [isPlainChar, Char.isAlphanum, Bool.or_eq_true, Bool.or_eq_true, decide_eq_true_eq,
    alphabetic_iff, digit, or_assoc]

theorem plain_name_iff (name : String) : isPlainName name ↔ PlainIdentifier name := by
  unfold isPlainName PlainIdentifier
  cases name.toList with
  | nil => simp
  | cons first rest => simp [plain_start_iff, plain_char_iff]

/-! ## Faults -/

/-- What is wrong with a query, with the error that says so. A statement that nothing reads
back is no fault unless it is to be read back. -/
inductive Query.Fault (isReadable : Statement → Bool) (table : Table)
    (options : CompileOptions) (query : Query) : CompileError → Prop where
  | noTarget (empty : query.targetTable = "") :
      query.Fault isReadable table options .missingTargetTable
  | otherTarget (other : query.targetTable ≠ table.name) :
      query.Fault isReadable table options (.unknownTable query.targetTable)
  | operator {earlier later : List Filter} {filter : Filter} {name : String}
      (strict : options.strictOperators = true)
      (split : query.filters = earlier ++ filter :: later)
      (first : ∀ filter ∈ earlier, filter.operator.isKnown)
      (unknown : filter.operator = .other name) :
      query.Fault isReadable table options (.unsupportedOperator name filter.column)
  | resultName {key : SortKey} {aggregation : Aggregation} (sorted : query.orderBy = some key)
      (listed : aggregation ∈ query.aggregations)
      (named : aggregation.resultName = some key.column)
      (irregular : ¬PlainIdentifier key.column) :
      query.Fault isReadable table options (.invalidResultName key.column)
  /-- Limits reach from 1 to 2^63 - 1. -/
  | limit {limit : UInt64} (given : query.limit = some limit)
      (outside : limit.toNat = 0 ∨ 9223372036854775807 < limit.toNat) :
      query.Fault isReadable table options (.limitOutOfRange limit)
  | unreadable (verified : options.verifyStatement = true)
      (rejected : isReadable
        ((query.normalForm table).statement table.name options.dialect) = false) :
      query.Fault isReadable table options .invalidStatement

/-- The place of an error in the order in which faults are reported. -/
def CompileError.precedence : CompileError → Nat
  | missingTargetTable => 0
  | unknownTable _ => 1
  | unsupportedOperator _ _ => 2
  | invalidResultName _ => 3
  | limitOutOfRange _ => 4
  | invalidStatement => 5

/-- The check finds the faults with this place in the order. -/
def Reports (faults : CompileError → Prop) (place : Nat) (check : Option CompileError) : Prop :=
  ∀ error, check = some error ↔ faults error ∧ error.precedence = place

/-- The checks find the first of the faults from this place on. -/
def ReportsFrom (faults : CompileError → Prop) (place : Nat) (checks : Option CompileError) :
    Prop :=
  ∀ error, checks = some error ↔ (faults error ∧ place ≤ error.precedence) ∧
    ∀ other, faults other → place ≤ other.precedence → error.precedence ≤ other.precedence

theorem reports_from_or {faults : CompileError → Prop} {place : Nat}
    {check checks : Option CompileError} (here : Reports faults place check)
    (later : ReportsFrom faults (place + 1) checks) :
    ReportsFrom faults place (check.or checks) := by
  intro error
  cases found : check with
  | some first =>
      obtain ⟨fault, placed⟩ := (here first).mp found
      rw [Option.some_or]
      constructor
      · intro same
        cases same
        exact ⟨⟨fault, placed.ge⟩, fun other _ after => placed.le.trans after⟩
      · rintro ⟨⟨given, after⟩, least⟩
        have place : error.precedence = place :=
          le_antisymm ((least first fault placed.ge).trans placed.le) after
        rw [← found]
        exact (here error).mpr ⟨given, place⟩
  | none =>
      -- No fault has this place, so those from here on are those after it.
      have after : ∀ other, faults other → place ≤ other.precedence →
          place + 1 ≤ other.precedence := by
        intro other fault upward
        apply lt_of_le_of_ne upward
        intro same
        have reported := (here other).mpr ⟨fault, same.symm⟩
        rw [found] at reported
        cases reported
      rw [Option.none_or, later error]
      constructor
      · rintro ⟨⟨fault, upward⟩, least⟩
        exact ⟨⟨fault, by omega⟩, fun other given next => least other given (after other given next)⟩
      · rintro ⟨⟨fault, upward⟩, least⟩
        exact ⟨⟨fault, after error fault upward⟩,
          fun other given next => least other given (by omega)⟩

theorem reports_from_end (faults : CompileError → Prop) : ReportsFrom faults 6 none := by
  intro error
  have bounded : error.precedence < 6 := by
    unfold CompileError.precedence
    cases error with
    | _ => simp
  constructor
  · nofun
  · rintro ⟨⟨_, beyond⟩, _⟩
    omega

/-! ## The checks and their faults -/

section

variable (isReadable : Statement → Bool) (table : Table) (options : CompileOptions)
  (query : Query)

theorem no_target_reports : Reports (query.Fault isReadable table options) 0
    (if query.targetTable = "" then some .missingTargetTable else none) := by
  intro error
  constructor
  · intro found
    obtain ⟨empty, same⟩ := Option.ite_none_right_eq_some.mp found
    cases same
    exact ⟨.noTarget empty, rfl⟩
  · rintro ⟨fault, place⟩
    cases fault with
    | noTarget empty => exact if_pos empty
    | _ => cases place

theorem other_target_reports : Reports (query.Fault isReadable table options) 1
    (if query.targetTable ≠ table.name then some (.unknownTable query.targetTable) else none) := by
  intro error
  constructor
  · intro found
    obtain ⟨other, same⟩ := Option.ite_none_right_eq_some.mp found
    cases same
    exact ⟨.otherTarget other, rfl⟩
  · rintro ⟨fault, place⟩
    cases fault with
    | otherTarget other => exact if_pos other
    | _ => cases place

theorem filter_refusal_eq_some (strict : Bool) (filter : Filter) (error : CompileError) :
    filter.refusal strict = some error ↔
      strict = true ∧ ∃ name, filter.operator = .other name ∧
        error = .unsupportedOperator name filter.column := by
  unfold Filter.refusal
  cases filter.operator with
  | other name => cases strict <;> simp [eq_comm]
  | _ => simp

theorem filter_refusal_eq_none (filter : Filter) :
    filter.refusal true = none ↔ filter.operator.isKnown := by
  unfold Filter.refusal Operator.isKnown
  cases filter.operator with
  | _ => simp

theorem operators_report : Reports (query.Fault isReadable table options) 2
    (query.filters.findSome? (Filter.refusal options.strictOperators)) := by
  intro error
  constructor
  · intro found
    obtain ⟨earlier, filter, later, split, refused, passed⟩ := List.findSome?_eq_some_iff.mp found
    obtain ⟨strict, name, unknown, rfl⟩ := (filter_refusal_eq_some _ _ _).mp refused
    rw [strict] at passed
    have known : ∀ filter ∈ earlier, filter.operator.isKnown :=
      fun filter member => (filter_refusal_eq_none filter).mp (passed filter member)
    exact ⟨.operator strict split known unknown, rfl⟩
  · rintro ⟨fault, place⟩
    cases fault with
    | @operator earlier later filter name strict split first unknown =>
        rw [strict]
        refine List.findSome?_eq_some_iff.mpr ⟨earlier, filter, later, split, ?_, ?_⟩
        · exact (filter_refusal_eq_some _ _ _).mpr ⟨rfl, name, unknown, rfl⟩
        · exact fun filter member => (filter_refusal_eq_none filter).mpr (first filter member)
    | _ => cases place

theorem is_result_name_iff (name : String) :
    query.isResultName name ↔
      ∃ aggregation ∈ query.aggregations, aggregation.resultName = some name := by
  simp [Query.isResultName]

theorem result_name_reports : Reports (query.Fault isReadable table options) 3
    (query.orderBy.bind (SortKey.refusal query)) := by
  intro error
  constructor
  · intro found
    obtain ⟨key, sorted, refused⟩ := Option.bind_eq_some_iff.mp found
    obtain ⟨⟨named, irregular⟩, same⟩ := Option.ite_none_right_eq_some.mp refused
    obtain ⟨aggregation, listed, named⟩ := (is_result_name_iff query _).mp named
    cases same
    exact ⟨.resultName sorted listed named (mt (plain_name_iff _).mpr irregular), rfl⟩
  · rintro ⟨fault, place⟩
    cases fault with
    | @resultName key aggregation sorted listed named irregular =>
        have known : query.isResultName key.column :=
          (is_result_name_iff query _).mpr ⟨aggregation, listed, named⟩
        rw [sorted, Option.bind_some]
        exact if_pos ⟨known, mt (plain_name_iff _).mp irregular⟩
    | _ => cases place

theorem not_bindable_iff (limit : UInt64) :
    ¬Bindable limit ↔ limit.toNat = 0 ∨ 9223372036854775807 < limit.toNat := by
  unfold Bindable
  omega

theorem limit_reports : Reports (query.Fault isReadable table options) 4
    (query.limit.bind limitRefusal) := by
  intro error
  constructor
  · intro found
    obtain ⟨limit, given, refused⟩ := Option.bind_eq_some_iff.mp found
    obtain ⟨unbindable, same⟩ := Option.ite_none_left_eq_some.mp refused
    cases same
    exact ⟨.limit given ((not_bindable_iff limit).mp unbindable), rfl⟩
  · rintro ⟨fault, place⟩
    cases fault with
    | @limit number given outside =>
        rw [given, Option.bind_some]
        exact if_neg ((not_bindable_iff number).mpr outside)
    | _ => cases place

theorem unreadable_reports : Reports (query.Fault isReadable table options) 5
    (if options.verifyStatement &&
        !isReadable ((query.normalForm table).statement table.name options.dialect) then
      some .invalidStatement
    else none) := by
  intro error
  constructor
  · intro found
    obtain ⟨unread, same⟩ := Option.ite_none_right_eq_some.mp found
    rw [Bool.and_eq_true, Bool.not_eq_true'] at unread
    cases same
    exact ⟨.unreadable unread.1 unread.2, rfl⟩
  · rintro ⟨fault, place⟩
    cases fault with
    | unreadable verified rejected => exact if_pos (by rw [verified, rejected]; rfl)
    | _ => cases place

theorem if_some_eq_or {Error : Type} (condition : Prop) [Decidable condition] (error : Error)
    (rest : Option Error) :
    (if condition then some error else rest) =
      (if condition then some error else none).or rest := by
  split
  · rfl
  · rfl

theorem refusal_reports :
    ReportsFrom (query.Fault isReadable table options) 0
      (query.refusalWith isReadable table options) := by
  have none := reports_from_end (query.Fault isReadable table options)
  have unreadable := reports_from_or (unreadable_reports isReadable table options query) none
  rw [Option.or_none] at unreadable
  have limit := reports_from_or (limit_reports isReadable table options query) unreadable
  have order := reports_from_or (result_name_reports isReadable table options query) limit
  have filters := reports_from_or (operators_report isReadable table options query) order
  have other := reports_from_or (other_target_reports isReadable table options query) filters
  have target := reports_from_or (no_target_reports isReadable table options query) other
  unfold Query.refusalWith
  rw [if_some_eq_or, if_some_eq_or (query.targetTable ≠ table.name)]
  exact target

end

/-! ## Unknown operators -/

/-- The operator that compares for equality, for each one without a meaning. -/
def Operator.orEquals : Operator → Operator
  | .other _ => .equals
  | operator => operator

def Filter.orEquals (filter : Filter) : Filter :=
  { filter with operator := filter.operator.orEquals }

def Query.orEquals (query : Query) : Query :=
  { query with filters := query.filters.map Filter.orEquals }

theorem normal_form_or_equals (table : Table) (query : Query) :
    query.orEquals.normalForm table = query.normalForm table := by
  have bound : ∀ filter : Filter, filter.orEquals.bound = filter.bound := by
    intro filter
    unfold Filter.bound Filter.orEquals
    cases filter.operator with
    | _ => rfl
  have filters : query.orEquals.filters.map Filter.bound = query.filters.map Filter.bound := by
    rw [Query.orEquals, List.map_map]
    exact List.map_congr_left fun filter _ => bound filter
  unfold Query.normalForm
  rw [filters]
  rfl

theorem lax_refuses_no_filter (filters : List Filter) :
    filters.findSome? (Filter.refusal false) = none := by
  apply List.findSome?_eq_none_iff.mpr
  intro filter _
  unfold Filter.refusal
  cases filter.operator with
  | _ => rfl

theorem known_filters_pass {filters : List Filter}
    (known : ∀ filter ∈ filters, filter.operator.isKnown) (strict : Bool) :
    filters.findSome? (Filter.refusal strict) = none := by
  cases strict with
  | false => exact lax_refuses_no_filter filters
  | true =>
      apply List.findSome?_eq_none_iff.mpr
      intro filter member
      exact (filter_refusal_eq_none filter).mpr (known filter member)

theorem or_equals_known (query : Query) :
    ∀ filter ∈ query.orEquals.filters, filter.operator.isKnown := by
  intro filter member
  obtain ⟨original, _, rfl⟩ := List.mem_map.mp member
  unfold Filter.orEquals Operator.orEquals
  cases original.operator with
  | _ => rfl

/-! ## Compiling -/

theorem compile_with_eq_error (isReadable : Statement → Bool) (table : Table)
    (options : CompileOptions) (query : Query) (error : CompileError) :
    compileWith isReadable table options query = .error error ↔
      query.refusalWith isReadable table options = some error := by
  rw [compile_with_eq]
  cases query.refusalWith isReadable table options with
  | none => simp
  | some first => simp

/-- Lax compiling reads unknown operators as equality, and they are all that makes strict
compiling differ from it. -/
theorem compile_with_lax (isReadable : Statement → Bool) (table : Table)
    (options : CompileOptions) (query : Query) (strict : Bool) :
    compileWith isReadable table { options with strictOperators := false } query =
      compileWith isReadable table { options with strictOperators := strict } query.orEquals := by
  have passed := known_filters_pass (or_equals_known query) strict
  rw [compile_with_eq, compile_with_eq, normal_form_or_equals]
  unfold Query.refusalWith
  rw [passed, lax_refuses_no_filter, normal_form_or_equals]
  rfl

theorem compile_with_known (isReadable : Statement → Bool) (table : Table)
    (options : CompileOptions) {query : Query}
    (known : ∀ filter ∈ query.filters, filter.operator.isKnown) :
    compileWith isReadable table { options with strictOperators := true } query =
      compileWith isReadable table { options with strictOperators := false } query := by
  rw [compile_with_eq, compile_with_eq]
  unfold Query.refusalWith
  rw [known_filters_pass known, known_filters_pass known]

/-- A query is refused for the first of its faults and compiles if it has none. Unknown
operators are faults of strict compiling only, and stand for equality otherwise. -/
theorem first_fault_is_reported (isReadable : Statement → Bool) (table : Table)
    (options : CompileOptions) (query : Query) :
    (∀ error, compileWith isReadable table options query = .error error ↔
      query.Fault isReadable table options error ∧
        ∀ other, query.Fault isReadable table options other →
          error.precedence ≤ other.precedence) ∧
    ((∀ error, ¬query.Fault isReadable table options error) →
      compileWith isReadable table options query =
        .ok ((query.normalForm table).statement table.name options.dialect)) ∧
    (∀ strict, compileWith isReadable table { options with strictOperators := false } query =
      compileWith isReadable table { options with strictOperators := strict } query.orEquals) ∧
    ((∀ filter ∈ query.filters, filter.operator.isKnown) →
      compileWith isReadable table { options with strictOperators := true } query =
        compileWith isReadable table { options with strictOperators := false } query) := by
  have reported := refusal_reports isReadable table options query
  refine ⟨?_, ?_, compile_with_lax isReadable table options query,
    compile_with_known isReadable table options⟩
  · intro error
    rw [compile_with_eq_error, reported error]
    simp
  · intro faultless
    have accepted : query.refusalWith isReadable table options = none := by
      apply Option.eq_none_iff_forall_ne_some.mpr
      intro error refused
      exact faultless error ((reported error).mp refused).1.1
    rw [compile_with_eq, accepted]

/-- A query with an unknown operator, a result name that needs quotes and no room for rows. -/
def faultyQuery : Query where
  filters := [⟨"title", .like, "gpu"⟩, ⟨"provider", .other "SOUNDS_LIKE", "aws"⟩]
  aggregations := [.count "id" "n; --"]
  orderBy := some (.descending "n; --")
  limit := some 0
  targetTable := "update"

def faultlessQuery : Query where
  filters := [⟨"title", .like, "gpu"⟩]
  targetTable := "update"

theorem faultless_query (error : CompileError) :
    ¬faultlessQuery.Fault Statement.isReadable ⟨"update", []⟩ {} error := by
  intro fault
  cases fault with
  | noTarget empty => exact absurd empty (by decide)
  | otherTarget other => exact other rfl
  | operator strict => cases strict
  | resultName sorted => cases sorted
  | limit given => cases given
  | unreadable _ rejected => exact absurd rejected (by decide)

/-- The operator comes first, then the result name; the limit has to wait for both. -/
theorem faults_reported_in_turn :
    (compile ⟨"update", []⟩ { strictOperators := true } faultyQuery =
        .error (.unsupportedOperator "SOUNDS_LIKE" "provider") ∧
      compile ⟨"update", []⟩ {} faultyQuery = .error (.invalidResultName "n; --") ∧
      faultyQuery.Fault Statement.isReadable ⟨"update", []⟩ {} (.invalidResultName "n; --") ∧
      faultyQuery.Fault Statement.isReadable ⟨"update", []⟩ {} (.limitOutOfRange 0)) ∧
    (∀ error, ¬faultlessQuery.Fault Statement.isReadable ⟨"update", []⟩ {} error) ∧
    (∀ filter ∈ faultlessQuery.filters, filter.operator.isKnown) ∧
    compile ⟨"update", []⟩ { strictOperators := true } faultlessQuery =
      .ok ((faultlessQuery.normalForm ⟨"update", []⟩).statement "update" .sqlite) := by
  obtain ⟨reported, _, _, _⟩ :=
    first_fault_is_reported Statement.isReadable ⟨"update", []⟩ {} faultyQuery
  obtain ⟨_, compiled, _, strict⟩ :=
    first_fault_is_reported Statement.isReadable ⟨"update", []⟩ {} faultlessQuery
  have known : ∀ filter ∈ faultlessQuery.filters, filter.operator.isKnown := by decide
  have refused : compile ⟨"update", []⟩ {} faultyQuery = .error (.invalidResultName "n; --") := rfl
  refine ⟨⟨rfl, refused, ((reported _).mp refused).1, .limit rfl (.inl rfl)⟩,
    faultless_query, known, ?_⟩
  exact (strict known).trans (compiled faultless_query)

end TableTalk
