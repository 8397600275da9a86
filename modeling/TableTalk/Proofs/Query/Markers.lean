import Mathlib.Data.List.Count
import TableTalk.Proofs.Query.Emitted

/-!
# Parameter markers

Read back with its quoted identifiers as units, a compiled statement is closed, ends
with its only terminator, holds no literal and has exactly one marker for each bound
value, in the order of the values. Names cannot change this, whatever they contain.
-/

namespace TableTalk

open TableTalk.Catalog
open TableTalk.Sql

set_option autoImplicit false

/-! ## Markers of a text -/

def leadingDigits : List Lexeme → List Char
  | .bare c :: rest => if c.isDigit then c :: leadingDigits rest else []
  | _ => []

/-- The markers of a text that start with a dollar sign, each with all of its digits. -/
def numberedMarkers : List Lexeme → List String
  | [] => []
  | .bare c :: rest =>
      if c = '$' then String.ofList (c :: leadingDigits rest) :: numberedMarkers rest
      else numberedMarkers rest
  | .quoted _ :: rest => numberedMarkers rest

/-- How a text with `count` bound values reads. -/
structure WellMarked (dialect : Dialect) (count : Nat) (units : List Lexeme) : Prop where
  terminated : ∃ body, units = body ++ [.bare ';'] ∧ .bare ';' ∉ body
  withoutLiteral : .bare '\'' ∉ units
  questionMarks : dialect ≠ .postgres → units.count (.bare '?') = count
  numbered : dialect = .postgres →
    numberedMarkers units = (List.range count).map fun index => "$" ++ toString (index + 1)

theorem leading_digits_append (digits : List Char) (rest : List Lexeme)
    (numeric : ∀ c ∈ digits, c.isDigit) (ended : leadingDigits rest = []) :
    leadingDigits (digits.map .bare ++ rest) = digits := by
  induction digits with
  | nil => exact ended
  | cons c digits ih =>
      have later := ih fun other member => numeric other (List.mem_cons_of_mem _ member)
      have first := numeric c (List.mem_cons_self ..)
      simp only [List.map_cons, List.cons_append, leadingDigits, first, if_true, later]

theorem numbered_markers_append (text : List Char) (rest : List Lexeme) (unmarked : '$' ∉ text) :
    numberedMarkers (text.map .bare ++ rest) = numberedMarkers rest := by
  induction text with
  | nil => rfl
  | cons c text ih =>
      have other : c ≠ '$' := by
        rintro rfl
        exact unmarked (List.mem_cons_self ..)
      have later := ih fun member => unmarked (List.mem_cons_of_mem _ member)
      simp only [List.map_cons, List.cons_append, numberedMarkers, if_neg other, later]

/-! ## Characters outside quotes -/

/-- The characters that a compiled statement has outside quotes, apart from its
markers and its terminator. -/
def isOrdinary (c : Char) : Bool :=
  c.isAlphanum || ['_', ' ', ',', '*', '(', ')', '=', '<', '>'].contains c

/-- A text of ordinary characters that shows and does not continue a number. -/
def Ordinary (text : List Char) : Prop :=
  text ≠ [] ∧ (∀ c ∈ text.head?, c.isDigit = false) ∧ ∀ c ∈ text, isOrdinary c

instance (text : List Char) : Decidable (Ordinary text) :=
  decidable_of_iff (text ≠ [] ∧ (text.head?.all fun c => !c.isDigit) ∧ text.all isOrdinary) <| by
    simp [Ordinary, Option.all_eq_true]

theorem plain_char_ordinary {c : Char} (plain : isPlainChar c) : isOrdinary c := by
  simp only [isPlainChar, Bool.or_eq_true, decide_eq_true_eq] at plain
  rcases plain with alphanumeric | rfl
  · simp [isOrdinary, alphanumeric]
  · decide

theorem letter_not_digit {c : Char} (letter : c.isAlpha) : c.isDigit = false := by
  have ranges : (decide (c.val ≥ 'A'.val ∧ c.val ≤ 'Z'.val) ||
      (decide (c.val ≥ 'a'.val) && decide (c.val ≤ 'z'.val))) = true := letter
  simp only [Bool.or_eq_true, Bool.and_eq_true, decide_eq_true_eq, ge_iff_le,
    UInt32.le_iff_toNat_le] at ranges
  change (65 ≤ c.toNat ∧ c.toNat ≤ 90) ∨ (97 ≤ c.toNat ∧ c.toNat ≤ 122) at ranges
  rw [Bool.eq_false_iff]
  intro digit
  have bounds := Char.isDigit_iff_toNat.mp digit
  change 48 ≤ c.toNat ∧ c.toNat ≤ 57 at bounds
  omega

theorem plain_start_char {c : Char} (plain : isPlainStart c) :
    isPlainChar c ∧ c.isDigit = false := by
  simp only [isPlainStart, Bool.or_eq_true, decide_eq_true_eq] at plain
  rcases plain with letter | rfl
  · exact ⟨by simp [isPlainChar, Char.isAlphanum, letter], letter_not_digit letter⟩
  · decide

theorem plain_name_ordinary {name : String} (plain : isPlainName name) : Ordinary name.toList := by
  unfold isPlainName at plain
  split at plain
  · cases plain
  · rename_i c rest written
    simp only [Bool.and_eq_true, List.all_eq_true] at plain
    obtain ⟨start, others⟩ := plain
    obtain ⟨startPlain, startNotDigit⟩ := plain_start_char start
    rw [written]
    refine ⟨List.cons_ne_nil _ _, by simpa using startNotDigit, ?_⟩
    intro other member
    cases member with
    | head => exact plain_char_ordinary startPlain
    | tail _ later => exact plain_char_ordinary (others other later)

theorem emitted_ordinary (dialect : Dialect) {token : Token} (emitted : Emitted token)
    (bare : token.isIdentifier = false) (unbound : token.parameterIndex = none) :
    Ordinary (token.render dialect).toList := by
  cases token with
  | identifier name => cases bare
  | parameter index => cases unbound
  | semicolon => cases emitted
  | plain name => exact plain_name_ordinary emitted
  | function name =>
      obtain ⟨function, rfl⟩ := emitted
      cases function <;> simp only [Token.render] <;> decide
  | _ =>
      simp only [Token.render]
      decide

theorem to_string_digits (index : Nat) : ∀ c ∈ (toString index).toList, c.isDigit := by
  intro c member
  have digits : (toString index).toList = Nat.toDigits 10 index := by simp
  rw [digits] at member
  exact Nat.isDigit_of_mem_toDigits (by decide) (by decide) member

theorem emitted_lacks (dialect : Dialect) {token : Token} (emitted : Emitted token)
    (bare : token.isIdentifier = false) {c : Char} (strange : isOrdinary c = false)
    (unmarked : c ≠ '?' ∧ c ≠ '$') : c ∉ (token.render dialect).toList := by
  intro member
  cases parameter : token.parameterIndex with
  | none =>
      have ordinary := (emitted_ordinary dialect emitted bare parameter).2.2 c member
      rw [strange] at ordinary
      cases ordinary
  | some index =>
      obtain rfl := eq_parameter parameter
      have sign : c = '?' ∨ c = '$' ∨ c ∈ (toString index).toList := by
        cases dialect <;> simp_all [Token.render, Dialect.marker]
      rcases sign with question | dollar | digit
      · exact unmarked.1 question
      · exact unmarked.2 dollar
      · have ordinary : isOrdinary c := by
          simp [isOrdinary, Char.isAlphanum, to_string_digits index c digit]
        rw [strange] at ordinary
        cases ordinary

theorem emitted_readable (dialect : Dialect) {token : Token} (emitted : Emitted token) :
    token.Readable dialect := by
  intro bare
  constructor
  · cases parameter : token.parameterIndex with
    | none => exact (emitted_ordinary dialect emitted bare parameter).1
    | some index =>
        obtain rfl := eq_parameter parameter
        cases dialect <;> simp [Token.render, Dialect.marker]
  · have quote : isOrdinary dialect.quoteChar = false ∧
        dialect.quoteChar ≠ '?' ∧ dialect.quoteChar ≠ '$' := by
      cases dialect <;> decide
    exact emitted_lacks dialect emitted bare quote.1 quote.2

theorem lexemes_statement (source : String) (dialect : Dialect) {form : NormalForm}
    (nonempty : form.projection ≠ []) (checked : form.Checked) :
    lexemes dialect.quoteChar (form.statement source dialect).text.toList =
      some ((form.select source).tokens.flatMap (Token.units dialect) ++ [.bare ';']) := by
  have readable : ∀ token ∈ (form.select source).tokens ++ [.semicolon],
      token.Readable dialect := by
    intro token member
    rcases List.mem_append.mp member with inside | last
    · exact emitted_readable dialect (emitted_tokens source nonempty checked token inside)
    · obtain rfl := List.mem_singleton.mp last
      intro _
      cases dialect <;> decide
  have read := lexemes_render dialect _ readable (select_tokens_apart (form.select source))
  have last : [Token.semicolon].flatMap (Token.units dialect) = [.bare ';'] := by
    simp [Token.units, Token.render]
  rw [List.flatMap_append, last] at read
  exact read

/-! ## Counting markers -/

theorem emitted_units_lack (dialect : Dialect) {token : Token} (emitted : Emitted token)
    {c : Char} (strange : isOrdinary c = false) (unmarked : c ≠ '?' ∧ c ≠ '$') :
    .bare c ∉ token.units dialect := by
  cases bare : token.isIdentifier with
  | true =>
      obtain ⟨name, rfl⟩ := eq_identifier bare
      simp [Token.units]
  | false =>
      rw [units_of_bare bare]
      simpa using emitted_lacks dialect emitted bare strange unmarked

theorem emitted_unbound_units_lack (dialect : Dialect) {token : Token} (emitted : Emitted token)
    (unbound : token.parameterIndex = none) {c : Char} (strange : isOrdinary c = false) :
    .bare c ∉ token.units dialect := by
  cases bare : token.isIdentifier with
  | true =>
      obtain ⟨name, rfl⟩ := eq_identifier bare
      simp [Token.units]
  | false =>
      rw [units_of_bare bare]
      intro member
      obtain ⟨other, present, same⟩ := List.mem_map.mp member
      cases same
      have ordinary := (emitted_ordinary dialect emitted bare unbound).2.2 c present
      rw [strange] at ordinary
      cases ordinary

theorem count_question_marks (dialect : Dialect) (anonymous : dialect ≠ .postgres)
    (tokens : List Token) (emitted : ∀ token ∈ tokens, Emitted token) :
    (tokens.flatMap (Token.units dialect)).count (.bare '?') =
      (tokens.filterMap Token.parameterIndex).length := by
  induction tokens with
  | nil => rfl
  | cons token tokens ih =>
      have later := ih fun other member => emitted other (List.mem_cons_of_mem _ member)
      rw [List.flatMap_cons, List.count_append, later]
      cases parameter : token.parameterIndex with
      | none =>
          have lacks := emitted_unbound_units_lack dialect (emitted token (List.mem_cons_self ..))
            parameter (c := '?') (by decide)
          rw [List.count_eq_zero_of_not_mem lacks, List.filterMap_cons_none parameter, Nat.zero_add]
      | some index =>
          obtain rfl := eq_parameter parameter
          have sign : (Token.parameter index).units dialect = [.bare '?'] := by
            cases dialect with
            | postgres => exact absurd rfl anonymous
            | _ => simp [Token.units, Token.render, Dialect.marker]
          rw [sign, List.filterMap_cons_some parameter, List.length_cons, Nat.add_comm]
          rfl

/-- Markers with numbers are read one by one: what follows a marker does not continue
its number. -/
theorem numbered_markers_tokens (tokens : List Token) (emitted : ∀ token ∈ tokens, Emitted token) :
    leadingDigits (tokens.flatMap (Token.units .postgres) ++ [.bare ';']) = [] ∧
      numberedMarkers (tokens.flatMap (Token.units .postgres) ++ [.bare ';']) =
        (tokens.filterMap Token.parameterIndex).map fun index => "$" ++ toString index := by
  induction tokens with
  | nil => exact ⟨rfl, rfl⟩
  | cons token tokens ih =>
      -- The rest starts with no digit, so it cannot continue the number of a marker.
      obtain ⟨ended, numbered⟩ := ih fun other member => emitted other
        (List.mem_cons_of_mem _ member)
      rw [List.flatMap_cons, List.append_assoc]
      cases parameter : token.parameterIndex with
      | some index =>
          obtain rfl := eq_parameter parameter
          have digits := to_string_digits index
          have unmarked : '$' ∉ (toString index).toList := by
            intro member
            exact absurd (digits '$' member) (by decide)
          have units : (Token.parameter index).units .postgres =
              .bare '$' :: (toString index).toList.map .bare := by
            simp [Token.units, Token.render, Dialect.marker]
          rw [units, List.cons_append, List.filterMap_cons_some parameter]
          refine ⟨rfl, ?_⟩
          simp only [numberedMarkers, if_true, List.map_cons]
          rw [leading_digits_append _ _ digits ended, numbered_markers_append _ _ unmarked, numbered]
          simp [← String.toList_inj]
      | none =>
          rw [List.filterMap_cons_none parameter]
          cases bare : token.isIdentifier with
          | true =>
              obtain ⟨name, rfl⟩ := eq_identifier bare
              exact ⟨rfl, numbered⟩
          | false =>
              obtain ⟨shows, start, ordinary⟩ := emitted_ordinary .postgres
                (emitted token (List.mem_cons_self ..)) bare parameter
              have unmarked : '$' ∉ (token.render .postgres).toList := by
                intro member
                exact absurd (ordinary '$' member) (by decide)
              rw [units_of_bare bare, numbered_markers_append _ _ unmarked]
              refine ⟨?_, numbered⟩
              cases written : (token.render .postgres).toList with
              | nil => exact absurd written shows
              | cons c rest =>
                  rw [written] at start
                  simp [leadingDigits, start c rfl]

theorem normal_form_well_marked (source : String) (dialect : Dialect) {form : NormalForm}
    (nonempty : form.projection ≠ []) (checked : form.Checked) :
    WellMarked dialect form.parameters.length
      ((form.select source).tokens.flatMap (Token.units dialect) ++ [.bare ';']) := by
  have emitted := emitted_tokens source nonempty checked
  have parameters := tokens_parameters source form
  have lacks : ∀ {c : Char}, isOrdinary c = false → c ≠ '?' ∧ c ≠ '$' →
      .bare c ∉ (form.select source).tokens.flatMap (Token.units dialect) := by
    intro c strange unmarked member
    obtain ⟨token, present, inside⟩ := List.mem_flatMap.mp member
    exact emitted_units_lack dialect (emitted token present) strange unmarked inside
  constructor
  case terminated => exact ⟨_, rfl, lacks (by decide) (by decide)⟩
  case withoutLiteral =>
    intro member
    rcases List.mem_append.mp member with inside | last
    · exact lacks (by decide) (by decide) inside
    · simp at last
  case questionMarks =>
    intro anonymous
    rw [List.count_append, count_question_marks dialect anonymous _ emitted, parameters,
      List.length_range']
    rfl
  case numbered =>
    rintro rfl
    rw [(numbered_markers_tokens _ emitted).2, parameters, List.range'_eq_map_range, List.map_map]
    apply List.map_congr_left
    intro index _
    simp [Nat.add_comm]

/-- A compiled statement reads as closed, terminated once at its end and free of
literals, with one marker for each parameter in the order of the parameters: the
values of the filters, then the limit. The names of columns, tables and results
have no part in this. -/
theorem compiled_text_well_marked {table : Table} {options : CompileOptions} {query : Query}
    {statement : Statement} (compiled : compile table options query = .ok statement) :
    (∃ units, lexemes options.dialect.quoteChar statement.text.toList = some units ∧
      WellMarked options.dialect statement.parameters.length units) ∧
    statement.text.toList.getLast? = some ';' ∧
    statement.parameters = query.filters.map (fun filter => .text filter.bound.value) ++
      query.limit.toList.map (fun limit => .integer limit.toNat) ∧
    statement.select.parameterCount = statement.parameters.length := by
  obtain ⟨_, checked, rfl⟩ := compile_eq_ok compiled
  have nonempty := normal_form_projection_nonempty table query
  refine ⟨⟨_, lexemes_statement table.name options.dialect nonempty checked,
    normal_form_well_marked table.name options.dialect nonempty checked⟩, ?_, ?_, ?_⟩
  · have last : (Token.semicolon.render options.dialect).toList = [';'] := by simp [Token.render]
    simp only [NormalForm.statement, Statement.text, Select.render, render_to_list,
      List.flatMap_append, List.flatMap_cons, List.flatMap_nil, List.append_nil, last]
    exact List.getLast?_concat ..
  · simp [NormalForm.statement, NormalForm.parameters, Query.normalForm, Function.comp_def]
  · simp only [NormalForm.statement, Select.parameterCount]
    rw [parameter_count_eq, tokens_parameters, List.length_range']

/-- A query whose names are made of quotes, markers and terminators. -/
def hostileQuery : Query where
  selectColumns := ["$1'"]
  filters := [⟨"?;\"\"", .like, "';--"⟩]
  limit := some 3
  targetTable := "a;\""

def hostileStatement : Statement :=
  (hostileQuery.normalForm ⟨"a;\"", []⟩).statement "a;\"" .postgres

theorem hostile_names_well_marked :
    compile ⟨"a;\"", []⟩ { dialect := .postgres } hostileQuery = .ok hostileStatement ∧
      hostileStatement.text =
        "SELECT \"$1'\" FROM \"a;\"\"\" WHERE \"?;\"\"\"\"\" LIKE $1 LIMIT $2;" ∧
      hostileStatement.parameters = [.text "%';--%", .integer 3] ∧
      ∃ units, lexemes '"' hostileStatement.text.toList = some units ∧
        WellMarked .postgres 2 units := by
  have compiled : compile ⟨"a;\"", []⟩ { dialect := .postgres } hostileQuery =
      .ok hostileStatement := rfl
  exact ⟨compiled, by decide +kernel, rfl, (compiled_text_well_marked compiled).1⟩

end TableTalk
