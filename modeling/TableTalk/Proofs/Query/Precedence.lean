import TableTalk.Proofs.Query.Markers
import TableTalk.Proofs.Sql.Units

/-!
# Reading conditions back

Conditions are written without parentheses. A reader groups them by precedence: comparisons bind
tighter than `AND`, and both associate to the left. Just those conditions are read as they were
meant that compare nothing but columns and parameters on the right, and no conjunctions on the
left.
-/

namespace TableTalk.Sql

set_option autoImplicit false

/-- Expressions that operators build from columns and parameters. -/
inductive Expr.Combined : Expr → Prop where
  | column (name : String) : Combined (.column name)
  | parameter (index : Nat) : Combined (.parameter index)
  | binary (operator : BinaryOperator) {left right : Expr} (first : Combined left)
      (second : Combined right) : Combined (.binary operator left right)

/-- The smallest congruence under which `AND` is associative. -/
inductive Reassociated : Expr → Expr → Prop where
  | refl (expr : Expr) : Reassociated expr expr
  | symm {first second : Expr} (same : Reassociated first second) : Reassociated second first
  | trans {first second third : Expr} (left : Reassociated first second)
      (right : Reassociated second third) : Reassociated first third
  | turn (first second third : Expr) :
      Reassociated (.binary .and (.binary .and first second) third)
        (.binary .and first (.binary .and second third))
  | binary (operator : BinaryOperator) {left left' right right' : Expr}
      (first : Reassociated left left') (second : Reassociated right right') :
      Reassociated (.binary operator left right) (.binary operator left' right')

/-! ## The reader -/

def BinaryOperator.all : List BinaryOperator := [.equal, .less, .greater, .like, .and]

def Lexeme.char? : Lexeme → Option Char
  | .bare c => some c
  | .quoted _ => none

/-- The token that is written as a word. -/
def wordToken? : List Lexeme → Option Token
  | [.quoted name] => some (.identifier (String.ofList name))
  | .bare '$' :: units => do
      let digits ← units.mapM Lexeme.char?
      if digits ≠ [] ∧ digits.all Char.isDigit then
        some (.parameter (Nat.ofDigitChars 10 digits 0))
      else none
  | word => (BinaryOperator.all.map BinaryOperator.token).find? fun token =>
      token.units .postgres == word

/-- The words of a text: the tokens between its blanks. -/
def words? (text : String) : Option (List Token) := do
  let units ← lexemes Dialect.postgres.quoteChar text.toList
  (units.splitOn (.bare ' ')).mapM wordToken?

def operand? : Token → Option Expr
  | .identifier name => some (.column name)
  | .parameter index => some (.parameter index)
  | _ => none

def operator? (word : Token) : Option BinaryOperator :=
  BinaryOperator.all.find? fun operator => operator.token == word

/-- Operators, each with the operand behind it. -/
def steps? : List Token → Option (List (BinaryOperator × Expr))
  | [] => some []
  | [_] => none
  | word :: next :: rest => do
      let step := (← operator? word, ← operand? next)
      return step :: (← steps? rest)

/-- What stands between the conjunctions: comparisons take what has been read before them. -/
def comparisons (current : Expr) : List (BinaryOperator × Expr) → List Expr
  | [] => [current]
  | (.and, operand) :: rest => current :: comparisons operand rest
  | (operator, operand) :: rest => comparisons (.binary operator current operand) rest

/-- All parts joined by `AND`, from left to right. -/
def conjoin? : List Expr → Option Expr
  | [] => none
  | first :: others => some (others.foldl (.binary .and) first)

/-- The expression that a text is read as. -/
def readBack? (text : String) : Option Expr := do
  match ← words? text with
  | [] => none
  | first :: rest => conjoin? (comparisons (← operand? first) (← steps? rest))

/-! ## What is read as it was meant -/

def Expr.IsOperand : Expr → Prop
  | .column _ => True
  | .parameter _ => True
  | _ => False

/-- A comparison with an operand on its right, and on its left an operand or another one. -/
inductive Expr.Compares : Expr → Prop where
  | operand {expr : Expr} (single : expr.IsOperand) : Compares expr
  | compare {operator : BinaryOperator} {left right : Expr} (tight : operator ≠ .and)
      (first : Compares left) (single : right.IsOperand) :
      Compares (.binary operator left right)

/-- Such comparisons, joined by `AND` in any nesting. -/
inductive Expr.Plain : Expr → Prop where
  | comparison {expr : Expr} (compares : expr.Compares) : Plain expr
  | conjunction {left right : Expr} (first : Plain left) (second : Plain right) :
      Plain (.binary .and left right)

/-! ## Words of a text -/

/-- The tokens of an expression without the blanks between them. -/
def Expr.words : Expr → List Token
  | .binary operator left right => left.words ++ operator.token :: right.words
  | operand => operand.tokens

section

variable {expr left right : Expr} {operator : BinaryOperator}

theorem operator_emitted (operator : BinaryOperator) : Emitted operator.token := by
  cases operator <;> trivial

theorem combined_tokens_emitted (combined : expr.Combined) :
    ∀ token ∈ expr.tokens, Emitted token := by
  induction combined with
  | column name => simp [Expr.tokens, Emitted]
  | parameter index => simp [Expr.tokens, Emitted]
  | binary operator _ _ first second =>
      simp only [Expr.tokens, List.forall_mem_append, List.forall_mem_cons]
      exact ⟨⟨first, trivial, operator_emitted operator, trivial, List.forall_mem_nil _⟩, second⟩

/-- A token that is a word: it has no blank in it and can be told from its units. -/
def IsWord (token : Token) : Prop :=
  .bare ' ' ∉ token.units .postgres ∧ wordToken? (token.units .postgres) = some token

theorem operator_is_word (operator : BinaryOperator) : IsWord operator.token := by
  unfold IsWord
  cases operator <;> decide +kernel

theorem identifier_is_word (name : String) : IsWord (.identifier name) := by
  simp [IsWord, Token.units, wordToken?]

theorem chars_of_bare (text : List Char) :
    (text.map Lexeme.bare).mapM Lexeme.char? = some text := by
  induction text with
  | nil => rfl
  | cons c text ih => simp [List.mapM_cons, Lexeme.char?, ih]

theorem parameter_is_word (index : Nat) : IsWord (.parameter index) := by
  have units : (Token.parameter index).units .postgres =
      .bare '$' :: (toString index).toList.map .bare := by
    simp [Token.units, Token.render, Dialect.marker]
  unfold IsWord
  rw [units]
  constructor
  · intro blank
    have inDigits := (List.mem_cons.mp blank).resolve_left (by simp)
    obtain ⟨c, member, same⟩ := List.mem_map.mp inDigits
    have digit := to_string_digits index c member
    rw [Lexeme.bare.inj same] at digit
    exact absurd digit (by decide)
  · have written : (toString index).toList = Nat.toDigits 10 index := by simp
    have nonempty : Nat.toDigits 10 index ≠ [] := by simp
    have digits := to_string_digits index
    rw [written] at digits ⊢
    simp only [wordToken?, chars_of_bare, Option.bind_eq_bind, Option.bind_some]
    rw [if_pos ⟨nonempty, List.all_eq_true.mpr digits⟩, Nat.ofDigitChars_ten_toDigits]

theorem combined_words (combined : expr.Combined) : ∀ token ∈ expr.words, IsWord token := by
  induction combined with
  | column name => simpa [Expr.words, Expr.tokens] using identifier_is_word name
  | parameter index => simpa [Expr.words, Expr.tokens] using parameter_is_word index
  | binary operator _ _ first second =>
      simp only [Expr.words, List.forall_mem_append, List.forall_mem_cons]
      exact ⟨first, operator_is_word operator, second⟩

theorem split_at_blank (before after : List Lexeme) :
    (before ++ .bare ' ' :: after).splitOn (.bare ' ') =
      before.splitOn (.bare ' ') ++ after.splitOn (.bare ' ') :=
  List.splitOnP_append_cons before after (beq_self_eq_true _)

theorem split_word {token : Token} (word : IsWord token) :
    (token.units .postgres).splitOn (.bare ' ') = [token.units .postgres] := by
  apply List.splitOnP_eq_singleton
  intro unit member
  rw [beq_eq_false_iff_ne]
  rintro rfl
  exact word.1 member

/-- Blanks part the words of an expression; those inside identifiers are no blanks. -/
theorem split_units (combined : expr.Combined) :
    (unitsOf .postgres expr.tokens).splitOn (.bare ' ') =
      expr.words.map (Token.units .postgres) := by
  induction combined with
  | column name =>
      simpa [unitsOf, Expr.words, Expr.tokens] using split_word (identifier_is_word name)
  | parameter index =>
      simpa [unitsOf, Expr.words, Expr.tokens] using split_word (parameter_is_word index)
  | @binary operator left right _ _ first second =>
      have units : unitsOf .postgres (Expr.binary operator left right).tokens =
          unitsOf .postgres left.tokens ++ .bare ' ' ::
            (operator.token.units .postgres ++ .bare ' ' :: unitsOf .postgres right.tokens) := by
        simp [Expr.tokens, unitsOf, Token.units, Token.render]
      rw [units, split_at_blank, split_at_blank, first, second,
        split_word (operator_is_word operator)]
      simp [Expr.words]

theorem words_of_units (tokens : List Token) (words : ∀ token ∈ tokens, IsWord token) :
    (tokens.map (Token.units .postgres)).mapM wordToken? = some tokens := by
  induction tokens with
  | nil => rfl
  | cons token tokens ih =>
      obtain ⟨first, others⟩ := List.forall_mem_cons.mp words
      simp [List.mapM_cons, first.2, ih others]

theorem words_of_text (combined : expr.Combined) :
    words? (render .postgres expr.tokens) = some expr.words := by
  have readable : ∀ token ∈ expr.tokens, token.Readable .postgres := fun token member =>
    emitted_readable .postgres (combined_tokens_emitted combined token member)
  unfold words?
  rw [lexemes_render .postgres expr.tokens readable (expr_tokens_apart expr)]
  change ((unitsOf .postgres expr.tokens).splitOn (.bare ' ')).mapM wordToken? = _
  rw [split_units combined, words_of_units _ (combined_words combined)]

/-! ## Operands and steps -/

def Expr.first : Expr → Expr
  | .binary _ left _ => left.first
  | operand => operand

def Expr.later : Expr → List (BinaryOperator × Expr)
  | .binary operator left right => left.later ++ (operator, right.first) :: right.later
  | _ => []

theorem steps_append {before after : List Token} {steps : List (BinaryOperator × Expr)}
    (read : steps? before = some steps) :
    steps? (before ++ after) = (steps? after).map (steps ++ ·) := by
  fun_induction steps? before generalizing steps with
  | case1 =>
      obtain rfl := Option.some.inj read
      simp
  | case2 => cases read
  | case3 word next rest ih =>
      obtain ⟨operator, isOperator, read⟩ := Option.bind_eq_some_iff.mp read
      obtain ⟨operand, isOperand, read⟩ := Option.bind_eq_some_iff.mp read
      obtain ⟨others, readOthers, read⟩ := Option.bind_eq_some_iff.mp read
      obtain rfl := Option.some.inj read
      have onward := ih readOthers
      simp only [List.cons_append, steps?, isOperator, isOperand, onward, Option.bind_eq_bind,
        Option.bind_some]
      cases steps? after <;> rfl

theorem operator_of_token (operator : BinaryOperator) :
    operator? operator.token = some operator := by
  cases operator <;> rfl

theorem chain_of_words (combined : expr.Combined) :
    ∃ word rest, expr.words = word :: rest ∧ operand? word = some expr.first ∧
      steps? rest = some expr.later := by
  induction combined with
  | column name => exact ⟨.identifier name, [], by simp [Expr.words, Expr.tokens], rfl, rfl⟩
  | parameter index => exact ⟨.parameter index, [], by simp [Expr.words, Expr.tokens], rfl, rfl⟩
  | binary operator _ _ first second =>
      obtain ⟨word, rest, words, operand, steps⟩ := first
      obtain ⟨next, others, nextWords, nextOperand, nextSteps⟩ := second
      refine ⟨word, rest ++ operator.token :: next :: others, ?_, operand, ?_⟩
      · rw [Expr.words, words, nextWords, List.cons_append]
      · rw [steps_append steps, steps?, operator_of_token, nextOperand, nextSteps]
        rfl

theorem combined_operands (combined : expr.Combined) :
    expr.first.IsOperand ∧ ∀ step ∈ expr.later, step.2.IsOperand := by
  induction combined with
  | column name => exact ⟨trivial, nofun⟩
  | parameter index => exact ⟨trivial, nofun⟩
  | binary operator _ _ first second =>
      refine ⟨first.1, ?_⟩
      simp only [Expr.later, List.forall_mem_append, List.forall_mem_cons]
      exact ⟨first.2, second.1, second.2⟩

theorem read_back_eq (combined : expr.Combined) :
    readBack? (render .postgres expr.tokens) = conjoin? (comparisons expr.first expr.later) := by
  obtain ⟨word, rest, words, operand, steps⟩ := chain_of_words combined
  unfold readBack?
  rw [words_of_text combined, words]
  simp only [Option.bind_eq_bind, Option.bind_some, operand, steps]

/-! ## Kinds of expressions -/

theorem operand_chain (single : expr.IsOperand) : expr.first = expr ∧ expr.later = [] := by
  cases expr with
  | column name => exact ⟨rfl, rfl⟩
  | parameter index => exact ⟨rfl, rfl⟩
  | _ => exact single.elim

theorem compares_binary_iff :
    (Expr.binary operator left right).Compares ↔
      operator ≠ .and ∧ left.Compares ∧ right.IsOperand := by
  constructor
  · intro compares
    cases compares with
    | operand single => exact single.elim
    | compare tight first single => exact ⟨tight, first, single⟩
  · rintro ⟨tight, first, single⟩
    exact .compare tight first single

theorem plain_and_iff : (Expr.binary .and left right).Plain ↔ left.Plain ∧ right.Plain := by
  constructor
  · intro plain
    cases plain with
    | comparison compares => exact absurd rfl (compares_binary_iff.mp compares).1
    | conjunction first second => exact ⟨first, second⟩
  · rintro ⟨first, second⟩
    exact .conjunction first second

theorem plain_tight_iff (tight : operator ≠ .and) :
    (Expr.binary operator left right).Plain ↔ left.Compares ∧ right.IsOperand := by
  constructor
  · intro plain
    cases plain with
    | comparison compares => exact (compares_binary_iff.mp compares).2
    | conjunction first second => exact absurd rfl tight
  · rintro ⟨first, single⟩
    exact .comparison (.compare tight first single)

instance Expr.decideOperand : DecidablePred Expr.IsOperand
  | .column _ | .parameter _ => .isTrue trivial
  | .resultName _ | .binary .. | .call .. | .star => .isFalse id

instance Expr.decideCompares : DecidablePred Expr.Compares
  | .binary operator left right =>
      have : Decidable left.Compares := decideCompares left
      decidable_of_iff (operator ≠ .and ∧ left.Compares ∧ right.IsOperand)
        compares_binary_iff.symm
  | .column _ | .parameter _ => .isTrue (.operand trivial)
  | .resultName _ | .call .. | .star => .isFalse nofun

instance Expr.decidePlain : DecidablePred Expr.Plain
  | .binary operator left right =>
      have : Decidable left.Plain := decidePlain left
      have : Decidable right.Plain := decidePlain right
      if conjunction : operator = .and then
        decidable_of_iff (left.Plain ∧ right.Plain) (conjunction ▸ plain_and_iff.symm)
      else
        decidable_of_iff (left.Compares ∧ right.IsOperand) (plain_tight_iff conjunction).symm
  | .column _ | .parameter _ => .isTrue (.comparison (.operand trivial))
  | .resultName _ | .call .. | .star => .isFalse nofun

theorem operand_combined (single : expr.IsOperand) : expr.Combined := by
  cases expr with
  | column name => exact .column name
  | parameter index => exact .parameter index
  | _ => exact single.elim

theorem compares_combined (compares : expr.Compares) : expr.Combined := by
  induction compares with
  | operand single => exact operand_combined single
  | compare _ _ single first => exact .binary _ first (operand_combined single)

theorem plain_combined (plain : expr.Plain) : expr.Combined := by
  induction plain with
  | comparison compares => exact compares_combined compares
  | conjunction _ _ first second => exact .binary .and first second

/-- Another nesting of conjunctions makes no expression of another kind. -/
theorem reassociated_kinds {other : Expr} (same : Reassociated expr other) :
    (expr.IsOperand ↔ other.IsOperand) ∧ (expr.Compares ↔ other.Compares) ∧
      (expr.Plain ↔ other.Plain) := by
  induction same with
  | refl => exact ⟨.rfl, .rfl, .rfl⟩
  | symm _ ih => exact ⟨ih.1.symm, ih.2.1.symm, ih.2.2.symm⟩
  | trans _ _ ih ih' => exact ⟨ih.1.trans ih'.1, ih.2.1.trans ih'.2.1, ih.2.2.trans ih'.2.2⟩
  | turn first second third =>
      refine ⟨.rfl, ?_, ?_⟩
      · simp [compares_binary_iff]
      · simp only [plain_and_iff, and_assoc]
  | binary operator _ _ first second =>
      refine ⟨.rfl, ?_, ?_⟩
      · simp only [compares_binary_iff, first.2.1, second.1]
      · by_cases conjunction : operator = .and
        · subst conjunction
          simp only [plain_and_iff, first.2.2, second.2.2]
        · simp only [plain_tight_iff conjunction, first.2.1, second.1]

theorem reassociated_tokens {other : Expr} (same : Reassociated expr other) :
    expr.tokens = other.tokens := by
  induction same with
  | refl => rfl
  | symm _ ih => exact ih.symm
  | trans _ _ ih ih' => exact ih.trans ih'
  | turn first second third => simp [Expr.tokens]
  | binary operator _ _ first second => simp only [Expr.tokens, first, second]

/-! ## Grouping -/

variable {current : Expr} {steps : List (BinaryOperator × Expr)}

theorem comparisons_and (current operand : Expr) (before after : List (BinaryOperator × Expr)) :
    comparisons current (before ++ (.and, operand) :: after) =
      comparisons current before ++ comparisons operand after := by
  fun_induction comparisons current before with
  | case1 => rfl
  | case2 current operand rest ih => rw [List.cons_append, comparisons, ih, List.cons_append]
  | case3 current operator operand rest tight ih =>
      rw [List.cons_append, comparisons, ih]
      exact tight

/-- A comparison that has been written is read again before the reader goes on. -/
theorem comparisons_resume (compares : expr.Compares) (steps : List (BinaryOperator × Expr)) :
    comparisons expr.first (expr.later ++ steps) = comparisons expr steps := by
  induction compares generalizing steps with
  | operand single =>
      obtain ⟨first, later⟩ := operand_chain single
      rw [first, later, List.nil_append]
  | @compare operator left right tight _ single ih =>
      obtain ⟨first, later⟩ := operand_chain single
      rw [Expr.first, Expr.later, first, later, List.append_assoc, ih, List.singleton_append,
        comparisons]
      exact tight

theorem conjoined_turn (start first : Expr) (others : List Expr) :
    Reassociated (others.foldl (.binary .and) (.binary .and start first))
      (.binary .and start (others.foldl (.binary .and) first)) := by
  induction others using List.reverseRecOn with
  | nil => exact .refl _
  | append_singleton others last ih =>
      simp only [List.foldl_append, List.foldl_cons, List.foldl_nil]
      exact .trans (.binary .and ih (.refl last)) (.turn _ _ _)

theorem conjoin_append {parts others : List Expr} (joined : conjoin? parts = some left)
    (joinedOthers : conjoin? others = some right) :
    ∃ back, conjoin? (parts ++ others) = some back ∧
      Reassociated back (.binary .and left right) := by
  cases parts with
  | nil => cases joined
  | cons part parts =>
      cases others with
      | nil => cases joinedOthers
      | cons other others =>
          obtain rfl := Option.some.inj joined
          obtain rfl := Option.some.inj joinedOthers
          refine ⟨_, rfl, ?_⟩
          change Reassociated ((parts ++ other :: others).foldl (.binary .and) part) _
          rw [List.foldl_append, List.foldl_cons]
          exact conjoined_turn _ other others

theorem plain_regrouped (plain : expr.Plain) :
    ∃ back, conjoin? (comparisons expr.first expr.later) = some back ∧
      Reassociated back expr := by
  induction plain with
  | @comparison expr compares =>
      refine ⟨expr, ?_, .refl expr⟩
      rw [← List.append_nil expr.later, comparisons_resume compares]
      rfl
  | conjunction _ _ first second =>
      obtain ⟨back, joined, same⟩ := first
      obtain ⟨next, joinedNext, sameNext⟩ := second
      obtain ⟨whole, read, regrouped⟩ := conjoin_append joined joinedNext
      refine ⟨whole, ?_, regrouped.trans (.binary .and same sameNext)⟩
      rw [Expr.first, Expr.later, comparisons_and]
      exact read

theorem comparisons_compare (compares : current.Compares)
    (operands : ∀ step ∈ steps, step.2.IsOperand) :
    ∀ part ∈ comparisons current steps, part.Compares := by
  fun_induction comparisons current steps with
  | case1 current => simpa using compares
  | case2 current operand rest ih =>
      obtain ⟨single, others⟩ := List.forall_mem_cons.mp operands
      exact List.forall_mem_cons.mpr ⟨compares, ih (.operand single) others⟩
  | case3 current operator operand rest tight ih =>
      obtain ⟨single, others⟩ := List.forall_mem_cons.mp operands
      exact ih (.compare tight compares single) others

theorem comparisons_nonempty (current : Expr) (steps : List (BinaryOperator × Expr)) :
    comparisons current steps ≠ [] := by
  fun_induction comparisons current steps with
  | case1 => nofun
  | case2 => nofun
  | case3 current operator operand rest tight ih => exact ih

theorem conjoined_plain {parts : List Expr} (nonempty : parts ≠ [])
    (compare : ∀ part ∈ parts, part.Compares) :
    ∃ back, conjoin? parts = some back ∧ back.Plain := by
  obtain ⟨first, others, rfl⟩ := List.exists_cons_of_ne_nil nonempty
  obtain ⟨firstCompares, othersCompare⟩ := List.forall_mem_cons.mp compare
  refine ⟨_, rfl, ?_⟩
  exact List.foldlRecOn others _ (.comparison firstCompares) fun _ plain part member =>
    .conjunction plain (.comparison (othersCompare part member))

/-- Whatever has been written, something plain is read. -/
theorem read_back_plain (combined : expr.Combined) :
    ∃ back, readBack? (render .postgres expr.tokens) = some back ∧ back.Plain := by
  obtain ⟨single, operands⟩ := combined_operands combined
  rw [read_back_eq combined]
  exact conjoined_plain (comparisons_nonempty _ _) (comparisons_compare (.operand single) operands)

theorem plain_read_back (plain : expr.Plain) :
    ∃ back, readBack? (render .postgres expr.tokens) = some back ∧ Reassociated back expr := by
  rw [read_back_eq (plain_combined plain)]
  exact plain_regrouped plain

/-- Reading a condition back never fails. It gives the condition again, up to the nesting of
conjunctions, just if the condition is plain, and no two plain conditions that differ otherwise
have the same text. -/
theorem read_back_iff_plain (combined : expr.Combined) :
    (∃ back, readBack? (render .postgres expr.tokens) = some back ∧ back.Plain ∧
      (Reassociated back expr ↔ expr.Plain)) ∧
    ∀ other : Expr, expr.Plain → other.Plain →
      (render .postgres expr.tokens = render .postgres other.tokens ↔
        Reassociated expr other) := by
  constructor
  · obtain ⟨back, read, backPlain⟩ := read_back_plain combined
    refine ⟨back, read, backPlain, fun same => (reassociated_kinds same).2.2.mp backPlain, ?_⟩
    intro plain
    obtain ⟨again, readAgain, same⟩ := plain_read_back plain
    obtain rfl := Option.some.inj (read.symm.trans readAgain)
    exact same
  · intro other plain otherPlain
    obtain ⟨back, read, same⟩ := plain_read_back plain
    obtain ⟨otherBack, otherRead, otherSame⟩ := plain_read_back otherPlain
    constructor
    · intro sameText
      rw [sameText, otherRead] at read
      obtain rfl := Option.some.inj read
      exact same.symm.trans otherSame
    · intro regrouped
      rw [reassociated_tokens regrouped]

end

/-- Conjunctions nested to the right, of columns with quotes and blanks in their names. -/
def nestedCondition : Expr :=
  .binary .and (.binary .equal (.column "a\" AND \"b") (.parameter 1))
    (.binary .and (.binary .like (.column "release notes") (.parameter 2))
      (.binary .less (.column "$3") (.column "")))

def flatCondition : Expr :=
  .binary .and
    (.binary .and (.binary .equal (.column "a\" AND \"b") (.parameter 1))
      (.binary .like (.column "release notes") (.parameter 2)))
    (.binary .less (.column "$3") (.column ""))

theorem nested_condition_read_back :
    nestedCondition.Combined ∧ nestedCondition.Plain ∧ flatCondition.Plain ∧
    (∃ back, readBack? (render .postgres nestedCondition.tokens) = some back ∧
      Reassociated back nestedCondition) ∧
    render .postgres nestedCondition.tokens = render .postgres flatCondition.tokens := by
  have plain : nestedCondition.Plain := by decide
  have flatPlain : flatCondition.Plain := by decide
  have combined := plain_combined plain
  obtain ⟨⟨back, read, -, same⟩, sameText⟩ := read_back_iff_plain combined
  refine ⟨combined, plain, flatPlain, ⟨back, read, same.mpr plain⟩, ?_⟩
  exact (sameText flatCondition plain flatPlain).mpr (.symm (.turn _ _ _))

def comparedConjunction : Expr :=
  .binary .equal (.column "a") (.binary .and (.column "b") (.column "c"))

def conjoinedComparison : Expr :=
  .binary .and (.binary .equal (.column "a") (.column "b")) (.column "c")

theorem compared_conjunction_misread :
    comparedConjunction.Combined ∧ conjoinedComparison.Combined ∧
    render .postgres comparedConjunction.tokens = render .postgres conjoinedComparison.tokens ∧
    readBack? (render .postgres comparedConjunction.tokens) = some conjoinedComparison ∧
    ¬ Reassociated conjoinedComparison comparedConjunction := by
  have plain : conjoinedComparison.Plain := by decide
  have combined : comparedConjunction.Combined :=
    .binary .equal (.column "a") (.binary .and (.column "b") (.column "c"))
  refine ⟨combined, plain_combined plain, rfl, ?_, ?_⟩
  · rw [read_back_eq combined]
    rfl
  · intro same
    exact absurd ((reassociated_kinds same).2.2.mp plain) (by decide)

end TableTalk.Sql
