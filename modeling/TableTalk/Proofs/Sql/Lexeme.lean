import Mathlib.Data.List.Chain
import TableTalk.Sql.Token

/-!
# Reading statements

A statement is read from left to right, a quoted identifier being one unit. The
text of a sequence of tokens reads as the units of its tokens, one after the other,
if no two identifiers touch and no other token holds a quote.
-/

namespace TableTalk.Sql

set_option autoImplicit false

/-- A character outside quotes, or a whole quoted identifier without its quotes. -/
inductive Lexeme where
  | bare (c : Char)
  | quoted (name : List Char)
  deriving Repr, DecidableEq

/-- Where a reader stands. After a quote inside an identifier only the next
character tells whether the identifier has ended. -/
inductive Place where
  | outside
  | inside (name : List Char)
  | afterQuote (name : List Char)
  deriving Repr, DecidableEq

def lexemesFrom (quote : Char) : Place → List Char → Option (List Lexeme)
  | .outside, [] => some []
  | .inside _, [] => none
  | .afterQuote name, [] => some [.quoted name]
  | .outside, c :: rest =>
      if c = quote then lexemesFrom quote (.inside []) rest
      else (lexemesFrom quote .outside rest).map (.bare c :: ·)
  | .inside name, c :: rest =>
      if c = quote then lexemesFrom quote (.afterQuote name) rest
      else lexemesFrom quote (.inside (name ++ [c])) rest
  | .afterQuote name, c :: rest =>
      if c = quote then lexemesFrom quote (.inside (name ++ [c])) rest
      else (lexemesFrom quote .outside rest).map fun units => .quoted name :: .bare c :: units

def lexemes (quote : Char) (text : List Char) : Option (List Lexeme) :=
  lexemesFrom quote .outside text

theorem lexemes_inside_doubled (quote : Char) (before name rest : List Char) :
    lexemesFrom quote (.inside before) (doubled quote name ++ quote :: rest) =
      lexemesFrom quote (.afterQuote (before ++ name)) rest := by
  induction name generalizing before with
  | nil => simp [doubled, lexemesFrom]
  | cons c name ih =>
      by_cases same : c = quote
      · subst same
        simp only [doubled, if_true, List.cons_append, lexemesFrom]
        rw [ih, List.append_assoc, List.singleton_append]
      · simp only [doubled, if_neg same, List.cons_append, lexemesFrom]
        rw [ih, List.append_assoc, List.singleton_append]

theorem lexemes_after_quote (quote : Char) (name rest : List Char)
    (ended : rest.head? ≠ some quote) :
    lexemesFrom quote (.afterQuote name) rest =
      (lexemes quote rest).map (.quoted name :: ·) := by
  cases rest with
  | nil => rfl
  | cons c rest =>
      have other : c ≠ quote := by simpa using ended
      simp [lexemes, lexemesFrom, other, Function.comp_def]

/-- A quoted identifier is read as a whole, up to the first text that does not
continue it. -/
theorem lexemes_quoted_append (quote : Char) (name rest : List Char)
    (ended : rest.head? ≠ some quote) :
    lexemes quote (quoteChars quote name ++ rest) =
      (lexemes quote rest).map (.quoted name :: ·) := by
  have opened : lexemes quote (quoteChars quote name ++ rest) =
      lexemesFrom quote (.inside []) (doubled quote name ++ quote :: rest) := by
    simp [quoteChars, lexemes, lexemesFrom]
  rw [opened, lexemes_inside_doubled, List.nil_append, lexemes_after_quote quote name rest ended]

theorem lexemes_bare_append (quote : Char) (text rest : List Char) (bare : quote ∉ text) :
    lexemes quote (text ++ rest) = (lexemes quote rest).map (text.map .bare ++ ·) := by
  induction text with
  | nil => simp
  | cons c text ih =>
      have other : c ≠ quote := by
        rintro rfl
        exact bare (List.mem_cons_self ..)
      have later := ih fun member => bare (List.mem_cons_of_mem _ member)
      simp only [lexemes] at later ⊢
      simp only [List.cons_append, lexemesFrom, if_neg other, later, Option.map_map]
      rfl

/-! ## Tokens -/

def Token.units (dialect : Dialect) : Token → List Lexeme
  | identifier name => [.quoted name.toList]
  | token => (token.render dialect).toList.map .bare

def Token.isIdentifier : Token → Bool
  | identifier _ => true
  | _ => false

theorem eq_identifier {token : Token} (quoted : token.isIdentifier) :
    ∃ name, token = .identifier name := by
  cases token with
  | identifier name => exact ⟨name, rfl⟩
  | _ => cases quoted

theorem units_of_bare {dialect : Dialect} {token : Token} (bare : token.isIdentifier = false) :
    token.units dialect = (token.render dialect).toList.map .bare := by
  cases token with
  | identifier name => cases bare
  | _ => rfl

/-- The text of a token that is no identifier shows, and shows no quote. -/
def Token.Readable (dialect : Dialect) (token : Token) : Prop :=
  token.isIdentifier = false →
    (token.render dialect).toList ≠ [] ∧ dialect.quoteChar ∉ (token.render dialect).toList

/-- No two identifiers touch. -/
def Apart (tokens : List Token) : Prop :=
  tokens.IsChain fun first second => ¬(first.isIdentifier ∧ second.isIdentifier)

theorem render_to_list (dialect : Dialect) (tokens : List Token) :
    (render dialect tokens).toList = tokens.flatMap fun token => (token.render dialect).toList := by
  simp [render]

theorem render_head_after_identifier (dialect : Dialect) (tokens : List Token)
    (readable : ∀ token ∈ tokens, token.Readable dialect)
    (bare : ∀ token ∈ tokens.head?, token.isIdentifier = false) :
    (tokens.flatMap fun token => (token.render dialect).toList).head? ≠
      some dialect.quoteChar := by
  cases tokens with
  | nil => simp
  | cons token rest =>
      have ⟨shows, unquoted⟩ := readable token (by simp) (bare token (by simp))
      rw [List.flatMap_cons, List.head?_append_of_ne_nil _ shows]
      intro same
      exact unquoted (List.mem_of_mem_head? same)

theorem lexemes_render (dialect : Dialect) (tokens : List Token)
    (readable : ∀ token ∈ tokens, token.Readable dialect) (apart : Apart tokens) :
    lexemes dialect.quoteChar (render dialect tokens).toList =
      some (tokens.flatMap (Token.units dialect)) := by
  rw [render_to_list]
  induction tokens with
  | nil => rfl
  | cons token rest ih =>
      have later := ih (fun other member => readable other (List.mem_cons_of_mem _ member))
        (List.IsChain.tail apart)
      cases kind : token.isIdentifier with
      | false =>
          have unquoted := (readable token (by simp) kind).2
          rw [List.flatMap_cons, lexemes_bare_append _ _ _ unquoted, later, List.flatMap_cons,
            units_of_bare kind]
          rfl
      | true =>
          obtain ⟨name, rfl⟩ := eq_identifier kind
          have next : ∀ other ∈ rest.head?, other.isIdentifier = false := by
            intro other member
            have split := List.IsChain.rel_head? apart member
            simpa [Token.isIdentifier] using split
          have ended := render_head_after_identifier dialect rest
            (fun other member => readable other (List.mem_cons_of_mem _ member)) next
          have quoted : ((Token.identifier name).render dialect).toList =
              quoteChars dialect.quoteChar name.toList := by
            simp [Token.render, Dialect.quote]
          rw [List.flatMap_cons, quoted, lexemes_quoted_append _ _ _ ended, later]
          rfl

end TableTalk.Sql
