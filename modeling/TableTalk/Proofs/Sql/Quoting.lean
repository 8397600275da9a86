import Mathlib.Logic.Function.Basic
import TableTalk.Sql.Dialect

/-!
# Reading quoted identifiers

A quoted identifier is read from its opening quote up to the first quote that is not doubled,
two quotes standing for one. The texts that can be read are exactly those that quoting writes.
So an identifier is not closed by its own content, and no two identifiers are written alike.
-/

namespace TableTalk.Sql

set_option autoImplicit false

/-- The name behind an opening quote, and the text behind its closing quote. There is none if
the name is left open. -/
def readName (quote : Char) : List Char → Option (List Char × List Char)
  | [] => none
  | c :: rest =>
      if c = quote then
        match rest with
        | [] => some ([], [])
        | d :: later =>
            if d = quote then
              (readName quote later).map fun (name, after) => (quote :: name, after)
            else some ([], d :: later)
      else (readName quote rest).map fun (name, after) => (c :: name, after)

def readIdentifier (quote : Char) : List Char → Option (List Char × List Char)
  | [] => none
  | c :: rest => if c = quote then readName quote rest else none

section

variable {quote : Char} {name other rest text : List Char}

/-! ## Names -/

theorem read_name_other {c : Char} (differs : c ≠ quote) :
    readName quote (c :: rest) =
      (readName quote rest).map fun (name, after) => (c :: name, after) := by
  rw [readName.eq_def]
  exact if_neg differs

theorem read_name_closed (ended : rest.head? ≠ some quote) :
    readName quote (quote :: rest) = some ([], rest) := by
  rw [readName.eq_def]
  cases rest with
  | nil => simp
  | cons d later =>
      have other : d ≠ quote := by simpa using ended
      simp [other]

/-- A name is read back from its doubled quotes, whatever the text behind them reads as. -/
theorem read_name_doubled (name text : List Char) :
    readName quote (doubled quote name ++ text) =
      (readName quote text).map fun (other, after) => (name ++ other, after) := by
  induction name with
  | nil => simp [doubled]
  | cons c name ih =>
      by_cases same : c = quote
      · subst same
        simp [doubled, readName, ih, Function.comp_def]
      · rw [doubled, if_neg same, List.cons_append, read_name_other same, ih]
        simp [Function.comp_def]

theorem doubled_of_read_name (read : readName quote text = some (name, rest)) :
    text = doubled quote name ++ quote :: rest ∧ rest.head? ≠ some quote := by
  fun_induction readName quote text generalizing name with
  | case1 => cases read
  | case2 =>
      cases read
      simp [doubled]
  | case3 later ih =>
      obtain ⟨⟨others, after⟩, continued, same⟩ := Option.map_eq_some_iff.mp read
      cases same
      obtain ⟨rfl, ended⟩ := ih continued
      exact ⟨by simp [doubled], ended⟩
  | case4 d later differs =>
      cases read
      simp [doubled, differs]
  | case5 c later differs ih =>
      obtain ⟨⟨others, after⟩, continued, same⟩ := Option.map_eq_some_iff.mp read
      cases same
      obtain ⟨rfl, ended⟩ := ih continued
      exact ⟨by simp [doubled, differs], ended⟩

/-! ## Identifiers -/

theorem read_identifier_quoted (name text : List Char) :
    readIdentifier quote (quoteChars quote name ++ text) =
      readName quote (doubled quote name ++ quote :: text) := by
  simp [quoteChars, readIdentifier]

theorem read_identifier_eq_some_iff :
    readIdentifier quote text = some (name, rest) ↔
      text = quoteChars quote name ++ rest ∧ rest.head? ≠ some quote := by
  constructor
  · intro read
    cases text with
    | nil => cases read
    | cons c behind =>
        rw [readIdentifier] at read
        split at read
        · rename_i opens
          obtain ⟨rfl, ended⟩ := doubled_of_read_name read
          exact ⟨by simp [quoteChars, opens], ended⟩
        · cases read
  · rintro ⟨rfl, ended⟩
    rw [read_identifier_quoted, read_name_doubled, read_name_closed ended]
    simp

theorem read_identifier_past (read : readIdentifier quote (quoteChars quote name ++ text) =
    some (other, rest)) : name <+: other ∧ rest <:+ text := by
  rw [read_identifier_quoted, read_name_doubled] at read
  obtain ⟨⟨more, after⟩, continued, same⟩ := Option.map_eq_some_iff.mp read
  cases same
  refine ⟨List.prefix_append name more, ?_⟩
  have closing : quote :: rest <:+ quote :: text :=
    ⟨doubled quote more, (doubled_of_read_name continued).1.symm⟩
  rcases List.suffix_cons_iff.mp closing with here | later
  · obtain ⟨_, rfl⟩ := List.cons.inj here
    exact List.suffix_refl rest
  · exact (List.suffix_cons quote rest).trans later

end

theorem quote_to_list (dialect : Dialect) (identifier : String) :
    (dialect.quote identifier).toList = quoteChars dialect.quoteChar identifier.toList :=
  String.toList_ofList

/-- A quoted identifier is read back, and nothing more, from any text that it starts and that
does not go on with a quote. Whatever follows it, it is not closed early; nothing else can be
read as an identifier; and no two identifiers are quoted alike. -/
theorem quoted_identifier_read_back (dialect : Dialect) :
    (∀ identifier continuation : String,
      continuation.toList.head? ≠ some dialect.quoteChar →
        readIdentifier dialect.quoteChar (dialect.quote identifier ++ continuation).toList =
          some (identifier.toList, continuation.toList)) ∧
    (∀ (identifier continuation : String) (name rest : List Char),
      readIdentifier dialect.quoteChar (dialect.quote identifier ++ continuation).toList =
          some (name, rest) →
        identifier.toList <+: name ∧ rest <:+ continuation.toList) ∧
    (∀ (text : String) (name rest : List Char),
      readIdentifier dialect.quoteChar text.toList = some (name, rest) →
        text = dialect.quote (String.ofList name) ++ String.ofList rest) ∧
    Function.Injective dialect.quote := by
  refine ⟨?_, ?_, ?_, ?_⟩
  · intro identifier continuation ended
    rw [String.toList_append, quote_to_list]
    exact read_identifier_eq_some_iff.mpr ⟨rfl, ended⟩
  · intro identifier continuation name rest read
    rw [String.toList_append, quote_to_list] at read
    exact read_identifier_past read
  · intro text name rest read
    have written := (read_identifier_eq_some_iff.mp read).1
    apply String.toList_inj.mp
    simp [quote_to_list, written]
  · intro first second same
    have read (identifier : String) : readIdentifier dialect.quoteChar
        (dialect.quote identifier).toList = some (identifier.toList, []) := by
      rw [quote_to_list]
      exact read_identifier_eq_some_iff.mpr ⟨by simp, by simp⟩
    have both := (read first).symm.trans (same ▸ read second)
    exact String.toList_inj.mp (Prod.mk.inj (Option.some.inj both)).1

/-- An identifier with quotes at both ends, and one whose continuation goes on with a quote. -/
theorem outer_quotes_read_back :
    (" AS \"n\"".toList.head? ≠ some Dialect.postgres.quoteChar ∧
      readIdentifier Dialect.postgres.quoteChar
          (Dialect.postgres.quote "\"\"a\"" ++ " AS \"n\"").toList =
        some ("\"\"a\"".toList, " AS \"n\"".toList)) ∧
    readIdentifier Dialect.postgres.quoteChar
        (Dialect.postgres.quote "a" ++ "\"b\" c").toList = some ("a\"b".toList, " c".toList) ∧
    ("a".toList <+: "a\"b".toList ∧ " c".toList <:+ "\"b\" c".toList) ∧
    Dialect.postgres.quote "a" ++ "\"b\" c" =
      Dialect.postgres.quote (String.ofList "a\"b".toList) ++ String.ofList " c".toList := by
  obtain ⟨readBack, notEarly, onlyQuoted, _⟩ := quoted_identifier_read_back .postgres
  have ended : " AS \"n\"".toList.head? ≠ some Dialect.postgres.quoteChar := by decide
  have read : readIdentifier Dialect.postgres.quoteChar
      (Dialect.postgres.quote "a" ++ "\"b\" c").toList =
        some ("a\"b".toList, " c".toList) := by decide +kernel
  exact ⟨⟨ended, readBack _ _ ended⟩, read, notEarly _ _ _ _ read, onlyQuoted _ _ _ read⟩

end TableTalk.Sql
