import TableTalk.Proofs.Sql.Lexeme
import TableTalk.Proofs.Sql.Select

/-!
# Telling units apart

Names stand between quotes, so a list or a clause can be told from what follows it by
the first letter that comes next: a comma or a conjunction for a list that goes on, the
letter of its keyword for a clause.
-/

namespace TableTalk.Sql

set_option autoImplicit false

def unitsOf (dialect : Dialect) (tokens : List Token) : List Lexeme :=
  tokens.flatMap (Token.units dialect)

/-- The first character that is no blank, if it stands first or behind one blank. -/
def opening : List Lexeme → Option Char
  | .bare ' ' :: .bare c :: _ => some c
  | .bare c :: _ => some c
  | _ => none

section

variable {dialect : Dialect}

theorem units_of_append (left right : List Token) :
    unitsOf dialect (left ++ right) = unitsOf dialect left ++ unitsOf dialect right :=
  List.flatMap_append ..

theorem units_of_clause (keyword : Token) (operands : List Token) (rest : List Lexeme) :
    unitsOf dialect (clause keyword operands) ++ rest =
      .bare ' ' :: (keyword.units dialect ++ .bare ' ' :: (unitsOf dialect operands ++ rest)) := by
  simp [clause, unitsOf, Token.units, Token.render]

/-! ## Single parts -/

theorem bare_map_injective {left right : List Char}
    (same : left.map Lexeme.bare = right.map Lexeme.bare) : left = right :=
  List.map_injective_iff.mpr (fun _ _ => Lexeme.bare.inj) same

theorem quoted_injective {left right : String} {x y : List Lexeme}
    (same : Lexeme.quoted left.toList :: x = .quoted right.toList :: y) : left = right ∧ x = y := by
  obtain ⟨name, rest⟩ := List.cons.inj same
  exact ⟨String.toList_inj.mp (Lexeme.quoted.inj name), rest⟩

/-- Texts up to the first appearance of a mark can be told from what follows. -/
theorem until_mark_injective {mark : Lexeme} {left right x y : List Lexeme} (leftFree : mark ∉ left)
    (rightFree : mark ∉ right) (same : left ++ mark :: x = right ++ mark :: y) :
    left = right ∧ x = y := by
  induction left generalizing right with
  | nil =>
      cases right with
      | nil => exact ⟨rfl, (List.cons.inj same).2⟩
      | cons unit right =>
          obtain ⟨rfl, _⟩ := List.cons.inj same
          exact absurd (List.mem_cons_self ..) rightFree
  | cons unit left ih =>
      cases right with
      | nil =>
          obtain ⟨rfl, _⟩ := List.cons.inj same
          exact absurd (List.mem_cons_self ..) leftFree
      | cons other right =>
          obtain ⟨rfl, rest⟩ := List.cons.inj same
          have ⟨later, tails⟩ := ih (fun member => leftFree (List.mem_cons_of_mem _ member))
            (fun member => rightFree (List.mem_cons_of_mem _ member)) rest
          exact ⟨congrArg _ later, tails⟩

/-! ## Lists of parts -/

/-- Parts with a mark before each of them, numbered from `index` on. -/
def marked {Part : Type} (mark : List Token) (write : Nat → Part → List Token) (index : Nat)
    (parts : List Part) : List Token :=
  (parts.zipIdx index).flatMap fun entry => mark ++ write entry.2 entry.1

theorem marked_cons {Part : Type} (mark : List Token) (write : Nat → Part → List Token)
    (index : Nat) (part : Part) (parts : List Part) (rest : List Lexeme) :
    unitsOf dialect (marked mark write index (part :: parts)) ++ rest =
      unitsOf dialect mark ++ (unitsOf dialect (write index part) ++
        (unitsOf dialect (marked mark write (index + 1) parts) ++ rest)) := by
  simp [marked, unitsOf]

theorem marked_nil {Part : Type} (mark : List Token) (write : Nat → Part → List Token)
    (index : Nat) (rest : List Lexeme) :
    unitsOf dialect (marked mark write index ([] : List Part)) ++ rest = rest := rfl

/-- A list can be told from what follows it, if each of its parts can be told from
what may follow a part, and what follows the list does not look like a mark. -/
theorem marked_list_injective {Part Key : Type} {mark : List Token}
    (write : Nat → Part → List Token) (key : Part → Key) (ends : List Lexeme → Prop)
    {letter : Char} {x y : List Lexeme}
    (opens : ∀ rest, opening (unitsOf dialect mark ++ rest) = some letter)
    (markEnds : ∀ rest, ends (unitsOf dialect mark ++ rest))
    (decode : ∀ index first second (x y : List Lexeme), ends x → ends y →
      unitsOf dialect (write index first) ++ x = unitsOf dialect (write index second) ++ y →
      key first = key second ∧ x = y)
    (endX : ends x) (endY : ends y)
    (stopX : opening x ≠ some letter) (stopY : opening y ≠ some letter)
    {index : Nat} {first second : List Part}
    (same : unitsOf dialect (marked mark write index first) ++ x =
      unitsOf dialect (marked mark write index second) ++ y) :
    first.map key = second.map key ∧ x = y := by
  have ended : ∀ (parts : List Part) (index : Nat) (rest : List Lexeme), ends rest →
      ends (unitsOf dialect (marked mark write index parts) ++ rest) := by
    intro parts index rest endRest
    cases parts with
    | nil => exact endRest
    | cons part parts =>
        rw [marked_cons]
        exact markEnds _
  -- A mark or its absence tells whether the list goes on; `decode` tells its next parts apart.
  induction first generalizing second index with
  | nil =>
      cases second with
      | nil => exact ⟨rfl, same⟩
      | cons other second =>
          rw [marked_nil, marked_cons] at same
          exact absurd (same ▸ opens _) stopX
  | cons part first ih =>
      cases second with
      | nil =>
          rw [marked_nil, marked_cons] at same
          exact absurd (same ▸ opens _) stopY
      | cons other second =>
          rw [marked_cons, marked_cons, List.append_cancel_left_eq] at same
          obtain ⟨equal, later⟩ := decode index part other _ _ (ended first _ _ endX)
            (ended second _ _ endY) same
          obtain ⟨others, rest⟩ := ih later
          exact ⟨by rw [List.map_cons, List.map_cons, equal, others], rest⟩

theorem separated_eq_marked {Part : Type} (write : Part → List Token) (part : Part)
    (parts : List Part) :
    separated ((part :: parts).map write) =
      write part ++ marked [.comma, .space] (fun _ => write) 0 parts := by
  have shifted : ∀ (parts : List Part) (index : Nat),
      marked [.comma, .space] (fun _ => write) index parts =
        parts.flatMap fun part => .comma :: .space :: write part := by
    intro parts
    induction parts with
    | nil => exact fun _ => rfl
    | cons part parts ih =>
        intro index
        have rest := ih (index + 1)
        simp only [marked, List.zipIdx_cons, List.flatMap_cons] at rest ⊢
        rw [rest]
        rfl
  rw [shifted]
  induction parts generalizing part with
  | nil => simp [separated]
  | cons next parts ih =>
      simp only [List.map_cons] at ih
      simp [separated, ih]

/-! ## Clauses -/

def Word (dialect : Dialect) (token : Token) (letter : Char) : Prop :=
  ∃ letters, token.units dialect = .bare letter :: letters

theorem opening_of_clause {keyword : Token} {letter : Char} (word : Word dialect keyword letter)
    (operands : List Token) (rest : List Lexeme) :
    opening (unitsOf dialect (clause keyword operands) ++ rest) = some letter := by
  obtain ⟨letters, written⟩ := word
  rw [units_of_clause, written]
  rfl

/-- A clause that may be missing does not start with a letter that neither it nor
what follows it starts with. -/
theorem optional_clause_stop {keyword : Token} {letter stop : Char}
    (word : Word dialect keyword letter) (other : letter ≠ stop)
    {operands : Option (List Token)} {rest : List Lexeme} (later : opening rest ≠ some stop) :
    opening (unitsOf dialect (optionalClause keyword operands) ++ rest) ≠ some stop := by
  cases operands with
  | none => exact later
  | some tokens =>
      rw [optionalClause, Option.elim_some, opening_of_clause word]
      exact fun same => other (Option.some.inj same)

theorem optional_clause_cases {keyword : Token} {letter : Char}
    (word : Word dialect keyword letter) {first second : Option (List Token)} {x y : List Lexeme}
    (stopX : opening x ≠ some letter) (stopY : opening y ≠ some letter)
    (same : unitsOf dialect (optionalClause keyword first) ++ x =
      unitsOf dialect (optionalClause keyword second) ++ y) :
    (first = none ∧ second = none ∧ x = y) ∨
      ∃ left right, first = some left ∧ second = some right ∧
        unitsOf dialect left ++ x = unitsOf dialect right ++ y := by
  cases first with
  | none =>
      cases second with
      | none => exact .inl ⟨rfl, rfl, same⟩
      | some right =>
          have opened := opening_of_clause word right y
          exact absurd ((congrArg opening same).trans opened) stopX
  | some left =>
      cases second with
      | none =>
          have opened := opening_of_clause word left x
          exact absurd ((congrArg opening same).symm.trans opened) stopY
      | some right =>
          refine .inr ⟨left, right, rfl, rfl, ?_⟩
          simp only [optionalClause, Option.elim_some, units_of_clause, List.cons.injEq, true_and,
            List.append_cancel_left_eq] at same
          exact same

theorem mapped_clause_injective {Part Key : Type} {keyword : Token} {letter : Char}
    (word : Word dialect keyword letter) (key : Part → Key) {write other : Part → List Token}
    {first second : Option Part} {x y : List Lexeme}
    (stopX : opening x ≠ some letter) (stopY : opening y ≠ some letter)
    (decode : ∀ left ∈ first, ∀ right ∈ second,
      unitsOf dialect (write left) ++ x = unitsOf dialect (other right) ++ y →
      key left = key right ∧ x = y)
    (same : unitsOf dialect (optionalClause keyword (first.map write)) ++ x =
      unitsOf dialect (optionalClause keyword (second.map other)) ++ y) :
    first.map key = second.map key ∧ x = y := by
  rcases optional_clause_cases word stopX stopY same with
    ⟨none, otherNone, rest⟩ | ⟨_, _, some, otherSome, tokens⟩
  · rw [Option.map_eq_none_iff.mp none, Option.map_eq_none_iff.mp otherNone]
    exact ⟨rfl, rest⟩
  · obtain ⟨left, present, rfl⟩ := Option.map_eq_some_iff.mp some
    obtain ⟨right, otherPresent, rfl⟩ := Option.map_eq_some_iff.mp otherSome
    obtain ⟨keys, rest⟩ := decode left present right otherPresent tokens
    rw [present, otherPresent, Option.map_some, Option.map_some, keys]
    exact ⟨rfl, rest⟩

end

end TableTalk.Sql
