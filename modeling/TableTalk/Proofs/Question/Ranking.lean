import Mathlib.Data.Nat.Digits.Defs
import TableTalk.Proofs.Question.Rules
import TableTalk.Proofs.Text.Lowered

/-!
# The number that decides a ranking

The first "top" with a positive number behind it decides whether a question asks for a ranking,
and which. A "top" without one is passed over; the one that decides is not, whatever else speaks
against a ranking.
-/

namespace TableTalk

open TableTalk.Catalog
open TableTalk.Language
open TableTalk.Text

set_option autoImplicit false

/-! ## Numbers in texts -/

/-- The number that decimal digits stand for, the first being the most significant. -/
def digitsValue (digits : List Char) : Nat :=
  Nat.ofDigits 10 (digits.reverse.map fun c => c.toNat - '0'.toNat)

/-- A text of at least one digit, with or without a plus sign before it, and its number. -/
inductive SpellsNumber : List Char → Nat → Prop where
  | plain {digits : List Char} (nonempty : digits ≠ []) (decimal : ∀ c ∈ digits, c.isDigit) :
      SpellsNumber digits (digitsValue digits)
  | signed {digits : List Char} (nonempty : digits ≠ []) (decimal : ∀ c ∈ digits, c.isDigit) :
      SpellsNumber ('+' :: digits) (digitsValue digits)

theorem decimal_number_eq (digits : List Char) : decimalNumber digits = digitsValue digits := by
  induction digits using List.reverseRecOn with
  | nil => rfl
  | append_singleton digits c ih =>
      have step : decimalNumber (digits ++ [c]) =
          10 * decimalNumber digits + (c.toNat - '0'.toNat) := by
        simp only [decimalNumber, List.foldl_append, List.foldl_cons, List.foldl_nil]
      rw [step, ih, digitsValue, digitsValue, List.reverse_append, List.reverse_singleton,
        List.singleton_append, List.map_cons, Nat.ofDigits_cons, Nat.add_comm]

def afterSign : List Char → List Char
  | '+' :: rest => rest
  | text => text

theorem after_sign_plain {text : List Char} (plain : ∀ rest, text ≠ '+' :: rest) :
    afterSign text = text := by
  unfold afterSign
  split
  · exact absurd rfl (plain _)
  · rfl

theorem digits_plain {digits : List Char} (decimal : ∀ c ∈ digits, c.isDigit) (rest : List Char) :
    digits ≠ '+' :: rest := by
  rintro rfl
  exact absurd (decimal '+' List.mem_cons_self) (by decide)

theorem spells_number_iff {text : List Char} {value : Nat} :
    SpellsNumber text value ↔
      (afterSign text ≠ [] ∧ ∀ c ∈ afterSign text, c.isDigit) ∧
        value = digitsValue (afterSign text) := by
  constructor
  · intro spelled
    cases spelled with
    | plain nonempty decimal =>
        rw [after_sign_plain (digits_plain decimal)]
        exact ⟨⟨nonempty, decimal⟩, rfl⟩
    | signed nonempty decimal => exact ⟨⟨nonempty, decimal⟩, rfl⟩
  · rintro ⟨⟨nonempty, decimal⟩, rfl⟩
    by_cases signed : ∃ rest, text = '+' :: rest
    · obtain ⟨rest, rfl⟩ := signed
      exact .signed nonempty decimal
    · rw [after_sign_plain (not_exists.mp signed)] at nonempty decimal ⊢
      exact .plain nonempty decimal

theorem spelled_characters {text : List Char} {value : Nat} (spelled : SpellsNumber text value) :
    ∀ c ∈ text, c = '+' ∨ c.isDigit := by
  cases spelled with
  | plain nonempty decimal => exact fun c member => .inr (decimal c member)
  | signed nonempty decimal =>
      exact List.forall_mem_cons.mpr ⟨.inl rfl, fun c member => .inr (decimal c member)⟩

theorem fits_unsigned_iff (value : Nat) (n : UInt64) :
    (fitsUnsigned value ∧ UInt64.ofNat value = n) ↔ value = n.toNat := by
  have bound := n.toNat_lt
  constructor
  · rintro ⟨fits, rfl⟩
    have small : value < 2 ^ 64 := by
      simp only [fitsUnsigned, Bool.and_eq_true, decide_eq_true_eq] at fits
      omega
    exact (UInt64.toNat_ofNat_of_lt small).symm
  · rintro rfl
    refine ⟨?_, UInt64.ofNat_toNat⟩
    simp only [fitsUnsigned, Bool.and_eq_true, decide_eq_true_eq]
    omega

namespace Question

theorem whole_number_eq_some_iff {text : List Char} {n : UInt64} :
    wholeNumber? text = some n ↔ SpellsNumber text n.toNat := by
  have unfolded : wholeNumber? text =
      if (afterSign text).isEmpty || !(afterSign text).all Char.isDigit then none
      else if fitsUnsigned (decimalNumber (afterSign text)) then
        some (UInt64.ofNat (decimalNumber (afterSign text)))
      else none := by
    unfold wholeNumber?
    split
    · rfl
    · rename_i plain
      rw [after_sign_plain plain]
  have readable : ¬((afterSign text).isEmpty || !(afterSign text).all Char.isDigit) ↔
      afterSign text ≠ [] ∧ ∀ c ∈ afterSign text, c.isDigit := by simp
  rw [unfolded, spells_number_iff, ← readable, decimal_number_eq, eq_comm (a := n.toNat),
    ← fits_unsigned_iff]
  split
  · rename_i unreadable
    exact iff_of_false nofun (fun spelled => spelled.1 unreadable)
  · rename_i digits
    split
    · rename_i fits
      simp [digits, fits]
    · rename_i wide
      simp [wide]

/-! ## Numbers among tokens -/

/-- A numeral that spells, without its commas, a positive number of 64 bits. -/
structure IsPositiveNumber (token : Token) (n : UInt64) : Prop where
  numeral : token.likeNumber
  spelled : SpellsNumber (token.text.toList.filter (· ≠ ',')) n.toNat
  positive : 0 < n.toNat

/-- The token at this place is "top", and a positive number follows it. -/
structure TopNumberAt (tokens : List Token) (index : Nat) (n : UInt64) : Prop where
  top : ∃ token, tokens[index]? = some token ∧ token.base = "top"
  number : ∃ token, tokens[index + 1]? = some token ∧ IsPositiveNumber token n

structure FirstTopNumber (tokens : List Token) (index : Nat) (n : UInt64) : Prop where
  here : TopNumberAt tokens index n
  first : ∀ earlier < index, ∀ other, ¬TopNumberAt tokens earlier other

/-- What may follow a "top" that is passed over. -/
inductive UnfitNumber : Option Token → Prop where
  | missing : UnfitNumber none
  | otherWord {token : Token} (plain : ¬token.likeNumber) : UnfitNumber (some token)
  | numberWord {token : Token} (listed : Text.lower token.text ∈ numberWords) :
      UnfitNumber (some token)
  | decimal {token : Token} (pointed : '.' ∈ token.text.toList) : UnfitNumber (some token)
  | outOfRange {token : Token} {value : Nat}
      (spelled : SpellsNumber (token.text.toList.filter (· ≠ ',')) value)
      (outside : value = 0 ∨ 2 ^ 64 ≤ value) : UnfitNumber (some token)

theorem positive_number_eq_some_iff {token : Token} {n : UInt64} :
    positiveNumber? token = some n ↔ IsPositiveNumber token n := by
  have nonzero : n ≠ 0 ↔ 0 < n.toNat := by
    rw [Nat.pos_iff_ne_zero, ne_eq, ne_eq, ← UInt64.toNat_inj]
    rfl
  unfold positiveNumber?
  simp only [Option.bind_eq_bind, Option.bind_eq_some_iff, Option.guard_eq_some',
    Option.pure_def, Option.some.injEq, whole_number_eq_some_iff]
  constructor
  · rintro ⟨_, numeral, number, spelled, _, positive, rfl⟩
    exact ⟨numeral, spelled, nonzero.mp positive⟩
  · rintro ⟨numeral, spelled, positive⟩
    exact ⟨(), numeral, n, spelled, (), nonzero.mpr positive, rfl⟩

theorem decimal_digits_lowered : ∀ index ∈ List.range 10, IsLowered (Char.ofNat (48 + index)) := by
  decide +kernel

theorem digit_lowered {c : Char} (digit : c.isDigit) : IsLowered c := by
  have range : 48 ≤ c.toNat ∧ c.toNat ≤ 57 := by
    simpa [Char.isDigit, UInt32.le_iff_toNat_le] using digit
  have listed : c.toNat - 48 ∈ List.range 10 := by
    apply List.mem_range.mpr
    omega
  have lowered := decimal_digits_lowered (c.toNat - 48) listed
  have point : 48 + (c.toNat - 48) = c.toNat := by omega
  rwa [point, Char.ofNat_toNat] at lowered

theorem number_words_lettered :
    ∀ word ∈ numberWords, word.toList.any fun c => !(c == ',' || c == '+' || c.isDigit) := by
  decide +kernel

theorem positive_number_characters {token : Token} {n : UInt64}
    (number : IsPositiveNumber token n) :
    ∀ c ∈ token.text.toList, c = ',' ∨ c = '+' ∨ c.isDigit := by
  intro c member
  by_cases comma : c = ','
  · exact .inl comma
  · have kept : c ∈ token.text.toList.filter (· ≠ ',') :=
      List.mem_filter.mpr ⟨member, by simpa using comma⟩
    exact .inr (spelled_characters number.spelled c kept)

theorem lower_numeral {text : String}
    (characters : ∀ c ∈ text.toList, c = ',' ∨ c = '+' ∨ c.isDigit) :
    Text.lower text = text := by
  have lowered : ∀ c ∈ text.toList, IsLowered c := by
    intro c member
    rcases characters c member with rfl | rfl | digit
    · decide +kernel
    · decide +kernel
    · exact digit_lowered digit
  rw [Text.lower, lowerChars, lower_after_of_lowered [] _ lowered, String.ofList_toList]

theorem unfit_number_other {next : Option Token} (unfit : UnfitNumber next) {token : Token}
    {n : UInt64} (present : next = some token) : ¬IsPositiveNumber token n := by
  intro number
  have characters := positive_number_characters number
  cases unfit with
  | missing => cases present
  | otherWord plain =>
      cases present
      exact plain number.numeral
  | numberWord listed =>
      cases present
      rw [lower_numeral characters] at listed
      obtain ⟨c, member, lettered⟩ := List.any_eq_true.mp (number_words_lettered _ listed)
      exact absurd (characters c member) (by simpa [and_assoc] using lettered)
  | decimal pointed =>
      cases present
      exact absurd (characters '.' pointed) (by decide)
  | outOfRange spelled outside =>
      cases present
      have values := (spells_number_iff.mp spelled).2
      have bound := n.toNat_lt
      rw [← (spells_number_iff.mp number.spelled).2] at values
      have positive := number.positive
      omega

/-! ## Scanning for the first number -/

section

variable {token : Token} {tokens rest after : List Token} {index : Nat} {n : UInt64}

theorem top_number_at_succ :
    TopNumberAt (token :: rest) (index + 1) n ↔ TopNumberAt rest index n :=
  ⟨fun number => ⟨number.top, number.number⟩, fun number => ⟨number.top, number.number⟩⟩

theorem top_number_hit (number : TopNumberAt tokens 0 n) :
    topNumber? tokens = some (n, tokens.drop 2) := by
  obtain ⟨top, first, named⟩ := number.top
  obtain ⟨next, second, positive⟩ := number.number
  match tokens, first, second with
  | _ :: _ :: after, rfl, rfl =>
      rw [topNumber?, positive_number_eq_some_iff.mpr positive, named]
      rfl

theorem top_number_skip (other : ∀ n, ¬TopNumberAt (token :: rest) 0 n) :
    topNumber? (token :: rest) = topNumber? rest := by
  cases rest with
  | nil => rw [topNumber?, topNumber?]
  | cons next after =>
      rw [topNumber?]
      split
      · rename_i n top number
        have positive := positive_number_eq_some_iff.mp number
        exact absurd ⟨⟨token, rfl, beq_iff_eq.mp top⟩, next, rfl, positive⟩ (other n)
      · rfl

/-- One step of the scan: the number at the front is taken, or else the first one behind it. -/
theorem first_top_number_succ (other : ∀ n, ¬TopNumberAt (token :: rest) 0 n) :
    FirstTopNumber (token :: rest) (index + 1) n ↔ FirstTopNumber rest index n := by
  constructor
  · intro number
    refine ⟨top_number_at_succ.mp number.here, ?_⟩
    intro earlier before m here
    exact number.first (earlier + 1) (Nat.succ_lt_succ before) m (top_number_at_succ.mpr here)
  · intro number
    refine ⟨top_number_at_succ.mpr number.here, ?_⟩
    intro earlier before m here
    cases earlier with
    | zero => exact other m here
    | succ earlier =>
        exact number.first earlier (Nat.lt_of_succ_lt_succ before) m (top_number_at_succ.mp here)

theorem top_number_eq_some_iff :
    topNumber? tokens = some (n, after) ↔
      ∃ index, FirstTopNumber tokens index n ∧ after = tokens.drop (index + 2) := by
  induction tokens with
  | nil =>
      refine iff_of_false nofun ?_
      rintro ⟨index, number, _⟩
      obtain ⟨_, absent, _⟩ := number.here.top
      cases absent
  | cons token rest ih =>
      -- Either the front holds a number and decides, or all indices move on by one.
      by_cases hit : ∃ m, TopNumberAt (token :: rest) 0 m
      · obtain ⟨m, number⟩ := hit
        rw [top_number_hit number]
        constructor
        · intro same
          obtain ⟨rfl, rfl⟩ := Prod.mk.inj (Option.some.inj same)
          exact ⟨0, ⟨number, nofun⟩, rfl⟩
        · rintro ⟨index, first, rfl⟩
          cases index with
          | zero =>
              rw [← top_number_hit number, top_number_hit first.here]
          | succ index => exact absurd number (first.first 0 (Nat.succ_pos index) m)
      · have other := not_exists.mp hit
        rw [top_number_skip other, ih]
        constructor
        · rintro ⟨index, number, same⟩
          exact ⟨index + 1, (first_top_number_succ other).mpr number, same⟩
        · rintro ⟨index, number, same⟩
          cases index with
          | zero => exact absurd number.here (other n)
          | succ index => exact ⟨index, (first_top_number_succ other).mp number, same⟩

theorem top_number_drop {count : Nat}
    (passed : ∀ earlier < count, ∀ n, ¬TopNumberAt tokens earlier n) :
    topNumber? tokens = topNumber? (tokens.drop count) := by
  induction count generalizing tokens with
  | zero => rfl
  | succ count ih =>
      cases tokens with
      | nil => rfl
      | cons token rest =>
          rw [top_number_skip (passed 0 (Nat.succ_pos count)), List.drop_succ_cons]
          apply ih
          intro earlier before n here
          exact passed (earlier + 1) (Nat.succ_lt_succ before) n (top_number_at_succ.mpr here)

end

/-! ## Rankings -/

/-- The word behind the number is an entity word, or one occurs in the text. -/
def RanksEntitiesAt (context : Context) (index : Nat) : Prop :=
  (∃ token, context.analysis.tokens[index + 2]? = some token ∧
    token.base ∈ context.options.entityWords) ∨
  ∃ word ∈ context.options.entityWords, Occurs word context.text

section

variable {context : Context} {index : Nat} {n : UInt64}

theorem ranks_entities_iff :
    ranksEntities context (context.analysis.tokens.drop (index + 2)) ↔
      RanksEntitiesAt context index := by
  unfold ranksEntities RanksEntitiesAt
  rw [Bool.or_eq_true, List.head?_drop, Option.any_eq_true, List.any_eq_true]
  simp only [List.contains_iff_mem, Context.mentions, mentions_iff]

theorem ranking_of_first (number : FirstTopNumber context.analysis.tokens index n) :
    ranking? context =
      if ranksEntities context (context.analysis.tokens.drop (index + 2)) &&
          context.table.hasColumn context.options.productColumn then
        some (n, context.options.productColumn)
      else none := by
  unfold ranking?
  rw [top_number_eq_some_iff.mpr ⟨index, number, rfl⟩]

theorem ranking_accepts_iff :
    (ranksEntities context (context.analysis.tokens.drop (index + 2)) &&
        context.table.hasColumn context.options.productColumn) = true ↔
      RanksEntitiesAt context index ∧
        context.options.productColumn ∈ context.table.columns.map Column.name := by
  rw [Bool.and_eq_true, ranks_entities_iff, has_column_iff]

theorem ranking_eq_some_iff {column : String} :
    ranking? context = some (n, column) ↔
      ∃ index, FirstTopNumber context.analysis.tokens index n ∧
        (RanksEntitiesAt context index ∧
          context.options.productColumn ∈ context.table.columns.map Column.name) ∧
        column = context.options.productColumn := by
  constructor
  · intro ranked
    cases found : topNumber? context.analysis.tokens with
    | none =>
        rw [ranking?, found] at ranked
        cases ranked
    | some hit =>
        obtain ⟨m, after⟩ := hit
        obtain ⟨index, number, _⟩ := top_number_eq_some_iff.mp found
        rw [ranking_of_first number] at ranked
        split at ranked
        · rename_i accepted
          obtain ⟨rfl, rfl⟩ := Prod.mk.inj (Option.some.inj ranked)
          exact ⟨index, number, ranking_accepts_iff.mp accepted, rfl⟩
        · cases ranked
  · rintro ⟨index, number, accepted, rfl⟩
    rw [ranking_of_first number, if_pos (ranking_accepts_iff.mpr accepted)]

end

/-- The first "top" with a positive number behind it decides alone: a ranking is by that number,
and there is none if that number does not rank entities or the table has no product column. A
"top" before something else is as good as absent. -/
theorem ranking_decided_by_first_number (context : Context) :
    let tokens := context.analysis.tokens
    let product := context.options.productColumn
    (∀ n column, ranking? context = some (n, column) ↔
      ∃ index, FirstTopNumber tokens index n ∧
        (RanksEntitiesAt context index ∧ product ∈ context.table.columns.map Column.name) ∧
        column = product) ∧
    (∀ index n, FirstTopNumber tokens index n →
      ¬(RanksEntitiesAt context index ∧ product ∈ context.table.columns.map Column.name) →
      ranking? context = none) ∧
    (∀ index, UnfitNumber tokens[index + 1]? → ∀ n, ¬TopNumberAt tokens index n) ∧
    ∀ count, (∀ index < count, ∀ token, tokens[index]? = some token → token.base = "top" →
        UnfitNumber tokens[index + 1]?) →
      ranking? context =
        ranking? { context with
          analysis := { context.analysis with tokens := tokens.drop count } } := by
  intro tokens product
  have unfit : ∀ index, UnfitNumber tokens[index + 1]? → ∀ n, ¬TopNumberAt tokens index n := by
    intro index other n number
    obtain ⟨token, present, positive⟩ := number.number
    exact unfit_number_other other present positive
  refine ⟨fun n column => ranking_eq_some_iff, ?_, unfit, ?_⟩
  · intro index n number refused
    rw [ranking_of_first number, if_neg (mt ranking_accepts_iff.mp refused)]
  · intro count passed
    have scanned : topNumber? tokens = topNumber? (tokens.drop count) := by
      apply top_number_drop
      intro index before n number
      obtain ⟨token, present, named⟩ := number.top
      exact unfit index (passed index before token present named) n number
    unfold ranking?
    rw [scanned]
    rfl

/-- A "top" before another word, a number word, a decimal and zero, and then one before a
number in groups. -/
def topsInARow : Context where
  text := "top top three top 2.5 top 0 top 1,000 services"
  analysis := {
    tokens := [
      ⟨"top", "top", false, 0, 3⟩, ⟨"top", "top", false, 4, 7⟩, ⟨"three", "three", true, 8, 13⟩,
      ⟨"top", "top", false, 14, 17⟩, ⟨"2.5", "2.5", true, 18, 21⟩, ⟨"top", "top", false, 22, 25⟩,
      ⟨"0", "0", true, 26, 27⟩, ⟨"top", "top", false, 28, 31⟩, ⟨"1,000", "1,000", true, 32, 37⟩,
      ⟨"services", "service", false, 38, 46⟩]
    entities := [] }
  table := { name := "update", columns := [⟨"product_name", .text, false, []⟩] }
  options := {}

theorem grouped_number_decides :
    tokenize topsInARow.text = topsInARow.analysis.tokens ∧
      UnfitNumber topsInARow.analysis.tokens[2]? ∧
      (∀ n, ¬TopNumberAt topsInARow.analysis.tokens 1 n) ∧
      FirstTopNumber topsInARow.analysis.tokens 7 1000 ∧
      ranking? topsInARow = some (1000, "product_name") ∧
      ranking? { topsInARow with table := { name := "update" } } = none ∧
      ranking? topsInARow = ranking? { topsInARow with
        analysis := { topsInARow.analysis with tokens := topsInARow.analysis.tokens.drop 7 } } := by
  obtain ⟨ranked, _, unfit, passes⟩ := ranking_decided_by_first_number topsInARow
  obtain ⟨_, refused, _⟩ :=
    ranking_decided_by_first_number { topsInARow with table := { name := "update" } }
  have zero : SpellsNumber ['0'] 0 :=
    .plain (List.cons_ne_nil _ _) (List.forall_mem_singleton.mpr rfl)
  have passed : ∀ index < 7, ∀ token, topsInARow.analysis.tokens[index]? = some token →
      token.base = "top" → UnfitNumber topsInARow.analysis.tokens[index + 1]? := by
    intro index before token present named
    match index, present with
    | 0, _ => exact .otherWord (by decide)
    | 1, _ => exact .numberWord (by decide +kernel)
    | 2, rfl => exact absurd named (by decide)
    | 3, _ => exact .decimal (by decide)
    | 4, rfl => exact absurd named (by decide)
    | 5, _ => exact .outOfRange zero (.inl rfl)
    | 6, rfl => exact absurd named (by decide)
  have number : FirstTopNumber topsInARow.analysis.tokens 7 1000 := by
    refine ⟨⟨⟨_, rfl, rfl⟩, _, rfl, positive_number_eq_some_iff.mp (by decide +kernel)⟩, ?_⟩
    intro earlier before n here
    obtain ⟨token, present, named⟩ := here.top
    exact unfit earlier (passed earlier before token present named) n here
  have entities : RanksEntitiesAt topsInARow 7 := .inl ⟨_, rfl, by decide⟩
  have second : UnfitNumber topsInARow.analysis.tokens[2]? := passed 1 (by decide) _ rfl rfl
  refine ⟨by decide +kernel, second, unfit 1 second, number, ?_, ?_, passes 7 passed⟩
  · exact (ranked 1000 "product_name").mpr ⟨7, number, ⟨entities, by decide⟩, rfl⟩
  · exact refused 7 1000 number (fun accepted => absurd accepted.2 (by decide))

end Question

end TableTalk
