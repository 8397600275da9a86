import TableTalk.Database.Execution

/-!
# The order of cells

Doubles aside, cells have a linear order: they are ordered by their kind, and cells of one kind
by what they hold. Sorting by one such cell downwards is sorting by this order.
-/

namespace TableTalk.Database

set_option autoImplicit false

deriving instance DecidableEq for Cell

def Cell.isReal : Cell → Bool
  | .real _ => true
  | _ => false

/-! ## What cells are ordered by -/

def Cell.kind : Cell → Nat
  | .null => 0
  | .integer _ | .real _ => 1
  | .text _ => 2
  | .blob _ => 3

def Cell.number : Cell → Int
  | .integer n => n
  | _ => 0

def Cell.characters : Cell → String
  | .text s => s
  | _ => ""

def Cell.octets : Cell → List UInt8
  | .blob bytes => bytes
  | _ => []

/-- The order of cells without doubles. It is one on all cells, but does not tell doubles apart. -/
def Cell.compareExact : Cell → Cell → Ordering :=
  compareLex (compareOn Cell.kind) <|
    compareLex (compareOn Cell.number) <|
      compareLex (compareOn Cell.characters) (compareOn Cell.octets)

instance : Std.TransCmp Cell.compareExact := by
  unfold Cell.compareExact
  infer_instance

theorem compare_bytes_eq (first second : List UInt8) :
    compareBytes first second = compare first second := by
  induction first generalizing second with
  | nil => cases second <;> rfl
  | cons byte bytes ih =>
      cases second with
      | nil => rfl
      | cons other others =>
          have head : compare byte.toNat other.toNat = compare byte other := by
            simp [compare, compareOfLessAndEq, UInt8.lt_iff_toNat_lt, ← UInt8.toNat_inj]
          rw [compareBytes, List.compare_cons_cons, head, ih]

section

variable {first second : Cell}

theorem compare_eq_exact (firstExact : ¬first.isReal) (secondExact : ¬second.isReal) :
    first.compare second = first.compareExact second := by
  cases first with
  | real x => exact absurd rfl firstExact
  | _ =>
      cases second with
      | real x => exact absurd rfl secondExact
      -- Different kinds are told apart by computation.
      | _ =>
          first
          | rfl
          | simp [Cell.compare, Cell.compareExact, compareLex, compareOn, Cell.kind, Cell.number,
              Cell.characters, Cell.octets, compare_bytes_eq]

theorem eq_of_compare_exact (firstExact : ¬first.isReal) (secondExact : ¬second.isReal)
    (same : first.compareExact second = .eq) : first = second := by
  simp only [Cell.compareExact, compareLex, compareOn, Ordering.then_eq_eq,
    Std.LawfulEqOrd.compare_eq_iff_eq] at same
  obtain ⟨kind, number, characters, octets⟩ := same
  cases first with
  | real x => exact absurd rfl firstExact
  | _ =>
      cases second with
      | real x => exact absurd rfl secondExact
      | _ => simp_all [Cell.kind, Cell.number, Cell.characters, Cell.octets]

end

end TableTalk.Database
