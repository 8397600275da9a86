import TableTalk.Document.Value

/-!
# Tables of a TOML document

The lines of a TOML document add to a tree of tables. A table may be opened once:
by its header, by dotted keys that pass through it, or as one more table of an
array. A table that so far is only on the way to others may still get a header.
-/

namespace TableTalk.Document.Toml

set_option autoImplicit false

/-- How a table came to be. -/
inductive Opening where
  /-- By a header of its own, or as the table of the document itself. -/
  | headed
  /-- On the way to the table of some header. -/
  | passed
  /-- On the way to the last part of a dotted key. -/
  | dotted
  deriving Repr, DecidableEq, Inhabited

inductive Node where
  | leaf (value : Value)
  | table (opening : Opening) (entries : List (String × Node))
  /-- An array of tables, the latest first. -/
  | tables (all : List (List (String × Node)))
  deriving Inhabited

abbrev Entries := List (String × Node)

def Entries.replace (entries : Entries) (key : String) (node : Node) : Entries :=
  entries.map fun entry => if entry.1 == key then (key, node) else entry

abbrev Change := Opening → Entries → Option Entries

/-- Changes the table at the end of a path. Missing tables on the way are
opened as `opening` says, and arrays stand for their latest table. A dotted key
does not pass through a table that has a header. -/
def changeAt (opening : Opening) (change : Change) : List String → Change
  | [], last, entries => change last entries
  | key :: path, _, entries =>
      match entries.lookup key with
      | none => do
          let below ← changeAt opening change path opening []
          return entries ++ [(key, .table opening below)]
      | some (.table present below) =>
          if opening = .dotted && present = .headed then none
          else do
            let below ← changeAt opening change path present below
            return entries.replace key (.table present below)
      | some (.tables (latest :: earlier)) => do
          let latest ← changeAt opening change path .headed latest
          return entries.replace key (.tables (latest :: earlier))
      | some _ => none

/-- Enters a value under a new key. The table of a dotted key has to be one that
dotted keys have opened. -/
def assign (path : List String) (key : String) (value : Value) (entries : Entries) :
    Option Entries :=
  changeAt .dotted (fun last entries =>
    if !path.isEmpty && last ≠ .dotted then none
    else if (entries.lookup key).isSome then none
    else some (entries ++ [(key, .leaf value)])) path .headed entries

def fillTable (path : List String) (key : String) (fill : Entries → Option Entries)
    (entries : Entries) : Option Entries :=
  changeAt .passed (fun _ entries =>
    match entries.lookup key with
    | none => do
        let filled ← fill []
        return entries ++ [(key, .table .headed filled)]
    | some (.table .passed present) => do
        let filled ← fill present
        return entries.replace key (.table .headed filled)
    | some _ => none) path .headed entries

def addTable (path : List String) (key : String) (fill : Entries → Option Entries)
    (entries : Entries) : Option Entries :=
  changeAt .passed (fun _ entries => do
    let filled ← fill []
    match entries.lookup key with
    | none => return entries ++ [(key, .tables [filled])]
    | some (.tables earlier) => return entries.replace key (.tables (filled :: earlier))
    | some _ => none) path .headed entries

mutual

def Node.toValue : Node → Value
  | .leaf value => value
  | .table _ entries => .record (fieldsOf entries)
  | .tables all => .list (recordsOf all).reverse

def fieldsOf : List (String × Node) → List (String × Value)
  | [] => []
  | (key, node) :: rest => (key, node.toValue) :: fieldsOf rest

def recordsOf : List (List (String × Node)) → List Value
  | [] => []
  | entries :: rest => .record (fieldsOf entries) :: recordsOf rest

end

end TableTalk.Document.Toml
