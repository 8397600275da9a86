import TableTalk.Database.Storage.Bytes

/-!
# Tables in pages

A database file is a row of pages of equal size. A table is a tree of pages: inner
pages point to the pages below them, the leaves hold the rows. What does not fit
into a leaf goes on in a chain of other pages.
-/

namespace TableTalk.Database.Storage

set_option autoImplicit false

structure Pages where
  file : ByteArray
  pageSize : Nat
  /-- The part of each page that is used. -/
  usable : Nat
  deriving Inhabited

def signature : ByteArray := ("SQLite format 3" ++ String.singleton (Char.ofNat 0)).toUTF8

def Pages.ofFile? (file : ByteArray) : Option Pages := do
  guard ((file.extract 0 16).toList = signature.toList)
  let size := numberAt file 16 2
  -- The largest size does not fit into two bytes.
  let pageSize := if size = 1 then 65536 else size
  guard (512 ≤ pageSize)
  return { file, pageSize, usable := pageSize - byteAt file 20 }

def Pages.start (pages : Pages) (page : Nat) : Nat := (page - 1) * pages.pageSize

/-- No chain and no way down a tree is longer than this. -/
def Pages.count (pages : Pages) : Nat := pages.file.size / pages.pageSize + 1

/-- The bytes of a chain of pages, of which so many are left. -/
def Pages.chain (pages : Pages) : Nat → Nat → Nat → ByteArray
  | 0, _, _ => .empty
  | fuel + 1, page, left =>
      if page = 0 || left = 0 then .empty
      else
        let start := pages.start page
        let own := min left (pages.usable - 4)
        pages.file.extract (start + 4) (start + 4 + own) ++
          pages.chain fuel (numberAt pages.file start 4) (left - own)

def Pages.localSize (pages : Pages) (size : Nat) : Nat :=
  if size ≤ pages.usable - 35 then size
  else
    let least := (pages.usable - 12) * 32 / 255 - 23
    let fitting := least + (size - least) % (pages.usable - 4)
    if fitting ≤ pages.usable - 35 then fitting else least

def Pages.rowAt (pages : Pages) (position : Nat) : Int × ByteArray :=
  let (size, afterSize) := varintAt pages.file position
  let (number, start) := varintAt pages.file afterSize
  let inLeaf := pages.localSize size
  let own := pages.file.extract start (start + inLeaf)
  let rest := if inLeaf = size then .empty
    else pages.chain pages.count (numberAt pages.file (start + inLeaf) 4) (size - inLeaf)
  (signed 64 number, own ++ rest)

def Pages.rowsBelow (pages : Pages) : Nat → Nat → List (Int × ByteArray)
  | 0, _ => []
  | depth + 1, page =>
      let start := pages.start page
      -- The first page starts with the header of the file.
      let header := if page = 1 then start + 100 else start
      let count := numberAt pages.file (header + 3) 2
      let cellsFrom (first : Nat) : List Nat :=
        (List.range count).map fun n => start + numberAt pages.file (first + 2 * n) 2
      -- Leaves are of kind 13 and inner pages of kind 5; the pages of indexes are passed over.
      match byteAt pages.file header with
      | 13 => (cellsFrom (header + 8)).map pages.rowAt
      | 5 =>
          ((cellsFrom (header + 12)).flatMap fun cell =>
            pages.rowsBelow depth (numberAt pages.file cell 4)) ++
          pages.rowsBelow depth (numberAt pages.file (header + 8) 4)
      | _ => []

/-- The rows of the table whose tree starts at a page. Trees of a million rows are
less than ten pages deep. -/
def Pages.rows (pages : Pages) (root : Nat) : List (Int × ByteArray) := pages.rowsBelow 20 root

end TableTalk.Database.Storage
