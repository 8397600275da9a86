import TableTalk.Catalog.Basic
import TableTalk.Language.Analysis

/-!
# Phrase lists

Entities are recognized from a list of phrases. A phrase matches a whole
sequence of tokens in any case, and at each position the longest phrase wins.
-/

namespace TableTalk.Language

open TableTalk.Text

set_option autoImplicit false

def organizationNames : List String := [
  "aws", "amazon", "amazon web services", "azure", "microsoft", "microsoft azure",
  "google", "gcp", "google cloud"]

/-- A phrase by its lower case token texts. -/
structure GazetteerEntry where
  tokens : List String
  label : EntityLabel
  deriving Repr, DecidableEq, Inhabited

def GazetteerEntry.ofPhrase (phrase : String) (label : EntityLabel) : GazetteerEntry :=
  { tokens := (tokenize (lower phrase)).map Token.text, label }

structure Gazetteer where
  entries : List GazetteerEntry
  deriving Repr, DecidableEq, Inhabited

def tokensPrecede : List String → List String → Bool
  | [], _ => true
  | _ :: _, [] => false
  | a :: as, b :: bs => a < b || (a == b && tokensPrecede as bs)

def GazetteerEntry.precedes (a b : GazetteerEntry) : Bool :=
  b.tokens.length < a.tokens.length ||
    (a.tokens.length == b.tokens.length && tokensPrecede a.tokens b.tokens)

/-- Empty phrases are dropped; of phrases with the same tokens the first given
is kept. -/
def Gazetteer.ofEntries (entries : List GazetteerEntry) : Gazetteer :=
  let nonempty := entries.filter fun entry => !entry.tokens.isEmpty
  let sorted := nonempty.mergeSort GazetteerEntry.precedes
  { entries := sorted.eraseRepsBy fun a b => a.tokens == b.tokens }

def Gazetteer.ofTable (table : Catalog.Table) (organizations : List String) : Gazetteer :=
  .ofEntries <| (table.textColumns.flatMap Catalog.Column.examples).map fun phrase =>
    .ofPhrase phrase (if organizations.contains (lower phrase) then .organization else .product)

def Gazetteer.longestAt (gazetteer : Gazetteer) (words : List String) : Option GazetteerEntry :=
  gazetteer.entries.find? fun entry => entry.tokens.isPrefixOf words

/-- The phrases among `words`, the first of which has the number `index`, each with
the number of its first word. They do not overlap. -/
def Gazetteer.phrasesFrom (gazetteer : Gazetteer) (index : Nat) :
    List String → List (Nat × GazetteerEntry)
  | [] => []
  | word :: rest =>
      match gazetteer.longestAt (word :: rest) with
      | some entry =>
          let width := entry.tokens.length
          (index, entry) :: gazetteer.phrasesFrom (index + width) (rest.drop (width - 1))
      | none => gazetteer.phrasesFrom (index + 1) rest
termination_by words => words.length
decreasing_by
  · simp only [List.length_drop, List.length_cons]
    omega
  · simp

/-- The span of the given tokens: all of the text from the first to the last,
with what stands between them. -/
def spanText (text : List Char) (tokens : List Token) : String :=
  match tokens.head?, tokens.getLast? with
  | some first, some last => String.ofList (byteSlice first.start last.stop text)
  | _, _ => ""

def GazetteerEntry.entity (text : List Char) (tokens : List Token) (index : Nat)
    (entry : GazetteerEntry) : Entity :=
  let width := entry.tokens.length
  { text := spanText text ((tokens.drop index).take width), label := entry.label,
    firstToken := index, endToken := index + width }

def Gazetteer.analyze (gazetteer : Gazetteer) (text : String) : Analysis :=
  let tokens := tokenize text
  let phrases := gazetteer.phrasesFrom 0 (tokens.map fun token => lower token.text)
  { tokens
    entities := phrases.map fun (index, entry) => entry.entity text.toList tokens index }

end TableTalk.Language
