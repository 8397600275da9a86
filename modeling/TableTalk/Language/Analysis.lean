import TableTalk.Language.Numeral
import TableTalk.Language.Singular
import TableTalk.Language.Word

/-!
# Tokens and entities of a text

What a question parser needs to know about a text: its words with their base
forms, and the spans that name something.
-/

namespace TableTalk.Language

set_option autoImplicit false

/-- A word of a text. The offsets are those of its first byte and of the byte
after its last. -/
structure Token where
  text : String
  base : String
  likeNumber : Bool
  start : Nat
  stop : Nat
  deriving Repr, DecidableEq, Inhabited

def Token.ofWord (start : Nat) (word : List Char) : Token :=
  let text := String.ofList word
  { text, base := baseForm text, likeNumber := isNumeral text,
    start, stop := start + Text.utf8Length word }

def tokenize (text : String) : List Token :=
  (wordsFrom 0 text.toList).map fun entry => Token.ofWord entry.1 entry.2

inductive EntityLabel where
  | organization
  | product
  | place
  | other
  deriving Repr, DecidableEq, Inhabited

/-- Only these can name a provider or a service. -/
def EntityLabel.isLinkable : EntityLabel → Bool
  | organization | product | place => true
  | other => false

def EntityLabel.name : EntityLabel → String
  | organization => "ORG"
  | product => "PRODUCT"
  | place => "GPE"
  | other => "OTHER"

def EntityLabel.ofName (name : String) : EntityLabel :=
  ([organization, product, place].find? fun label => label.name == name).getD other

/-- A recognized span, from the token `firstToken` up to but not at `endToken`. -/
structure Entity where
  text : String
  label : EntityLabel
  firstToken : Nat
  endToken : Nat
  deriving Repr, DecidableEq, Inhabited

structure Analysis where
  tokens : List Token
  entities : List Entity
  deriving Repr, DecidableEq, Inhabited

end TableTalk.Language
