import TableTalk.Decimal.Integer
import TableTalk.Question.Draft
import TableTalk.Text.Digits

/-!
# "Top N"

Finding the number and the column of a ranking. A word after "top" that is no
positive number is skipped and the search goes on; the first one that is decides,
also when no column can be found for it.
-/

namespace TableTalk.Question

open TableTalk.Language

set_option autoImplicit false

def wholeNumber? (text : List Char) : Option UInt64 :=
  let digits := match text with
    | '+' :: rest => rest
    | _ => text
  if digits.isEmpty || !digits.all Char.isDigit then none
  else
    let value := Text.decimalNumber digits
    if fitsUnsigned value then some (UInt64.ofNat value) else none

def positiveNumber? (token : Token) : Option UInt64 := do
  guard token.likeNumber
  let n ← wholeNumber? (token.text.toList.filter (· ≠ ','))
  guard (n ≠ 0)
  return n

/-- The number after the first "top" that has one, with the tokens after it. -/
def topNumber? : List Token → Option (UInt64 × List Token)
  | [] => none
  | token :: rest =>
      match rest with
      | [] => none
      | number :: after =>
          match token.base == "top", positiveNumber? number with
          | true, some n => some (n, after)
          | _, _ => topNumber? (number :: after)

/-- Whether a ranking is of entities: the word after the number says so, or the
text mentions an entity word anywhere. -/
def ranksEntities (context : Context) (afterNumber : List Token) : Bool :=
  let words := context.options.entityWords
  (afterNumber.head?.any fun token => words.contains token.base) ||
    words.any context.mentions

def ranking? (context : Context) : Option (UInt64 × String) :=
  match topNumber? context.analysis.tokens with
  | none => none
  | some (limit, after) =>
      let column := context.options.productColumn
      if ranksEntities context after && context.table.hasColumn column then
        some (limit, column)
      else none

end TableTalk.Question
