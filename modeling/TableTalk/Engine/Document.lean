import TableTalk.Engine.Basic
import TableTalk.Query.Document

/-!
# Translations as document values
-/

namespace TableTalk

open TableTalk.Document

set_option autoImplicit false

def Translation.toValue (translation : Translation) : Value := .record [
  ("parsed", translation.parsed.toValue),
  ("sql", translation.statement.toValue)]

end TableTalk
