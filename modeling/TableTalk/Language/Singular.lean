import TableTalk.Text.Alphabetic
import TableTalk.Text.Case

/-!
# Base forms of words

The base form of a word is its lower case singular. Singulars are found by
ending: exceptions first, then an ordered list of rules of which the first that
applies decides. A rule keeps what it captures and drops what stands before it,
so some words with a listed stem shrink to that stem.

The rules see words of alphabetic characters only.
-/

namespace TableTalk.Language

open TableTalk.Text

set_option autoImplicit false

def uncountableWords : List String := [
  "accommodation", "adulthood", "advertising", "advice", "aggression", "aid", "air",
  "aircraft", "alcohol", "anger", "applause", "arithmetic", "assistance", "athletics",
  "bacon", "baggage", "beef", "biology", "blood", "botany", "bread", "butter", "carbon",
  "cardboard", "cash", "chalk", "chaos", "chess", "crossroads", "countryside", "dancing",
  "deer", "dignity", "dirt", "dust", "economics", "education", "electricity", "engineering",
  "enjoyment", "envy", "equipment", "ethics", "evidence", "evolution", "fame", "fiction",
  "flour", "flu", "food", "fuel", "fun", "furniture", "gallows", "garbage", "garlic",
  "genetics", "gold", "golf", "gossip", "grammar", "gratitude", "grief", "guilt",
  "gymnastics", "happiness", "hardware", "harm", "hate", "hatred", "health", "heat", "help",
  "homework", "honesty", "honey", "hospitality", "housework", "humour", "hunger", "hydrogen",
  "ice", "importance", "inflation", "information", "innocence", "iron", "irony", "jam",
  "jewelry", "judo", "karate", "knowledge", "lack", "laughter", "lava", "leather", "leisure",
  "lightning", "linguine", "linguini", "linguistics", "literature", "litter", "livestock",
  "logic", "loneliness", "luck", "luggage", "macaroni", "machinery", "magic", "management",
  "mankind", "marble", "mathematics", "mayonnaise", "measles", "methane", "milk", "money",
  "mud", "music", "mumps", "nature", "news", "nitrogen", "nonsense", "nurture", "nutrition",
  "obedience", "obesity", "oxygen", "pasta", "patience", "physics", "poetry", "pollution",
  "poverty", "pride", "psychology", "publicity", "punctuation", "quartz", "racism",
  "relaxation", "reliability", "research", "respect", "revenge", "rice", "rubbish", "rum",
  "safety", "scenery", "seafood", "seaside", "series", "shame", "sheep", "shopping", "sleep",
  "smoke", "smoking", "snow", "soap", "software", "soil", "spaghetti", "species", "steam",
  "stuff", "stupidity", "sunshine", "symmetry", "tennis", "thirst", "thunder", "timber",
  "traffic", "transportation", "trust", "underwear", "unemployment", "unity", "validity",
  "veal", "vegetation", "vegetarianism", "vengeance", "violence", "vitality", "warmth",
  "wealth", "weather", "welfare", "wheat", "wildlife", "wisdom", "yoga", "zinc", "zoology"]

def irregularPlurals : List (String × String) := [
  ("oxen", "ox"), ("boxes", "box"), ("men", "man"), ("women", "woman"), ("dice", "die"),
  ("yeses", "yes"), ("feet", "foot"), ("eaves", "eave"), ("geese", "goose"),
  ("teeth", "tooth"), ("quizzes", "quiz")]

def beforeEnding (ending : String) (word : List Char) : Option (List Char) :=
  if ending.toList.isSuffixOf word then
    some (word.take (word.length - ending.toList.length))
  else none

abbrev SingularRule := List Char → Option (List Char)

/-- The part of a text after its last character that came with Unicode 17. The rules
keep nothing from before such a character. -/
def keptPart (text : List Char) : List Char :=
  (text.reverse.takeWhile isAlphabetic16).reverse

def exchange (endings : List String) (replacement : String) : SingularRule := fun word =>
  (endings.findSome? fun ending => beforeEnding ending word).map fun front =>
    keptPart front ++ replacement.toList

def onlyStem (stems endings : List String) (replacement : String) : SingularRule := fun word =>
  stems.findSome? fun stem => endings.findSome? fun ending =>
    (beforeEnding (stem ++ ending) word).map fun _ => stem.toList ++ replacement.toList

def wholeWord (words : List String) (singular : String) : SingularRule := fun word =>
  if words.contains (String.ofList word) then some singular.toList else none

def consonantIes : SingularRule := fun word => do
  let front ← beforeEnding "ies" word
  let last ← front.getLast?
  if !"aeiouy".toList.contains last then some (keptPart front.dropLast ++ [last, 'y'])
  else if "qu".toList.isSuffixOf front then some (keptPart front ++ ['y'])
  else none

/-- In `-ves` a character other than `f` is dropped together with the ending. -/
def droppedVes : SingularRule := fun word => do
  let front ← beforeEnding "ves" word
  let last ← front.getLast?
  if last = 'f' then none else some (keptPart front.dropLast ++ "fe".toList)

def singularRules : List SingularRule := [
  onlyStem ["database"] ["s"] "",
  onlyStem ["quiz"] ["zes"] "",
  onlyStem ["matr"] ["ices"] "ix",
  onlyStem ["vert", "ind"] ["ices"] "ex",
  fun word => if "oxen".toList.isPrefixOf word then some "ox".toList else none,
  onlyStem ["alias", "status"] ["es", ""] "",
  onlyStem ["octop", "vir"] ["us", "i"] "us",
  wholeWord ["axis", "axes"] "axis",
  onlyStem ["cris", "test"] ["is", "es"] "is",
  onlyStem ["shoe"] ["s"] "",
  onlyStem ["bus"] ["es", ""] "",
  onlyStem ["m", "l"] ["ice"] "ouse",
  exchange ["xes"] "x",
  exchange ["ches"] "ch",
  exchange ["sses"] "ss",
  exchange ["shes"] "sh",
  onlyStem ["m"] ["ovies"] "ovie",
  onlyStem ["s"] ["eries"] "eries",
  consonantIes,
  exchange ["lves", "rves"] "f",
  exchange ["tives"] "",
  exchange ["hives"] "",
  droppedVes,
  wholeWord ["analysis", "analyses"] "analysis",
  onlyStem ["analy", "ba", "diagno", "parenthe", "progno", "synop", "the"] ["sis", "ses"] "sis",
  exchange ["ta", "ia"] "um",
  exchange ["oes"] "",
  onlyStem ["n"] ["ews"] "ews",
  exchange ["ss"] "ss",
  exchange ["s"] ""]

def singular (word : String) : String :=
  if uncountableWords.contains word then word
  else match irregularPlurals.lookup word with
    | some form => form
    | none => match singularRules.findSome? fun rule => rule word.toList with
      | some form => String.ofList form
      | none => word

/-- Words of up to three characters are mostly acronyms and keep their form, as
do words with a character that is not alphabetic. -/
def baseForm (word : String) : String :=
  let lowered := lower word
  if lowered.toList.length ≤ 3 || !lowered.toList.all isAlphabetic then lowered
  else singular lowered

end TableTalk.Language
