import TableTalk.Sql.Dialect

/-!
# Arguments of the command line

A command stands behind the switches of the program and before its own. Switches
have a long name and most of them a letter; letters may be run together. A value
follows its switch, or is attached to it. Two dashes end the switches.
-/

namespace TableTalk.CommandLine

set_option autoImplicit false

inductive Switch where
  | config
  | verbose
  | help
  | version
  | dialect
  | output
  | database
  deriving Repr, DecidableEq, Inhabited

def Switch.longName : Switch → String
  | config => "config"
  | verbose => "verbose"
  | help => "help"
  | version => "version"
  | dialect => "dialect"
  | output => "output"
  | database => "database"

def Switch.letter? : Switch → Option Char
  | config => some 'c'
  | verbose => some 'v'
  | help => some 'h'
  | version => some 'V'
  | dialect => some 'd'
  | output => some 'o'
  | database => none

inductive Form where
  | sql
  | json
  deriving Repr, DecidableEq, Inhabited

def Form.all : List Form := [sql, json]

def Form.name : Form → String
  | sql => "sql"
  | json => "json"

def dialectNamed? (name : String) : Option Sql.Dialect :=
  Sql.Dialect.all.find? fun dialect => dialect.name == name

def formNamed? (name : String) : Option Form := Form.all.find? fun form => form.name == name

/-- Whether a switch takes a value, and whether this one is right for it. Files need
names. -/
def Switch.accepts? : Switch → Option (String → Bool)
  | config | database => some fun value => !value.isEmpty
  | dialect => some fun value => (dialectNamed? value).isSome
  | output => some fun value => (formNamed? value).isSome
  | verbose | help | version => none

inductive Ending where
  | help
  | version
  | wrong
  deriving Repr, DecidableEq, Inhabited

/-- What may stand in one part of the command line: some switches, then so many
texts, or else the name of a command. -/
structure Level where
  switches : List Switch
  texts : Nat := 0
  commands : List String := []
  deriving Repr, DecidableEq, Inhabited

structure Reading where
  values : List (Switch × String) := []
  texts : List String := []
  /-- The switch whose value comes next. -/
  pending : Option Switch := none
  /-- The command, and the arguments after it. -/
  command : Option (String × List String) := none
  deriving Repr, DecidableEq, Inhabited

namespace Reading

def addValue (reading : Reading) (switch : Switch) (value : String) : Except Ending Reading :=
  if (reading.values.lookup switch).isSome then .error .wrong
  else if (switch.accepts?.map fun accepts => accepts value) = some true then
    .ok { reading with values := reading.values ++ [(switch, value)], pending := none }
  else .error .wrong

def addSwitch (reading : Reading) (switch : Switch) (attached : Option String) :
    Except Ending Reading :=
  match switch, attached with
  | .help, none => .error .help
  | .version, none => .error .version
  | .verbose, none => .ok reading
  | .help, some _ | .version, some _ | .verbose, some _ => .error .wrong
  | _, some value => reading.addValue switch value
  | _, none => .ok { reading with pending := some switch }

/-- Notes a text: the value of the switch before it, or one of its own. -/
def addText (level : Level) (reading : Reading) (text : String) : Except Ending Reading :=
  match reading.pending with
  | some switch => reading.addValue switch text
  | none =>
      if reading.texts.length < level.texts then
        .ok { reading with texts := reading.texts ++ [text] }
      else .error .wrong

end Reading

def Level.named? (level : Level) (name : String) : Option Switch :=
  level.switches.find? fun switch => switch.longName == name

def Level.lettered? (level : Level) (letter : Char) : Option Switch :=
  level.switches.find? fun switch => switch.letter? == some letter

def readLong (level : Level) (reading : Reading) (name : List Char) :
    Except Ending Reading :=
  let attached := match name.dropWhile (· ≠ '=') with
    | _ :: value => some (String.ofList value)
    | [] => none
  match level.named? (String.ofList (name.takeWhile (· ≠ '='))) with
  | some switch => reading.addSwitch switch attached
  | none => .error .wrong

/-- Reads letters of switches. What follows a letter that takes a value is its
value, behind an equals sign or without one. -/
def readLetters (level : Level) (reading : Reading) : List Char → Except Ending Reading
  | [] => .ok reading
  | letter :: rest =>
      match level.lettered? letter with
      | none => .error .wrong
      | some switch =>
          if switch.accepts?.isNone then do
            let next ← reading.addSwitch switch none
            readLetters level next rest
          else reading.addSwitch switch <| match rest with
            | [] => none
            | '=' :: value => some (String.ofList value)
            | value => some (String.ofList value)

/-- Reads the arguments of a level. `ended` tells whether two dashes have ended the
switches. A switch that still waits for its value takes no other switch. -/
def readArguments (level : Level) (ended : Bool) (reading : Reading) :
    List String → Except Ending Reading
  | [] => if reading.pending.isSome then .error .wrong else .ok reading
  | argument :: rest =>
      if ended then do
        readArguments level true (← reading.addText level argument) rest
      else if reading.pending.isNone && level.commands.contains argument then
        .ok { reading with command := some (argument, rest) }
      else match argument.toList with
        | '-' :: '-' :: name =>
            if reading.pending.isSome then .error .wrong
            else if name.isEmpty then readArguments level true reading rest
            else do readArguments level false (← readLong level reading name) rest
        | '-' :: letter :: letters =>
            if reading.pending.isSome then .error .wrong
            else do
              readArguments level false (← readLetters level reading (letter :: letters)) rest
        | _ => do readArguments level false (← reading.addText level argument) rest

/-! ## Commands -/

inductive Command where
  | parse (question : String)
  | compile (question : String) (dialect : Option Sql.Dialect) (form : Form)
  | run (question : String) (database : Option String)
  | catalog
  deriving Repr, DecidableEq, Inhabited

structure Invocation where
  /-- The settings file that was asked for. -/
  config : Option String
  command : Command
  deriving Repr, DecidableEq, Inhabited

/-- The switches that may stand before a command as well as behind it. -/
def sharedSwitches : List Switch := [.config, .verbose, .help]

def commandNames : List String := ["parse", "compile", "run", "catalog"]

def programLevel : Level where
  switches := .version :: sharedSwitches
  commands := "help" :: commandNames

def questionLevel (own : List Switch) : Level where
  switches := own ++ sharedSwitches
  texts := 1

def Reading.question (reading : Reading) : Except Ending String :=
  match reading.texts with
  | [question] => .ok question
  | _ => .error .wrong

def readCommand (name : String) (rest : List String) : Except Ending (Reading × Command) :=
  match name with
  | "parse" => do
      let reading ← readArguments (questionLevel []) false {} rest
      return (reading, .parse (← reading.question))
  | "compile" => do
      let reading ← readArguments (questionLevel [.dialect, .output]) false {} rest
      let dialect := (reading.values.lookup .dialect).bind dialectNamed?
      let form := ((reading.values.lookup .output).bind formNamed?).getD .sql
      return (reading, .compile (← reading.question) dialect form)
  | "run" => do
      let reading ← readArguments (questionLevel [.database]) false {} rest
      return (reading, .run (← reading.question) (reading.values.lookup .database))
  | "catalog" => do
      let reading ← readArguments { switches := sharedSwitches } false {} rest
      return (reading, .catalog)
  | _ => .error .wrong

def readHelp : List String → Ending
  | [] => .help
  | [name] => if programLevel.commands.contains name then .help else .wrong
  | _ => .wrong

/-- Reads the command line. The settings file named behind the command comes before
the one named in front of it. -/
def Invocation.ofArguments (arguments : List String) : Except Ending Invocation := do
  let program ← readArguments programLevel false {} arguments
  match program.command with
  | none => throw .wrong
  | some ("help", rest) => throw (readHelp rest)
  | some (name, rest) => do
      let (reading, command) ← readCommand name rest
      return {
        config := (reading.values.lookup .config).or (program.values.lookup .config)
        command }

end TableTalk.CommandLine
