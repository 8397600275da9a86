import TableTalk.Text.Digits
import TableTalk.Text.Utf8

/-!
# Names of databases

A database is named by a path, or by a text that starts with `file:`. Such a text
holds a path and, after a question mark, options between ampersands. A percent sign
with two hexadecimal digits stands for a byte, and a hash sign ends the text.
-/

namespace TableTalk.Database

open TableTalk.Text

set_option autoImplicit false

inductive Access where
  | readOnly
  | readWrite
  /-- A file that is not there is made. -/
  | create
  deriving Repr, DecidableEq, Inhabited

inductive Location where
  | memory
  | file (path : String) (access : Access)
  deriving Repr, DecidableEq, Inhabited

inductive LocationError where
  /-- A null character stands in the name, behind so many bytes. -/
  | nullCharacter (position : Nat)
  /-- The name is about another machine. -/
  | unknownAuthority (name : String)
  | unknownMode (kind value : String)
  /-- A mode allows more than the one before it. -/
  | excessiveMode (kind value : String)
  | unknownSystem (name : String)
  deriving Repr, DecidableEq, Inhabited

def LocationError.message : LocationError → String
  | nullCharacter position =>
      "nul byte found in provided data at position: " ++ toString position
  | unknownAuthority name => "invalid uri authority: " ++ name
  | unknownMode kind value => "no such " ++ kind ++ " mode: " ++ value
  | excessiveMode kind value => kind ++ " mode not allowed: " ++ value
  | unknownSystem name => "no such vfs: " ++ name

/-! ## Bytes behind percent signs -/

def octet? (high low : Char) : Option UInt8 :=
  (number? 16 [high, low]).map UInt8.ofNat

/-- The bytes of a section of a name. A null byte ends the section. -/
def sectionBytes : List Char → List UInt8
  | '%' :: high :: low :: rest =>
      match octet? high low with
      | some octet => if octet = 0 then [] else octet :: sectionBytes rest
      | none => String.utf8EncodeChar '%' ++ sectionBytes (high :: low :: rest)
  | c :: rest => String.utf8EncodeChar c ++ sectionBytes rest
  | [] => []

def sectionText (written : List Char) : String :=
  String.ofList (Utf8.decode (sectionBytes written))

/-! ## Options -/

structure Request where
  /-- Nothing, if the database lies in memory. -/
  access : Option Access := some .create
  /-- The way in which files are reached. -/
  system : String := "unix"
  deriving Repr, DecidableEq, Inhabited

def accessModes : List (String × Option Access) := [
  ("ro", some .readOnly), ("rw", some .readWrite), ("rwc", some .create), ("memory", none)]

def strength : Option Access → Nat
  | some .readOnly => 1
  | some .readWrite => 2
  | some .create => 3
  | none => 4

/-- Takes an option over. Only memory may be asked for after a narrower access. -/
def Request.addOption (request : Request) (name value : String) :
    Except LocationError Request :=
  if name = "vfs" then .ok { request with system := value }
  else if name = "cache" then
    if ["shared", "private"].contains value then .ok request
    else .error (.unknownMode "cache" value)
  else if name = "mode" then
    match accessModes.lookup value with
    | none => .error (.unknownMode "access" value)
    | some access =>
        if access.isSome && strength request.access < strength access then
          .error (.excessiveMode "access" value)
        else .ok { request with access }
  else .ok request

def cutAt (mark : Char) (text : List Char) : List Char × List Char :=
  (text.takeWhile (· ≠ mark), (text.dropWhile (· ≠ mark)).tail)

/-- Takes over an option as it is written. One without a name does not count. -/
def Request.addWritten (request : Request) (written : List Char) :
    Except LocationError Request :=
  let (name, value) := cutAt '=' written
  if (sectionText name).isEmpty then .ok request
  else request.addOption (sectionText name) (sectionText value)

/-- The ways in which files can be reached; the last one keeps them in memory. -/
def systems : List String := ["unix", "unix-none", "unix-dotfile", "unix-excl", "memdb"]

def Request.location (request : Request) (path : String) : Except LocationError Location :=
  if !systems.contains request.system then .error (.unknownSystem request.system)
  else if path.isEmpty || path = ":memory:" || request.system = "memdb" then .ok .memory
  else match request.access with
    | some access => .ok (.file path access)
    | none => .ok .memory

/-! ## Names -/

def afterAuthority : List Char → Except LocationError (List Char)
  | '/' :: '/' :: rest =>
      let name := String.ofList (rest.takeWhile (· ≠ '/'))
      if name.isEmpty || name = "localhost" then .ok (rest.dropWhile (· ≠ '/'))
      else .error (.unknownAuthority name)
  | text => .ok text

def Location.ofWritten (written : List Char) : Except LocationError Location := do
  let (path, options) := cutAt '?' ((← afterAuthority written).takeWhile (· ≠ '#'))
  let request ← (options.splitOn '&').foldlM Request.addWritten {}
  request.location (sectionText path)

def Location.ofName (name : String) : Except LocationError Location :=
  let start := name.toList.takeWhile (·.toNat ≠ 0)
  if start.length < name.length then
    .error (.nullCharacter (String.ofList start).utf8ByteSize)
  else match "file:".toList.isPrefixOf? name.toList with
    | some written => Location.ofWritten written
    | none => Request.location {} name

end TableTalk.Database
