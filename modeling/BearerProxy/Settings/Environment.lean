import BearerProxy.Failure
import BearerProxy.Files
import BearerProxy.Keyed
import BearerProxy.Text
import BearerProxy.Text.Quoted

/-!
Variables that override settings. A dotenv text assigns values to names; its assignments come before
those of the process, and a blank value counts as none.
-/

namespace BearerProxy

namespace Dotenv

def between? (quote : Char) (value : List Char) : Option (List Char) :=
  match value with
  | [] => none
  | first :: inner =>
      if first = quote ∧ inner.getLast? = some quote then some inner.dropLast else none

def unquote (value : List Char) : List Char :=
  ((between? '"' value).orElse fun _ => between? '\'' value).getD value

def dropExport (line : List Char) : List Char :=
  match Text.dropPrefix? "export ".toList line with
  | none => line
  | some rest => Text.trimStart rest

def assignment? (line : List Char) : Option (String × String) :=
  let line := Text.trimCharacters line
  if line.head? = some '#' then none
  else
    match Text.splitFirst (· == '=') (dropExport line) with
    | (_, none) => none
    | (key, some value) =>
        let key := Text.trimCharacters key
        let value := unquote (Text.trimCharacters value)
        if key.isEmpty || value.all Text.isBlank then none
        else some (String.ofList key, String.ofList value)

def assignments (text : String) : List (String × String) :=
  (Text.pieces '\n' text.toList).filterMap assignment?

def parse (text : String) : List (String × String) :=
  Keyed.ofList (assignments text)

end Dotenv

/-- The variables of the process and those that override them. -/
structure Environment where
  overrides : List (String × String) := []
  process : List (String × String) := []
  deriving DecidableEq, Repr

namespace Environment

def ofDotenv (text : String) (process : List (String × String)) : Environment :=
  { overrides := Dotenv.parse text, process }

def set (environment : Environment) (key value : String) : Environment :=
  { environment with overrides := Keyed.insert key value environment.overrides }

/-- The value of a variable. An override hides the variable of the process even if it is blank. -/
def get? (environment : Environment) (key : String) : Option String :=
  let value := (Keyed.lookup? key environment.overrides).orElse fun _ =>
    Keyed.lookup? key environment.process
  value.filter fun value => !Text.isBlankText value

def inspect (environment : Environment) : String :=
  Text.inspectFields "Env"
    [("override_keys", Text.inspectList (environment.overrides.map fun entry => Text.quote entry.1))]

def loadFile [Monad m] (files : FileSystem m) (path : String)
    (process : List (String × String)) : m (Except Failure Environment) := do
  match ← files.readText path with
  | .ok text => return .ok (ofDotenv text process)
  | .error .notFound => return .ok { process }
  | .error fault => return .error (.unreadable path fault)

end Environment

end BearerProxy
