import BearerProxy.Text

/-!
The command line. A switch stands in front of its value, or carries it behind an equals sign; switches of
one letter may be run together. The value of a switch is judged when the next known switch or the end
is reached, so that an unknown argument right behind it is reported first.
-/

namespace BearerProxy

structure CommandLine where
  settingsFile : Option String := none
  secretsFile : Option String := none
  listen : Option String := none
  logLevel : Option String := none
  jsonLogs : Bool := false
  dotenvFile : String := ".env"
  deriving DecidableEq, Repr

namespace CommandLine

def programName : String := "flow-proxy"

def programVersion : String := "1.0.0"

inductive Switch
  | config
  | secrets
  | listen
  | logLevel
  | jsonLogs
  | dotenv
  | help
  | version
  deriving DecidableEq, Repr

namespace Switch

def all : List Switch :=
  [.config, .secrets, .listen, .logLevel, .jsonLogs, .dotenv, .help, .version]

def name : Switch → String
  | .config => "config"
  | .secrets => "secrets"
  | .listen => "listen"
  | .logLevel => "log-level"
  | .jsonLogs => "json-logs"
  | .dotenv => "dotenv"
  | .help => "help"
  | .version => "version"

def letter? : Switch → Option Char
  | .config => some 'c'
  | .secrets => some 's'
  | .help => some 'h'
  | .version => some 'V'
  | _ => none

def placeholder? : Switch → Option String
  | .config => some "CONFIG"
  | .secrets => some "SECRETS"
  | .listen => some "LISTEN"
  | .logLevel => some "LOG_LEVEL"
  | .dotenv => some "DOTENV"
  | .jsonLogs | .help | .version => none

def takesValue (switch : Switch) : Bool :=
  switch.placeholder?.isSome

def takesPath : Switch → Bool
  | .config | .secrets | .dotenv => true
  | _ => false

def description : Switch → String
  | .config => "Settings file (TOML). Built-in defaults are used when omitted"
  | .secrets => "Credential array file (overrides \x60secrets_file\x60)"
  | .listen => "Listen address, HOST:PORT (overrides \x60server.listen\x60)"
  | .logLevel => "Log level (overrides \x60log_level\x60; \x60RUST_LOG\x60 still wins)"
  | .jsonLogs => "Emit JSON log lines"
  | .dotenv => "\x60.env\x60 file read before the process environment [default: .env]"
  | .help => "Print help"
  | .version => "Print version"

def text (switch : Switch) : String :=
  "--" ++ switch.name ++
    match switch.placeholder? with
    | none => ""
    | some placeholder => " <" ++ placeholder ++ ">"

def ofName? (name : String) : Option Switch :=
  all.find? fun switch => switch.name = name

def ofLetter? (letter : Char) : Option Switch :=
  all.find? fun switch => switch.letter? = some letter

end Switch

/-! Texts for the terminal. -/

def helpEntry (switch : Switch) : String :=
  let letter :=
    match switch.letter? with
    | none => "    "
    | some letter => String.ofList ['-', letter, ',', ' ']
  "  " ++ letter ++ switch.text

def usage : String := "Usage: " ++ programName ++ " [OPTIONS]\n"

def helpText : String :=
  let width := (Switch.all.map fun switch => (helpEntry switch).length).foldl max 0
  let line (switch : Switch) : String :=
    let entry := helpEntry switch
    let gap := String.ofList (List.replicate (width + 2 - entry.length) ' ')
    entry ++ gap ++ switch.description ++ "\n"
  "Authenticating forward proxy for the Flow LLM gateway\n\n" ++ usage ++ "\nOptions:\n" ++
    String.join (Switch.all.map line)

def versionText : String := programName ++ " " ++ programVersion ++ "\n"

inductive Fault
  | valueMissing (switch : Switch)
  | unexpectedArgument (shown : String)
  | unexpectedValue (switch : Switch) (value : String)
  | repeated (switch : Switch)
  deriving DecidableEq, Repr

namespace Fault

def message : Fault → String
  | .valueMissing switch =>
      "error: a value is required for '" ++ switch.text ++ "' but none was supplied"
  | .unexpectedArgument shown => "error: unexpected argument '" ++ shown ++ "' found"
  | .unexpectedValue switch value =>
      "error: unexpected value '" ++ value ++ "' for '" ++ switch.text ++
        "' found; no more were expected"
  | .repeated switch => "error: the argument '" ++ switch.text ++ "' cannot be used multiple times"

def text (fault : Fault) : String :=
  let reminder :=
    match fault with
    | .valueMissing _ => ""
    | _ => usage ++ "\n"
  fault.message ++ "\n\n" ++ reminder ++ "For more information, try '--help'.\n"

end Fault

/-! Reading. -/

inductive Stop
  | help
  | version
  | fault (fault : Fault)
  deriving DecidableEq, Repr

/-- The switches that were accepted with their values, the last one first, and the switch whose value is
still to come or to be judged. -/
structure Progress where
  accepted : List (Switch × String) := []
  pending : Option (Switch × Option String) := none
  deriving DecidableEq, Repr

namespace Progress

def accept (progress : Progress) (switch : Switch) (value : String) : Except Stop Progress :=
  if (progress.accepted.lookup switch).isSome then .error (.fault (.repeated switch))
  else if switch.takesPath && value.isEmpty then .error (.fault (.valueMissing switch))
  else .ok { progress with accepted := (switch, value) :: progress.accepted }

def settle (progress : Progress) : Except Stop Progress :=
  match progress.pending with
  | none => .ok progress
  | some (switch, none) => .error (.fault (.valueMissing switch))
  | some (switch, some value) => accept { progress with pending := none } switch value

def addOption (progress : Progress) (switch : Switch) (value : Option String) :
    Except Stop Progress := do
  let progress ← progress.settle
  match value with
  | some value => progress.accept switch value
  | none => return { progress with pending := some (switch, none) }

def addFlag (progress : Progress) (switch : Switch) : Except Stop Progress := do
  let progress ← progress.settle
  match switch with
  | .help => throw .help
  | .version => throw .version
  | switch => progress.accept switch ""

def addNamed (progress : Progress) (name : String) (value : Option String) : Except Stop Progress :=
  match Switch.ofName? name with
  | none => .error (.fault (.unexpectedArgument ("--" ++ name)))
  | some switch =>
      if switch.takesValue then progress.addOption switch value
      else
        match value with
        | some value => .error (.fault (.unexpectedValue switch value))
        | none => progress.addFlag switch

def addLetters (progress : Progress) : List Char → Except Stop Progress
  | [] => .ok progress
  | letter :: rest =>
      match Switch.ofLetter? letter with
      | none => .error (.fault (.unexpectedArgument (String.ofList ['-', letter])))
      | some switch =>
          if switch.takesValue then
            let value :=
              match rest with
              | [] => none
              | '=' :: value => some (String.ofList value)
              | value => some (String.ofList value)
            progress.addOption switch value
          else do
            let progress ← progress.addFlag switch
            progress.addLetters rest

def addValue (progress : Progress) (argument : String) : Except Stop Progress :=
  match progress.pending with
  | some (switch, none) => .ok { progress with pending := some (switch, some argument) }
  | _ => .error (.fault (.unexpectedArgument argument))

def addArgument (progress : Progress) (argument : String) : Except Stop Progress :=
  match argument.toList with
  | '-' :: '-' :: characters =>
      let (name, value) := Text.splitFirst (· == '=') characters
      progress.addNamed (String.ofList name) (value.map String.ofList)
  | '-' :: letter :: letters => progress.addLetters (letter :: letters)
  | _ => progress.addValue argument

/-- Two dashes end the switches, and nothing else may follow. -/
def addAll (progress : Progress) : List String → Except Stop Progress
  | [] => progress.settle
  | "--" :: [] => progress.settle
  | "--" :: argument :: _ => .error (.fault (.unexpectedArgument argument))
  | argument :: rest => do
      let progress ← progress.addArgument argument
      progress.addAll rest

end Progress

def parse (arguments : List String) : Except Stop CommandLine := do
  let { accepted, .. } ← Progress.addAll {} arguments
  return {
    settingsFile := accepted.lookup .config
    secretsFile := accepted.lookup .secrets
    listen := accepted.lookup .listen
    logLevel := accepted.lookup .logLevel
    jsonLogs := (accepted.lookup .jsonLogs).isSome
    dotenvFile := (accepted.lookup .dotenv).getD ({} : CommandLine).dotenvFile }

end CommandLine

end BearerProxy
