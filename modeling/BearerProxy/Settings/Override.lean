import BearerProxy.Settings
import BearerProxy.Settings.Environment

/-! Settings overridden by variables of the environment. -/

namespace BearerProxy

namespace Variable

def secretsFile : String := "FLOW_PROXY_SECRETS_FILE"
def logLevel : String := "FLOW_PROXY_LOG_LEVEL"
def host : String := "FLOW_PROXY_HOST"
def port : String := "FLOW_PROXY_PORT"
def operatorToken : String := "FLOW_PROXY_ADMIN_TOKEN"

def all : List String := [secretsFile, logLevel, host, port, operatorToken]

end Variable

def portNumber? (characters : List Char) : Option UInt16 :=
  match characters with
  | '+' :: digits => Net.port? digits
  | digits => Net.port? digits

/-- The host and the port of an address that need not be a valid one. Without a colon all of it is the
host. -/
def splitListen (listen : String) : String × List Char :=
  match Text.splitLast? (· == ':') listen.toList with
  | some (host, port) => (String.ofList host, port)
  | none => (listen, [])

def overrideListen (listen : String) (host port : Option String) : Except Failure String :=
  let (currentHost, currentPort) := splitListen listen
  let number : Except Failure UInt16 :=
    match port with
    | some text =>
        match portNumber? (Text.trimCharacters text.toList) with
        | some number => .ok number
        | none => .error (.settings (.illegalPortVariable text))
    | none =>
        match portNumber? currentPort with
        | some number => .ok number
        | none => .error (.settings (.noListenPort listen))
  number.map fun number => Text.trim (host.getD currentHost) ++ ":" ++ toString number.toNat

namespace Settings

def overrideTexts (settings : Settings) (environment : Environment) : Settings :=
  { settings with
    secretsFile := (environment.get? Variable.secretsFile).getD settings.secretsFile
    logLevel :=
      ((environment.get? Variable.logLevel).map fun level => Text.lowerAscii (Text.trim level)).getD
        settings.logLevel
    server :=
      { settings.server with
        operatorToken :=
          ((environment.get? Variable.operatorToken).map Text.trim) <|>
            settings.server.operatorToken } }

/-- Applies the variables that are set. The listen address comes last, so that it alone is left as it
was if its override fails. -/
def applyEnvironment (settings : Settings) (environment : Environment) :
    Except Failure Unit × Settings :=
  let settings := settings.overrideTexts environment
  match environment.get? Variable.host, environment.get? Variable.port with
  | none, none => (.ok (), settings)
  | host, port =>
      match overrideListen settings.server.listen host port with
      | .error failure => (.error failure, settings)
      | .ok listen => (.ok (), { settings with server := { settings.server with listen } })

end Settings

end BearerProxy
