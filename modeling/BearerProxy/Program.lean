import BearerProxy.CommandLine
import BearerProxy.Gateway
import BearerProxy.Journal.Output
import BearerProxy.Settings.Document
import BearerProxy.Settings.Override

/-!
The start of the program: settings from a file, the environment and the command line, in this order, and
from them a gateway that is ready to listen.
-/

namespace BearerProxy

def CommandLine.applyTo (commandLine : CommandLine) (settings : Settings) : Settings :=
  { settings with
    secretsFile := commandLine.secretsFile.getD settings.secretsFile
    logLevel := commandLine.logLevel.getD settings.logLevel
    jsonLogs := settings.jsonLogs || commandLine.jsonLogs
    server := { settings.server with listen := commandLine.listen.getD settings.server.listen } }

namespace Program

def thresholdVariable : String := "RUST_LOG"

/-- How events are written. -/
structure JournalStyle where
  threshold : Threshold
  asJson : Bool
  deriving DecidableEq, Repr

namespace JournalStyle

def ofSettings (settings : Settings) (process : List (String × String)) :
    JournalStyle × List String :=
  let (threshold, complaints) :=
    Threshold.choose (Keyed.lookup? thresholdVariable process) settings.logLevel
  (⟨threshold, settings.jsonLogs⟩, complaints)

def admitted (style : JournalStyle) (events : List Event) : List Event :=
  events.filter style.threshold.admits

def line (style : JournalStyle) (event : Event) (timestamp : String) : String :=
  if style.asJson then event.jsonLine timestamp else event.plainLine timestamp

end JournalStyle

structure Ready where
  gateway : Gateway ClockedIssuer
  state : DispatchState ClockedIssuer
  address : Net.SocketAddress

/-- A start as far as it came. The journal begins when the settings are known. -/
structure Start where
  style : Option JournalStyle
  complaints : List String
  result : Reported (Except Failure Ready)

def override [Monad m] (files : FileSystem m) (commandLine : CommandLine)
    (process : List (String × String)) (settings : Settings) : m (Except Failure Settings) := do
  match ← Environment.loadFile files commandLine.dotenvFile process with
  | .error failure => return .error failure
  | .ok environment =>
      match settings.applyEnvironment environment with
      | (.error failure, _) => return .error failure
      | (.ok (), settings) =>
          let settings := commandLine.applyTo settings
          return settings.validate.map fun () => settings

def readSettings [Monad m] (files : FileSystem m) (commandLine : CommandLine)
    (process : List (String × String)) : m (Except Failure Settings) := do
  match commandLine.settingsFile with
  | none => override files commandLine process {}
  | some path =>
      match ← Settings.loadFile files path with
      | .error failure => return .error failure
      | .ok settings => override files commandLine process settings

def reportLoaded (loaded : Except Failure Pool) : Reported (Except Failure Pool) := do
  if let .error failure := loaded then
    errorEvent .program "failed to load credentials"
      [("code", .text failure.code.text), ("error", .text failure.message)]
  return loaded

def assemble (settings : Settings) (pool : Pool) (now : UInt64) : Reported (Except Failure Ready) := do
  match ← Rotation.ofPool pool with
  | .error failure => return .error failure
  | .ok rotation =>
      let dispatcher : Dispatcher ClockedIssuer := ⟨ClockedIssuer.source, settings.forwarder⟩
      let state : DispatchState ClockedIssuer := ⟨rotation, ⟨Issuer.new settings.tokens, now⟩⟩
      return settings.listenAddress.map fun address =>
        { gateway := Gateway.new dispatcher settings.server.operatorToken, state, address }

def start [Monad m] (files : FileSystem m) (commandLine : CommandLine)
    (process : List (String × String)) (now : UInt64) : m Start := do
  match ← readSettings files commandLine process with
  | .error failure => return { style := none, complaints := [], result := pure (.error failure) }
  | .ok settings =>
      let loaded ← settings.loadCredentials files
      let result : Reported (Except Failure Ready) := do
        match ← reportLoaded (← loaded) with
        | .error failure => return .error failure
        | .ok pool => assemble settings pool now
      let (style, complaints) := JournalStyle.ofSettings settings process
      return { style := some style, complaints, result }

/-! What is left behind. -/

structure Outcome where
  status : UInt32
  output : String := ""
  complaint : String := ""
  events : List Event := []
  style : Option JournalStyle := none

def Start.outcome (start : Start) (failed : Option String) : Outcome :=
  { status := if failed.isSome then 1 else 0
    complaint :=
      String.join ((start.complaints ++ (failed.map ("Error: " ++ ·)).toList).map (· ++ "\n"))
    events := (start.style.map fun style => style.admitted start.result.events).getD []
    style := start.style }

def noAddress : String :=
  Text.inspectFields "Os"
    [("code", "99"), ("kind", "AddrNotAvailable"),
     ("message", Text.quote "Cannot assign requested address")]

/-- Runs the program up to its end. Whoever owns a listener serves the gateway that is ready, through
`Gateway.serve`, until it is stopped or fails. -/
def run [Monad m] (files : FileSystem m) (arguments : List String) (process : List (String × String))
    (now : UInt64) (listen : Ready → m (Option String) := fun _ => pure (some noAddress)) : m Outcome := do
  match CommandLine.parse arguments with
  | .error .help => return { status := 0, output := CommandLine.helpText }
  | .error .version => return { status := 0, output := CommandLine.versionText }
  | .error (.fault fault) => return { status := 2, complaint := fault.text }
  | .ok commandLine =>
      let start ← start files commandLine process now
      match start.result.value with
      | .error failure => return start.outcome (some failure.inspect)
      | .ok ready => return start.outcome (← listen ready)

end Program

end BearerProxy
