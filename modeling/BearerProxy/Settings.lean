import BearerProxy.Forward.Outbound
import BearerProxy.Net.Address
import BearerProxy.Token.Issuer

/-! The settings of a proxy, and when they can be used. -/

namespace BearerProxy

/-- Timeouts are in seconds. -/
structure BackendSettings where
  baseUrl : String := ({} : Backend).baseUrl
  host : String := ({} : Backend).host
  connectTimeout : UInt64 := 30
  readTimeout : UInt64 := 600
  deriving DecidableEq, Repr

structure ServerSettings where
  listen : String := "127.0.0.1:8899"
  operatorToken : Option String := none
  deriving DecidableEq, Repr

/-- `filters` come behind the rule that is always there. Relative paths may also be meant from the base
directory, which is that of the settings document. -/
structure Settings where
  secretsFile : String := "secrets.json"
  logLevel : String := "info"
  jsonLogs : Bool := false
  backend : BackendSettings := {}
  tokens : TokenPolicy := {}
  server : ServerSettings := {}
  filters : List FilterRule := []
  baseDirectory : Option String := none
  deriving DecidableEq, Repr

namespace Settings

def listenAddress (settings : Settings) : Except Failure Net.SocketAddress :=
  match Net.SocketAddress.ofText? (Text.trim settings.server.listen) with
  | some address => .ok address
  | none => .error (.settings (.illegalListenAddress settings.server.listen))

def hasBlankOperatorToken (settings : Settings) : Bool :=
  (settings.server.operatorToken.map Text.isBlankText).getD false

def validate (settings : Settings) : Except Failure Unit := do
  settings.tokens.validate
  let baseUrl := Text.trim settings.backend.baseUrl
  if !Forwarder.isAbsolute baseUrl then throw (.settings (.baseUrlScheme baseUrl))
  if Text.isBlankText settings.backend.host then throw (.settings .blankHost)
  if settings.backend.connectTimeout = 0 || settings.backend.readTimeout = 0 then
    throw (.settings .zeroTimeout)
  let _ ← settings.listenAddress
  if settings.hasBlankOperatorToken then throw (.settings .blankAdminToken)

def forwarder (settings : Settings) : Forwarder :=
  { backend :=
      { baseUrl := Text.trim settings.backend.baseUrl, host := Text.trim settings.backend.host }
    rules := FilterRule.messagesApi :: settings.filters }

end Settings

/-! How diagnostics show settings; the operator token is never shown. -/

def BackendSettings.inspect (settings : BackendSettings) : String :=
  Text.inspectFields "UpstreamSettings"
    [("base_url", Text.quote settings.baseUrl), ("host", Text.quote settings.host),
     ("connect_timeout_secs", toString settings.connectTimeout.toNat),
     ("read_timeout_secs", toString settings.readTimeout.toNat)]

def ServerSettings.inspect (settings : ServerSettings) : String :=
  let token := settings.operatorToken.map fun _ => Text.quote Text.redacted
  Text.inspectFields "ServerSettings"
    [("listen", Text.quote settings.listen), ("admin_token", Text.inspectOption token)]

def Settings.inspect (settings : Settings) : String :=
  Text.inspectFields "ProxySettings"
    [("secrets_file", Text.quote settings.secretsFile),
     ("log_level", Text.quote settings.logLevel),
     ("json_logs", toString settings.jsonLogs),
     ("upstream", settings.backend.inspect),
     ("tokens", settings.tokens.inspect),
     ("server", settings.server.inspect),
     ("filters", Text.inspectList (settings.filters.map FilterRule.inspect)),
     ("base_dir", Text.inspectOption (settings.baseDirectory.map Text.quote))]

end BearerProxy
