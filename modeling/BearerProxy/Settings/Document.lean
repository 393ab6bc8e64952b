import BearerProxy.Credential.Pool
import BearerProxy.Settings
import BearerProxy.Toml.Parser

/-!
Settings from a TOML document. What a document leaves out has its default, what it adds is ignored, and
a value of the wrong type makes the whole document unusable.
-/

namespace BearerProxy

namespace Toml

/-- What the fields of a structure are read from: entries by name, or items by position. -/
inductive Source
  | named (entries : Entries)
  | positional (items : List Toml)

/-- A moment counts as a table without the fields that are looked for. -/
def source? : Toml → Option Source
  | .table _ entries => some (.named entries)
  | .tables elements => some (.positional (elements.map (.table .header)))
  | .array items => some (.positional items)
  | .moment _ => some (.named [])
  | _ => none

def Source.field? (source : Source) (position : Nat) (name : String) : Option Toml :=
  match source with
  | .named entries => Keyed.lookup? name entries
  | .positional items => items[position]?

def Source.get? (source : Source) (position : Nat) (name : String) (read : Toml → Option α)
    (default : α) : Option α :=
  match source.field? position name with
  | none => some default
  | some value => read value

def text? : Toml → Option String
  | .string text => some text
  | _ => none

def flag? : Toml → Option Bool
  | .boolean value => some value
  | _ => none

def word? : Toml → Option UInt64
  | .integer (.ofNat value) => some (UInt64.ofNat value)
  | _ => none

def items? : Toml → Option (List Toml)
  | .array items => some items
  | .tables elements => some (elements.map (.table .header))
  | _ => none

def listOf? (read : Toml → Option α) (value : Toml) : Option (List α) := do
  (← value.items?).mapM read

def texts? : Toml → Option (List String) := listOf? text?

end Toml

namespace FilterRule

def ofToml? (value : Toml) : Option FilterRule := do
  let source ← value.source?
  let name ← (← source.field? 0 "name").text?
  let pathPrefix ← source.get? 1 "path_prefix" (fun value => value.text?.map some) none
  let methods ← source.get? 2 "methods" Toml.texts? []
  let anyHeader ← source.get? 3 "any_header" Toml.texts? []
  let queryParameters ← source.get? 4 "query_params" Toml.texts? []
  let bodyFields ← source.get? 5 "body_fields" Toml.texts? []
  let headers ← source.get? 6 "headers" Toml.texts? []
  return { name, pathPrefix, methods, anyHeader, queryParameters, bodyFields, headers }

end FilterRule

def BackendSettings.ofToml? (value : Toml) : Option BackendSettings := do
  let defaults : BackendSettings := {}
  let source ← value.source?
  let baseUrl ← source.get? 0 "base_url" Toml.text? defaults.baseUrl
  let host ← source.get? 1 "host" Toml.text? defaults.host
  let connectTimeout ← source.get? 2 "connect_timeout_secs" Toml.word? defaults.connectTimeout
  let readTimeout ← source.get? 3 "read_timeout_secs" Toml.word? defaults.readTimeout
  return { baseUrl, host, connectTimeout, readTimeout }

def TokenPolicy.ofToml? (value : Toml) : Option TokenPolicy := do
  let defaults : TokenPolicy := {}
  let source ← value.source?
  let lifetime ← source.get? 0 "ttl_seconds" Toml.word? defaults.lifetime
  let margin ← source.get? 1 "refresh_margin_seconds" Toml.word? defaults.margin
  return { lifetime, margin }

def ServerSettings.ofToml? (value : Toml) : Option ServerSettings := do
  let defaults : ServerSettings := {}
  let source ← value.source?
  let listen ← source.get? 0 "listen" Toml.text? defaults.listen
  let operatorToken ← source.get? 1 "admin_token" (fun value => value.text?.map some) none
  return { listen, operatorToken }

namespace Settings

def ofToml? (value : Toml) : Option Settings := do
  let defaults : Settings := {}
  let source ← value.source?
  let secretsFile ← source.get? 0 "secrets_file" Toml.text? defaults.secretsFile
  let logLevel ← source.get? 1 "log_level" Toml.text? defaults.logLevel
  let jsonLogs ← source.get? 2 "json_logs" Toml.flag? defaults.jsonLogs
  let backend ← source.get? 3 "upstream" BackendSettings.ofToml? defaults.backend
  let tokens ← source.get? 4 "tokens" TokenPolicy.ofToml? defaults.tokens
  let server ← source.get? 5 "server" ServerSettings.ofToml? defaults.server
  let filters ← source.get? 6 "filters" (Toml.listOf? FilterRule.ofToml?) defaults.filters
  return { secretsFile, logLevel, jsonLogs, backend, tokens, server, filters }

def ofDocument (document : String) : Except Failure Settings :=
  match (Toml.parse? document).bind ofToml? with
  | some settings => .ok settings
  | none => .error (.settings .notToml)

/-! Documents in files, and the credentials that settings name. -/

def loadFile [Monad m] (files : FileSystem m) (path : String) :
    m (Except Failure Settings) := do
  match ← files.readText path with
  | .error fault => return .error (.unreadable path fault)
  | .ok document =>
      return (ofDocument document).map fun settings =>
        { settings with baseDirectory := Path.directory? path }

def loadCredentials [Monad m] (files : FileSystem m) (settings : Settings) :
    m (Reported (Except Failure Pool)) :=
  Pool.loadFile files settings.secretsFile settings.baseDirectory

end Settings

end BearerProxy
