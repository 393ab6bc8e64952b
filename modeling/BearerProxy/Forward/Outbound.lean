import BearerProxy.Failure
import BearerProxy.Forward.Rule
import BearerProxy.Text
import BearerProxy.Url.Basic

/-!
From an inbound request and a token to the request that is sent on. The bearer goes to one origin only:
a target that names a server must name that of the backend.
-/

namespace BearerProxy

structure InboundRequest where
  method : Option String
  path : Option String
  headers : Option Http.Headers
  body : Option ByteArray
  deriving DecidableEq

structure OutboundRequest where
  method : String
  url : String
  headers : Http.Headers
  body : Option ByteArray
  deriving DecidableEq

structure Backend where
  baseUrl : String := "https://flow.ciandt.com/flow-llm-proxy"
  host : String := "flow.ciandt.com"
  deriving DecidableEq, Repr

structure Forwarder where
  backend : Backend := {}
  rules : List FilterRule := [FilterRule.messagesApi]
  deriving DecidableEq, Repr

namespace Forwarder

def isAbsolute (target : String) : Bool :=
  Text.startsWith "http://" target || Text.startsWith "https://" target

def checkTarget (backend : Backend) (target : String) : Except Failure Unit :=
  if isAbsolute target then
    match Url.parse target with
    | .error fault => .error (.request (.illegalTarget fault))
    | .ok requested =>
        match Url.parse backend.baseUrl with
        | .error fault => .error (.request (.illegalBase fault))
        | .ok base =>
            match requested.origin? with
            | none => .error (.request (.foreignOrigin "null"))
            | some origin =>
                if base.origin? = some origin then .ok ()
                else .error (.request (.foreignOrigin origin.text))
  else .ok ()

def present? (part : Option String) : Option String :=
  part.filter fun text => !Text.isBlankText text

/-- Method and path must be there, and a target that names a server must name the backend. -/
def validate (forwarder : Forwarder) (request : InboundRequest) : Except Failure Unit :=
  match present? request.method, present? request.path with
  | none, _ => .error .methodMissing
  | some _, none => .error .pathMissing
  | some _, some path => checkTarget forwarder.backend (Text.trim path)

def dropTrailingSlashes (base : String) : List Char :=
  (base.toList.reverse.dropWhile (· == '/')).reverse

/-- The URL for a path: the path behind the base URL, or the path itself if it names the backend. -/
def targetUrl (backend : Backend) (path : String) : Except Failure String :=
  match Text.trimmed? path with
  | none => .error (.request .emptyPath)
  | some path =>
      if isAbsolute path then (checkTarget backend path).map fun _ => path
      else
        let slash := if Text.startsWith "/" path then [] else ['/']
        .ok (String.ofList (dropTrailingSlashes backend.baseUrl ++ slash ++ path.toList))

/-- The headers with the token as the only authorization and the backend as the host. -/
def authorize (backend : Backend) (headers : Option Http.Headers) (token : String) :
    Except Failure Http.Headers := do
  let some token := Text.trimmed? token | throw (.request .emptyToken)
  let some headers := headers | throw (.request .noHeaders)
  let some bearer := Http.HeaderValue.ofText? ("Bearer " ++ token)
    | throw (.request .illegalToken)
  let some host := Http.HeaderValue.ofText? backend.host | throw (.request .illegalHost)
  return (headers.insert "authorization" bearer).insert "host" host

def authorizeHeaders (backend : Backend) (headers : Option Http.Headers) (token label : String) :
    Reported (Except Failure Http.Headers) :=
  match authorize backend headers token with
  | .error failure => return .error failure
  | .ok headers => do
      debugEvent .forward "rewrote authentication headers" [("credential", .text label)]
      return .ok headers

def authorizeRequest (backend : Backend) (request : InboundRequest) (token label : String) :
    Reported (Except Failure InboundRequest) := do
  return (← authorizeHeaders backend request.headers token label).map fun headers =>
    { request with headers := some headers }

def filterOptionalBody (fields : List String) : Option ByteArray → Reported (Option ByteArray)
  | none => return none
  | some body => some <$> filterBody fields body

def applyRule (rule : Option FilterRule) (path : String) (body : Option ByteArray) :
    Reported (String × Option ByteArray) :=
  match rule with
  | none => return (path, body)
  | some rule => do
      let path ← filterQuery rule.queryParameters path
      let body ← filterOptionalBody rule.bodyFields body
      return (path, body)

def prepare (forwarder : Forwarder) (request : InboundRequest) (token label : String) :
    Reported (Except Failure OutboundRequest) := do
  if let .error failure := forwarder.validate request then return .error failure
  let methodText := Text.trim (request.method.getD "")
  let method := Text.upperAscii methodText
  if !Http.isToken method then return .error (.request (.illegalMethod methodText))
  match request.headers with
  | none => return .error (.request .noHeaders)
  | some inbound =>
      let path := request.path.getD ""
      let rule ← FilterRule.select forwarder.rules method path inbound
      let (path, body) ← applyRule rule path request.body
      let kept := inbound.without (FilterRule.headersToSkip rule)
      match ← authorizeHeaders forwarder.backend (some kept) token label with
      | .error failure => return .error failure
      | .ok headers =>
          return (targetUrl forwarder.backend path).map fun url => { method, url, headers, body }

end Forwarder

def hopHeaders : List String := ["connection", "transfer-encoding"]

def relayedHeaders (headers : Http.Headers) : Http.Headers :=
  headers.without hopHeaders

def OutboundRequest.inspect (outbound : OutboundRequest) : String :=
  Text.inspectFields "OutboundRequest"
    [("method", outbound.method),
     ("url", Text.quote outbound.url),
     ("headers", outbound.headers.inspectHiding "authorization"),
     ("body", Text.inspectOption (outbound.body.map Text.quoteBytes))]

def Backend.inspect (backend : Backend) : String :=
  Text.inspectFields "UpstreamTarget"
    [("base_url", Text.quote backend.baseUrl), ("host", Text.quote backend.host)]

def Forwarder.inspect (forwarder : Forwarder) : String :=
  Text.inspectFields "Forwarder"
    [("target", forwarder.backend.inspect),
     ("filter", Text.inspectFields "RequestFilter"
        [("rules", Text.inspectList (forwarder.rules.map FilterRule.inspect))])]

end BearerProxy
