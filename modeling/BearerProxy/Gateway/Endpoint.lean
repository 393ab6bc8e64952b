import BearerProxy.Dispatch
import BearerProxy.Gateway.Message

/-!
The gateway's own endpoints: its health, and for operators the statistics and the reset of the
quarantine. Operators identify themselves by a token.
-/

namespace BearerProxy.Gateway

inductive Endpoint
  | health
  | statistics
  | quarantineReset
  deriving DecidableEq, Repr

namespace Endpoint

def at? (path : String) : Option Endpoint :=
  if path = "/health" then some .health
  else if path = "/admin/stats" then some .statistics
  else if path = "/admin/quarantine/reset" then some .quarantineReset
  else none

def method : Endpoint → String
  | .health | .statistics => "GET"
  | .quarantineReset => "POST"

/-- What can be read with a body can be read without one. -/
def methods (endpoint : Endpoint) : List String :=
  if endpoint.method = "GET" then ["GET", "HEAD"] else [endpoint.method]

def methodNotAllowed (endpoint : Endpoint) : Response :=
  .whole 405 [("allow", String.intercalate "," endpoint.methods)] ByteArray.empty

end Endpoint

/-! Identification of operators. -/

def bearer? (headers : Http.Headers) : Option String := do
  let authorization ← headers.combined? "authorization"
  let characters := authorization.toList
  let rest ← Text.dropPrefix? "Bearer ".toList characters <|>
    Text.dropPrefix? "bearer ".toList characters
  Text.trimmed? (String.ofList rest)

/-- The operator token that a request presents. A bearer comes before the header for the purpose. -/
def presentedToken? (headers : Http.Headers) : Option String :=
  bearer? headers <|> headers.combined? "x-admin-token"

inductive AccessFault
  | notConfigured
  | unauthorized
  deriving DecidableEq, Repr

/-- Whether a request comes from an operator. Without a configured token none does. -/
def checkOperator (configured : Option String) (headers : Http.Headers) : Except AccessFault Unit :=
  match configured with
  | none => .error .notConfigured
  | some token => if presentedToken? headers = some token then .ok () else .error .unauthorized

def AccessFault.response : AccessFault → Response
  | .notConfigured =>
      .json 404 (.object [("error", .string "not_configured"),
        ("message", .string "admin auth not configured")])
  | .unauthorized =>
      .json 401 (.object [("error", .string "unauthorized"),
        ("message", .string "invalid admin token")])

/-! What the endpoints show. -/

def countMember (key : String) (value : Nat) : String × Json := (key, .integer value)

def healthBody (stats : RotationStats) : Json :=
  .object [countMember "available_credentials" stats.available, ("status", .string "ok"),
    countMember "total_credentials" stats.total]

def rotationBody (stats : RotationStats) : Json :=
  .object [countMember "total_requests" stats.totalRequests,
    countMember "available_count" stats.available, countMember "failed_count" stats.failed,
    countMember "total_count" stats.total]

def cacheBody (stats : CacheStats) : Json :=
  .object [countMember "total" stats.total, countMember "valid" stats.valid,
    countMember "expired" stats.expired]

def statisticsBody (stats : DispatchStats) : Json :=
  .object (("balancer", rotationBody stats.rotation) ::
    (stats.tokens.map fun tokens => ("tokens", cacheBody tokens)).toList)

end BearerProxy.Gateway
