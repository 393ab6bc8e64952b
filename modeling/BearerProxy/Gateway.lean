import BearerProxy.Gateway.Endpoint
import BearerProxy.Gateway.Message

/-!
The gateway serves its own endpoints and passes every other request on through the dispatcher. What
reaches the client is either a whole answer of the gateway or the response of the backend, never a
mixture.
-/

namespace BearerProxy

structure Gateway (τ : Type u) where
  dispatcher : Dispatcher τ
  operatorToken : Option String

namespace Gateway

/-- A blank token counts as none. -/
def new (dispatcher : Dispatcher τ) (operatorToken : Option String) : Gateway τ :=
  { dispatcher, operatorToken := operatorToken.bind Text.trimmed? }

def longestBody : Nat := 32 * 1024 * 1024

def readBody (request : Request) : Except String ByteArray :=
  match request.body with
  | .error reason => .error reason
  | .ok body => if longestBody < body.size then .error "length limit exceeded" else .ok body

def unreadableBody (reason timestamp : String) : Response :=
  .ofReply (Reply.withDetails { code := .requestFormat, timestamp }
    ("failed to read request body: " ++ reason))

/-- The request for the dispatcher. An empty body is none. -/
def inbound (request : Request) (body : ByteArray) : InboundRequest :=
  { method := some request.method
    path := some request.target.text
    headers := some request.headers
    body := if body.isEmpty then none else some body }

def reportFinished (dispatched : Dispatched) : Reported Unit :=
  infoEvent .exchange "request finished"
    [("credential", .text dispatched.credential), ("status", .count dispatched.status),
     ("bytes", .count dispatched.relay.bytes), ("state", .text dispatched.stage.text)]

/-- What the client receives of a run. Without a head from the backend that is a reply. -/
def conclude (result : RunResult) (transmission : Transmission) (timestamp : String) :
    Reported Response := do
  if let .dispatched dispatched := result then reportFinished dispatched
  if let .crashed := result then errorEvent .exchange "dispatch task failed"
  match transmission.response?, result with
  | some response, _ => return response
  | none, .rejected rejection => return .ofReply (rejection.reply timestamp)
  | none, _ => return .ofReply { code := .unexpected, timestamp }

structure Served (τ : Type u) (ε : Type v) where
  response : Response
  state : DispatchState τ
  connection : ε

def passThrough (gateway : Gateway τ) (exchange : Exchange ε) (request : Request)
    (timestamp : String) (state : DispatchState τ) (connection : ε) : Reported (Served τ ε) :=
  match readBody request with
  | .error reason => return ⟨unreadableBody reason timestamp, state, connection⟩
  | .ok body => do
      let run ← gateway.dispatcher.run exchange Transmission.sink (inbound request body) state
        connection {}
      return ⟨← conclude run.result run.client timestamp, run.state, run.connection⟩

def resetQuarantine (gateway : Gateway τ) (state : DispatchState τ) :
    Reported (Response × DispatchState τ) := do
  let rotation ← state.rotation.reset
  let state := { state with rotation }
  let stats := gateway.dispatcher.stats state
  infoEvent .admin "quarantine reset by admin request" [("available", .count stats.rotation.available)]
  return (.json 200 (statisticsBody stats), state)

def answer (gateway : Gateway τ) (endpoint : Endpoint) (headers : Http.Headers)
    (state : DispatchState τ) : Reported (Response × DispatchState τ) :=
  match endpoint with
  | .health => return (.json 200 (healthBody state.rotation.stats), state)
  | .statistics =>
      match checkOperator gateway.operatorToken headers with
      | .error fault => return (fault.response, state)
      | .ok () => return (.json 200 (statisticsBody (gateway.dispatcher.stats state)), state)
  | .quarantineReset =>
      match checkOperator gateway.operatorToken headers with
      | .error fault => return (fault.response, state)
      | .ok () => gateway.resetQuarantine state

def serveEndpoint (gateway : Gateway τ) (endpoint : Endpoint) (request : Request)
    (state : DispatchState τ) : Reported (Response × DispatchState τ) :=
  if endpoint.methods.contains request.method then do
    let (response, state) ← gateway.answer endpoint request.headers state
    return (if request.method = "HEAD" then response.withoutBody else response, state)
  else return (endpoint.methodNotAllowed, state)

def serve (gateway : Gateway τ) (exchange : Exchange ε) (request : Request) (timestamp : String)
    (state : DispatchState τ) (connection : ε) : Reported (Served τ ε) :=
  match Endpoint.at? request.target.path with
  | some endpoint => do
      let (response, state) ← gateway.serveEndpoint endpoint request state
      return ⟨response, state, connection⟩
  | none => gateway.passThrough exchange request timestamp state connection

def inspect (gateway : Gateway τ) (state : DispatchState τ) : String :=
  let token := gateway.operatorToken.map fun _ => Text.quote Text.redacted
  Text.inspectSomeFields "GatewayState"
    [("dispatcher", gateway.dispatcher.inspect state),
     ("admin_token", Text.inspectOption token)]

end Gateway

end BearerProxy
