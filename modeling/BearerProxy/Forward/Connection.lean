import BearerProxy.Dispatch
import BearerProxy.Forward.Delivery

/-!
The exchange with a server over a connection. What comes of a request is a function of the bytes that the
server sends and of how it leaves the connection behind them.
-/

namespace BearerProxy

/-- How a server leaves a connection behind its last byte. Silence lasts longer than anyone waits. -/
inductive Ending
  | closed
  | silent
  deriving DecidableEq, Repr

structure Heard where
  bytes : List UInt8
  ending : Ending
  deriving DecidableEq, Repr

namespace Heard

def noServer (delivery : Delivery) : ExchangeFailure :=
  ⟨.network, "cannot connect to " ++ delivery.server⟩

def unusableUrl (url : String) : ExchangeFailure :=
  ⟨.malformedRequest, "cannot send a request for " ++ url⟩

def unusableHead : ExchangeFailure :=
  ⟨.malformedRequest, "the response has no usable head"⟩

def waitedTooLong : ExchangeFailure :=
  ⟨.timeout, "operation timed out"⟩

def brokenBody : ExchangeFailure :=
  ⟨.general, "error decoding response body"⟩

def bodyFailure? (framing : Http.Framing) (state : Http.BodyState) (ending : Ending) :
    Option ExchangeFailure :=
  match state, ending with
  | .whole, _ => none
  | .broken, _ => some brokenBody
  | .unfinished, .silent => some waitedTooLong
  | .unfinished, .closed => if framing = .untilClose then none else some brokenBody

def body (framing : Http.Framing) (bytes : List UInt8) (ending : Ending) : List StreamItem :=
  let (pieces, state) := framing.read bytes
  let chunks := (pieces.filter fun piece => !piece.isEmpty).map fun piece =>
    StreamItem.chunk ⟨piece.toArray⟩
  chunks ++ ((bodyFailure? framing state ending).map StreamItem.failure).toList

def isRedirect (head : Http.ResponseHead) : Bool :=
  let namesPlace (value : Http.HeaderValue) : Bool :=
    match String.fromUTF8? ⟨value.bytes.toArray⟩ with
    | none => false
    | some place =>
        match Url.parse place with
        | .ok _ | .error .relativeWithoutBase => true
        | .error _ => false
  [301, 302, 303, 307, 308].contains head.status &&
    ((head.headers.values "location").head?.any namesPlace)

/-- The response to a request. One connection serves one request, so that a redirect leads nowhere. -/
def response (heard : Heard) (method : String) : Except ExchangeFailure BackendResponse :=
  match Http.ResponseHead.read heard.bytes with
  | .illegal => .error unusableHead
  | .incomplete => .error (if heard.ending = .silent then waitedTooLong else unusableHead)
  | .found head rest =>
      match Http.Framing.of? method head with
      | none => .error unusableHead
      | some framing =>
          if isRedirect head then .error unusableHead
          else
            .ok { status := head.status, headers := head.headers
                  body := body framing rest heard.ending }

end Heard

/-- Connections to servers, as a rule on states. No one may answer. -/
structure Network (ε : Type u) where
  converse : Delivery → ε → Option Heard × ε

namespace Network

def deliver (network : Network ε) (outbound : OutboundRequest) (state : ε) :
    Except ExchangeFailure BackendResponse × ε :=
  match Delivery.ofOutbound? outbound with
  | none => (.error (Heard.unusableUrl outbound.url), state)
  | some delivery =>
      match network.converse delivery state with
      | (none, state) => (.error (Heard.noServer delivery), state)
      | (some heard, state) => (heard.response outbound.method, state)

def exchange (network : Network ε) : Exchange ε where
  send outbound state := do
    debugEvent .backend "sending upstream request"
      [("method", .text outbound.method), ("url", .text outbound.url)]
    match network.deliver outbound state with
    | (.error failure, state) => return (.failure failure, state)
    | (.ok response, state) => return (.response response, state)

end Network

def BackendResponse.inspect (response : BackendResponse) : String :=
  Text.inspectSomeFields "UpstreamResponse"
    [("status", toString response.status), ("headers", response.headers.inspect)]

end BearerProxy
