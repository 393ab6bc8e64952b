import BearerProxy.Dispatch.Stage
import BearerProxy.Forward.Relay
import BearerProxy.Http.Header
import BearerProxy.Http.Target
import BearerProxy.Text

/-!
What clients send to the gateway, and what it answers. On its way to the client an answer is a head, which is sent once,
and a body in pieces.
-/

namespace BearerProxy.Gateway

/-- The body is the bytes that were read, or the reason why reading them failed. -/
structure Request where
  method : String
  target : Http.Target
  headers : Http.Headers
  body : Except String ByteArray

/-- A body that broke off carries the reason; its bytes are those sent up to there. -/
structure Response where
  status : Nat
  headers : Http.Headers
  body : ByteArray
  brokenOff : Option String := none
  deriving DecidableEq

namespace Response

def whole (status : Nat) (headers : List (String × String)) (body : ByteArray) : Response :=
  let fields := headers ++ [("content-length", toString body.size)]
  { status
    headers := .ofList (fields.map fun field => (field.1, ⟨field.2.toUTF8.toList⟩))
    body }

def json (status : Nat) (body : Json) : Response :=
  whole status [("content-type", "application/json")] body.renderBytes

def ofReply (reply : Reply) : Response :=
  json reply.status reply.body

def withoutBody (response : Response) : Response :=
  { response with body := ByteArray.empty, brokenOff := none }

end Response

structure Transmission where
  head : Option (Nat × Http.Headers) := none
  chunks : List ByteArray := []
  brokenOff : Option String := none
  deriving DecidableEq

namespace Transmission

/-- The sink that writes to the client. A second head is refused. -/
def sink : Sink Transmission where
  sendHead status headers transmission :=
    match transmission.head with
    | some _ => (false, transmission)
    | none => (true, { transmission with head := some (status, headers) })
  sendChunk chunk transmission :=
    (true, { transmission with chunks := transmission.chunks ++ [chunk] })
  abort failure transmission := { transmission with brokenOff := some failure.message }

def body (transmission : Transmission) : ByteArray :=
  transmission.chunks.foldl (· ++ ·) ByteArray.empty

def response? (transmission : Transmission) : Option Response :=
  transmission.head.map fun head =>
    { status := head.1, headers := head.2, body := transmission.body
      brokenOff := transmission.brokenOff }

end Transmission

end BearerProxy.Gateway
