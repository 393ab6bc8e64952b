import BearerProxy.Failure
import BearerProxy.Journal
import BearerProxy.Json.Value

/-! How far a request has come, and what is left of one that goes no further. -/

namespace BearerProxy

/-! The JSON body that answers a request which could not be served. -/

/-- `timestamp` is the time of the answer in the format of RFC 3339; `context` holds each key once. -/
structure Reply where
  code : FailureCode
  timestamp : String
  details : Option String := none
  context : List (String × Json) := []
  deriving Repr

namespace Reply

def status (reply : Reply) : Nat := reply.code.status

/-- The details are the message of the failure, which never holds a secret or a token. -/
def ofFailure (failure : Failure) (timestamp : String) : Reply :=
  { code := failure.code, timestamp, details := some failure.message }

def withDetails (reply : Reply) (details : String) : Reply :=
  { reply with details := some details }

def withContext (reply : Reply) (key : String) (value : Json) : Reply :=
  { reply with context := Keyed.insert key value reply.context }

def members (reply : Reply) : List (String × Json) :=
  [("error", .string reply.code.text), ("message", .string reply.code.message),
   ("timestamp", .string reply.timestamp)] ++
    (match reply.details with
    | none => []
    | some details => [("details", .string details)]) ++
    (if reply.context.isEmpty then [] else [("context", .object reply.context)])

def body (reply : Reply) : Json := .object reply.members

end Reply

/-! Stages. -/

inductive Stage
  | start
  | validated
  | credentialSelected
  | tokenMinted
  | authorized
  | forwarded
  | streamedBack
  | rejected
  deriving DecidableEq, Repr

def Stage.text : Stage → String
  | .start => "start"
  | .validated => "validated"
  | .credentialSelected => "credential_selected"
  | .tokenMinted => "token_minted"
  | .authorized => "headers_rewritten"
  | .forwarded => "forwarded"
  | .streamedBack => "streamed_back"
  | .rejected => "rejected"

/-- A request that was given up, with the last stage that it had reached. -/
structure Rejection where
  stage : Stage
  failure : Failure
  deriving DecidableEq, Repr

namespace Rejection

def message (rejection : Rejection) : String :=
  "request rejected at " ++ rejection.stage.text ++ ": " ++ rejection.failure.message

def reply (rejection : Rejection) (timestamp : String) : Reply :=
  (Reply.ofFailure rejection.failure timestamp).withContext "state" (.string rejection.stage.text)

def report (rejection : Rejection) : Reported Rejection := do
  warnEvent .dispatch "request rejected"
    [("state", .text rejection.stage.text),
     ("code", .text rejection.failure.code.text),
     ("error", .text rejection.failure.message)]
  return rejection

end Rejection

end BearerProxy
