import BearerProxy.Failure.Causes
import BearerProxy.Failure.Code

/-!
Everything that can go wrong, by cause. The sentence, the code and the inspection text of a failure
are functions of the cause.
-/

namespace BearerProxy

inductive Failure
  | secretsFileMissing (resolved configured : String)
  | document (fault : DocumentFault)
  | noRecords
  | records (faults : List RecordFault)
  | settings (fault : SettingsFault)
  | unreadable (path : String) (fault : ReadFault)
  | emptyPool
  | rotationExhausted
  | incompleteCredential (missing : List String)
  | tokenGeneration (reason : String)
  | failoverExhausted (last : Failure)
  | request (fault : RequestFault)
  | methodMissing
  | pathMissing
  | exchange (failure : ExchangeFailure)
  deriving DecidableEq, Repr, Inhabited

namespace Failure

def message : Failure → String
  | .secretsFileMissing resolved configured =>
      "secrets file not found at resolved path: " ++ resolved ++ " (original: " ++ configured ++ ")"
  | .document fault => "invalid configuration format: " ++ fault.message
  | .noRecords => "secrets array cannot be empty - at least one credential is required"
  | .records faults =>
      "invalid credential records: " ++ String.intercalate " | " (faults.map RecordFault.message)
  | .settings fault => "invalid settings: " ++ fault.message
  | .unreadable path fault => "failed to read " ++ path ++ ": " ++ fault.message
  | .emptyPool => "cannot build a load balancer from an empty credential list"
  | .rotationExhausted => "no available credentials - all credentials are quarantined"
  | .incompleteCredential missing =>
      "credential is missing required fields: " ++ String.intercalate ", " missing
  | .tokenGeneration reason => "token generation failed: " ++ reason
  | .failoverExhausted last => "failover exhausted: " ++ last.message
  | .request fault => "invalid input: " ++ fault.message
  | .methodMissing => "request is missing an HTTP method"
  | .pathMissing => "request is missing a path"
  | .exchange failure => failure.message

/-- Faulty records count as missing fields only if nothing but missing fields was found. -/
def code : Failure → FailureCode
  | .secretsFileMissing .. => .secretsFileMissing
  | .document _ | .settings _ | .unreadable .. => .configurationFormat
  | .noRecords | .emptyPool => .configurationEmpty
  | .records faults =>
      if faults.all fun record => record.faults.all FieldFault.isMissing then
        .configurationFieldsMissing
      else .configurationRejected
  | .rotationExhausted => .noCredentialAvailable
  | .incompleteCredential _ => .credentialRejected
  | .tokenGeneration _ => .tokenGeneration
  | .failoverExhausted _ => .failoverExhausted
  | .request _ => .requestFormat
  | .methodMissing => .methodMissing
  | .pathMissing => .pathMissing
  | .exchange failure => failure.fault.code

def status (failure : Failure) : Nat :=
  failure.code.status

def isMintFailure : Failure → Bool
  | .incompleteCredential _ | .tokenGeneration _ => true
  | _ => false

def inspect : Failure → String
  | .secretsFileMissing resolved configured =>
      Text.inspectFields "ConfigNotFound"
        [("resolved", Text.quote resolved), ("original", Text.quote configured)]
  | .document fault => Text.inspectFields "ConfigFormat" [("reason", Text.quote fault.message)]
  | .noRecords => "ConfigEmpty"
  | .records faults =>
      Text.inspectFields "ConfigValidation"
        [("failures", Text.inspectList (faults.map RecordFault.inspect))]
  | .settings fault => Text.inspectFields "Settings" [("reason", Text.quote fault.message)]
  | .unreadable path fault =>
      Text.inspectFields "Io" [("path", Text.quote path), ("source", fault.inspect)]
  | .emptyPool => "EmptyPool"
  | .rotationExhausted => "NoAvailableCredentials"
  | .incompleteCredential missing =>
      Text.inspectFields "InvalidCredential"
        [("missing", Text.inspectList (missing.map Text.quote))]
  | .tokenGeneration reason =>
      Text.inspectFields "TokenGeneration" [("reason", Text.quote reason)]
  | .failoverExhausted last => Text.inspectFields "FailoverExhausted" [("last", last.inspect)]
  | .request fault => Text.inspectFields "InvalidInput" [("reason", Text.quote fault.message)]
  | .methodMissing => "MissingMethod"
  | .pathMissing => "MissingPath"
  | .exchange failure =>
      "Forward(" ++ Text.inspectFields "ForwardFailure"
        [("kind", match failure.fault with
            | .network => "Network"
            | .timeout => "Timeout"
            | .malformedRequest => "MalformedRequest"
            | .general => "General"),
         ("message", Text.quote failure.explanation)] ++ ")"

end Failure

end BearerProxy
