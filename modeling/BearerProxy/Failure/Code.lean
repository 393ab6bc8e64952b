/-!
The closed list of codes under which the proxy answers that something went wrong, and the failures of the exchange with
the origin server.
-/

namespace BearerProxy

inductive FailureCode
  | secretsFileMissing
  | configurationFormat
  | configurationFieldsMissing
  | configurationEmpty
  | configurationRejected
  | tokenGeneration
  | credentialRejected
  | noCredentialAvailable
  | failoverExhausted
  | requestFormat
  | methodMissing
  | pathMissing
  | connection
  | timeout
  | unexpected
  deriving DecidableEq, Repr

namespace FailureCode

def text : FailureCode → String
  | .secretsFileMissing => "CONFIG_1001"
  | .configurationFormat => "CONFIG_1002"
  | .configurationFieldsMissing => "CONFIG_1003"
  | .configurationEmpty => "CONFIG_1004"
  | .configurationRejected => "CONFIG_1005"
  | .tokenGeneration => "AUTH_2001"
  | .credentialRejected => "AUTH_2002"
  | .noCredentialAvailable => "AUTH_2003"
  | .failoverExhausted => "AUTH_2004"
  | .requestFormat => "REQUEST_3001"
  | .methodMissing => "REQUEST_3002"
  | .pathMissing => "REQUEST_3003"
  | .connection => "NETWORK_4001"
  | .timeout => "NETWORK_4002"
  | .unexpected => "INTERNAL_5001"

def status : FailureCode → Nat
  | .secretsFileMissing | .configurationFormat | .configurationFieldsMissing
  | .configurationEmpty | .configurationRejected | .tokenGeneration | .credentialRejected
  | .unexpected => 500
  | .noCredentialAvailable | .failoverExhausted => 503
  | .requestFormat | .methodMissing | .pathMissing => 400
  | .connection | .timeout => 502

def message : FailureCode → String
  | .secretsFileMissing => "Configuration file not found"
  | .configurationFormat => "Invalid configuration file format"
  | .configurationFieldsMissing => "Configuration missing required fields"
  | .configurationEmpty => "Configuration array is empty"
  | .configurationRejected => "Configuration validation failed"
  | .tokenGeneration => "Failed to generate authentication token"
  | .credentialRejected => "Invalid authentication credentials"
  | .noCredentialAvailable => "No authentication configurations available"
  | .failoverExhausted => "All authentication configurations have failed"
  | .requestFormat => "Invalid request format"
  | .methodMissing => "Request missing HTTP method"
  | .pathMissing => "Request missing path"
  | .connection => "Failed to connect to upstream server"
  | .timeout => "Request to upstream server timed out"
  | .unexpected => "An unexpected error occurred"

end FailureCode

/-! Failures of the connection, the request or the answer. -/

inductive ExchangeFault
  | network
  | timeout
  | malformedRequest
  | general
  deriving DecidableEq, Repr, Inhabited

namespace ExchangeFault

def code : ExchangeFault → FailureCode
  | .network => .connection
  | .timeout => .timeout
  | .malformedRequest => .requestFormat
  | .general => .unexpected

def name : ExchangeFault → String
  | .network => "network"
  | .timeout => "timeout"
  | .malformedRequest => "invalid_request"
  | .general => "general"

end ExchangeFault

structure ExchangeFailure where
  fault : ExchangeFault
  explanation : String
  deriving DecidableEq, Repr, Inhabited

def ExchangeFailure.message (failure : ExchangeFailure) : String :=
  failure.fault.name ++ " failure: " ++ failure.explanation

end BearerProxy
