import BearerProxy.Dispatch.Stage
import BearerProxy.Forward.Outbound
import BearerProxy.Forward.Relay
import BearerProxy.Rotation
import BearerProxy.Token.Issuer

/-!
The course of a request: it is checked, a credential is chosen, a token is minted (with one more attempt
on another credential), the request is rebuilt and sent, and the response is relayed.
-/

namespace BearerProxy

/-- Where tokens come from, as a rule on states. -/
structure TokenSource (τ : Type u) where
  mint : Member → τ → Reported (Except Failure Token × τ)
  stats : τ → Option CacheStats

structure ClockedIssuer where
  issuer : Issuer
  now : UInt64
  deriving Repr

def ClockedIssuer.source : TokenSource ClockedIssuer where
  mint member clocked := do
    let (result, issuer) ← clocked.issuer.mint clocked.now member.credential
    return (result, { clocked with issuer })
  stats clocked := some (clocked.issuer.stats clocked.now)

structure BackendResponse where
  status : Nat
  headers : Http.Headers
  body : List StreamItem
  deriving DecidableEq

/-- What comes of a request that is sent. After a crash nothing more is known. -/
inductive SendResult
  | response (response : BackendResponse)
  | failure (failure : ExchangeFailure)
  | crash
  deriving DecidableEq

structure Exchange (ε : Type u) where
  send : OutboundRequest → ε → Reported (SendResult × ε)

structure Prepared where
  member : Member
  token : Token
  outbound : OutboundRequest
  deriving DecidableEq

def Prepared.inspect (prepared : Prepared) : String :=
  Text.inspectFields "Prepared"
    [("credential", prepared.member.credential.inspect),
     ("token", prepared.token.inspect),
     ("outbound", prepared.outbound.inspect)]

structure Dispatched where
  credential : String
  status : Nat
  relay : RelaySummary
  deriving DecidableEq, Repr

/-- Only a relay that reached the end of the body has streamed it back. -/
def Dispatched.stage (dispatched : Dispatched) : Stage :=
  match dispatched.relay.outcome with
  | .completed => .streamedBack
  | .clientDisconnected | .backendFailed => .forwarded

inductive RunResult
  | dispatched (dispatched : Dispatched)
  | rejected (rejection : Rejection)
  | crashed
  deriving DecidableEq, Repr

structure DispatchStats where
  rotation : RotationStats
  tokens : Option CacheStats
  deriving DecidableEq, Repr

structure Dispatcher (τ : Type u) where
  source : TokenSource τ
  forwarder : Forwarder

structure DispatchState (τ : Type u) where
  rotation : Rotation
  tokens : τ

namespace Dispatcher

def stats (dispatcher : Dispatcher τ) (state : DispatchState τ) : DispatchStats :=
  ⟨state.rotation.stats, dispatcher.source.stats state.tokens⟩

def mintFor (dispatcher : Dispatcher τ) (member : Member) (state : DispatchState τ) :
    Reported (Except Failure Token × DispatchState τ) := do
  let (minted, tokens) ← dispatcher.source.mint member state.tokens
  return (minted, { state with tokens })

/-- The second and last attempt, on the member that is next. It stays in rotation even if this fails. -/
def mintFallback (dispatcher : Dispatcher τ) (state : DispatchState τ) :
    Reported (Except Failure (Member × Token) × DispatchState τ) := do
  let (chosen, rotation) ← state.rotation.next
  let state := { state with rotation }
  match chosen with
  | .error failure => return (.error (.failoverExhausted failure), state)
  | .ok fallback =>
      let label := ("credential", Detail.text fallback.credential.label)
      let (minted, state) ← dispatcher.mintFor fallback state
      match minted with
      | .ok token =>
          infoEvent .dispatch "failover succeeded" [label]
          return (.ok (fallback, token), state)
      | .error failure =>
          warnEvent .dispatch "failover credential also failed"
            [label, ("error", .text failure.message)]
          return (.error (.failoverExhausted failure), state)

/-- Mints a token for a member or, if that fails, puts it into quarantine and tries one other. -/
def mintWithFailover (dispatcher : Dispatcher τ) (member : Member) (state : DispatchState τ) :
    Reported (Except Failure (Member × Token) × DispatchState τ) := do
  let (minted, state) ← dispatcher.mintFor member state
  match minted with
  | .ok token => return (.ok (member, token), state)
  | .error failure =>
      warnEvent .dispatch "token generation failed; quarantining and failing over"
        [("credential", .text member.credential.label), ("error", .text failure.message)]
      let rotation ← state.rotation.quarantine member
      dispatcher.mintFallback { state with rotation }

def reject (stage : Stage) (failure : Failure) (state : DispatchState τ) :
    Reported (Except Rejection α × DispatchState τ) := do
  return (.error (← Rejection.report ⟨stage, failure⟩), state)

def rebuild (dispatcher : Dispatcher τ) (request : InboundRequest) (member : Member) (token : Token)
    (state : DispatchState τ) : Reported (Except Rejection Prepared × DispatchState τ) := do
  match ← dispatcher.forwarder.prepare request token.value member.credential.label with
  | .error failure => reject .tokenMinted failure state
  | .ok outbound => return (.ok { member, token, outbound }, state)

/-- Takes a request from its arrival to the point where it can be sent. -/
def prepare (dispatcher : Dispatcher τ) (request : InboundRequest) (state : DispatchState τ) :
    Reported (Except Rejection Prepared × DispatchState τ) :=
  match dispatcher.forwarder.validate request with
  | .error failure => reject .start failure state
  | .ok () => do
      let (chosen, rotation) ← state.rotation.next
      let state := { state with rotation }
      match chosen with
      | .error failure => reject .validated failure state
      | .ok member =>
          let (minted, state) ← dispatcher.mintWithFailover member state
          match minted with
          | .error failure => reject .credentialSelected failure state
          | .ok (member, token) => dispatcher.rebuild request member token state

/-- Passes a response on to the client. Nothing is relayed if the client does not take the head. -/
def passOn (sink : Sink σ) (credential : String) (response : BackendResponse) (client : σ) :
    Reported (Dispatched × σ) :=
  match sink.sendHead response.status (relayedHeaders response.headers) client with
  | (false, client) =>
      return ({ credential, status := response.status, relay := ⟨0, 0, .clientDisconnected⟩ }, client)
  | (true, client) => do
      let (relay, client) ← sink.relay response.body client
      return ({ credential, status := response.status, relay }, client)

structure Run (τ : Type u) (ε : Type v) (σ : Type w) where
  result : RunResult
  state : DispatchState τ
  connection : ε
  client : σ

/-- Takes a request from its arrival to the end of its response. The client receives nothing of a
request that is rejected. -/
def run (dispatcher : Dispatcher τ) (exchange : Exchange ε) (sink : Sink σ) (request : InboundRequest)
    (state : DispatchState τ) (connection : ε) (client : σ) : Reported (Run τ ε σ) := do
  let (prepared, state) ← dispatcher.prepare request state
  match prepared with
  | .error rejection => return { result := .rejected rejection, state, connection, client }
  | .ok prepared =>
      let (answered, connection) ← exchange.send prepared.outbound connection
      match answered with
      | .crash => return { result := .crashed, state, connection, client }
      | .failure failure =>
          let rejection ← Rejection.report ⟨.authorized, .exchange failure⟩
          return { result := .rejected rejection, state, connection, client }
      | .response response =>
          let credential := prepared.member.credential.label
          infoEvent .dispatch "upstream responded"
            [("credential", .text credential), ("status", .count response.status)]
          let (dispatched, client) ← passOn sink credential response client
          return { result := .dispatched dispatched, state, connection, client }

def inspect (dispatcher : Dispatcher τ) (state : DispatchState τ) : String :=
  Text.inspectSomeFields "Dispatcher"
    [("balancer", state.rotation.stats.inspect), ("forwarder", dispatcher.forwarder.inspect)]

end Dispatcher

end BearerProxy
