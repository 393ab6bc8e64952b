import BearerProxy.Proofs.Secrecy.Forward

/-!
Requests that are dispatched over pools that differ in nothing but their secrets, step by step. Mints fail
over alike, requests are rejected alike, and a backend that does not look at the authorization lets the
client receive the same.
-/

namespace BearerProxy

structure DispatchState.Alike (one other : DispatchState ClockedIssuer) : Prop where
  rotation : one.rotation.Alike other.rotation
  tokens : one.tokens.Alike other.tokens

/-- The answers of a backend do not depend on the authorization. What its connections keep may depend on it,
as long as connections that are related answer alike. -/
def Exchange.Blind (exchange : Exchange ε) (SameAnswers : ε → ε → Prop) : Prop :=
  ∀ outbound otherOutbound connection otherConnection,
    OutboundRequest.Alike outbound otherOutbound → SameAnswers connection otherConnection →
      Reported.Alike (Paired Eq SameAnswers) (exchange.send outbound connection)
        (exchange.send otherOutbound otherConnection)

structure Dispatcher.Run.Alike (SameAnswers : ε → ε → Prop) (one other : Run ClockedIssuer ε σ) :
    Prop where
  result : one.result = other.result
  state : one.state.Alike other.state
  connection : SameAnswers one.connection other.connection
  client : one.client = other.client

namespace Dispatcher

def issuing (forwarder : Forwarder) : Dispatcher ClockedIssuer :=
  ⟨ClockedIssuer.source, forwarder⟩

variable {forwarder : Forwarder} {state otherState : DispatchState ClockedIssuer}
  {member otherMember : Member}

theorem stats_alike (forwarder : Forwarder) (alike : state.Alike otherState) :
    (issuing forwarder).stats state = (issuing forwarder).stats otherState := by
  rw [stats, stats, alike.rotation.stats, issuing, ClockedIssuer.source]
  simp only [alike.tokens.issuer.stats, alike.tokens.now]

theorem inspect_alike (forwarder : Forwarder) (alike : state.Alike otherState) :
    (issuing forwarder).inspect state = (issuing forwarder).inspect otherState := by
  rw [inspect, inspect, alike.rotation.stats]

theorem mintFor_alike (alike : state.Alike otherState) (same : member.Alike otherMember) :
    Reported.Alike (Paired (Agree Token.Alike) DispatchState.Alike)
      ((issuing forwarder).mintFor member state)
      ((issuing forwarder).mintFor otherMember otherState) := by
  rw [mintFor, mintFor]
  apply Reported.Alike.bind (alike.tokens.mint same)
  intro minted otherMinted both
  exact .pure ⟨both.first, { alike with tokens := both.second }⟩

theorem mintFallback_alike (alike : state.Alike otherState) :
    Reported.Alike (Paired (Agree (Paired Member.Alike Token.Alike)) DispatchState.Alike)
      ((issuing forwarder).mintFallback state) ((issuing forwarder).mintFallback otherState) := by
  rw [mintFallback, mintFallback]
  apply Reported.Alike.bind alike.rotation.next
  rintro ⟨chosen, rotation⟩ ⟨otherChosen, otherRotation⟩ ⟨choices, rotations⟩
  have advanced : DispatchState.Alike { state with rotation }
      { otherState with rotation := otherRotation } := { alike with rotation := rotations }
  cases choices with
  | error failure => exact .pure ⟨.error _, advanced⟩
  | ok same =>
      apply Reported.Alike.bind (mintFor_alike advanced same)
      rintro ⟨minted, after⟩ ⟨otherMinted, otherAfter⟩ ⟨mints, afters⟩
      cases mints with
      | error failure =>
          simp only [same.credential.label]
          exact .after _ fun _ => .pure ⟨.error _, afters⟩
      | ok token =>
          simp only [same.credential.label]
          exact .after _ fun _ => .pure ⟨.ok ⟨same, token⟩, afters⟩

theorem mintWithFailover_alike (alike : state.Alike otherState) (same : member.Alike otherMember) :
    Reported.Alike (Paired (Agree (Paired Member.Alike Token.Alike)) DispatchState.Alike)
      ((issuing forwarder).mintWithFailover member state)
      ((issuing forwarder).mintWithFailover otherMember otherState) := by
  rw [mintWithFailover, mintWithFailover]
  apply Reported.Alike.bind (mintFor_alike alike same)
  rintro ⟨minted, after⟩ ⟨otherMinted, otherAfter⟩ ⟨mints, afters⟩
  cases mints with
  | ok token => exact .pure ⟨.ok ⟨same, token⟩, afters⟩
  | error failure =>
      simp only [same.credential.label]
      apply Reported.Alike.after
      intro _
      apply Reported.Alike.bind (afters.rotation.quarantine same)
      intro rotation otherRotation rotations
      exact mintFallback_alike { afters with rotation := rotations }

theorem reject_alike {Related : α → β → Prop} (stage : Stage) (failure : Failure)
    (alike : state.Alike otherState) :
    Reported.Alike (Paired (Agree Related) DispatchState.Alike)
      (reject stage failure state) (reject stage failure otherState) := by
  rw [reject, reject]
  exact .after _ fun _ => .pure ⟨.error _, alike⟩

theorem rebuild_alike (request : InboundRequest) (alike : state.Alike otherState)
    (same : member.Alike otherMember) {token otherToken : Token} (tokens : token.Alike otherToken) :
    Reported.Alike (Paired (Agree Prepared.Alike) DispatchState.Alike)
      ((issuing forwarder).rebuild request member token state)
      ((issuing forwarder).rebuild request otherMember otherToken otherState) := by
  rw [rebuild, rebuild, same.credential.label]
  apply Reported.Alike.bind (Forwarder.prepare_alike _ _ _ tokens.sendable tokens.otherSendable)
  intro prepared otherPrepared outcomes
  cases outcomes with
  | error failure => exact reject_alike .tokenMinted failure alike
  | ok outbound => exact .pure ⟨.ok ⟨same, tokens, outbound⟩, alike⟩

theorem prepare_alike (forwarder : Forwarder) (request : InboundRequest)
    (alike : state.Alike otherState) :
    Reported.Alike (Paired (Agree Prepared.Alike) DispatchState.Alike)
      ((issuing forwarder).prepare request state)
      ((issuing forwarder).prepare request otherState) := by
  rw [prepare, prepare]
  cases (issuing forwarder).forwarder.validate request with
  | error failure => exact reject_alike .start failure alike
  | ok _ =>
      apply Reported.Alike.bind alike.rotation.next
      rintro ⟨chosen, rotation⟩ ⟨otherChosen, otherRotation⟩ ⟨choices, rotations⟩
      have advanced : DispatchState.Alike { state with rotation }
          { otherState with rotation := otherRotation } := { alike with rotation := rotations }
      cases choices with
      | error failure => exact reject_alike .validated failure advanced
      | ok same =>
          apply Reported.Alike.bind (mintWithFailover_alike advanced same)
          rintro ⟨minted, after⟩ ⟨otherMinted, otherAfter⟩ ⟨mints, afters⟩
          cases mints with
          | error failure => exact reject_alike .credentialSelected failure afters
          | ok found => exact rebuild_alike request afters found.first found.second

theorem run_alike (forwarder : Forwarder) {exchange : Exchange ε} {SameAnswers : ε → ε → Prop}
    (blind : exchange.Blind SameAnswers) (sink : Sink σ) (request : InboundRequest)
    (alike : state.Alike otherState) {connection otherConnection : ε}
    (connected : SameAnswers connection otherConnection) (client : σ) :
    Reported.Alike (Run.Alike SameAnswers)
      ((issuing forwarder).run exchange sink request state connection client)
      ((issuing forwarder).run exchange sink request otherState otherConnection client) := by
  rw [run, run]
  apply Reported.Alike.bind (prepare_alike forwarder request alike)
  rintro ⟨prepared, after⟩ ⟨otherPrepared, otherAfter⟩ ⟨outcomes, afters⟩
  cases outcomes with
  | error rejection => exact .pure ⟨rfl, afters, connected, rfl⟩
  | @ok one other same =>
      apply Reported.Alike.bind (blind one.outbound other.outbound _ _ same.outbound connected)
      rintro ⟨answered, answering⟩ ⟨otherAnswered, otherAnswering⟩ ⟨answers, answerings⟩
      cases answers
      cases answered with
      | crash => exact .pure ⟨rfl, afters, answerings, rfl⟩
      | failure failure => exact .after _ fun _ => .pure ⟨rfl, afters, answerings, rfl⟩
      | response response =>
          simp only [same.member.credential.label]
          apply Reported.Alike.after
          intro _
          exact .after _ fun _ => .pure ⟨rfl, afters, answerings, rfl⟩

end Dispatcher

end BearerProxy
