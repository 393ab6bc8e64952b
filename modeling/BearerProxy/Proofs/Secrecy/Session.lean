import BearerProxy.Proofs.Dispatch.Failover
import BearerProxy.Proofs.Secrecy.Dispatch

/-!
Whole sessions with a dispatcher. Over pools that differ in nothing but their secrets, one and the same
session shows the same at every step: in its results, in what the client receives, in the journal, in the
counts and in every inspection text. Only the bearers differ.
-/

namespace BearerProxy

/-- What can happen to a dispatcher. A request that is run comes from a client of its own; a credential is
put into quarantine by its position in the pool. -/
inductive SessionStep (σ : Type u)
  | prepare (request : InboundRequest)
  | run (request : InboundRequest) (client : σ)
  | quarantine (position : Nat)
  | reset
  | clearTokens
  | setClock (now : UInt64)

inductive SessionResult (σ : Type u)
  | prepared (prepared : Except Rejection Prepared)
  | ran (prepared : Except Rejection Prepared) (result : RunResult) (client : σ)
  | done

structure Session (ε : Type u) where
  state : DispatchState ClockedIssuer
  connection : ε

structure Observation (σ : Type u) where
  result : SessionResult σ
  events : List Event
  stats : DispatchStats
  dispatcher : String
  rotation : String
  issuer : String

namespace Session

variable (forwarder : Forwarder) (exchange : Exchange ε) (sink : Sink σ)

def start (policy : TokenPolicy) (now : UInt64) (rotation : Rotation) (connection : ε) :
    Session ε :=
  { state := { rotation, tokens := .start policy now }
    connection }

def perform (session : Session ε) : SessionStep σ → Reported (SessionResult σ × Session ε)
  | .prepare request => do
      let (prepared, state) ← (Dispatcher.issuing forwarder).prepare request session.state
      return (.prepared prepared, { session with state })
  | .run request client => do
      let prepared := ((Dispatcher.issuing forwarder).prepare request session.state).value.1
      let run ← (Dispatcher.issuing forwarder).run exchange sink request session.state
        session.connection client
      return (.ran prepared run.result run.client, { state := run.state, connection := run.connection })
  | .quarantine position =>
      match session.state.rotation.members[position]? with
      | none => return (.done, session)
      | some member => do
          let rotation ← session.state.rotation.quarantine member
          return (.done, { session with state := { session.state with rotation } })
  | .reset => do
      let rotation ← session.state.rotation.reset
      return (.done, { session with state := { session.state with rotation } })
  | .clearTokens => do
      let issuer ← session.state.tokens.issuer.clear
      let tokens := { session.state.tokens with issuer }
      return (.done, { session with state := { session.state with tokens } })
  | .setClock now =>
      let tokens := { session.state.tokens with now }
      return (.done, { session with state := { session.state with tokens } })

def observe (performed : Reported (SessionResult σ × Session ε)) : Observation σ :=
  let state := performed.value.2.state
  { result := performed.value.1
    events := performed.events
    stats := (Dispatcher.issuing forwarder).stats state
    dispatcher := (Dispatcher.issuing forwarder).inspect state
    rotation := state.rotation.inspect
    issuer := state.tokens.issuer.inspect state.tokens.now }

def observations (session : Session ε) : List (SessionStep σ) → List (Observation σ)
  | [] => []
  | step :: steps =>
      let performed := session.perform forwarder exchange sink step
      observe forwarder performed :: observations performed.value.2 steps

end Session

/-! What is the same. -/

/-- The requests were prepared with the same credential and are the same but for the authorization; the
tokens are the same but for their values. -/
structure Prepared.Indistinct (one other : Prepared) : Prop where
  position : one.member.position = other.member.position
  label : one.member.credential.label = other.member.credential.label
  inspectCredential : one.member.credential.inspect = other.member.credential.inspect
  inspectClaims : (Claims.ofCredential one.member.credential).inspect =
    (Claims.ofCredential other.member.credential).inspect
  mintedAt : one.token.mintedAt = other.token.mintedAt
  expiresAt : one.token.expiresAt = other.token.expiresAt
  inspectToken : one.token.inspect = other.token.inspect
  outbound : one.outbound.Alike other.outbound
  inspectOutbound : one.outbound.inspect = other.outbound.inspect
  inspect : one.inspect = other.inspect

inductive SessionResult.Indistinct : SessionResult σ → SessionResult σ → Prop
  | prepared (prepared : Agree Prepared.Indistinct one other) :
      Indistinct (.prepared one) (.prepared other)
  | ran (prepared : Agree Prepared.Indistinct one other) (result : RunResult) (client : σ) :
      Indistinct (.ran one result client) (.ran other result client)
  | done : Indistinct .done .done

structure Observation.Indistinct (one other : Observation σ) : Prop where
  result : one.result.Indistinct other.result
  events : one.events = other.events
  stats : one.stats = other.stats
  dispatcher : one.dispatcher = other.dispatcher
  rotation : one.rotation = other.rotation
  issuer : one.issuer = other.issuer

theorem Prepared.Alike.indistinct {one other : Prepared} (alike : one.Alike other) :
    one.Indistinct other where
  position := alike.member.position
  label := alike.member.credential.label
  inspectCredential := alike.member.credential.inspect
  inspectClaims := alike.member.credential.inspectClaims
  mintedAt := alike.token.mintedAt
  expiresAt := alike.token.expiresAt
  inspectToken := alike.token.inspect
  outbound := alike.outbound
  inspectOutbound := alike.outbound.inspect
  inspect := alike.inspect

/-! One step, and all of them. -/

structure Session.Alike (SameAnswers : ε → ε → Prop) (one other : Session ε) : Prop where
  state : one.state.Alike other.state
  connection : SameAnswers one.connection other.connection

namespace Session.Alike

variable {exchange : Exchange ε} {SameAnswers : ε → ε → Prop} {one other : Session ε}

theorem start (policy : TokenPolicy) (now : UInt64) {rotation otherRotation : Rotation}
    (alike : rotation.Alike otherRotation) {connection otherConnection : ε}
    (connected : SameAnswers connection otherConnection) :
    Session.Alike SameAnswers (Session.start policy now rotation connection)
      (Session.start policy now otherRotation otherConnection) where
  state := { rotation := alike, tokens := { issuer := .new policy, now := rfl } }
  connection := connected

theorem perform (alike : one.Alike SameAnswers other) (blind : exchange.Blind SameAnswers)
    (forwarder : Forwarder) (sink : Sink σ) (step : SessionStep σ) :
    Reported.Alike (Paired SessionResult.Indistinct (Session.Alike SameAnswers))
      (one.perform forwarder exchange sink step) (other.perform forwarder exchange sink step) := by
  cases step with
  | prepare request =>
      apply Reported.Alike.bind (Dispatcher.prepare_alike forwarder request alike.state)
      intro prepared otherPrepared both
      have indistinct := both.first.imp fun _ _ same => same.indistinct
      exact .pure ⟨.prepared indistinct, { alike with state := both.second }⟩
  | run request client =>
      have prepares := Dispatcher.prepare_alike forwarder request alike.state
      have indistinct := prepares.value.first.imp fun _ _ same => same.indistinct
      apply Reported.Alike.bind
        (Dispatcher.run_alike forwarder blind sink request alike.state alike.connection client)
      intro run otherRun same
      rw [same.result, same.client]
      exact .pure ⟨.ran indistinct otherRun.result otherRun.client,
        { state := same.state, connection := same.connection }⟩
  | quarantine position =>
      have found := getElem?_of_forall₂ alike.state.rotation.members position
      rw [Session.perform, Session.perform]
      generalize one.state.rotation.members[position]? = member at found ⊢
      generalize other.state.rotation.members[position]? = otherMember at found ⊢
      cases found with
      | none => exact .pure ⟨.done, alike⟩
      | some same =>
          apply Reported.Alike.bind (alike.state.rotation.quarantine same)
          intro rotation otherRotation rotations
          exact .pure ⟨.done, { alike with state := { alike.state with rotation := rotations } }⟩
  | reset =>
      apply Reported.Alike.bind alike.state.rotation.reset
      intro rotation otherRotation rotations
      exact .pure ⟨.done, { alike with state := { alike.state with rotation := rotations } }⟩
  | clearTokens =>
      apply Reported.Alike.bind alike.state.tokens.issuer.clear
      intro issuer otherIssuer issuers
      have tokens : ClockedIssuer.Alike { one.state.tokens with issuer }
          { other.state.tokens with issuer := otherIssuer } :=
        { alike.state.tokens with issuer := issuers }
      exact .pure ⟨.done, { alike with state := { alike.state with tokens } }⟩
  | setClock now =>
      have tokens : ClockedIssuer.Alike { one.state.tokens with now }
          { other.state.tokens with now } :=
        { alike.state.tokens with now := rfl }
      exact .pure ⟨.done, { alike with state := { alike.state with tokens } }⟩

theorem observe {performed otherPerformed : Reported (SessionResult σ × Session ε)}
    (forwarder : Forwarder)
    (alike : Reported.Alike (Paired SessionResult.Indistinct (Session.Alike SameAnswers))
      performed otherPerformed) :
    (Session.observe forwarder performed).Indistinct (Session.observe forwarder otherPerformed) where
  result := alike.value.first
  events := alike.events
  stats := Dispatcher.stats_alike forwarder alike.value.second.state
  dispatcher := Dispatcher.inspect_alike forwarder alike.value.second.state
  rotation := alike.value.second.state.rotation.inspect
  issuer := by
    have tokens := alike.value.second.state.tokens
    simp only [Session.observe, tokens.now, tokens.issuer.inspect]

theorem observations (alike : one.Alike SameAnswers other) (blind : exchange.Blind SameAnswers)
    (forwarder : Forwarder) (sink : Sink σ) (steps : List (SessionStep σ)) :
    List.Forall₂ Observation.Indistinct (one.observations forwarder exchange sink steps)
      (other.observations forwarder exchange sink steps) := by
  induction steps generalizing one other with
  | nil => exact .nil
  | cons step steps induction =>
      have performed := alike.perform blind forwarder sink step
      exact .cons (observe forwarder performed) (induction performed.value.second)

end Session.Alike

/-- Secrets influence nothing but the bearers: over pools that differ in their secrets only, either no
dispatcher comes about, for the same reason, or the same session shows the same at every step. -/
theorem Session.observations_indistinct (policy : TokenPolicy) (now : UInt64)
    (forwarder : Forwarder) (exchange : Exchange ε) (sink : Sink σ) (SameAnswers : ε → ε → Prop)
    (blind : exchange.Blind SameAnswers) (connection otherConnection : ε)
    (connected : SameAnswers connection otherConnection) (credentials others : List Credential)
    (alike : List.Forall₂ Credential.Alike credentials others) (steps : List (SessionStep σ)) :
    Reported.Alike
      (Agree fun rotation otherRotation =>
        List.Forall₂ Observation.Indistinct
          ((start policy now rotation connection).observations forwarder exchange sink steps)
          ((start policy now otherRotation otherConnection).observations forwarder exchange sink
            steps))
      (Rotation.new credentials) (Rotation.new others) := by
  have rotations := Rotation.Alike.new alike
  constructor
  case events => exact rotations.events
  case value =>
    apply rotations.value.imp
    intro rotation otherRotation same
    exact (Alike.start policy now same connected).observations blind forwarder sink steps

/-- A backend that keeps every request, and its authorization with it, but answers without a look at it. -/
def recorder : Exchange (List OutboundRequest) where
  send outbound sent := return (.response ⟨200, .empty, []⟩, sent ++ [outbound])

def halfBlankCredentials (secret blank : String) : List Credential :=
  [{ id := "north", secret, tenant := "north" }, { id := "south", secret := blank, tenant := "south" }]

theorem Session.observations_indistinct_halfBlank :
    recorder.Blind (fun _ _ => True) ∧
      List.Forall₂ Credential.Alike (halfBlankCredentials "first-secret" "")
        (halfBlankCredentials "other secret" " ") ∧
      Reported.Alike
        (Agree fun rotation otherRotation =>
          List.Forall₂ Observation.Indistinct
            ((start {} 1000 rotation []).observations {} recorder Collected.sink
              [.run greeting {}, .prepare greeting, .quarantine 1, .setClock 5000, .run greeting {}])
            ((start {} 1000 otherRotation []).observations {} recorder Collected.sink
              [.run greeting {}, .prepare greeting, .quarantine 1, .setClock 5000, .run greeting {}]))
        (Rotation.new (halfBlankCredentials "first-secret" ""))
        (Rotation.new (halfBlankCredentials "other secret" " ")) := by
  have blind : recorder.Blind (fun _ _ => True) := by
    intro outbound otherOutbound connection otherConnection alike same
    exact .pure ⟨rfl, trivial⟩
  have alike : List.Forall₂ Credential.Alike (halfBlankCredentials "first-secret" "")
      (halfBlankCredentials "other secret" " ") :=
    .cons ⟨rfl, rfl, rfl, by decide⟩ (.cons ⟨rfl, rfl, rfl, by decide⟩ .nil)
  exact ⟨blind, alike,
    observations_indistinct {} 1000 {} recorder Collected.sink (fun _ _ => True) blind [] [] trivial
      _ _ alike _⟩

end BearerProxy
