import BearerProxy.Proofs.Dispatch.Course

/-!
Sources of tokens, connections and clients that keep a record of the calls made on them. The record of a
preparation holds the attempts of its course, and no run depends on whether records are kept.
-/

namespace BearerProxy

namespace TokenSource

def recorded (source : TokenSource τ) : TokenSource (τ × List MintAttempt) where
  mint member state := do
    let (outcome, tokens) ← source.mint member state.1
    return (outcome, tokens, state.2 ++ [⟨member, outcome⟩])
  stats state := source.stats state.1

theorem recorded_mint {source : TokenSource τ} {member : Member} {before after : τ}
    {outcome : Except Failure Token} (log : List MintAttempt)
    (minted : (source.mint member before).value = (outcome, after)) :
    (source.recorded.mint member (before, log)).value =
      (outcome, after, log ++ [⟨member, outcome⟩]) := by
  simp only [recorded, Reported.value_bind, minted]
  rfl

end TokenSource

def Exchange.recorded (exchange : Exchange ε) : Exchange (ε × List OutboundRequest) where
  send outbound state := do
    let (result, connection) ← exchange.send outbound state.1
    return (result, connection, state.2 ++ [outbound])

theorem Exchange.recorded_send {exchange : Exchange ε} {outbound : OutboundRequest}
    {result : SendResult} {connection answered : ε}
    (sends : (exchange.send outbound connection).value = (result, answered)) :
    (exchange.recorded.send outbound (connection, [])).value = (result, answered, [outbound]) := by
  simp only [recorded, Reported.value_bind, sends]
  rfl

inductive SinkCall
  | head (status : Nat) (headers : Http.Headers)
  | chunk (bytes : ByteArray)
  | abort (failure : ExchangeFailure)

namespace Sink

def recorded (sink : Sink σ) : Sink (σ × List SinkCall) where
  sendHead status headers state :=
    let (taken, client) := sink.sendHead status headers state.1
    (taken, client, state.2 ++ [.head status headers])
  sendChunk bytes state :=
    let (taken, client) := sink.sendChunk bytes state.1
    (taken, client, state.2 ++ [.chunk bytes])
  abort failure state := (sink.abort failure state.1, state.2 ++ [.abort failure])

def unrecorded (outcome : α × σ × List SinkCall) : α × σ :=
  (outcome.1, outcome.2.1)

theorem relayFrom_recorded (sink : Sink σ) (bytes chunks : Nat) (items : List StreamItem)
    (state : σ × List SinkCall) :
    unrecorded (sink.recorded.relayFrom bytes chunks items state).value =
      (sink.relayFrom bytes chunks items state.1).value := by
  induction items generalizing bytes chunks state with
  | nil => rfl
  | cons item items induction =>
      cases item with
      | failure failure => rfl
      | chunk chunk =>
          rw [relayFrom, relayFrom]
          split
          · exact induction bytes chunks state
          · cases offered : sink.sendChunk chunk state.1 with
            | mk taken client =>
                have offeredToo : sink.recorded.sendChunk chunk state =
                    (taken, client, state.2 ++ [.chunk chunk]) := by
                  simp only [recorded, offered]
                rw [offeredToo]
                cases taken with
                | true => exact induction (bytes + chunk.size) (chunks + 1) (client, _)
                | false => rfl

end Sink

def DispatchState.recording (state : DispatchState τ) (log : List MintAttempt) :
    DispatchState (τ × List MintAttempt) :=
  ⟨state.rotation, state.tokens, log⟩

namespace Dispatcher

def recorded (dispatcher : Dispatcher τ) : Dispatcher (τ × List MintAttempt) :=
  { dispatcher with source := dispatcher.source.recorded }

def attempts (dispatcher : Dispatcher τ) (request : InboundRequest) (state : DispatchState τ) :
    List MintAttempt :=
  (dispatcher.recorded.prepare request (state.recording [])).value.2.tokens.2

end Dispatcher

theorem Search.recorded {source : TokenSource τ} {first : Member} {state after : DispatchState τ}
    {attempts : List MintAttempt} {outcome : Except Failure (Member × Token)}
    (search : Search source first state attempts outcome after) (log : List MintAttempt) :
    Search source.recorded first (state.recording log) attempts outcome
      (after.recording (log ++ attempts)) := by
  cases search with
  | minted token tokens minted =>
      exact .minted token (tokens, _) (TokenSource.recorded_mint log minted)
  | alone failure tokens failed alone =>
      exact .alone failure (tokens, _) (TokenSource.recorded_mint log failed) alone
  | fallback failure between second token tokens failed selected minted =>
      have mintedNext := TokenSource.recorded_mint (log ++ [⟨first, .error failure⟩]) minted
      rw [List.append_assoc] at mintedNext
      exact .fallback failure (between, _) second token (tokens, _)
        (TokenSource.recorded_mint log failed) selected mintedNext
  | exhausted failure between second last tokens failed selected failedToo =>
      have failedNext := TokenSource.recorded_mint (log ++ [⟨first, .error failure⟩]) failedToo
      rw [List.append_assoc] at failedNext
      exact .exhausted failure (between, _) second last (tokens, _)
        (TokenSource.recorded_mint log failed) selected failedNext

namespace Course

variable {dispatcher : Dispatcher τ} {request : InboundRequest} {state after : DispatchState τ}
  {attempts : List MintAttempt} {outcome : Except Rejection Prepared}

theorem recorded (course : Course dispatcher request state attempts outcome after)
    (log : List MintAttempt) :
    Course dispatcher.recorded request (state.recording log) attempts outcome
      (after.recording (log ++ attempts)) := by
  cases course with
  | refused failure refused =>
      rw [List.append_nil]
      exact .refused failure refused
  | unavailable valid empty =>
      rw [List.append_nil]
      exact .unavailable valid empty
  | unminted first attempts failure after valid selected search =>
      exact .unminted first attempts failure _ valid selected (search.recorded log)
  | unbuilt first member token attempts failure after valid selected search refused =>
      exact .unbuilt first member token attempts failure _ valid selected (search.recorded log)
        refused
  | built first member token attempts outbound after valid selected search accepted =>
      exact .built first member token attempts outbound _ valid selected (search.recorded log)
        accepted

theorem attempts_eq (course : Course dispatcher request state attempts outcome after)
    (consistent : state.rotation.Consistent) :
    dispatcher.attempts request state = attempts := by
  rw [Dispatcher.attempts, (course.recorded []).value_eq consistent]
  rfl

end Course

theorem Dispatcher.prepare_recorded (dispatcher : Dispatcher τ) (request : InboundRequest)
    (state : DispatchState τ) (consistent : state.rotation.Consistent) :
    (dispatcher.recorded.prepare request (state.recording [])).value =
      ((dispatcher.prepare request state).value.1,
        (dispatcher.prepare request state).value.2.recording (dispatcher.attempts request state)) := by
  rcases Course.total dispatcher request state consistent with ⟨attempts, outcome, after, course⟩
  rw [course.attempts_eq consistent, course.value_eq consistent,
    (course.recorded []).value_eq consistent]
  rfl

/-- All calls of a run on what is outside of the dispatcher. -/
structure Calls where
  mints : List MintAttempt
  sends : List OutboundRequest
  client : List SinkCall

namespace Dispatcher

variable {dispatcher : Dispatcher τ} {exchange : Exchange ε} {sink : Sink σ}
  {request : InboundRequest} {state after : DispatchState τ}

/-! What each end of a run leaves behind. -/

theorem run_of_rejection {rejection : Rejection} (connection : ε) (client : σ)
    (prepared : (dispatcher.prepare request state).value = (.error rejection, after)) :
    (dispatcher.run exchange sink request state connection client).value =
      { result := .rejected rejection, state := after, connection, client } := by
  rw [run]
  simp only [Reported.value_bind, prepared]
  rfl

theorem run_of_crash {prepared : Prepared} {connection answered : ε} (client : σ)
    (prepares : (dispatcher.prepare request state).value = (.ok prepared, after))
    (sends : (exchange.send prepared.outbound connection).value = (.crash, answered)) :
    (dispatcher.run exchange sink request state connection client).value =
      { result := .crashed, state := after, connection := answered, client } := by
  rw [run]
  simp only [Reported.value_bind, prepares, sends]
  rfl

theorem run_of_failure {prepared : Prepared} {failure : ExchangeFailure}
    {connection answered : ε} (client : σ)
    (prepares : (dispatcher.prepare request state).value = (.ok prepared, after))
    (sends : (exchange.send prepared.outbound connection).value = (.failure failure, answered)) :
    (dispatcher.run exchange sink request state connection client).value =
      { result := .rejected ⟨.authorized, .exchange failure⟩, state := after,
        connection := answered, client } := by
  rw [run]
  simp only [Reported.value_bind, prepares, sends]
  rfl

theorem run_of_response {prepared : Prepared} {response : BackendResponse}
    {connection answered : ε} (client : σ)
    (prepares : (dispatcher.prepare request state).value = (.ok prepared, after))
    (sends : (exchange.send prepared.outbound connection).value = (.response response, answered)) :
    (dispatcher.run exchange sink request state connection client).value =
      { result := .dispatched
          (passOn sink prepared.member.credential.label response client).value.1
        state := after
        connection := answered
        client := (passOn sink prepared.member.credential.label response client).value.2 } := by
  rw [run]
  simp only [Reported.value_bind, prepares, sends]
  rfl

/-- How a run goes, with what it leaves behind. -/
inductive RunCourse (dispatcher : Dispatcher τ) (exchange : Exchange ε) (sink : Sink σ)
    (request : InboundRequest) (state : DispatchState τ) (connection : ε) (client : σ) :
    Run τ ε σ → Prop
  | rejected (rejection : Rejection) (after : DispatchState τ)
      (prepares : (dispatcher.prepare request state).value = (.error rejection, after)) :
      RunCourse dispatcher exchange sink request state connection client
        { result := .rejected rejection, state := after, connection, client }
  | crashed (prepared : Prepared) (after : DispatchState τ) (answered : ε)
      (prepares : (dispatcher.prepare request state).value = (.ok prepared, after))
      (sends : (exchange.send prepared.outbound connection).value = (.crash, answered)) :
      RunCourse dispatcher exchange sink request state connection client
        { result := .crashed, state := after, connection := answered, client }
  | failed (prepared : Prepared) (after : DispatchState τ) (failure : ExchangeFailure) (answered : ε)
      (prepares : (dispatcher.prepare request state).value = (.ok prepared, after))
      (sends : (exchange.send prepared.outbound connection).value = (.failure failure, answered)) :
      RunCourse dispatcher exchange sink request state connection client
        { result := .rejected ⟨.authorized, .exchange failure⟩, state := after,
          connection := answered, client }
  | dispatched (prepared : Prepared) (after : DispatchState τ) (response : BackendResponse)
      (answered : ε)
      (prepares : (dispatcher.prepare request state).value = (.ok prepared, after))
      (sends : (exchange.send prepared.outbound connection).value = (.response response, answered)) :
      RunCourse dispatcher exchange sink request state connection client
        { result := .dispatched
            (passOn sink prepared.member.credential.label response client).value.1
          state := after
          connection := answered
          client := (passOn sink prepared.member.credential.label response client).value.2 }

theorem run_course (dispatcher : Dispatcher τ) (exchange : Exchange ε) (sink : Sink σ)
    (request : InboundRequest) (state : DispatchState τ) (connection : ε) (client : σ) :
    RunCourse dispatcher exchange sink request state connection client
      (dispatcher.run exchange sink request state connection client).value := by
  cases prepares : (dispatcher.prepare request state).value with
  | mk outcome after =>
      cases outcome with
      | error rejection =>
          rw [run_of_rejection connection client prepares]
          exact .rejected rejection after prepares
      | ok prepared =>
          cases sends : (exchange.send prepared.outbound connection).value with
          | mk result answered =>
              cases result with
              | crash =>
                  rw [run_of_crash client prepares sends]
                  exact .crashed prepared after answered prepares sends
              | failure failure =>
                  rw [run_of_failure client prepares sends]
                  exact .failed prepared after failure answered prepares sends
              | response response =>
                  rw [run_of_response client prepares sends]
                  exact .dispatched prepared after response answered prepares sends

theorem run_state (dispatcher : Dispatcher τ) (exchange : Exchange ε) (sink : Sink σ)
    (request : InboundRequest) (state : DispatchState τ) (connection : ε) (client : σ) :
    (dispatcher.run exchange sink request state connection client).value.state =
      (dispatcher.prepare request state).value.2 := by
  have course := dispatcher.run_course exchange sink request state connection client
  generalize (dispatcher.run exchange sink request state connection client).value = run at course ⊢
  cases course with
  | rejected rejection after prepares => rw [prepares]
  | crashed prepared after answered prepares sends => rw [prepares]
  | failed prepared after failure answered prepares sends => rw [prepares]
  | dispatched prepared after response answered prepares sends => rw [prepares]

theorem rejected_of_run {rejection : Rejection} {connection : ε} {client : σ}
    (rejected : (dispatcher.run exchange sink request state connection client).value.result =
      .rejected rejection) :
    (dispatcher.prepare request state).value.1 = .error rejection ∨ rejection.stage = .authorized := by
  have course := dispatcher.run_course exchange sink request state connection client
  generalize (dispatcher.run exchange sink request state connection client).value = run
    at course rejected
  cases course with
  | rejected other after prepares =>
      cases rejected
      rw [prepares]
      exact .inl rfl
  | crashed => cases rejected
  | failed prepared after failure answered prepares sends =>
      cases rejected
      exact .inr rfl
  | dispatched => cases rejected

/-! Runs with records. -/

def observedRun (dispatcher : Dispatcher τ) (exchange : Exchange ε) (sink : Sink σ)
    (request : InboundRequest) (state : DispatchState τ) (connection : ε) (client : σ) :
    Run (τ × List MintAttempt) (ε × List OutboundRequest) (σ × List SinkCall) :=
  (dispatcher.recorded.run exchange.recorded sink.recorded request (state.recording [])
    (connection, []) (client, [])).value

def calls (dispatcher : Dispatcher τ) (exchange : Exchange ε) (sink : Sink σ)
    (request : InboundRequest) (state : DispatchState τ) (connection : ε) (client : σ) : Calls :=
  let observed := dispatcher.observedRun exchange sink request state connection client
  { mints := observed.state.tokens.2, sends := observed.connection.2, client := observed.client.2 }

def Run.unrecorded
    (run : Run (τ × List MintAttempt) (ε × List OutboundRequest) (σ × List SinkCall)) :
    Run τ ε σ :=
  { result := run.result
    state := ⟨run.state.rotation, run.state.tokens.1⟩
    connection := run.connection.1
    client := run.client.1 }

theorem passOn_recorded (sink : Sink σ) (credential : String) (response : BackendResponse)
    (state : σ × List SinkCall) :
    Sink.unrecorded (passOn sink.recorded credential response state).value =
      (passOn sink credential response state.1).value := by
  rw [passOn, passOn]
  cases offered : sink.sendHead response.status (relayedHeaders response.headers) state.1 with
  | mk taken client =>
      have offeredToo :
          sink.recorded.sendHead response.status (relayedHeaders response.headers) state =
            (taken, client, state.2 ++ [.head response.status (relayedHeaders response.headers)]) := by
        simp only [Sink.recorded, offered]
      rw [offeredToo]
      cases taken with
      | false => rfl
      | true =>
          have relayed := sink.relayFrom_recorded 0 0 response.body
            (client, state.2 ++ [.head response.status (relayedHeaders response.headers)])
          simp only [Sink.unrecorded, Sink.relay, Reported.value_bind, Reported.value_pure] at relayed ⊢
          rw [← relayed]

/-- Nothing about a run depends on whether its calls are recorded. -/
theorem observedRun_unrecorded (dispatcher : Dispatcher τ) (exchange : Exchange ε) (sink : Sink σ)
    (request : InboundRequest) (state : DispatchState τ) (connection : ε) (client : σ)
    (consistent : state.rotation.Consistent) :
    (dispatcher.observedRun exchange sink request state connection client).unrecorded =
      (dispatcher.run exchange sink request state connection client).value := by
  rcases Course.total dispatcher request state consistent with ⟨attempts, outcome, after, course⟩
  have prepares := course.value_eq consistent
  have observed := (course.recorded []).value_eq consistent
  rw [observedRun]
  cases outcome with
  | error rejection =>
      rw [run_of_rejection _ _ observed, run_of_rejection _ _ prepares]
      rfl
  | ok prepared =>
      cases sends : (exchange.send prepared.outbound connection).value with
      | mk result answered =>
          have recordedSends := Exchange.recorded_send sends
          cases result with
          | crash =>
              rw [run_of_crash _ observed recordedSends, run_of_crash _ prepares sends]
              rfl
          | failure failure =>
              rw [run_of_failure _ observed recordedSends, run_of_failure _ prepares sends]
              rfl
          | response response =>
              rw [run_of_response _ observed recordedSends, run_of_response _ prepares sends]
              have passed := passOn_recorded sink prepared.member.credential.label response
                (client, [])
              rw [← passed]
              rfl

end Dispatcher

end BearerProxy
