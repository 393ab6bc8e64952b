import BearerProxy.Proofs.Dispatch.Failover

/-!
The effects of a run, by the stage at which it ends. A run sends at most once, exactly if its preparation
succeeds; a rejected one has not touched the client; nothing behind the preparation changes the rotation or
the tokens.
-/

namespace BearerProxy

def sentBehind : Except Rejection Prepared → List OutboundRequest
  | .ok prepared => [prepared.outbound]
  | .error _ => []

/-- What a rejected run has done, by the stage at which it was rejected. -/
def RejectedEffects (exchange : Exchange ε) (connection : ε) (state after : DispatchState τ)
    (prepared : Except Rejection Prepared) (calls : Calls) (rejection : Rejection) : Prop :=
  match rejection.stage with
  | .start =>
      after = state ∧ calls.mints = [] ∧ calls.sends = [] ∧ rejection.failure.status = 400
  | .validated =>
      state.rotation.available = [] ∧ after = state ∧ calls.mints = [] ∧ calls.sends = [] ∧
        rejection.failure.code.text = "AUTH_2003" ∧ rejection.failure.status = 503
  | .credentialSelected =>
      calls.sends = [] ∧ rejection.failure.code.text = "AUTH_2004" ∧
        rejection.failure.status = 503
  | .tokenMinted => calls.sends = [] ∧ rejection.failure.status = 400
  | .authorized =>
      ∃ ready failure, prepared = .ok ready ∧ calls.sends = [ready.outbound] ∧
        (exchange.send ready.outbound connection).value.1 = .failure failure ∧
        rejection.failure = .exchange failure ∧
        rejection.failure.code = failure.fault.code ∧
        after.rotation.quarantined = state.rotation.quarantined ++ withdrawnBy calls.mints
  | .forwarded | .streamedBack | .rejected => False

/-- The effects of a run whose preparation came to the given outcome and made the given attempts. -/
structure RunEffects (dispatcher : Dispatcher τ) (exchange : Exchange ε) (request : InboundRequest)
    (state : DispatchState τ) (connection : ε) (client : σ)
    (prepared : Except Rejection Prepared × DispatchState τ) (attempts : List MintAttempt)
    (run : Dispatcher.Run τ ε σ) (calls : Calls) : Prop where
  unchanged : run.state = prepared.2
  mints : calls.mints = attempts
  sends : calls.sends = sentBehind prepared.1
  refused : ∀ failure, dispatcher.forwarder.validate request = .error failure →
    run.result = .rejected ⟨.start, failure⟩
  offered : ∀ rejection, run.result = .rejected rejection →
    run.client = client ∧ calls.client = []
  rejected : ∀ rejection, run.result = .rejected rejection →
    RejectedEffects exchange connection state run.state prepared.1 calls rejection

theorem RunEffects.of_unrejected {dispatcher : Dispatcher τ} {exchange : Exchange ε}
    {request : InboundRequest} {state after : DispatchState τ} {connection : ε} {client : σ}
    {prepared : Prepared} {attempts : List MintAttempt} {run : Dispatcher.Run τ ε σ} {calls : Calls}
    (unchanged : run.state = after) (mints : calls.mints = attempts)
    (sends : calls.sends = [prepared.outbound])
    (accepted : ∀ failure, dispatcher.forwarder.validate request ≠ .error failure)
    (unrejected : ∀ rejection, run.result ≠ .rejected rejection) :
    RunEffects dispatcher exchange request state connection client (.ok prepared, after) attempts
      run calls where
  unchanged := unchanged
  mints := mints
  sends := sends
  refused := fun failure refused => absurd refused (accepted failure)
  offered := fun rejection rejected => absurd rejected (unrejected rejection)
  rejected := fun rejection rejected => absurd rejected (unrejected rejection)

namespace Course

variable {dispatcher : Dispatcher τ} {request : InboundRequest} {state after : DispatchState τ}
  {attempts : List MintAttempt}

theorem rejectedEffects {rejection : Rejection} (exchange : Exchange ε) (connection : ε)
    (course : Course dispatcher request state attempts (.error rejection) after) :
    RejectedEffects exchange connection state after (.error rejection) ⟨attempts, [], []⟩
      rejection := by
  cases course with
  | refused failure refused => exact ⟨rfl, rfl, rfl, Forwarder.validate_eq_error refused⟩
  | unavailable valid empty => exact ⟨empty, rfl, rfl, rfl, rfl, rfl⟩
  | unminted first attempts failure after valid selected search =>
      rcases search.failure_eq with ⟨last, exhausted⟩
      subst exhausted
      exact ⟨rfl, rfl, rfl⟩
  | unbuilt first member token attempts failure after valid selected search refused =>
      exact ⟨rfl, Forwarder.prepared_eq_error refused⟩

theorem rejection_of_refused {outcome : Except Rejection Prepared} {failure : Failure}
    (course : Course dispatcher request state attempts outcome after)
    (refused : dispatcher.forwarder.validate request = .error failure) :
    outcome = .error ⟨.start, failure⟩ := by
  cases course with
  | refused other refusedToo =>
      rw [refused] at refusedToo
      rw [Except.error.inj refusedToo]
  | unavailable valid | unminted _ _ _ _ valid | unbuilt _ _ _ _ _ _ valid
  | built _ _ _ _ _ _ valid =>
      rw [refused] at valid
      cases valid

theorem runEffects_of_rejection {rejection : Rejection} (exchange : Exchange ε) (sink : Sink σ)
    (connection : ε) (client : σ) (consistent : state.rotation.Consistent)
    (course : Course dispatcher request state attempts (.error rejection) after) :
    RunEffects dispatcher exchange request state connection client (.error rejection, after)
      attempts (dispatcher.run exchange sink request state connection client).value
      (dispatcher.calls exchange sink request state connection client) := by
  have observed := (course.recorded []).value_eq consistent
  rw [Dispatcher.calls, Dispatcher.observedRun, Dispatcher.run_of_rejection _ _ observed,
    Dispatcher.run_of_rejection _ _ (course.value_eq consistent)]
  exact {
    unchanged := rfl
    mints := rfl
    sends := rfl
    refused := by
      intro failure refused
      rw [Except.error.inj (course.rejection_of_refused refused)]
    offered := fun _ _ => ⟨rfl, rfl⟩
    rejected := by
      intro other same
      cases same
      exact course.rejectedEffects exchange connection }

theorem runEffects_of_prepared {prepared : Prepared} (exchange : Exchange ε) (sink : Sink σ)
    (connection : ε) (client : σ) (consistent : state.rotation.Consistent)
    (course : Course dispatcher request state attempts (.ok prepared) after) :
    RunEffects dispatcher exchange request state connection client (.ok prepared, after)
      attempts (dispatcher.run exchange sink request state connection client).value
      (dispatcher.calls exchange sink request state connection client) := by
  have prepares := course.value_eq consistent
  have observed := (course.recorded []).value_eq consistent
  have accepted (failure : Failure) :
      dispatcher.forwarder.validate request ≠ .error failure := by
    intro refused
    cases course.rejection_of_refused refused
  cases sends : (exchange.send prepared.outbound connection).value with
  | mk result answered =>
      have recordedSends := Exchange.recorded_send sends
      rw [Dispatcher.calls, Dispatcher.observedRun]
      cases result with
      | response response =>
          rw [Dispatcher.run_of_response _ observed recordedSends,
            Dispatcher.run_of_response _ prepares sends]
          refine .of_unrejected rfl rfl rfl accepted ?_
          intro rejection rejected
          cases rejected
      | crash =>
          rw [Dispatcher.run_of_crash _ observed recordedSends,
            Dispatcher.run_of_crash _ prepares sends]
          refine .of_unrejected rfl rfl rfl accepted ?_
          intro rejection rejected
          cases rejected
      | failure failure =>
          rw [Dispatcher.run_of_failure _ observed recordedSends,
            Dispatcher.run_of_failure _ prepares sends]
          exact {
            unchanged := rfl
            mints := rfl
            sends := rfl
            refused := fun failure refused => absurd refused (accepted failure)
            offered := fun _ _ => ⟨rfl, rfl⟩
            rejected := by
              intro rejection same
              cases same
              refine ⟨prepared, failure, rfl, rfl, ?_, rfl, rfl, ?_⟩
              · rw [sends]
              · exact (course.boundedFailover consistent).quarantined }

end Course

/-- The effects of a run, whatever the request, the source of tokens, the backend and the client do. -/
theorem Dispatcher.run_effects (dispatcher : Dispatcher τ) (exchange : Exchange ε) (sink : Sink σ)
    (request : InboundRequest) (state : DispatchState τ) (connection : ε) (client : σ)
    (reachable : state.rotation.Reachable) :
    RunEffects dispatcher exchange request state connection client
      (dispatcher.prepare request state).value (dispatcher.attempts request state)
      (dispatcher.run exchange sink request state connection client).value
      (dispatcher.calls exchange sink request state connection client) := by
  have consistent := reachable.consistent
  rcases Course.total dispatcher request state consistent with ⟨attempts, outcome, after, course⟩
  rw [course.attempts_eq consistent, course.value_eq consistent]
  cases outcome with
  | error rejection =>
      exact course.runEffects_of_rejection exchange sink connection client consistent
  | ok prepared => exact course.runEffects_of_prepared exchange sink connection client consistent

def unreachable : Exchange Unit where
  send _ connection := return (.failure ⟨.network, "connection refused"⟩, connection)

theorem run_effects_unreachable :
    beforeOutage.rotation.Reachable ∧
      RunEffects ⟨outage, {}⟩ unreachable greeting beforeOutage () ({} : Collected)
        (Dispatcher.prepare ⟨outage, {}⟩ greeting beforeOutage).value
        (Dispatcher.attempts ⟨outage, {}⟩ greeting beforeOutage)
        (Dispatcher.run ⟨outage, {}⟩ unreachable Collected.sink greeting beforeOutage () {}).value
        (Dispatcher.calls ⟨outage, {}⟩ unreachable Collected.sink greeting beforeOutage () {}) :=
  have reachable : beforeOutage.rotation.Reachable := .ofMembers (List.cons_ne_nil _ _)
  ⟨reachable, Dispatcher.run_effects ⟨outage, {}⟩ unreachable Collected.sink greeting beforeOutage ()
    {} reachable⟩

end BearerProxy
