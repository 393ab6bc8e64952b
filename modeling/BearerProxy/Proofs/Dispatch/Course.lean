import BearerProxy.Dispatch
import BearerProxy.Proofs.Forward.Preparation
import BearerProxy.Proofs.Rotation.Consistency

/-!
The courses that the preparation of a request can take, each with the calls that it makes on the source of
tokens, its outcome and the state behind it.
-/

namespace BearerProxy

structure MintAttempt where
  member : Member
  outcome : Except Failure Token

/-- How the search for a token goes that starts with the given member. -/
inductive Search (source : TokenSource τ) (first : Member) (state : DispatchState τ) :
    List MintAttempt → Except Failure (Member × Token) → DispatchState τ → Prop
  | minted (token : Token) (tokens : τ)
      (minted : (source.mint first state.tokens).value = (.ok token, tokens)) :
      Search source first state [⟨first, .ok token⟩] (.ok (first, token)) { state with tokens }
  | alone (failure : Failure) (tokens : τ)
      (failed : (source.mint first state.tokens).value = (.error failure, tokens))
      (alone : state.rotation.others first = []) :
      Search source first state [⟨first, .error failure⟩]
        (.error (.failoverExhausted .rotationExhausted))
        ⟨state.rotation.withdraw first, tokens⟩
  | fallback (failure : Failure) (between : τ) (second : Member) (token : Token) (tokens : τ)
      (failed : (source.mint first state.tokens).value = (.error failure, between))
      (selected : (state.rotation.withdraw first).available[(state.rotation.withdraw first).cursor]? =
        some second)
      (minted : (source.mint second between).value = (.ok token, tokens)) :
      Search source first state [⟨first, .error failure⟩, ⟨second, .ok token⟩]
        (.ok (second, token)) ⟨(state.rotation.withdraw first).advance, tokens⟩
  | exhausted (failure : Failure) (between : τ) (second : Member) (last : Failure) (tokens : τ)
      (failed : (source.mint first state.tokens).value = (.error failure, between))
      (selected : (state.rotation.withdraw first).available[(state.rotation.withdraw first).cursor]? =
        some second)
      (failedToo : (source.mint second between).value = (.error last, tokens)) :
      Search source first state [⟨first, .error failure⟩, ⟨second, .error last⟩]
        (.error (.failoverExhausted last)) ⟨(state.rotation.withdraw first).advance, tokens⟩

/-- How the preparation of a request goes. -/
inductive Course (dispatcher : Dispatcher τ) (request : InboundRequest) (state : DispatchState τ) :
    List MintAttempt → Except Rejection Prepared → DispatchState τ → Prop
  | refused (failure : Failure)
      (refused : dispatcher.forwarder.validate request = .error failure) :
      Course dispatcher request state [] (.error ⟨.start, failure⟩) state
  | unavailable (valid : dispatcher.forwarder.validate request = .ok ())
      (empty : state.rotation.available = []) :
      Course dispatcher request state [] (.error ⟨.validated, .rotationExhausted⟩) state
  | unminted (first : Member) (attempts : List MintAttempt) (failure : Failure)
      (after : DispatchState τ)
      (valid : dispatcher.forwarder.validate request = .ok ())
      (selected : state.rotation.available[state.rotation.cursor]? = some first)
      (search : Search dispatcher.source first { state with rotation := state.rotation.advance }
        attempts (.error failure) after) :
      Course dispatcher request state attempts (.error ⟨.credentialSelected, failure⟩) after
  | unbuilt (first member : Member) (token : Token) (attempts : List MintAttempt)
      (failure : Failure) (after : DispatchState τ)
      (valid : dispatcher.forwarder.validate request = .ok ())
      (selected : state.rotation.available[state.rotation.cursor]? = some first)
      (search : Search dispatcher.source first { state with rotation := state.rotation.advance }
        attempts (.ok (member, token)) after)
      (refused : dispatcher.forwarder.prepared request token.value = .error failure) :
      Course dispatcher request state attempts (.error ⟨.tokenMinted, failure⟩) after
  | built (first member : Member) (token : Token) (attempts : List MintAttempt)
      (outbound : OutboundRequest) (after : DispatchState τ)
      (valid : dispatcher.forwarder.validate request = .ok ())
      (selected : state.rotation.available[state.rotation.cursor]? = some first)
      (search : Search dispatcher.source first { state with rotation := state.rotation.advance }
        attempts (.ok (member, token)) after)
      (accepted : dispatcher.forwarder.prepared request token.value = .ok outbound) :
      Course dispatcher request state attempts (.ok ⟨member, token, outbound⟩) after

namespace Dispatcher

theorem mintFor_value (dispatcher : Dispatcher τ) (member : Member) (state : DispatchState τ) :
    (dispatcher.mintFor member state).value =
      ((dispatcher.source.mint member state.tokens).value.1,
        ⟨state.rotation, (dispatcher.source.mint member state.tokens).value.2⟩) := rfl

theorem mintWithFailover_of_error {dispatcher : Dispatcher τ} {member : Member}
    {state : DispatchState τ} {failure : Failure} {tokens : τ}
    (consistent : state.rotation.Consistent) (inRotation : member ∈ state.rotation.available)
    (failed : (dispatcher.source.mint member state.tokens).value = (.error failure, tokens)) :
    (dispatcher.mintWithFailover member state).value =
      (dispatcher.mintFallback ⟨state.rotation.withdraw member, tokens⟩).value := by
  rw [mintWithFailover]
  simp only [Reported.value_bind, mintFor_value, failed]
  rw [consistent.quarantine_of_mem inRotation]

theorem mintFallback_of_none {dispatcher : Dispatcher τ} {state : DispatchState τ}
    (none : state.rotation.available[state.rotation.cursor]? = none) :
    (dispatcher.mintFallback state).value =
      (.error (.failoverExhausted .rotationExhausted), state) := by
  rw [mintFallback, Reported.value_bind, Rotation.next_of_none state.rotation none]
  rfl

theorem mintFallback_of_some (dispatcher : Dispatcher τ) (state : DispatchState τ)
    {member : Member} {result : Except Failure Token} {tokens : τ}
    (some : state.rotation.available[state.rotation.cursor]? = some member)
    (minted : (dispatcher.source.mint member state.tokens).value = (result, tokens)) :
    (dispatcher.mintFallback state).value =
      (match result with
        | .ok token => .ok (member, token)
        | .error last => .error (.failoverExhausted last),
       ⟨state.rotation.advance, tokens⟩) := by
  rw [mintFallback, Reported.value_bind, Rotation.next_of_some state.rotation member some]
  simp only [Reported.value_bind, mintFor_value, minted]
  cases result with
  | ok token => rfl
  | error last => rfl

theorem rebuild_value (dispatcher : Dispatcher τ) (request : InboundRequest) (member : Member)
    (token : Token) (state : DispatchState τ) :
    (dispatcher.rebuild request member token state).value =
      (match dispatcher.forwarder.prepared request token.value with
        | .error failure => .error ⟨.tokenMinted, failure⟩
        | .ok outbound => .ok ⟨member, token, outbound⟩,
       state) := by
  rw [rebuild, Reported.value_bind, Forwarder.prepare_value]
  cases dispatcher.forwarder.prepared request token.value with
  | error failure => rfl
  | ok outbound => rfl

theorem prepare_of_some {dispatcher : Dispatcher τ} {request : InboundRequest}
    {state after : DispatchState τ} {first : Member} {found : Except Failure (Member × Token)}
    (valid : dispatcher.forwarder.validate request = .ok ())
    (selected : state.rotation.available[state.rotation.cursor]? = some first)
    (searched : (dispatcher.mintWithFailover first
      { state with rotation := state.rotation.advance }).value = (found, after)) :
    (dispatcher.prepare request state).value =
      match found with
      | .error failure => (.error ⟨.credentialSelected, failure⟩, after)
      | .ok (member, token) => (dispatcher.rebuild request member token after).value := by
  rw [prepare, valid]
  simp only [Reported.value_bind, Rotation.next_of_some state.rotation first selected, searched]
  cases found with
  | error failure => rfl
  | ok minted => rfl

end Dispatcher

namespace Search

variable {source : TokenSource τ} {first : Member} {state after : DispatchState τ}
  {attempts : List MintAttempt} {outcome : Except Failure (Member × Token)}

theorem total (source : TokenSource τ) (state : DispatchState τ)
    (consistent : state.rotation.Consistent) {first : Member}
    (inRotation : first ∈ state.rotation.available) :
    ∃ attempts outcome after, Search source first state attempts outcome after := by
  cases minted : (source.mint first state.tokens).value with
  | mk result between =>
      cases result with
      | ok token => exact ⟨_, _, _, .minted token between minted⟩
      | error failure =>
          have withdrawn := consistent.withdraw inRotation
          cases selected : (state.rotation.withdraw first).available[
              (state.rotation.withdraw first).cursor]? with
          | none =>
              have alone := withdrawn.available_eq_nil_iff.mpr selected
              exact ⟨_, _, _, .alone failure between minted alone⟩
          | some second =>
              cases mintedToo : (source.mint second between).value with
              | mk result tokens =>
                  cases result with
                  | ok token =>
                      exact ⟨_, _, _, .fallback failure between second token tokens minted selected
                        mintedToo⟩
                  | error last =>
                      exact ⟨_, _, _, .exhausted failure between second last tokens minted selected
                        mintedToo⟩

theorem value_eq {dispatcher : Dispatcher τ}
    (search : Search dispatcher.source first state attempts outcome after)
    (consistent : state.rotation.Consistent) (inRotation : first ∈ state.rotation.available) :
    (dispatcher.mintWithFailover first state).value = (outcome, after) := by
  cases search with
  | minted token tokens minted =>
      rw [Dispatcher.mintWithFailover]
      simp only [Reported.value_bind, Dispatcher.mintFor_value, minted]
      rfl
  | alone failure tokens failed alone =>
      have withdrawn := consistent.withdraw inRotation
      rw [Dispatcher.mintWithFailover_of_error consistent inRotation failed]
      exact Dispatcher.mintFallback_of_none (withdrawn.available_eq_nil_iff.mp alone)
  | fallback failure between second token tokens failed selected minted =>
      rw [Dispatcher.mintWithFailover_of_error consistent inRotation failed]
      exact dispatcher.mintFallback_of_some ⟨_, between⟩ selected minted
  | exhausted failure between second last tokens failed selected failedToo =>
      rw [Dispatcher.mintWithFailover_of_error consistent inRotation failed]
      exact dispatcher.mintFallback_of_some ⟨_, between⟩ selected failedToo

end Search

namespace Course

variable {state after : DispatchState τ} {request : InboundRequest}
  {attempts : List MintAttempt} {outcome : Except Rejection Prepared}

theorem total (dispatcher : Dispatcher τ) (request : InboundRequest) (state : DispatchState τ)
    (consistent : state.rotation.Consistent) :
    ∃ attempts outcome after, Course dispatcher request state attempts outcome after := by
  cases valid : dispatcher.forwarder.validate request with
  | error failure => exact ⟨_, _, _, .refused failure valid⟩
  | ok _ =>
      cases selected : state.rotation.available[state.rotation.cursor]? with
      | none =>
          have empty := consistent.available_eq_nil_iff.mpr selected
          exact ⟨_, _, _, .unavailable valid empty⟩
      | some first =>
          have inRotation := List.mem_of_getElem? selected
          have advanced := consistent.advance (List.ne_nil_of_mem inRotation)
          rcases Search.total dispatcher.source
            { state with rotation := state.rotation.advance } advanced inRotation with
            ⟨attempts, found, after, search⟩
          cases found with
          | error failure =>
              exact ⟨_, _, _, .unminted first attempts failure after valid selected search⟩
          | ok minted =>
              rcases minted with ⟨member, token⟩
              cases rebuilt : dispatcher.forwarder.prepared request token.value with
              | error failure =>
                  exact ⟨_, _, _, .unbuilt first member token attempts failure after valid selected
                    search rebuilt⟩
              | ok outbound =>
                  exact ⟨_, _, _, .built first member token attempts outbound after valid selected
                    search rebuilt⟩

theorem value_eq {dispatcher : Dispatcher τ}
    (course : Course dispatcher request state attempts outcome after)
    (consistent : state.rotation.Consistent) :
    (dispatcher.prepare request state).value = (outcome, after) := by
  have advanced {first : Member}
      (selected : state.rotation.available[state.rotation.cursor]? = some first) :
      state.rotation.advance.Consistent :=
    consistent.advance (List.ne_nil_of_mem (List.mem_of_getElem? selected))
  cases course with
  | refused failure refused =>
      rw [Dispatcher.prepare, refused]
      rfl
  | unavailable valid empty =>
      have unselected := consistent.available_eq_nil_iff.mp empty
      rw [Dispatcher.prepare, valid]
      simp only [Reported.value_bind, Rotation.next_of_none state.rotation unselected]
      rfl
  | unminted first attempts failure after valid selected search =>
      have searched := search.value_eq (advanced selected) (List.mem_of_getElem? selected)
      rw [Dispatcher.prepare_of_some valid selected searched]
  | unbuilt first member token attempts failure after valid selected search refused =>
      have searched := search.value_eq (advanced selected) (List.mem_of_getElem? selected)
      rw [Dispatcher.prepare_of_some valid selected searched]
      simp only [Dispatcher.rebuild_value, refused]
  | built first member token attempts outbound after valid selected search accepted =>
      have searched := search.value_eq (advanced selected) (List.mem_of_getElem? selected)
      rw [Dispatcher.prepare_of_some valid selected searched]
      simp only [Dispatcher.rebuild_value, accepted]

end Course

end BearerProxy
