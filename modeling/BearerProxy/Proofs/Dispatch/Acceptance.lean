import BearerProxy.Proofs.Dispatch.Failover
import BearerProxy.Proofs.Forward.Acceptance

/-!
What becomes of a request that is accepted before a credential is selected for it. It is not rejected any more
once a token has been minted, unless the rule for it erases its path.
-/

namespace BearerProxy

open Forwarder

def TokenSource.MintsBearable (source : TokenSource τ) : Prop :=
  ∀ member tokens token after, (source.mint member tokens).value = (.ok token, after) →
    Bearable token.value

theorem Search.exists_mint {source : TokenSource τ} {first member : Member} {token : Token}
    {state after : DispatchState τ} {attempts : List MintAttempt}
    (search : Search source first state attempts (.ok (member, token)) after) :
    ∃ before tokens, (source.mint member before).value = (.ok token, tokens) := by
  cases search with
  | minted _ _ minted => exact ⟨_, _, minted⟩
  | fallback _ _ _ _ _ _ _ minted => exact ⟨_, _, minted⟩

/-- A request that is accepted, and complete apart from that, is rewritten with any token that can be sent,
unless the rule for it erases its path; then it is refused for its empty path. So nothing else rejects a
request for which a token has been minted. -/
theorem Dispatcher.rewrites_accepted (dispatcher : Dispatcher τ) (request : InboundRequest)
    (inbound : Http.Headers) (accepted : dispatcher.forwarder.validate request = .ok ())
    (method : Http.isToken (Text.trim (request.method.getD "")))
    (present : request.headers = some inbound)
    (named : (Http.HeaderValue.ofText? dispatcher.forwarder.backend.host).isSome) :
    (∀ token label, Bearable token →
      (¬Erases (dispatcher.forwarder.selectedRule? request) (request.path.getD "") →
        ∃ outbound, (dispatcher.forwarder.prepare request token label).value = .ok outbound) ∧
      (Erases (dispatcher.forwarder.selectedRule? request) (request.path.getD "") →
        (dispatcher.forwarder.prepare request token label).value = .error (.request .emptyPath))) ∧
    (∀ state failure, state.rotation.Reachable → dispatcher.source.MintsBearable →
      (dispatcher.prepare request state).value.1 = .error ⟨.tokenMinted, failure⟩ →
      Erases (dispatcher.forwarder.selectedRule? request) (request.path.getD "") ∧
        failure = .request .emptyPath) := by
  have rewritten (token label : String) (bearable : Bearable token) :=
    prepare_of_validate accepted method present bearable named label
  refine ⟨rewritten, ?_⟩
  intro state failure reachable mints rejected
  rcases Course.total dispatcher request state reachable.consistent with
    ⟨attempts, outcome, after, course⟩
  rw [course.value_eq reachable.consistent] at rejected
  cases course with
  | refused failure refused => cases rejected
  | unavailable valid empty => cases rejected
  | unminted first attempts failure after valid selected search => cases rejected
  | built first member token attempts outbound after valid selected search accepted => cases rejected
  | unbuilt first member token attempts failure after valid selected search refused =>
      cases rejected
      rcases search.exists_mint with ⟨before, tokens, minted⟩
      have bearable := mints member before token tokens minted
      rcases rewritten token.value member.credential.label bearable with ⟨kept, erased⟩
      rw [prepare_value, refused] at kept erased
      by_cases erases : Erases (dispatcher.forwarder.selectedRule? request) (request.path.getD "")
      · exact ⟨erases, Except.error.inj (erased erases)⟩
      · rcases kept erases with ⟨_, prepared⟩
        cases prepared

def stripping : Forwarder :=
  { backend := guarded.backend, rules := [{ name := "strip", queryParameters := ["debug"] }] }

def originOnly : InboundRequest :=
  { method := some " get\n"
    path := some " https:///user@Backend.Test:8443\n?debug=1&DEBUG"
    headers := some .empty
    body := none }

theorem rewrites_accepted_originOnly :
    stripping.validate originOnly = .ok () ∧
      Http.isToken (Text.trim (originOnly.method.getD "")) ∧
      (Http.HeaderValue.ofText? stripping.backend.host).isSome ∧
      (filtered (stripping.selectedRule? originOnly) originOnly).1 =
        " https:///user@Backend.Test:8443\n" ∧
      ∃ outbound, (stripping.prepare originOnly "token" "label").value = .ok outbound := by
  have accepted : stripping.validate originOnly = .ok () := by decide +kernel
  have method : Http.isToken (Text.trim (originOnly.method.getD "")) := by decide +kernel
  have named : (Http.HeaderValue.ofText? stripping.backend.host).isSome := by decide +kernel
  have path : (filtered (stripping.selectedRule? originOnly) originOnly).1 =
      " https:///user@Backend.Test:8443\n" := by
    decide +kernel
  have bearable : Bearable "token" := ⟨by decide +kernel, by decide +kernel⟩
  have kept : ¬Erases (stripping.selectedRule? originOnly) (originOnly.path.getD "") := by
    rw [← isBlankText_filtered_iff (path_of_validate accepted).1, path]
    decide +kernel
  have rewritten := (Dispatcher.rewrites_accepted ⟨outage, stripping⟩ originOnly .empty accepted method
    rfl named).1 "token" "label" bearable
  exact ⟨accepted, method, named, path, rewritten.1 kept⟩

def queryOnly : InboundRequest :=
  { method := some "GET", path := some "?debug=1", headers := some .empty, body := none }

/-- A request that is accepted is rejected after a token has been minted for it, since the rule leaves nothing
of its path. -/
theorem rule_erases_accepted :
    (Url.parse stripping.backend.baseUrl = .ok (guardedUrl "/base/") ∧
      (Http.HeaderValue.ofText? stripping.backend.host).isSome) ∧
    stripping.validate queryOnly = .ok () ∧
    Http.isToken (Text.trim (queryOnly.method.getD "")) ∧
    (stripping.prepare queryOnly "token" "label").value = .error (.request .emptyPath) ∧
    (Dispatcher.prepare ⟨outage, stripping⟩ queryOnly { beforeOutage with tokens := true }).value.1 =
      .error ⟨.tokenMinted, .request .emptyPath⟩ := by
  decide +kernel

end BearerProxy
