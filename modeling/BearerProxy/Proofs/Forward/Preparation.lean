import BearerProxy.Forward.Outbound
import BearerProxy.Proofs.Http.Headers
import BearerProxy.Proofs.Steps

/-!
The preparation of a request, apart from what it notes in the journal: what it makes of a request that it
accepts, and that a request which it refuses is at fault itself.
-/

namespace BearerProxy.Forwarder

def sentMethod (request : InboundRequest) : String :=
  Text.upperAscii (Text.trim (request.method.getD ""))

def ruleFor (forwarder : Forwarder) (request : InboundRequest) (inbound : Http.Headers) :
    Option FilterRule :=
  (FilterRule.select forwarder.rules (sentMethod request) (request.path.getD "") inbound).value

def filtered (rule : Option FilterRule) (request : InboundRequest) : String × Option ByteArray :=
  (applyRule rule (request.path.getD "") request.body).value

def rebuilt (forwarder : Forwarder) (request : InboundRequest) (inbound : Http.Headers)
    (token : String) : Except Failure OutboundRequest := do
  let rule := forwarder.ruleFor request inbound
  let headers ←
    authorize forwarder.backend (some (inbound.without (FilterRule.headersToSkip rule))) token
  let url ← targetUrl forwarder.backend (filtered rule request).1
  return { method := sentMethod request, url, headers, body := (filtered rule request).2 }

def prepared (forwarder : Forwarder) (request : InboundRequest) (token : String) :
    Except Failure OutboundRequest := do
  forwarder.validate request
  if !Http.isToken (sentMethod request) then
    throw (.request (.illegalMethod (Text.trim (request.method.getD ""))))
  match request.headers with
  | none => throw (.request .noHeaders)
  | some inbound => forwarder.rebuilt request inbound token

theorem authorizeHeaders_value (backend : Backend) (headers : Option Http.Headers)
    (token label : String) :
    (authorizeHeaders backend headers token label).value = authorize backend headers token := by
  rw [authorizeHeaders]
  cases authorize backend headers token with
  | error failure => rfl
  | ok authorized => rfl

theorem prepare_value (forwarder : Forwarder) (request : InboundRequest) (token label : String) :
    (forwarder.prepare request token label).value = forwarder.prepared request token := by
  rw [prepare, prepared]
  cases valid : forwarder.validate request with
  | error failure => rfl
  | ok _ =>
      by_cases legal : Http.isToken (sentMethod request)
      · simp only [sentMethod] at legal
        simp only [sentMethod, legal, Bool.not_true, Bool.false_eq_true, if_false]
        cases request.headers with
        | none => rfl
        | some inbound =>
            simp only [Reported.value_bind, rebuilt, ruleFor, filtered, sentMethod]
            rw [authorizeHeaders_value]
            cases authorize forwarder.backend _ token with
            | error failure => rfl
            | ok headers =>
                simp only [Reported.value_pure]
                cases targetUrl forwarder.backend _ with
                | error failure => rfl
                | ok url => rfl
      · simp only [sentMethod] at legal
        simp only [sentMethod, legal]
        rfl

/-! What an accepted request has gone through. -/

theorem rebuilt_eq_ok {forwarder : Forwarder} {request : InboundRequest} {inbound : Http.Headers}
    {token : String} {outbound : OutboundRequest}
    (accepted : forwarder.rebuilt request inbound token = .ok outbound) :
    ∃ headers url,
      authorize forwarder.backend
        (some (inbound.without (FilterRule.headersToSkip (forwarder.ruleFor request inbound))))
        token = .ok headers ∧
      targetUrl forwarder.backend (filtered (forwarder.ruleFor request inbound) request).1 = .ok url ∧
      outbound =
        { method := sentMethod request
          url
          headers
          body := (filtered (forwarder.ruleFor request inbound) request).2 } := by
  rw [rebuilt] at accepted
  rcases exists_of_bind_eq_ok accepted with ⟨headers, authorized, accepted⟩
  rcases exists_of_bind_eq_ok accepted with ⟨url, resolved, accepted⟩
  exact ⟨headers, url, authorized, resolved, (Except.ok.inj accepted).symm⟩

theorem prepared_eq_ok {forwarder : Forwarder} {request : InboundRequest} {token : String}
    {outbound : OutboundRequest} (accepted : forwarder.prepared request token = .ok outbound) :
    forwarder.validate request = .ok () ∧ Http.isToken (sentMethod request) ∧
      ∃ inbound, request.headers = some inbound ∧
        forwarder.rebuilt request inbound token = .ok outbound := by
  rw [prepared] at accepted
  rcases exists_of_bind_eq_ok accepted with ⟨_, valid, accepted⟩
  refine ⟨valid, ?_⟩
  by_cases legal : Http.isToken (sentMethod request)
  · refine ⟨legal, ?_⟩
    rw [legal] at accepted
    cases headers : request.headers with
    | none =>
        rw [headers] at accepted
        cases accepted
    | some inbound =>
        rw [headers] at accepted
        exact ⟨inbound, rfl, accepted⟩
  · simp only [legal] at accepted
    cases accepted

inductive TargetRefusal (backend : Backend) : Failure → Prop
  | illegalTarget (fault : Url.Fault) : TargetRefusal backend (.request (.illegalTarget fault))
  | foreignOrigin (origin : String) : TargetRefusal backend (.request (.foreignOrigin origin))
  | illegalBase (fault : Url.Fault) (unread : Url.parse backend.baseUrl = .error fault) :
      TargetRefusal backend (.request (.illegalBase fault))

/-- What a request is refused for. -/
inductive Refusal (backend : Backend) : Failure → Prop
  | methodMissing : Refusal backend .methodMissing
  | pathMissing : Refusal backend .pathMissing
  | illegalMethod (text : String) : Refusal backend (.request (.illegalMethod text))
  | noHeaders : Refusal backend (.request .noHeaders)
  | emptyToken : Refusal backend (.request .emptyToken)
  | illegalToken : Refusal backend (.request .illegalToken)
  | emptyPath : Refusal backend (.request .emptyPath)
  | target (failure : Failure) (refusal : TargetRefusal backend failure) : Refusal backend failure
  | illegalHost (unwritten : Http.HeaderValue.ofText? backend.host = none) :
      Refusal backend (.request .illegalHost)

/-- Either token, headers and host are all in order, or the request is refused. -/
theorem authorize_cases (backend : Backend) (headers : Option Http.Headers) (token : String) :
    (∃ failure, authorize backend headers token = .error failure ∧ Refusal backend failure) ∨
    ∃ trimmed kept bearer host, Text.trimmed? token = some trimmed ∧ headers = some kept ∧
      Http.HeaderValue.ofText? ("Bearer " ++ trimmed) = some bearer ∧
      Http.HeaderValue.ofText? backend.host = some host ∧
      authorize backend headers token =
        .ok ((kept.insert "authorization" bearer).insert "host" host) := by
  rw [authorize]
  cases Text.trimmed? token with
  | none => exact .inl ⟨_, rfl, .emptyToken⟩
  | some trimmed =>
      cases headers with
      | none => exact .inl ⟨_, rfl, .noHeaders⟩
      | some kept =>
          simp only []
          cases legal : Http.HeaderValue.ofText? ("Bearer " ++ trimmed) with
          | none => exact .inl ⟨_, rfl, .illegalToken⟩
          | some bearer =>
              cases named : Http.HeaderValue.ofText? backend.host with
              | none => exact .inl ⟨_, rfl, .illegalHost named⟩
              | some host => exact .inr ⟨trimmed, kept, bearer, host, rfl, rfl, legal, rfl, rfl⟩

theorem authorize_eq_ok {backend : Backend} {headers : Option Http.Headers} {token : String}
    {authorized : Http.Headers} (accepted : authorize backend headers token = .ok authorized) :
    ∃ trimmed kept bearer host, Text.trimmed? token = some trimmed ∧ headers = some kept ∧
      Http.HeaderValue.ofText? ("Bearer " ++ trimmed) = some bearer ∧
      Http.HeaderValue.ofText? backend.host = some host ∧
      authorized = (kept.insert "authorization" bearer).insert "host" host := by
  rcases authorize_cases backend headers token with
    ⟨failure, refused, _⟩ | ⟨trimmed, kept, bearer, host, hasToken, hasHeaders, legal, named, result⟩
  · rw [refused] at accepted
    cases accepted
  · rw [result] at accepted
    exact ⟨trimmed, kept, bearer, host, hasToken, hasHeaders, legal, named,
      (Except.ok.inj accepted).symm⟩

theorem eq_trim_of_trimmed? {text trimmed : String} (some : Text.trimmed? text = some trimmed) :
    trimmed = Text.trim text := by
  rw [Text.trimmed?] at some
  split at some
  · cases some
  · exact (Option.some.inj some).symm

theorem prepared_authorization {forwarder : Forwarder} {request : InboundRequest} {token : String}
    {outbound : OutboundRequest} (accepted : forwarder.prepared request token = .ok outbound) :
    outbound.headers.values "authorization" =
      [⟨("Bearer " ++ Text.trim token).toUTF8.toList⟩] := by
  rcases prepared_eq_ok accepted with ⟨_, _, inbound, _, rebuilt⟩
  rcases rebuilt_eq_ok rebuilt with ⟨headers, url, authorized, _, built⟩
  rcases authorize_eq_ok authorized with ⟨trimmed, kept, bearer, host, token, _, legal, _, inserted⟩
  have otherName : Text.lowerAscii "host" ≠ Text.lowerAscii "authorization" := by decide
  rw [built, inserted, Http.Headers.values_insert, if_neg otherName, Http.Headers.values_insert,
    if_pos rfl, Http.HeaderValue.ofText?_eq_some _ _ legal, eq_trim_of_trimmed? token]

/-! A refusal blames the request. -/

variable {backend : Backend} {forwarder : Forwarder} {request : InboundRequest} {failure : Failure}

theorem TargetRefusal.status_eq (refusal : TargetRefusal backend failure) : failure.status = 400 := by
  cases refusal <;> rfl

theorem Refusal.status_eq (refusal : Refusal backend failure) : failure.status = 400 := by
  cases refusal with
  | target _ refusal => exact refusal.status_eq
  | _ => rfl

theorem targetRefusal_of_checkTarget {target : String}
    (refused : checkTarget backend target = .error failure) : TargetRefusal backend failure := by
  rw [checkTarget] at refused
  split at refused
  · split at refused
    · cases refused
      exact .illegalTarget _
    · split at refused
      · rename_i fault unread
        cases refused
        exact .illegalBase fault unread
      · split at refused
        · cases refused
          exact .foreignOrigin _
        · split at refused
          · cases refused
          · cases refused
            exact .foreignOrigin _
  · cases refused

theorem refusal_of_validate (refused : forwarder.validate request = .error failure) :
    Refusal forwarder.backend failure := by
  rw [validate] at refused
  split at refused
  · cases refused
    exact .methodMissing
  · cases refused
    exact .pathMissing
  · exact .target failure (targetRefusal_of_checkTarget refused)

theorem targetUrl_eq_error {path : String} (refused : targetUrl backend path = .error failure) :
    failure = .request .emptyPath ∨ TargetRefusal backend failure := by
  rw [targetUrl] at refused
  split at refused
  · cases refused
    exact .inl rfl
  · rename_i trimmed _
    split at refused
    · cases checked : checkTarget backend trimmed with
      | error fault =>
          rw [checked] at refused
          cases refused
          exact .inr (targetRefusal_of_checkTarget checked)
      | ok _ =>
          rw [checked] at refused
          cases refused
    · cases refused

theorem refusal_of_targetUrl {path : String} (refused : targetUrl backend path = .error failure) :
    Refusal backend failure := by
  rcases targetUrl_eq_error refused with empty | refusal
  · rw [empty]
    exact .emptyPath
  · exact .target failure refusal

theorem refusal_of_authorize {headers : Option Http.Headers} {token : String}
    (refused : authorize backend headers token = .error failure) : Refusal backend failure := by
  rcases authorize_cases backend headers token with
    ⟨fault, result, refusal⟩ | ⟨trimmed, kept, bearer, host, _, _, _, _, result⟩
  · rw [result] at refused
    cases refused
    exact refusal
  · rw [result] at refused
    cases refused

theorem refusal_of_rebuilt {inbound : Http.Headers} {token : String}
    (refused : forwarder.rebuilt request inbound token = .error failure) :
    Refusal forwarder.backend failure := by
  rw [rebuilt] at refused
  rcases bind_eq_error refused with unauthorized | ⟨headers, _, refused⟩
  · exact refusal_of_authorize unauthorized
  · rcases bind_eq_error refused with unresolved | ⟨url, _, refused⟩
    · exact refusal_of_targetUrl unresolved
    · cases refused

theorem refusal_of_prepared {token : String}
    (refused : forwarder.prepared request token = .error failure) :
    Refusal forwarder.backend failure := by
  rw [prepared] at refused
  rcases bind_eq_error refused with invalid | ⟨_, _, refused⟩
  · exact refusal_of_validate invalid
  · by_cases legal : Http.isToken (sentMethod request)
    · rw [legal] at refused
      cases headers : request.headers with
      | none =>
          rw [headers] at refused
          cases refused
          exact .noHeaders
      | some inbound =>
          rw [headers] at refused
          exact refusal_of_rebuilt refused
    · simp only [legal] at refused
      cases refused
      exact .illegalMethod _

theorem validate_eq_error (refused : forwarder.validate request = .error failure) :
    failure.status = 400 :=
  (refusal_of_validate refused).status_eq

theorem prepared_eq_error {token : String}
    (refused : forwarder.prepared request token = .error failure) : failure.status = 400 :=
  (refusal_of_prepared refused).status_eq

end BearerProxy.Forwarder
