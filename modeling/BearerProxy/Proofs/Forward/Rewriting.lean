import BearerProxy.Proofs.Forward.Preparation

/-!
One token after the other is put into a request. A token that is overwritten leaves nothing behind, neither in the
fields nor in what the tokens after it are refused for, so that the last one alone decides.
-/

namespace BearerProxy

namespace Http.Headers

theorem remove_append_self (headers : Headers) (name : String) (value : HeaderValue) :
    (headers.append name value).remove name = headers.remove name := by
  simp [append, remove]

theorem remove_append_of_ne {name other : String}
    (different : Text.lowerAscii name ≠ Text.lowerAscii other) (headers : Headers)
    (value : HeaderValue) :
    (headers.append name value).remove other = (headers.remove other).append name value := by
  simp [append, remove, different]

theorem remove_remove_self (headers : Headers) (name : String) :
    (headers.remove name).remove name = headers.remove name := by
  simp [remove]

theorem remove_comm (headers : Headers) (name other : String) :
    (headers.remove name).remove other = (headers.remove other).remove name := by
  simp [remove, List.filter_filter, Bool.and_comm]

theorem insert_insert_insert_insert {name other : String}
    (different : Text.lowerAscii name ≠ Text.lowerAscii other) (headers : Headers)
    (first second third fourth : HeaderValue) :
    (((headers.insert name first).insert other second).insert name third).insert other fourth =
      (headers.insert name third).insert other fourth := by
  simp only [insert, remove_append_self, remove_append_of_ne different,
    remove_append_of_ne different.symm]
  rw [remove_comm (headers.remove name) other name, remove_remove_self, remove_remove_self]

end Http.Headers

namespace Forwarder

def authorizeInTurn (backend : Backend) (request : InboundRequest) :
    List (String × String) → Reported (Except Failure InboundRequest)
  | [] => return .ok request
  | (token, label) :: later => do
      match ← authorizeRequest backend request token label with
      | .error failure => return .error failure
      | .ok rewritten => authorizeInTurn backend rewritten later

def Unsendable (token : String) : Prop :=
  Text.isBlankText token ∨
    ∃ character ∈ (Text.trim token).toList, ¬Http.HeaderValue.isValueCharacter character

/-- The request with its one authorization and its one host, and all else as it was. -/
structure Readdressed (backend : Backend) (token : String) (request rewritten : InboundRequest) :
    Prop where
  method : rewritten.method = request.method
  path : rewritten.path = request.path
  body : rewritten.body = request.body
  headers : ∃ inbound outbound, request.headers = some inbound ∧ rewritten.headers = some outbound ∧
    ∀ name, outbound.values name =
      if Text.equalIgnoringCase "host" name then [⟨backend.host.toUTF8.toList⟩]
      else if Text.equalIgnoringCase "authorization" name then
        [⟨("Bearer " ++ Text.trim token).toUTF8.toList⟩]
      else inbound.values name

variable {backend : Backend} {request rewritten : InboundRequest} {token label : String}

/-! One token. -/

theorem authorizeRequest_value (backend : Backend) (request : InboundRequest) (token label : String) :
    (authorizeRequest backend request token label).value =
      (authorize backend request.headers token).map fun headers =>
        { request with headers := some headers } := by
  rw [authorizeRequest, Reported.value_bind, Reported.value_pure, authorizeHeaders_value]

theorem authorizeRequest_eq_ok
    (accepted : (authorizeRequest backend request token label).value = .ok rewritten) :
    ∃ headers, authorize backend request.headers token = .ok headers ∧
      rewritten = { request with headers := some headers } := by
  rw [authorizeRequest_value] at accepted
  cases authorized : authorize backend request.headers token with
  | error failure =>
      rw [authorized] at accepted
      cases accepted
  | ok headers =>
      rw [authorized] at accepted
      exact ⟨headers, rfl, (Except.ok.inj accepted).symm⟩

theorem readdressed_of_authorizeRequest
    (accepted : (authorizeRequest backend request token label).value = .ok rewritten) :
    Readdressed backend token request rewritten := by
  rcases authorizeRequest_eq_ok accepted with ⟨headers, authorized, built⟩
  rcases authorize_eq_ok authorized with
    ⟨trimmed, kept, bearer, host, hasToken, hasHeaders, legal, named, inserted⟩
  have bearerIs := Http.HeaderValue.ofText?_eq_some _ _ legal
  rw [eq_trim_of_trimmed? hasToken] at bearerIs
  have hostIs := Http.HeaderValue.ofText?_eq_some _ _ named
  rw [built]
  refine ⟨rfl, rfl, rfl, kept, headers, hasHeaders, rfl, fun name => ?_⟩
  simp only [inserted, bearerIs, hostIs, Http.Headers.values_insert, Text.equalIgnoringCase,
    beq_iff_eq]

theorem ofText?_bearer_eq_none_iff (token : String) :
    Http.HeaderValue.ofText? ("Bearer " ++ token) = none ↔
      ∃ character ∈ token.toList, ¬Http.HeaderValue.isValueCharacter character := by
  have word : ∀ character ∈ "Bearer ".toList, Http.HeaderValue.isValueCharacter character :=
    List.all_eq_true.mp (by decide)
  rw [Http.HeaderValue.ofText?_eq_none_iff, String.toList_append]
  constructor
  · rintro ⟨character, member, illegal⟩
    rcases List.mem_append.mp member with inWord | inToken
    · exact absurd (word character inWord) illegal
    · exact ⟨character, inToken, illegal⟩
  · rintro ⟨character, member, illegal⟩
    exact ⟨character, List.mem_append_right _ member, illegal⟩

theorem authorize_refused_iff (backend : Backend) (headers : Option Http.Headers) (token : String) :
    (∃ failure, authorize backend headers token = .error failure) ↔
      Unsendable token ∨ headers = none ∨
        ∃ character ∈ backend.host.toList, ¬Http.HeaderValue.isValueCharacter character := by
  rw [authorize, Text.trimmed?, Unsendable, ← ofText?_bearer_eq_none_iff,
    ← Http.HeaderValue.ofText?_eq_none_iff]
  by_cases blank : Text.isBlankText token
  · rw [if_pos blank]
    exact iff_of_true ⟨_, rfl⟩ (.inl (.inl blank))
  · rw [if_neg blank]
    cases headers with
    | none => exact iff_of_true ⟨_, rfl⟩ (.inr (.inl rfl))
    | some kept =>
        simp only []
        cases Http.HeaderValue.ofText? ("Bearer " ++ Text.trim token) with
        | none => exact iff_of_true ⟨_, rfl⟩ (.inl (.inr rfl))
        | some bearer =>
            cases Http.HeaderValue.ofText? backend.host with
            | none => exact iff_of_true ⟨_, rfl⟩ (.inr (.inr rfl))
            | some host =>
                refine iff_of_false ?_ ?_
                · rintro ⟨failure, refused⟩
                  cases refused
                · simp [blank]

theorem authorizeRequest_refused_iff (backend : Backend) (request : InboundRequest)
    (token label : String) :
    (∃ failure, (authorizeRequest backend request token label).value = .error failure) ↔
      Unsendable token ∨ request.headers = none ∨
        ∃ character ∈ backend.host.toList, ¬Http.HeaderValue.isValueCharacter character := by
  rw [authorizeRequest_value, ← authorize_refused_iff]
  cases authorize backend request.headers token with
  | error failure => exact iff_of_true ⟨_, rfl⟩ ⟨_, rfl⟩
  | ok headers =>
      refine iff_of_false ?_ ?_
      · rintro ⟨failure, refused⟩
        cases refused
      · rintro ⟨failure, refused⟩
        cases refused

/-! One token behind another. -/

theorem authorize_authorized {headers : Option Http.Headers} {authorized : Http.Headers}
    (accepted : authorize backend headers token = .ok authorized) (next : String) :
    authorize backend (some authorized) next = authorize backend headers next := by
  rcases authorize_eq_ok accepted with
    ⟨trimmed, kept, bearer, host, hasToken, hasHeaders, legal, named, inserted⟩
  have different : Text.lowerAscii "authorization" ≠ Text.lowerAscii "host" := by decide
  rw [hasHeaders, inserted, authorize, authorize]
  cases Text.trimmed? next with
  | none => rfl
  | some nextTrimmed =>
      simp only []
      cases Http.HeaderValue.ofText? ("Bearer " ++ nextTrimmed) with
      | none => rfl
      | some nextBearer =>
          simp only [named, Http.Headers.insert_insert_insert_insert different]

theorem authorizeRequest_authorized
    (accepted : (authorizeRequest backend request token label).value = .ok rewritten)
    (next nextLabel : String) :
    (authorizeRequest backend rewritten next nextLabel).value =
      (authorizeRequest backend request next nextLabel).value := by
  rcases authorizeRequest_eq_ok accepted with ⟨headers, authorized, built⟩
  rw [authorizeRequest_value, authorizeRequest_value, built, authorize_authorized authorized]

/-! Many tokens. -/

theorem authorizeInTurn_cons (backend : Backend) (request : InboundRequest) (entry : String × String)
    (later : List (String × String)) :
    (authorizeInTurn backend request (entry :: later)).value =
      ((authorizeRequest backend request entry.1 entry.2).value >>= fun rewritten =>
        (authorizeInTurn backend rewritten later).value) := by
  rw [authorizeInTurn, Reported.value_bind]
  cases (authorizeRequest backend request entry.1 entry.2).value with
  | error failure => rfl
  | ok rewritten => rfl

theorem authorizeInTurn_authorized
    (accepted : (authorizeRequest backend request token label).value = .ok rewritten)
    {later : List (String × String)} (another : later ≠ []) :
    (authorizeInTurn backend rewritten later).value = (authorizeInTurn backend request later).value := by
  cases later with
  | nil => exact absurd rfl another
  | cons next later =>
      rw [authorizeInTurn_cons, authorizeInTurn_cons, authorizeRequest_authorized accepted]

theorem authorizeInTurn_singleton (backend : Backend) (request : InboundRequest)
    (entry : String × String) :
    (authorizeInTurn backend request [entry]).value =
      (authorizeRequest backend request entry.1 entry.2).value := by
  rw [authorizeInTurn_cons]
  cases (authorizeRequest backend request entry.1 entry.2).value with
  | error failure => rfl
  | ok rewritten => rfl

def refusal? (backend : Backend) (request : InboundRequest) (entry : String × String) :
    Option Failure :=
  match (authorizeRequest backend request entry.1 entry.2).value with
  | .error failure => some failure
  | .ok _ => none

theorem refusal?_eq_some_iff {entry : String × String} {failure : Failure} :
    refusal? backend request entry = some failure ↔
      (authorizeRequest backend request entry.1 entry.2).value = .error failure := by
  rw [refusal?]
  cases (authorizeRequest backend request entry.1 entry.2).value with
  | error other => simp
  | ok rewritten => simp

/-- The first token with which the request as it came in is refused counts; without one the last token does. -/
theorem authorizeInTurn_value (backend : Backend) (request : InboundRequest)
    (earlier : List (String × String)) (last : String × String) :
    (authorizeInTurn backend request (earlier ++ [last])).value =
      match earlier.findSome? (refusal? backend request) with
      | some failure => .error failure
      | none => (authorizeRequest backend request last.1 last.2).value := by
  induction earlier with
  | nil => exact authorizeInTurn_singleton backend request last
  | cons entry earlier induction =>
      rw [List.cons_append, authorizeInTurn_cons, List.findSome?_cons, refusal?]
      cases first : (authorizeRequest backend request entry.1 entry.2).value with
      | error failure => rfl
      | ok rewritten => exact (authorizeInTurn_authorized first (by simp)).trans induction

theorem authorizeInTurn_eq_error_iff (backend : Backend) (request : InboundRequest)
    (earlier : List (String × String)) (last : String × String) (failure : Failure) :
    (authorizeInTurn backend request (earlier ++ [last])).value = .error failure ↔
      (earlier ++ [last]).findSome? (refusal? backend request) = some failure := by
  rw [authorizeInTurn_value, List.findSome?_append]
  cases earlier.findSome? (refusal? backend request) with
  | none => simp [refusal?_eq_some_iff]
  | some first => simp

theorem eq_ok_of_authorizeInTurn {earlier : List (String × String)} {last : String × String}
    (accepted : (authorizeInTurn backend request (earlier ++ [last])).value = .ok rewritten) :
    (authorizeRequest backend request last.1 last.2).value = .ok rewritten := by
  rw [authorizeInTurn_value] at accepted
  split at accepted
  · cases accepted
  · exact accepted

/-- What comes of a request when tokens are put into it in turn: nothing but what comes of it with the last one,
unless it is refused with one of them. -/
structure LastWins (backend : Backend) (request : InboundRequest) (earlier : List (String × String))
    (last : String × String) : Prop where
  refused : (∃ failure,
      (authorizeInTurn backend request (earlier ++ [last])).value = .error failure) ↔
    ∃ entry ∈ earlier ++ [last], ∃ failure,
      (authorizeRequest backend request entry.1 entry.2).value = .error failure
  refusedFor : (∃ failure,
      (authorizeInTurn backend request (earlier ++ [last])).value = .error failure) ↔
    (∃ entry ∈ earlier ++ [last], Unsendable entry.1) ∨ request.headers = none ∨
      ∃ character ∈ backend.host.toList, ¬Http.HeaderValue.isValueCharacter character
  firstRefusal : ∀ failure,
    (authorizeInTurn backend request (earlier ++ [last])).value = .error failure ↔
      (earlier ++ [last]).findSome? (refusal? backend request) = some failure
  lastAlone : ∀ rewritten,
    (authorizeInTurn backend request (earlier ++ [last])).value = .ok rewritten →
      (authorizeRequest backend request last.1 last.2).value = .ok rewritten ∧
        Readdressed backend last.1 request rewritten
  idempotent : ∀ rewritten, (authorizeRequest backend request last.1 last.2).value = .ok rewritten →
    (authorizeRequest backend rewritten last.1 last.2).value = .ok rewritten

theorem authorizeInTurn_lastWins (backend : Backend) (request : InboundRequest)
    (earlier : List (String × String)) (last : String × String) :
    LastWins backend request earlier last := by
  have refused : (∃ failure,
      (authorizeInTurn backend request (earlier ++ [last])).value = .error failure) ↔
      ∃ entry ∈ earlier ++ [last], ∃ failure,
        (authorizeRequest backend request entry.1 entry.2).value = .error failure := by
    simp only [authorizeInTurn_eq_error_iff, ← Option.isSome_iff_exists, List.findSome?_isSome_iff,
      ← refusal?_eq_some_iff]
  constructor
  case refused => exact refused
  case refusedFor =>
    rw [refused]
    simp only [authorizeRequest_refused_iff]
    constructor
    · rintro ⟨entry, given, unsendable | faulty⟩
      · exact .inl ⟨entry, given, unsendable⟩
      · exact .inr faulty
    · rintro (⟨entry, given, unsendable⟩ | faulty)
      · exact ⟨entry, given, .inl unsendable⟩
      · exact ⟨last, List.mem_append_right _ List.mem_cons_self, .inr faulty⟩
  case firstRefusal => exact authorizeInTurn_eq_error_iff backend request earlier last
  case lastAlone =>
    intro rewritten accepted
    have alone := eq_ok_of_authorizeInTurn accepted
    exact ⟨alone, readdressed_of_authorizeRequest alone⟩
  case idempotent =>
    intro rewritten accepted
    exact (authorizeRequest_authorized accepted last.1 last.2).trans accepted

/-- However many authorizations there were, and in whatever spelling, one is left. -/
example :
    (authorizeInTurn { host := "h" }
      { method := none
        path := some "/"
        headers := some (.ofList [("Authorization", ⟨"own".toUTF8.toList⟩),
          ("x-kept", ⟨"1".toUTF8.toList⟩), ("AUTHORIZATION", ⟨"own".toUTF8.toList⟩)])
        body := none }
      [("one", "first"), (" two ", "second")]).value.toOption =
      some
        { method := none
          path := some "/"
          headers := some (.ofList [("x-kept", ⟨"1".toUTF8.toList⟩),
            ("authorization", ⟨"Bearer two".toUTF8.toList⟩), ("host", ⟨"h".toUTF8.toList⟩)])
          body := none } := by
  decide +kernel

end Forwarder

end BearerProxy
