import BearerProxy.Proofs.Forward.Confinement
import BearerProxy.Settings

/-!
What it says about the requests to come that settings are accepted. The base URL is then one of a web server
with a host, if it is a URL at all, but it need not be one, and the host need not be a header value. Requests
are refused for either fault exactly if the settings have it, since nothing looks for it before.
-/

namespace BearerProxy

namespace Forwarder

variable {forwarder : Forwarder}

/-! Requests that are refused for a fault of the backend. -/

def absoluteRequest : InboundRequest :=
  { method := some "GET", path := some "http://a/", headers := some .empty, body := none }

def plainRequest : InboundRequest :=
  { method := some "GET", path := some "/", headers := some .empty, body := none }

theorem checkTarget_of_unread {backend : Backend} {fault : Url.Fault}
    (unread : Url.parse backend.baseUrl = .error fault) :
    checkTarget backend "http://a/" = .error (.request (.illegalBase fault)) := by
  have parsed : (Url.parse "http://a/").isOk = true := by decide +kernel
  have absolute : isAbsolute "http://a/" = true := by decide
  rw [checkTarget, if_pos absolute]
  cases read : Url.parse "http://a/" with
  | error other =>
      rw [read] at parsed
      cases parsed
  | ok url => simp only [unread]

theorem validate_of_unread {fault : Url.Fault}
    (unread : Url.parse forwarder.backend.baseUrl = .error fault) :
    forwarder.validate absoluteRequest = .error (.request (.illegalBase fault)) := by
  have method : present? absoluteRequest.method = some "GET" := by decide
  have path : present? absoluteRequest.path = some "http://a/" := by decide
  have trimmed : Text.trim "http://a/" = "http://a/" := by decide
  rw [validate, method, path]
  simp only [trimmed, checkTarget_of_unread unread]

theorem targetUrl_of_unread {backend : Backend} {fault : Url.Fault}
    (unread : Url.parse backend.baseUrl = .error fault) :
    targetUrl backend "http://a/" = .error (.request (.illegalBase fault)) := by
  have trimmed : Text.trimmed? "http://a/" = some "http://a/" := by decide
  have absolute : isAbsolute "http://a/" = true := by decide
  rw [targetUrl, trimmed]
  simp only [absolute, if_true, checkTarget_of_unread unread]
  rfl

theorem prepared_of_unread {fault : Url.Fault}
    (unread : Url.parse forwarder.backend.baseUrl = .error fault) (token : String) :
    forwarder.prepared absoluteRequest token = .error (.request (.illegalBase fault)) := by
  rw [prepared, validate_of_unread unread]
  rfl

theorem prepared_of_unwritten (unwritten : Http.HeaderValue.ofText? forwarder.backend.host = none) :
    forwarder.prepared plainRequest "t" = .error (.request .illegalHost) := by
  have valid : forwarder.validate plainRequest = .ok () := by
    rw [validate, show present? plainRequest.method = some "GET" by decide,
      show present? plainRequest.path = some "/" by decide]
    exact if_neg (by decide)
  have legal : Http.isToken (sentMethod plainRequest) = true := by decide
  have token : Text.trimmed? "t" = some "t" := by decide
  have bearer : Http.HeaderValue.ofText? "Bearer t" = some ⟨"Bearer t".toUTF8.toList⟩ := by
    decide +kernel
  have unauthorized (headers : Http.Headers) :
      authorize forwarder.backend (some headers) "t" = .error (.request .illegalHost) := by
    rw [authorize, token]
    simp only [show "Bearer " ++ "t" = "Bearer t" by decide, bearer, unwritten]
    rfl
  rw [prepared, valid, legal]
  simp only [plainRequest, rebuilt, unauthorized]
  rfl

theorem TargetRefusal.ne_illegalHost {backend : Backend} {failure : Failure}
    (refusal : TargetRefusal backend failure) : failure ≠ .request .illegalHost := by
  cases refusal <;> simp

theorem validate_ne_illegalHost (forwarder : Forwarder) (request : InboundRequest) :
    forwarder.validate request ≠ .error (.request .illegalHost) := by
  intro refused
  rw [validate] at refused
  split at refused
  · cases refused
  · cases refused
  · exact (targetRefusal_of_checkTarget refused).ne_illegalHost rfl

theorem targetUrl_ne_illegalHost (backend : Backend) (path : String) :
    targetUrl backend path ≠ .error (.request .illegalHost) := by
  intro refused
  rcases targetUrl_eq_error refused with empty | refusal
  · cases empty
  · exact refusal.ne_illegalHost rfl

theorem Refusal.unread {backend : Backend} {fault : Url.Fault}
    (refusal : Refusal backend (.request (.illegalBase fault))) :
    Url.parse backend.baseUrl = .error fault := by
  cases refusal with
  | target _ refusal =>
      cases refusal with
      | illegalBase _ unread => exact unread

theorem Refusal.unwritten {backend : Backend} (refusal : Refusal backend (.request .illegalHost)) :
    Http.HeaderValue.ofText? backend.host = none := by
  cases refusal with
  | target _ refusal => exact absurd rfl refusal.ne_illegalHost
  | illegalHost unwritten => exact unwritten

/-- What it means that requests are refused for a fault of the backend exactly if the backend has it. -/
structure ShowsOwnFaults (forwarder : Forwarder) : Prop where
  baseAtValidation : ∀ fault,
    (∃ request, forwarder.validate request = .error (.request (.illegalBase fault))) ↔
      Url.parse forwarder.backend.baseUrl = .error fault
  baseAtResolution : ∀ fault,
    (∃ path, targetUrl forwarder.backend path = .error (.request (.illegalBase fault))) ↔
      Url.parse forwarder.backend.baseUrl = .error fault
  baseAtPreparation : ∀ fault,
    (∃ request token label,
        (forwarder.prepare request token label).value = .error (.request (.illegalBase fault))) ↔
      Url.parse forwarder.backend.baseUrl = .error fault
  hostAtValidation : ∀ request, forwarder.validate request ≠ .error (.request .illegalHost)
  hostAtResolution : ∀ path, targetUrl forwarder.backend path ≠ .error (.request .illegalHost)
  hostAtPreparation :
    (∃ request token label,
        (forwarder.prepare request token label).value = .error (.request .illegalHost)) ↔
      ∃ character ∈ forwarder.backend.host.toList, ¬Http.HeaderValue.isValueCharacter character

theorem showsOwnFaults (forwarder : Forwarder) : forwarder.ShowsOwnFaults where
  baseAtValidation fault := by
    constructor
    · rintro ⟨request, refused⟩
      exact (refusal_of_validate refused).unread
    · intro unread
      exact ⟨absoluteRequest, validate_of_unread unread⟩
  baseAtResolution fault := by
    constructor
    · rintro ⟨path, refused⟩
      exact (refusal_of_targetUrl refused).unread
    · intro unread
      exact ⟨"http://a/", targetUrl_of_unread unread⟩
  baseAtPreparation fault := by
    simp only [prepare_value]
    constructor
    · rintro ⟨request, token, _, refused⟩
      exact (refusal_of_prepared refused).unread
    · intro unread
      exact ⟨absoluteRequest, "t", "", prepared_of_unread unread "t"⟩
  hostAtValidation := validate_ne_illegalHost forwarder
  hostAtResolution := targetUrl_ne_illegalHost forwarder.backend
  hostAtPreparation := by
    simp only [prepare_value]
    rw [← Http.HeaderValue.ofText?_eq_none_iff]
    constructor
    · rintro ⟨request, token, _, refused⟩
      exact (refusal_of_prepared refused).unwritten
    · intro unwritten
      exact ⟨plainRequest, "t", "", prepared_of_unwritten unwritten⟩

end Forwarder

/-! Settings. -/

namespace Settings

variable {settings : Settings}

theorem validate_eq_ok_iff :
    settings.validate = .ok () ↔
      settings.tokens.validate = .ok () ∧
      Forwarder.isAbsolute (Text.trim settings.backend.baseUrl) ∧
      ¬Text.isBlankText settings.backend.host ∧
      (settings.backend.connectTimeout ≠ 0 ∧ settings.backend.readTimeout ≠ 0) ∧
      (∃ address, settings.listenAddress = .ok address) ∧
      ¬settings.hasBlankOperatorToken := by
  constructor
  · intro accepted
    rw [validate] at accepted
    rcases exists_of_bind_eq_ok accepted with ⟨_, tokens, accepted⟩
    rcases unguarded_of_eq_ok accepted with ⟨absolute, accepted⟩
    rcases unguarded_of_eq_ok accepted with ⟨host, accepted⟩
    rcases unguarded_of_eq_ok accepted with ⟨timeouts, accepted⟩
    rcases exists_of_bind_eq_ok accepted with ⟨address, listens, accepted⟩
    refine ⟨tokens, by simpa using absolute, host, by simpa using timeouts, ⟨address, listens⟩, ?_⟩
    split at accepted
    · cases accepted
    · assumption
  · rintro ⟨tokens, absolute, host, timeouts, ⟨address, listens⟩, operator⟩
    rw [validate, tokens, listens]
    simp only [absolute, host, timeouts.1, timeouts.2, operator]
    rfl

theorem web_of_validate (accepted : settings.validate = .ok ()) {url : Url}
    (parsed : Url.parse settings.forwarder.backend.baseUrl = .ok url) :
    Url.IsWeb url.scheme ∧ ∃ host, url.host = some host := by
  have absolute : Forwarder.isAbsolute settings.forwarder.backend.baseUrl :=
    (validate_eq_ok_iff.mp accepted).2.1
  have web := Forwarder.web_of_isAbsolute absolute parsed
  rcases Url.readHierarchy_of_parse parsed web with ⟨_, _, read⟩
  rcases Url.readHierarchy_eq_ok read with ⟨_, authority, authorityRead, _, sameHost, _⟩
  rcases Url.readAuthority_eq_ok authorityRead with ⟨_, host, _, _, hasHost⟩
  exact ⟨web, host, sameHost.trans hasHost⟩

/-- Of accepted settings it is known that the base URL names a web server if it is a URL. Whether it is one,
and whether the host can be written down, shows in the requests only. -/
theorem validate_showsOwnFaults (settings : Settings) (accepted : settings.validate = .ok ()) :
    (∀ url, Url.parse settings.forwarder.backend.baseUrl = .ok url →
      Url.IsWeb url.scheme ∧ ∃ host, url.host = some host) ∧
    settings.forwarder.ShowsOwnFaults :=
  ⟨fun _ parsed => web_of_validate accepted parsed, settings.forwarder.showsOwnFaults⟩

def spacedSettings : Settings :=
  { backend := { baseUrl := " https:///user@Backend.Test:8443//base/\n", host := "\tbackend.test " } }

theorem validate_showsOwnFaults_spaced :
    spacedSettings.validate = .ok () ∧
    (Url.parse spacedSettings.forwarder.backend.baseUrl).isOk ∧
    (∀ url, Url.parse spacedSettings.forwarder.backend.baseUrl = .ok url →
      Url.IsWeb url.scheme ∧ ∃ host, url.host = some host) ∧
    spacedSettings.forwarder.ShowsOwnFaults := by
  have accepted : spacedSettings.validate = .ok () := by decide +kernel
  have parsed : (Url.parse spacedSettings.forwarder.backend.baseUrl).isOk := by decide +kernel
  exact ⟨accepted, parsed, validate_showsOwnFaults spacedSettings accepted⟩

def hostlessSettings : Settings := { backend := { baseUrl := "http://" } }

def brokenHostSettings : Settings := { backend := { host := "backend\n.test" } }

/-- Settings without a host in the base URL are accepted. The URL that a relative path then comes to has its
host from the path, and a target that names a server is refused for the base URL; a host with a line end is
accepted as well, and every request is refused for it. -/
theorem accepts_unusable :
    (hostlessSettings.validate = .ok () ∧
      Url.parse hostlessSettings.forwarder.backend.baseUrl = .error .emptyHost ∧
      hostlessSettings.forwarder.validate Forwarder.absoluteRequest =
        .error (.request (.illegalBase .emptyHost)) ∧
      Forwarder.targetUrl hostlessSettings.forwarder.backend "/other.test/x" =
        .ok "http:/other.test/x" ∧
      (Url.parse "http:/other.test/x").map Url.host = .ok (some (.domain "other.test"))) ∧
    brokenHostSettings.validate = .ok () ∧
      (brokenHostSettings.forwarder.prepare Forwarder.plainRequest "token" "label").value =
        .error (.request .illegalHost) := by
  decide +kernel

end Settings

end BearerProxy
