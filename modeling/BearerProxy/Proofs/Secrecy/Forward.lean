import BearerProxy.Dispatch
import BearerProxy.Proofs.Secrecy.Token

/-!
Requests that are sent on with different tokens. They differ in the value of their authorization only, which
no diagnostics show.
-/

namespace BearerProxy

/-! Header fields. -/

structure FieldAlike (one other : String × Http.HeaderValue) : Prop where
  name : one.1 = other.1
  value : one.1 = "authorization" ∨ one.2 = other.2

theorem FieldAlike.refl (field : String × Http.HeaderValue) : FieldAlike field field where
  name := rfl
  value := .inr rfl

namespace Http.Headers

/-- The same fields in the same order, but for the values of the authorization. -/
structure Alike (one other : Headers) : Prop where
  fields : List.Forall₂ FieldAlike one.fields other.fields

namespace Alike

variable {one other : Headers}

theorem refl (headers : Headers) : headers.Alike headers where
  fields := List.forall₂_same.mpr fun field _ => .refl field

theorem insert (alike : one.Alike other) (name : String) {value otherValue : HeaderValue}
    (same : FieldAlike (Text.lowerAscii name, value) (Text.lowerAscii name, otherValue)) :
    (one.insert name value).Alike (other.insert name otherValue) where
  fields := by
    rw [Headers.insert, Headers.insert, append, append]
    apply List.rel_append _ (.cons same .nil)
    apply filter_of_forall₂ alike.fields
    intro field otherField same
    rw [same.name]

theorem grouped (alike : one.Alike other) :
    List.Forall₂ FieldAlike one.grouped other.grouped := by
  have names : one.fields.map (·.1) = other.fields.map (·.1) :=
    map_of_forall₂ alike.fields fun field otherField same => same.name
  rw [Headers.grouped, Headers.grouped, names]
  induction (other.fields.map (·.1)).eraseDups with
  | nil => exact .nil
  | cons name names induction =>
      rw [List.flatMap_cons, List.flatMap_cons]
      apply List.rel_append _ induction
      apply filter_of_forall₂ alike.fields
      intro field otherField same
      rw [same.name]

theorem inspectHiding (alike : one.Alike other) :
    one.inspectHiding "authorization" = other.inspectHiding "authorization" := by
  rw [Headers.inspectHiding, Headers.inspectHiding]
  rw [map_of_forall₂ alike.grouped]
  intro field otherField same
  rw [same.name]
  by_cases hidden : otherField.1 = "authorization"
  · simp [hidden]
  · have shown : field.2 = otherField.2 := by
      apply same.value.resolve_left
      rw [same.name]
      exact hidden
    simp [hidden, shown]

end Alike

end Http.Headers

/-! Requests. -/

structure OutboundRequest.Alike (one other : OutboundRequest) : Prop where
  method : one.method = other.method
  url : one.url = other.url
  headers : one.headers.Alike other.headers
  body : one.body = other.body

theorem OutboundRequest.Alike.inspect {one other : OutboundRequest} (alike : one.Alike other) :
    one.inspect = other.inspect := by
  rw [OutboundRequest.inspect, OutboundRequest.inspect, alike.method, alike.url,
    alike.headers.inspectHiding, alike.body]

structure Prepared.Alike (one other : Prepared) : Prop where
  member : one.member.Alike other.member
  token : one.token.Alike other.token
  outbound : one.outbound.Alike other.outbound

theorem Prepared.Alike.inspect {one other : Prepared} (alike : one.Alike other) :
    one.inspect = other.inspect := by
  rw [Prepared.inspect, Prepared.inspect, alike.member.credential.inspect, alike.token.inspect,
    alike.outbound.inspect]

namespace Forwarder

variable {token other : String}

theorem authorize_alike (backend : Backend) (headers : Option Http.Headers)
    (sendable : Sendable token) (otherSendable : Sendable other) :
    Agree Http.Headers.Alike (authorize backend headers token) (authorize backend headers other) := by
  rcases sendable.legal with ⟨bearer, legal⟩
  rcases otherSendable.legal with ⟨otherBearer, otherLegal⟩
  rw [authorize, authorize, sendable.trimmed, otherSendable.trimmed]
  cases headers with
  | none => exact .error _
  | some headers =>
      simp only [legal, otherLegal]
      cases Http.HeaderValue.ofText? backend.host with
      | none => exact .error _
      | some host =>
          have name : Text.lowerAscii "authorization" = "authorization" := by decide
          apply Agree.ok
          apply Http.Headers.Alike.insert _ "host" (.refl _)
          apply Http.Headers.Alike.insert (.refl headers) "authorization"
          exact ⟨rfl, .inl name⟩

theorem authorizeHeaders_alike (backend : Backend) (headers : Option Http.Headers) (label : String)
    (sendable : Sendable token) (otherSendable : Sendable other) :
    Reported.Alike (Agree Http.Headers.Alike) (authorizeHeaders backend headers token label)
      (authorizeHeaders backend headers other label) := by
  have authorized := authorize_alike backend headers sendable otherSendable
  rw [authorizeHeaders, authorizeHeaders]
  generalize authorize backend headers token = result at authorized ⊢
  generalize authorize backend headers other = otherResult at authorized ⊢
  cases authorized with
  | error failure => exact .pure (.error failure)
  | ok alike => exact .after _ fun _ => .pure (.ok alike)

theorem prepare_alike (forwarder : Forwarder) (request : InboundRequest) (label : String)
    (sendable : Sendable token) (otherSendable : Sendable other) :
    Reported.Alike (Agree OutboundRequest.Alike) (forwarder.prepare request token label)
      (forwarder.prepare request other label) := by
  rw [prepare, prepare]
  cases forwarder.validate request with
  | error failure => exact .pure (.error failure)
  | ok _ =>
      simp only []
      split
      · exact .pure (.error _)
      · cases request.headers with
        | none => exact .pure (.error _)
        | some inbound =>
            apply Reported.Alike.after
            intro rule
            apply Reported.Alike.after
            intro filtered
            apply Reported.Alike.bind (authorizeHeaders_alike _ _ label sendable otherSendable)
            intro authorized otherAuthorized alike
            cases alike with
            | error failure => exact .pure (.error failure)
            | ok headers =>
                apply Reported.Alike.pure
                cases targetUrl forwarder.backend filtered.1 with
                | error failure => exact .error failure
                | ok url => exact .ok ⟨rfl, rfl, headers, rfl⟩

end Forwarder

end BearerProxy
