import BearerProxy.Proofs.Forward.Spelling

/-!
The header fields that a request is sent on with, name by name: one authorization and one host of the proxy's
own, nothing about the connection and nothing that the first rule for the request lists, and all other fields as
they came in.
-/

namespace BearerProxy

namespace FilterRule

def IsFirst (applies : FilterRule → Bool) (rules : List FilterRule) : Option FilterRule → Prop
  | none => ∀ rule ∈ rules, ¬applies rule
  | some rule => applies rule ∧
      ∃ before after, rules = before ++ rule :: after ∧ ∀ earlier ∈ before, ¬applies earlier

theorem isFirst_first? (rules : List FilterRule) (method path : String) (headers : Http.Headers) :
    IsFirst (fun rule => rule.appliesTo method path headers) rules
      (first? rules method path headers) := by
  cases chosen : first? rules method path headers with
  | none =>
      intro rule isRule
      exact List.find?_eq_none.mp chosen rule isRule
  | some rule =>
      rcases List.find?_eq_some_iff_append.mp chosen with ⟨applies, before, after, split, earlier⟩
      exact ⟨applies, before, after, split, by simpa using earlier⟩

theorem first?_append_cons {rule : FilterRule} {method path : String} {headers : Http.Headers}
    (applies : rule.appliesTo method path headers) (before after : List FilterRule) :
    first? (before ++ rule :: after) method path headers =
      (first? before method path headers).or (some rule) := by
  simp [first?, applies]

/-- The names of fields that are taken out of a request: those about the connection and those that the rule
lists, in whatever case. -/
def TakesOut (rule : Option FilterRule) (name : String) : Prop :=
  (∃ hop ∈ ["connection", "content-length", "transfer-encoding"],
    Text.equalIgnoringCase hop name) ∨
  ∃ chosen ∈ rule, ∃ listed ∈ chosen.headers, Text.equalIgnoringCase listed name

theorem mem_alwaysSkipped_iff (name : String) :
    Text.lowerAscii name ∈ alwaysSkipped ↔
      Text.equalIgnoringCase "authorization" name ∨ Text.equalIgnoringCase "host" name ∨
        ∃ hop ∈ ["connection", "content-length", "transfer-encoding"],
          Text.equalIgnoringCase hop name := by
  have small : ∀ known ∈ alwaysSkipped, Text.lowerAscii known = known := by decide
  have is (known : String) (isKnown : known ∈ alwaysSkipped) :
      Text.equalIgnoringCase known name ↔ Text.lowerAscii name = known := by
    rw [Text.equalIgnoringCase, beq_iff_eq, small known isKnown, eq_comm]
  simp only [List.exists_mem_cons_iff, List.not_mem_nil, false_and, exists_false, or_false]
  rw [is "authorization" (by decide), is "host" (by decide), is "connection" (by decide),
    is "content-length" (by decide), is "transfer-encoding" (by decide)]
  simp only [alwaysSkipped, List.mem_cons, List.not_mem_nil, or_false]
  grind

theorem mem_headersToSkip_iff (rule : Option FilterRule) (name : String) :
    Text.lowerAscii name ∈ headersToSkip rule ↔
      Text.equalIgnoringCase "authorization" name ∨ Text.equalIgnoringCase "host" name ∨
        TakesOut rule name := by
  cases rule with
  | none => simp [headersToSkip, mem_alwaysSkipped_iff, TakesOut]
  | some chosen =>
      have listed : Text.lowerAscii name ∈ chosen.headers.map Text.lowerAscii ↔
          ∃ listed ∈ chosen.headers, Text.equalIgnoringCase listed name := by
        simp [Text.equalIgnoringCase]
      simp [headersToSkip, mem_alwaysSkipped_iff, listed, TakesOut, or_assoc]

end FilterRule

namespace Http.Headers

def Canonical (headers : Headers) : Prop :=
  ∀ field ∈ headers.fields, Text.lowerAscii field.1 = field.1

theorem mem_insert {headers : Headers} {name : String} {value : HeaderValue}
    {field : String × HeaderValue} (isField : field ∈ (headers.insert name value).fields) :
    field ∈ headers.fields ∨ field = (Text.lowerAscii name, value) := by
  rw [insert, append, List.mem_append, List.mem_singleton] at isField
  exact isField.imp_left fun kept => (List.mem_filter.mp kept).1

end Http.Headers

namespace Forwarder

/-- What the fields of a request become with a rule and a token. -/
structure Rewritten (backend : Backend) (rule : Option FilterRule) (token : String)
    (inbound outbound : Http.Headers) : Prop where
  authorization : ∀ name, Text.equalIgnoringCase "authorization" name →
    outbound.values name = [⟨("Bearer " ++ Text.trim token).toUTF8.toList⟩]
  host : ∀ name, Text.equalIgnoringCase "host" name →
    outbound.values name = [⟨backend.host.toUTF8.toList⟩]
  takenOut : ∀ name, ¬Text.equalIgnoringCase "authorization" name →
    ¬Text.equalIgnoringCase "host" name → FilterRule.TakesOut rule name →
    outbound.values name = []
  kept : ∀ name, ¬Text.equalIgnoringCase "authorization" name →
    ¬Text.equalIgnoringCase "host" name → ¬FilterRule.TakesOut rule name →
    outbound.values name = inbound.values name
  names : ∀ field ∈ outbound.fields,
    field.1 = "authorization" ∨ field.1 = "host" ∨ field ∈ inbound.fields
  canonical : inbound.Canonical → outbound.Canonical

theorem values_authorized (inbound : Http.Headers) (skipped : List String)
    (bearer host : Http.HeaderValue) (name : String) :
    (((inbound.without skipped).insert "authorization" bearer).insert "host" host).values name =
      if Text.equalIgnoringCase "host" name then [host]
      else if Text.equalIgnoringCase "authorization" name then [bearer]
      else if Text.lowerAscii name ∈ skipped then [] else inbound.values name := by
  simp only [Http.Headers.values_insert, Http.Headers.values_without, Text.equalIgnoringCase,
    beq_iff_eq]

theorem mem_authorized {inbound : Http.Headers} {skipped : List String}
    {bearer host : Http.HeaderValue} {field : String × Http.HeaderValue}
    (isField : field ∈
      (((inbound.without skipped).insert "authorization" bearer).insert "host" host).fields) :
    field = ("authorization", bearer) ∨ field = ("host", host) ∨ field ∈ inbound.fields := by
  rcases Http.Headers.mem_insert isField with earlier | isHost
  · rcases Http.Headers.mem_insert earlier with kept | isBearer
    · exact .inr (.inr (List.mem_filter.mp kept).1)
    · exact .inl isBearer
  · exact .inr (.inl isHost)

theorem rewritten_of_authorize {backend : Backend} {rule : Option FilterRule} {token : String}
    {inbound outbound : Http.Headers}
    (authorized : authorize backend (some (inbound.without (FilterRule.headersToSkip rule))) token =
      .ok outbound) :
    Rewritten backend rule token inbound outbound := by
  rcases authorize_eq_ok authorized with
    ⟨trimmed, kept, bearer, host, hasToken, hasHeaders, legal, named, inserted⟩
  have bearerIs := Http.HeaderValue.ofText?_eq_some _ _ legal
  rw [eq_trim_of_trimmed? hasToken] at bearerIs
  have hostIs := Http.HeaderValue.ofText?_eq_some _ _ named
  rw [← Option.some.inj hasHeaders] at inserted
  have values (name : String) := values_authorized inbound (FilterRule.headersToSkip rule) bearer host name
  rw [← inserted] at values
  have fields {field : String × Http.HeaderValue} (isField : field ∈ outbound.fields) :
      field = ("authorization", bearer) ∨ field = ("host", host) ∨ field ∈ inbound.fields := by
    rw [inserted] at isField
    exact mem_authorized isField
  constructor
  case authorization =>
    intro name isAuthorization
    have notHost : ¬Text.equalIgnoringCase "host" name := by
      intro isHost
      rw [Text.equalIgnoringCase, beq_iff_eq] at isHost isAuthorization
      exact absurd (isHost.trans isAuthorization.symm) (by decide)
    rw [values, if_neg notHost, if_pos isAuthorization, bearerIs]
  case host =>
    intro name isHost
    rw [values, if_pos isHost, hostIs]
  case takenOut =>
    intro name notAuthorization notHost takesOut
    have skipped := (FilterRule.mem_headersToSkip_iff rule name).mpr (.inr (.inr takesOut))
    rw [values, if_neg notHost, if_neg notAuthorization, if_pos skipped]
  case kept =>
    intro name notAuthorization notHost stays
    have copied : Text.lowerAscii name ∉ FilterRule.headersToSkip rule := by
      rw [FilterRule.mem_headersToSkip_iff]
      rintro (isAuthorization | isHost | takesOut)
      · exact notAuthorization isAuthorization
      · exact notHost isHost
      · exact stays takesOut
    rw [values, if_neg notHost, if_neg notAuthorization, if_neg copied]
  case names =>
    intro field isField
    rcases fields isField with isBearer | isHost | copied
    · exact .inl (congrArg Prod.fst isBearer)
    · exact .inr (.inl (congrArg Prod.fst isHost))
    · exact .inr (.inr copied)
  case canonical =>
    intro canonical field isField
    rcases fields isField with isBearer | isHost | copied
    · rw [isBearer]
      change Text.lowerAscii "authorization" = "authorization"
      decide
    · rw [isHost]
      change Text.lowerAscii "host" = "host"
      decide
    · exact canonical field copied

theorem prepared_of_sameChoice {forwarder : Forwarder} {request : InboundRequest}
    {inbound : Http.Headers} (present : request.headers = some inbound) (rules : List FilterRule)
    (same : ({ forwarder with rules } : Forwarder).ruleFor request inbound =
      forwarder.ruleFor request inbound) (token : String) :
    ({ forwarder with rules } : Forwarder).prepared request token =
      forwarder.prepared request token := by
  simp only [prepared, present, rebuilt, same]
  rfl

/-- The fields of an accepted request are settled by the first rule for it; the rules behind that one make no
difference to anything that is sent on. -/
theorem prepare_rewritten (forwarder : Forwarder) (request : InboundRequest) (token label : String)
    (outbound : OutboundRequest)
    (accepted : (forwarder.prepare request token label).value = .ok outbound) :
    ∃ inbound rule, request.headers = some inbound ∧
      FilterRule.IsFirst
        (fun rule => rule.appliesTo (sentMethod request) (request.path.getD "") inbound)
        forwarder.rules rule ∧
      Rewritten forwarder.backend rule token inbound outbound.headers ∧
      ∀ chosen before after later, forwarder.rules = before ++ chosen :: after →
        chosen.appliesTo (sentMethod request) (request.path.getD "") inbound →
        (({ forwarder with rules := before ++ chosen :: later } : Forwarder).prepare request token
          label).value = .ok outbound := by
  rw [prepare_value] at accepted
  rcases prepared_eq_ok accepted with ⟨-, -, inbound, present, rebuilt⟩
  rcases rebuilt_eq_ok rebuilt with ⟨headers, url, authorized, -, built⟩
  have chosenFirst (rules : List FilterRule) :
      ({ forwarder with rules } : Forwarder).ruleFor request inbound =
        FilterRule.first? rules (sentMethod request) (request.path.getD "") inbound :=
    FilterRule.select_value _ _ _ _
  refine ⟨inbound, forwarder.ruleFor request inbound, present, ?_, ?_, ?_⟩
  · rw [chosenFirst forwarder.rules]
    exact FilterRule.isFirst_first? _ _ _ _
  · rw [built]
    exact rewritten_of_authorize authorized
  · intro chosen before after later rules applies
    rw [prepare_value, prepared_of_sameChoice present _ _ token, accepted]
    rw [chosenFirst, chosenFirst forwarder.rules, rules, FilterRule.first?_append_cons applies,
      FilterRule.first?_append_cons applies]

def layeredRules : Forwarder :=
  { rules :=
      [{ name := "elsewhere", pathPrefix := some "/v2", headers := ["x-keep"] },
        { name := "first", headers := ["X-Debug", "HOST", "Authorization"] },
        { name := "shadowed", headers := ["x-keep"] }] }

def crowdedRequest : InboundRequest :=
  { method := some "get"
    path := some "/v1/models"
    headers := some (.ofList
      [("Authorization", ⟨"Bearer own".toUTF8.toList⟩), ("X-Keep", ⟨"one".toUTF8.toList⟩),
        ("Connection", ⟨"close".toUTF8.toList⟩), ("x-debug", ⟨"1".toUTF8.toList⟩),
        ("AUTHORIZATION", ⟨"Basic own".toUTF8.toList⟩), ("X-DEBUG", ⟨"2".toUTF8.toList⟩),
        ("x-keep", ⟨"two".toUTF8.toList⟩)])
    body := none }

def thinnedRequest : OutboundRequest :=
  { method := "GET"
    url := "https://flow.ciandt.com/flow-llm-proxy/v1/models"
    headers := .ofList
      [("x-keep", ⟨"one".toUTF8.toList⟩), ("x-keep", ⟨"two".toUTF8.toList⟩),
        ("authorization", ⟨"Bearer token".toUTF8.toList⟩),
        ("host", ⟨"flow.ciandt.com".toUTF8.toList⟩)]
    body := none }

theorem prepare_crowdedRequest :
    (layeredRules.prepare crowdedRequest " token" "label").value = .ok thinnedRequest := by
  decide +kernel

theorem prepare_rewritten_crowded :
    (layeredRules.prepare crowdedRequest " token" "label").value = .ok thinnedRequest ∧
      ∃ inbound rule, crowdedRequest.headers = some inbound ∧
        FilterRule.IsFirst
          (fun rule => rule.appliesTo (sentMethod crowdedRequest)
            (crowdedRequest.path.getD "") inbound)
          layeredRules.rules rule ∧
        Rewritten layeredRules.backend rule " token" inbound thinnedRequest.headers ∧
        ∀ chosen before after later, layeredRules.rules = before ++ chosen :: after →
          chosen.appliesTo (sentMethod crowdedRequest) (crowdedRequest.path.getD "") inbound →
          (({ layeredRules with rules := before ++ chosen :: later } : Forwarder).prepare
            crowdedRequest " token" "label").value = .ok thinnedRequest :=
  ⟨prepare_crowdedRequest,
    prepare_rewritten layeredRules crowdedRequest " token" "label" thinnedRequest
      prepare_crowdedRequest⟩

end Forwarder

end BearerProxy
