import Mathlib.Data.List.Basic
import BearerProxy.Proofs.Forward.Preparation
import BearerProxy.Proofs.Text.Blank
import BearerProxy.Proofs.Text.Pieces

/-!
Spellings of one path. The rule for a request is chosen by the path as it is written, but the URL is that of
the path without the white space around it, and a slash in front or the name of the server make no
difference to it. Two spellings are filtered alike exactly if neither of them misses the prefix of the rule
that is chosen for the other one.
-/

namespace BearerProxy

theorem find?_eq_of_found {α : Type u} {one other : α → Bool} {items : List α}
    (oneFound : ∀ item, items.find? one = some item → other item)
    (otherFound : ∀ item, items.find? other = some item → one item) :
    items.find? one = items.find? other := by
  induction items with
  | nil => rfl
  | cons item items induction =>
      cases oneHolds : one item with
      | true =>
          have otherHolds := oneFound item (List.find?_cons_of_pos oneHolds)
          rw [List.find?_cons_of_pos oneHolds, List.find?_cons_of_pos otherHolds]
      | false =>
          have oneFails : ¬one item := by simp [oneHolds]
          have otherFails : ¬other item := by
            intro otherHolds
            exact oneFails (otherFound item (List.find?_cons_of_pos otherHolds))
          rw [List.find?_cons_of_neg oneFails, List.find?_cons_of_neg otherFails]
          apply induction
          · intro found first
            apply oneFound
            rw [List.find?_cons_of_neg oneFails]
            exact first
          · intro found first
            apply otherFound
            rw [List.find?_cons_of_neg otherFails]
            exact first

namespace FilterRule

variable {rules : List FilterRule} {rule : FilterRule} {method one other : String}
  {headers : Http.Headers}

theorem appliesTo_iff :
    rule.appliesTo method one headers ↔
      rule.matchesPath one ∧ rule.matchesMethod method ∧ rule.matchesHeaders headers := by
  rw [appliesTo, Bool.and_eq_true, Bool.and_eq_true, and_assoc]

theorem appliesTo_of_first? (chosen : first? rules method one headers = some rule) :
    rule.appliesTo method one headers := by
  rw [first?] at chosen
  have applies := List.find?_some chosen
  exact applies

theorem select_value (rules : List FilterRule) (method path : String) (headers : Http.Headers) :
    (select rules method path headers).value = first? rules method path headers := by
  rw [select]
  cases first? rules method path headers with
  | none => rfl
  | some rule => rfl

theorem first?_eq_iff :
    first? rules method one headers = first? rules method other headers ↔
      (∀ rule, first? rules method one headers = some rule → rule.matchesPath other) ∧
      (∀ rule, first? rules method other headers = some rule → rule.matchesPath one) := by
  constructor
  · intro same
    constructor
    · intro rule chosen
      rw [same] at chosen
      exact (appliesTo_iff.mp (appliesTo_of_first? chosen)).1
    · intro rule chosen
      rw [← same] at chosen
      exact (appliesTo_iff.mp (appliesTo_of_first? chosen)).1
  · rintro ⟨oneChosen, otherChosen⟩
    apply find?_eq_of_found
    · intro rule chosen
      exact appliesTo_iff.mpr
        ⟨oneChosen rule chosen, (appliesTo_iff.mp (appliesTo_of_first? chosen)).2⟩
    · intro rule chosen
      exact appliesTo_iff.mpr
        ⟨otherChosen rule chosen, (appliesTo_iff.mp (appliesTo_of_first? chosen)).2⟩

theorem matchesPath_append_blanks {rule : FilterRule}
    (trimmed : ∀ beginning, rule.pathPrefix = some beginning →
      Text.trimEnd beginning.toList = beginning.toList)
    (path : List Char) {blanks : List Char} (blank : ∀ character ∈ blanks, Text.isBlank character) :
    rule.matchesPath (String.ofList (path ++ blanks)) = rule.matchesPath (String.ofList path) := by
  rw [matchesPath, matchesPath]
  cases pathPrefix : rule.pathPrefix with
  | none => rfl
  | some beginning =>
      simp only [basePath, String.toList_ofList, Text.splitFirst_before, List.takeWhile_append]
      split
      · rename_i whole
        rw [(List.takeWhile_prefix _).eq_of_length whole]
        apply Text.isPrefixOf_append_blanks (trimmed beginning pathPrefix)
        intro character member
        exact blank character ((List.takeWhile_prefix _).subset member)
      · rfl

end FilterRule

def InboundRequest.withPath (request : InboundRequest) (path : String) : InboundRequest :=
  { request with path := some path }

namespace Forwarder

def selectedRule? (forwarder : Forwarder) (request : InboundRequest) : Option FilterRule :=
  request.headers.bind (forwarder.ruleFor request)

/-- The rule that is chosen with one of two paths is for the other path as well. -/
def PathsAgree (forwarder : Forwarder) (request : InboundRequest) (one other : String) : Prop :=
  (∀ rule, forwarder.selectedRule? (request.withPath one) = some rule → rule.matchesPath other) ∧
  (∀ rule, forwarder.selectedRule? (request.withPath other) = some rule → rule.matchesPath one)

theorem selectedRule?_eq {request : InboundRequest} {inbound : Http.Headers}
    (present : request.headers = some inbound) (forwarder : Forwarder) (path : String) :
    forwarder.selectedRule? (request.withPath path) =
      FilterRule.first? forwarder.rules (sentMethod request) path inbound := by
  have same : (request.withPath path).headers = some inbound := present
  rw [selectedRule?, same]
  exact FilterRule.select_value forwarder.rules (sentMethod request) path inbound

theorem selectedRule?_eq_iff {request : InboundRequest} {inbound : Http.Headers}
    (present : request.headers = some inbound) (forwarder : Forwarder) (one other : String) :
    forwarder.selectedRule? (request.withPath one) =
        forwarder.selectedRule? (request.withPath other) ↔
      forwarder.PathsAgree request one other := by
  rw [PathsAgree, selectedRule?_eq present, selectedRule?_eq present]
  exact FilterRule.first?_eq_iff

theorem filtered_body (rule : Option FilterRule) (request : InboundRequest) (one other : String) :
    (filtered rule (request.withPath one)).2 = (filtered rule (request.withPath other)).2 := by
  cases rule with
  | none => rfl
  | some rule => rfl

theorem prepared_of_sameRule {forwarder : Forwarder} {request : InboundRequest}
    {one other token : String} {first second : OutboundRequest}
    (firstAccepted : forwarder.prepared (request.withPath one) token = .ok first)
    (secondAccepted : forwarder.prepared (request.withPath other) token = .ok second)
    (same : forwarder.selectedRule? (request.withPath one) =
      forwarder.selectedRule? (request.withPath other)) :
    first.headers = second.headers ∧ first.body = second.body := by
  rcases prepared_eq_ok firstAccepted with ⟨-, -, inbound, present, firstRebuilt⟩
  rcases prepared_eq_ok secondAccepted with ⟨-, -, again, presentAgain, secondRebuilt⟩
  have equal : again = inbound := Option.some.inj (presentAgain.symm.trans present)
  rw [equal] at secondRebuilt
  have sameRule : forwarder.ruleFor (request.withPath one) inbound =
      forwarder.ruleFor (request.withPath other) inbound := by
    simpa only [selectedRule?, present, presentAgain, equal, Option.bind_some] using same
  rcases rebuilt_eq_ok firstRebuilt with ⟨headers, url, firstAuthorized, -, firstBuilt⟩
  rcases rebuilt_eq_ok secondRebuilt with ⟨otherHeaders, otherUrl, secondAuthorized, -, secondBuilt⟩
  rw [sameRule, secondAuthorized] at firstAuthorized
  rw [firstBuilt, secondBuilt, sameRule]
  exact ⟨(Except.ok.inj firstAuthorized).symm, filtered_body _ request one other⟩

/-! Paths that begin with a slash. -/

theorem targetUrl_of_slash (backend : Backend) {path : String} {rest : List Char}
    (slash : path.toList = '/' :: rest) :
    targetUrl backend path =
      .ok (String.ofList (dropTrailingSlashes backend.baseUrl ++ Text.trimEnd path.toList)) := by
  have visible : ¬Text.isBlank '/' := by decide
  have trim : (Text.trim path).toList = '/' :: Text.trimEnd rest := by
    rw [Text.trim, String.toList_ofList, slash, Text.trimCharacters_cons visible]
  have trimmed : Text.trimmed? path = some (Text.trim path) := by
    rw [Text.trimmed?, Text.isBlankText, slash]
    simp [visible]
  have relative : isAbsolute (Text.trim path) = false := by
    rw [isAbsolute, Text.startsWith, Text.startsWith, trim]
    rfl
  have slashed : Text.startsWith "/" (Text.trim path) = true := by
    simp [Text.startsWith, trim]
  rw [targetUrl, trimmed]
  simp only [relative, slashed]
  rw [trim, slash, Text.trimEnd_cons visible]
  simp

/-- Two paths that begin with a slash and come to one URL have the same rules, if no rule asks for a prefix
that ends in white space. -/
theorem pathsAgree_of_slash {forwarder : Forwarder} {one other : String} {rest others : List Char}
    (oneSlash : one.toList = '/' :: rest) (otherSlash : other.toList = '/' :: others)
    (sameUrl : targetUrl forwarder.backend one = targetUrl forwarder.backend other)
    (trimmed : ∀ rule ∈ forwarder.rules, ∀ beginning, rule.pathPrefix = some beginning →
      Text.trimEnd beginning.toList = beginning.toList)
    {request : InboundRequest} {inbound : Http.Headers} (present : request.headers = some inbound) :
    forwarder.PathsAgree request one other := by
  rw [targetUrl_of_slash _ oneSlash, targetUrl_of_slash _ otherSlash] at sameUrl
  have sameText : Text.trimEnd one.toList = Text.trimEnd other.toList := by
    have sameCharacters := congrArg String.toList (Except.ok.inj sameUrl)
    rw [String.toList_ofList, String.toList_ofList] at sameCharacters
    exact List.append_cancel_left sameCharacters
  have trimsTo (path : String) (rule : FilterRule) (isRule : rule ∈ forwarder.rules) :
      rule.matchesPath path = rule.matchesPath (String.ofList (Text.trimEnd path.toList)) := by
    rcases Text.exists_trimEnd_append path.toList with ⟨blanks, whole, blank⟩
    rw [← FilterRule.matchesPath_append_blanks (trimmed rule isRule) _ blank, ← whole,
      String.ofList_toList]
  have same (rule : FilterRule) (isRule : rule ∈ forwarder.rules) :
      rule.matchesPath one = rule.matchesPath other := by
    rw [trimsTo one rule isRule, trimsTo other rule isRule, sameText]
  rw [PathsAgree, selectedRule?_eq present, selectedRule?_eq present]
  constructor
  · intro rule chosen
    rw [← same rule (List.mem_of_find?_eq_some chosen)]
    exact (FilterRule.appliesTo_iff.mp (FilterRule.appliesTo_of_first? chosen)).1
  · intro rule chosen
    rw [same rule (List.mem_of_find?_eq_some chosen)]
    exact (FilterRule.appliesTo_iff.mp (FilterRule.appliesTo_of_first? chosen)).1

/-- Two requests that differ in nothing but the path, and are both accepted, are filtered alike exactly if
their paths agree. Paths that begin with a slash and come to one URL agree, unless a rule asks for a prefix
that ends in white space. -/
theorem prepare_alike_iff (forwarder : Forwarder) (request : InboundRequest)
    (one other token label : String) (first second : OutboundRequest)
    (firstAccepted : (forwarder.prepare (request.withPath one) token label).value = .ok first)
    (secondAccepted : (forwarder.prepare (request.withPath other) token label).value = .ok second) :
    ((forwarder.selectedRule? (request.withPath one) =
          forwarder.selectedRule? (request.withPath other) ∧
        first.headers = second.headers ∧ first.body = second.body) ↔
      forwarder.PathsAgree request one other) ∧
    (∀ rest others, one.toList = '/' :: rest → other.toList = '/' :: others →
      targetUrl forwarder.backend one = targetUrl forwarder.backend other →
      (∀ rule ∈ forwarder.rules, ∀ beginning, rule.pathPrefix = some beginning →
        Text.trimEnd beginning.toList = beginning.toList) →
      forwarder.PathsAgree request one other) := by
  rw [prepare_value] at firstAccepted secondAccepted
  rcases prepared_eq_ok firstAccepted with ⟨-, -, inbound, headers, -⟩
  have present : request.headers = some inbound := headers
  have agree := selectedRule?_eq_iff present forwarder one other
  constructor
  · constructor
    · rintro ⟨sameRule, -⟩
      exact agree.mp sameRule
    · intro paths
      have sameRule := agree.mpr paths
      exact ⟨sameRule, prepared_of_sameRule firstAccepted secondAccepted sameRule⟩
  · intro rest others oneSlash otherSlash sameUrl trimmed
    exact pathsAgree_of_slash oneSlash otherSlash sameUrl trimmed present

def messagesCall : InboundRequest :=
  { method := some "POST"
    path := none
    headers := some (.ofList [("anthropic-beta", ⟨"context-management".toUTF8.toList⟩)])
    body := some "\x7b\"context_management\":1,\"model\":2\x7d".toUTF8 }

def strippedMessages : OutboundRequest :=
  { method := "POST"
    url := "https://flow.ciandt.com/flow-llm-proxy/v1/messages"
    headers := .ofList
      [("authorization", ⟨"Bearer token".toUTF8.toList⟩), ("host", ⟨"flow.ciandt.com".toUTF8.toList⟩)]
    body := some "\x7b\"model\":2\x7d".toUTF8 }

def unstrippedMessages : OutboundRequest :=
  { strippedMessages with
    headers := .ofList
      [("anthropic-beta", ⟨"context-management".toUTF8.toList⟩),
        ("authorization", ⟨"Bearer token".toUTF8.toList⟩),
        ("host", ⟨"flow.ciandt.com".toUTF8.toList⟩)]
    body := messagesCall.body }

theorem prepare_messages :
    (prepare {} (messagesCall.withPath "/v1/messages") "token" "label").value =
      .ok strippedMessages := by
  decide +kernel

theorem prepare_spacedMessages :
    (prepare {} (messagesCall.withPath " /v1/messages") "token" "label").value =
      .ok unstrippedMessages := by
  decide +kernel

/-- With a space in front of the path the rule is not chosen, and what it is there to take out is sent to
the same URL. -/
theorem space_escapes_rule :
    (targetUrl {} "/v1/messages" = .ok strippedMessages.url ∧
      targetUrl {} " /v1/messages" = .ok strippedMessages.url) ∧
    (prepare {} (messagesCall.withPath "/v1/messages") "token" "label").value =
      .ok strippedMessages ∧
    (prepare {} (messagesCall.withPath " /v1/messages") "token" "label").value =
      .ok unstrippedMessages ∧
    selectedRule? {} (messagesCall.withPath "/v1/messages") = some FilterRule.messagesApi ∧
    selectedRule? {} (messagesCall.withPath " /v1/messages") = none ∧
    strippedMessages.headers ≠ unstrippedMessages.headers ∧
    strippedMessages.body ≠ unstrippedMessages.body := by
  refine ⟨by decide +kernel, prepare_messages, prepare_spacedMessages, ?_⟩
  decide +kernel

theorem prepare_alike_iff_messages :
    ((selectedRule? {} (messagesCall.withPath "/v1/messages") =
          selectedRule? {} (messagesCall.withPath " /v1/messages") ∧
        strippedMessages.headers = unstrippedMessages.headers ∧
        strippedMessages.body = unstrippedMessages.body) ↔
      PathsAgree {} messagesCall "/v1/messages" " /v1/messages") ∧
    (∀ rest others, "/v1/messages".toList = '/' :: rest → " /v1/messages".toList = '/' :: others →
      targetUrl {} "/v1/messages" = targetUrl {} " /v1/messages" →
      (∀ rule ∈ [FilterRule.messagesApi], ∀ beginning, rule.pathPrefix = some beginning →
        Text.trimEnd beginning.toList = beginning.toList) →
      PathsAgree {} messagesCall "/v1/messages" " /v1/messages") :=
  prepare_alike_iff {} messagesCall "/v1/messages" " /v1/messages" "token" "label"
    strippedMessages unstrippedMessages prepare_messages prepare_spacedMessages

end Forwarder

end BearerProxy
