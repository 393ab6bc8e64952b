import BearerProxy.Http.Header
import BearerProxy.Journal
import BearerProxy.Json.Parser
import BearerProxy.Json.Value

/-!
Filter rules: which requests a rule is for, and what it takes out of their query and their body. Of the
rules that match a request only the first one counts.
-/

namespace BearerProxy

/-- A rule is for the requests that meet each of its conditions; a condition left empty is met. -/
structure FilterRule where
  name : String
  pathPrefix : Option String := none
  methods : List String := []
  anyHeader : List String := []
  queryParameters : List String := []
  bodyFields : List String := []
  headers : List String := []
  deriving DecidableEq, Repr

namespace FilterRule

def messagesApi : FilterRule :=
  { name := "Anthropic Messages API"
    pathPrefix := some "/v1/messages"
    anyHeader := ["anthropic-version", "anthropic-beta", "x-api-key"]
    bodyFields := ["context_management"]
    headers := ["anthropic-beta"] }

def basePath (path : String) : List Char :=
  (Text.splitFirst (· == '?') path.toList).1

def matchesPath (rule : FilterRule) (path : String) : Bool :=
  match rule.pathPrefix with
  | none => true
  | some beginning => beginning.toList.isPrefixOf (basePath path)

def matchesMethod (rule : FilterRule) (method : String) : Bool :=
  rule.methods.isEmpty || rule.methods.any fun candidate => Text.equalIgnoringCase candidate method

def matchesHeaders (rule : FilterRule) (headers : Http.Headers) : Bool :=
  rule.anyHeader.isEmpty || rule.anyHeader.any headers.contains

def appliesTo (rule : FilterRule) (method path : String) (headers : Http.Headers) : Bool :=
  rule.matchesPath path && rule.matchesMethod method && rule.matchesHeaders headers

def first? (rules : List FilterRule) (method path : String) (headers : Http.Headers) :
    Option FilterRule :=
  rules.find? fun rule => rule.appliesTo method path headers

def select (rules : List FilterRule) (method path : String) (headers : Http.Headers) :
    Reported (Option FilterRule) :=
  match first? rules method path headers with
  | none => return none
  | some rule => do
      debugEvent .filter "matched filter rule" [("rule", .text rule.name)]
      return some rule

/-- Header fields that are never copied from the inbound request. -/
def alwaysSkipped : List String :=
  ["host", "connection", "content-length", "authorization", "transfer-encoding"]

def headersToSkip (rule : Option FilterRule) : List String :=
  alwaysSkipped ++
    match rule with
    | none => []
    | some rule => rule.headers.map Text.lowerAscii

def inspect (rule : FilterRule) : String :=
  let texts (values : List String) : String := Text.inspectList (values.map Text.quote)
  Text.inspectFields "FilterRule"
    [("name", Text.quote rule.name),
     ("path_prefix", Text.inspectOption (rule.pathPrefix.map Text.quote)),
     ("methods", texts rule.methods), ("any_header", texts rule.anyHeader),
     ("query_params", texts rule.queryParameters), ("body_fields", texts rule.bodyFields),
     ("headers", texts rule.headers)]

end FilterRule

/-! Filtering the query. -/

def pieceKey (piece : List Char) : String :=
  String.ofList (Text.splitFirst (· == '=') piece).1

def isListed (names : List String) (piece : List Char) : Bool :=
  names.any fun name => Text.equalIgnoringCase name (pieceKey piece)

/-- The path without the query parameters of the given names; letters match in either case. -/
def withoutParameters (names : List String) (path : String) : String :=
  match Text.splitFirst (· == '?') path.toList with
  | (_, none) => path
  | (base, some query) =>
      if names.isEmpty then path
      else
        match (Text.pieces '&' query).filter fun piece => !isListed names piece with
        | [] => String.ofList base
        | kept => String.ofList (base ++ '?' :: Text.joinPieces '&' kept)

def filterQuery (names : List String) (path : String) : Reported String := do
  let filtered := withoutParameters names path
  if filtered ≠ path then
    debugEvent .filter "filtered query params" [("from", .text path), ("to", .text filtered)]
  return filtered

/-! Filtering the body. -/

def withoutMembers : List String → List (String × Json) → List String × List (String × Json)
  | [], members => ([], members)
  | field :: fields, members =>
      let (removed, kept) := withoutMembers fields (Keyed.erase field members)
      if (Keyed.lookup? field members).isSome then (field :: removed, kept) else (removed, kept)

def reportRemoved : List String → Reported Unit
  | [] => pure ()
  | field :: fields => do
      debugEvent .filter "filtered body field" [("field", .text field)]
      reportRemoved fields

/-- The body without the given top-level members. A body that is not a JSON object or has none of them
stays as it is, byte for byte. -/
def filterBody (fields : List String) (body : ByteArray) : Reported ByteArray :=
  if body.isEmpty || fields.isEmpty then return body
  else
    match Json.parse? body with
    | none => do
        debugEvent .filter "body is not JSON; forwarding unchanged"
        return body
    | some (.object members) => do
        let (removed, kept) := withoutMembers fields members
        reportRemoved removed
        if removed.isEmpty then return body
        let filtered := (Json.object kept).renderBytes
        debugEvent .filter "filtered request body"
          [("before", .count body.size), ("after", .count filtered.size)]
        return filtered
    | some _ => return body

end BearerProxy
