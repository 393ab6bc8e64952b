import BearerProxy.Proofs.Forward.Confinement
import BearerProxy.Proofs.Forward.QueryFilter
import BearerProxy.Proofs.Forward.Spelling

/-!
Requests that are accepted can be rewritten. The path is checked before a credential is selected for the
request, and once more after the rule has filtered its query. Filtering leaves no target foreign that was
accepted; all that can go wrong is that nothing is left of the path.
-/

namespace BearerProxy.Forwarder

open Url

variable {backend : Backend} {path scheme : String} {base query front : List Char}

/-! Targets that name a server, with their query and without it. -/

def stem (base : List Char) : String := String.ofList (Text.trimStart base)

theorem toList_stem (base : List Char) : (stem base).toList = Text.trimStart base :=
  String.toList_ofList

theorem toList_trim_query (text : path.toList = base ++ '?' :: query) :
    (Text.trim path).toList = Text.trimStart base ++ '?' :: Text.trimEnd query := by
  rw [Text.trim, String.toList_ofList, text, Text.trimCharacters_append_mark (by decide)]

theorem toList_trim_base (text : path.toList = base) :
    (Text.trim path).toList = Text.trimEnd (Text.trimStart base) := by
  rw [Text.trim, String.toList_ofList, text, Text.trimCharacters]

theorem isAbsolute_trim_query (text : path.toList = base ++ '?' :: query) :
    isAbsolute (Text.trim path) ↔ isAbsolute (stem base) := by
  rw [isAbsolute_iff, isAbsolute_iff, toList_trim_query text, toList_stem,
    Text.prefix_append_mark_iff (by decide), Text.prefix_append_mark_iff (by decide)]

theorem isAbsolute_trim_base (text : path.toList = base) :
    isAbsolute (Text.trim path) ↔ isAbsolute (stem base) := by
  rcases Text.exists_trimEnd_append (Text.trimStart base) with ⟨blanks, whole, blank⟩
  have same (beginning : List Char) (trimmed : Text.trimEnd beginning = beginning) :
      beginning <+: Text.trimEnd (Text.trimStart base) ↔ beginning <+: Text.trimStart base := by
    rw [← List.isPrefixOf_iff_prefix, ← List.isPrefixOf_iff_prefix,
      ← Text.isPrefixOf_append_blanks trimmed blank, ← whole]
  rw [isAbsolute_iff, isAbsolute_iff, toList_trim_base text, toList_stem,
    same _ (by decide), same _ (by decide)]

theorem webText_query (text : path.toList = base ++ '?' :: query)
    (webText : WebText (stem base) scheme front) :
    WebText (Text.trim path) scheme (front ++ '?' :: Text.trimEnd query) where
  web := webText.web
  begins := by
    have begins := webText.begins
    rw [toList_stem] at begins
    rw [toList_trim_query text, begins]
    simp

theorem webText_base (text : path.toList = base) (webText : WebText (stem base) scheme front) :
    WebText (Text.trim path) scheme (Text.trimEnd front) where
  web := webText.web
  begins := by
    have begins := webText.begins
    rw [toList_stem] at begins
    have allVisible : (scheme.toList ++ [':', '/', '/']).all fun character => !Text.isBlank character := by
      rcases webText.web with http | https
      · rw [http]
        decide
      · rw [https]
        decide
    have visible : ∀ character ∈ scheme.toList ++ [':', '/', '/'], ¬Text.isBlank character := by
      intro character member
      simpa using List.all_eq_true.mp allVisible character member
    have trimmed := Text.trimEnd_append_visible visible front
    rw [List.append_assoc, List.append_assoc] at trimmed
    rw [toList_trim_base text, begins]
    exact trimmed

theorem checkTarget_of_samePlace {target other : String} {url otherUrl : Url}
    (accepted : checkTarget backend target = .ok ()) (absolute : isAbsolute target)
    (parsed : Url.parse target = .ok url) (otherParsed : Url.parse other = .ok otherUrl)
    (same : SamePlace otherUrl url) : checkTarget backend other = .ok () := by
  have sameOrigin := origin?_of_samePlace same (web_of_isAbsolute absolute parsed)
  rw [checkTarget, if_pos absolute, parsed] at accepted
  rw [checkTarget, otherParsed]
  split
  · simp only [sameOrigin]
    exact accepted
  · rfl

theorem exists_parse_of_checkTarget {target : String} (accepted : checkTarget backend target = .ok ())
    (absolute : isAbsolute target) : ∃ url, Url.parse target = .ok url := by
  rw [checkTarget, if_pos absolute] at accepted
  cases parsed : Url.parse target with
  | error fault =>
      rw [parsed] at accepted
      cases accepted
  | ok url => exact ⟨url, rfl⟩

theorem checkTarget_of_relative {target : String} (relative : ¬isAbsolute target) :
    checkTarget backend target = .ok () := by
  rw [checkTarget, if_neg relative]

theorem checkTarget_withoutParameters (names : List String)
    (accepted : checkTarget backend (Text.trim path) = .ok ()) :
    checkTarget backend (Text.trim (withoutParameters names path)) = .ok () := by
  rcases PathLayout.exists_layout path with ⟨base, items, layout⟩
  have filtered := (layout.filtered names).text
  cases items with
  | nil =>
      have unchanged := (layout.filtered names).eq_of_layout layout
      rw [unchanged]
      exact accepted
  | cons item items =>
      have text : path.toList = base ++ '?' :: Text.joinPieces '&' (item :: items) := layout.text
      by_cases absolute : isAbsolute (stem base)
      · have wasAbsolute := (isAbsolute_trim_query text).mpr absolute
        rcases exists_parse_of_checkTarget accepted wasAbsolute with ⟨url, parsed⟩
        rcases exists_webText absolute with ⟨scheme, front, webText⟩
        have before := webText_query text webText
        cases kept : unlistedPieces names (item :: items) with
        | nil =>
            -- Without the query, the white space in front of it is at the end and is trimmed off as well.
            rw [kept, queryText, List.append_nil] at filtered
            rcases before.samePlace_of_trimEnd (webText_base filtered webText) parsed with
              ⟨otherUrl, otherParsed, same⟩
            exact checkTarget_of_samePlace accepted wasAbsolute parsed otherParsed same
        | cons first others =>
            rw [kept, queryText] at filtered
            rcases before.samePlace_of_query (webText_query filtered webText) parsed with
              ⟨otherUrl, otherParsed, same⟩
            exact checkTarget_of_samePlace accepted wasAbsolute parsed otherParsed same
      · apply checkTarget_of_relative
        cases kept : unlistedPieces names (item :: items) with
        | nil =>
            rw [kept, queryText, List.append_nil] at filtered
            exact mt (isAbsolute_trim_base filtered).mp absolute
        | cons first others =>
            rw [kept, queryText] at filtered
            exact mt (isAbsolute_trim_query filtered).mp absolute

/-! What is left of a path. -/

/-- A rule leaves nothing of a path: before the first question mark there is only white space, and the rule
lists every parameter behind it. -/
def Erases (rule : Option FilterRule) (path : String) : Prop :=
  ∃ base items, PathLayout path base items ∧ (∀ character ∈ base, Text.isBlank character) ∧
    items ≠ [] ∧ ∃ chosen, rule = some chosen ∧ ∀ item ∈ items, IsListed chosen.queryParameters item

theorem isBlankText_of_layout {items : List (List Char)} (layout : PathLayout path base items) :
    Text.isBlankText path ↔ (∀ character ∈ base, Text.isBlank character) ∧ items = [] := by
  rw [Text.isBlankText, layout.text, List.all_eq_true]
  constructor
  · intro blank
    refine ⟨fun character member => blank character (List.mem_append_left _ member), ?_⟩
    cases items with
    | nil => rfl
    | cons item items =>
        have marked : '?' ∈ base ++ queryText (item :: items) :=
          List.mem_append_right _ List.mem_cons_self
        exact absurd (blank '?' marked) (by decide)
  · rintro ⟨blank, nothing⟩
    rw [nothing, queryText, List.append_nil]
    exact blank

theorem unlistedPieces_eq_nil_iff (names : List String) (items : List (List Char)) :
    unlistedPieces names items = [] ↔ ∀ item ∈ items, IsListed names item := by
  rw [unlistedPieces, List.filter_eq_nil_iff]
  simp

theorem filtered_path (rule : FilterRule) (request : InboundRequest) :
    (filtered (some rule) request).1 =
      withoutParameters rule.queryParameters (request.path.getD "") :=
  filterQuery_value rule.queryParameters (request.path.getD "")

theorem isBlankText_filtered_iff {rule : Option FilterRule} {request : InboundRequest}
    (visible : ¬Text.isBlankText (request.path.getD "")) :
    Text.isBlankText (filtered rule request).1 ↔ Erases rule (request.path.getD "") := by
  rcases PathLayout.exists_layout (request.path.getD "") with ⟨base, items, layout⟩
  have notBlank := mt (isBlankText_of_layout layout).mpr visible
  have sameLayout {otherBase : List Char} {others : List (List Char)}
      (other : PathLayout (request.path.getD "") otherBase others) :
      otherBase = base ∧ others = items := other.unique layout
  cases rule with
  | none =>
      refine iff_of_false visible ?_
      rintro ⟨_, _, _, _, _, chosen, none, _⟩
      cases none
  | some rule =>
      rw [filtered_path, isBlankText_of_layout (layout.filtered rule.queryParameters),
        unlistedPieces_eq_nil_iff]
      constructor
      · rintro ⟨blank, listed⟩
        have someItems : items ≠ [] := fun nothing => notBlank ⟨blank, nothing⟩
        exact ⟨base, items, layout, blank, someItems, rule, rfl, listed⟩
      · rintro ⟨otherBase, others, other, blank, _, chosen, isChosen, listed⟩
        cases isChosen
        rcases sameLayout other with ⟨sameBase, sameItems⟩
        rw [sameBase] at blank
        rw [sameItems] at listed
        exact ⟨blank, listed⟩

theorem targetUrl_of_blank (blank : Text.isBlankText path) :
    targetUrl backend path = .error (.request .emptyPath) := by
  rw [targetUrl, Text.trimmed?, if_pos blank]

theorem exists_targetUrl (visible : ¬Text.isBlankText path)
    (accepted : checkTarget backend (Text.trim path) = .ok ()) :
    ∃ url, targetUrl backend path = .ok url := by
  rw [targetUrl, Text.trimmed?, if_neg visible]
  simp only [accepted]
  split
  · exact ⟨_, rfl⟩
  · exact ⟨_, rfl⟩

/-! Requests. -/

structure Bearable (token : String) : Prop where
  visible : ¬Text.isBlankText token
  legal : (Http.HeaderValue.ofText? token).isSome

theorem exists_authorize {token : String} (bearable : Bearable token)
    (named : (Http.HeaderValue.ofText? backend.host).isSome) (headers : Http.Headers) :
    ∃ authorized, authorize backend (some headers) token = .ok authorized := by
  have legal : (Http.HeaderValue.ofText? ("Bearer " ++ Text.trim token)).isSome := by
    rw [Http.HeaderValue.isSome_ofText?_iff]
    intro character member
    rw [String.toList_append, List.mem_append] at member
    rcases member with word | inToken
    · have legalWord : "Bearer ".toList.all Http.HeaderValue.isValueCharacter := by decide
      exact List.all_eq_true.mp legalWord character word
    · exact (Http.HeaderValue.isSome_ofText?_iff token).mp bearable.legal character
        (Text.mem_of_mem_trim inToken)
  rcases Option.isSome_iff_exists.mp legal with ⟨bearer, written⟩
  rcases Option.isSome_iff_exists.mp named with ⟨host, hostWritten⟩
  rw [authorize, Text.trimmed?, if_neg bearable.visible]
  simp only [written, hostWritten]
  exact ⟨_, rfl⟩

variable {forwarder : Forwarder} {request : InboundRequest} {inbound : Http.Headers} {token : String}

theorem path_of_validate (accepted : forwarder.validate request = .ok ()) :
    ¬Text.isBlankText (request.path.getD "") ∧
      checkTarget forwarder.backend (Text.trim (request.path.getD "")) = .ok () := by
  rw [validate] at accepted
  split at accepted
  · cases accepted
  · cases accepted
  · rename_i path _ present
    rcases Option.filter_eq_some_iff.mp present with ⟨hasPath, visible⟩
    rw [hasPath]
    exact ⟨by simpa using visible, accepted⟩

theorem checkTarget_filtered (rule : Option FilterRule)
    (accepted : checkTarget backend (Text.trim (request.path.getD "")) = .ok ()) :
    checkTarget backend (Text.trim (filtered rule request).1) = .ok () := by
  cases rule with
  | none => exact accepted
  | some rule =>
      rw [filtered_path]
      exact checkTarget_withoutParameters rule.queryParameters accepted

/-- An accepted request is rewritten, unless the rule erases its path. -/
theorem prepare_of_validate (accepted : forwarder.validate request = .ok ())
    (method : Http.isToken (Text.trim (request.method.getD "")))
    (present : request.headers = some inbound) (bearable : Bearable token)
    (named : (Http.HeaderValue.ofText? forwarder.backend.host).isSome) (label : String) :
    (¬Erases (forwarder.selectedRule? request) (request.path.getD "") →
      ∃ outbound, (forwarder.prepare request token label).value = .ok outbound) ∧
    (Erases (forwarder.selectedRule? request) (request.path.getD "") →
      (forwarder.prepare request token label).value = .error (.request .emptyPath)) := by
  rcases path_of_validate accepted with ⟨visible, target⟩
  have selected : forwarder.selectedRule? request = forwarder.ruleFor request inbound := by
    rw [selectedRule?, present, Option.bind_some]
  have sent : Http.isToken (sentMethod request) = true := Http.isToken_upperAscii method
  rcases exists_authorize bearable named
    (inbound.without (FilterRule.headersToSkip (forwarder.ruleFor request inbound))) with
    ⟨headers, authorized⟩
  rw [prepare_value, prepared, accepted, selected, ← isBlankText_filtered_iff visible]
  simp only [sent, present, rebuilt, authorized]
  constructor
  · intro left
    rcases exists_targetUrl left (checkTarget_filtered _ target) with ⟨url, resolved⟩
    rw [resolved]
    exact ⟨_, rfl⟩
  · intro blank
    rw [targetUrl_of_blank blank]
    rfl

end BearerProxy.Forwarder
