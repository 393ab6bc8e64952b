import BearerProxy.Gateway
import BearerProxy.Proofs.Http.Headers
import BearerProxy.Proofs.Text.Blank
import BearerProxy.Proofs.Text.Pieces

/-!
Who counts as an operator. The token that a request presents stands behind the mark of a bearer in its
authorization or, if there is no bearer, in the header for the purpose; it has to be the configured one.
-/

namespace BearerProxy

namespace Text

theorem trimmed?_eq_some_iff (text trimmed : String) :
    trimmed? text = some trimmed ↔ ¬isBlankText text ∧ trim text = trimmed := by
  rw [trimmed?]
  by_cases blank : isBlankText text
  · simp [blank]
  · simp [blank]

end Text

namespace Gateway

/-! What a request presents. -/

def joinedTexts (headers : Http.Headers) (name : String) : String :=
  String.intercalate ", "
    ((headers.values name).filterMap fun value => value.text?.bind Text.trimmed?)

def Bears (authorization token : String) : Prop :=
  ∃ rest, (authorization = "Bearer " ++ rest ∨ authorization = "bearer " ++ rest) ∧
    ¬Text.isBlankText rest ∧ Text.trim rest = token

inductive Presents (headers : Http.Headers) (token : String) : Prop
  | bearer (bears : Bears (joinedTexts headers "authorization") token)
  | header (noBearer : ∀ other, ¬Bears (joinedTexts headers "authorization") other)
      (same : joinedTexts headers "x-admin-token" = token)

/-- A token is configured, and the request presents it. -/
def Authorized (configured : Option String) (headers : Http.Headers) : Prop :=
  ∃ text, configured = some text ∧ ¬Text.isBlankText text ∧ Presents headers (Text.trim text)

theorem combined?_eq (headers : Http.Headers) (name : String) :
    headers.combined? name = none ∧ joinedTexts headers name = "" ∨
      headers.combined? name = some (joinedTexts headers name) := by
  rw [Http.Headers.combined?, joinedTexts, List.filterMap_filterMap]
  cases (headers.values name).filterMap fun value => value.text?.bind Text.trimmed? with
  | nil => exact .inl ⟨rfl, rfl⟩
  | cons text texts => exact .inr rfl

def bearerOf? (authorization : String) : Option String :=
  (Text.dropPrefix? "Bearer ".toList authorization.toList <|>
    Text.dropPrefix? "bearer ".toList authorization.toList).bind fun rest =>
      Text.trimmed? (String.ofList rest)

theorem bearerOf?_eq_some_iff (authorization token : String) :
    bearerOf? authorization = some token ↔ Bears authorization token := by
  have begins (mark rest : String) :
      authorization = mark ++ rest ↔ authorization.toList = mark.toList ++ rest.toList := by
    rw [← String.toList_inj, String.toList_append]
  constructor
  · intro found
    rcases Option.bind_eq_some_iff.mp found with ⟨rest, dropped, trimmed⟩
    refine ⟨String.ofList rest, ?_, (Text.trimmed?_eq_some_iff _ _).mp trimmed⟩
    rw [begins, begins, String.toList_ofList (l := rest), ← Text.dropPrefix?_eq_some_iff,
      ← Text.dropPrefix?_eq_some_iff]
    cases upper : Text.dropPrefix? "Bearer ".toList authorization.toList with
    | some found =>
        rw [upper] at dropped
        exact .inl dropped
    | none =>
        rw [upper] at dropped
        exact .inr dropped
  · rintro ⟨rest, marked, trimmed⟩
    refine Option.bind_eq_some_iff.mpr ⟨rest.toList, ?_, ?_⟩
    · rcases marked with upper | lower
      · rw [(Text.dropPrefix?_eq_some_iff _ _ _).mpr ((begins _ _).mp upper)]
        rfl
      · rw [(Text.dropPrefix?_eq_some_iff "bearer ".toList _ _).mpr ((begins _ _).mp lower),
          (begins _ _).mp lower]
        rfl
    · rw [String.ofList_toList]
      exact (Text.trimmed?_eq_some_iff _ _).mpr trimmed

theorem bearerOf?_empty : bearerOf? "" = none := rfl

theorem bearer?_eq (headers : Http.Headers) :
    bearer? headers = bearerOf? (joinedTexts headers "authorization") := by
  change (headers.combined? "authorization").bind bearerOf? = _
  rcases combined?_eq headers "authorization" with ⟨absent, empty⟩ | present
  · rw [absent, empty, bearerOf?_empty]
    rfl
  · rw [present]
    rfl

theorem presentedToken?_eq_some_iff (headers : Http.Headers) {token : String} (filled : token ≠ "") :
    presentedToken? headers = some token ↔ Presents headers token := by
  rw [presentedToken?, bearer?_eq]
  cases bears : bearerOf? (joinedTexts headers "authorization") with
  | some bearer =>
      have isBearer := (bearerOf?_eq_some_iff _ bearer).mp bears
      constructor
      · intro presented
        cases presented
        exact .bearer isBearer
      · intro presents
        cases presents with
        | bearer bearsToken =>
            rw [← (bearerOf?_eq_some_iff _ token).mpr bearsToken, bears]
            rfl
        | header noBearer same => exact absurd isBearer (noBearer bearer)
  | none =>
      have noBearer (other : String) : ¬Bears (joinedTexts headers "authorization") other := by
        rw [← bearerOf?_eq_some_iff, bears]
        exact nofun
      constructor
      · intro presented
        refine .header noBearer ?_
        rcases combined?_eq headers "x-admin-token" with ⟨absent, -⟩ | present
        · rw [absent] at presented
          cases presented
        · rw [present] at presented
          exact Option.some.inj presented
      · intro presents
        cases presents with
        | bearer bearsToken => exact absurd bearsToken (noBearer token)
        | header _ same =>
            rcases combined?_eq headers "x-admin-token" with ⟨-, empty⟩ | present
            · exact absurd (same.symm.trans empty) filled
            · rw [present, same]
              rfl

/-- The check lets exactly the authorized requests pass. -/
theorem checkOperator_eq_ok_iff (configured : Option String) (headers : Http.Headers) :
    checkOperator (configured.bind Text.trimmed?) headers = .ok () ↔
      Authorized configured headers := by
  cases configured with
  | none => exact ⟨nofun, fun ⟨_, configured, _⟩ => by cases configured⟩
  | some text =>
      by_cases blank : Text.isBlankText text
      · have none : Text.trimmed? text = none := if_pos blank
        rw [Option.bind_some, none]
        constructor
        · exact nofun
        · rintro ⟨other, same, visible, -⟩
          cases same
          exact absurd blank visible
      · have trimmed : Text.trimmed? text = some (Text.trim text) := if_neg blank
        have presented := presentedToken?_eq_some_iff headers (Text.trim_ne_empty blank)
        rw [Option.bind_some, trimmed, checkOperator]
        constructor
        · intro passes
          by_cases same : presentedToken? headers = some (Text.trim text)
          · exact ⟨text, rfl, blank, presented.mp same⟩
          · rw [if_neg same] at passes
            cases passes
        · rintro ⟨other, same, -, presents⟩
          cases same
          exact if_pos (presented.mpr presents)

/-! Ways to present a token. -/

def Padding (characters : List Char) : Prop :=
  ∀ character ∈ characters, character = ' ' ∨ character = '\t'

def valueOf (characters : List Char) : Http.HeaderValue :=
  ⟨(String.ofList characters).toUTF8.toList⟩

/-- A text that stands in a single header of a request, with padding around it. -/
inductive Carries (headers : Http.Headers) (text : String) : Prop
  | header (before after : List Char) (paddedBefore : Padding before) (paddedAfter : Padding after)
      (noBearer : ∀ other, ¬Bears (joinedTexts headers "authorization") other)
      (single : headers.values "x-admin-token" = [valueOf (before ++ text.toList ++ after)])
  | bearer (mark : String) (isMark : mark = "Bearer " ∨ mark = "bearer ")
      (before between after : List Char) (paddedBefore : Padding before)
      (paddedBetween : Padding between) (paddedAfter : Padding after)
      (single : headers.values "authorization" =
        [valueOf (before ++ (mark.toList ++ (between ++ text.toList)) ++ after)])

theorem Padding.blank {characters : List Char} (padding : Padding characters) :
    ∀ character ∈ characters, Text.isBlank character := by
  intro character member
  rcases padding character member with space | tab
  · rw [space]
    rfl
  · rw [tab]
    rfl

theorem Padding.plain {characters : List Char} (padding : Padding characters) :
    ∀ character ∈ characters, Http.HeaderValue.isTextCharacter character := by
  intro character member
  rcases padding character member with space | tab
  · rw [space]
    rfl
  · rw [tab]
    rfl

theorem joinedTexts_of_single {headers : Http.Headers} {name : String}
    {before characters after : List Char}
    (single : headers.values name = [valueOf (before ++ characters ++ after)])
    (paddedBefore : Padding before) (paddedAfter : Padding after)
    (plain : ∀ character ∈ characters, Http.HeaderValue.isTextCharacter character)
    (visible : ∃ character ∈ characters, ¬Text.isBlank character) :
    joinedTexts headers name = String.ofList (Text.trimCharacters characters) := by
  have read : (valueOf (before ++ characters ++ after)).text? =
      some (String.ofList (before ++ characters ++ after)) := by
    apply Http.HeaderValue.text?_toUTF8
    rw [String.toList_ofList]
    intro character member
    rcases List.mem_append.mp member with member | behind
    · rcases List.mem_append.mp member with front | inside
      · exact paddedBefore.plain character front
      · exact plain character inside
    · exact paddedAfter.plain character behind
  have trimmed : Text.trimmed? (String.ofList (before ++ characters ++ after)) =
      some (String.ofList (Text.trimCharacters characters)) := by
    rw [Text.trimmed?_eq_some_iff, Text.not_isBlankText_iff, Text.trim, String.toList_ofList,
      Text.trimCharacters_surrounded paddedBefore.blank paddedAfter.blank]
    rcases visible with ⟨character, member, isVisible⟩
    exact ⟨⟨character, List.mem_append_left _ (List.mem_append_right _ member), isVisible⟩, rfl⟩
  rw [joinedTexts, single, List.filterMap_cons_some (by rw [read]; exact trimmed)]
  rfl

theorem presents_of_carries {headers : Http.Headers} {text : String}
    (carries : Carries headers text)
    (plain : ∀ character ∈ text.toList, Http.HeaderValue.isTextCharacter character)
    (notBlank : ¬Text.isBlankText text) : Presents headers (Text.trim text) := by
  have visible := (Text.not_isBlankText_iff text).mp notBlank
  cases carries with
  | header before after paddedBefore paddedAfter noBearer single =>
      exact .header noBearer (joinedTexts_of_single single paddedBefore paddedAfter plain visible)
  | bearer mark isMark before between after paddedBefore paddedBetween paddedAfter single =>
      -- The mark starts with a letter, so that only the end of the authorization is trimmed.
      have marked : ∃ letter rest, mark.toList = letter :: rest ∧ ¬Text.isBlank letter ∧
          ∀ character ∈ mark.toList, Http.HeaderValue.isTextCharacter character := by
        rcases isMark with upper | lower
        · have plain : "Bearer ".toList.all Http.HeaderValue.isTextCharacter := by decide
          rw [upper]
          exact ⟨'B', _, rfl, by decide, List.all_eq_true.mp plain⟩
        · have plain : "bearer ".toList.all Http.HeaderValue.isTextCharacter := by decide
          rw [lower]
          exact ⟨'b', _, rfl, by decide, List.all_eq_true.mp plain⟩
      rcases marked with ⟨letter, rest, isLetter, letterVisible, markPlain⟩
      have behind : ∃ character ∈ between ++ text.toList, ¬Text.isBlank character := by
        rcases visible with ⟨character, member, isVisible⟩
        exact ⟨character, List.mem_append_right _ member, isVisible⟩
      have joined : joinedTexts headers "authorization" =
          mark ++ String.ofList (between ++ Text.trimEnd text.toList) := by
        rw [joinedTexts_of_single single paddedBefore paddedAfter]
        · rw [← String.toList_inj, String.toList_append, String.toList_ofList, String.toList_ofList,
            isLetter, List.cons_append, Text.trimCharacters_cons letterVisible,
            Text.trimEnd_append behind, Text.trimEnd_append visible, List.cons_append]
        · intro character member
          rcases List.mem_append.mp member with front | member
          · exact markPlain character front
          · rcases List.mem_append.mp member with padded | inside
            · exact paddedBetween.plain character padded
            · exact plain character inside
        · rw [isLetter]
          exact ⟨letter, List.mem_cons_self, letterVisible⟩
      have rest := Text.exists_visible_trimEnd visible
      refine .bearer ⟨String.ofList (between ++ Text.trimEnd text.toList), ?_, ?_, ?_⟩
      · rw [joined]
        exact isMark.imp (congrArg (· ++ _)) (congrArg (· ++ _))
      · rw [Text.not_isBlankText_iff, String.toList_ofList]
        rcases rest with ⟨character, member, isVisible⟩
        exact ⟨character, List.mem_append_right _ member, isVisible⟩
      · have surrounded := @Text.trimCharacters_surrounded between [] paddedBetween.blank nofun
          (Text.trimEnd text.toList)
        rw [List.append_nil] at surrounded
        rw [Text.trim, String.toList_ofList, surrounded, Text.trimCharacters_trimEnd]
        rfl

end Gateway

end BearerProxy
