import BearerProxy.Proofs.Url.Extension

/-!
Texts that begin like the URL of a web server. The authority alone decides whether such a text is a URL and
which place it names: what follows a question mark does not matter, nor does the question mark itself. Without
it the white space in front of it goes as well, but with white space there the authority names nothing.
-/

namespace BearerProxy.Url

theorem readHierarchy_of_authority {scheme : String} {rest : List Char} {isFollowed : Bool}
    {authority : Authority}
    (read : readAuthority scheme true isFollowed (authorityText rest) = .ok authority) :
    ∃ url, readHierarchy scheme true rest = .ok url := by
  have readAgain := readAuthority_of_other read
    (!(rest.dropWhile fun character => !endsAuthority true character).isEmpty)
  rw [authorityText] at readAgain
  rw [readHierarchy, readAgain]
  exact ⟨_, rfl⟩

theorem origin?_of_samePlace {left right : Url} (same : SamePlace left right)
    (web : IsWeb right.scheme) : left.origin? = right.origin? := by
  have leftWeb : IsWeb left.scheme := by
    rw [same.scheme]
    exact web
  rw [origin?_of_web leftWeb, origin?_of_web web, hostedOrigin?, hostedOrigin?, same.scheme, same.host,
    same.port]

/-- A text that begins with the scheme of a web server and two slashes, and what is behind them. -/
structure WebText (text scheme : String) (behind : List Char) : Prop where
  web : IsWeb scheme
  begins : text.toList = scheme.toList ++ ':' :: '/' :: '/' :: behind

def authorityBehind (behind : List Char) : List Char :=
  authorityText ((cleanEnd behind).dropWhile isSlash)

namespace WebText

variable {text other scheme : String} {behind others : List Char}

theorem splitScheme?_eq (web : IsWeb scheme) (added : List Char) :
    splitScheme? (cleanFront (scheme.toList ++ [':', '/']) ++ added) = some (scheme, '/' :: added) := by
  have split : splitScheme? (cleanFront (scheme.toList ++ [':', '/']) ++ []) = some (scheme, ['/']) := by
    rcases web with http | https
    · rw [http]
      decide
    · rw [https]
      decide
  have nothing : ∀ character ∈ ([] : List Char), character = '/' := fun _ member => nomatch member
  rcases splitScheme?_append nothing split with ⟨hierarchy, slash, splits⟩
  rw [List.append_nil] at slash
  rw [splits, ← slash]
  rfl

theorem parse_eq (webText : WebText text scheme behind) :
    parse text = readHierarchy scheme true ((cleanEnd behind).dropWhile isSlash) := by
  have cleaned : clean text.toList =
      cleanFront (scheme.toList ++ [':', '/']) ++ '/' :: cleanEnd behind := by
    rw [← clean_append_mark (by decide), webText.begins]
    simp
  have split : splitScheme? (clean text.toList) = some (scheme, '/' :: '/' :: cleanEnd behind) := by
    rw [cleaned, splitScheme?_eq webText.web]
  rw [parse_of_special split webText.web.special]
  rfl

theorem scheme_eq (webText : WebText text scheme behind) {url : Url} (parsed : parse text = .ok url) :
    url.scheme = scheme := by
  rw [webText.parse_eq] at parsed
  exact scheme_of_readHierarchy parsed

theorem readAuthority_of_parse (webText : WebText text scheme behind) {url : Url}
    (parsed : parse text = .ok url) :
    ∃ isFollowed authority,
      readAuthority scheme true isFollowed (authorityBehind behind) = .ok authority := by
  rw [webText.parse_eq] at parsed
  rcases readHierarchy_eq_ok parsed with ⟨isFollowed, authority, read, -⟩
  exact ⟨isFollowed, authority, read⟩

theorem samePlace_of_authorityBehind (webText : WebText text scheme behind)
    (otherText : WebText other scheme others)
    (same : authorityBehind behind = authorityBehind others) {url : Url}
    (parsed : parse text = .ok url) :
    ∃ otherUrl, parse other = .ok otherUrl ∧ SamePlace otherUrl url := by
  rcases webText.readAuthority_of_parse parsed with ⟨_, authority, read⟩
  rw [same, authorityBehind] at read
  rcases readHierarchy_of_authority read with ⟨otherUrl, otherParsed⟩
  rw [webText.parse_eq] at parsed
  refine ⟨otherUrl, otherText.parse_eq.trans otherParsed, ?_⟩
  exact samePlace_of_authorityText otherParsed parsed same.symm

end WebText

/-! The authority of a text with a query. -/

theorem authorityBehind_append_mark (front query : List Char) :
    authorityBehind (front ++ '?' :: query) =
      authorityText ((front.filter fun character => !isLayout character).dropWhile isSlash) := by
  rw [authorityBehind, cleanEnd_append_mark (by decide), Text.dropWhile_append_mark (by decide),
    authorityText_append_mark (by decide)]

theorem dropWhile_isSlash_append_fillers (stem : List Char) {fillers : List Char}
    (areFillers : ∀ character ∈ fillers, IsFiller character) :
    (stem ++ fillers).dropWhile isSlash = stem.dropWhile isSlash ++ fillers := by
  cases fillers with
  | nil => simp
  | cons filler others =>
      have isFiller := areFillers filler List.mem_cons_self
      have slash : filler ≠ '/' := ne_of_filler isFiller (by decide)
      have backslash : filler ≠ '\\' := ne_of_filler isFiller (by decide)
      exact Text.dropWhile_append_mark (by simp [isSlash, slash, backslash]) stem others

theorem exists_cleanEnd_trimEnd_append (front : List Char) :
    ∃ fillers, (front.filter fun character => !isLayout character) =
        cleanEnd (Text.trimEnd front) ++ fillers ∧
      ∀ character ∈ fillers, IsFiller character := by
  rcases Text.exists_trimEnd_append front with ⟨blanks, whole, areBlank⟩
  rcases exists_cleanEnd_append (Text.trimEnd front) with ⟨controls, cleaned, areControls⟩
  refine ⟨controls ++ blanks.filter (fun character => !isLayout character), ?_, ?_⟩
  · rw [← List.append_assoc, ← cleaned, ← List.filter_append, ← whole]
  · intro character member
    rcases List.mem_append.mp member with control | blank
    · exact .inl (areControls character control)
    · exact .inr (areBlank character (List.mem_filter.mp blank).1)

/-- Without the query, and the white space before it, the authority is the same, unless that of the text
with the query ends in a control or in white space. -/
theorem authorityBehind_trimEnd (front query : List Char) :
    authorityBehind (front ++ '?' :: query) = authorityBehind (Text.trimEnd front) ∨
      ∃ stem filler, IsFiller filler ∧
        authorityBehind (front ++ '?' :: query) = stem ++ [filler] := by
  rcases exists_cleanEnd_trimEnd_append front with ⟨fillers, cleaned, areFillers⟩
  rw [authorityBehind_append_mark, authorityBehind, cleaned, dropWhile_isSlash_append_fillers _ areFillers]
  exact authorityText_append_fillers _ fillers areFillers

namespace WebText

variable {text other scheme : String} {front query : List Char}

theorem samePlace_of_query (webText : WebText text scheme (front ++ '?' :: query)) {others : List Char}
    (otherText : WebText other scheme (front ++ '?' :: others)) {url : Url}
    (parsed : parse text = .ok url) :
    ∃ otherUrl, parse other = .ok otherUrl ∧ SamePlace otherUrl url := by
  apply webText.samePlace_of_authorityBehind otherText _ parsed
  rw [authorityBehind_append_mark, authorityBehind_append_mark]

theorem samePlace_of_trimEnd (webText : WebText text scheme (front ++ '?' :: query))
    (otherText : WebText other scheme (Text.trimEnd front)) {url : Url}
    (parsed : parse text = .ok url) :
    ∃ otherUrl, parse other = .ok otherUrl ∧ SamePlace otherUrl url := by
  rcases authorityBehind_trimEnd front query with same | ⟨stem, filler, isFiller, ends⟩
  · exact webText.samePlace_of_authorityBehind otherText same parsed
  · rcases webText.readAuthority_of_parse parsed with ⟨_, authority, read⟩
    rw [ends] at read
    exact absurd read (readAuthority_of_filler isFiller stem authority)

end WebText

end BearerProxy.Url
