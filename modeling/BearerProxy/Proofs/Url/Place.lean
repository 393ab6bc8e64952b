import BearerProxy.Proofs.Url.Authority
import BearerProxy.Url.Basic

/-!
The place that a URL names: its scheme, host and port. For the URLs of web servers the authority in the text
decides it, and it is the same for two URLs exactly if their origins are.
-/

namespace BearerProxy.Url

/-- Two URLs that name the same place. -/
structure SamePlace (left right : Url) : Prop where
  scheme : left.scheme = right.scheme
  host : left.host = right.host
  port : left.port = right.port

def authorityText (characters : List Char) : List Char :=
  characters.takeWhile fun character => !endsAuthority true character

theorem readHierarchy_eq_ok {scheme : String} {rest : List Char} {url : Url}
    (read : readHierarchy scheme true rest = .ok url) :
    ∃ isFollowed authority,
      readAuthority scheme true isFollowed (authorityText rest) = .ok authority ∧
        url.scheme = scheme ∧ url.host = authority.host ∧ url.port = authority.port := by
  rw [readHierarchy] at read
  rcases exists_of_bind_eq_ok read with ⟨authority, authorityRead, read⟩
  cases read
  exact ⟨_, authority, authorityRead, rfl, rfl, rfl⟩

theorem samePlace_of_authorityText {scheme : String} {leftRest rightRest : List Char}
    {left right : Url} (leftRead : readHierarchy scheme true leftRest = .ok left)
    (rightRead : readHierarchy scheme true rightRest = .ok right)
    (equal : authorityText leftRest = authorityText rightRest) : SamePlace left right := by
  rcases readHierarchy_eq_ok leftRead with ⟨_, leftAuthority, leftRead, leftScheme, leftHost, leftPort⟩
  rcases readHierarchy_eq_ok rightRead with
    ⟨_, rightAuthority, rightRead, rightScheme, rightHost, rightPort⟩
  rcases readAuthority_eq_ok leftRead with ⟨_, host, hostRead, portRead, hasHost⟩
  rcases readAuthority_eq_ok rightRead with ⟨_, other, otherRead, otherPort, hasOther⟩
  rw [← equal] at otherRead otherPort
  exact {
    scheme := leftScheme.trans rightScheme.symm
    host := by
      rw [leftHost, rightHost, hasHost, hasOther, Except.ok.inj (hostRead.symm.trans otherRead)]
    port := by
      rw [leftPort, rightPort, Except.ok.inj (portRead.symm.trans otherPort)] }

/-! Parsing, for the schemes of web servers. -/

def IsWeb (scheme : String) : Prop := scheme = "http" ∨ scheme = "https"

theorem IsWeb.special {scheme : String} (web : IsWeb scheme) : schemeKind scheme = .special := by
  rcases web with http | https
  · rw [http]
    decide
  · rw [https]
    decide

theorem parse_of_special {text scheme : String} {rest : List Char}
    (split : splitScheme? (clean text.toList) = some (scheme, rest))
    (special : schemeKind scheme = .special) :
    parse text = readHierarchy scheme true (rest.dropWhile isSlash) := by
  rw [parse, split]
  simp only [special]

theorem scheme_of_readHierarchy {scheme : String} {isSpecial : Bool} {rest : List Char} {url : Url}
    (read : readHierarchy scheme isSpecial rest = .ok url) : url.scheme = scheme := by
  rw [readHierarchy] at read
  rcases exists_of_bind_eq_ok read with ⟨authority, _, read⟩
  cases read
  rfl

theorem scheme_of_readFile {rest : List Char} {url : Url} (read : readFile rest = .ok url) :
    url.scheme = "file" := by
  rw [readFile.eq_def] at read
  split at read
  · split at read
    · simp only [] at read
      split at read
      · cases read
        rfl
      · rcases exists_of_bind_eq_ok read with ⟨host, _, read⟩
        cases read
        rfl
    · cases read
      rfl
  · cases read
    rfl

theorem eq_file_of_schemeKind {scheme : String} (kind : schemeKind scheme = .file) :
    scheme = "file" := by
  rw [schemeKind] at kind
  split at kind
  · assumption
  · split at kind
    · cases kind
    · cases kind

theorem splitScheme?_of_parse {text : String} {url : Url} (parsed : parse text = .ok url) :
    ∃ rest, splitScheme? (clean text.toList) = some (url.scheme, rest) := by
  rw [parse] at parsed
  cases split : splitScheme? (clean text.toList) with
  | none =>
      rw [split] at parsed
      cases parsed
  | some parts =>
      rcases parts with ⟨scheme, rest⟩
      simp only [split] at parsed
      refine ⟨rest, ?_⟩
      cases kind : schemeKind scheme with
      | special =>
          simp only [kind] at parsed
          rw [scheme_of_readHierarchy parsed]
      | file =>
          simp only [kind] at parsed
          rw [scheme_of_readFile parsed, eq_file_of_schemeKind kind]
      | other =>
          simp only [kind] at parsed
          split at parsed
          · rw [scheme_of_readHierarchy parsed]
          · cases parsed
            rfl

theorem readHierarchy_of_parse {text : String} {url : Url} (parsed : parse text = .ok url)
    (web : IsWeb url.scheme) :
    ∃ rest, splitScheme? (clean text.toList) = some (url.scheme, rest) ∧
      readHierarchy url.scheme true (rest.dropWhile isSlash) = .ok url := by
  rcases splitScheme?_of_parse parsed with ⟨rest, split⟩
  rw [parse_of_special split web.special] at parsed
  exact ⟨rest, split, parsed⟩

/-! Origins. -/

theorem port_ne_default {text : String} {url : Url} (parsed : parse text = .ok url)
    (web : IsWeb url.scheme) (port : Nat) (written : url.port = some port) :
    defaultPort? url.scheme ≠ some port := by
  rcases readHierarchy_of_parse parsed web with ⟨rest, _, read⟩
  rcases readHierarchy_eq_ok read with ⟨_, authority, authorityRead, _, _, samePort⟩
  rcases readAuthority_eq_ok authorityRead with ⟨_, _, _, portRead, _⟩
  rw [← samePort, written] at portRead
  exact portBehind_ne_default portRead

theorem origin?_of_web {url : Url} (web : IsWeb url.scheme) : url.origin? = url.hostedOrigin? := by
  have notBlob : url.scheme ≠ "blob" := by
    intro blob
    have special := web.special
    rw [blob] at special
    exact absurd special (by decide)
  rw [origin?]
  cases url.path.length with
  | zero => rfl
  | succ limit => rw [originWithin?, if_neg notBlob]

theorem hostedOrigin?_eq_some {url : Url} {origin : Origin}
    (has : url.hostedOrigin? = some origin) :
    url.scheme = origin.scheme ∧ url.host = some origin.host ∧
      (url.port <|> defaultPort? url.scheme) = some origin.port := by
  rw [hostedOrigin?] at has
  split at has
  · split at has
    · rename_i host port hasHost hasPort
      cases has
      exact ⟨rfl, hasHost, hasPort⟩
    · cases has
  · cases has

theorem place_of_origin {text : String} {url : Url} {origin : Origin}
    (parsed : parse text = .ok url) (web : IsWeb url.scheme)
    (has : url.origin? = some origin) :
    url.scheme = origin.scheme ∧ url.host = some origin.host ∧
      url.port =
        if defaultPort? origin.scheme = some origin.port then none else some origin.port := by
  rw [origin?_of_web web] at has
  rcases hostedOrigin?_eq_some has with ⟨scheme, host, port⟩
  refine ⟨scheme, host, ?_⟩
  rw [← scheme]
  cases written : url.port with
  | none =>
      rw [written] at port
      exact (if_pos port).symm
  | some value =>
      have notDefault := port_ne_default parsed web value written
      rw [written] at port
      rw [← Option.some.inj port, if_neg notDefault]

theorem samePlace_of_origin {leftText rightText : String} {left right : Url} {origin : Origin}
    (leftParsed : parse leftText = .ok left) (rightParsed : parse rightText = .ok right)
    (leftWeb : IsWeb left.scheme) (rightWeb : IsWeb right.scheme)
    (leftOrigin : left.origin? = some origin) (rightOrigin : right.origin? = some origin) :
    SamePlace left right := by
  rcases place_of_origin leftParsed leftWeb leftOrigin with ⟨leftScheme, leftHost, leftPort⟩
  rcases place_of_origin rightParsed rightWeb rightOrigin with ⟨rightScheme, rightHost, rightPort⟩
  exact {
    scheme := leftScheme.trans rightScheme.symm
    host := leftHost.trans rightHost.symm
    port := leftPort.trans rightPort.symm }

end BearerProxy.Url
