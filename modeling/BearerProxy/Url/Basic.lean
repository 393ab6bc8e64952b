import BearerProxy.Url.Host

/-!
URLs as browsers read them. Reading is lenient where the standard is: blanks at the ends, tabs and line
ends anywhere, any number of slashes before the host of a special scheme, backslashes for slashes there,
user names, and host names that are spelled addresses.
-/

namespace BearerProxy

structure Url where
  scheme : String
  username : String
  password : Option String
  host : Option Url.Host
  port : Option Nat
  path : String
  query : Option String
  deriving Repr, DecidableEq

namespace Url

/-- How much a scheme determines of what follows it. -/
inductive SchemeKind
  | file
  | special
  | other
  deriving DecidableEq, Repr

def schemeKind (scheme : String) : SchemeKind :=
  if scheme = "file" then .file
  else if ["http", "https", "ws", "wss", "ftp"].contains scheme then .special
  else .other

def defaultPort? (scheme : String) : Option Nat :=
  if scheme = "http" || scheme = "ws" then some 80
  else if scheme = "https" || scheme = "wss" then some 443
  else if scheme = "ftp" then some 21
  else none

/-! The text before it is taken apart. -/

def isControlOrSpace (character : Char) : Bool := character.toNat ≤ 0x20

def isLayout (character : Char) : Bool :=
  character == '\t' || character == '\n' || character == '\r'

/-- The text without controls and spaces around it and without tabs and line ends in it. -/
def clean (characters : List Char) : List Char :=
  let trimmed := ((characters.dropWhile isControlOrSpace).reverse.dropWhile isControlOrSpace).reverse
  trimmed.filter fun character => !isLayout character

def isLetter (character : Char) : Bool :=
  ('a' ≤ character && character ≤ 'z') || ('A' ≤ character && character ≤ 'Z')

def isSchemeCharacter (character : Char) : Bool :=
  isLetter character || character.isDigit || ['+', '-', '.'].contains character

def splitScheme? (characters : List Char) : Option (String × List Char) :=
  let scheme := characters.takeWhile isSchemeCharacter
  match scheme, characters.dropWhile isSchemeCharacter with
  | first :: _, ':' :: rest =>
      if isLetter first then some (String.ofList (scheme.map Char.toLower), rest) else none
  | _, _ => none

/-! User information, host and port. -/

def endsAuthority (isSpecial : Bool) (character : Char) : Bool :=
  character == '/' || character == '?' || character == '#' || (isSpecial && character == '\\')

def splitUserinfo (authority : List Char) : Option (List Char) × List Char :=
  match Text.splitLast? (· == '@') authority with
  | none => (none, authority)
  | some (userinfo, rest) => (some userinfo, rest)

def readUserinfo (userinfo : List Char) : String × Option String :=
  let encode (characters : List Char) : String :=
    String.ofList (percentEncode encodedInUserinfo characters)
  match Text.splitFirst (· == ':') userinfo with
  | (name, none) => (encode name, none)
  | (name, some []) => (encode name, none)
  | (name, some password) => (encode name, some (encode password))

def splitHost (insideBrackets : Bool) : List Char → List Char × List Char
  | [] => ([], [])
  | character :: rest =>
      if character == ':' && !insideBrackets then ([], character :: rest)
      else
        let inside :=
          if character == '[' then true else if character == ']' then false else insideBrackets
        let (host, after) := splitHost inside rest
        (character :: host, after)

def readPort (isSpecial : Bool) (scheme : String) (characters : List Char) :
    Except Fault (Option Nat) :=
  let digits := characters.takeWhile Char.isDigit
  let rest := characters.dropWhile Char.isDigit
  let value := digits.foldl (fun value digit => value * 10 + (digit.toNat - '0'.toNat)) 0
  if 65535 < value then .error .illegalPort
  else if !(rest.isEmpty || (!isSpecial && rest.head? = some '\\')) then .error .illegalPort
  else if digits.isEmpty || some value = defaultPort? scheme then .ok none
  else .ok (some value)

structure Authority where
  username : String := ""
  password : Option String := none
  host : Option Host
  port : Option Nat

def readAuthority (scheme : String) (isSpecial isFollowed : Bool) (authority : List Char) :
    Except Fault Authority := do
  let (userinfo, hostAndPort) := splitUserinfo authority
  if userinfo = some [] && hostAndPort.isEmpty && isFollowed then throw .emptyHost
  let (username, password) := readUserinfo (userinfo.getD [])
  let (hostText, afterHost) := splitHost false hostAndPort
  if isSpecial && hostText.isEmpty then throw .emptyHost
  let host ← if isSpecial then Host.ofSpecialText hostText else Host.ofOpaqueText hostText
  if hostText.isEmpty && afterHost.head? = some ':' then throw .emptyHost
  let port ←
    match afterHost with
    | ':' :: port => readPort isSpecial scheme port
    | _ => pure none
  let host := if hostText.isEmpty then none else some host
  if host.isNone && (username ≠ "" || password.isSome) then throw .emptyHost
  return { username, password, host, port }

/-! Path and query. -/

def isSingleDot (segment : List Char) : Bool :=
  segment == ['.'] || segment.map Char.toLower == ['%', '2', 'e']

def isDoubleDot (segment : List Char) : Bool :=
  let lower := segment.map Char.toLower
  lower == ['.', '.'] || lower == ['.', '%', '2', 'e'] || lower == ['%', '2', 'e', '.'] ||
    lower == ['%', '2', 'e', '%', '2', 'e']

/-- Segments with the dot segments resolved; `read` holds those before, the last one first. -/
def resolveSegments (read : List (List Char)) : List (List Char) → List (List Char)
  | [] => read.reverse
  | segment :: rest =>
      if isDoubleDot segment then
        resolveSegments (if rest.isEmpty then [] :: read.drop 1 else read.drop 1) rest
      else if isSingleDot segment then
        resolveSegments (if rest.isEmpty then [] :: read else read) rest
      else resolveSegments (segment :: read) rest

def normalizePath (characters : List Char) : String :=
  let slashed := characters.map fun character => if character == '\\' then '/' else character
  let relative :=
    match slashed with
    | '/' :: rest => rest
    | other => other
  let encoded := (Text.pieces '/' relative).map (percentEncode encodedInPath)
  String.ofList ('/' :: Text.joinPieces '/' (resolveSegments [] encoded))

def readQuery (isSpecial : Bool) (characters : List Char) : Option String :=
  match Text.splitFirst (· == '#') characters with
  | ('?' :: query, _) =>
      some (String.ofList
        (percentEncode (if isSpecial then encodedInSpecialQuery else encodedInQuery) query))
  | _ => none

def endsPath (character : Char) : Bool := character == '?' || character == '#'

def withTail (scheme : String) (isSpecial : Bool) (authority : Authority) (tail : List Char) : Url :=
  let path := tail.takeWhile fun character => !endsPath character
  { scheme
    username := authority.username
    password := authority.password
    host := authority.host
    port := authority.port
    path := if isSpecial then normalizePath path else String.ofList (percentEncode (fun _ => false) path)
    query := readQuery isSpecial (tail.dropWhile fun character => !endsPath character) }

def readHierarchy (scheme : String) (isSpecial : Bool) (rest : List Char) : Except Fault Url := do
  let authorityText := rest.takeWhile fun character => !endsAuthority isSpecial character
  let tail := rest.dropWhile fun character => !endsAuthority isSpecial character
  let authority ← readAuthority scheme isSpecial (!tail.isEmpty) authorityText
  return withTail scheme isSpecial authority tail

def isSlash (character : Char) : Bool := character == '/' || character == '\\'

def isDriveLetter : List Char → Bool
  | [letter, mark] => isLetter letter && (mark == ':' || mark == '|')
  | _ => false

def readFile (rest : List Char) : Except Fault Url := do
  match rest with
  | first :: second :: after =>
      if isSlash first && isSlash second then
        let hostText := after.takeWhile fun character => !endsAuthority true character
        if isDriveLetter hostText || hostText.isEmpty then
          return withTail "file" true { host := none, port := none } after
        let host ← Host.ofSpecialText hostText
        let host := if host = .domain "localhost" then none else some host
        return withTail "file" true { host, port := none }
          (after.dropWhile fun character => !endsAuthority true character)
      else return withTail "file" true { host := none, port := none } rest
  | _ => return withTail "file" true { host := none, port := none } rest

def parse (text : String) : Except Fault Url :=
  match splitScheme? (clean text.toList) with
  | none => .error .relativeWithoutBase
  | some (scheme, rest) =>
      match schemeKind scheme with
      | .special => readHierarchy scheme true (rest.dropWhile isSlash)
      | .file => readFile rest
      | .other =>
          match rest with
          | '/' :: '/' :: rest => readHierarchy scheme false rest
          | _ => .ok (withTail scheme false { host := none, port := none } rest)

/-! Origins: scheme, host and port. Two URLs with one origin are served by one server. -/

structure Origin where
  scheme : String
  host : Host
  port : Nat
  deriving DecidableEq, Repr

def Origin.text (origin : Origin) : String :=
  origin.scheme ++ "://" ++ origin.host.text ++
    if defaultPort? origin.scheme = some origin.port then "" else ":" ++ toString origin.port

def hostedOrigin? (url : Url) : Option Origin :=
  if schemeKind url.scheme = .special then
    match url.host, url.port <|> defaultPort? url.scheme with
    | some host, some port => some ⟨url.scheme, host, port⟩
    | _, _ => none
  else none

/-- As `origin?`, through at most `limit` nested `blob` URLs. -/
def originWithin? : (limit : Nat) → Url → Option Origin
  | 0, url => hostedOrigin? url
  | limit + 1, url =>
      if url.scheme = "blob" then
        match parse url.path with
        | .ok inner => originWithin? limit inner
        | .error _ => none
      else hostedOrigin? url

/-- The origin of a URL, if it has one that another URL can share. A `blob` URL has the origin of the
URL inside it. -/
def origin? (url : Url) : Option Origin :=
  originWithin? url.path.length url

end Url

end BearerProxy
