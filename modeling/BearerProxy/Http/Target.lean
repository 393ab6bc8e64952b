import BearerProxy.Text

/-!
The target in the first line of a request: a path with a query, a whole URL, the name of a server alone,
or a star. Nothing in a target is decoded or resolved.
-/

namespace BearerProxy.Http

/-- `resource` is the path and the query as they are written, without a fragment. -/
structure Target where
  scheme : Option String
  authority : String
  resource : String
  deriving DecidableEq, Repr

namespace Target

def longest : Nat := 65534

def isAsciiAlphanumeric (character : Char) : Bool :=
  character.isAlpha || character.isDigit

def isSchemeCharacter (character : Char) : Bool :=
  isAsciiAlphanumeric character || ['+', '-', '.', '~'].contains character

def isAuthorityCharacter (character : Char) : Bool :=
  isAsciiAlphanumeric character ||
    ['!', '$', '&', '\'', '(', ')', '*', '+', ',', '-', '.', ':', ';', '=', '@', '[', ']', '_', '~'].contains
      character

def isPathCharacter (character : Char) : Bool :=
  0x21 ≤ character.toNat && !(['#', '?', '<', '>', '\x60'].contains character)

def isQueryCharacter (character : Char) : Bool :=
  0x21 ≤ character.toNat && !(['"', '#', '<', '>'].contains character)

structure AuthorityScan where
  colons : Nat := 0
  opened : Bool := false
  closed : Bool := false
  percent : Bool := false
  endsWithAt : Bool := false

/-- One character of the server part. Colons and percent signs count only behind the user and outside
of brackets. -/
def AuthorityScan.step (scan : AuthorityScan) (character : Char) : Option AuthorityScan :=
  let scan := { scan with endsWithAt := false }
  match character with
  | ':' => if scan.colons < 8 then some { scan with colons := scan.colons + 1 } else none
  | '[' => if scan.percent || scan.opened then none else some { scan with opened := true }
  | ']' =>
      if scan.opened && !scan.closed then
        some { scan with closed := true, colons := 0, percent := false }
      else none
  | '@' => some { scan with colons := 0, percent := false, endsWithAt := true }
  | '%' => some { scan with percent := true }
  | _ => if isAuthorityCharacter character then some scan else none

/-- Whether a whole server part may end here. -/
def AuthorityScan.isComplete (scan : AuthorityScan) : Bool :=
  scan.opened == scan.closed && scan.colons ≤ 1 && !scan.endsWithAt && !scan.percent

def isAuthority (characters : List Char) : Bool :=
  ((characters.foldlM AuthorityScan.step {}).map AuthorityScan.isComplete).getD false

def splitAuthority (characters : List Char) : List Char × List Char :=
  characters.span fun character => !(['/', '?', '#'].contains character)

def resource? (characters : List Char) : Option String :=
  let unanchored := characters.takeWhile (· != '#')
  let (path, query) := Text.splitFirst (· == '?') unanchored
  if path.all isPathCharacter && (query.getD []).all isQueryCharacter then
    some (String.ofList unanchored)
  else none

def splitScheme? (characters : List Char) : Option (List Char × List Char) :=
  let (scheme, rest) := characters.span isSchemeCharacter
  (Text.dropPrefix? [':', '/', '/'] rest).map fun rest => (scheme, rest)

def schemeText (scheme : List Char) : String :=
  let text := String.ofList scheme
  if ["http", "https"].contains (Text.lowerAscii text) then Text.lowerAscii text else text

/-- A whole URL must name a server. -/
def absolute? (scheme rest : List Char) : Option Target :=
  let (authority, rest) := splitAuthority rest
  if scheme.length > 64 || authority.isEmpty || !isAuthority authority then none
  else
    (resource? rest).map fun resource =>
      { scheme := some (schemeText scheme), authority := String.ofList authority, resource }

def parse? (text : String) : Option Target :=
  let characters := text.toList
  if text.utf8ByteSize > longest then none
  else
    match characters with
    | [] => none
    | '/' :: _ => (resource? characters).map fun resource => ⟨none, "", resource⟩
    | ['*'] => some ⟨none, "", "*"⟩
    | _ =>
        match splitScheme? characters with
        | some (scheme, rest) => absolute? scheme rest
        | none => if isAuthority characters then some ⟨none, text, ""⟩ else none

def namesServerOnly (target : Target) : Bool :=
  target.scheme.isNone && target.authority ≠ ""

def path (target : Target) : String :=
  let characters := (Text.splitFirst (· == '?') target.resource.toList).1
  if characters.isEmpty && !target.namesServerOnly then "/" else String.ofList characters

def query? (target : Target) : Option String :=
  (Text.splitFirst (· == '?') target.resource.toList).2.map String.ofList

def text (target : Target) : String :=
  let server :=
    match target.scheme with
    | none => ""
    | some scheme => scheme ++ "://" ++ target.authority
  let query :=
    match target.query? with
    | none => ""
    | some query => "?" ++ query
  server ++ target.path ++ query

end Target

end BearerProxy.Http
