import BearerProxy.Journal
import BearerProxy.Json.Value
import BearerProxy.Text

/-! What of the journal is written, and how: which events come through, and the line that each of them makes. -/

namespace BearerProxy

/-! Events as lines: as JSON for programs, or as plain text for people. -/

def Detail.json : Detail → Json
  | .text value => .string value
  | .count value => .integer value
  | .flag value => .bool value

def Detail.plain : Detail → String
  | .text value => value
  | .count value => toString value
  | .flag value => toString value

namespace Event

def fields (event : Event) : Json :=
  .object (("message", .string event.message) ::
    event.details.map fun detail => (detail.1, detail.2.json))

def members (event : Event) : List (String × Json) :=
  [("level", .string event.severity.name), ("fields", event.fields),
   ("target", .string event.scope.path)]

def jsonLine (event : Event) (timestamp : String) : String :=
  (Json.object (("timestamp", .string timestamp) :: event.members)).render

def plainLine (event : Event) (timestamp : String) : String :=
  let name := event.severity.name
  let aligned := String.ofList (List.replicate (5 - name.length) ' ') ++ name
  let details := event.details.map fun detail => " " ++ detail.1 ++ "=" ++ detail.2.plain
  timestamp ++ " " ++ aligned ++ " " ++ event.scope.path ++ ": " ++ event.message ++
    String.join details

end Event

/-!
Which events are written. A threshold is a list of directives, each of which sets a level for the events
of some scopes. The most specific of the directives that apply to an event decides; an event to which
none applies is not written.
-/

inductive Level
  | off
  | error
  | warn
  | info
  | debug
  | trace
  deriving DecidableEq, Repr

namespace Level

def rank : Level → Nat
  | .off => 0
  | .error => 1
  | .warn => 2
  | .info => 3
  | .debug => 4
  | .trace => 5

def admits (level : Level) (severity : Severity) : Bool :=
  severity.rank ≤ level.rank

def names : List (String × Level) :=
  [("off", .off), ("error", .error), ("warn", .warn), ("info", .info), ("debug", .debug),
   ("trace", .trace)]

def ofNumber? (characters : List Char) : Option Level := do
  let digits :=
    match characters with
    | '+' :: digits => digits
    | digits => digits
  let number ← Text.natural? digits
  (names.map (·.2)).find? fun level => level.rank = number

def ofText? (text : String) : Option Level :=
  ofNumber? text.toList <|> names.lookup (Text.lowerAscii text)

end Level

/-- What a directive says. `detail` limits it to the events with a detail of that name. Events stand in
no span here, so that a directive for spans never applies; it counts as one all the same. -/
structure Directive where
  target : Option String := none
  detail : Option String := none
  forSpans : Bool := false
  level : Level := .trace
  deriving DecidableEq, Repr

namespace Directive

inductive Fault
  | illegal
  | illegalLevel
  deriving DecidableEq, Repr

def Fault.message : Fault → String
  | .illegal => "invalid filter directive"
  | .illegalLevel =>
      "error parsing level filter: expected one of \"off\", \"error\", \"warn\", \"info\", " ++
        "\"debug\", \"trace\", or a number 0-5"

/-! Reading. -/

def signRanges : List (Nat × Nat) :=
  [(0x80, 0xA9), (0xAB, 0xB1), (0xB4, 0xB4), (0xB6, 0xB8), (0xBB, 0xBB), (0xBF, 0xBF), (0xD7, 0xD7),
   (0xF7, 0xF7), (0x2000, 0x206F), (0x207A, 0x207E), (0x208A, 0x208E), (0x20A0, 0x20FF),
   (0x2190, 0x245F), (0x2500, 0x2775), (0x2794, 0x2BFF), (0x3000, 0x3004), (0x3008, 0x3020),
   (0x3030, 0x3030), (0xD800, 0xF8FF), (0xFE00, 0xFE6F), (0xFF01, 0xFF0F), (0x1F000, 0x1F0FF),
   (0x1F10D, 0x1F12F), (0x1F18A, 0x1FBEF)]

def isLetterOrNumber (character : Char) : Bool :=
  if character.toNat < 0x80 then character.isAlphanum
  else signRanges.all fun range => character.toNat < range.1 || range.2 < character.toNat

def startsTarget (character : Char) : Bool :=
  isLetterOrNumber character || ['-', ':', '_'].contains character

def level? (characters : List Char) : Except Fault Level :=
  if characters.isEmpty then .ok .trace
  else
    match Level.ofText? (String.ofList characters) with
    | some level => .ok level
    | none => .error .illegalLevel

def ofWord (word : String) : Directive :=
  match Level.ofText? word with
  | some level => { level }
  | none => { target := some word }

/-- A text and what is left of it without the blanks around it. The parts of a directive are found in the
trimmed text, but their places are counted from the beginning of the whole text. -/
structure Source where
  whole : List Char
  trimmed : List Char

namespace Source

def place (source : Source) (rest : List Char) : Nat :=
  source.trimmed.length - rest.length

def between (source : Source) (start stop : List Char) : String :=
  String.ofList ((source.whole.take (source.place stop)).drop (source.place start))

def behind (source : Source) (start : List Char) : List Char :=
  source.whole.drop (source.place start)

end Source

def brackets? (source : Source) (start : List Char) : Option (String × Option String × List Char) := do
  let stop := start.dropWhile fun character => character ≠ ']' && character ≠ '\x7b'
  let name := source.between start stop
  match stop with
  | ']' :: rest => some (name, none, rest)
  | '\x7b' :: start =>
      let stop := start.dropWhile (· ≠ '\x7d')
      let detail := source.between start stop
      let rest ← Text.dropPrefix? ['\x7d', ']'] stop
      if detail.isEmpty then none else some (name, some detail, rest)
  | _ => none

def ofBrackets (source : Source) (target : Option String) (start : List Char) :
    Except Fault Directive := do
  let some (name, detail, rest) := brackets? source start | throw .illegal
  let forSpans := detail.isNone || name ≠ "" || (detail.getD "").contains '='
  match rest with
  | [] => return { target, detail, forSpans }
  | '=' :: rest => return { target, detail, forSpans, level := ← level? (source.behind rest) }
  | _ => throw .illegal

def parse (text : List Char) : Except Fault Directive :=
  let source : Source := ⟨text, Text.trimCharacters text⟩
  let stop := source.trimmed.dropWhile fun character => character ≠ '=' && character ≠ '['
  let target := source.between source.trimmed stop
  match source.trimmed with
  | [] => .error .illegal
  | '[' :: start => ofBrackets source none start
  | first :: _ =>
      if !startsTarget first then .error .illegal
      else
        match stop with
        | [] => .ok (ofWord (String.ofList text))
        | '=' :: rest => (level? (source.behind rest)).map fun level => { target := some target, level }
        | _ :: start => ofBrackets source (some target) start

/-! Application. -/

def applies (directive : Directive) (event : Event) : Bool :=
  !directive.forSpans &&
    (directive.target.all fun target => Text.startsWith target event.scope.path) &&
    (directive.detail.all fun detail =>
      detail = "message" || event.details.any fun entry => entry.1 = detail)

/-- The longer the target and then the greater the detail, the more specific the directive. -/
def isAsSpecificAs (directive other : Directive) : Bool :=
  let length (directive : Directive) : Nat :=
    (directive.target.map fun target => target.utf8ByteSize + 1).getD 0
  length other < length directive ||
    (length other = length directive && other.detail.getD "" ≤ directive.detail.getD "")

end Directive

/-- The directives in their order. Of equally specific ones the last counts. -/
structure Threshold where
  directives : List Directive
  deriving DecidableEq, Repr

namespace Threshold

def decisive? (threshold : Threshold) (event : Event) : Option Directive :=
  (threshold.directives.filter fun directive => directive.applies event).foldl
    (fun best directive =>
      if best.all directive.isAsSpecificAs then some directive else best)
    none

def admits (threshold : Threshold) (event : Event) : Bool :=
  (threshold.decisive? event).any fun directive => directive.level.admits event.severity

def split (text : String) : List (List Char) :=
  (Text.pieces ',' text.toList).filter fun piece => !piece.isEmpty

def ofText? (text : String) : Option Threshold :=
  ((split text).mapM fun piece => (Directive.parse piece).toOption).map fun directives => { directives }

def complaints (text : String) : List String :=
  (split text).filterMap fun piece =>
    match Directive.parse piece with
    | .ok _ => none
    | .error fault => some ("ignoring \x60" ++ String.ofList piece ++ "\x60: " ++ fault.message)

/-- The threshold that the legal directives of a text describe. Without any, errors are written. -/
def ofLegal (text : String) : Threshold :=
  match (split text).filterMap fun piece => (Directive.parse piece).toOption with
  | [] => { directives := [{ level := .error }] }
  | directives => { directives }

/-- The threshold for a configured level, with the complaints about it. A legal text from the
environment comes before it. -/
def choose (environment : Option String) (level : String) : Threshold × List String :=
  match environment.bind ofText? with
  | some threshold => (threshold, [])
  | none => (ofLegal level, complaints level)

end Threshold

end BearerProxy
