import BearerProxy.Json.Number
import BearerProxy.Text

/-!
Reading JSON texts. The grammar is the strict one: no comments, no trailing commas, nothing behind the
value. Arrays and objects may be nested 127 deep. Of equal keys in an object the last counts.
-/

namespace BearerProxy.Json

def isSpace (character : Char) : Bool :=
  character == ' ' || character == '\n' || character == '\r' || character == '\t'

def skipSpace (characters : List Char) : List Char :=
  characters.dropWhile isSpace

def hexUnit? (first second third fourth : Char) : Option Nat :=
  Text.valueOf? 16 [first, second, third, fourth]

def isHighSurrogate (unit : Nat) : Bool := 0xD800 ≤ unit && unit < 0xDC00

def isLowSurrogate (unit : Nat) : Bool := 0xDC00 ≤ unit && unit < 0xE000

def joinSurrogates (high low : Nat) : Char :=
  Char.ofNat (0x10000 + (high - 0xD800) * 0x400 + (low - 0xDC00))

def plainEscape? : Char → Option Char
  | '"' => some '"'
  | '\\' => some '\\'
  | '/' => some '/'
  | 'b' => some '\x08'
  | 'f' => some '\x0c'
  | 'n' => some '\n'
  | 'r' => some '\r'
  | 't' => some '\t'
  | _ => none

/-- Reads the rest of a string behind its opening quote; `read` holds the characters so far, the last
one first. -/
def readStringRest? (read : List Char) : List Char → Option (String × List Char)
  | [] => none
  | '"' :: rest => some (String.ofList read.reverse, rest)
  | '\\' :: 'u' :: first :: second :: third :: fourth :: rest =>
      match hexUnit? first second third fourth with
      | none => none
      | some unit =>
          if isLowSurrogate unit then none
          else if isHighSurrogate unit then
            match rest with
            | '\\' :: 'u' :: first :: second :: third :: fourth :: rest =>
                match hexUnit? first second third fourth with
                | none => none
                | some low =>
                    if isLowSurrogate low then
                      readStringRest? (joinSurrogates unit low :: read) rest
                    else none
            | _ => none
          else readStringRest? (Char.ofNat unit :: read) rest
  | '\\' :: escape :: rest =>
      match plainEscape? escape with
      | none => none
      | some character => readStringRest? (character :: read) rest
  | character :: rest =>
      if character == '\\' || character.toNat < 0x20 then none
      else readStringRest? (character :: read) rest

abbrev Reader (α : Type) := List Char → Option (α × List Char)

def readScalar? : Reader Json
  | 'n' :: 'u' :: 'l' :: 'l' :: rest => some (.null, rest)
  | 't' :: 'r' :: 'u' :: 'e' :: rest => some (.bool true, rest)
  | 'f' :: 'a' :: 'l' :: 's' :: 'e' :: rest => some (.bool false, rest)
  | '"' :: rest => (readStringRest? [] rest).map fun (text, rest) => (.string text, rest)
  | characters =>
      match readNumberText? characters with
      | none => none
      | some (number, rest) => number.value?.map fun value => (value, rest)

def readItems? (readItem : Reader Json) (read : List Json) : Nat → Reader (List Json)
  | 0, _ => none
  | limit + 1, characters =>
      match readItem (skipSpace characters) with
      | none => none
      | some (item, rest) =>
          match skipSpace rest with
          | ',' :: rest => readItems? readItem (item :: read) limit rest
          | ']' :: rest => some ((item :: read).reverse, rest)
          | _ => none

def readMember? (readItem : Reader Json) : Reader (String × Json)
  | '"' :: rest =>
      match readStringRest? [] rest with
      | none => none
      | some (key, rest) =>
          match skipSpace rest with
          | ':' :: rest => (readItem (skipSpace rest)).map fun (value, rest) => ((key, value), rest)
          | _ => none
  | _ => none

def readMembers? (readItem : Reader Json) (read : List (String × Json)) :
    Nat → Reader (List (String × Json))
  | 0, _ => none
  | limit + 1, characters =>
      match readMember? readItem (skipSpace characters) with
      | none => none
      | some (member, rest) =>
          match skipSpace rest with
          | ',' :: rest => readMembers? readItem (member :: read) limit rest
          | '\x7d' :: rest => some ((member :: read).reverse, rest)
          | _ => none

/-- A value whose arrays and objects are nested at most `depth` deep and have at most `limit` items
each. -/
def readValue? (limit : Nat) : (depth : Nat) → Reader Json
  | 0, characters => readScalar? characters
  | depth + 1, characters =>
      match characters with
      | '[' :: rest =>
          match skipSpace rest with
          | ']' :: rest => some (.array [], rest)
          | rest =>
              (readItems? (readValue? limit depth) [] limit rest).map fun (items, rest) =>
                (.array items, rest)
      | '\x7b' :: rest =>
          match skipSpace rest with
          | '\x7d' :: rest => some (.object [], rest)
          | rest =>
              (readMembers? (readValue? limit depth) [] limit rest).map fun (members, rest) =>
                (ofMembers members, rest)
      | characters => readScalar? characters

def nestingLimit : Nat := 127

def parseCharacters? (characters : List Char) : Option Json :=
  match readValue? characters.length nestingLimit (skipSpace characters) with
  | none => none
  | some (value, rest) => if (skipSpace rest).isEmpty then some value else none

def parseMembers? (characters : List Char) : Option (List (String × Json)) :=
  match skipSpace characters with
  | '\x7b' :: rest =>
      let read :=
        match skipSpace rest with
        | '\x7d' :: rest => some ([], rest)
        | rest =>
            readMembers? (readValue? characters.length (nestingLimit - 1)) [] characters.length rest
      match read with
      | none => none
      | some (members, rest) => if (skipSpace rest).isEmpty then some members else none
  | _ => none

/-- The value that a sequence of bytes stands for, if it is a JSON text in UTF-8. -/
def parse? (bytes : ByteArray) : Option Json :=
  (String.fromUTF8? bytes).bind fun text => parseCharacters? text.toList

end BearerProxy.Json
