import BearerProxy.Text
import BearerProxy.Text.Quoted

/-!
Header fields: an ordered list of names and values in which a name may occur more than once. Names are
kept in small letters, since their case means nothing.
-/

namespace BearerProxy.Http

def isTokenCharacter (character : Char) : Bool :=
  ('a' ≤ character && character ≤ 'z') || ('A' ≤ character && character ≤ 'Z') ||
    ('0' ≤ character && character ≤ '9') ||
    ['!', '#', '$', '%', '&', '\'', '*', '+', '-', '.', '^', '_', '\x60', '|', '~'].contains character

def isToken (text : String) : Bool :=
  !text.isEmpty && text.toList.all isTokenCharacter

def isValueByte (byte : UInt8) : Bool :=
  (0x20 ≤ byte && byte != 0x7F) || byte == 0x09

def isTextByte (byte : UInt8) : Bool :=
  (0x20 ≤ byte && byte < 0x7F) || byte == 0x09

structure HeaderValue where
  bytes : List UInt8
  deriving DecidableEq, Repr

namespace HeaderValue

def ofBytes? (bytes : List UInt8) : Option HeaderValue :=
  if bytes.all isValueByte then some ⟨bytes⟩ else none

def ofText? (text : String) : Option HeaderValue :=
  ofBytes? text.toUTF8.toList

def text? (value : HeaderValue) : Option String :=
  if value.bytes.all isTextByte then
    some (String.ofList (value.bytes.map fun byte => Char.ofNat byte.toNat))
  else none

def inspect (value : HeaderValue) : String :=
  let shown (byte : UInt8) : List Char :=
    if byte == 0x22 then ['\\', '"']
    else if isTextByte byte then [Char.ofNat byte.toNat]
    else ['\\', 'x'] ++ Nat.toDigits 16 byte.toNat
  String.ofList ('"' :: value.bytes.flatMap shown ++ ['"'])

end HeaderValue

structure Headers where
  fields : List (String × HeaderValue)
  deriving DecidableEq, Repr, Inhabited

namespace Headers

def empty : Headers := ⟨[]⟩

def values (headers : Headers) (name : String) : List HeaderValue :=
  (headers.fields.filter fun field => field.1 == Text.lowerAscii name).map (·.2)

def contains (headers : Headers) (name : String) : Bool :=
  headers.fields.any fun field => field.1 == Text.lowerAscii name

def append (headers : Headers) (name : String) (value : HeaderValue) : Headers :=
  ⟨headers.fields ++ [(Text.lowerAscii name, value)]⟩

def remove (headers : Headers) (name : String) : Headers :=
  ⟨headers.fields.filter fun field => field.1 != Text.lowerAscii name⟩

def insert (headers : Headers) (name : String) (value : HeaderValue) : Headers :=
  (headers.remove name).append name value

def without (headers : Headers) (names : List String) : Headers :=
  ⟨headers.fields.filter fun field => !names.contains field.1⟩

def ofList (fields : List (String × HeaderValue)) : Headers :=
  ⟨fields.map fun field => (Text.lowerAscii field.1, field.2)⟩

/-- The one text for a name however often it occurs: its values that are text, trimmed, without the
blank ones, between commas. -/
def combined? (headers : Headers) (name : String) : Option String :=
  match ((headers.values name).filterMap HeaderValue.text?).filterMap Text.trimmed? with
  | [] => none
  | texts => some (String.intercalate ", " texts)

def grouped (headers : Headers) : List (String × HeaderValue) :=
  let names := headers.fields.map (·.1) |>.eraseDups
  names.flatMap fun name => headers.fields.filter fun field => field.1 == name

def inspect (headers : Headers) : String :=
  let fields := headers.grouped.map fun field => Text.quote field.1 ++ ": " ++ field.2.inspect
  "\x7b" ++ String.intercalate ", " fields ++ "\x7d"

def inspectHiding (headers : Headers) (hidden : String) : String :=
  let fields := headers.grouped.map fun field =>
    Text.quote field.1 ++ ": " ++ if field.1 == hidden then "Sensitive" else field.2.inspect
  "\x7b" ++ String.intercalate ", " fields ++ "\x7d"

end Headers

end BearerProxy.Http
