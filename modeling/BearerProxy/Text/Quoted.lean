import BearerProxy.Text.Invisible

/-!
Inspection texts: how diagnostics show a value. Texts are quoted, with quotes, backslashes and
invisible characters written as escapes; structures are shown by name and fields.
-/

namespace BearerProxy.Text

def codeEscape (character : Char) : List Char :=
  ['\\', 'u', '\x7b'] ++ Nat.toDigits 16 character.toNat ++ ['\x7d']

def escapeCharacter (character : Char) : List Char :=
  match character with
  | '\x00' => ['\\', '0']
  | '\t' => ['\\', 't']
  | '\r' => ['\\', 'r']
  | '\n' => ['\\', 'n']
  | '"' => ['\\', '"']
  | '\\' => ['\\', '\\']
  | _ => if isInvisible character then codeEscape character else [character]

def quote (text : String) : String :=
  String.ofList ('"' :: text.toList.flatMap escapeCharacter ++ ['"'])

def escapeByte (byte : UInt8) : List Char :=
  if byte == 0x0A then ['\\', 'n']
  else if byte == 0x0D then ['\\', 'r']
  else if byte == 0x09 then ['\\', 't']
  else if byte == 0x5C || byte == 0x22 then ['\\', Char.ofNat byte.toNat]
  else if byte == 0x00 then ['\\', '0']
  else if 0x20 ≤ byte && byte < 0x7F then [Char.ofNat byte.toNat]
  else ['\\', 'x'] ++ (if byte < 0x10 then ['0'] else []) ++ Nat.toDigits 16 byte.toNat

def quoteBytes (bytes : ByteArray) : String :=
  String.ofList ('b' :: '"' :: bytes.toList.flatMap escapeByte ++ ['"'])

def inspectFields (name : String) (fields : List (String × String)) : String :=
  if fields.isEmpty then name
  else
    name ++ " \x7b " ++
      String.intercalate ", " (fields.map fun field => field.1 ++ ": " ++ field.2) ++ " \x7d"

def inspectSomeFields (name : String) (fields : List (String × String)) : String :=
  if fields.isEmpty then name ++ " \x7b .. \x7d"
  else
    name ++ " \x7b " ++
      String.intercalate ", " (fields.map fun field => field.1 ++ ": " ++ field.2) ++ ", .. \x7d"

def inspectList (items : List String) : String :=
  "[" ++ String.intercalate ", " items ++ "]"

def inspectOption : Option String → String
  | none => "None"
  | some shown => "Some(" ++ shown ++ ")"

def redacted : String := "<redacted>"

end BearerProxy.Text
