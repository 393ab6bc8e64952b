import BearerProxy.Decimal.Binary64
import BearerProxy.Keyed

/-!
JSON values. Numbers that fit a signed or unsigned 64-bit word are integers, all others binary64
numbers. The members of an object are kept in increasing order of their keys, each key once.
-/

namespace BearerProxy

inductive Json where
  | null
  | bool (value : Bool)
  | integer (value : Int)
  | decimal (value : Decimal.Binary64)
  | string (value : String)
  | array (items : List Json)
  | object (members : List (String × Json))
  deriving Repr, Inhabited, BEq

namespace Json

def kind : Json → String
  | .null => "null"
  | .bool _ => "boolean"
  | .integer _ | .decimal _ => "number"
  | .string _ => "string"
  | .array _ => "array"
  | .object _ => "object"

/-- The object with the given members; of members with one key the last counts. -/
def ofMembers (members : List (String × Json)) : Json :=
  .object (Keyed.ofList members)

def get? (json : Json) (key : String) : Option Json :=
  match json with
  | .object members => Keyed.lookup? key members
  | _ => none

def string? : Json → Option String
  | .string value => some value
  | _ => none

end Json

end BearerProxy

/-!
Writing JSON: no white space, members in key order, and in strings only quotes, backslashes and control
characters escaped.
-/

namespace BearerProxy.Json

open Decimal (Binary64)

def controlEscape (character : Char) : List Char :=
  let digits := Nat.toDigits 16 character.toNat
  ['\\', 'u'] ++ List.replicate (4 - digits.length) '0' ++ digits

def encodeCharacter (character : Char) : List Char :=
  match character with
  | '"' => ['\\', '"']
  | '\\' => ['\\', '\\']
  | '\x08' => ['\\', 'b']
  | '\x0c' => ['\\', 'f']
  | '\n' => ['\\', 'n']
  | '\r' => ['\\', 'r']
  | '\t' => ['\\', 't']
  | _ => if character.toNat < 0x20 then controlEscape character else [character]

def encodeString (text : String) : List Char :=
  '"' :: text.toList.flatMap encodeCharacter ++ ['"']

def encodeInteger (value : Int) : List Char :=
  match value with
  | .ofNat magnitude => Nat.toDigits 10 magnitude
  | .negSucc below => '-' :: Nat.toDigits 10 (below + 1)

/-- Shortest digits with a point from `10 ^ -5` up to below `10 ^ 16`, and with one digit before the
point and a signed exponent elsewhere. A number in the first form has at least one decimal. -/
def encodeMagnitude (number : Binary64) : List Char :=
  if number.isZero then ['0', '.', '0']
  else
    let (digits, exponent) := Decimal.shortestDigits number
    if 0 ≤ exponent ∧ exponent < 16 then
      let whole := exponent.toNat + 1
      if digits.length ≤ whole then
        digits ++ List.replicate (whole - digits.length) '0' ++ ['.', '0']
      else digits.take whole ++ '.' :: digits.drop whole
    else if -5 ≤ exponent ∧ exponent < 0 then
      ['0', '.'] ++ List.replicate (exponent.natAbs - 1) '0' ++ digits
    else
      let mantissa :=
        match digits with
        | first :: second :: rest => first :: '.' :: second :: rest
        | short => short
      mantissa ++ 'e' :: (if exponent < 0 then '-' else '+') :: Nat.toDigits 10 exponent.natAbs

def encodeDecimal (number : Binary64) : List Char :=
  if number.isFinite then
    if number.isNegative then '-' :: encodeMagnitude number else encodeMagnitude number
  else ['n', 'u', 'l', 'l']

mutual

def encode : Json → List Char
  | .null => ['n', 'u', 'l', 'l']
  | .bool true => ['t', 'r', 'u', 'e']
  | .bool false => ['f', 'a', 'l', 's', 'e']
  | .integer value => encodeInteger value
  | .decimal number => encodeDecimal number
  | .string text => encodeString text
  | .array [] => ['[', ']']
  | .array (item :: items) => '[' :: encode item ++ encodeItems items
  | .object [] => ['\x7b', '\x7d']
  | .object ((key, value) :: members) =>
      '\x7b' :: encodeString key ++ ':' :: encode value ++ encodeMembers members

def encodeItems : List Json → List Char
  | [] => [']']
  | item :: items => ',' :: encode item ++ encodeItems items

def encodeMembers : List (String × Json) → List Char
  | [] => ['\x7d']
  | (key, value) :: members =>
      ',' :: encodeString key ++ ':' :: encode value ++ encodeMembers members

end

def render (json : Json) : String :=
  String.ofList json.encode

def renderBytes (json : Json) : ByteArray :=
  json.render.toUTF8

end BearerProxy.Json
