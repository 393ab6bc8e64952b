/-!
Texts as runs of characters: white space as Unicode defines it, digits and the numbers that runs of them stand for,
and texts cut at a separator and put together again.
-/

namespace BearerProxy

namespace Text

/-! White space. -/

/-- The characters with the Unicode property White_Space. -/
def isBlank (character : Char) : Bool :=
  let code := character.toNat
  (0x09 ≤ code && code ≤ 0x0D) || code == 0x20 || code == 0x85 || code == 0xA0 ||
    code == 0x1680 || (0x2000 ≤ code && code ≤ 0x200A) || code == 0x2028 ||
    code == 0x2029 || code == 0x202F || code == 0x205F || code == 0x3000

def trimStart (characters : List Char) : List Char :=
  characters.dropWhile isBlank

def trimEnd (characters : List Char) : List Char :=
  (characters.reverse.dropWhile isBlank).reverse

def trimCharacters (characters : List Char) : List Char :=
  trimEnd (trimStart characters)

def trim (text : String) : String :=
  String.ofList (trimCharacters text.toList)

def isBlankText (text : String) : Bool :=
  text.toList.all isBlank

def trimmed? (text : String) : Option String :=
  if isBlankText text then none else some (trim text)

/-! Digits in bases up to sixteen. -/

def digitValue? (base : Nat) (character : Char) : Option Nat :=
  let value :=
    if '0' ≤ character && character ≤ '9' then character.toNat - '0'.toNat
    else if 'a' ≤ character && character ≤ 'f' then character.toNat - 'a'.toNat + 10
    else if 'A' ≤ character && character ≤ 'F' then character.toNat - 'A'.toNat + 10
    else base
  if value < base then some value else none

def isDigitOf (base : Nat) (character : Char) : Bool :=
  (digitValue? base character).isSome

/-- The value of a run of digits, an empty one counting as zero. -/
def valueOf? (base : Nat) (digits : List Char) : Option Nat :=
  digits.foldlM (fun value digit => (digitValue? base digit).map (value * base + ·)) 0

def natural? (digits : List Char) : Option Nat :=
  if digits.isEmpty then none else valueOf? 10 digits

/-! Pieces. -/

def splitFirst (isSeparator : Char → Bool) : List Char → List Char × Option (List Char)
  | [] => ([], none)
  | character :: rest =>
      if isSeparator character then ([], some rest)
      else
        let (before, after) := splitFirst isSeparator rest
        (character :: before, after)

def splitLast? (isSeparator : Char → Bool) (characters : List Char) :
    Option (List Char × List Char) :=
  match splitFirst isSeparator characters.reverse with
  | (_, none) => none
  | (after, some before) => some (before.reverse, after.reverse)

/-- The maximal runs without a separator, empty ones included: `n` separators make `n + 1` pieces. -/
def pieces (separator : Char) : List Char → List (List Char)
  | [] => [[]]
  | character :: rest =>
      if character = separator then [] :: pieces separator rest
      else
        match pieces separator rest with
        | [] => [[character]]
        | piece :: others => (character :: piece) :: others

def joinPieces (separator : Char) : List (List Char) → List Char
  | [] => []
  | [piece] => piece
  | piece :: next :: others => piece ++ separator :: joinPieces separator (next :: others)

def dropPrefix? : List Char → List Char → Option (List Char)
  | [], characters => some characters
  | _ :: _, [] => none
  | expected :: beginning, character :: rest =>
      if expected = character then dropPrefix? beginning rest else none

def expect? (expected : Char) : List Char → Option (List Char)
  | [] => none
  | character :: rest => if character = expected then some rest else none

def startsWith (beginning text : String) : Bool :=
  beginning.toList.isPrefixOf text.toList

def lowerAscii (text : String) : String :=
  String.ofList (text.toList.map Char.toLower)

def upperAscii (text : String) : String :=
  String.ofList (text.toList.map Char.toUpper)

def equalIgnoringCase (left right : String) : Bool :=
  lowerAscii left == lowerAscii right

end Text

/-! Bytes, compared by what they hold. -/

instance (priority := 2000) decidableEqBytes : DecidableEq ByteArray := fun left right =>
  if same : left.data = right.data then
    .isTrue (by cases left; cases right; cases same; rfl)
  else
    .isFalse fun equal => same (congrArg ByteArray.data equal)

end BearerProxy
