import BearerProxy.Text.Timestamp
import BearerProxy.Toml.Text
import BearerProxy.Toml.Value

/-!
The scalars of TOML besides strings: integers in four bases, floating-point numbers, and moments, which
are dates, times or both.
-/

namespace BearerProxy.Toml

open Decimal (Binary64)
open Timestamp (skipDate? skipTime? skipOffset?)

def readSign : List Char → Bool × List Char
  | '-' :: rest => (true, rest)
  | '+' :: rest => (false, rest)
  | characters => (false, characters)

/-- The digits at the front. A single underscore may stand between two digits. -/
def takeDigits (base : Nat) : List Char → List Char × List Char
  | [] => ([], [])
  | '_' :: digit :: rest =>
      if Text.isDigitOf base digit then
        let (digits, rest) := takeDigits base rest
        (digit :: digits, rest)
      else ([], '_' :: digit :: rest)
  | character :: rest =>
      if Text.isDigitOf base character then
        let (digits, rest) := takeDigits base rest
        (character :: digits, rest)
      else ([], character :: rest)

def readDigits? (base : Nat) (characters : List Char) : Option (List Char × List Char) :=
  match characters with
  | [] => none
  | first :: _ => if Text.isDigitOf base first then some (takeDigits base characters) else none

def readWhole? (characters : List Char) : Option (List Char × List Char) :=
  match characters with
  | '0' :: rest => some (['0'], rest)
  | _ => readDigits? 10 characters

/-! Integers. -/

def integer? (negative : Bool) (magnitude : Nat) : Option Toml :=
  if negative then
    if magnitude ≤ 0x8000000000000000 then some (.integer (-magnitude)) else none
  else if magnitude < 0x8000000000000000 then some (.integer magnitude) else none

def readIntegerIn? (base : Nat) (negative : Bool) (characters : List Char) :
    Option (Toml × List Char) := do
  let (digits, rest) ← if base = 10 then readWhole? characters else readDigits? base characters
  let value ← (Text.valueOf? base digits).bind (integer? negative)
  return (value, rest)

def readInteger? : Reader Toml
  | '0' :: 'x' :: rest => readIntegerIn? 16 false rest
  | '0' :: 'o' :: rest => readIntegerIn? 8 false rest
  | '0' :: 'b' :: rest => readIntegerIn? 2 false rest
  | characters =>
      let (negative, rest) := readSign characters
      readIntegerIn? 10 negative rest

/-! Floating-point numbers. -/

/-- `significand * 10 ^ exponent`, rounded. The number of digits tells without any power of ten when
the result is endless or vanishes. -/
def scaled (significand digitCount : Nat) (exponent : Int) : Binary64 :=
  let magnitude := (digitCount : Int) + exponent
  if significand = 0 || magnitude < -400 then ⟨0⟩
  else if 400 + (digitCount : Int) < magnitude then .infinity
  else if exponent < 0 then .ofFraction significand (Nat.pow 10 exponent.natAbs)
  else .ofFraction (significand * Nat.pow 10 exponent.natAbs) 1

/-- A number with a sign. Numbers that are too large have no value unless they are negative. -/
def signedDecimal? (negative : Bool) (number : Binary64) : Option Toml :=
  if negative then some (.decimal number.negate)
  else if number = .infinity then none
  else some (.decimal number)

def readExponent? : Reader Int
  | letter :: rest =>
      if letter == 'e' || letter == 'E' then do
        let (negative, rest) := readSign rest
        let (digits, rest) ← readDigits? 10 rest
        let value ← Text.valueOf? 10 digits
        return (if negative then -value else value, rest)
      else none
  | [] => none

def readFraction? : Reader (List Char)
  | '.' :: rest => readDigits? 10 rest
  | _ => none

def notANumber : Binary64 := ⟨0x7FF8000000000000⟩

def readSpecial? (negative : Bool) : Reader Toml
  | 'i' :: 'n' :: 'f' :: rest =>
      some (.decimal (if negative then Binary64.infinity.negate else .infinity), rest)
  | 'n' :: 'a' :: 'n' :: rest =>
      some (.decimal (if negative then notANumber.negate else notANumber), rest)
  | _ => none

def readDecimal? (characters : List Char) : Option (Toml × List Char) := do
  let (negative, unsigned) := readSign characters
  if let some special := readSpecial? negative unsigned then return special
  let (whole, afterWhole) ← readWhole? unsigned
  let (fraction, afterFraction) := (readFraction? afterWhole).getD ([], afterWhole)
  let (exponent, rest) := (readExponent? afterFraction).getD (0, afterFraction)
  if rest.length = afterWhole.length then none
  let digits := whole ++ fraction
  let significand ← Text.valueOf? 10 digits
  let number := scaled significand digits.length (exponent - fraction.length)
  return (← signedDecimal? negative number, rest)

/-! Moments. -/

def skipTimeOfDate (characters : List Char) : List Char :=
  let behindTime (rest : List Char) : List Char :=
    match skipTime? rest with
    | none => characters
    | some rest => (skipOffset? rest).getD rest
  match characters with
  | 'T' :: rest | 't' :: rest | ' ' :: rest => behindTime rest
  | _ => characters

def readMoment? (characters : List Char) : Option (Toml × List Char) := do
  let rest ← ((skipDate? characters).map skipTimeOfDate).orElse fun _ => skipTime? characters
  return (.moment (String.ofList (characters.take (characters.length - rest.length))), rest)

def readScalar? : Reader Toml
  | 't' :: 'r' :: 'u' :: 'e' :: rest => some (.boolean true, rest)
  | 'f' :: 'a' :: 'l' :: 's' :: 'e' :: rest => some (.boolean false, rest)
  | characters =>
      (readMoment? characters).orElse fun _ =>
        (readDecimal? characters).orElse fun _ => readInteger? characters

end BearerProxy.Toml
