import BearerProxy.Json.Value

/-!
Reading JSON numbers. A number without fraction and exponent that fits a 64-bit word is an integer.
Any other number is its significand, cut at the first digit that no longer fits 64 bits, scaled by a
power of ten; the significand, the power and the result are each rounded to binary64.
-/

namespace BearerProxy.Json

open Decimal (Binary64)

def isDigit (character : Char) : Bool :=
  '0' ≤ character && character ≤ '9'

def wordLimit : Nat := 0x10000000000000000

def significandOf (start : Nat) : List Char → Nat × List Char
  | [] => (start, [])
  | digit :: rest =>
      let next := start * 10 + (digit.toNat - '0'.toNat)
      if next < wordLimit then significandOf next rest else (start, digit :: rest)

def naturalOf (digits : List Char) : Nat :=
  digits.foldl (fun value digit => value * 10 + (digit.toNat - '0'.toNat)) 0

def scaleDown (number : Binary64) (exponent : Nat) : Binary64 :=
  if number.isZero then number
  else if exponent ≤ 308 then number.divide (Binary64.ofNat (Nat.pow 10 exponent))
  else scaleDown (number.divide (Binary64.ofNat (Nat.pow 10 308))) (exponent - 308)
termination_by exponent
decreasing_by omega

def scale? (significand : Nat) (exponent : Int) : Option Binary64 :=
  let number := Binary64.ofNat significand
  if exponent < 0 then some (scaleDown number exponent.natAbs)
  else if exponent.natAbs ≤ 308 then
    let scaled := number.multiply (Binary64.ofNat (Nat.pow 10 exponent.natAbs))
    if scaled.isFinite then some scaled else none
  else if number.isZero then some number else none

/-- The parts of a number as it is written; the fraction and the exponent are absent or not empty. -/
structure NumberText where
  negative : Bool
  whole : List Char
  fraction : Option (List Char)
  exponent : Option (Bool × List Char)
  deriving DecidableEq, Repr

namespace NumberText

/-- Exponents of more than 32 bits count as endless. -/
def exponentLimit : Nat := 0x7FFFFFFF

def magnitude? (number : NumberText) : Option Binary64 :=
  let (wholePart, droppedWhole) := significandOf 0 number.whole
  let fraction := number.fraction.getD []
  let (significand, droppedFraction) := significandOf wholePart fraction
  let kept : Int := (droppedWhole.length : Int) - (fraction.length - droppedFraction.length : Nat)
  match number.exponent with
  | none => scale? significand kept
  | some (negativeExponent, digits) =>
      let written := naturalOf digits
      if written ≤ exponentLimit then
        scale? significand (if negativeExponent then kept - written else kept + written)
      else if significand ≠ 0 && !negativeExponent then none
      else some ⟨0⟩

def value? (number : NumberText) : Option Json :=
  let signed (magnitude : Binary64) : Json :=
    .decimal (if number.negative then magnitude.negate else magnitude)
  if number.fraction.isNone && number.exponent.isNone then
    let magnitude := naturalOf number.whole
    if magnitude < wordLimit && !number.negative then some (.integer magnitude)
    else if number.negative && 0 < magnitude && magnitude ≤ 0x8000000000000000 then some (.integer (-magnitude))
    else if magnitude < wordLimit then some (signed (Binary64.ofNat magnitude))
    else number.magnitude?.map signed
  else number.magnitude?.map signed

end NumberText

def takeDigits (characters : List Char) : List Char × List Char :=
  (characters.takeWhile isDigit, characters.dropWhile isDigit)

def readNumberText? (characters : List Char) : Option (NumberText × List Char) := do
  let (negative, unsigned) :=
    match characters with
    | '-' :: rest => (true, rest)
    | _ => (false, characters)
  let (whole, afterWhole) := takeDigits unsigned
  if whole.isEmpty || (whole.head? = some '0' && 1 < whole.length) then none
  let (fraction, afterFraction) ←
    match afterWhole with
    | '.' :: rest =>
        let (digits, after) := takeDigits rest
        if digits.isEmpty then none else some (some digits, after)
    | _ => some (none, afterWhole)
  let readExponent (rest : List Char) : Option (Option (Bool × List Char) × List Char) :=
    let (negativeExponent, unsigned) :=
      match rest with
      | '+' :: digits => (false, digits)
      | '-' :: digits => (true, digits)
      | digits => (false, digits)
    let (digits, after) := takeDigits unsigned
    if digits.isEmpty then none else some (some (negativeExponent, digits), after)
  let (exponent, rest) ←
    match afterFraction with
    | 'e' :: rest => readExponent rest
    | 'E' :: rest => readExponent rest
    | _ => some (none, afterFraction)
  return (⟨negative, whole, fraction, exponent⟩, rest)

end BearerProxy.Json
