/-!
Finite and infinite binary64 numbers by their bits, and exact rounding of rationals into them.
Everything is natural-number arithmetic, so that the values can be computed and reasoned about alike.
-/

namespace BearerProxy.Decimal

/-- A floating-point number of the IEEE 754 binary64 format, given by its 64 bits. -/
structure Binary64 where
  bits : UInt64
  deriving DecidableEq, Repr, Inhabited

def divideNearestEven (numerator denominator : Nat) : Nat :=
  let quotient := numerator / denominator
  let doubled := 2 * (numerator % denominator)
  if doubled < denominator then quotient
  else if denominator < doubled then quotient + 1
  else if quotient % 2 = 0 then quotient else quotient + 1

namespace Binary64

/-- The exponents of the format: a finite number is `significand * 2 ^ exponent` with a significand
below `2 ^ 53` and an exponent from here upwards. -/
def leastExponent : Int := -1074

def signBit : UInt64 := 0x8000000000000000

def infinity : Binary64 := ⟨0x7FF0000000000000⟩

def isNegative (number : Binary64) : Bool :=
  number.bits &&& signBit != 0

def magnitudeBits (number : Binary64) : Nat :=
  number.bits.toNat % 0x8000000000000000

def negate (number : Binary64) : Binary64 :=
  ⟨number.bits ^^^ signBit⟩

def isFinite (number : Binary64) : Bool :=
  number.magnitudeBits < 0x7FF0000000000000

def isZero (number : Binary64) : Bool :=
  number.magnitudeBits == 0

def hiddenBit : Nat := 0x10000000000000

def parts (number : Binary64) : Nat × Int :=
  let biased := number.magnitudeBits / hiddenBit
  let fraction := number.magnitudeBits % hiddenBit
  if biased = 0 then (fraction, leastExponent)
  else (hiddenBit + fraction, leastExponent + (biased - 1 : Nat))

def powerOfTwo (exponent : Int) : Nat × Nat :=
  if exponent < 0 then (1, Nat.pow 2 exponent.natAbs) else (Nat.pow 2 exponent.natAbs, 1)

def magnitude (number : Binary64) : Nat × Nat :=
  let (significand, exponent) := number.parts
  let (numerator, denominator) := powerOfTwo exponent
  (significand * numerator, denominator)

def gridExponent (numerator denominator : Nat) : Int :=
  let estimate : Int := (Nat.log2 numerator : Int) - (Nat.log2 denominator : Int) - 52
  let fits (exponent : Int) : Bool :=
    let (up, down) := powerOfTwo exponent
    numerator * down < 2 * hiddenBit * denominator * up
  let exponent := if fits (estimate - 1) then estimate - 1 else estimate
  max leastExponent exponent

/-- The binary64 number nearest to a fraction, a half to the even neighbour; fractions beyond the
largest finite number by half a step or more become infinity. -/
def ofFraction (numerator denominator : Nat) : Binary64 :=
  if numerator = 0 then ⟨0⟩
  else
    let exponent := gridExponent numerator denominator
    let (up, down) := powerOfTwo exponent
    let significand := divideNearestEven (numerator * down) (denominator * up)
    let biased := (exponent - leastExponent).natAbs
    let encoded := biased * hiddenBit + significand
    if encoded < 0x7FF0000000000000 then ⟨UInt64.ofNat encoded⟩ else infinity

def ofNat (value : Nat) : Binary64 :=
  ofFraction value 1

def multiply (left right : Binary64) : Binary64 :=
  ofFraction (left.magnitude.1 * right.magnitude.1) (left.magnitude.2 * right.magnitude.2)

def divide (left right : Binary64) : Binary64 :=
  ofFraction (left.magnitude.1 * right.magnitude.2) (left.magnitude.2 * right.magnitude.1)

end Binary64

/-!
The shortest decimal that reads back as a given binary64 number: the fewest digits that lie in the
interval of reals rounding to the number, and of those the nearest.
-/

def digitsOf (value : Nat) : List Char :=
  Nat.toDigits 10 value

def decimalExponent (numerator denominator : Nat) : Int :=
  if denominator ≤ numerator then ((digitsOf (numerator / denominator)).length - 1 : Nat)
  else
    let length := (digitsOf (denominator / numerator)).length
    if denominator = numerator * Nat.pow 10 (length - 1) then -((length - 1 : Nat) : Int)
    else -(length : Int)

def scaleByTen (value : Nat) (exponent : Int) : Nat × Nat :=
  if exponent < 0 then (value, Nat.pow 10 exponent.natAbs) else (value * Nat.pow 10 exponent.natAbs, 1)

/-- The reals that round to a positive number, as fractions over one denominator; the ends belong to
the interval when `closed` holds. -/
structure RoundingInterval where
  lower : Nat
  exact : Nat
  upper : Nat
  denominator : Nat
  closed : Bool

namespace RoundingInterval

/-- A number is rounded to from half a step on both sides, and from a quarter of a step below a power
of two that starts a coarser grid. Ties go to even significands, so only those own the ends. -/
def ofNumber (number : Binary64) : RoundingInterval :=
  let (significand, exponent) := number.parts
  let startsCoarserGrid := significand = Binary64.hiddenBit ∧ Binary64.leastExponent < exponent
  let (up, down) := Binary64.powerOfTwo (exponent - 2)
  { lower := (4 * significand - if startsCoarserGrid then 1 else 2) * up
    exact := 4 * significand * up
    upper := (4 * significand + 2) * up
    denominator := down
    closed := significand % 2 = 0 }

def contains (interval : RoundingInterval) (numerator denominator : Nat) : Bool :=
  let value := numerator * interval.denominator
  let lower := interval.lower * denominator
  let upper := interval.upper * denominator
  if interval.closed then lower ≤ value && value ≤ upper else lower < value && value < upper

def nearestOnGrid? (interval : RoundingInterval) (exponent : Int) : Option Nat :=
  let (unit, scale) := scaleByTen 1 exponent
  let below := interval.exact * scale / (interval.denominator * unit)
  let inside (multiple : Nat) : Bool := interval.contains (multiple * unit) scale
  let doubled := 2 * interval.exact * scale
  let middle := (2 * below + 1) * interval.denominator * unit
  let preferBelow := doubled < middle || (doubled == middle && below % 2 == 0)
  if inside below && (preferBelow || !inside (below + 1)) then some below
  else if inside (below + 1) then some (below + 1)
  else none

/-- The first grid with a hit, from the coarsest on. -/
def search (interval : RoundingInterval) (exponent : Int) : Nat → Nat × Int
  | 0 => (0, 0)
  | grids + 1 =>
      match interval.nearestOnGrid? exponent with
      | some multiple => (multiple, exponent)
      | none => interval.search (exponent - 1) grids

end RoundingInterval

def shortestDigits (number : Binary64) : List Char × Int :=
  let interval := RoundingInterval.ofNumber number
  let leading := decimalExponent interval.exact interval.denominator
  let (multiple, exponent) := interval.search leading 18
  let digits := digitsOf multiple
  let significant := (digits.reverse.dropWhile (· == '0')).reverse
  (significant, exponent + ((digits.length - 1 : Nat) : Int))

end BearerProxy.Decimal
