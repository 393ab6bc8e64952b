import BearerProxy.Text

/-!
Punycode of RFC 3492: a text over all of Unicode as letters, digits and hyphens. Code points beyond
ASCII are written in increasing order, each as the distance from the one before.
-/

namespace BearerProxy.Url.Punycode

def digitValue? (character : Char) : Option Nat :=
  if 'a' ≤ character && character ≤ 'z' then some (character.toNat - 'a'.toNat)
  else if 'A' ≤ character && character ≤ 'Z' then some (character.toNat - 'A'.toNat)
  else if '0' ≤ character && character ≤ '9' then some (character.toNat - '0'.toNat + 26)
  else none

def digit (value : Nat) : Char :=
  if value < 26 then Char.ofNat ('a'.toNat + value) else Char.ofNat ('0'.toNat + (value - 26))

def threshold (position bias : Nat) : Nat :=
  if position ≤ bias then 1 else if bias + 26 ≤ position then 26 else position - bias

def shrink (delta steps : Nat) : Nat × Nat :=
  if 455 < delta then shrink (delta / 35) (steps + 36) else (delta, steps)
termination_by delta
decreasing_by omega

def adapt (delta count : Nat) (isFirst : Bool) : Nat :=
  let scaled := if isFirst then delta / 700 else delta / 2
  let (delta, steps) := shrink (scaled + scaled / count) 0
  steps + 36 * delta / (delta + 38)

def readDistance? (value weight position bias : Nat) : List Char → Option (Nat × List Char)
  | [] => none
  | character :: rest => do
      let digit ← digitValue? character
      let value := value + digit * weight
      if 0x100000000 ≤ value then none
      let threshold := threshold position bias
      if digit < threshold then some (value, rest)
      else readDistance? value (weight * (36 - threshold)) (position + 36) bias rest

def decodeFrom? : Nat → (codePoint index bias : Nat) → List Char → List Char → Option (List Char)
  | _, _, _, _, output, [] => some output
  | 0, _, _, _, _, _ :: _ => none
  | limit + 1, codePoint, index, bias, output, input => do
      let (distance, rest) ← readDistance? 0 1 36 bias input
      let length := output.length + 1
      let codePoint := codePoint + (index + distance) / length
      let place := (index + distance) % length
      if codePoint.isValidChar then
        decodeFrom? limit codePoint (place + 1) (adapt distance length (index == 0))
          (output.take place ++ Char.ofNat codePoint :: output.drop place) rest
      else none

def decode? (label : List Char) : Option (List Char) :=
  let (basic, distances) :=
    match Text.splitLast? (· == '-') label with
    | none => ([], label)
    | some (before, after) => (before, after)
  decodeFrom? distances.length 128 0 72 basic distances

def writeDistance : Nat → (value position bias : Nat) → List Char
  | 0, _, _, _ => []
  | limit + 1, value, position, bias =>
      let threshold := threshold position bias
      if value < threshold then [digit value]
      else
        digit (threshold + (value - threshold) % (36 - threshold)) ::
          writeDistance limit ((value - threshold) / (36 - threshold)) (position + 36) bias

def writeOccurrences (codePoint : Nat) :
    List Char → (delta handled basic bias : Nat) → List Char × Nat × Nat × Nat
  | [], delta, handled, _, bias => ([], delta, handled, bias)
  | character :: rest, delta, handled, basic, bias =>
      if character.toNat < codePoint then
        writeOccurrences codePoint rest (delta + 1) handled basic bias
      else if character.toNat = codePoint then
        let written := writeDistance (delta + 2) delta 36 bias
        let bias := adapt delta (handled + 1) (handled == basic)
        let (more, delta, handled, bias) :=
          writeOccurrences codePoint rest 0 (handled + 1) basic bias
        (written ++ more, delta, handled, bias)
      else writeOccurrences codePoint rest delta handled basic bias

def encodeFrom : Nat → List Char → (codePoint delta handled basic bias : Nat) → List Char
  | 0, _, _, _, _, _, _ => []
  | limit + 1, label, codePoint, delta, handled, basic, bias =>
      match (label.filter fun character => codePoint ≤ character.toNat).map Char.toNat |>.min? with
      | none => []
      | some next =>
          let delta := delta + (next - codePoint) * (handled + 1)
          let (written, delta, handled, bias) :=
            writeOccurrences next label delta handled basic bias
          written ++ encodeFrom limit label (next + 1) (delta + 1) handled basic bias

def encode (label : List Char) : List Char :=
  let basic := label.filter fun character => character.toNat < 128
  let written := encodeFrom label.length label 128 0 basic.length basic.length 72
  if basic.isEmpty then written else basic ++ '-' :: written

end BearerProxy.Url.Punycode
