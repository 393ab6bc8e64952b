/-!
Base64 in two forms: with the URL-safe alphabet and without padding, and with the plain alphabet, padded to full groups.
Decoding is of the first form and accepts exactly what encoding writes: no padding, no spare bits set, no incomplete
group.
-/

namespace BearerProxy.Text.Base64Url

def digit (value : Nat) : Char :=
  if value < 26 then Char.ofNat ('A'.toNat + value)
  else if value < 52 then Char.ofNat ('a'.toNat + (value - 26))
  else if value < 62 then Char.ofNat ('0'.toNat + (value - 52))
  else if value = 62 then '-'
  else '_'

def digitValue? (character : Char) : Option Nat :=
  if 'A' ≤ character && character ≤ 'Z' then some (character.toNat - 'A'.toNat)
  else if 'a' ≤ character && character ≤ 'z' then some (character.toNat - 'a'.toNat + 26)
  else if '0' ≤ character && character ≤ '9' then some (character.toNat - '0'.toNat + 52)
  else if character = '-' then some 62
  else if character = '_' then some 63
  else none

def encode : List UInt8 → List Char
  | [] => []
  | [first] => [digit (first.toNat / 4), digit (first.toNat % 4 * 16)]
  | [first, second] =>
      [digit (first.toNat / 4), digit (first.toNat % 4 * 16 + second.toNat / 16),
       digit (second.toNat % 16 * 4)]
  | first :: second :: third :: rest =>
      digit (first.toNat / 4) :: digit (first.toNat % 4 * 16 + second.toNat / 16) ::
        digit (second.toNat % 16 * 4 + third.toNat / 64) :: digit (third.toNat % 64) :: encode rest

def decode? : List Char → Option (List UInt8)
  | [] => some []
  | [_] => none
  | [first, second] => do
      let first ← digitValue? first
      let second ← digitValue? second
      if second % 16 = 0 then some [UInt8.ofNat (first * 4 + second / 16)] else none
  | [first, second, third] => do
      let first ← digitValue? first
      let second ← digitValue? second
      let third ← digitValue? third
      if third % 4 = 0 then
        some [UInt8.ofNat (first * 4 + second / 16), UInt8.ofNat (second % 16 * 16 + third / 4)]
      else none
  | first :: second :: third :: fourth :: rest => do
      let first ← digitValue? first
      let second ← digitValue? second
      let third ← digitValue? third
      let fourth ← digitValue? fourth
      let bytes ← decode? rest
      some (UInt8.ofNat (first * 4 + second / 16) :: UInt8.ofNat (second % 16 * 16 + third / 4) ::
        UInt8.ofNat (third % 4 * 64 + fourth) :: bytes)

end BearerProxy.Text.Base64Url

namespace BearerProxy.Text.Base64

def plainDigit (digit : Char) : Char :=
  match digit with
  | '-' => '+'
  | '_' => '/'
  | digit => digit

def padding (digits : Nat) : List Char :=
  List.replicate ((4 - digits % 4) % 4) '='

def encode (bytes : List UInt8) : List Char :=
  let digits := Base64Url.encode bytes
  digits.map plainDigit ++ padding digits.length

end BearerProxy.Text.Base64
