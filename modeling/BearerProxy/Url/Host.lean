import BearerProxy.Net.Address
import BearerProxy.Text
import BearerProxy.Url.DomainName

/-!
Hosts of URLs: addresses in brackets, names, and names that must be read as addresses. What can be wrong with them and
with the rest of a URL is a `Fault`.
-/

namespace BearerProxy.Url

/-! Percent-encoding of characters that may not stand in a part of a URL, and its decoding. -/

def hexDigit (value : Nat) : Char :=
  (Nat.digitChar value).toUpper

def percentByte (byte : UInt8) : List Char :=
  ['%', hexDigit (byte.toNat / 16), hexDigit (byte.toNat % 16)]

/-- A character as it stands in a part of a URL: kept if it is visible ASCII and not in the given set,
else the bytes of its UTF-8 form. -/
def percentCharacter (encoded : Char → Bool) (character : Char) : List Char :=
  if 0x20 ≤ character.toNat && character.toNat < 0x7F && !encoded character then [character]
  else (String.singleton character).toUTF8.toList.flatMap percentByte

def percentEncode (encoded : Char → Bool) (characters : List Char) : List Char :=
  characters.flatMap (percentCharacter encoded)

def encodedInFragment (character : Char) : Bool :=
  [' ', '"', '<', '>', '\x60'].contains character

def encodedInPath (character : Char) : Bool :=
  encodedInFragment character || ['#', '?', '\x7b', '\x7d'].contains character

def encodedInUserinfo (character : Char) : Bool :=
  encodedInPath character || ['/', ':', ';', '=', '@', '[', '\\', ']', '^', '|'].contains character

def encodedInQuery (character : Char) : Bool :=
  [' ', '"', '#', '<', '>'].contains character

def encodedInSpecialQuery (character : Char) : Bool :=
  encodedInQuery character || character == '\''

def percentDecode : List Char → List UInt8
  | [] => []
  | '%' :: high :: low :: rest =>
      match Text.digitValue? 16 high, Text.digitValue? 16 low with
      | some high, some low => UInt8.ofNat (high * 16 + low) :: percentDecode rest
      | _, _ => 0x25 :: percentDecode (high :: low :: rest)
  | character :: rest => (String.singleton character).toUTF8.toList ++ percentDecode rest

/-! Hosts. -/

inductive Fault
  | emptyHost
  | illegalDomainName
  | illegalPort
  | illegalIpv4
  | illegalIpv6
  | illegalDomainCharacter
  | relativeWithoutBase
  deriving DecidableEq, Repr, Inhabited

def Fault.message : Fault → String
  | .emptyHost => "empty host"
  | .illegalDomainName => "invalid international domain name"
  | .illegalPort => "invalid port number"
  | .illegalIpv4 => "invalid IPv4 address"
  | .illegalIpv6 => "invalid IPv6 address"
  | .illegalDomainCharacter => "invalid domain character"
  | .relativeWithoutBase => "relative URL without a base"

inductive Host
  | domain (name : String)
  | ipv4 (address : Net.Ipv4)
  | ipv6 (address : Net.Ipv6)
  deriving DecidableEq, Repr

namespace Host

def text : Host → String
  | .domain name => name
  | .ipv4 address => address.text
  | .ipv6 address => "[" ++ address.text ++ "]"

def ofBrackets (characters : List Char) : Except Fault Host :=
  if characters.getLast? = some ']' then
    match Net.Ipv6.ofText? (characters.drop 1).dropLast with
    | some address => .ok (.ipv6 address)
    | none => .error .illegalIpv6
  else .error .illegalIpv6

/-- The host of a URL with one of the special schemes. A name whose last label is a number must be an
IPv4 address. -/
def ofSpecialText (characters : List Char) : Except Fault Host :=
  if characters.head? = some '[' then ofBrackets characters
  else
    let decoded := String.fromUTF8? ⟨(percentDecode characters).toArray⟩
    match decoded.bind fun text => DomainName.toAscii? text.toList with
    | none => .error .illegalDomainName
    | some [] => .error .emptyHost
    | some name =>
        if Net.Ipv4.endsInNumber name then
          match Net.Ipv4.ofLenientText? name with
          | some address => .ok (.ipv4 address)
          | none => .error .illegalIpv4
        else .ok (.domain (String.ofList name))

def isForbiddenOpaque (character : Char) : Bool :=
  ['\x00', '\t', '\n', '\r', ' ', '#', '/', ':', '<', '>', '?', '@', '[', '\\', ']', '^', '|'].contains
    character

def ofOpaqueText (characters : List Char) : Except Fault Host :=
  if characters.head? = some '[' then ofBrackets characters
  else if characters.any isForbiddenOpaque then .error .illegalDomainCharacter
  else .ok (.domain (String.ofList (percentEncode (fun _ => false) characters)))

end Host

end BearerProxy.Url
