import BearerProxy.Credential.Record
import BearerProxy.Digest.Sha256
import BearerProxy.Journal
import BearerProxy.Json.Parser
import BearerProxy.Json.Value
import BearerProxy.Text
import BearerProxy.Text.Base64

/-!
Signed tokens in the compact form of JSON Web Signature: header, payload and signature, each in
base64url, between dots. The signature is HMAC-SHA256 under the credential's own secret.
-/

namespace BearerProxy

structure Claims where
  clientId : String
  clientSecret : String
  tenant : String
  deriving DecidableEq, Repr

namespace Claims

def ofCredential (credential : Credential) : Claims :=
  ⟨credential.id, credential.secret, credential.tenant⟩

def encode (claims : Claims) : List Char :=
  let member (key value : String) : List Char :=
    Json.encodeString key ++ ':' :: Json.encodeString value
  '\x7b' :: member Credential.idField claims.clientId ++
    ',' :: member Credential.secretField claims.clientSecret ++
    ',' :: member Credential.tenantField claims.tenant ++ ['\x7d']

def inspect (claims : Claims) : String :=
  Text.inspectFields "TokenClaims"
    [("client_id", Text.quote claims.clientId),
     ("client_secret", Text.quote Text.redacted),
     ("tenant", Text.quote claims.tenant)]

end Claims

namespace Signature

def bytesOf (text : String) : List UInt8 := text.toUTF8.toList

def encodeText (text : String) : List Char :=
  Text.Base64Url.encode (bytesOf text)

def headerText : String := "\x7b\"typ\":\"JWT\",\"alg\":\"HS256\"\x7d"

def signatureOf (secret : String) (message : List Char) : List Char :=
  Text.Base64Url.encode (Digest.hmacSha256 (bytesOf secret) (bytesOf (String.ofList message)))

def sign (credential : Credential) : String :=
  let payload := String.ofList (Claims.ofCredential credential).encode
  let message := encodeText headerText ++ '.' :: encodeText payload
  String.ofList (message ++ '.' :: signatureOf credential.secret message)

/-! Checking a token. -/

def decodeText? (part : List Char) : Option (List Char) := do
  let bytes ← Text.Base64Url.decode? part
  return (← String.fromUTF8? ⟨bytes.toArray⟩).toList

def decodeMembers? (part : List Char) : Option (List (String × Json)) :=
  (decodeText? part).bind Json.parseMembers?

def headerParameters : List String :=
  ["typ", "alg", "cty", "jku", "jwk", "kid", "x5u", "x5c", "x5t", "x5t#S256"]

def decodeHeader? (part : List Char) : Option (List (String × Json)) := do
  let text ← decodeText? part
  match Json.parseCharacters? text with
  | some (.array values) =>
      if values.length = headerParameters.length then some (headerParameters.zip values) else none
  | _ => Json.parseMembers? text

def writtenOnce (keys : List String) (members : List (String × Json)) : Bool :=
  keys.all fun key => (members.filter fun member => member.1 == key).length ≤ 1

def isOptionalText : Option Json → Bool
  | none | some .null | some (.string _) => true
  | _ => false

def isTextList : Json → Bool
  | .array items => items.all fun item => item.string?.isSome
  | _ => false

def isOptionalTextList : Option Json → Bool
  | none | some .null => true
  | some value => isTextList value

def textParameters : List String := ["typ", "cty", "jku", "kid", "x5u", "x5t", "x5t#S256"]

def namesAlgorithm : Option Json → Bool
  | some (.string name) => name == "HS256"
  | some (.object [(name, .null)]) => name == "HS256"
  | _ => false

def keyTypes : List (String × List String) :=
  [("EC", ["crv", "x", "y"]), ("RSA", ["n", "e"]), ("oct", ["k"]), ("OKP", ["crv", "x"])]

def curves : List String := ["P-256", "P-384", "P-521", "Ed25519"]

def isKey (members : List (String × Json)) : Bool :=
  let hasParameter (name : String) : Bool :=
    match Keyed.lookup? name members with
    | some (.string value) => name ≠ "crv" || curves.contains value
    | _ => false
  let parameters := (Keyed.lookup? "kty" members).bind fun type =>
    type.string?.bind fun name => keyTypes.lookup name
  (parameters.any fun parameters => parameters.all hasParameter) &&
    ["use", "alg", "kid", "x5u", "x5t", "x5t#S256"].all (fun key =>
      isOptionalText (Keyed.lookup? key members)) &&
    ["key_ops", "x5c"].all fun key => isOptionalTextList (Keyed.lookup? key members)

def isOptionalKey : Option Json → Bool
  | none | some .null => true
  | some (.object members) => isKey members
  | _ => false

/-- Headers name the algorithm and hold texts where texts belong; unknown parameters do not matter. -/
def acceptsHeader (members : List (String × Json)) : Bool :=
  writtenOnce headerParameters members &&
    namesAlgorithm (Keyed.lookup? "alg" members) &&
    textParameters.all (fun key => isOptionalText (Keyed.lookup? key members)) &&
    isOptionalTextList (Keyed.lookup? "x5c" members) && isOptionalKey (Keyed.lookup? "jwk" members)

def registeredClaims : List String := ["exp", "nbf", "sub", "iss", "aud"]

def acceptsTime : Option Json → Bool
  | some (.array (_ :: _)) | some (.object (_ :: _)) => false
  | _ => true

def acceptsSubject : Option Json → Bool
  | some (.array _) | some (.object _) => false
  | _ => true

def acceptsAudience : Option Json → Bool
  | some (.string _) => false
  | some value => !isTextList value
  | none => true

/-- Times, subject and issuer are not checked beyond their form. -/
def acceptsRegisteredClaims (members : List (String × Json)) : Bool :=
  writtenOnce registeredClaims members &&
    acceptsTime (Keyed.lookup? "exp" members) && acceptsTime (Keyed.lookup? "nbf" members) &&
    acceptsSubject (Keyed.lookup? "sub" members) && acceptsAudience (Keyed.lookup? "aud" members)

def verifiedMembers? (token secret : String) : Option (List (String × Json)) := do
  let (message, signature) ← Text.splitLast? (· == '.') token.toList
  let (header, payload) ← Text.splitLast? (· == '.') message
  let headerMembers ← decodeHeader? header
  if !acceptsHeader headerMembers then none
  if signature ≠ signatureOf secret message then none
  let members ← decodeMembers? payload
  if acceptsRegisteredClaims members then some members else none

/-- Whether a token is signed under the secret and makes every claim that it has to make. -/
def validate (token secret : String) : Reported Bool :=
  match verifiedMembers? token secret with
  | none => do
      debugEvent .token "token validation failed"
      return false
  | some members =>
      match Credential.requiredFields.find? fun field => (Keyed.lookup? field members).isNone with
      | some field => do
          debugEvent .token "decoded token missing required claim" [("field", .text field)]
          return false
      | none => return true

end Signature

end BearerProxy
