import BearerProxy.Proofs.Json.RoundTrip
import BearerProxy.Proofs.Text.Base64Url
import BearerProxy.Proofs.Text.Pieces
import BearerProxy.Proofs.Text.Utf8
import BearerProxy.Token.Signature

/-!
A signed token verifies under the secret it is signed with, and says exactly the claims of its
credential.
-/

namespace BearerProxy

def Claims.members (claims : Claims) : List (String × Json) :=
  [(Credential.idField, .string claims.clientId),
   (Credential.secretField, .string claims.clientSecret),
   (Credential.tenantField, .string claims.tenant)]

theorem Claims.members_injective {left right : Claims} (equal : left.members = right.members) :
    left = right := by
  cases left
  cases right
  simp_all [members]

theorem Claims.encode_eq (claims : Claims) :
    claims.encode = Json.encode (.object claims.members) := by
  simp [encode, members, Json.encode, Json.encodeMembers]

theorem Claims.readsBack (claims : Claims) (member : String × Json)
    (isMember : member ∈ claims.members) (limit depth : Nat) :
    Json.ReadsBack (Json.readValue? limit depth) member.2 := by
  simp only [members, List.mem_cons, List.not_mem_nil, or_false] at isMember
  rcases isMember with rfl | rfl | rfl
  · exact Json.readsBack_string _ _ _
  · exact Json.readsBack_string _ _ _
  · exact Json.readsBack_string _ _ _

theorem Claims.parseMembers?_encode (claims : Claims) :
    Json.parseMembers? claims.encode = some claims.members := by
  rw [claims.encode_eq]
  exact Json.parseMembers?_encode_object _ _ fun member isMember limit =>
    claims.readsBack member isMember limit _

namespace Signature

def headerMembers : List (String × Json) := [("typ", .string "JWT"), ("alg", .string "HS256")]

theorem headerText_toList : headerText.toList = Json.encode (.object headerMembers) := by
  decide

theorem headerMembers_readBack (member : String × Json) (isMember : member ∈ headerMembers)
    (limit depth : Nat) : Json.ReadsBack (Json.readValue? limit depth) member.2 := by
  simp only [headerMembers, List.mem_cons, List.not_mem_nil, or_false] at isMember
  rcases isMember with rfl | rfl
  · exact Json.readsBack_string _ _ _
  · exact Json.readsBack_string _ _ _

theorem decodeText?_encodeText (text : String) :
    decodeText? (encodeText text) = some text.toList := by
  rw [decodeText?, encodeText, Text.Base64Url.decode?_encode]
  simp only [bytesOf, Option.bind_eq_bind, Option.bind_some, Text.fromUTF8?_toList_toUTF8]
  rfl

theorem decodeHeader?_encodeText : decodeHeader? (encodeText headerText) = some headerMembers := by
  have whole : Json.parseCharacters? headerText.toList = some (Json.ofMembers headerMembers) := by
    rw [headerText_toList]
    exact Json.parseCharacters?_encode_object _ _ fun member isMember limit _ =>
      headerMembers_readBack member isMember limit _
  have parts : Json.parseMembers? headerText.toList = some headerMembers := by
    rw [headerText_toList]
    exact Json.parseMembers?_encode_object _ _ fun member isMember limit =>
      headerMembers_readBack member isMember limit _
  simp [decodeHeader?, decodeText?_encodeText, whole, parts, Json.ofMembers]

theorem acceptsHeader_headerMembers : acceptsHeader headerMembers = true := by
  decide

theorem acceptsRegisteredClaims_members (claims : Claims) :
    acceptsRegisteredClaims claims.members = true := by
  simp [acceptsRegisteredClaims, writtenOnce, registeredClaims, Claims.members, Keyed.lookup?,
    Credential.idField, Credential.secretField, Credential.tenantField, acceptsTime,
    acceptsSubject, acceptsAudience]

def messageOf (credential : Credential) : List Char :=
  encodeText headerText ++
    '.' :: encodeText (String.ofList (Claims.ofCredential credential).encode)

theorem toList_sign (credential : Credential) :
    (sign credential).toList =
      messageOf credential ++ '.' :: signatureOf credential.secret (messageOf credential) := by
  simp [sign, messageOf]

theorem isDot_of_mem_encode (bytes : List UInt8) (character : Char)
    (member : character ∈ Text.Base64Url.encode bytes) : (character == '.') = false := by
  simpa using Text.Base64Url.ne_dot_of_mem_encode bytes character member

theorem splitLast?_sign (credential : Credential) :
    Text.splitLast? (· == '.') (sign credential).toList =
      some (messageOf credential, signatureOf credential.secret (messageOf credential)) := by
  rw [toList_sign]
  exact Text.splitLast?_append _ _ _ '.' rfl (isDot_of_mem_encode _)

theorem splitLast?_messageOf (credential : Credential) :
    Text.splitLast? (· == '.') (messageOf credential) =
      some (encodeText headerText,
        encodeText (String.ofList (Claims.ofCredential credential).encode)) :=
  Text.splitLast?_append _ _ _ '.' rfl (isDot_of_mem_encode _)

theorem decodeMembers?_payload (credential : Credential) :
    decodeMembers? (encodeText (String.ofList (Claims.ofCredential credential).encode)) =
      some (Claims.ofCredential credential).members := by
  rw [decodeMembers?, decodeText?_encodeText]
  simp [Claims.parseMembers?_encode]

/-- A token tells its claims under every secret that gives the same signature, and under no other. -/
theorem verifiedMembers?_sign (credential : Credential) (secret : String) :
    verifiedMembers? (sign credential) secret =
      if signatureOf credential.secret (messageOf credential) =
          signatureOf secret (messageOf credential) then
        some (Claims.ofCredential credential).members
      else none := by
  by_cases equal : signatureOf credential.secret (messageOf credential) =
      signatureOf secret (messageOf credential)
  · simp [verifiedMembers?, splitLast?_sign, splitLast?_messageOf, decodeHeader?_encodeText,
      acceptsHeader_headerMembers, decodeMembers?_payload, acceptsRegisteredClaims_members, equal]
  · simp [verifiedMembers?, splitLast?_sign, splitLast?_messageOf, equal]

theorem validate_sign_eq (credential : Credential) :
    validate (sign credential) credential.secret = pure true := by
  rw [validate, verifiedMembers?_sign, if_pos rfl]
  rfl

theorem validate_sign (credential : Credential) :
    (validate (sign credential) credential.secret).value = true :=
  congrArg Reported.value (validate_sign_eq credential)

end Signature

end BearerProxy
