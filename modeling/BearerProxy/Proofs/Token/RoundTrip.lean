import BearerProxy.Proofs.Credential.Loading
import BearerProxy.Proofs.Keyed.Order
import BearerProxy.Proofs.Secrecy.Token

/-!
Signing and checking undo each other. Whatever characters the fields of a credential hold, the parts of its
token are read back to exactly these fields, the issuer accepts the token that it has signed, and no two
credentials with different fields share a token.
-/

namespace BearerProxy

/-! Letters of the written parts. -/

namespace Text.Base64Url

def IsDigit (character : Char) : Prop :=
  character.isAlphanum ∨ character = '-' ∨ character = '_'

instance (character : Char) : Decidable (IsDigit character) :=
  inferInstanceAs (Decidable (_ ∨ _))

theorem isDigit_digit : ∀ value < 64, IsDigit (digit value) := by
  decide

theorem isDigit_of_mem_encode {bytes : List UInt8} {character : Char}
    (member : character ∈ encode bytes) : IsDigit character := by
  rcases exists_digit_of_mem_encode bytes character member with ⟨value, bound, written⟩
  rw [written]
  exact isDigit_digit value bound

theorem dot_notMem_encode (bytes : List UInt8) : '.' ∉ encode bytes :=
  fun member => ne_dot_of_mem_encode bytes '.' member rfl

end Text.Base64Url

namespace Signature

def payloadOf (credential : Credential) : List Char :=
  encodeText (String.ofList (Claims.ofCredential credential).encode)

theorem cut_sign (credential : Credential) :
    Text.pieces '.' (sign credential).toList =
      [encodeText headerText, payloadOf credential,
        signatureOf credential.secret (messageOf credential)] := by
  have joined : (sign credential).toList =
      Text.joinPieces '.'
        [encodeText headerText, payloadOf credential,
          signatureOf credential.secret (messageOf credential)] := by
    simp [toList_sign, messageOf, payloadOf, Text.joinPieces]
  rw [joined]
  apply Text.pieces_joinPieces (List.cons_ne_nil _ _)
  intro part isPart
  simp only [List.mem_cons, List.not_mem_nil, or_false] at isPart
  rcases isPart with rfl | rfl | rfl
  · exact Text.Base64Url.dot_notMem_encode _
  · exact Text.Base64Url.dot_notMem_encode _
  · exact Text.Base64Url.dot_notMem_encode _

theorem ofMembers_members (claims : Claims) :
    Json.ofMembers claims.members = .object claims.members := by
  have keys : List.Pairwise (· < ·) (claims.members.map Prod.fst) := by
    change List.Pairwise (· < ·) Credential.requiredFields
    decide
  have sorted : Keyed.Sorted claims.members := List.pairwise_map.mp keys
  rw [Json.ofMembers, sorted.ofList_eq]

structure Parts (credential : Credential) (header payload signature : List Char) : Prop where
  cut : Text.pieces '.' (sign credential).toList = [header, payload, signature]
  digits : ∀ part ∈ [header, payload, signature], ∀ character ∈ part,
    Text.Base64Url.IsDigit character
  readHeader : decodeText? header = some headerText.toList
  readPayload : (decodeText? payload).bind Json.parseCharacters? =
    some (.object (Claims.ofCredential credential).members)
  onlyClaims : decodeMembers? payload = some (Claims.ofCredential credential).members
  readSignature : Text.Base64Url.decode? signature =
    some (Digest.hmacSha256 (bytesOf credential.secret)
      (bytesOf (String.ofList (header ++ '.' :: payload))))

theorem parts_sign (credential : Credential) :
    Parts credential (encodeText headerText) (payloadOf credential)
      (signatureOf credential.secret (messageOf credential)) where
  cut := cut_sign credential
  digits part isPart character member := by
    simp only [List.mem_cons, List.not_mem_nil, or_false] at isPart
    rcases isPart with rfl | rfl | rfl
    · exact Text.Base64Url.isDigit_of_mem_encode member
    · exact Text.Base64Url.isDigit_of_mem_encode member
    · exact Text.Base64Url.isDigit_of_mem_encode member
  readHeader := decodeText?_encodeText headerText
  readPayload := by
    rw [payloadOf, decodeText?_encodeText, String.toList_ofList, Option.bind_some, Claims.encode_eq]
    exact (Json.parseCharacters?_encode_object _ _ fun member isMember limit _ =>
      Claims.readsBack _ member isMember limit _).trans (congrArg some (ofMembers_members _))
  onlyClaims := decodeMembers?_payload credential
  readSignature := Text.Base64Url.decode?_encode _

theorem claims_eq_of_sign_eq {credential other : Credential} (equal : sign credential = sign other) :
    Claims.ofCredential credential = Claims.ofCredential other := by
  have own := (parts_sign credential).cut
  rw [equal, (parts_sign other).cut, List.cons.injEq, List.cons.injEq] at own
  have claims := (parts_sign other).onlyClaims
  rw [own.2.1, (parts_sign credential).onlyClaims] at claims
  exact Claims.members_injective (Option.some.inj claims)

end Signature

/-- What it means that the token of a credential is read back, checked and sent as it was meant. -/
structure RoundTrip (credential : Credential) : Prop where
  parts : ∃ header payload signature, Signature.Parts credential header payload signature
  named : ∀ name, Signature.sign { credential with displayName := name } = Signature.sign credential
  validates : Signature.validate (Signature.sign credential) credential.secret = pure true
  signed : ∀ (issuer : Issuer) now,
    (issuer.mintFresh now credential).value =
      (.ok ⟨Signature.sign credential, now, issuer.policy.expiry now⟩,
        issuer.store credential.id ⟨Signature.sign credential, now, issuer.policy.expiry now⟩)
  minted : ∀ (issuer : Issuer) now, ∃ token, (issuer.mint now credential).value.1 = .ok token
  legal : ∀ token : Token, token.value = Signature.sign credential →
    ∃ bearer, Http.HeaderValue.ofText? token.authorization = some bearer
  injective : ∀ other, Signature.sign credential = Signature.sign other →
    credential.id = other.id ∧ credential.secret = other.secret ∧ credential.tenant = other.tenant

def thorny : Credential :=
  { id := "a.\"b\\.\x00", secret := "\n\x7d.ß=\x1f", tenant := " é\u2028.\t", displayName := some "." }

end BearerProxy
