import BearerProxy.Proofs.Http.Headers
import BearerProxy.Proofs.Secrecy.Rotation
import BearerProxy.Proofs.Text.Blank
import BearerProxy.Proofs.Token.History

/-!
Tokens for credentials that differ in nothing but their secrets. Every signed token can be sent, so that no
step after the signing depends on what the token is, and the issuer looks at times only.
-/

namespace BearerProxy

/-! A signed token can stand in a header field as it is. -/

namespace Signature

theorem mem_sign {credential : Credential} {character : Char}
    (member : character ∈ (sign credential).toList) :
    character = '.' ∨ ∃ value < 64, character = Text.Base64Url.digit value := by
  rw [toList_sign, messageOf, encodeText, encodeText, signatureOf] at member
  simp only [List.mem_append, List.mem_cons] at member
  rcases member with (header | dot | payload) | dot | signature
  · exact .inr (Text.Base64Url.exists_digit_of_mem_encode _ character header)
  · exact .inl dot
  · exact .inr (Text.Base64Url.exists_digit_of_mem_encode _ character payload)
  · exact .inl dot
  · exact .inr (Text.Base64Url.exists_digit_of_mem_encode _ character signature)

theorem dot_mem_sign (credential : Credential) : '.' ∈ (sign credential).toList := by
  rw [toList_sign]
  exact List.mem_append_right _ List.mem_cons_self

theorem visible_digit : ∀ value < 64, ¬Text.isBlank (Text.Base64Url.digit value) := by
  decide

theorem legal_digit : ∀ value < 64,
    (String.utf8EncodeChar (Text.Base64Url.digit value)).all Http.isValueByte := by
  decide

theorem visible_of_mem_sign (credential : Credential) :
    ∀ character ∈ (sign credential).toList, ¬Text.isBlank character := by
  intro character member
  rcases mem_sign member with dot | ⟨value, bound, digit⟩
  · rw [dot]
    decide
  · rw [digit]
    exact visible_digit value bound

theorem legal_of_mem_sign (credential : Credential) :
    ∀ character ∈ (sign credential).toList,
      (String.utf8EncodeChar character).all Http.isValueByte := by
  intro character member
  rcases mem_sign member with dot | ⟨value, bound, digit⟩
  · rw [dot]
    decide
  · rw [digit]
    exact legal_digit value bound

end Signature

structure Sendable (value : String) : Prop where
  trimmed : Text.trimmed? value = some value
  legal : ∃ bearer, Http.HeaderValue.ofText? ("Bearer " ++ value) = some bearer

theorem Signature.sendable_sign (credential : Credential) : Sendable (sign credential) where
  trimmed := by
    have visible := visible_of_mem_sign credential
    have notBlank : Text.isBlankText (sign credential) = false := by
      rw [Text.isBlankText, List.all_eq_false]
      exact ⟨'.', dot_mem_sign credential, by decide⟩
    rw [Text.trimmed?, notBlank, Text.trim_of_visible visible]
    rfl
  legal := by
    refine ⟨_, Http.HeaderValue.ofText?_of_legal ?_⟩
    intro character member
    rw [String.toList_append, List.mem_append] at member
    rcases member with scheme | signed
    · have all : "Bearer ".toList.all fun character =>
          (String.utf8EncodeChar character).all Http.isValueByte := by decide
      exact List.all_eq_true.mp all character scheme
    · exact legal_of_mem_sign credential character signed

/-! Tokens and issuers. -/

structure Token.Alike (one other : Token) : Prop where
  mintedAt : one.mintedAt = other.mintedAt
  expiresAt : one.expiresAt = other.expiresAt
  sendable : Sendable one.value
  otherSendable : Sendable other.value

theorem Token.Alike.inspect {one other : Token} (alike : one.Alike other) :
    one.inspect = other.inspect := by
  rw [Token.inspect, Token.inspect, alike.mintedAt, alike.expiresAt]

structure Issuer.Alike (one other : Issuer) : Prop where
  policy : one.policy = other.policy
  cache : List.Forall₂ (Paired Eq Token.Alike) one.cache other.cache

namespace Issuer.Alike

variable {one other : Issuer}

theorem new (policy : TokenPolicy) : (Issuer.new policy).Alike (Issuer.new policy) where
  policy := rfl
  cache := .nil

theorem stats (alike : one.Alike other) (now : UInt64) : one.stats now = other.stats now := by
  have fresh := filter_of_forall₂ alike.cache
    (fun entry => one.policy.isFresh entry.2 now) (fun entry => other.policy.isFresh entry.2 now) (by
      intro entry otherEntry same
      rw [TokenPolicy.isFresh, TokenPolicy.isFresh, same.second.expiresAt, alike.policy])
  rw [Issuer.stats, Issuer.stats, fresh.length_eq, alike.cache.length_eq]

theorem inspect (alike : one.Alike other) (now : UInt64) : one.inspect now = other.inspect now := by
  rw [Issuer.inspect, Issuer.inspect, alike.policy, alike.stats]

theorem store (alike : one.Alike other) (id : String) {token otherToken : Token}
    (same : token.Alike otherToken) : (one.store id token).Alike (other.store id otherToken) where
  policy := alike.policy
  cache := by
    apply List.Forall₂.cons ⟨rfl, same⟩
    apply filter_of_forall₂ alike.cache
    intro entry otherEntry same
    rw [same.first]

theorem reusable (alike : one.Alike other) (id : String) (now : UInt64) :
    Option.Rel Token.Alike
      ((one.cached? id).filter fun token => one.policy.isFresh token now)
      ((other.cached? id).filter fun token => other.policy.isFresh token now) := by
  have found := find?_of_forall₂ alike.cache (fun entry => entry.1 == id)
    (fun entry => entry.1 == id) (by
      intro entry otherEntry same
      rw [same.first])
  rw [Issuer.cached?, Issuer.cached?]
  generalize one.cache.find? _ = kept at found ⊢
  generalize other.cache.find? _ = otherKept at found ⊢
  cases found with
  | none => exact .none
  | some same =>
      simp only [Option.map_some, Option.filter_some, TokenPolicy.isFresh, same.second.expiresAt,
        alike.policy]
      split
      · exact .some same.second
      · exact .none

theorem mintFresh (alike : one.Alike other) (now : UInt64) {credential otherCredential : Credential}
    (same : credential.Alike otherCredential) :
    Reported.Alike (Paired (Agree Token.Alike) Issuer.Alike) (one.mintFresh now credential)
      (other.mintFresh now otherCredential) := by
  rw [Issuer.mintFresh, Issuer.mintFresh]
  simp only [Signature.validate_sign_eq, pure_bind, if_true, same.label, same.id, alike.policy]
  apply Reported.Alike.after
  intro _
  have issued : Token.Alike ⟨Signature.sign credential, now, other.policy.expiry now⟩
      ⟨Signature.sign otherCredential, now, other.policy.expiry now⟩ :=
    { mintedAt := rfl
      expiresAt := rfl
      sendable := Signature.sendable_sign credential
      otherSendable := Signature.sendable_sign otherCredential }
  exact .pure ⟨.ok issued, alike.store otherCredential.id issued⟩

theorem mint (alike : one.Alike other) (now : UInt64) {credential otherCredential : Credential}
    (same : credential.Alike otherCredential) :
    Reported.Alike (Paired (Agree Token.Alike) Issuer.Alike) (one.mint now credential)
      (other.mint now otherCredential) := by
  rw [Issuer.mint, Issuer.mint]
  simp only [same.missingFields]
  split
  · rw [same.label]
    exact .after _ fun _ => .pure ⟨.error _, alike⟩
  · have kept := alike.reusable otherCredential.id now
    rw [same.id]
    generalize (one.cached? otherCredential.id).filter _ = reused at kept ⊢
    generalize (other.cached? otherCredential.id).filter _ = otherReused at kept ⊢
    cases kept with
    | none => exact alike.mintFresh now same
    | some sameToken =>
        simp only [same.label]
        exact .after _ fun _ => .pure ⟨.ok sameToken, alike⟩

theorem clear (alike : one.Alike other) :
    Reported.Alike Issuer.Alike one.clear other.clear := by
  rw [Issuer.clear, Issuer.clear, alike.cache.length_eq]
  exact .after _ fun _ => .pure { alike with cache := .nil }

end Issuer.Alike

structure ClockedIssuer.Alike (one other : ClockedIssuer) : Prop where
  issuer : one.issuer.Alike other.issuer
  now : one.now = other.now

theorem ClockedIssuer.Alike.mint {one other : ClockedIssuer} (alike : one.Alike other)
    {member otherMember : Member} (same : member.Alike otherMember) :
    Reported.Alike (Paired (Agree Token.Alike) ClockedIssuer.Alike)
      (ClockedIssuer.source.mint member one) (ClockedIssuer.source.mint otherMember other) := by
  rw [ClockedIssuer.source]
  simp only [alike.now]
  apply Reported.Alike.bind (alike.issuer.mint other.now same.credential)
  intro minted otherMinted both
  exact .pure ⟨both.first, both.second, rfl⟩

end BearerProxy
