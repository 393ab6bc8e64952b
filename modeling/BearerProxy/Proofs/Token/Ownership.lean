import BearerProxy.Proofs.Token.History

/-!
Whose token a mint hands out. The cache knows credentials by their id alone, so a token is the
credential's own exactly if it was signed for a credential with the same secret and tenant.
-/

namespace BearerProxy

/-- The token verifies under the credential's secret and makes the credential's claims, nothing else. -/
structure IsOwnToken (credential : Credential) (value : String) : Prop where
  verifies : (Signature.validate value credential.secret).value = true
  claims : Signature.verifiedMembers? value credential.secret =
    some (Claims.ofCredential credential).members

theorem Signature.sign_eq_of_claims_eq {left right : Credential}
    (equal : Claims.ofCredential left = Claims.ofCredential right) : sign left = sign right := by
  simp only [Claims.ofCredential, Claims.mk.injEq] at equal
  rcases equal with ⟨id, secret, tenant⟩
  simp [sign, Claims.ofCredential, id, secret, tenant]

theorem isOwnToken_sign (credential : Credential) :
    IsOwnToken credential (Signature.sign credential) where
  verifies := Signature.validate_sign credential
  claims := by rw [Signature.verifiedMembers?_sign, if_pos rfl]

theorem isOwnToken_sign_iff (signer credential : Credential) :
    IsOwnToken credential (Signature.sign signer) ↔
      Claims.ofCredential signer = Claims.ofCredential credential := by
  constructor
  · intro own
    have claims := own.claims
    rw [Signature.verifiedMembers?_sign] at claims
    split at claims
    · exact Claims.members_injective (Option.some.inj claims)
    · cases claims
  · intro equal
    rw [Signature.sign_eq_of_claims_eq equal]
    exact isOwnToken_sign credential

/-! What a history says about its signings. -/

namespace IssuanceHistory

/-- Each signing stands under the id of its credential, which was minted for in one of the steps. -/
def Sound (history : IssuanceHistory) (steps : List IssuerStep) : Prop :=
  ∀ id signing, history.last id = some signing →
    signing.credential.id = id ∧
      signing.token.value = Signature.sign signing.credential ∧
      .mint signing.credential ∈ steps

theorem Sound.start (policy : TokenPolicy) (now : UInt64) : (start policy now).Sound [] := by
  intro id signing found
  cases found

theorem Sound.append {history : IssuanceHistory} {steps : List IssuerStep}
    (sound : history.Sound steps) (more : List IssuerStep) : history.Sound (steps ++ more) := by
  intro id signing found
  rcases sound id signing found with ⟨sameId, value, minted⟩
  exact ⟨sameId, value, List.mem_append_left more minted⟩

theorem Sound.perform {history : IssuanceHistory} {steps : List IssuerStep}
    (sound : history.Sound steps) (step : IssuerStep) :
    (history.perform step).Sound (steps ++ [step]) := by
  cases step with
  | clear =>
      intro id signing found
      cases found
  | setClock now => exact sound.append _
  | mint credential =>
      rw [IssuanceHistory.perform]
      split
      · intro id signing found
        by_cases equal : id = credential.id
        · have signed : signing = ⟨credential, history.policy.issue history.now credential⟩ := by
            simpa [sign, equal] using found.symm
          rw [signed]
          exact ⟨equal.symm, rfl, by simp⟩
        · have earlier : history.last id = some signing := by simpa [sign, equal] using found
          exact sound.append _ id signing earlier
      · exact sound.append _

theorem Sound.run {history : IssuanceHistory} {steps : List IssuerStep}
    (sound : history.Sound steps) (more : List IssuerStep) :
    (history.run more).Sound (steps ++ more) := by
  induction more generalizing history steps with
  | nil => simpa [IssuanceHistory.run] using sound
  | cons step more induction =>
      have all := induction (sound.perform step)
      rwa [List.append_assoc] at all

theorem run_snoc (history : IssuanceHistory) (steps : List IssuerStep) (step : IssuerStep) :
    history.run (steps ++ [step]) = (history.run steps).perform step := by
  simp [run]

end IssuanceHistory

/-! What a mint hands out. -/

theorem Represents.last_of_answer {clocked : ClockedIssuer} {history : IssuanceHistory}
    (represents : Represents clocked history) {credential : Credential} {token : Token}
    (answered : clocked.answer credential = .ok token) :
    ∃ signing, (history.perform (.mint credential)).last credential.id = some signing ∧
      signing.token = token := by
  rw [ClockedIssuer.answer, represents.mint_value] at answered
  rw [IssuanceHistory.perform, IssuanceHistory.signs]
  cases complete : credential.missingFields.isEmpty with
  | false => simp [complete] at answered
  | true =>
      cases reusable : history.reusable? credential.id with
      | some kept =>
          have same : kept = token := by simpa [complete, reusable] using answered
          have found := (Option.filter_eq_some_iff.mp reusable).1
          rcases Option.map_eq_some_iff.mp found with ⟨signing, last, signed⟩
          exact ⟨signing, by simpa using last, signed.trans same⟩
      | none =>
          have same : history.policy.issue history.now credential = token := by
            simpa [complete, reusable] using answered
          exact ⟨⟨credential, token⟩, by simp [IssuanceHistory.sign, same], rfl⟩

/-- A token that a mint hands out after any calls and any moves of the clock is the credential's own
if and only if the last signing for its id was for a credential with its secret and tenant. So it is
if no two credentials that were minted for share an id without sharing these. -/
theorem answer_isOwnToken_iff (policy : TokenPolicy) (start : UInt64) (steps : List IssuerStep)
    (credential : Credential) (token : Token)
    (answered : ((ClockedIssuer.start policy start).run steps).answer credential = .ok token) :
    ∃ signing,
      ((IssuanceHistory.start policy start).run (steps ++ [.mint credential])).last
          credential.id = some signing ∧
      signing.token = token ∧ signing.credential.id = credential.id ∧
      (IsOwnToken credential token.value ↔
        signing.credential.secret = credential.secret ∧
          signing.credential.tenant = credential.tenant) ∧
      ((∀ earlier, .mint earlier ∈ steps → earlier.id = credential.id →
          earlier.secret = credential.secret ∧ earlier.tenant = credential.tenant) →
        IsOwnToken credential token.value) := by
  have represents := (Represents.start policy start).run steps
  have sound := (IssuanceHistory.Sound.start policy start).run (steps ++ [.mint credential])
  rcases represents.last_of_answer answered with ⟨signing, last, signed⟩
  rw [← IssuanceHistory.run_snoc] at last
  rcases sound _ _ last with ⟨sameId, value, minted⟩
  have own : IsOwnToken credential token.value ↔
      signing.credential.secret = credential.secret ∧
        signing.credential.tenant = credential.tenant := by
    rw [← signed, value, isOwnToken_sign_iff]
    simp [Claims.ofCredential, sameId]
  refine ⟨signing, last, signed, sameId, own, ?_⟩
  intro agree
  apply own.mpr
  rw [List.nil_append] at minted
  rcases List.mem_append.mp minted with earlier | itself
  · exact agree _ earlier sameId
  · have same : signing.credential = credential := by simpa using itself
    exact ⟨congrArg _ same, congrArg _ same⟩

/-- Of two complete credentials with one id, the second is handed out the token of the first. -/
theorem answer_of_sameId (policy : TokenPolicy) (now : UInt64) (first second : Credential)
    (firstComplete : first.missingFields = []) (secondComplete : second.missingFields = [])
    (sameId : second.id = first.id)
    (fresh : policy.isFresh (policy.issue now first) now = true) :
    ((ClockedIssuer.start policy now).run [.mint first]).answer second =
      .ok (policy.issue now first) := by
  have represents := (Represents.start policy now).run [.mint first]
  have signs : (IssuanceHistory.start policy now).signs first = true := by
    rw [IssuanceHistory.signs, firstComplete]
    rfl
  have history : (IssuanceHistory.start policy now).run [.mint first] =
      (IssuanceHistory.start policy now).sign first := if_pos signs
  have reusable : ((IssuanceHistory.start policy now).sign first).reusable? second.id =
      some (policy.issue now first) := by
    rw [IssuanceHistory.reusable?, IssuanceHistory.sign, sameId]
    simpa [IssuanceHistory.start] using fresh
  have minted := represents.mint_value second
  rw [history, reusable, secondComplete] at minted
  rw [ClockedIssuer.answer, minted]
  rfl

def northTwin : Credential := { id := "twin", secret := "first-secret", tenant := "north" }

def southTwin : Credential := { id := "twin", secret := "second-secret", tenant := "south" }

theorem answer_southTwin :
    ((ClockedIssuer.start {} 1000).run [.mint northTwin]).answer southTwin =
      .ok (TokenPolicy.issue {} 1000 northTwin) :=
  answer_of_sameId {} 1000 northTwin southTwin (by decide) (by decide) rfl (by decide)

/-- The second of two credentials with one id gets a token that is not its own. -/
theorem southTwin_gets_foreign_token :
    ((ClockedIssuer.start {} 1000).run [.mint northTwin]).answer southTwin =
        .ok (TokenPolicy.issue {} 1000 northTwin) ∧
      ¬IsOwnToken southTwin (TokenPolicy.issue {} 1000 northTwin).value := by
  refine ⟨answer_southTwin, fun own => ?_⟩
  have claims := (isOwnToken_sign_iff northTwin southTwin).mp own
  exact absurd claims (by decide)

theorem answer_isOwnToken_iff_twins :
    ((ClockedIssuer.start {} 1000).run [.mint northTwin]).answer southTwin =
        .ok (TokenPolicy.issue {} 1000 northTwin) ∧
      ∃ signing,
        ((IssuanceHistory.start {} 1000).run ([.mint northTwin] ++ [.mint southTwin])).last
            southTwin.id = some signing ∧
        signing.token = TokenPolicy.issue {} 1000 northTwin ∧
        signing.credential.id = southTwin.id ∧
        (IsOwnToken southTwin (TokenPolicy.issue {} 1000 northTwin).value ↔
          signing.credential.secret = southTwin.secret ∧
            signing.credential.tenant = southTwin.tenant) ∧
        ((∀ earlier, .mint earlier ∈ [IssuerStep.mint northTwin] → earlier.id = southTwin.id →
            earlier.secret = southTwin.secret ∧ earlier.tenant = southTwin.tenant) →
          IsOwnToken southTwin (TokenPolicy.issue {} 1000 northTwin).value) :=
  ⟨answer_southTwin,
    answer_isOwnToken_iff {} 1000 [.mint northTwin] southTwin _ answer_southTwin⟩

end BearerProxy
