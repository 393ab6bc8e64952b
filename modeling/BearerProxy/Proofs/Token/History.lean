import BearerProxy.Dispatch
import BearerProxy.Proofs.Token.Signature

/-!
What an issuer hands out, told from its past alone: for each id, the last signing since the cache was
cleared. An issuer agrees with its past after any calls and any moves of its clock.
-/

namespace BearerProxy

/-! One mint. -/

def TokenPolicy.issue (policy : TokenPolicy) (now : UInt64) (credential : Credential) : Token :=
  ⟨Signature.sign credential, now, policy.expiry now⟩

namespace Issuer

theorem mintFresh_value (issuer : Issuer) (now : UInt64) (credential : Credential) :
    (issuer.mintFresh now credential).value =
      (.ok (issuer.policy.issue now credential),
        issuer.store credential.id (issuer.policy.issue now credential)) := by
  simp [mintFresh, Signature.validate_sign, TokenPolicy.issue]

theorem mint_value (issuer : Issuer) (now : UInt64) (credential : Credential) :
    (issuer.mint now credential).value =
      if credential.missingFields.isEmpty then
        match (issuer.cached? credential.id).filter fun token => issuer.policy.isFresh token now with
        | some token => (.ok token, issuer)
        | none =>
            (.ok (issuer.policy.issue now credential),
              issuer.store credential.id (issuer.policy.issue now credential))
      else (.error (.incompleteCredential credential.missingFields), issuer) := by
  rw [mint]
  cases complete : credential.missingFields.isEmpty with
  | false => simp
  | true =>
      simp only [Bool.not_true, Bool.false_eq_true, if_false, if_true]
      cases (issuer.cached? credential.id).filter fun token => issuer.policy.isFresh token now with
      | some token => rfl
      | none => exact mintFresh_value issuer now credential

theorem cached?_store (issuer : Issuer) (id other : String) (token : Token) :
    (issuer.store id token).cached? other =
      if other = id then some token else issuer.cached? other := by
  by_cases equal : other = id
  · simp [cached?, store, equal]
  · have different : (id == other) = false := beq_false_of_ne (Ne.symm equal)
    have kept : (issuer.cache.filter fun entry => entry.1 != id).find? (·.1 == other) =
        issuer.cache.find? (·.1 == other) := by
      rw [List.find?_filter]
      congr 1
      funext entry
      by_cases here : entry.1 = other
      · simp [here, equal]
      · simp [here]
    rw [cached?, store, List.find?_cons, different, kept, if_neg equal]
    rfl

end Issuer

/-! Runs and histories. -/

inductive IssuerStep
  | mint (credential : Credential)
  | clear
  | setClock (now : UInt64)

namespace ClockedIssuer

def start (policy : TokenPolicy) (now : UInt64) : ClockedIssuer := ⟨Issuer.new policy, now⟩

def answer (clocked : ClockedIssuer) (credential : Credential) : Except Failure Token :=
  (clocked.issuer.mint clocked.now credential).value.1

def perform (clocked : ClockedIssuer) : IssuerStep → ClockedIssuer
  | .mint credential =>
      { clocked with issuer := (clocked.issuer.mint clocked.now credential).value.2 }
  | .clear => { clocked with issuer := clocked.issuer.clear.value }
  | .setClock now => { clocked with now }

def run (clocked : ClockedIssuer) (steps : List IssuerStep) : ClockedIssuer :=
  steps.foldl perform clocked

end ClockedIssuer

structure Signing where
  credential : Credential
  token : Token

/-- For each id, the last signing since the cache was cleared. -/
structure IssuanceHistory where
  policy : TokenPolicy
  now : UInt64
  last : String → Option Signing

namespace IssuanceHistory

def start (policy : TokenPolicy) (now : UInt64) : IssuanceHistory := ⟨policy, now, fun _ => none⟩

/-- The token of the last signing, unless the margin before its expiry has begun. -/
def reusable? (history : IssuanceHistory) (id : String) : Option Token :=
  ((history.last id).map Signing.token).filter fun token =>
    history.policy.isFresh token history.now

def signs (history : IssuanceHistory) (credential : Credential) : Bool :=
  credential.missingFields.isEmpty && (history.reusable? credential.id).isNone

def sign (history : IssuanceHistory) (credential : Credential) : IssuanceHistory :=
  { history with
    last := fun id =>
      if id = credential.id then
        some ⟨credential, history.policy.issue history.now credential⟩
      else history.last id }

def perform (history : IssuanceHistory) : IssuerStep → IssuanceHistory
  | .mint credential => if history.signs credential then history.sign credential else history
  | .clear => { history with last := fun _ => none }
  | .setClock now => { history with now }

def run (history : IssuanceHistory) (steps : List IssuerStep) : IssuanceHistory :=
  steps.foldl perform history

end IssuanceHistory

/-- The issuer keeps exactly the tokens of the last signings. -/
structure Represents (clocked : ClockedIssuer) (history : IssuanceHistory) : Prop where
  policy : clocked.issuer.policy = history.policy
  now : clocked.now = history.now
  cached : ∀ id, clocked.issuer.cached? id = (history.last id).map Signing.token

namespace Represents

variable {clocked : ClockedIssuer} {history : IssuanceHistory}

theorem start (policy : TokenPolicy) (now : UInt64) :
    Represents (.start policy now) (.start policy now) :=
  ⟨rfl, rfl, fun _ => rfl⟩

theorem reusable?_eq (represents : Represents clocked history) (id : String) :
    ((clocked.issuer.cached? id).filter fun token =>
        clocked.issuer.policy.isFresh token clocked.now) = history.reusable? id := by
  rw [represents.cached, represents.policy, represents.now]
  rfl

/-- What a mint answers and leaves behind, in terms of the history. -/
theorem mint_value (represents : Represents clocked history) (credential : Credential) :
    (clocked.issuer.mint clocked.now credential).value =
      if credential.missingFields.isEmpty then
        match history.reusable? credential.id with
        | some token => (.ok token, clocked.issuer)
        | none =>
            (.ok (history.policy.issue history.now credential),
              clocked.issuer.store credential.id (history.policy.issue history.now credential))
      else (.error (.incompleteCredential credential.missingFields), clocked.issuer) := by
  rw [Issuer.mint_value, represents.reusable?_eq, represents.policy, represents.now]

theorem perform (represents : Represents clocked history) (step : IssuerStep) :
    Represents (clocked.perform step) (history.perform step) := by
  cases step with
  | clear => exact ⟨represents.policy, represents.now, fun _ => rfl⟩
  | setClock now => exact ⟨represents.policy, rfl, represents.cached⟩
  | mint credential =>
      have minted := represents.mint_value credential
      rw [ClockedIssuer.perform, IssuanceHistory.perform, minted, IssuanceHistory.signs]
      cases complete : credential.missingFields.isEmpty with
      | false => simpa using represents
      | true =>
          cases reusable : history.reusable? credential.id with
          | some token => simpa using represents
          | none =>
              simp only [Bool.true_and, Option.isNone_none, if_true]
              refine ⟨represents.policy, represents.now, fun id => ?_⟩
              rw [Issuer.cached?_store, represents.cached, IssuanceHistory.sign]
              by_cases equal : id = credential.id
              · simp [equal]
              · simp [equal]

theorem run (represents : Represents clocked history) (steps : List IssuerStep) :
    Represents (clocked.run steps) (history.run steps) := by
  induction steps generalizing clocked history with
  | nil => exact represents
  | cons step steps induction => exact induction (represents.perform step)

end Represents

end BearerProxy
