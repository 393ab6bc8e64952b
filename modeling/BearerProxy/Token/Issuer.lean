import BearerProxy.Failure
import BearerProxy.Token.Signature

/-!
The token issuer: mints a token for a credential, keeps it under the credential's id and hands it out
again as long as it is fresh. Time is an argument of each operation.
-/

namespace BearerProxy

/-! Tokens and how long they are used: for a lifetime, but only up to a margin before its end. -/

/-- Lifetime of a token and the margin before its end in which a new one is minted, in seconds. -/
structure TokenPolicy where
  lifetime : UInt64 := 3600
  margin : UInt64 := 300
  deriving DecidableEq, Repr

structure Token where
  value : String
  mintedAt : UInt64
  expiresAt : UInt64
  deriving DecidableEq, Repr

namespace Token

def authorization (token : Token) : String :=
  "Bearer " ++ token.value

def inspect (token : Token) : String :=
  Text.inspectFields "Token"
    [("value", Text.quote Text.redacted),
     ("minted_at", toString token.mintedAt.toNat),
     ("expires_at", toString token.expiresAt.toNat)]

end Token

namespace TokenPolicy

def validate (policy : TokenPolicy) : Except Failure Unit :=
  if policy.lifetime = 0 then .error (.settings .zeroTokenLifetime)
  else if policy.lifetime ≤ policy.margin then
    .error (.settings (.marginNotBelowLifetime policy.margin.toNat policy.lifetime.toNat))
  else .ok ()

/-- When a token minted now expires; the end of time is the latest. -/
def expiry (policy : TokenPolicy) (now : UInt64) : UInt64 :=
  UInt64.ofNat (min (now.toNat + policy.lifetime.toNat) 0xFFFFFFFFFFFFFFFF)

def isFresh (policy : TokenPolicy) (token : Token) (now : UInt64) : Bool :=
  now.toNat < token.expiresAt.toNat - policy.margin.toNat

def inspect (policy : TokenPolicy) : String :=
  Text.inspectFields "TokenPolicy"
    [("ttl_seconds", toString policy.lifetime.toNat),
     ("refresh_margin_seconds", toString policy.margin.toNat)]

end TokenPolicy

/-! The issuer. -/

structure CacheStats where
  total : Nat
  valid : Nat
  expired : Nat
  deriving DecidableEq, Repr

def CacheStats.inspect (stats : CacheStats) : String :=
  Text.inspectFields "CacheStats"
    [("total", toString stats.total), ("valid", toString stats.valid),
     ("expired", toString stats.expired)]

structure Issuer where
  policy : TokenPolicy
  cache : List (String × Token)
  deriving Repr

namespace Issuer

def new (policy : TokenPolicy) : Issuer := ⟨policy, []⟩

def cached? (issuer : Issuer) (id : String) : Option Token :=
  (issuer.cache.find? fun entry => entry.1 == id).map (·.2)

def store (issuer : Issuer) (id : String) (token : Token) : Issuer :=
  { issuer with cache := (id, token) :: issuer.cache.filter fun entry => entry.1 != id }

def mintFresh (issuer : Issuer) (now : UInt64) (credential : Credential) :
    Reported (Except Failure Token × Issuer) := do
  let value := Signature.sign credential
  if ← Signature.validate value credential.secret then
    let token : Token := ⟨value, now, issuer.policy.expiry now⟩
    infoEvent .token "generated token" [("credential", .text credential.label)]
    return (.ok token, issuer.store credential.id token)
  else
    errorEvent .token "generated token failed validation" [("credential", .text credential.label)]
    return (.error (.tokenGeneration "generated token failed validation"), issuer)

/-- The token of a credential: the one kept under its id while that is fresh, else a new one. -/
def mint (issuer : Issuer) (now : UInt64) (credential : Credential) :
    Reported (Except Failure Token × Issuer) :=
  let missing := credential.missingFields
  if !missing.isEmpty then do
    errorEvent .token "credential is missing required fields"
      [("credential", .text credential.label), ("missing", .text (String.intercalate ", " missing))]
    return (.error (.incompleteCredential missing), issuer)
  else
    match (issuer.cached? credential.id).filter fun token => issuer.policy.isFresh token now with
    | some token => do
        debugEvent .token "token cache hit" [("credential", .text credential.label)]
        return (.ok token, issuer)
    | none => mintFresh issuer now credential

def clear (issuer : Issuer) : Reported Issuer := do
  debugEvent .token "token cache cleared" [("cleared", .count issuer.cache.length)]
  return { issuer with cache := [] }

def stats (issuer : Issuer) (now : UInt64) : CacheStats :=
  let valid := (issuer.cache.filter fun entry => issuer.policy.isFresh entry.2 now).length
  { total := issuer.cache.length, valid, expired := issuer.cache.length - valid }

def inspect (issuer : Issuer) (now : UInt64) : String :=
  Text.inspectFields "TokenIssuer"
    [("policy", issuer.policy.inspect), ("cache", (issuer.stats now).inspect)]

end Issuer

end BearerProxy
