import Mathlib.Data.Finset.Card
import BearerProxy.Proofs.Credential.Loading
import BearerProxy.Proofs.Token.History

/-!
When an issuer hands out a token again. What a mint does and what is counted are told from the last signings
alone: a token is handed out again up to the margin before its expiry, and never within it.
-/

namespace BearerProxy

/-! Times. -/

namespace TokenPolicy

theorem toNat_expiry (policy : TokenPolicy) (now : UInt64) :
    (policy.expiry now).toNat = min (now.toNat + policy.lifetime.toNat) (UInt64.size - 1) := by
  rw [expiry, UInt64.toNat_ofNat']
  apply Nat.mod_eq_of_lt
  omega

theorem isFresh_iff (policy : TokenPolicy) (token : Token) (now : UInt64) :
    policy.isFresh token now ↔ now.toNat < token.expiresAt.toNat - policy.margin.toNat := by
  rw [isFresh, decide_eq_true_eq]

theorem margin_lt_lifetime {policy : TokenPolicy} (valid : policy.validate = .ok ()) :
    policy.margin.toNat < policy.lifetime.toNat := by
  rw [validate] at valid
  split at valid
  · cases valid
  · split at valid
    · cases valid
    · rename_i notBelow
      exact Nat.lt_of_not_le fun below => notBelow (UInt64.le_iff_toNat_le.mpr below)

end TokenPolicy

def Credential.Incomplete (credential : Credential) : Prop :=
  Text.isBlankText credential.id ∨ Text.isBlankText credential.secret ∨
    Text.isBlankText credential.tenant

theorem Credential.not_incomplete_iff (credential : Credential) :
    ¬credential.Incomplete ↔ credential.missingFields = [] := by
  rw [missingFields_eq_nil_iff, Incomplete, not_or, not_or]

/-! What a mint does, its journal included. -/

namespace ClockedIssuer

def Reuses (clocked : ClockedIssuer) (credential : Credential) (token : Token) : Prop :=
  clocked.issuer.mint clocked.now credential =
    ⟨(.ok token, clocked.issuer),
      [⟨.debug, .token, "token cache hit", [("credential", .text credential.label)]⟩]⟩

def Signs (clocked : ClockedIssuer) (credential : Credential) (token : Token) : Prop :=
  clocked.issuer.mint clocked.now credential =
    ⟨(.ok token, clocked.issuer.store credential.id token),
      [⟨.info, .token, "generated token", [("credential", .text credential.label)]⟩]⟩

theorem answer_of_incomplete (clocked : ClockedIssuer) {credential : Credential}
    (incomplete : credential.Incomplete) :
    clocked.answer credential = .error (.incompleteCredential credential.missingFields) ∧
      clocked.perform (.mint credential) = clocked := by
  have missing : ¬credential.missingFields.isEmpty := by
    rw [List.isEmpty_iff, ← Credential.not_incomplete_iff]
    exact not_not_intro incomplete
  rw [answer, perform, Issuer.mint_value, if_neg missing]
  exact ⟨rfl, rfl⟩

theorem reuses_of_fresh {clocked : ClockedIssuer} {credential : Credential} {token : Token}
    (complete : ¬credential.Incomplete)
    (fresh : (clocked.issuer.cached? credential.id).filter (fun token =>
      clocked.issuer.policy.isFresh token clocked.now) = some token) :
    clocked.Reuses credential token := by
  rw [Reuses, Issuer.mint, (credential.not_incomplete_iff).mp complete, fresh]
  rfl

theorem signs_of_stale {clocked : ClockedIssuer} {credential : Credential}
    (complete : ¬credential.Incomplete)
    (stale : (clocked.issuer.cached? credential.id).filter (fun token =>
      clocked.issuer.policy.isFresh token clocked.now) = none) :
    clocked.Signs credential (clocked.issuer.policy.issue clocked.now credential) := by
  rw [Signs, Issuer.mint, (credential.not_incomplete_iff).mp complete, stale, Issuer.mintFresh,
    Signature.validate_sign_eq]
  rfl

theorem mint_cases (clocked : ClockedIssuer) (credential : Credential) :
    credential.Incomplete ∨ (∃ token, clocked.Reuses credential token) ∨
      clocked.Signs credential (clocked.issuer.policy.issue clocked.now credential) := by
  by_cases incomplete : credential.Incomplete
  · exact .inl incomplete
  · cases kept : (clocked.issuer.cached? credential.id).filter fun token =>
        clocked.issuer.policy.isFresh token clocked.now with
    | some token => exact .inr (.inl ⟨token, reuses_of_fresh incomplete kept⟩)
    | none => exact .inr (.inr (signs_of_stale incomplete kept))

theorem complete_of_reuses {clocked : ClockedIssuer} {credential : Credential} {token : Token}
    (reuses : clocked.Reuses credential token) : ¬credential.Incomplete := by
  intro incomplete
  have refused := (answer_of_incomplete clocked incomplete).1
  rw [answer, reuses] at refused
  cases refused

/-- Whether a token is handed out again depends on what is kept under the id and on nothing else. -/
theorem reuses_iff {clocked : ClockedIssuer} {credential : Credential}
    (complete : ¬credential.Incomplete) (token : Token) :
    clocked.Reuses credential token ↔
      (clocked.issuer.cached? credential.id).filter (fun token =>
        clocked.issuer.policy.isFresh token clocked.now) = some token := by
  constructor
  · intro reuses
    cases kept : (clocked.issuer.cached? credential.id).filter fun token =>
        clocked.issuer.policy.isFresh token clocked.now with
    | none =>
        have journals := congrArg Reported.events (reuses.symm.trans (signs_of_stale complete kept))
        simp at journals
    | some other =>
        have answers := congrArg (·.value.1) ((reuses_of_fresh complete kept).symm.trans reuses)
        rw [Except.ok.inj answers]
  · exact reuses_of_fresh complete

end ClockedIssuer

/-! What the cache holds. -/

structure Issuer.Orderly (issuer : Issuer) : Prop where
  distinct : (issuer.cache.map Prod.fst).Nodup
  visible : ∀ entry ∈ issuer.cache, ¬Text.isBlankText entry.1

namespace Issuer.Orderly

variable {issuer : Issuer}

theorem store (orderly : issuer.Orderly) {id : String} (visible : ¬Text.isBlankText id)
    (token : Token) : (issuer.store id token).Orderly where
  distinct := by
    rw [Issuer.store, List.map_cons, List.nodup_cons]
    constructor
    · intro again
      rcases List.mem_map.mp again with ⟨entry, kept, same⟩
      have different := (List.mem_filter.mp kept).2
      exact bne_iff_ne.mp different same
    · exact (List.filter_sublist.map Prod.fst).nodup orderly.distinct
  visible := by
    intro entry isEntry
    rcases List.mem_cons.mp isEntry with isNew | kept
    · rw [isNew]
      exact visible
    · exact orderly.visible entry (List.mem_filter.mp kept).1

theorem cached?_eq_some_iff (orderly : issuer.Orderly) (id : String) (token : Token) :
    issuer.cached? id = some token ↔ (id, token) ∈ issuer.cache := by
  rw [cached?, Option.map_eq_some_iff]
  constructor
  · rintro ⟨entry, found, same⟩
    have isId : entry.1 = id := by simpa using List.find?_some found
    rw [← isId, ← same]
    exact List.mem_of_find?_eq_some found
  · intro isEntry
    cases found : issuer.cache.find? fun entry => entry.1 == id with
    | none =>
        have absent := List.find?_eq_none.mp found _ isEntry
        simp at absent
    | some entry =>
        have isId : entry.1 = id := by simpa using List.find?_some found
        have same := List.inj_on_of_nodup_map orderly.distinct (List.mem_of_find?_eq_some found)
          isEntry isId
        exact ⟨entry, rfl, congrArg Prod.snd same⟩

end Issuer.Orderly

theorem ClockedIssuer.orderly_perform {clocked : ClockedIssuer} (orderly : clocked.issuer.Orderly)
    (step : IssuerStep) : (clocked.perform step).issuer.Orderly := by
  cases step with
  | clear => exact ⟨List.nodup_nil, nofun⟩
  | setClock now => exact orderly
  | mint credential =>
      by_cases incomplete : credential.Incomplete
      · rw [(answer_of_incomplete _ incomplete).2]
        exact orderly
      · rcases clocked.mint_cases credential with refused | ⟨token, reuses⟩ | signs
        · exact absurd refused incomplete
        · rw [perform, reuses]
          exact orderly
        · rw [perform, signs]
          exact orderly.store (fun blank => incomplete (.inl blank)) _

theorem ClockedIssuer.orderly_start (policy : TokenPolicy) (start : UInt64) :
    (ClockedIssuer.start policy start).issuer.Orderly :=
  ⟨List.nodup_nil, nofun⟩

theorem ClockedIssuer.orderly_run {clocked : ClockedIssuer} (orderly : clocked.issuer.Orderly)
    (steps : List IssuerStep) : (clocked.run steps).issuer.Orderly := by
  induction steps generalizing clocked with
  | nil => exact orderly
  | cons step steps induction => exact induction (orderly_perform orderly step)

/-! What the history says. -/

namespace IssuanceHistory

def lastToken? (history : IssuanceHistory) (id : String) : Option Token :=
  (history.last id).map Signing.token

theorem policy_run (history : IssuanceHistory) (steps : List IssuerStep) :
    (history.run steps).policy = history.policy := by
  induction steps generalizing history with
  | nil => rfl
  | cons step steps induction =>
      have kept : (history.perform step).policy = history.policy := by
        cases step with
        | clear | setClock => rfl
        | mint credential =>
            rw [perform]
            split
            · rfl
            · rfl
      exact (induction _).trans kept

theorem reusable?_eq_some_iff (history : IssuanceHistory) (id : String) (token : Token) :
    history.reusable? id = some token ↔
      history.lastToken? id = some token ∧
        history.now.toNat < token.expiresAt.toNat - history.policy.margin.toNat := by
  rw [reusable?, Option.filter_eq_some_iff, history.policy.isFresh_iff, lastToken?]

theorem lastToken?_sign (history : IssuanceHistory) (credential : Credential) (id : String) :
    (history.sign credential).lastToken? id =
      if id = credential.id then some (history.policy.issue history.now credential)
      else history.lastToken? id := by
  by_cases same : id = credential.id
  · simp [lastToken?, sign, same]
  · simp [lastToken?, sign, same]

end IssuanceHistory

namespace Represents

variable {clocked : ClockedIssuer} {history : IssuanceHistory} {credential : Credential}

theorem reuses_iff (represents : Represents clocked history) (complete : ¬credential.Incomplete)
    (token : Token) :
    clocked.Reuses credential token ↔
      history.lastToken? credential.id = some token ∧
        clocked.now.toNat < token.expiresAt.toNat - history.policy.margin.toNat := by
  rw [ClockedIssuer.reuses_iff complete, represents.reusable?_eq, history.reusable?_eq_some_iff,
    represents.now]

theorem signs_iff (represents : Represents clocked history) :
    history.signs credential ↔
      ¬credential.Incomplete ∧ ¬∃ token, clocked.Reuses credential token := by
  rw [IssuanceHistory.signs, Bool.and_eq_true, List.isEmpty_iff, Option.isNone_iff_eq_none,
    ← Credential.not_incomplete_iff, ← represents.reusable?_eq]
  constructor
  · rintro ⟨complete, none⟩
    refine ⟨complete, ?_⟩
    rintro ⟨token, reuses⟩
    rw [ClockedIssuer.reuses_iff complete, none] at reuses
    cases reuses
  · rintro ⟨complete, never⟩
    refine ⟨complete, Option.eq_none_iff_forall_ne_some.mpr fun token fresh => ?_⟩
    exact never ⟨token, ClockedIssuer.reuses_of_fresh complete fresh⟩

theorem perform_eq_self (represents : Represents clocked history)
    (unsigned : credential.Incomplete ∨ ∃ token, clocked.Reuses credential token) :
    history.perform (.mint credential) = history := by
  rw [IssuanceHistory.perform, if_neg]
  rw [represents.signs_iff]
  rintro ⟨complete, never⟩
  rcases unsigned with incomplete | reuses
  · exact complete incomplete
  · exact never reuses

end Represents

/-! What is counted. -/

theorem Credential.exists_complete {id : String} (visible : ¬Text.isBlankText id) :
    ∃ credential : Credential, credential.id = id ∧ ¬credential.Incomplete := by
  have other : ¬Text.isBlankText "any" := by decide
  refine ⟨{ id, secret := "any", tenant := "any" }, rfl, ?_⟩
  rintro (blank | blank | blank)
  · exact visible blank
  · exact other blank
  · exact other blank

def ClockedIssuer.freshEntries (clocked : ClockedIssuer) : List (String × Token) :=
  clocked.issuer.cache.filter fun entry => clocked.issuer.policy.isFresh entry.2 clocked.now

theorem ClockedIssuer.mem_freshEntries_iff {clocked : ClockedIssuer}
    (orderly : clocked.issuer.Orderly) (id : String) :
    id ∈ clocked.freshEntries.map Prod.fst ↔
      ∃ credential token, credential.id = id ∧ clocked.Reuses credential token := by
  have reused (credential : Credential) (complete : ¬credential.Incomplete) (token : Token) :
      clocked.Reuses credential token ↔ (credential.id, token) ∈ clocked.freshEntries := by
    rw [reuses_iff complete, Option.filter_eq_some_iff, orderly.cached?_eq_some_iff, freshEntries,
      List.mem_filter]
  rw [List.mem_map]
  constructor
  · rintro ⟨entry, isFresh, sameId⟩
    have visible := orderly.visible entry (List.mem_filter.mp isFresh).1
    rcases Credential.exists_complete visible with ⟨credential, named, complete⟩
    refine ⟨credential, entry.2, named.trans sameId, (reused credential complete entry.2).mpr ?_⟩
    rw [named]
    exact isFresh
  · rintro ⟨credential, token, named, reuses⟩
    exact ⟨_, (reused credential (complete_of_reuses reuses) token).mp reuses, named⟩

theorem Represents.isSome_lastToken?_iff {clocked : ClockedIssuer} {history : IssuanceHistory}
    (represents : Represents clocked history) (orderly : clocked.issuer.Orderly) (id : String) :
    id ∈ clocked.issuer.cache.map Prod.fst ↔ (history.lastToken? id).isSome := by
  rw [IssuanceHistory.lastToken?, ← represents.cached, Option.isSome_iff_exists, List.mem_map]
  constructor
  · rintro ⟨entry, isEntry, sameId⟩
    refine ⟨entry.2, (orderly.cached?_eq_some_iff id entry.2).mpr ?_⟩
    rw [← sameId]
    exact isEntry
  · rintro ⟨token, kept⟩
    exact ⟨(id, token), (orderly.cached?_eq_some_iff id token).mp kept, rfl⟩

theorem Represents.stats_eq {clocked : ClockedIssuer} {history : IssuanceHistory}
    (represents : Represents clocked history) (orderly : clocked.issuer.Orderly) :
    ∃ ids valid : Finset String,
      (∀ id, id ∈ ids ↔ (history.lastToken? id).isSome) ∧
      (∀ id, id ∈ valid ↔ ∃ credential token, credential.id = id ∧ clocked.Reuses credential token) ∧
      valid ⊆ ids ∧
      clocked.issuer.stats clocked.now =
        { total := ids.card, valid := valid.card, expired := ids.card - valid.card } := by
  have fresh : (clocked.freshEntries.map Prod.fst).Sublist (clocked.issuer.cache.map Prod.fst) :=
    List.filter_sublist.map Prod.fst
  have total := List.toFinset_card_of_nodup orderly.distinct
  have valid := List.toFinset_card_of_nodup (fresh.nodup orderly.distinct)
  rw [List.length_map] at total valid
  refine ⟨(clocked.issuer.cache.map Prod.fst).toFinset, (clocked.freshEntries.map Prod.fst).toFinset,
    ?_, ?_, ?_, ?_⟩
  · intro id
    rw [List.mem_toFinset, represents.isSome_lastToken?_iff orderly]
  · intro id
    rw [List.mem_toFinset, ClockedIssuer.mem_freshEntries_iff orderly]
  · intro id isValid
    rw [List.mem_toFinset] at isValid ⊢
    exact fresh.subset isValid
  · rw [total, valid]
    rfl

/-! All together. -/

/-- An issuer under a policy does what its history says. -/
structure Follows (policy : TokenPolicy) (history : IssuanceHistory) (clocked : ClockedIssuer) :
    Prop where
  fails : ∀ credential,
    (∃ failure, clocked.answer credential = .error failure) ↔ credential.Incomplete
  unchanged : ∀ credential, credential.Incomplete →
    clocked.perform (.mint credential) = clocked ∧ history.perform (.mint credential) = history
  reuses : ∀ credential, ¬credential.Incomplete → ∀ token,
    clocked.Reuses credential token ↔
      history.lastToken? credential.id = some token ∧
        clocked.now.toNat < token.expiresAt.toNat - policy.margin.toNat
  reused : ∀ credential token, clocked.Reuses credential token →
    history.perform (.mint credential) = history
  signs : ∀ credential, ¬credential.Incomplete → (¬∃ token, clocked.Reuses credential token) →
    ∃ token, clocked.Signs credential token ∧
      token.mintedAt = clocked.now ∧
      token.expiresAt.toNat = min (clocked.now.toNat + policy.lifetime.toNat) (UInt64.size - 1) ∧
      ∀ id, (history.perform (.mint credential)).lastToken? id =
        if id = credential.id then some token else history.lastToken? id
  counts : ∃ ids valid : Finset String,
    (∀ id, id ∈ ids ↔ (history.lastToken? id).isSome) ∧
    (∀ id, id ∈ valid ↔ ∃ credential token, credential.id = id ∧ clocked.Reuses credential token) ∧
    valid ⊆ ids ∧
    clocked.issuer.stats clocked.now =
      { total := ids.card, valid := valid.card, expired := ids.card - valid.card }
  outlives : policy.validate = .ok () → clocked.now.toNat + policy.lifetime.toNat ≤ UInt64.size - 1 →
    ∀ credential token, clocked.answer credential = .ok token →
      clocked.now.toNat + policy.margin.toNat < token.expiresAt.toNat

theorem ClockedIssuer.eq_of_answer_eq_error {clocked : ClockedIssuer} {credential : Credential} {failure : Failure}
    (failed : clocked.answer credential = .error failure) :
    credential.Incomplete ∧ failure = .incompleteCredential credential.missingFields := by
  rcases clocked.mint_cases credential with incomplete | ⟨token, reuses⟩ | signs
  · rw [(answer_of_incomplete _ incomplete).1] at failed
    cases failed
    exact ⟨incomplete, rfl⟩
  · rw [answer, reuses] at failed
    cases failed
  · rw [answer, signs] at failed
    cases failed

theorem ClockedIssuer.answer_eq_error_iff (clocked : ClockedIssuer) (credential : Credential) :
    (∃ failure, clocked.answer credential = .error failure) ↔ credential.Incomplete := by
  constructor
  · rintro ⟨failure, failed⟩
    exact (eq_of_answer_eq_error failed).1
  · intro incomplete
    exact ⟨_, (answer_of_incomplete _ incomplete).1⟩

/-- A failed mint is the fault of the credential alone, so that another one may do. -/
theorem ClockedIssuer.isMintFailure_of_answer {clocked : ClockedIssuer} {credential : Credential} {failure : Failure}
    (failed : clocked.answer credential = .error failure) : failure.isMintFailure := by
  rw [(eq_of_answer_eq_error failed).2]
  rfl

theorem Represents.follows {clocked : ClockedIssuer} {history : IssuanceHistory}
    (represents : Represents clocked history) (orderly : clocked.issuer.Orderly) :
    Follows history.policy history clocked where
  fails := clocked.answer_eq_error_iff
  unchanged credential incomplete :=
    ⟨(ClockedIssuer.answer_of_incomplete _ incomplete).2,
      represents.perform_eq_self (.inl incomplete)⟩
  reuses credential complete token := represents.reuses_iff complete token
  reused _ token reuses := represents.perform_eq_self (.inr ⟨token, reuses⟩)
  signs := by
    intro credential complete never
    refine ⟨history.policy.issue history.now credential, ?_, ?_, ?_, ?_⟩
    · rcases clocked.mint_cases credential with incomplete | reuses | signs
      · exact absurd incomplete complete
      · exact absurd reuses never
      · rw [← represents.policy, ← represents.now]
        exact signs
    · exact represents.now.symm
    · rw [represents.now]
      exact history.policy.toNat_expiry history.now
    · intro id
      rw [IssuanceHistory.perform, if_pos (represents.signs_iff.mpr ⟨complete, never⟩),
        history.lastToken?_sign]
  counts := represents.stats_eq orderly
  outlives := by
    intro valid inTime credential token answered
    have below := TokenPolicy.margin_lt_lifetime valid
    rcases clocked.mint_cases credential with incomplete | ⟨kept, reuses⟩ | signs
    · rw [(ClockedIssuer.answer_of_incomplete _ incomplete).1] at answered
      cases answered
    · have early := ((represents.reuses_iff (ClockedIssuer.complete_of_reuses reuses) kept).mp
        reuses).2
      rw [ClockedIssuer.answer, reuses] at answered
      rw [← Except.ok.inj answered]
      omega
    · rw [ClockedIssuer.answer, signs] at answered
      have expires := clocked.issuer.policy.toNat_expiry clocked.now
      rw [← Except.ok.inj answered, TokenPolicy.issue, expires, represents.policy]
      omega

/-- After any calls and any moves of the clock, in either direction, an issuer does what its history says.
Asking for the counts is no step, since it leaves everything as it is. -/
theorem run_follows (policy : TokenPolicy) (start : UInt64) (steps : List IssuerStep) :
    Follows policy ((IssuanceHistory.start policy start).run steps)
      ((ClockedIssuer.start policy start).run steps) := by
  have represents := (Represents.start policy start).run steps
  have orderly := ClockedIssuer.orderly_run (ClockedIssuer.orderly_start policy start) steps
  have follows := represents.follows orderly
  rw [IssuanceHistory.policy_run] at follows
  exact follows

end BearerProxy
