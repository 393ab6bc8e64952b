import BearerProxy.Proofs.Dispatch.Recording

/-!
Failover is bounded. A preparation makes at most two attempts to mint, the second one only after the first
has failed and on another member, and only a member whose first attempt failed is put into quarantine.
-/

namespace BearerProxy

def withdrawnBy : List MintAttempt → List Member
  | ⟨member, .error _⟩ :: _ => [member]
  | _ => []

/-- The attempts of a search that ends without a token, with the failure that it ends with: either the
first one failed and nothing was left in rotation, or a second one failed as well. -/
def Exhausted (attempts : List MintAttempt) (after : Rotation) (last : Failure) : Prop :=
  (∃ member failure, attempts = [⟨member, .error failure⟩] ∧ after.available = [] ∧
    last = .rotationExhausted) ∨
  ∃ first failure second, attempts = [⟨first, .error failure⟩, ⟨second, .error last⟩]

/-- What failover amounts to, for the rotation before a preparation, its attempts, its result and the
rotation behind it. -/
structure BoundedFailover (before : Rotation) (attempts : List MintAttempt)
    (result : Except Rejection Prepared) (after : Rotation) : Prop where
  bounded : attempts.length ≤ 2
  pool : ∀ attempt ∈ attempts, attempt.member ∈ before.members
  second : ∀ first second, attempts = [first, second] →
    (∃ failure, first.outcome = .error failure) ∧
      second.member.position ≠ first.member.position ∧ second.member ∈ after.available
  quarantined : after.quarantined = before.quarantined ++ withdrawnBy attempts
  served : after.served = before.served + attempts.length
  prepared : ∀ prepared, result = .ok prepared →
    attempts.getLast? = some ⟨prepared.member, .ok prepared.token⟩ ∧
      prepared.outbound.headers.values "authorization" =
        [⟨("Bearer " ++ Text.trim prepared.token.value).toUTF8.toList⟩]
  exhausted : ∀ last, (∃ stage, result = .error ⟨stage, .failoverExhausted last⟩) ↔
    Exhausted attempts after last

namespace Search

variable {source : TokenSource τ} {first : Member} {state after : DispatchState τ}
  {attempts : List MintAttempt} {outcome : Except Failure (Member × Token)}

theorem length_attempts (search : Search source first state attempts outcome after) :
    attempts.length ≤ 2 := by
  cases search with
  | minted | alone => exact Nat.le_succ 1
  | fallback | exhausted => exact Nat.le_refl 2

theorem second_mem_others {rotation : Rotation} {second : Member}
    (selected : (rotation.withdraw first).available[(rotation.withdraw first).cursor]? =
      some second) :
    second ∈ rotation.available ∧ second.position ≠ first.position := by
  have other : second ∈ rotation.others first := List.mem_of_getElem? selected
  rw [Rotation.others, List.mem_filter] at other
  exact ⟨other.1, bne_iff_ne.mp other.2⟩

theorem attempts_pool (search : Search source first state attempts outcome after)
    (inRotation : first ∈ state.rotation.available) :
    ∀ attempt ∈ attempts, attempt.member ∈ state.rotation.available := by
  cases search with
  | minted | alone => simpa using inRotation
  | fallback failure between second token tokens failed selected minted =>
      simpa using ⟨inRotation, (second_mem_others selected).1⟩
  | exhausted failure between second last tokens failed selected failedToo =>
      simpa using ⟨inRotation, (second_mem_others selected).1⟩

theorem second_attempt (search : Search source first state attempts outcome after)
    {one other : MintAttempt} (both : attempts = [one, other]) :
    (∃ failure, one.outcome = .error failure) ∧
      other.member.position ≠ one.member.position ∧ other.member ∈ after.rotation.available := by
  cases search with
  | minted | alone => simp at both
  | fallback failure between second token tokens failed selected minted =>
      cases both
      exact ⟨⟨failure, rfl⟩, (second_mem_others selected).2, List.mem_of_getElem? selected⟩
  | exhausted failure between second last tokens failed selected failedToo =>
      cases both
      exact ⟨⟨failure, rfl⟩, (second_mem_others selected).2, List.mem_of_getElem? selected⟩

theorem quarantined (search : Search source first state attempts outcome after) :
    after.rotation.quarantined = state.rotation.quarantined ++ withdrawnBy attempts := by
  cases search with
  | minted => exact (List.append_nil _).symm
  | alone | fallback | exhausted => rfl

theorem served (search : Search source first state attempts outcome after) :
    after.rotation.served + 1 = state.rotation.served + attempts.length := by
  cases search with
  | minted | alone | fallback | exhausted => rfl

theorem last_attempt {member : Member} {token : Token}
    (search : Search source first state attempts (.ok (member, token)) after) :
    attempts.getLast? = some ⟨member, .ok token⟩ := by
  cases search with
  | minted | fallback => rfl

theorem exhausted_iff (search : Search source first state attempts outcome after)
    (last : Failure) :
    outcome = .error (.failoverExhausted last) ↔ Exhausted attempts after.rotation last := by
  cases search with
  | minted token tokens minted => simp [Exhausted]
  | alone failure tokens failed alone =>
      have empty : (state.rotation.withdraw first).available = [] := alone
      simp [Exhausted, empty, eq_comm]
  | fallback failure between second token tokens failed selected minted => simp [Exhausted]
  | exhausted failure between second last tokens failed selected failedToo => simp [Exhausted]

theorem failure_eq {failure : Failure}
    (search : Search source first state attempts (.error failure) after) :
    ∃ last, failure = .failoverExhausted last := by
  cases search with
  | alone => exact ⟨_, rfl⟩
  | exhausted failure between second last => exact ⟨last, rfl⟩

end Search

namespace Course

variable {dispatcher : Dispatcher τ} {request : InboundRequest} {state after : DispatchState τ}
  {attempts : List MintAttempt} {outcome : Except Rejection Prepared}

theorem search (course : Course dispatcher request state attempts outcome after) :
    (attempts = [] ∧ after = state) ∨
    ∃ first found, first ∈ state.rotation.available ∧
      Search dispatcher.source first { state with rotation := state.rotation.advance }
        attempts found after := by
  cases course with
  | refused | unavailable => exact .inl ⟨rfl, rfl⟩
  | unminted first attempts failure after valid selected search =>
      exact .inr ⟨first, _, List.mem_of_getElem? selected, search⟩
  | unbuilt first member token attempts failure after valid selected search refused =>
      exact .inr ⟨first, _, List.mem_of_getElem? selected, search⟩
  | built first member token attempts outbound after valid selected search accepted =>
      exact .inr ⟨first, _, List.mem_of_getElem? selected, search⟩

theorem prepared {prepared : Prepared}
    (course : Course dispatcher request state attempts (.ok prepared) after) :
    attempts.getLast? = some ⟨prepared.member, .ok prepared.token⟩ ∧
      prepared.outbound.headers.values "authorization" =
        [⟨("Bearer " ++ Text.trim prepared.token.value).toUTF8.toList⟩] := by
  cases course with
  | built first member token attempts outbound after valid selected search accepted =>
      exact ⟨search.last_attempt, Forwarder.prepared_authorization accepted⟩

theorem ne_failoverExhausted {failure : Failure} (status : failure.status = 400) (last : Failure) :
    failure ≠ .failoverExhausted last := by
  intro equal
  rw [equal] at status
  cases status

theorem exhausted_iff (course : Course dispatcher request state attempts outcome after)
    (last : Failure) :
    (∃ stage, outcome = .error ⟨stage, .failoverExhausted last⟩) ↔
      Exhausted attempts after.rotation last := by
  cases course with
  | refused failure refused =>
      have other := ne_failoverExhausted (Forwarder.validate_eq_error refused) last
      simp [Exhausted, other]
  | unavailable valid empty => simp [Exhausted]
  | unminted first attempts failure after valid selected search =>
      rw [← search.exhausted_iff]
      simp
  | unbuilt first member token attempts failure after valid selected search refused =>
      have other := ne_failoverExhausted (Forwarder.prepared_eq_error refused) last
      rw [← search.exhausted_iff]
      simp [other]
  | built first member token attempts outbound after valid selected search accepted =>
      rw [← search.exhausted_iff]
      simp

theorem boundedFailover (course : Course dispatcher request state attempts outcome after)
    (consistent : state.rotation.Consistent) :
    BoundedFailover state.rotation attempts outcome after.rotation where
  bounded := by
    rcases course.search with ⟨none, _⟩ | ⟨first, found, _, search⟩
    · rw [none]
      exact Nat.zero_le 2
    · exact search.length_attempts
  pool := by
    rcases course.search with ⟨none, _⟩ | ⟨first, found, inRotation, search⟩
    · simp [none]
    · intro attempt attempted
      exact consistent.ordered.subset (search.attempts_pool inRotation attempt attempted)
  second := by
    intro one other both
    rcases course.search with ⟨none, _⟩ | ⟨first, found, _, search⟩
    · simp [none] at both
    · exact search.second_attempt both
  quarantined := by
    rcases course.search with ⟨none, unchanged⟩ | ⟨first, found, _, search⟩
    · rw [none, unchanged]
      exact (List.append_nil _).symm
    · exact search.quarantined
  served := by
    rcases course.search with ⟨none, unchanged⟩ | ⟨first, found, _, search⟩
    · rw [none, unchanged]
      rfl
    · have counted := search.served
      simp only [Rotation.advance] at counted
      omega
  prepared := by
    intro prepared result
    subst result
    exact course.prepared
  exhausted := course.exhausted_iff

end Course

/-- Whatever the source of tokens does and whatever state the rotation is in, a preparation fails over
within these bounds. -/
theorem Dispatcher.prepare_failover (dispatcher : Dispatcher τ) (request : InboundRequest)
    (state : DispatchState τ) (reachable : state.rotation.Reachable) :
    BoundedFailover state.rotation (dispatcher.attempts request state)
      (dispatcher.prepare request state).value.1
      (dispatcher.prepare request state).value.2.rotation := by
  have consistent := reachable.consistent
  rcases Course.total dispatcher request state consistent with ⟨attempts, outcome, after, course⟩
  rw [course.attempts_eq consistent, course.value_eq consistent]
  exact course.boundedFailover consistent

def outage : TokenSource Bool where
  mint _ repaired :=
    return (if repaired then .ok ⟨"token", 0, 0⟩ else .error (.tokenGeneration "outage"), true)
  stats _ := none

def beforeOutage : DispatchState Bool :=
  { rotation := .ofMembers (Rotation.numberMembers 0
      [{ id := "north", secret := "first-secret", tenant := "north" },
        { id := "south", secret := "second-secret", tenant := "south" }])
    tokens := false }

def greeting : InboundRequest :=
  { method := some "GET", path := some "/hello", headers := some .empty, body := none }

theorem prepare_failover_outage :
    beforeOutage.rotation.Reachable ∧
      BoundedFailover beforeOutage.rotation
        (Dispatcher.attempts ⟨outage, {}⟩ greeting beforeOutage)
        (Dispatcher.prepare ⟨outage, {}⟩ greeting beforeOutage).value.1
        (Dispatcher.prepare ⟨outage, {}⟩ greeting beforeOutage).value.2.rotation :=
  have reachable : beforeOutage.rotation.Reachable := .ofMembers (List.cons_ne_nil _ _)
  ⟨reachable, Dispatcher.prepare_failover ⟨outage, {}⟩ greeting beforeOutage reachable⟩

end BearerProxy
