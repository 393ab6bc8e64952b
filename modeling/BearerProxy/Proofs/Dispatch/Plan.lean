import BearerProxy.Proofs.Dispatch.Course

/-!
The preparation of a request as a plan of single calls, so that other calls can come between them. A plan
that is carried out without a break does what the preparation does.
-/

namespace BearerProxy

/-- What is left to do: calls on a rotation and on a source of tokens, each after what the calls before it
have answered. -/
inductive Plan (α : Type u)
  | done (result : α)
  | select (resume : Except Failure Member → Plan α)
  | quarantine (member : Member) (rest : Plan α)
  | mint (member : Member) (resume : Except Failure Token → Plan α)

namespace Plan

def map (transform : α → β) : Plan α → Plan β
  | .done result => .done (transform result)
  | .select resume => .select fun chosen => (resume chosen).map transform
  | .quarantine member rest => .quarantine member (rest.map transform)
  | .mint member resume => .mint member fun minted => (resume minted).map transform

def execute (source : TokenSource τ) : Plan α → DispatchState τ → α × DispatchState τ
  | .done result, state => (result, state)
  | .select resume, state =>
      (resume state.rotation.next.value.1).execute source
        { state with rotation := state.rotation.next.value.2 }
  | .quarantine member rest, state =>
      rest.execute source { state with rotation := (state.rotation.quarantine member).value }
  | .mint member resume, state =>
      (resume (source.mint member state.tokens).value.1).execute source
        { state with tokens := (source.mint member state.tokens).value.2 }

theorem execute_map (source : TokenSource τ) (transform : α → β) (plan : Plan α)
    (state : DispatchState τ) :
    (plan.map transform).execute source state =
      (transform (plan.execute source state).1, (plan.execute source state).2) := by
  induction plan generalizing state with
  | done result => rfl
  | select resume induction => exact induction _ _
  | quarantine member rest induction => exact induction _
  | mint member resume induction => exact induction _ _

/-! The plan of a preparation. -/

def concludeFallback (fallback : Member) :
    Except Failure Token → Except Failure (Member × Token)
  | .ok token => .ok (fallback, token)
  | .error failure => .error (.failoverExhausted failure)

def fallback : Plan (Except Failure (Member × Token)) :=
  .select fun
    | .error failure => .done (.error (.failoverExhausted failure))
    | .ok second => .mint second fun minted => .done (concludeFallback second minted)

def failover (first : Member) : Plan (Except Failure (Member × Token)) :=
  .mint first fun
    | .ok token => .done (.ok (first, token))
    | .error _ => .quarantine first fallback

def conclude (forwarder : Forwarder) (request : InboundRequest) :
    Except Failure (Member × Token) → Except Rejection Prepared
  | .error failure => .error ⟨.credentialSelected, failure⟩
  | .ok (member, token) =>
      match forwarder.prepared request token.value with
      | .error failure => .error ⟨.tokenMinted, failure⟩
      | .ok outbound => .ok ⟨member, token, outbound⟩

def prepare (forwarder : Forwarder) (request : InboundRequest) :
    Plan (Except Rejection Prepared) :=
  match forwarder.validate request with
  | .error failure => .done (.error ⟨.start, failure⟩)
  | .ok () =>
      .select fun
        | .error failure => .done (.error ⟨.validated, failure⟩)
        | .ok first => (failover first).map (conclude forwarder request)

theorem execute_fallback (dispatcher : Dispatcher τ) (state : DispatchState τ) :
    fallback.execute dispatcher.source state = (dispatcher.mintFallback state).value := by
  rw [fallback, execute, Dispatcher.mintFallback]
  simp only [Reported.value_bind]
  cases state.rotation.next.value.1 with
  | error failure => rfl
  | ok second =>
      simp only [execute, Reported.value_bind, Dispatcher.mintFor_value]
      cases (dispatcher.source.mint second state.tokens).value.1 with
      | error failure => rfl
      | ok token => rfl

theorem execute_failover (dispatcher : Dispatcher τ) (first : Member) (state : DispatchState τ) :
    (failover first).execute dispatcher.source state =
      (dispatcher.mintWithFailover first state).value := by
  rw [failover, execute, Dispatcher.mintWithFailover]
  simp only [Reported.value_bind, Dispatcher.mintFor_value]
  cases (dispatcher.source.mint first state.tokens).value.1 with
  | error failure => exact execute_fallback dispatcher _
  | ok token => rfl

theorem conclude_ok (dispatcher : Dispatcher τ) (request : InboundRequest) (member : Member)
    (token : Token) (state : DispatchState τ) :
    (conclude dispatcher.forwarder request (.ok (member, token)), state) =
      (dispatcher.rebuild request member token state).value := by
  cases accepted : dispatcher.forwarder.prepared request token.value with
  | error failure => simp only [conclude, Dispatcher.rebuild_value, accepted]
  | ok outbound => simp only [conclude, Dispatcher.rebuild_value, accepted]

/-- The plan is that of the preparation: without a break between its calls it comes to the same. -/
theorem execute_prepare (dispatcher : Dispatcher τ) (request : InboundRequest)
    (state : DispatchState τ) :
    (prepare dispatcher.forwarder request).execute dispatcher.source state =
      (dispatcher.prepare request state).value := by
  rw [prepare, Dispatcher.prepare]
  cases dispatcher.forwarder.validate request with
  | error failure => rfl
  | ok _ =>
      simp only [execute, Reported.value_bind]
      cases state.rotation.next.value.1 with
      | error failure => rfl
      | ok first =>
          simp only [execute_map, execute_failover, Reported.value_bind]
          cases (dispatcher.mintWithFailover first
            { state with rotation := state.rotation.next.value.2 }).value with
          | mk searched after =>
              cases searched with
              | error failure => rfl
              | ok found => exact conclude_ok dispatcher request found.1 found.2 after

theorem execute_keeps {keeps : Rotation → Prop}
    (next : ∀ rotation, keeps rotation → keeps rotation.next.value.2)
    (quarantine : ∀ rotation member, keeps rotation → keeps (rotation.quarantine member).value)
    (source : TokenSource τ) (plan : Plan α) (state : DispatchState τ)
    (holds : keeps state.rotation) : keeps (plan.execute source state).2.rotation := by
  induction plan generalizing state with
  | done result => exact holds
  | select resume induction => exact induction _ _ (next _ holds)
  | quarantine member rest induction => exact induction _ (quarantine _ member holds)
  | mint member resume induction => exact induction _ _ holds

end Plan

theorem Dispatcher.prepare_keeps {keeps : Rotation → Prop}
    (next : ∀ rotation, keeps rotation → keeps rotation.next.value.2)
    (quarantine : ∀ rotation member, keeps rotation → keeps (rotation.quarantine member).value)
    (dispatcher : Dispatcher τ) (request : InboundRequest) (state : DispatchState τ)
    (holds : keeps state.rotation) :
    keeps (dispatcher.prepare request state).value.2.rotation := by
  rw [← Plan.execute_prepare]
  exact Plan.execute_keeps next quarantine _ _ state holds

/-! Plans that are carried out call by call. -/

inductive Act
  | select (answer : Except Failure Member)
  | quarantine (member : Member)
  | mint (member : Member) (outcome : Except Failure Token)

namespace Act

def isSelect : Act → Bool
  | .select _ => true
  | .quarantine _ | .mint _ _ => false

def isQuarantine : Act → Bool
  | .quarantine _ => true
  | .select _ | .mint _ _ => false

def rotationStep? : Act → Option Rotation.Step
  | .select _ => some .next
  | .quarantine member => some (.quarantine member)
  | .mint _ _ => none

end Act

namespace Plan

inductive Path : Plan α → List Act → Plan α → Prop
  | stay (plan : Plan α) : Path plan [] plan
  | select (answer : Except Failure Member) {resume : Except Failure Member → Plan α}
      (path : Path (resume answer) acts rest) : Path (.select resume) (.select answer :: acts) rest
  | quarantine (member : Member) {next : Plan α} (path : Path next acts rest) :
      Path (.quarantine member next) (.quarantine member :: acts) rest
  | mint (member : Member) (outcome : Except Failure Token)
      {resume : Except Failure Token → Plan α} (path : Path (resume outcome) acts rest) :
      Path (.mint member resume) (.mint member outcome :: acts) rest

theorem Path.append {first second third : Plan α} {acts more : List Act}
    (path : first.Path acts second) (further : second.Path more third) :
    first.Path (acts ++ more) third := by
  induction path with
  | stay plan => exact further
  | select answer path induction => exact .select answer (induction further)
  | quarantine member path induction => exact .quarantine member (induction further)
  | mint member outcome path induction => exact .mint member outcome (induction further)

def step? (rotation : Rotation) (outcome : Except Failure Token) : Plan α → Option (Act × Plan α)
  | .done _ => none
  | .select resume =>
      some (.select rotation.next.value.1, resume rotation.next.value.1)
  | .quarantine member rest => some (.quarantine member, rest)
  | .mint member resume => some (.mint member outcome, resume outcome)

theorem path_of_step? {rotation : Rotation} {outcome : Except Failure Token} {plan rest : Plan α}
    {act : Act} (made : plan.step? rotation outcome = some (act, rest)) :
    plan.Path [act] rest := by
  cases plan with
  | done result => cases made
  | select resume =>
      cases made
      exact .select _ (.stay _)
  | quarantine member rest =>
      cases made
      exact .quarantine member (.stay _)
  | mint member resume =>
      cases made
      exact .mint member outcome (.stay _)

theorem answer_of_step? {rotation : Rotation} {outcome : Except Failure Token}
    {plan rest : Plan α} {answer : Except Failure Member}
    (made : plan.step? rotation outcome = some (.select answer, rest)) :
    answer = rotation.next.value.1 := by
  cases plan with
  | select resume =>
      cases made
      rfl
  | done | quarantine | mint => cases made

end Plan

inductive WholeCourse : List Act → Prop
  | refused : WholeCourse []
  | unavailable (failure : Failure) : WholeCourse [.select (.error failure)]
  | minted (first : Member) (token : Token) :
      WholeCourse [.select (.ok first), .mint first (.ok token)]
  | alone (first : Member) (failure last : Failure) :
      WholeCourse [.select (.ok first), .mint first (.error failure), .quarantine first,
        .select (.error last)]
  | fallback (first : Member) (failure : Failure) (second : Member)
      (outcome : Except Failure Token) :
      WholeCourse [.select (.ok first), .mint first (.error failure), .quarantine first,
        .select (.ok second), .mint second outcome]

namespace Plan

theorem exists_path_done (plan : Plan α) : ∃ acts result, plan.Path acts (.done result) := by
  induction plan with
  | done result => exact ⟨[], result, .stay _⟩
  | select resume induction =>
      rcases induction (.error .rotationExhausted) with ⟨acts, result, path⟩
      exact ⟨_, result, .select _ path⟩
  | quarantine member rest induction =>
      rcases induction with ⟨acts, result, path⟩
      exact ⟨_, result, .quarantine member path⟩
  | mint member resume induction =>
      rcases induction (.error .rotationExhausted) with ⟨acts, result, path⟩
      exact ⟨_, result, .mint member _ path⟩

theorem acts_of_fallback {transform : Except Failure (Member × Token) → α} {acts : List Act}
    {result : α} (path : (fallback.map transform).Path acts (.done result)) :
    (∃ last, acts = [.select (.error last)]) ∨
    ∃ second outcome, acts = [.select (.ok second), .mint second outcome] := by
  rw [fallback, map] at path
  cases path with
  | select answer path =>
      cases answer with
      | error last =>
          cases path
          exact .inl ⟨last, rfl⟩
      | ok second =>
          cases path with
          | mint _ outcome path =>
              cases path
              exact .inr ⟨second, outcome, rfl⟩

theorem wholeCourse_of_done {forwarder : Forwarder} {request : InboundRequest} {acts : List Act}
    {result : Except Rejection Prepared}
    (path : (prepare forwarder request).Path acts (.done result)) : WholeCourse acts := by
  rw [prepare] at path
  cases valid : forwarder.validate request with
  | error failure =>
      rw [valid] at path
      cases path
      exact .refused
  | ok _ =>
      rw [valid] at path
      cases path with
      | select answer path =>
          cases answer with
          | error failure =>
              cases path
              exact .unavailable failure
          | ok first =>
              cases path with
              | mint _ outcome path =>
                  cases outcome with
                  | ok token =>
                      cases path
                      exact .minted first token
                  | error failure =>
                      cases path with
                      | quarantine _ path =>
                          rcases acts_of_fallback path with ⟨last, only⟩ | ⟨second, outcome, both⟩
                          · rw [only]
                            exact .alone first failure last
                          · rw [both]
                            exact .fallback first failure second outcome

/-- The calls that a preparation has made are the beginning of a whole course. -/
theorem exists_wholeCourse {forwarder : Forwarder} {request : InboundRequest} {acts : List Act}
    {rest : Plan (Except Rejection Prepared)} (path : (prepare forwarder request).Path acts rest) :
    ∃ more, WholeCourse (acts ++ more) := by
  rcases rest.exists_path_done with ⟨more, result, further⟩
  exact ⟨more, wholeCourse_of_done (path.append further)⟩

end Plan

namespace WholeCourse

variable {acts : List Act}

theorem selects_le (whole : WholeCourse acts) : acts.countP Act.isSelect ≤ 2 := by
  cases whole with
  | refused | unavailable | minted | alone | fallback => simp [List.countP_cons, Act.isSelect]

theorem quarantines_le (whole : WholeCourse acts) : acts.countP Act.isQuarantine ≤ 1 := by
  cases whole with
  | refused | unavailable | minted | alone | fallback => simp [List.countP_cons, Act.isQuarantine]

/-- A call for quarantine comes third, behind the selection of the member and a mint that failed. -/
theorem before_quarantine {before after : List Act} {member : Member}
    (whole : WholeCourse (before ++ .quarantine member :: after)) :
    ∃ failure, before = [.select (.ok member), .mint member (.error failure)] := by
  generalize together : before ++ .quarantine member :: after = acts at whole
  have third : acts[before.length]? = some (.quarantine member) := by simp [← together]
  have front : before = acts.take before.length := by simp [← together]
  generalize before.length = length at third front
  cases whole with
  | refused | unavailable | minted => grind
  | alone first failure last => grind
  | fallback first failure second outcome => grind

end WholeCourse

end BearerProxy
