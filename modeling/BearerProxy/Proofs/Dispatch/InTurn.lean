import BearerProxy.Proofs.Credential.Loading
import BearerProxy.Proofs.Dispatch.Effects
import BearerProxy.Proofs.Rotation.Accounting
import BearerProxy.Proofs.Token.History

/-!
Service on the credentials of a loaded pool. No mint fails, so that nothing is put into quarantine: the
credentials serve the requests in turn, and no request is given up for want of one.
-/

namespace BearerProxy

/-! Rotations that have lost no member. -/

namespace Rotation

def inTurn (members : List Member) (count : Nat) : Rotation :=
  { members, available := members, quarantined := [], cursor := count % members.length, served := count }

theorem ofMembers_eq_inTurn (members : List Member) : ofMembers members = inTurn members 0 := by
  rw [ofMembers, inTurn, Nat.zero_mod]

theorem advance_inTurn (members : List Member) (count : Nat) :
    (inTurn members count).advance = inTurn members (count + 1) := by
  have moved : (count % members.length + 1) % members.length = (count + 1) % members.length := by
    rw [Nat.mod_add_mod]
  simp only [advance, inTurn, moved]

theorem consistent_inTurn {credentials : List Credential} (nonempty : credentials ≠ []) (count : Nat) :
    (inTurn (numberMembers 0 credentials) count).Consistent where
  distinct := (Consistent.ofMembers nonempty).distinct
  ordered := List.Sublist.refl _
  partition := (Consistent.ofMembers nonempty).partition
  cursor := by
    left
    rw [inTurn, length_numberMembers]
    exact Nat.mod_lt count (List.length_pos_iff.mpr nonempty)

theorem getElem?_numberMembers (position : Nat) (credentials : List Credential) (index : Nat) :
    (numberMembers position credentials)[index]? =
      credentials[index]?.map fun credential => ⟨position + index, credential⟩ := by
  induction credentials generalizing position index with
  | nil => rfl
  | cons credential credentials induction =>
      cases index with
      | zero => rfl
      | succ index =>
          rw [numberMembers, List.getElem?_cons_succ, List.getElem?_cons_succ, induction,
            Nat.add_assoc, Nat.add_comm 1]

theorem next_inTurn {credentials : List Credential} (nonempty : credentials ≠ []) (count : Nat) :
    ∃ credential, credentials[count % credentials.length]? = some credential ∧
      (inTurn (numberMembers 0 credentials) count).available[
          (inTurn (numberMembers 0 credentials) count).cursor]? =
        some ⟨count % credentials.length, credential⟩ := by
  have inside := Nat.mod_lt count (List.length_pos_iff.mpr nonempty)
  refine ⟨_, List.getElem?_eq_getElem inside, ?_⟩
  simp only [inTurn, length_numberMembers, getElem?_numberMembers, Nat.zero_add]
  rw [List.getElem?_eq_getElem inside]
  rfl

end Rotation

/-! One request. -/

def TokenSource.Serves (source : TokenSource τ) (members : List Member) : Prop :=
  ∀ member ∈ members, ∀ tokens, ∃ token after, (source.mint member tokens).value = (.ok token, after)

section

variable {credentials : List Credential} {state : DispatchState τ} {count : Nat}

theorem Dispatcher.course_inTurn (dispatcher : Dispatcher τ) (request : InboundRequest)
    (nonempty : credentials ≠ [])
    (serves : dispatcher.source.Serves (Rotation.numberMembers 0 credentials))
    (turn : state.rotation = .inTurn (Rotation.numberMembers 0 credentials) count)
    (valid : dispatcher.forwarder.validate request = .ok ()) :
    ∃ credential token outcome tokens,
      credentials[count % credentials.length]? = some credential ∧
      Course dispatcher request state [⟨⟨count % credentials.length, credential⟩, .ok token⟩] outcome
        ⟨.inTurn (Rotation.numberMembers 0 credentials) (count + 1), tokens⟩ ∧
      ∀ rejection, outcome = .error rejection → rejection.stage = .tokenMinted := by
  rcases Rotation.next_inTurn nonempty count with ⟨credential, isNext, selected⟩
  rw [← turn] at selected
  have member : ⟨count % credentials.length, credential⟩ ∈ Rotation.numberMembers 0 credentials := by
    have available := List.mem_of_getElem? selected
    rw [turn] at available
    exact available
  rcases serves _ member state.tokens with ⟨token, tokens, minted⟩
  have search : Search dispatcher.source ⟨count % credentials.length, credential⟩
      { state with rotation := state.rotation.advance } _ _ _ := .minted token tokens minted
  have moved : state.rotation.advance =
      .inTurn (Rotation.numberMembers 0 credentials) (count + 1) := by
    rw [turn, Rotation.advance_inTurn]
  rw [← moved]
  cases rebuilt : dispatcher.forwarder.prepared request token.value with
  | error failure =>
      refine ⟨credential, token, _, tokens, isNext, .unbuilt _ _ token _ failure _ valid selected search
        rebuilt, ?_⟩
      intro rejection rejected
      cases rejected
      rfl
  | ok outbound =>
      exact ⟨credential, token, _, tokens, isNext, .built _ _ token _ outbound _ valid selected search
        rebuilt, nofun⟩

theorem Dispatcher.prepare_of_refused {dispatcher : Dispatcher τ} {request : InboundRequest}
    {failure : Failure} (state : DispatchState τ)
    (refused : dispatcher.forwarder.validate request = .error failure) :
    (dispatcher.prepare request state).value = (.error ⟨.start, failure⟩, state) := by
  rw [prepare, refused]
  rfl

theorem Dispatcher.prepare_inTurn (dispatcher : Dispatcher τ) (request : InboundRequest)
    (nonempty : credentials ≠ [])
    (serves : dispatcher.source.Serves (Rotation.numberMembers 0 credentials))
    (turn : state.rotation = .inTurn (Rotation.numberMembers 0 credentials) count) :
    (dispatcher.prepare request state).value.2.rotation =
      .inTurn (Rotation.numberMembers 0 credentials)
        (count + if (dispatcher.forwarder.validate request).isOk then 1 else 0) := by
  cases valid : dispatcher.forwarder.validate request with
  | error failure =>
      rw [prepare_of_refused state valid]
      exact turn
  | ok _ =>
      have consistent : state.rotation.Consistent := by
        rw [turn]
        exact Rotation.consistent_inTurn nonempty count
      rcases dispatcher.course_inTurn request nonempty serves turn valid with
        ⟨credential, token, outcome, tokens, isNext, course, -⟩
      rw [course.value_eq consistent]
      rfl

end

/-! The issuer. -/

theorem ClockedIssuer.serves {members : List Member}
    (complete : ∀ member ∈ members, member.credential.missingFields = []) :
    ClockedIssuer.source.Serves members := by
  intro member isMember clocked
  have minted := clocked.issuer.mint_value clocked.now member.credential
  rw [complete member isMember] at minted
  simp only [List.isEmpty_nil, if_true] at minted
  simp only [ClockedIssuer.source, Reported.value_bind, Reported.value_pure]
  split at minted
  · rename_i token _
    rw [minted]
    exact ⟨token, _, rfl⟩
  · rw [minted]
    exact ⟨_, _, rfl⟩

/-! Service. -/

/-- What can happen between the start of a service and its end: a request is prepared or run, or something is
done with the issuer or its clock. -/
inductive ServiceStep (σ : Type u)
  | prepare (request : InboundRequest)
  | run (request : InboundRequest) (client : σ)
  | issuer (step : IssuerStep)

def ServiceStep.request? : ServiceStep σ → Option InboundRequest
  | .prepare request | .run request _ => some request
  | .issuer _ => none

structure Service (ε : Type u) where
  state : DispatchState ClockedIssuer
  connection : ε

namespace Service

def dispatcher (forwarder : Forwarder) : Dispatcher ClockedIssuer :=
  ⟨ClockedIssuer.source, forwarder⟩

def perform (forwarder : Forwarder) (exchange : Exchange ε) (sink : Sink σ) (service : Service ε) :
    ServiceStep σ → Service ε
  | .prepare request =>
      { service with state := ((dispatcher forwarder).prepare request service.state).value.2 }
  | .run request client =>
      let run := ((dispatcher forwarder).run exchange sink request service.state service.connection
        client).value
      ⟨run.state, run.connection⟩
  | .issuer step =>
      { service with state := { service.state with tokens := service.state.tokens.perform step } }

def after (forwarder : Forwarder) (exchange : Exchange ε) (sink : Sink σ) (service : Service ε)
    (steps : List (ServiceStep σ)) : Service ε :=
  steps.foldl (perform forwarder exchange sink) service

end Service

def turnsTaken (forwarder : Forwarder) (steps : List (ServiceStep σ)) : Nat :=
  (steps.filterMap ServiceStep.request?).countP fun request => (forwarder.validate request).isOk

theorem turnsTaken_of_request {forwarder : Forwarder} {step : ServiceStep σ}
    {request : InboundRequest} (requests : step.request? = some request) :
    turnsTaken forwarder [step] = if (forwarder.validate request).isOk then 1 else 0 := by
  rw [turnsTaken, List.filterMap_cons_some requests, List.filterMap_nil, List.countP_singleton]

theorem turnsTaken_cons (forwarder : Forwarder) (step : ServiceStep σ) (steps : List (ServiceStep σ)) :
    turnsTaken forwarder (step :: steps) =
      turnsTaken forwarder [step] + turnsTaken forwarder steps := by
  rw [turnsTaken, ← List.singleton_append, List.filterMap_append, List.countP_append]
  rfl

section

variable {credentials : List Credential} {count : Nat}

theorem Service.perform_inTurn (nonempty : credentials ≠ [])
    (complete : ∀ member ∈ Rotation.numberMembers 0 credentials,
      member.credential.missingFields = [])
    (forwarder : Forwarder) (exchange : Exchange ε) (sink : Sink σ) (service : Service ε)
    (turn : service.state.rotation = .inTurn (Rotation.numberMembers 0 credentials) count)
    (step : ServiceStep σ) :
    (service.perform forwarder exchange sink step).state.rotation =
      .inTurn (Rotation.numberMembers 0 credentials) (count + turnsTaken forwarder [step]) := by
  have serves := ClockedIssuer.serves complete
  have prepares (request : InboundRequest) :=
    (dispatcher forwarder).prepare_inTurn request nonempty serves turn
  cases step with
  | prepare request =>
      rw [perform, prepares, turnsTaken_of_request rfl]
      rfl
  | run request client =>
      rw [perform, Dispatcher.run_state, prepares, turnsTaken_of_request rfl]
      rfl
  | issuer step => exact turn

theorem Service.after_inTurn (nonempty : credentials ≠ [])
    (complete : ∀ member ∈ Rotation.numberMembers 0 credentials,
      member.credential.missingFields = [])
    (forwarder : Forwarder) (exchange : Exchange ε) (sink : Sink σ) (service : Service ε)
    (turn : service.state.rotation = .inTurn (Rotation.numberMembers 0 credentials) count)
    (steps : List (ServiceStep σ)) :
    (service.after forwarder exchange sink steps).state.rotation =
      .inTurn (Rotation.numberMembers 0 credentials) (count + turnsTaken forwarder steps) := by
  induction steps generalizing service count with
  | nil => exact turn
  | cons step steps induction =>
      have next := perform_inTurn nonempty complete forwarder exchange sink service turn step
      rw [turnsTaken_cons, ← Nat.add_assoc]
      exact induction _ next

end

/-- Where a service stands on the credentials of a pool that has taken a number of turns, and what every
further request comes to there. -/
structure NeverFailsOver (pool : Pool) (dispatcher : Dispatcher ClockedIssuer) (count : Nat)
    (state : DispatchState ClockedIssuer) : Prop where
  failed : state.rotation.stats.failed = 0
  totalRequests : state.rotation.stats.totalRequests = count
  mints : ∀ member ∈ state.rotation.members,
    ∃ token, (dispatcher.source.mint member state.tokens).value.1 = .ok token
  turn : ∀ request, dispatcher.forwarder.validate request = .ok () → ∃ member token,
    pool.credentials[count % pool.size]? = some member.credential ∧
    member.position = count % pool.size ∧
    dispatcher.attempts request state = [⟨member, .ok token⟩] ∧
    (dispatcher.prepare request state).value.2.rotation.stats =
      { state.rotation.stats with totalRequests := count + 1 }
  refused : ∀ request failure, dispatcher.forwarder.validate request = .error failure →
    dispatcher.attempts request state = [] ∧
      (dispatcher.prepare request state).value = (.error ⟨.start, failure⟩, state)
  prepared : ∀ request rejection, (dispatcher.prepare request state).value.1 = .error rejection →
    rejection.stage = .start ∨ rejection.stage = .tokenMinted
  run : ∀ {ε σ : Type} (exchange : Exchange ε) (sink : Sink σ) request connection client rejection,
    (dispatcher.run exchange sink request state connection client).value.result =
      .rejected rejection →
    rejection.stage = .start ∨ rejection.stage = .tokenMinted ∨ rejection.stage = .authorized

theorem Dispatcher.prepared_of_inTurn {credentials : List Credential} {count : Nat}
    {state : DispatchState τ} (dispatcher : Dispatcher τ) (request : InboundRequest)
    (nonempty : credentials ≠ [])
    (serves : dispatcher.source.Serves (Rotation.numberMembers 0 credentials))
    (turn : state.rotation = .inTurn (Rotation.numberMembers 0 credentials) count)
    {rejection : Rejection} (rejected : (dispatcher.prepare request state).value.1 = .error rejection) :
    rejection.stage = .start ∨ rejection.stage = .tokenMinted := by
  cases valid : dispatcher.forwarder.validate request with
  | error failure =>
      rw [prepare_of_refused state valid] at rejected
      cases rejected
      exact .inl rfl
  | ok _ =>
      have consistent : state.rotation.Consistent := by
        rw [turn]
        exact Rotation.consistent_inTurn nonempty count
      rcases dispatcher.course_inTurn request nonempty serves turn valid with
        ⟨credential, token, outcome, tokens, isNext, course, stage⟩
      rw [course.value_eq consistent] at rejected
      exact .inr (stage rejection rejected)

theorem Service.neverFailsOver {pool : Pool}
    (complete : ∀ member ∈ Rotation.numberMembers 0 pool.credentials,
      member.credential.missingFields = [])
    (forwarder : Forwarder) {count : Nat} {state : DispatchState ClockedIssuer}
    (turn : state.rotation = .inTurn (Rotation.numberMembers 0 pool.credentials) count) :
    NeverFailsOver pool (dispatcher forwarder) count state := by
  have serves := ClockedIssuer.serves complete
  have consistent : state.rotation.Consistent := by
    rw [turn]
    exact Rotation.consistent_inTurn pool.nonempty count
  have prepared (request : InboundRequest) (rejection : Rejection) :=
    @Dispatcher.prepared_of_inTurn _ _ _ _ (dispatcher forwarder) request pool.nonempty serves turn
      rejection
  constructor
  case failed =>
    rw [turn]
    rfl
  case totalRequests =>
    rw [turn]
    rfl
  case mints =>
    intro member isMember
    rw [turn] at isMember
    rcases serves member isMember state.tokens with ⟨token, tokens, minted⟩
    exact ⟨token, congrArg Prod.fst minted⟩
  case turn =>
    intro request valid
    rcases (dispatcher forwarder).course_inTurn request pool.nonempty serves turn valid with
      ⟨credential, token, outcome, tokens, isNext, course, -⟩
    refine ⟨⟨_, credential⟩, token, isNext, rfl, course.attempts_eq consistent, ?_⟩
    rw [course.value_eq consistent, turn]
    rfl
  case refused =>
    intro request failure refused
    exact ⟨(Course.refused failure refused).attempts_eq consistent,
      Dispatcher.prepare_of_refused state refused⟩
  case prepared => exact prepared
  case run =>
    intro _ _ exchange sink request connection client rejection rejected
    rcases Dispatcher.rejected_of_run rejected with early | late
    · rcases prepared request rejection early with start | minted
      · exact .inl start
      · exact .inr (.inl minted)
    · exact .inr (.inr late)

theorem Rotation.credential_mem_of_mem_numberMembers {position : Nat} {credentials : List Credential}
    {member : Member} (isMember : member ∈ numberMembers position credentials) :
    member.credential ∈ credentials := by
  rcases List.mem_iff_getElem?.mp isMember with ⟨index, found⟩
  rw [getElem?_numberMembers] at found
  rcases Option.map_eq_some_iff.mp found with ⟨credential, stands, same⟩
  rw [← same]
  exact List.mem_of_getElem? stands

/-- Whatever document is loaded and whatever is requested of the service, it never fails over. -/
theorem Pool.load_neverFailsOver {document : ByteArray} {pool : Pool}
    (loaded : (load document).value = .ok pool) (policy : TokenPolicy) (now : UInt64)
    (forwarder : Forwarder) (exchange : Exchange ε) (sink : Sink σ) (connection : ε) :
    ∃ rotation, (Rotation.ofPool pool).value = .ok rotation ∧
      ∀ steps, NeverFailsOver pool (Service.dispatcher forwarder) (turnsTaken forwarder steps)
        (Service.after forwarder exchange sink ⟨⟨rotation, .start policy now⟩, connection⟩
          steps).state := by
  have complete (member : Member) (isMember : member ∈ Rotation.numberMembers 0 pool.credentials) :
      member.credential.missingFields = [] :=
    complete_of_load loaded _ (Rotation.credential_mem_of_mem_numberMembers isMember)
  refine ⟨_, Rotation.new_eq_ok pool.nonempty, fun steps => ?_⟩
  have turn := Service.after_inTurn pool.nonempty complete forwarder exchange sink
    ⟨⟨_, .start policy now⟩, connection⟩ (Rotation.ofMembers_eq_inTurn _) steps
  rw [Nat.zero_add] at turn
  exact Service.neverFailsOver complete forwarder turn

def twoRecords : ByteArray :=
  ("[\x7b\"clientId\":\"north\",\"clientSecret\":\"a\\\"b\",\"tenant\":\"n\",\"name\":\"North\"\x7d, " ++
    "\x7b\"tenant\":\"s\",\"clientSecret\":\"ü\",\"clientId\":\"south\"\x7d]").toUTF8

theorem Pool.isOk_load_twoRecords : (load twoRecords).value.isOk := by
  decide +kernel

theorem Pool.load_neverFailsOver_twoRecords :
    ∃ pool, (load twoRecords).value = .ok pool ∧
      ∃ rotation, (Rotation.ofPool pool).value = .ok rotation ∧
        ∀ steps, NeverFailsOver pool (Service.dispatcher {}) (turnsTaken {} steps)
          (Service.after {} unreachable Collected.sink ⟨⟨rotation, .start {} 0⟩, ()⟩ steps).state := by
  cases loaded : (load twoRecords).value with
  | error failure =>
      have accepted := isOk_load_twoRecords
      rw [loaded] at accepted
      cases accepted
  | ok pool => exact ⟨pool, rfl, load_neverFailsOver loaded {} 0 {} unreachable Collected.sink ()⟩

end BearerProxy
