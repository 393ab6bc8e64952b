import BearerProxy.Proofs.Dispatch.Effects
import BearerProxy.Proofs.Dispatch.Plan
import BearerProxy.Proofs.Gateway.Authorization
import BearerProxy.Proofs.Rotation.Accounting

/-!
What clients can do to the credentials. Only an authorized reset brings a member back from quarantine, whatever
else is requested; the own endpoints never reach the backend, and all else that is requested of them changes
nothing.
-/

namespace BearerProxy

/-! What happens to a rotation without a reset. -/

structure Rotation.Narrowed (before after : Rotation) : Prop where
  available : ∀ member ∈ after.available, member ∈ before.available
  quarantined : ∀ member ∈ before.quarantined, member ∈ after.quarantined

namespace Rotation.Narrowed

variable {first before after : Rotation}

theorem refl (rotation : Rotation) : rotation.Narrowed rotation :=
  ⟨fun _ member => member, fun _ member => member⟩

theorem trans (narrowed : first.Narrowed before) (further : before.Narrowed after) :
    first.Narrowed after where
  available member isAvailable := narrowed.available member (further.available member isAvailable)
  quarantined member isQuarantined :=
    further.quarantined member (narrowed.quarantined member isQuarantined)

theorem next (rotation : Rotation) : rotation.Narrowed rotation.next.value.2 := by
  cases found : rotation.available[rotation.cursor]? with
  | none =>
      rw [next_of_none rotation found]
      exact refl rotation
  | some member =>
      rw [next_of_some rotation member found]
      exact ⟨fun _ isAvailable => isAvailable, fun _ isQuarantined => isQuarantined⟩

theorem quarantine (rotation : Rotation) (member : Member) :
    rotation.Narrowed (rotation.quarantine member).value := by
  cases found : rotation.available.find? fun candidate =>
      candidate.position == member.position with
  | none =>
      rw [quarantine_of_none rotation member found]
      exact refl rotation
  | some removed =>
      rw [quarantine_of_some rotation member removed found]
      exact
        { available := fun _ isOther => (List.mem_filter.mp isOther).1
          quarantined := fun _ isQuarantined => List.mem_append_left _ isQuarantined }

end Rotation.Narrowed

theorem Rotation.Reachable.perform {rotation : Rotation} (reachable : rotation.Reachable)
    (step : Rotation.Step) : (rotation.perform step).Reachable := by
  rcases reachable with ⟨credentials, start, steps, new, reached⟩
  exact ⟨credentials, start, steps ++ [step], new, by rw [run_append, reached]; rfl⟩

namespace Gateway

/-! Histories. -/

structure Visit where
  request : Request
  timestamp : String

structure Standing (τ : Type u) (ε : Type v) where
  state : DispatchState τ
  connection : ε

def visit (gateway : Gateway τ) (exchange : Exchange ε) (standing : Standing τ ε) (visit : Visit) :
    Standing τ ε :=
  let served := (gateway.serve exchange visit.request visit.timestamp standing.state
    standing.connection).value
  ⟨served.state, served.connection⟩

def visits (gateway : Gateway τ) (exchange : Exchange ε) (standing : Standing τ ε)
    (history : List Visit) : Standing τ ε :=
  history.foldl (gateway.visit exchange) standing

/-! The own endpoints. -/

def IsReserved (path : String) : Prop :=
  path = "/health" ∨ path = "/admin/stats" ∨ path = "/admin/quarantine/reset"

/-- An authorized reset. -/
structure Readmits (configured : Option String) (request : Request) : Prop where
  method : request.method = "POST"
  path : request.target.path = "/admin/quarantine/reset"
  authorized : Authorized configured request.headers

theorem Endpoint.at?_of_reserved {path : String} (reserved : IsReserved path) :
    ∃ endpoint, Endpoint.at? path = some endpoint := by
  rcases reserved with health | statistics | reset
  · exact ⟨.health, by rw [health]; rfl⟩
  · exact ⟨.statistics, by rw [statistics]; rfl⟩
  · exact ⟨.quarantineReset, by rw [reset]; rfl⟩

theorem Endpoint.at?_of_unreserved {path : String} (unreserved : ¬IsReserved path) :
    Endpoint.at? path = none := by
  rcases not_or.mp unreserved with ⟨health, others⟩
  rcases not_or.mp others with ⟨statistics, reset⟩
  rw [Endpoint.at?, if_neg health, if_neg statistics, if_neg reset]

theorem Endpoint.path_of_at? {path : String} (found : Endpoint.at? path = some .quarantineReset) :
    path = "/admin/quarantine/reset" := by
  rw [Endpoint.at?] at found
  split at found
  · cases found
  · split at found
    · cases found
    · split at found
      · rename_i reset
        exact reset
      · cases found

section

variable {dispatcher : Dispatcher τ} {configured : Option String} {exchange : Exchange ε}
  {request : Request} {endpoint : Endpoint} {state : DispatchState τ} {connection : ε}

theorem serve_of_endpoint (gateway : Gateway τ)
    (found : Endpoint.at? request.target.path = some endpoint) (timestamp : String) :
    (gateway.serve exchange request timestamp state connection).value =
      let served := (gateway.serveEndpoint endpoint request state).value
      ⟨served.1, served.2, connection⟩ := by
  rw [serve, found]
  rfl

theorem serveEndpoint_of_method (gateway : Gateway τ) (allowed : request.method ∈ endpoint.methods) :
    (gateway.serveEndpoint endpoint request state).value =
      let answered := (gateway.answer endpoint request.headers state).value
      (if request.method = "HEAD" then answered.1.withoutBody else answered.1, answered.2) := by
  rw [serveEndpoint, if_pos (List.contains_iff_mem.mpr allowed)]
  rfl

theorem serveEndpoint_of_otherMethod (gateway : Gateway τ)
    (other : request.method ∉ endpoint.methods) :
    (gateway.serveEndpoint endpoint request state).value = (endpoint.methodNotAllowed, state) := by
  rw [serveEndpoint, if_neg (fun allowed => other (List.contains_iff_mem.mp allowed))]
  rfl

theorem exists_fault (notAuthorized : ¬Authorized configured request.headers) :
    ∃ fault, checkOperator (configured.bind Text.trimmed?) request.headers = .error fault := by
  cases checked : checkOperator (configured.bind Text.trimmed?) request.headers with
  | error fault => exact ⟨fault, rfl⟩
  | ok _ => exact absurd ((checkOperator_eq_ok_iff configured request.headers).mp checked) notAuthorized

theorem serve_state_of_reserved (reserved : IsReserved request.target.path)
    (otherwise : ¬Readmits configured request) (timestamp : String) :
    ((new dispatcher configured).serve exchange request timestamp state connection).value.state =
      state := by
  rcases Endpoint.at?_of_reserved reserved with ⟨endpoint, found⟩
  rw [serve_of_endpoint _ found]
  by_cases allowed : request.method ∈ endpoint.methods
  · rw [serveEndpoint_of_method _ allowed]
    cases endpoint with
    | health => rfl
    | statistics =>
        simp only [answer, new]
        cases checkOperator (configured.bind Text.trimmed?) request.headers with
        | error fault => rfl
        | ok _ => rfl
    | quarantineReset =>
        have notAuthorized (authorized : Authorized configured request.headers) : False :=
          otherwise ⟨List.mem_singleton.mp allowed, Endpoint.path_of_at? found, authorized⟩
        rcases exists_fault notAuthorized with ⟨fault, refused⟩
        simp only [answer, new, refused]
        rfl
  · rw [serveEndpoint_of_otherMethod _ allowed]

theorem serve_connection_of_reserved (gateway : Gateway τ)
    (reserved : IsReserved request.target.path) (timestamp : String) :
    (gateway.serve exchange request timestamp state connection).value.connection = connection := by
  rcases Endpoint.at?_of_reserved reserved with ⟨endpoint, found⟩
  rw [serve_of_endpoint _ found]

theorem exists_refusal (path : request.target.path = "/admin/stats")
    (notAuthorized : ¬Authorized configured request.headers) :
    ∃ refusal : Response, refusal.status ≠ 200 ∧
      ∀ (dispatcher : Dispatcher τ) (exchange : Exchange ε) timestamp state connection,
        ((new dispatcher configured).serve exchange request timestamp state connection).value.response =
          refusal := by
  have found : Endpoint.at? request.target.path = some .statistics := by
    rw [path]
    rfl
  rcases exists_fault notAuthorized with ⟨fault, refused⟩
  have refusedStatus : fault.response.status ≠ 200 := by
    cases fault with
    | notConfigured => exact (by decide : 404 ≠ 200)
    | unauthorized => exact (by decide : 401 ≠ 200)
  by_cases allowed : request.method ∈ Endpoint.statistics.methods
  · have answers (dispatcher : Dispatcher τ) (exchange : Exchange ε) (timestamp : String)
        (state : DispatchState τ) (connection : ε) :
        ((new dispatcher configured).serve exchange request timestamp state connection).value.response =
          if request.method = "HEAD" then fault.response.withoutBody else fault.response := by
      rw [serve_of_endpoint _ found]
      simp only [serveEndpoint_of_method _ allowed, answer, new, refused]
      rfl
    refine ⟨_, ?_, answers⟩
    split
    · exact refusedStatus
    · exact refusedStatus
  · refine ⟨Endpoint.statistics.methodNotAllowed, (by decide : 405 ≠ 200), ?_⟩
    intro dispatcher exchange timestamp state connection
    rw [serve_of_endpoint _ found, serveEndpoint_of_otherMethod _ allowed]

theorem serve_of_readmits (readmits : Readmits configured request) (timestamp : String) :
    let served := ((new dispatcher configured).serve exchange request timestamp state connection).value
    served.response.status = 200 ∧ served.state.rotation = state.rotation.reset.value := by
  have found : Endpoint.at? request.target.path = some .quarantineReset := by
    rw [readmits.path]
    rfl
  have allowed : request.method ∈ Endpoint.quarantineReset.methods :=
    List.mem_singleton.mpr readmits.method
  have notHead : request.method ≠ "HEAD" := by
    rw [readmits.method]
    decide
  have passes := (checkOperator_eq_ok_iff configured request.headers).mpr readmits.authorized
  rw [serve_of_endpoint _ found, serveEndpoint_of_method _ allowed]
  simp only [if_neg notHead, answer, new, passes]
  exact ⟨rfl, rfl⟩

/-! What every request keeps. -/

theorem serve_state_of_unreserved (gateway : Gateway τ) (exchange : Exchange ε) (timestamp : String)
    (state : DispatchState τ) (connection : ε) (unreserved : ¬IsReserved request.target.path) :
    let served := (gateway.serve exchange request timestamp state connection).value
    served.state = state ∨
      ∃ inbound, served.state = (gateway.dispatcher.prepare inbound state).value.2 := by
  rw [serve, Endpoint.at?_of_unreserved unreserved]
  simp only [passThrough]
  cases readBody request with
  | error reason => exact .inl rfl
  | ok body =>
      refine .inr ⟨inbound request body, ?_⟩
      simp only [Reported.value_bind]
      exact Dispatcher.run_state _ exchange _ _ state connection _

/-- What the calls on a rotation keep, a request keeps; among them is a reset only if the request is an
authorized one. -/
theorem serve_keeps {keeps : Rotation → Prop}
    (next : ∀ rotation, keeps rotation → keeps rotation.next.value.2)
    (quarantine : ∀ rotation member, keeps rotation → keeps (rotation.quarantine member).value)
    (reset : Readmits configured request → ∀ rotation, keeps rotation → keeps rotation.reset.value)
    (holds : keeps state.rotation) (timestamp : String) :
    keeps ((new dispatcher configured).serve exchange request timestamp state
      connection).value.state.rotation := by
  by_cases readmits : Readmits configured request
  · rw [(serve_of_readmits readmits timestamp).2]
    exact reset readmits _ holds
  · by_cases reserved : IsReserved request.target.path
    · rw [serve_state_of_reserved reserved readmits]
      exact holds
    · rcases serve_state_of_unreserved (new dispatcher configured) exchange timestamp state
        connection reserved with same | ⟨inbound, prepared⟩
      · rw [same]
        exact holds
      · rw [prepared]
        exact Dispatcher.prepare_keeps next quarantine _ inbound state holds

end

theorem visits_keeps {keeps : Rotation → Prop}
    (next : ∀ rotation, keeps rotation → keeps rotation.next.value.2)
    (quarantine : ∀ rotation member, keeps rotation → keeps (rotation.quarantine member).value)
    (dispatcher : Dispatcher τ) (configured : Option String) (exchange : Exchange ε)
    (standing : Standing τ ε) (history : List Visit)
    (reset : ∀ visit ∈ history, Readmits configured visit.request →
      ∀ rotation, keeps rotation → keeps rotation.reset.value)
    (holds : keeps standing.state.rotation) :
    keeps ((new dispatcher configured).visits exchange standing history).state.rotation := by
  induction history generalizing standing with
  | nil => exact holds
  | cons visit history induction =>
      refine induction _ (fun other isOther => reset other (List.mem_cons_of_mem _ isOther)) ?_
      exact serve_keeps next quarantine (reset visit List.mem_cons_self) holds visit.timestamp

theorem visits_keeps_of_perform {keeps : Rotation → Prop}
    (perform : ∀ rotation step, keeps rotation → keeps (rotation.perform step))
    (dispatcher : Dispatcher τ) (configured : Option String) (exchange : Exchange ε)
    (standing : Standing τ ε) (history : List Visit) (holds : keeps standing.state.rotation) :
    keeps ((new dispatcher configured).visits exchange standing history).state.rotation :=
  visits_keeps (fun rotation => perform rotation .next)
    (fun rotation member => perform rotation (.quarantine member)) dispatcher configured exchange
    standing history (fun _ _ _ rotation => perform rotation .reset) holds

/-- Without an authorized reset members only go into quarantine. -/
theorem visits_narrowed (dispatcher : Dispatcher τ) (configured : Option String)
    (exchange : Exchange ε) (standing : Standing τ ε) (history : List Visit)
    (none : ∀ visit ∈ history, ¬Readmits configured visit.request) :
    standing.state.rotation.Narrowed
      ((new dispatcher configured).visits exchange standing history).state.rotation :=
  visits_keeps (fun rotation narrowed => narrowed.trans (.next rotation))
    (fun rotation member narrowed => narrowed.trans (.quarantine rotation member)) dispatcher
    configured exchange standing history
    (fun visit isVisit readmits => absurd readmits (none visit isVisit)) (.refl _)

theorem reset_restores {rotation : Rotation} (consistent : rotation.Consistent) :
    rotation.reset.value.available = rotation.members ∧ rotation.reset.value.quarantined = [] := by
  rw [Rotation.reset_value]
  split
  · rename_i empty
    have nothing := List.isEmpty_iff.mp empty
    have together := consistent.partition
    rw [nothing, List.append_nil] at together
    exact ⟨consistent.ordered.eq_of_length together.length_eq, nothing⟩
  · exact ⟨rfl, rfl⟩

theorem not_available_of_quarantined {rotation : Rotation} (consistent : rotation.Consistent)
    {member : Member} (quarantined : member ∈ rotation.quarantined) :
    member ∉ rotation.available := by
  have distinct := consistent.partition.nodup_iff.mpr (consistent.distinct.of_map _)
  exact fun available => (List.disjoint_of_nodup_append distinct) available quarantined

/-- What clients can do to the credentials with a history of requests and one more request behind it. -/
structure AccessControl (dispatcher : Dispatcher τ) (configured : Option String)
    (exchange : Exchange ε) (start : Standing τ ε) (history : List Visit)
    (reached : Standing τ ε) : Prop where
  reachable : reached.state.rotation.Reachable
  readmission : ∀ member ∈ start.state.rotation.quarantined,
    member ∉ reached.state.rotation.quarantined ∨ member ∈ reached.state.rotation.available →
    ∃ visit ∈ history, Readmits configured visit.request
  disclosure : ∀ request : Request, request.target.path = "/admin/stats" →
    ¬Authorized configured request.headers → ∃ refusal : Response, refusal.status ≠ 200 ∧
      ∀ (dispatcher : Dispatcher τ) (exchange : Exchange ε) timestamp state connection,
        ((new dispatcher configured).serve exchange request timestamp state connection).value.response =
          refusal
  unchanged : ∀ request timestamp, IsReserved request.target.path →
    ¬Readmits configured request → ((new dispatcher configured).serve exchange request timestamp
      reached.state reached.connection).value.state = reached.state
  unsent : ∀ request timestamp, IsReserved request.target.path →
    ((new dispatcher configured).serve exchange request timestamp reached.state
      reached.connection).value.connection = reached.connection
  granted : ∀ request timestamp text, configured = some text → ¬Text.isBlankText text →
    (∀ character ∈ text.toList, Http.HeaderValue.isTextCharacter character) →
    request.method = "POST" → request.target.path = "/admin/quarantine/reset" →
    Carries request.headers text →
    let served := ((new dispatcher configured).serve exchange request timestamp reached.state
      reached.connection).value
    served.response.status = 200 ∧
      served.state.rotation.available = start.state.rotation.members ∧
      served.state.rotation.quarantined = []

/-- Whatever has been requested, only an authorized reset brings members back, and one that carries the
token does. -/
theorem visits_accessControl (dispatcher : Dispatcher τ) (configured : Option String)
    (exchange : Exchange ε) (start : Standing τ ε) (reachable : start.state.rotation.Reachable)
    (history : List Visit) :
    AccessControl dispatcher configured exchange start history
      ((new dispatcher configured).visits exchange start history) := by
  have reached := visits_keeps_of_perform (fun _ step reachable => reachable.perform step) dispatcher
    configured exchange start history reachable
  have members := visits_keeps_of_perform
    (fun rotation step same => (rotation.members_perform step).trans same) dispatcher configured
    exchange start history (rfl : start.state.rotation.members = start.state.rotation.members)
  constructor
  case reachable => exact reached
  case readmission =>
    intro member quarantined readmitted
    by_contra none
    have narrowed := visits_narrowed dispatcher configured exchange start history
      fun visit isVisit readmits => none ⟨visit, isVisit, readmits⟩
    rcases readmitted with released | available
    · exact released (narrowed.quarantined member quarantined)
    · exact not_available_of_quarantined reachable.consistent quarantined
        (narrowed.available member available)
  case disclosure =>
    intro request path notAuthorized
    exact exists_refusal path notAuthorized
  case unchanged =>
    intro request timestamp reserved otherwise
    exact serve_state_of_reserved reserved otherwise timestamp
  case unsent =>
    intro request timestamp reserved
    exact serve_connection_of_reserved _ reserved timestamp
  case granted =>
    intro request timestamp text isConfigured visible plain method path carries
    have readmits : Readmits configured request :=
      ⟨method, path, text, isConfigured, visible, presents_of_carries carries plain visible⟩
    have restored := reset_restores reached.consistent
    rcases serve_of_readmits readmits timestamp with ⟨status, resets⟩
    refine ⟨status, ?_, ?_⟩
    · rw [resets, restored.1, members]
    · rw [resets, restored.2]

def outageHistory : List Visit :=
  let target := fun path => (⟨none, "", path⟩ : Http.Target)
  [{ request := ⟨"GET", target "/hello", .empty, .ok .empty⟩, timestamp := "first" },
   { request := ⟨"POST", target "/admin/quarantine/reset",
      .ofList [("x-admin-token", valueOf "secret".toList)], .ok .empty⟩, timestamp := "second" }]

theorem visits_accessControl_outage :
    beforeOutage.rotation.Reachable ∧
      AccessControl ⟨outage, {}⟩ (some "secret") unreachable ⟨beforeOutage, ()⟩ outageHistory
        ((new ⟨outage, {}⟩ (some "secret")).visits unreachable ⟨beforeOutage, ()⟩ outageHistory) :=
  have reachable : beforeOutage.rotation.Reachable := .ofMembers (List.cons_ne_nil _ _)
  ⟨reachable, visits_accessControl ⟨outage, {}⟩ (some "secret") unreachable ⟨beforeOutage, ()⟩ reachable
    outageHistory⟩

/-- The outage takes the first member out of rotation, and the reset brings it back. -/
example :
    let quarantined := fun count =>
      ((new ⟨outage, {}⟩ (some "secret")).visits unreachable ⟨beforeOutage, ()⟩
        (outageHistory.take count)).state.rotation.quarantined.map Member.position
    quarantined 1 = [0] ∧ quarantined 2 = [] := by
  decide +kernel

end Gateway

end BearerProxy
