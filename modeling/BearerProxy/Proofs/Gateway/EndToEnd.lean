import BearerProxy.Gateway
import BearerProxy.Proofs.Dispatch.Effects
import BearerProxy.Proofs.Gateway.Handover
import BearerProxy.Proofs.Http.Headers
import BearerProxy.Proofs.Json.Values

/-!
From a request to what its client has of the answer. That is the reply to a rejected request, or the response
of the backend with its body up to the first failure, however the relay and the client take turns.
-/

namespace BearerProxy

/-! The JSON body of a reply, read back as the object of its members. -/

namespace Rejection

theorem members_reply (rejection : Rejection) (timestamp : String) :
    (rejection.reply timestamp).members =
      [("error", .string rejection.failure.code.text),
       ("message", .string rejection.failure.code.message), ("timestamp", .string timestamp),
       ("details", .string rejection.failure.message),
       ("context", .object [("state", .string rejection.stage.text)])] := rfl

theorem parse?_body (rejection : Rejection) (timestamp : String) :
    Json.parse? (rejection.reply timestamp).body.renderBytes =
      some (Json.ofMembers (rejection.reply timestamp).members) := by
  rw [Json.parse?_renderBytes, Reply.body, members_reply]
  refine Json.parseCharacters?_encode_object _ _ fun member isMember limit positive => ?_
  simp only [List.mem_cons, List.not_mem_nil, or_false] at isMember
  rcases isMember with rfl | rfl | rfl | rfl | rfl
  · exact Json.readsBack_string _ _ _
  · exact Json.readsBack_string _ _ _
  · exact Json.readsBack_string _ _ _
  · exact Json.readsBack_string _ _ _
  · refine Json.readsBack_object positive (List.pairwise_singleton _ _) ?_
    simp [Json.readsBack_string]

theorem get?_error (rejection : Rejection) (timestamp : String) :
    (Json.ofMembers (rejection.reply timestamp).members).get? "error" =
      some (.string rejection.failure.code.text) := by
  rw [members_reply, Json.ofMembers, Json.get?, Keyed.ofList]
  simp [Keyed.lookup?_insert]

end Rejection

/-! The plan of a run. -/

namespace ClientPlan

theorem heads_map (transform : α → β) (plan : ClientPlan α) :
    (plan.map transform).heads = plan.heads := by
  induction plan with
  | done result => rfl
  | head status headers resume induction => exact congrArg ((status, headers) :: ·) (induction true)
  | chunk bytes resume induction => exact induction true
  | abort failure rest induction => exact induction

theorem parcels_map (transform : α → β) (plan : ClientPlan α) :
    (plan.map transform).parcels = plan.parcels := by
  induction plan with
  | done result => rfl
  | head status headers resume induction => exact induction true
  | chunk bytes resume induction => exact congrArg (.chunk bytes :: ·) (induction true)
  | abort failure rest induction => exact congrArg (.broken failure.message :: ·) induction

theorem heads_relay (bytes chunks : Nat) (items : List StreamItem) :
    (relay bytes chunks items).heads = [] := by
  induction items generalizing bytes chunks with
  | nil => rfl
  | cons item items induction =>
      cases item with
      | failure failure => rfl
      | chunk piece =>
          rw [relay]
          split
          · exact induction bytes chunks
          · exact induction _ _

theorem parcels_relay (bytes chunks : Nat) (items : List StreamItem) :
    (relay bytes chunks items).parcels =
      (Body.deliverable items).map .chunk ++ (Body.breakOff? items).toList.map .broken := by
  induction items generalizing bytes chunks with
  | nil => rfl
  | cons item items induction =>
      cases item with
      | failure failure => rfl
      | chunk piece =>
          rw [relay]
          split
          · rename_i empty
            rw [Body.deliverable_cons_empty empty]
            exact induction bytes chunks
          · rename_i filled
            rw [Body.deliverable_cons_chunk filled]
            exact congrArg (.chunk piece :: ·) (induction _ _)

end ClientPlan

/-! What the client has. -/

namespace Parcel

def bytes? : Parcel → Option ByteArray
  | .chunk bytes => some bytes
  | .broken _ => none

theorem filterMap_bytes? (chunks : List ByteArray) :
    (chunks.map chunk).filterMap bytes? = chunks := by
  rw [List.filterMap_map]
  exact List.filterMap_some

theorem prefix_of_prefix {read chunks : List ByteArray} {brokenOff : Option String}
    (inOrder : read.map chunk <+: chunks.map chunk ++ brokenOff.toList.map broken) :
    read <+: chunks := by
  have without := inOrder.filterMap bytes?
  have noBytes : (brokenOff.toList.map broken).filterMap bytes? = [] := by
    cases brokenOff with
    | none => rfl
    | some reason => rfl
  rw [List.filterMap_append, filterMap_bytes?, filterMap_bytes?, noBytes, List.append_nil] at without
  exact without

end Parcel

namespace Handover

def response? (timestamp : String) (state : Handover RunResult) : Option Gateway.Response :=
  match state.head, state.reader with
  | some head, .finished brokenOff =>
      some { status := head.1, headers := head.2, body := Body.joined state.received, brokenOff }
  | none, .listening =>
      state.plan.result?.map fun result => (Gateway.conclude result {} timestamp).value
  | _, _ => none

section

variable {plan : ClientPlan RunResult} {state : Handover RunResult} {timestamp : String}
  {response : Gateway.Response}

theorem response?_isSome (timestamp : String) (state : Handover RunResult) :
    (state.response? timestamp).isSome = state.isSettled := by
  rw [response?, isSettled]
  cases state.head with
  | some head =>
      cases state.reader with
      | listening => rfl
      | finished brokenOff => rfl
      | left => rfl
  | none =>
      cases state.reader with
      | listening => exact Option.isSome_map
      | finished brokenOff => rfl
      | left => rfl

theorem reader_of_response? (has : state.response? timestamp = some response) :
    state.reader ≠ .left := by
  intro left
  rw [response?, left] at has
  split at has
  · rename_i finished
    cases finished
  · rename_i listening
    cases listening
  · cases has

theorem response?_of_done {result : RunResult} (orderly : Orderly (.done result) state)
    (has : state.response? timestamp = some response) :
    response = (Gateway.conclude result {} timestamp).value := by
  have stays := reader_of_response? has
  have heads := orderly.announced stays
  have noHead : state.head = none :=
    Option.toList_eq_nil_iff.mp (List.append_eq_nil_iff.mp heads).1
  rw [orderly.untouched stays noHead] at has
  exact (Option.some.inj has).symm

theorem response?_of_announced {status : Nat} {headers : Http.Headers} {chunks : List ByteArray}
    {brokenOff : Option String} (heads : plan.heads = [(status, headers)])
    (parcels : plan.parcels = chunks.map .chunk ++ brokenOff.toList.map .broken)
    (orderly : Orderly plan state) (has : state.response? timestamp = some response) :
    response = { status, headers, body := Body.joined chunks, brokenOff } := by
  have stays := reader_of_response? has
  have announced := orderly.announced stays
  have complete := orderly.complete stays
  rw [response?] at has
  split at has
  · rename_i head found hasHead finished
    have nothingBehind (clean : found = none) : state.queue ++ state.plan.parcels = [] := by
      rcases orderly.ended (finished.trans (congrArg Reader.finished clean)) with ⟨empty, ends⟩
      rw [empty, ClientPlan.parcels_eq_nil_of_result ends]
      rfl
    rw [Handover.parcels, finished, Reader.parcels, parcels] at complete
    rcases Parcel.eq_of_append_eq nothingBehind complete with ⟨all, sameBreak⟩
    rw [heads, hasHead, Option.toList_some] at announced
    cases (List.cons_eq_cons.mp announced).1
    rw [← Option.some.inj has, all, sameBreak]
  · rename_i noHead listening
    rw [orderly.untouched stays noHead, start] at has
    cases plan with
    | done result => cases heads
    | head => cases has
    | chunk => cases has
    | abort => cases has
  · cases has

end

end Handover

/-- However the relay and the client take turns, the client reads the pieces in their order, and once it
has got all, that is the response. A client that stays can always get so far. -/
structure Faithful (timestamp : String) (pieces : List ByteArray) (response : Gateway.Response)
    (state : Handover RunResult) : Prop where
  bounded : state.queue.length ≤ Handover.capacity
  inOrder : state.received <+: pieces
  bytes : ∃ rest, Body.joined pieces = Body.joined state.received ++ rest
  sound : ∀ received, state.response? timestamp = some received → received = response
  complete : state.reader ≠ .left → ∃ turns, (∀ turn ∈ turns, turn ≠ .leave) ∧
    (state.run turns).response? timestamp = some response

theorem Handover.Orderly.faithful {plan : ClientPlan RunResult} {timestamp : String}
    {chunks : List ByteArray} {brokenOff : Option String} {response : Gateway.Response}
    {state : Handover RunResult} (announces : plan.AnnouncesOnce)
    (parcels : plan.parcels = chunks.map .chunk ++ brokenOff.toList.map .broken)
    (sound : ∀ after, Orderly plan after → ∀ received,
      after.response? timestamp = some received → received = response)
    (orderly : Orderly plan state) : Faithful timestamp chunks response state := by
  have inOrder : state.received <+: chunks := by
    have inOrder := orderly.inOrder
    rw [parcels] at inOrder
    exact Parcel.prefix_of_prefix inOrder
  constructor
  case bounded => exact orderly.bounded
  case inOrder => exact inOrder
  case bytes =>
    rcases inOrder with ⟨others, together⟩
    exact ⟨Body.joined others, by rw [← together, Body.joined_append]⟩
  case sound => exact sound state orderly
  case complete =>
    intro stays
    rcases orderly.settles announces stays with ⟨turns, remain, -, settled⟩
    rw [← response?_isSome timestamp] at settled
    rcases Option.isSome_iff_exists.mp settled with ⟨received, has⟩
    refine ⟨turns, remain, ?_⟩
    rw [has, sound _ (orderly.run announces turns) received has]

/-! The gateway. -/

namespace Gateway

namespace Transmission

theorem receive (chunks : List ByteArray) (transmission : Transmission) :
    sink.receive chunks transmission =
      ⟨chunks, none, { transmission with chunks := transmission.chunks ++ chunks }⟩ := by
  induction chunks generalizing transmission with
  | nil => rw [Sink.receive, List.append_nil]
  | cons chunk chunks induction =>
      rw [Sink.receive_of_taken rfl, induction, List.append_assoc]
      rfl

theorem passOn_value (credential : String) (response : BackendResponse) :
    (Dispatcher.passOn sink credential response {}).value.2 =
      { head := some (response.status, relayedHeaders response.headers)
        chunks := Body.deliverable response.body
        brokenOff := Body.breakOff? response.body } := by
  simp only [Dispatcher.passOn, sink, Reported.value_bind]
  change (sink.relay response.body _).value.2 = _
  rw [Sink.relay, Sink.relayFrom_value]
  simp only [receive, Sink.settle, Reception.abort?, Body.breakOff?]
  cases Body.firstFailure? response.body with
  | none => rfl
  | some failure => rfl

end Transmission

section

variable {gateway : Gateway τ} {exchange : Exchange ε} {request : Request} {timestamp : String}
  {state : DispatchState τ} {connection : ε} {body : ByteArray}

theorem readBody_of_fits (read : request.body = .ok body) (fits : body.size ≤ longestBody) :
    readBody request = .ok body := by
  rw [readBody, read]
  exact if_neg (Nat.not_lt.mpr fits)

theorem serve_of_fallback (fallback : Endpoint.at? request.target.path = none)
    (read : readBody request = .ok body) :
    (gateway.serve exchange request timestamp state connection).value =
      let run := (gateway.dispatcher.run exchange Transmission.sink (inbound request body) state
        connection {}).value
      ⟨(conclude run.result run.client timestamp).value, run.state, run.connection⟩ := by
  rw [serve, fallback]
  simp only [passThrough, read]
  rfl

/-- With a head from the backend the client gets that and what came behind it, whatever the run came to. -/
theorem conclude_of_head (result : RunResult) (status : Nat) (headers : Http.Headers)
    (chunks : List ByteArray) (brokenOff : Option String) (timestamp : String) :
    (conclude result { head := some (status, headers), chunks, brokenOff } timestamp).value =
      { status, headers, body := Body.joined chunks, brokenOff } := by
  cases result with
  | dispatched dispatched => rfl
  | rejected rejection => rfl
  | crashed => rfl

theorem serve_response (fallback : Endpoint.at? request.target.path = none)
    (read : readBody request = .ok body) {plan : ClientPlan RunResult}
    (isPlan : ClientPlan.run gateway.dispatcher exchange (inbound request body) state connection =
      plan) :
    (gateway.serve exchange request timestamp state connection).value.response =
      (conclude (plan.execute Transmission.sink {}).1 (plan.execute Transmission.sink {}).2
        timestamp).value := by
  rw [serve_of_fallback fallback read, ← isPlan, ClientPlan.execute_run]

end

structure IsReplyTo (rejection : Rejection) (timestamp : String) (response : Response) : Prop where
  reply : response = .ofReply (rejection.reply timestamp)
  status : response.status = rejection.failure.status
  json : response.headers.values "content-type" = [⟨"application/json".toUTF8.toList⟩]
  code : ∃ body, Json.parse? response.body = some body ∧
    body.get? "error" = some (.string rejection.failure.code.text)
  whole : response.brokenOff = none

theorem values_json (status : Nat) (body : Json) :
    (Response.json status body).headers.values "content-type" =
      [⟨"application/json".toUTF8.toList⟩] := by
  have type : Text.lowerAscii "content-type" = "content-type" := by decide
  have length : Text.lowerAscii "content-length" = "content-length" := by decide
  simp [Response.json, Response.whole, Http.Headers.ofList, Http.Headers.values, type, length]

theorem body_ofReply (reply : Reply) : (Response.ofReply reply).body = reply.body.renderBytes := by
  rw [Response.ofReply, Response.json, Response.whole]

theorem isReplyTo_ofReply (rejection : Rejection) (timestamp : String) :
    IsReplyTo rejection timestamp (.ofReply (rejection.reply timestamp)) where
  reply := rfl
  status := rfl
  json := values_json _ _
  code := by
    rw [body_ofReply]
    exact ⟨_, rejection.parse?_body timestamp, rejection.get?_error timestamp⟩
  whole := rfl

structure IsRelayOf (answer : BackendResponse) (response : Response) : Prop where
  status : response.status = answer.status
  values : ∀ name, response.headers.values name =
    if Text.lowerAscii name ∈ ["connection", "transfer-encoding"] then []
    else answer.headers.values name
  body : response.body = Body.joined (Body.chunks answer.body)
  clean : response.brokenOff = none ↔ ∀ failure, StreamItem.failure failure ∉ answer.body

def relayed (answer : BackendResponse) : Response :=
  { status := answer.status
    headers := relayedHeaders answer.headers
    body := Body.joined (Body.deliverable answer.body)
    brokenOff := Body.breakOff? answer.body }

theorem isRelayOf_relayed (answer : BackendResponse) : IsRelayOf answer (relayed answer) where
  status := rfl
  values name := answer.headers.values_without hopHeaders name
  body := Body.joined_deliverable answer.body
  clean := by
    rw [relayed, Body.breakOff?, Option.map_eq_none_iff]
    exact Body.firstFailure?_eq_none_iff answer.body

/-- The two ways in which a request is answered, with the pieces of a body that go through the channel. -/
inductive Answered (dispatcher : Dispatcher τ) (exchange : Exchange ε) (request : InboundRequest)
    (state : DispatchState τ) (connection : ε) (timestamp : String) :
    List ByteArray → Response → Prop
  | rejected (rejection : Rejection) (response : Response)
      (cause : (dispatcher.prepare request state).value.1 = .error rejection ∨
        ∃ prepared failure, (dispatcher.prepare request state).value.1 = .ok prepared ∧
          (exchange.send prepared.outbound connection).value.1 = .failure failure ∧
          rejection = ⟨.authorized, .exchange failure⟩)
      (reply : IsReplyTo rejection timestamp response) :
      Answered dispatcher exchange request state connection timestamp [] response
  | relayed (prepared : Prepared) (answer : BackendResponse) (pieces : List ByteArray)
      (response : Response)
      (prepares : (dispatcher.prepare request state).value.1 = .ok prepared)
      (answers : (exchange.send prepared.outbound connection).value.1 = .response answer)
      (relay : IsRelayOf answer response)
      (whole : response.body = Body.joined pieces) :
      Answered dispatcher exchange request state connection timestamp pieces response

theorem endToEnd_of_rejected {plan : ClientPlan RunResult} {rejection : Rejection}
    (ends : plan = .done (.rejected rejection)) (timestamp : String) (turns : List Turn) :
    Faithful timestamp [] (.ofReply (rejection.reply timestamp))
      ((Handover.start plan).run turns) := by
  rw [ends]
  have announces := ClientPlan.AnnouncesOnce.done (RunResult.rejected rejection)
  have parcels : (ClientPlan.done (RunResult.rejected rejection)).parcels =
      [].map .chunk ++ none.toList.map .broken := rfl
  refine Handover.Orderly.faithful announces parcels ?_
    ((Handover.Orderly.start _).run announces turns)
  intro after orderly received has
  exact Handover.response?_of_done orderly has

theorem endToEnd_of_response {plan : ClientPlan RunResult} {credential : String}
    {answer : BackendResponse}
    (passesOn : plan = (ClientPlan.passOn credential answer).map .dispatched) (timestamp : String)
    (turns : List Turn) :
    Faithful timestamp (Body.deliverable answer.body) (relayed answer)
      ((Handover.start plan).run turns) := by
  rw [passesOn]
  have announces : ((ClientPlan.passOn credential answer).map RunResult.dispatched).AnnouncesOnce := by
    refine .head _ _ _ ?_
    rw [ClientPlan.heads_map, ClientPlan.heads_map, ClientPlan.heads_relay]
  have heads : ((ClientPlan.passOn credential answer).map RunResult.dispatched).heads =
      [(answer.status, relayedHeaders answer.headers)] := by
    rw [ClientPlan.heads_map, ClientPlan.passOn, ClientPlan.heads, ClientPlan.heads_map,
      ClientPlan.heads_relay]
  have parcels : ((ClientPlan.passOn credential answer).map RunResult.dispatched).parcels =
      (Body.deliverable answer.body).map .chunk ++
        (Body.breakOff? answer.body).toList.map .broken := by
    rw [ClientPlan.parcels_map, ClientPlan.passOn, ClientPlan.parcels, ClientPlan.parcels_map,
      ClientPlan.parcels_relay]
  refine Handover.Orderly.faithful announces parcels ?_
    ((Handover.Orderly.start _).run announces turns)
  intro after orderly received has
  exact Handover.response?_of_announced heads parcels orderly has

/-- What comes of a request between its run and its client. The plan whose calls the relay makes is that of
the run; the request is answered in one of the two ways; and the client gets the answer in the order in which
it comes, however the relay and the client take turns. -/
structure EndToEnd (dispatcher : Dispatcher τ) (exchange : Exchange ε) (request : InboundRequest)
    (state : DispatchState τ) (connection : ε) (timestamp : String) (response : Response) : Prop where
  plan : ∀ {σ : Type} (sink : Sink σ) (client : σ),
    let run := (dispatcher.run exchange sink request state connection client).value
    (ClientPlan.run dispatcher exchange request state connection).execute sink client =
      (run.result, run.client)
  answered : ∃ pieces,
    Answered dispatcher exchange request state connection timestamp pieces response ∧
    ∀ turns, Faithful timestamp pieces response
      ((Handover.start (ClientPlan.run dispatcher exchange request state connection)).run turns)

/-- Every request that goes to a backend which does not crash is answered end to end. -/
theorem serve_endToEnd (gateway : Gateway τ) (exchange : Exchange ε) (request : Request)
    (timestamp : String) (state : DispatchState τ) (connection : ε) {body : ByteArray}
    (scripted : ∀ outbound between, (exchange.send outbound between).value.1 ≠ .crash)
    (fallback : Endpoint.at? request.target.path = none)
    (read : request.body = .ok body) (fits : body.size ≤ 32 * 1024 * 1024) :
    EndToEnd gateway.dispatcher exchange (inbound request body) state connection timestamp
      (gateway.serve exchange request timestamp state connection).value.response := by
  have whole := readBody_of_fits read fits
  refine ⟨fun sink client => ClientPlan.execute_run _ exchange sink _ state connection client, ?_⟩
  generalize isPlan : ClientPlan.run gateway.dispatcher exchange (inbound request body) state
    connection = plan
  cases prepares : (gateway.dispatcher.prepare (inbound request body) state).value.1 with
  | error rejection =>
      have ends : plan = .done (.rejected rejection) := by
        rw [← isPlan, ClientPlan.run]
        simp only [prepares]
      rw [serve_response fallback whole (isPlan.trans ends)]
      exact ⟨[], .rejected rejection _ (.inl prepares) (isReplyTo_ofReply rejection timestamp),
        endToEnd_of_rejected ends timestamp⟩
  | ok prepared =>
      cases answers : (exchange.send prepared.outbound connection).value.1 with
      | crash => exact absurd answers (scripted _ _)
      | failure failure =>
          have ends : plan = .done (.rejected ⟨.authorized, .exchange failure⟩) := by
            rw [← isPlan, ClientPlan.run]
            simp only [prepares, answers]
            rfl
          rw [serve_response fallback whole (isPlan.trans ends)]
          exact ⟨[], .rejected _ _ (.inr ⟨prepared, failure, prepares, answers, rfl⟩)
            (isReplyTo_ofReply _ timestamp), endToEnd_of_rejected ends timestamp⟩
      | response answer =>
          have passesOn : plan =
              (ClientPlan.passOn prepared.member.credential.label answer).map .dispatched := by
            rw [← isPlan, ClientPlan.run]
            simp only [prepares, answers]
            rfl
          have relays : (gateway.serve exchange request timestamp state connection).value.response =
              relayed answer := by
            rw [serve_response fallback whole (isPlan.trans passesOn), ClientPlan.execute_map,
              ClientPlan.execute_passOn, Transmission.passOn_value]
            exact conclude_of_head _ _ _ _ _ _
          rw [relays]
          exact ⟨_, .relayed prepared answer _ _ prepares answers (isRelayOf_relayed answer) rfl,
            endToEnd_of_response passesOn timestamp⟩

def breakingAnswer : BackendResponse where
  status := 200
  headers := .ofList [("connection", ⟨"close".toUTF8.toList⟩)]
  body := [.chunk "part".toUTF8, .failure ⟨.general, "reset"⟩, .chunk "rest".toUTF8]

def breakingBackend : Exchange Unit where
  send _ connection := return (.response breakingAnswer, connection)

def greetingRequest : Request where
  method := "POST"
  target := ⟨none, "", "/v1/chat"⟩
  headers := .empty
  body := .ok "hello".toUTF8

theorem serve_endToEnd_breaking :
    (∀ outbound between, (breakingBackend.send outbound between).value.1 ≠ .crash) ∧
      Endpoint.at? greetingRequest.target.path = none ∧
      "hello".toUTF8.size ≤ 32 * 1024 * 1024 ∧
      EndToEnd ⟨outage, {}⟩ breakingBackend (inbound greetingRequest "hello".toUTF8) beforeOutage ()
        "now" (serve ⟨⟨outage, {}⟩, none⟩ breakingBackend greetingRequest "now" beforeOutage
          ()).value.response := by
  have scripted : ∀ outbound between, (breakingBackend.send outbound between).value.1 ≠ .crash :=
    fun _ _ => nofun
  have fallback : Endpoint.at? greetingRequest.target.path = none := by decide
  have fits : "hello".toUTF8.size ≤ 32 * 1024 * 1024 := by decide
  exact ⟨scripted, fallback, fits,
    serve_endToEnd ⟨⟨outage, {}⟩, none⟩ breakingBackend greetingRequest "now" beforeOutage ()
      scripted fallback rfl fits⟩

/-- What stands in the channel behind a client that leaves is lost, and the rest is not taken any more. -/
example :
    let state := (Handover.start (ClientPlan.passOn "tenant" breakingAnswer)).run
      [.work, .work, .read, .leave, .work]
    state.received = ["part".toUTF8] ∧ state.queue = [] ∧ state.plan.result?.isSome := by
  decide

end Gateway

end BearerProxy
