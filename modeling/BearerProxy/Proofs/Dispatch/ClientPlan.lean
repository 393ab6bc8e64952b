import BearerProxy.Proofs.Forward.Relay

/-!
The end of a run, which the client sees, as a plan of single calls on the client, so that the client can do
something of its own between them. A plan that is carried out without a break does what the run does.
-/

namespace BearerProxy

/-- What is left to do for a client: calls on its sink, each after what the calls before it have answered. -/
inductive ClientPlan (α : Type u)
  | done (result : α)
  | head (status : Nat) (headers : Http.Headers) (resume : Bool → ClientPlan α)
  | chunk (bytes : ByteArray) (resume : Bool → ClientPlan α)
  | abort (failure : ExchangeFailure) (rest : ClientPlan α)

namespace ClientPlan

def map (transform : α → β) : ClientPlan α → ClientPlan β
  | .done result => .done (transform result)
  | .head status headers resume => .head status headers fun taken => (resume taken).map transform
  | .chunk bytes resume => .chunk bytes fun taken => (resume taken).map transform
  | .abort failure rest => .abort failure (rest.map transform)

def execute (sink : Sink σ) : ClientPlan α → σ → α × σ
  | .done result, client => (result, client)
  | .head status headers resume, client =>
      (resume (sink.sendHead status headers client).1).execute sink
        (sink.sendHead status headers client).2
  | .chunk bytes resume, client =>
      (resume (sink.sendChunk bytes client).1).execute sink (sink.sendChunk bytes client).2
  | .abort failure rest, client => rest.execute sink (sink.abort failure client)

theorem execute_map (sink : Sink σ) (transform : α → β) (plan : ClientPlan α) (client : σ) :
    (plan.map transform).execute sink client =
      (transform (plan.execute sink client).1, (plan.execute sink client).2) := by
  induction plan generalizing client with
  | done result => rfl
  | head status headers resume induction => exact induction _ _
  | chunk bytes resume induction => exact induction _ _
  | abort failure rest induction => exact induction _

/-! The plan of a run. -/

def relay (bytes chunks : Nat) : List StreamItem → ClientPlan RelaySummary
  | [] => .done ⟨bytes, chunks, .completed⟩
  | .failure failure :: _ => .abort failure (.done ⟨bytes, chunks, .backendFailed⟩)
  | .chunk piece :: items =>
      if piece.isEmpty then relay bytes chunks items
      else
        .chunk piece fun
          | true => relay (bytes + piece.size) (chunks + 1) items
          | false => .done ⟨bytes, chunks, .clientDisconnected⟩

def passOn (credential : String) (response : BackendResponse) : ClientPlan Dispatched :=
  .head response.status (relayedHeaders response.headers) fun
    | true =>
        (relay 0 0 response.body).map fun relay => { credential, status := response.status, relay }
    | false =>
        .done { credential, status := response.status, relay := ⟨0, 0, .clientDisconnected⟩ }

def afterSend (credential : String) : SendResult → ClientPlan RunResult
  | .crash => .done .crashed
  | .failure failure => .done (.rejected ⟨.authorized, .exchange failure⟩)
  | .response response => (passOn credential response).map .dispatched

def run (dispatcher : Dispatcher τ) (exchange : Exchange ε) (request : InboundRequest)
    (state : DispatchState τ) (connection : ε) : ClientPlan RunResult :=
  match (dispatcher.prepare request state).value.1 with
  | .error rejection => .done (.rejected rejection)
  | .ok prepared =>
      afterSend prepared.member.credential.label
        (exchange.send prepared.outbound connection).value.1

theorem execute_relay (sink : Sink σ) (bytes chunks : Nat) (items : List StreamItem) (client : σ) :
    (relay bytes chunks items).execute sink client =
      (sink.relayFrom bytes chunks items client).value := by
  induction items generalizing bytes chunks client with
  | nil => rfl
  | cons item items induction =>
      cases item with
      | failure failure => rfl
      | chunk piece =>
          rw [relay, Sink.relayFrom]
          by_cases empty : piece.isEmpty
          · rw [if_pos empty, if_pos empty, induction]
          · rw [if_neg empty, if_neg empty, execute]
            cases sink.sendChunk piece client with
            | mk taken between =>
                cases taken with
                | true => exact induction _ _ between
                | false => rfl

theorem execute_passOn (sink : Sink σ) (credential : String) (response : BackendResponse)
    (client : σ) :
    (passOn credential response).execute sink client =
      (Dispatcher.passOn sink credential response client).value := by
  rw [passOn, execute, Dispatcher.passOn]
  cases sink.sendHead response.status (relayedHeaders response.headers) client with
  | mk taken between =>
      cases taken with
      | true =>
          simp only [execute_map, execute_relay]
          rfl
      | false => rfl

/-- The plan is that of the run: without a break between its calls it comes to the same. -/
theorem execute_run (dispatcher : Dispatcher τ) (exchange : Exchange ε) (sink : Sink σ)
    (request : InboundRequest) (state : DispatchState τ) (connection : ε) (client : σ) :
    (run dispatcher exchange request state connection).execute sink client =
      ((dispatcher.run exchange sink request state connection client).value.result,
        (dispatcher.run exchange sink request state connection client).value.client) := by
  have course := dispatcher.run_course exchange sink request state connection client
  generalize (dispatcher.run exchange sink request state connection client).value = ran at course ⊢
  rw [run]
  cases course with
  | rejected rejection after prepares =>
      rw [prepares]
      rfl
  | crashed prepared after answered prepares sends =>
      simp only [prepares, sends]
      rfl
  | failed prepared after failure answered prepares sends =>
      simp only [prepares, sends]
      rfl
  | dispatched prepared after response answered prepares sends =>
      simp only [prepares, sends, afterSend, execute_map, execute_passOn]

end ClientPlan

end BearerProxy
