import Mathlib.Data.List.TakeWhile
import BearerProxy.Proofs.Dispatch.Recording

/-!
What the relay hands on. The client is offered the chunks that come before the first failure, up to the
first one that it refuses. The body is broken off exactly if a failure is reached without a refusal, and
nothing behind the end of the relay is looked at.
-/

namespace BearerProxy

/-! Bodies. -/

namespace StreamItem

def chunk? : StreamItem → Option ByteArray
  | .chunk bytes => some bytes
  | .failure _ => none

def failure? : StreamItem → Option ExchangeFailure
  | .chunk _ => none
  | .failure cause => some cause

end StreamItem

namespace Body

def firstFailure? (items : List StreamItem) : Option ExchangeFailure :=
  items.findSome? StreamItem.failure?

def breakOff? (items : List StreamItem) : Option String :=
  (firstFailure? items).map ExchangeFailure.message

def chunks (items : List StreamItem) : List ByteArray :=
  (items.takeWhile fun item => item.failure?.isNone).filterMap StreamItem.chunk?

def deliverable (items : List StreamItem) : List ByteArray :=
  (chunks items).filter fun chunk => !chunk.isEmpty

def joined (chunks : List ByteArray) : ByteArray :=
  chunks.foldl (· ++ ·) ByteArray.empty

def size (chunks : List ByteArray) : Nat :=
  chunks.foldr (fun chunk behind => chunk.size + behind) 0

theorem foldl_append (start : ByteArray) (chunks : List ByteArray) :
    chunks.foldl (· ++ ·) start = start ++ joined chunks := by
  induction chunks generalizing start with
  | nil => exact ByteArray.append_empty.symm
  | cons chunk chunks induction =>
      rw [joined, List.foldl_cons, List.foldl_cons, induction, induction (ByteArray.empty ++ chunk),
        ByteArray.empty_append, ByteArray.append_assoc]

theorem joined_cons (chunk : ByteArray) (chunks : List ByteArray) :
    joined (chunk :: chunks) = chunk ++ joined chunks := by
  rw [joined, List.foldl_cons, foldl_append, ByteArray.empty_append]

theorem joined_append (front back : List ByteArray) :
    joined (front ++ back) = joined front ++ joined back := by
  rw [joined, List.foldl_append, foldl_append]
  rfl

theorem eq_empty_of_isEmpty {chunk : ByteArray} (empty : chunk.isEmpty) :
    chunk = ByteArray.empty :=
  ByteArray.size_eq_zero_iff.mp (beq_iff_eq.mp empty)

theorem joined_deliverable (items : List StreamItem) :
    joined (deliverable items) = joined (chunks items) := by
  rw [deliverable]
  induction chunks items with
  | nil => rfl
  | cons chunk chunks induction =>
      by_cases empty : chunk.isEmpty
      · rw [List.filter_cons_of_neg (by simp [empty]), joined_cons, induction,
          eq_empty_of_isEmpty empty, ByteArray.empty_append]
      · rw [List.filter_cons_of_pos (by simp [empty]), joined_cons, joined_cons, induction]

theorem firstFailure?_eq_none_iff (items : List StreamItem) :
    firstFailure? items = none ↔ ∀ failure, StreamItem.failure failure ∉ items := by
  rw [firstFailure?, List.findSome?_eq_none_iff]
  constructor
  · intro noFailure failure isItem
    cases noFailure _ isItem
  · intro noFailure item isItem
    cases item with
    | chunk bytes => rfl
    | failure failure => exact absurd isItem (noFailure failure)

theorem chunks_of_noFailure {items : List StreamItem} (noFailure : firstFailure? items = none) :
    chunks items = items.filterMap StreamItem.chunk? := by
  rw [firstFailure?, List.findSome?_eq_none_iff] at noFailure
  rw [chunks, List.takeWhile_eq_self_iff.mpr]
  intro item isItem
  rw [noFailure item isItem, Option.isNone_none]

theorem chunks_cons_chunk (chunk : ByteArray) (items : List StreamItem) :
    chunks (.chunk chunk :: items) = chunk :: chunks items := rfl

theorem deliverable_cons_failure (failure : ExchangeFailure) (items : List StreamItem) :
    deliverable (.failure failure :: items) = [] := rfl

theorem deliverable_cons_empty {chunk : ByteArray} (empty : chunk.isEmpty)
    (items : List StreamItem) : deliverable (.chunk chunk :: items) = deliverable items := by
  rw [deliverable, chunks_cons_chunk, List.filter_cons_of_neg (by simp [empty])]
  rfl

theorem deliverable_cons_chunk {chunk : ByteArray} (filled : ¬chunk.isEmpty)
    (items : List StreamItem) :
    deliverable (.chunk chunk :: items) = chunk :: deliverable items := by
  rw [deliverable, chunks_cons_chunk, List.filter_cons_of_pos (by simp [filled])]
  rfl

theorem firstFailure?_append {front : List StreamItem} (noFailure : firstFailure? front = none)
    (back : List StreamItem) : firstFailure? (front ++ back) = firstFailure? back := by
  rw [firstFailure?] at noFailure
  rw [firstFailure?, List.findSome?_append, noFailure, Option.none_or]
  rfl

theorem deliverable_append {front : List StreamItem} (noFailure : firstFailure? front = none)
    (back : List StreamItem) : deliverable (front ++ back) = deliverable front ++ deliverable back := by
  have whole := chunks_of_noFailure noFailure
  rw [firstFailure?, List.findSome?_eq_none_iff] at noFailure
  have reached : ∀ item ∈ front, item.failure?.isNone = true := by
    intro item isItem
    rw [noFailure item isItem, Option.isNone_none]
  rw [deliverable, chunks, List.takeWhile_append_of_pos reached, List.filterMap_append,
    List.filter_append, ← whole]
  rfl

theorem exists_split_of_failure {items : List StreamItem} {failure : ExchangeFailure}
    (reached : firstFailure? items = some failure) :
    ∃ front rest, items = front ++ .failure failure :: rest ∧ firstFailure? front = none := by
  rcases List.findSome?_eq_some_iff.mp reached with ⟨front, item, rest, together, fails, before⟩
  cases item with
  | chunk bytes => cases fails
  | failure first =>
      cases fails
      exact ⟨front, rest, together, List.findSome?_eq_none_iff.mpr before⟩

end Body

/-! Clients. -/

/-- What becomes of chunks that a client is offered one after the other, up to the first one that it
refuses. -/
structure Reception (σ : Type u) where
  taken : List ByteArray
  refused : Option ByteArray
  client : σ

namespace Reception

def offered (reception : Reception σ) : List ByteArray :=
  reception.taken ++ reception.refused.toList

def abort? (reception : Reception σ) (items : List StreamItem) : Option ExchangeFailure :=
  if reception.refused.isSome then none else Body.firstFailure? items

def outcome (reception : Reception σ) (items : List StreamItem) : RelayOutcome :=
  match reception.refused, Body.firstFailure? items with
  | some _, _ => .clientDisconnected
  | none, some _ => .backendFailed
  | none, none => .completed

theorem outcome_eq_completed_iff (reception : Reception σ) (items : List StreamItem) :
    reception.outcome items = .completed ↔
      reception.refused = none ∧ Body.firstFailure? items = none := by
  rw [outcome]
  cases reception.refused with
  | some refused => simp
  | none =>
      cases Body.firstFailure? items with
      | some failure => simp
      | none => simp

theorem outcome_eq_clientDisconnected_iff (reception : Reception σ) (items : List StreamItem) :
    reception.outcome items = .clientDisconnected ↔ reception.refused.isSome := by
  rw [outcome]
  cases reception.refused with
  | some refused => simp
  | none =>
      cases Body.firstFailure? items with
      | some failure => simp
      | none => simp

theorem outcome_eq_backendFailed_iff (reception : Reception σ) (items : List StreamItem) :
    reception.outcome items = .backendFailed ↔ ∃ failure, reception.abort? items = some failure := by
  rw [outcome, abort?]
  cases reception.refused with
  | some refused => simp
  | none =>
      cases Body.firstFailure? items with
      | some failure => simp
      | none => simp

end Reception

namespace Sink

def receive (sink : Sink σ) : List ByteArray → σ → Reception σ
  | [], client => ⟨[], none, client⟩
  | chunk :: chunks, client =>
      match sink.sendChunk chunk client with
      | (true, client) =>
          let reception := sink.receive chunks client
          { reception with taken := chunk :: reception.taken }
      | (false, client) => ⟨[], some chunk, client⟩

theorem receive_of_taken {sink : Sink σ} {chunk : ByteArray} {client between : σ}
    (taken : sink.sendChunk chunk client = (true, between)) (chunks : List ByteArray) :
    sink.receive (chunk :: chunks) client =
      { sink.receive chunks between with taken := chunk :: (sink.receive chunks between).taken } := by
  rw [receive, taken]

theorem receive_of_refused {sink : Sink σ} {chunk : ByteArray} {client after : σ}
    (refused : sink.sendChunk chunk client = (false, after)) (chunks : List ByteArray) :
    sink.receive (chunk :: chunks) client = ⟨[], some chunk, after⟩ := by
  rw [receive, refused]

theorem receive_cases (sink : Sink σ) (chunks : List ByteArray) (client : σ) :
    ((sink.receive chunks client).refused = none ∧ (sink.receive chunks client).taken = chunks) ∨
    ∃ refused rest, (sink.receive chunks client).refused = some refused ∧
      chunks = (sink.receive chunks client).taken ++ refused :: rest ∧
      ∀ others, sink.receive ((sink.receive chunks client).taken ++ refused :: others) client =
        sink.receive chunks client := by
  induction chunks generalizing client with
  | nil => exact .inl ⟨rfl, rfl⟩
  | cons chunk chunks induction =>
      cases answer : sink.sendChunk chunk client with
      | mk taken between =>
          cases taken with
          | false =>
              rw [receive_of_refused answer]
              exact .inr ⟨chunk, chunks, rfl, rfl, receive_of_refused answer⟩
          | true =>
              rw [receive_of_taken answer]
              rcases induction between with ⟨nothing, all⟩ | ⟨refused, rest, some, together, same⟩
              · exact .inl ⟨nothing, congrArg (chunk :: ·) all⟩
              · refine .inr ⟨refused, rest, some, congrArg (chunk :: ·) together, fun others => ?_⟩
                rw [List.cons_append, receive_of_taken answer, same others]

theorem taken_of_unrefused (sink : Sink σ) (chunks : List ByteArray) (client : σ)
    (unrefused : (sink.receive chunks client).refused = none) :
    (sink.receive chunks client).taken = chunks := by
  rcases sink.receive_cases chunks client with ⟨-, all⟩ | ⟨refused, rest, some, -⟩
  · exact all
  · rw [unrefused] at some
    cases some

theorem offered_prefix (sink : Sink σ) (chunks : List ByteArray) (client : σ) :
    (sink.receive chunks client).offered <+: chunks := by
  rw [Reception.offered]
  rcases sink.receive_cases chunks client with ⟨nothing, all⟩ | ⟨refused, rest, some, together, -⟩
  · refine ⟨[], ?_⟩
    rw [nothing, all, Option.toList_none, List.append_nil, List.append_nil]
  · refine ⟨rest, ?_⟩
    rw [some, Option.toList_some, List.append_assoc]
    exact together.symm

theorem receive_recorded (sink : Sink σ) (chunks : List ByteArray) (client : σ)
    (log : List SinkCall) :
    sink.recorded.receive chunks (client, log) =
      { taken := (sink.receive chunks client).taken
        refused := (sink.receive chunks client).refused
        client := ((sink.receive chunks client).client,
          log ++ (sink.receive chunks client).offered.map .chunk) } := by
  induction chunks generalizing client log with
  | nil => simp [receive, Reception.offered]
  | cons chunk chunks induction =>
      cases answer : sink.sendChunk chunk client with
      | mk taken between =>
          have recorded : sink.recorded.sendChunk chunk (client, log) =
              (taken, between, log ++ [.chunk chunk]) := by
            simp only [Sink.recorded, answer]
          cases taken with
          | false =>
              rw [receive_of_refused answer, receive_of_refused recorded]
              rfl
          | true =>
              rw [receive_of_taken answer, receive_of_taken recorded, induction]
              simp [Reception.offered]

/-! The relay. -/

def settle (sink : Sink σ) (reception : Reception σ) (items : List StreamItem) : σ :=
  match reception.abort? items with
  | none => reception.client
  | some failure => sink.abort failure reception.client

theorem relayFrom_value (sink : Sink σ) (bytes chunks : Nat) (items : List StreamItem) (client : σ) :
    (sink.relayFrom bytes chunks items client).value =
      let reception := sink.receive (Body.deliverable items) client
      ({ bytes := bytes + Body.size reception.taken
         chunks := chunks + reception.taken.length
         outcome := reception.outcome items },
        sink.settle reception items) := by
  induction items generalizing bytes chunks client with
  | nil => rfl
  | cons item items induction =>
      cases item with
      | failure failure => rfl
      | chunk chunk =>
          rw [relayFrom]
          by_cases empty : chunk.isEmpty
          · rw [if_pos empty, induction, Body.deliverable_cons_empty empty]
            rfl
          · rw [if_neg empty, Body.deliverable_cons_chunk empty]
            cases answer : sink.sendChunk chunk client with
            | mk taken between =>
                cases taken with
                | false =>
                    rw [receive_of_refused answer]
                    rfl
                | true =>
                    rw [receive_of_taken answer]
                    simp only [induction, Body.size, List.foldr_cons, List.length_cons]
                    rw [Nat.add_assoc, Nat.add_assoc, Nat.add_comm 1]
                    rfl

def calls (sink : Sink σ) (items : List StreamItem) (client : σ) : List SinkCall :=
  (sink.recorded.relay items (client, [])).value.2.2

theorem calls_eq (sink : Sink σ) (items : List StreamItem) (client : σ) :
    sink.calls items client =
      (sink.receive (Body.deliverable items) client).offered.map .chunk ++
        ((sink.receive (Body.deliverable items) client).abort? items).toList.map .abort := by
  rw [calls, relay, relayFrom_value, receive_recorded]
  simp only [settle, Reception.abort?, List.nil_append]
  split
  · rename_i none
    simp [none]
  · rename_i failure some
    simp [some, recorded]

/-! Where the relay ends. -/

theorem exists_split_of_refused {sink : Sink σ} {items : List StreamItem} {client : σ}
    {refused : ByteArray}
    (refuses : (sink.receive (Body.deliverable items) client).refused = some refused) :
    ∃ front rest, items = front ++ .chunk refused :: rest ∧ ¬refused.isEmpty ∧
      Body.firstFailure? front = none ∧
      Body.deliverable front = (sink.receive (Body.deliverable items) client).taken := by
  induction items generalizing client with
  | nil => cases refuses
  | cons item items induction =>
      cases item with
      | failure failure => cases refuses
      | chunk chunk =>
          by_cases empty : chunk.isEmpty
          · rw [Body.deliverable_cons_empty empty] at refuses ⊢
            rcases induction refuses with ⟨front, rest, together, filled, noFailure, taken⟩
            refine ⟨.chunk chunk :: front, rest, congrArg (.chunk chunk :: ·) together, filled,
              noFailure, ?_⟩
            rw [Body.deliverable_cons_empty empty]
            exact taken
          · rw [Body.deliverable_cons_chunk empty] at refuses ⊢
            cases answer : sink.sendChunk chunk client with
            | mk taken between =>
                cases taken with
                | false =>
                    rw [receive_of_refused answer] at refuses ⊢
                    cases refuses
                    exact ⟨[], items, rfl, empty, rfl, rfl⟩
                | true =>
                    rw [receive_of_taken answer] at refuses ⊢
                    rcases induction refuses with ⟨front, rest, together, filled, noFailure, taken⟩
                    refine ⟨.chunk chunk :: front, rest, congrArg (.chunk chunk :: ·) together,
                      filled, noFailure, ?_⟩
                    rw [Body.deliverable_cons_chunk empty, taken]

/-- Two bodies that come to the same for a client are relayed to it in the same way. -/
theorem relay_congr {sink : Sink σ} {items others : List StreamItem} {client : σ}
    (received : sink.receive (Body.deliverable others) client =
      sink.receive (Body.deliverable items) client)
    (outcome : (sink.receive (Body.deliverable items) client).outcome others =
      (sink.receive (Body.deliverable items) client).outcome items)
    (abort : (sink.receive (Body.deliverable items) client).abort? others =
      (sink.receive (Body.deliverable items) client).abort? items) :
    (sink.relay others client).value = (sink.relay items client).value ∧
      sink.calls others client = sink.calls items client := by
  constructor
  · rw [relay, relay, relayFrom_value, relayFrom_value, received]
    simp only [settle, outcome, abort]
  · rw [calls_eq, calls_eq, received, abort]

def last? (reception : Reception σ) (items : List StreamItem) : Option StreamItem :=
  (reception.refused.map .chunk).or ((Body.firstFailure? items).map .failure)

/-- A relay that ends at an item has read the items before it, and does not depend on those behind it. -/
theorem relay_unread {sink : Sink σ} {items : List StreamItem} {client : σ} {last : StreamItem}
    (ends : last? (sink.receive (Body.deliverable items) client) items = some last) :
    ∃ front rest, items = front ++ last :: rest ∧ Body.firstFailure? front = none ∧
      Body.deliverable front = (sink.receive (Body.deliverable items) client).taken ∧
      ∀ others, (sink.relay (front ++ last :: others) client).value = (sink.relay items client).value ∧
        sink.calls (front ++ last :: others) client = sink.calls items client := by
  rcases sink.receive_cases (Body.deliverable items) client with
    ⟨unrefused, all⟩ | ⟨refused, _, refuses, _, same⟩
  · rw [last?, unrefused] at ends
    simp only [Option.map_none, Option.none_or, Option.map_eq_some_iff] at ends
    rcases ends with ⟨failure, reached, isLast⟩
    subst isLast
    rcases Body.exists_split_of_failure reached with ⟨front, rest, together, noFailure⟩
    have deliverable (others : List StreamItem) :
        Body.deliverable (front ++ .failure failure :: others) = Body.deliverable front := by
      rw [Body.deliverable_append noFailure, Body.deliverable_cons_failure, List.append_nil]
    have failing (others : List StreamItem) :
        Body.firstFailure? (front ++ .failure failure :: others) = some failure := by
      rw [Body.firstFailure?_append noFailure]
      rfl
    refine ⟨front, rest, together, noFailure, ?_, fun others => relay_congr ?_ ?_ ?_⟩
    · rw [all, together, deliverable]
    · rw [together, deliverable, deliverable]
    · rw [Reception.outcome, Reception.outcome, failing, reached]
    · rw [Reception.abort?, Reception.abort?, failing, reached]
  · rw [last?, refuses] at ends
    cases ends
    rcases exists_split_of_refused refuses with ⟨front, rest, together, filled, noFailure, taken⟩
    refine ⟨front, rest, together, noFailure, taken, fun others => relay_congr ?_ ?_ ?_⟩
    · rw [Body.deliverable_append noFailure, Body.deliverable_cons_chunk filled, taken, same]
    · rw [Reception.outcome, Reception.outcome, refuses]
    · rw [Reception.abort?, Reception.abort?, refuses]
      rfl

end Sink

/-! All together. -/

/-- What the relay of a body to a client amounts to, for what the client makes of the deliverable chunks, the
summary of the relay and all that the client was called for. -/
structure RelayContract (sink : Sink σ) (items : List StreamItem) (client : σ)
    (reception : Reception σ) (summary : RelaySummary) (calls : List SinkCall) : Prop where
  offered : reception.offered <+: Body.deliverable items
  taken : reception.refused = none → reception.taken = Body.deliverable items
  called : calls = reception.offered.map .chunk ++
    if reception.refused.isSome then [] else (Body.firstFailure? items).toList.map .abort
  chunks : summary.chunks = reception.taken.length
  bytes : summary.bytes = Body.size reception.taken
  completed : summary.outcome = .completed ↔
    reception.refused = none ∧ Body.firstFailure? items = none
  whole : summary.outcome = .completed →
    Body.joined reception.taken = Body.joined (items.filterMap StreamItem.chunk?)
  disconnected : summary.outcome = .clientDisconnected ↔ reception.refused.isSome
  failed : summary.outcome = .backendFailed ↔ ∃ failure, SinkCall.abort failure ∈ calls
  unread : summary.outcome ≠ .completed → ∃ front last rest, items = front ++ last :: rest ∧
    (reception.refused.map .chunk).or ((Body.firstFailure? items).map .failure) = some last ∧
    Body.firstFailure? front = none ∧ Body.deliverable front = reception.taken ∧
    ∀ others, (sink.relay (front ++ last :: others) client).value = (sink.relay items client).value ∧
      sink.calls (front ++ last :: others) client = sink.calls items client

/-- Whatever a body brings and whatever the client refuses, the relay keeps to this. -/
theorem Sink.relay_contract (sink : Sink σ) (items : List StreamItem) (client : σ) :
    RelayContract sink items client (sink.receive (Body.deliverable items) client)
      (sink.relay items client).value.1 (sink.calls items client) := by
  have unread := @relay_unread σ sink items client
  rw [calls_eq, relay, relayFrom_value]
  generalize received : sink.receive (Body.deliverable items) client = reception at unread ⊢
  have takesAll (unrefused : reception.refused = none) :
      reception.taken = Body.deliverable items := by
    rw [← received] at unrefused ⊢
    exact sink.taken_of_unrefused _ client unrefused
  constructor
  case offered =>
    rw [← received]
    exact sink.offered_prefix _ client
  case taken => exact takesAll
  case called =>
    rw [Reception.abort?]
    split
    · rfl
    · rfl
  case chunks => exact Nat.zero_add _
  case bytes => exact Nat.zero_add _
  case completed => exact reception.outcome_eq_completed_iff items
  case whole =>
    intro completed
    rcases (reception.outcome_eq_completed_iff items).mp completed with ⟨unrefused, noFailure⟩
    rw [takesAll unrefused, Body.joined_deliverable, Body.chunks_of_noFailure noFailure]
  case disconnected => exact reception.outcome_eq_clientDisconnected_iff items
  case failed =>
    rw [reception.outcome_eq_backendFailed_iff items]
    simp
  case unread =>
    intro incomplete
    cases ends : last? reception items with
    | some last =>
        rcases unread ends with ⟨front, rest, together, noFailure, taken, same⟩
        exact ⟨front, last, rest, together, ends, noFailure, taken, same⟩
    | none =>
        rw [last?, Option.or_eq_none_iff, Option.map_eq_none_iff, Option.map_eq_none_iff] at ends
        exact absurd ((reception.outcome_eq_completed_iff items).mpr ends) incomplete

end BearerProxy
