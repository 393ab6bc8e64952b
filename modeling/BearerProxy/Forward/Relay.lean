import BearerProxy.Failure
import BearerProxy.Http.Header
import BearerProxy.Journal
import BearerProxy.Text

/-!
The relay hands the body of a response to the client chunk by chunk. It ends with the body, with the
first failure, or with the first chunk that the client does not take.
-/

namespace BearerProxy

inductive StreamItem
  | chunk (bytes : ByteArray)
  | failure (failure : ExchangeFailure)
  deriving DecidableEq

/-- The writing side of a connection to a client, as a rule on states. A refusal means that the client
is gone; `abort` breaks the body off, so that it cannot be taken for a whole one. -/
structure Sink (σ : Type u) where
  sendHead : Nat → Http.Headers → σ → Bool × σ
  sendChunk : ByteArray → σ → Bool × σ
  abort : ExchangeFailure → σ → σ

inductive RelayOutcome
  | completed
  | clientDisconnected
  | backendFailed
  deriving DecidableEq, Repr

/-- The chunks that the client took, their bytes, and how the relay ended. The counts are those of 64 bits as
long as they are below 2^64, which no body reaches. -/
structure RelaySummary where
  bytes : Nat
  chunks : Nat
  outcome : RelayOutcome
  deriving DecidableEq, Repr

namespace Sink

def progress (bytes chunks : Nat) : List (String × Detail) :=
  [("bytes", .count bytes), ("chunks", .count chunks)]

/-- The relay after the client has taken some chunks. Empty chunks are dropped, since on the wire they
would end the body. -/
def relayFrom (sink : Sink σ) (bytes chunks : Nat) :
    List StreamItem → σ → Reported (RelaySummary × σ)
  | [], state => do
      debugEvent .stream "stream completed" (progress bytes chunks)
      return (⟨bytes, chunks, .completed⟩, state)
  | .failure failure :: _, state => do
      warnEvent .stream "upstream stream failed mid-response"
        (("error", .text failure.message) :: progress bytes chunks)
      return (⟨bytes, chunks, .backendFailed⟩, sink.abort failure state)
  | .chunk chunk :: items, state =>
      if chunk.isEmpty then sink.relayFrom bytes chunks items state
      else
        match sink.sendChunk chunk state with
        | (true, state) => sink.relayFrom (bytes + chunk.size) (chunks + 1) items state
        | (false, state) => do
            debugEvent .stream "client disconnected; stopping stream" (progress bytes chunks)
            return (⟨bytes, chunks, .clientDisconnected⟩, state)

def relay (sink : Sink σ) (items : List StreamItem) (state : σ) : Reported (RelaySummary × σ) :=
  sink.relayFrom 0 0 items state

end Sink

/-- A client that keeps what it is sent. It goes away after a number of chunks, if one is set. -/
structure Collected where
  closeAfter : Option Nat := none
  status : Option Nat := none
  headers : Http.Headers := .empty
  chunks : List ByteArray := []
  aborted : Option ExchangeFailure := none
  deriving DecidableEq

namespace Collected

def isClosed (collected : Collected) : Bool :=
  match collected.closeAfter with
  | none => false
  | some limit => limit ≤ collected.chunks.length

def body (collected : Collected) : ByteArray :=
  collected.chunks.foldl (· ++ ·) ByteArray.empty

def sink : Sink Collected where
  sendHead status headers collected := (true, { collected with status := some status, headers })
  sendChunk chunk collected :=
    if collected.isClosed then (false, collected)
    else (true, { collected with chunks := collected.chunks ++ [chunk] })
  abort failure collected := { collected with aborted := some failure }

end Collected

end BearerProxy
