import BearerProxy.Http.ResponseHead
import BearerProxy.Text

/-!
Where the body of a response ends: at once, behind a number of bytes, with a chunk of no bytes, or with
the connection.
-/

namespace BearerProxy.Http

inductive Framing
  | empty
  | sized (length : Nat)
  | chunked
  | untilClose
  deriving DecidableEq, Repr

namespace Framing

def listed? (headers : Headers) (name : String) : Option (List String) := do
  let texts ← (headers.values name).mapM HeaderValue.text?
  return texts.flatMap fun text =>
    (Text.pieces ',' text.toList).map fun piece => String.ofList (Text.trimCharacters piece)

/-- The length that the headers give, if they give one and the same throughout. -/
def length? (headers : Headers) : Option Nat := do
  let lengths ← (← listed? headers "content-length").mapM fun text => Text.natural? text.toList
  let first ← lengths.head?
  if lengths.all (· = first) && first < 0xFFFFFFFFFFFFFFFE then some first else none

def endsChunked (headers : Headers) : Bool :=
  let last := ((headers.values "transfer-encoding").getLast?.bind HeaderValue.text?).getD ""
  let piece := ((Text.pieces ',' last.toList).getLast?).getD []
  Text.equalIgnoringCase (String.ofList (Text.trimCharacters piece)) "chunked"

/-- How the body of a response to a request with the given method is framed, if that is clear. -/
def of? (method : String) (head : ResponseHead) : Option Framing :=
  if head.status = 101 || head.status = 204 || head.status = 304 || method = "HEAD" then some .empty
  else if method = "CONNECT" && 200 ≤ head.status && head.status < 300 then some .empty
  else if head.headers.contains "transfer-encoding" then
    if head.minorVersion = 0 then none
    else some (if endsChunked head.headers then .chunked else .untilClose)
  else if head.headers.contains "content-length" then (length? head.headers).map .sized
  else some .untilClose

end Framing

/-! Chunks. -/

namespace Reader

def hexValue? (byte : UInt8) : Option Nat :=
  Text.digitValue? 16 (Char.ofNat byte.toNat)

def chunkLineEnd : Reader Unit := do
  match ← byte with
  | 0x0D => expect 0x0A
  | 0x3B =>
      let _ ← takeWhile fun byte => byte != 0x0D && byte != 0x0A
      expectAll [0x0D, 0x0A]
  | _ => fail

def chunkSize : Reader Nat := do
  let digits ← takeWhile fun byte => (hexValue? byte).isSome
  let size := (digits.filterMap hexValue?).foldl (fun size digit => size * 16 + digit) 0
  if digits.isEmpty || 0x10000000000000000 ≤ size then fail
  let _ ← takeWhile isBlankByte
  chunkLineEnd
  return size

def trailerEnd (atLineStart : Bool) : List UInt8 → Scan Unit
  | [] => .incomplete
  | 0x0D :: 0x0A :: rest => if atLineStart then .found () rest else trailerEnd true rest
  | [0x0D] => .incomplete
  | 0x0D :: _ => .illegal
  | _ :: rest => trailerEnd false rest

def trailers : Reader Unit := fun bytes =>
  match trailerEnd true bytes with
  | .found () rest =>
      match fields bytes.length (bytes.take (bytes.length - rest.length)) with
      | .found .. => .found () rest
      | _ => .illegal
  | other => other

end Reader

inductive BodyState
  | whole
  | unfinished
  | broken
  deriving DecidableEq, Repr

namespace Framing

def readChunks : (limit : Nat) → List UInt8 → List (List UInt8) × BodyState
  | 0, _ => ([], .unfinished)
  | limit + 1, bytes =>
      match Reader.chunkSize bytes with
      | .incomplete => ([], .unfinished)
      | .illegal => ([], .broken)
      | .found 0 rest =>
          match Reader.trailers rest with
          | .found .. => ([], .whole)
          | .incomplete => ([], .unfinished)
          | .illegal => ([], .broken)
      | .found size rest =>
          let data := rest.take size
          if data.length < size then ([data], .unfinished)
          else
            match (Reader.expectAll [0x0D, 0x0A]) (rest.drop size) with
            | .incomplete => ([data], .unfinished)
            | .illegal => ([data], .broken)
            | .found () rest =>
                let (others, state) := readChunks limit rest
                (data :: others, state)

def read (framing : Framing) (bytes : List UInt8) : List (List UInt8) × BodyState :=
  match framing with
  | .empty => ([], .whole)
  | .sized length =>
      ([bytes.take length], if bytes.length < length then .unfinished else .whole)
  | .chunked => readChunks (bytes.length + 1) bytes
  | .untilClose => ([bytes], .unfinished)

end Framing

end BearerProxy.Http
