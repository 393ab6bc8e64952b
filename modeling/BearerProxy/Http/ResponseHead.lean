import BearerProxy.Http.Header

/-!
The head of a response: a line with the version and the status, and the header fields. It is read from bytes that may
not all have arrived. A reader either finds what it looks for, and then says what is left, or needs more bytes, or meets
one that may not stand where it does.
-/

namespace BearerProxy.Http

inductive Scan (α : Type u)
  | found (value : α) (rest : List UInt8)
  | incomplete
  | illegal
  deriving DecidableEq, Repr

def Reader (α : Type u) := List UInt8 → Scan α

namespace Reader

protected def pure (value : α) : Reader α := fun bytes => .found value bytes

protected def bind (first : Reader α) (next : α → Reader β) : Reader β := fun bytes =>
  match first bytes with
  | .found value rest => next value rest
  | .incomplete => .incomplete
  | .illegal => .illegal

instance : Monad Reader where
  pure := Reader.pure
  bind := Reader.bind

def fail : Reader α := fun _ => .illegal

def byte : Reader UInt8
  | [] => .incomplete
  | byte :: rest => .found byte rest

def expect (expected : UInt8) : Reader Unit := do
  if (← byte) = expected then return () else fail

def expectAll : List UInt8 → Reader Unit
  | [] => return ()
  | first :: others => do
      expect first
      expectAll others

def takeWhile (accepted : UInt8 → Bool) : Reader (List UInt8) := fun bytes =>
  match bytes.dropWhile accepted with
  | [] => .incomplete
  | rest => .found (bytes.takeWhile accepted) rest

/-- The end of a line, of which the line feed is enough. -/
def lineEnd : Reader Unit := do
  match ← byte with
  | 0x0D => expect 0x0A
  | 0x0A => return ()
  | _ => fail

end Reader

structure ResponseHead where
  minorVersion : Nat
  status : Nat
  headers : Headers
  deriving DecidableEq, Repr

/-! Header fields. -/

namespace Reader

def isBlankByte (byte : UInt8) : Bool := byte == 0x20 || byte == 0x09

def isNameByte (byte : UInt8) : Bool :=
  byte < 0x80 && isTokenCharacter (Char.ofNat byte.toNat)

def asciiText (bytes : List UInt8) : String :=
  String.ofList (bytes.map fun byte => Char.ofNat byte.toNat)

def field : Reader (String × HeaderValue) := do
  let name ← takeWhile isNameByte
  if name.isEmpty then fail
  expect 0x3A
  let value ← takeWhile isValueByte
  lineEnd
  let trimmed := ((value.dropWhile isBlankByte).reverse.dropWhile isBlankByte).reverse
  return (asciiText name, ⟨trimmed⟩)

def fields (limit : Nat) : Reader (List (String × HeaderValue)) := fun bytes =>
  match bytes.head? with
  | none => .incomplete
  | some first =>
      if first = 0x0D || first = 0x0A then (do lineEnd; return [] : Reader _) bytes
      else
        match limit with
        | 0 => .illegal
        | limit + 1 => (do return (← field) :: (← fields limit) : Reader _) bytes

/-! The first line. -/

def digit : Reader Nat := do
  let digit ← byte
  if 0x30 ≤ digit && digit ≤ 0x39 then return digit.toNat - 0x30 else fail

def reason : Reader Unit := fun bytes =>
  match bytes.head? with
  | some 0x20 => (do let _ ← takeWhile isValueByte; lineEnd : Reader Unit) bytes
  | _ => lineEnd bytes

def skipLineEnds : List UInt8 → Scan Unit
  | 0x0A :: rest => skipLineEnds rest
  | 0x0D :: 0x0A :: rest => skipLineEnds rest
  | [0x0D] => .incomplete
  | 0x0D :: _ => .illegal
  | [] => .incomplete
  | bytes => .found () bytes

def mostFields : Nat := 100

def responseHead : Reader ResponseHead := do
  skipLineEnds
  expectAll "HTTP/1.".toUTF8.toList
  let minorVersion ← digit
  if 1 < minorVersion then fail
  expect 0x20
  let status := (← digit) * 100 + (← digit) * 10 + (← digit)
  if status < 100 then fail
  reason
  return { minorVersion, status, headers := .ofList (← fields mostFields) }

end Reader

namespace ResponseHead

/-- Whether another response follows that is the actual one. -/
def isInterim (head : ResponseHead) : Bool :=
  head.status = 100 || (102 ≤ head.status && head.status < 200)

/-- Reads the head of the actual response behind at most so many others. -/
def readWithin : (limit : Nat) → Reader ResponseHead
  | 0 => Reader.fail
  | limit + 1 => do
      let head ← Reader.responseHead
      if head.isInterim then readWithin limit else return head

def read : Reader ResponseHead := fun bytes =>
  readWithin (bytes.length + 1) bytes

end ResponseHead

end BearerProxy.Http
