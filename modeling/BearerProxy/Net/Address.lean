import BearerProxy.Text

/-! Addresses of machines, and of the servers on them by their ports. -/

namespace BearerProxy.Net

/-! IPv4: the lenient forms that URLs allow, the strict form, and the canonical text. -/

structure Ipv4 where
  value : UInt32
  deriving DecidableEq, Repr, Inhabited

namespace Ipv4

def parts (address : Ipv4) : List Nat :=
  let value := address.value.toNat
  [value / 0x1000000, value / 0x10000 % 256, value / 0x100 % 256, value % 256]

def text (address : Ipv4) : String :=
  String.intercalate "." (address.parts.map toString)

/-- A number with the mark of its base in front: `0x` for sixteen, `0` for eight. -/
def lenientNumber? : List Char → Option Nat
  | [] => none
  | '0' :: 'x' :: digits => Text.valueOf? 16 digits
  | '0' :: 'X' :: digits => Text.valueOf? 16 digits
  | '0' :: digit :: digits => Text.valueOf? 8 (digit :: digits)
  | digits => Text.valueOf? 10 digits

/-- Whether a name must be read as an address because its last label is a number. One empty label at
the end does not count. -/
def endsInNumber (name : List Char) : Bool :=
  let last :=
    match (Text.pieces '.' name).reverse with
    | [] => []
    | [] :: [] => []
    | [] :: label :: _ => label
    | label :: _ => label
  (!last.isEmpty && last.all Char.isDigit) || (lenientNumber? last).isSome

/-- One to four numbers; the last one fills all the parts that are left. -/
def ofNumbers? (numbers : List Nat) : Option Ipv4 :=
  match numbers.reverse with
  | [] => none
  | last :: before =>
      let leading := before.reverse
      if 3 < leading.length || leading.any (255 < ·) then none
      else if Nat.pow 256 (4 - leading.length) ≤ last then none
      else
        let placed := leading.zipIdx.foldl (fun value part => value + part.1 * Nat.pow 256 (3 - part.2)) last
        some ⟨UInt32.ofNat placed⟩

def ofLenientText? (name : List Char) : Option Ipv4 := do
  let labels := Text.pieces '.' name
  let labels := if labels.getLast? = some [] then labels.dropLast else labels
  let numbers ← labels.mapM lenientNumber?
  ofNumbers? numbers

def strictPart? (digits : List Char) : Option Nat :=
  if digits.isEmpty || 3 < digits.length || (digits.head? = some '0' && 1 < digits.length) then none
  else (Text.valueOf? 10 digits).filter (· ≤ 255)

def ofStrictText? (name : List Char) : Option Ipv4 := do
  let parts ← (Text.pieces '.' name).mapM strictPart?
  if parts.length = 4 then ofNumbers? parts else none

end Ipv4

/-! IPv6: reading, and the canonical text with the longest run of zeros left out. -/

structure Ipv6 where
  groups : List UInt16
  deriving DecidableEq, Repr, Inhabited

namespace Ipv6

def groupCount : Nat := 8

structure Progress where
  groups : List Nat
  gap : Option Nat
  deriving Repr

/-- The address once all groups are read: the gap fills up what is missing. -/
def Progress.finish? (progress : Progress) : Option Ipv6 :=
  match progress.gap with
  | none =>
      if progress.groups.length = groupCount then some ⟨progress.groups.map UInt16.ofNat⟩ else none
  | some gap =>
      if progress.groups.length < groupCount then
        let missing := groupCount - progress.groups.length
        some ⟨(progress.groups.take gap ++ List.replicate missing 0 ++
          progress.groups.drop gap).map UInt16.ofNat⟩
      else none

def takeGroup (characters : List Char) : List Char × List Char :=
  let digits := (characters.take 4).takeWhile (Text.isDigitOf 16)
  (digits, characters.drop digits.length)

def readGroups? : Nat → Progress → List Char → Option Ipv6
  | _, progress, [] => progress.finish?
  | 0, _, _ => none
  | limit + 1, progress, characters =>
      if groupCount ≤ progress.groups.length then none
      else
        match characters with
        | ':' :: rest =>
            if progress.gap.isSome then none
            else readGroups? limit { progress with gap := some progress.groups.length } rest
        | _ =>
            let (digits, rest) := takeGroup characters
            match rest with
            | '.' :: _ =>
                if digits.isEmpty || groupCount - 2 < progress.groups.length then none
                else do
                  let address ← Ipv4.ofStrictText? characters
                  let high := address.value.toNat / 0x10000
                  let low := address.value.toNat % 0x10000
                  { progress with groups := progress.groups ++ [high, low] }.finish?
            | ':' :: after =>
                if digits.isEmpty || after.isEmpty then none
                else do
                  let value ← Text.valueOf? 16 digits
                  readGroups? limit { progress with groups := progress.groups ++ [value] } after
            | [] => do
                let value ← Text.valueOf? 16 digits
                { progress with groups := progress.groups ++ [value] }.finish?
            | _ => none

def ofText? (characters : List Char) : Option Ipv6 :=
  let start : Progress := ⟨[], none⟩
  match characters with
  | ':' :: ':' :: rest => readGroups? rest.length { start with gap := some 0 } rest
  | [] | [_] | ':' :: _ => none
  | _ => readGroups? characters.length start characters

/-- The longest run of zeros of a list, as start and length; of equally long ones the first. -/
def longestZeroRun (groups : List UInt16) : Nat × Nat :=
  let runAt (start : Nat) : Nat := ((groups.drop start).takeWhile (· == 0)).length
  (List.range groups.length).foldl
    (fun best start => if best.2 < runAt start then (start, runAt start) else best) (0, 0)

def groupText (group : UInt16) : String :=
  String.ofList (Nat.toDigits 16 group.toNat)

def joinGroups (groups : List UInt16) : String :=
  String.intercalate ":" (groups.map groupText)

/-- The canonical text: a run of two or more zeros becomes `::`. -/
def text (address : Ipv6) : String :=
  let (start, length) := longestZeroRun address.groups
  if length < 2 then joinGroups address.groups
  else joinGroups (address.groups.take start) ++ "::" ++
    joinGroups (address.groups.drop (start + length))

def mapped? (address : Ipv6) : Option Ipv4 :=
  match address.groups with
  | [0, 0, 0, 0, 0, 0xffff, high, low] =>
      some ⟨UInt32.ofNat (high.toNat * 0x10000 + low.toNat)⟩
  | _ => none

end Ipv6

/-! Addresses with a port, as a server listens on: no names, and IPv6 addresses in brackets. -/

inductive SocketAddress
  | v4 (address : Ipv4) (port : UInt16)
  | v6 (address : Ipv6) (scope : UInt32) (port : UInt16)
  deriving DecidableEq, Repr

def port? (digits : List Char) : Option UInt16 :=
  ((Text.natural? digits).filter (· < 0x10000)).map UInt16.ofNat

def scope? (digits : List Char) : Option UInt32 :=
  ((Text.natural? digits).filter (· < 0x100000000)).map UInt32.ofNat

namespace SocketAddress

def port : SocketAddress → UInt16
  | .v4 _ port => port
  | .v6 _ _ port => port

def ofBracketed? (inside behind : List Char) : Option SocketAddress := do
  let digits ← Text.dropPrefix? [':'] behind
  let (address, zone) := Text.splitFirst (· == '%') inside
  let scope ←
    match zone with
    | none => some 0
    | some zone => scope? zone
  return .v6 (← Ipv6.ofText? address) scope (← port? digits)

def ofText? (text : String) : Option SocketAddress :=
  match text.toList with
  | '[' :: rest =>
      match Text.splitFirst (· == ']') rest with
      | (inside, some behind) => ofBracketed? inside behind
      | (_, none) => none
  | characters =>
      match Text.splitFirst (· == ':') characters with
      | (address, some digits) => do return .v4 (← Ipv4.ofStrictText? address) (← port? digits)
      | (_, none) => none

/-- An IPv6 address that stands for an IPv4 address shows it. -/
def hostText (address : Ipv6) : String :=
  match address.mapped? with
  | some mapped => "::ffff:" ++ mapped.text
  | none => address.text

def text : SocketAddress → String
  | .v4 address port => address.text ++ ":" ++ toString port.toNat
  | .v6 address scope port =>
      let zone := if scope = 0 then "" else "%" ++ toString scope.toNat
      "[" ++ hostText address ++ zone ++ "]:" ++ toString port.toNat

end SocketAddress

end BearerProxy.Net
