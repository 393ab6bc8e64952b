import BearerProxy.Text

/-!
Timestamps in the format of RFC 3339: reading dates, times and offsets, and writing a moment of
universal time.
-/

namespace BearerProxy.Timestamp

def readField? (width least greatest : Nat) (characters : List Char) : Option (Nat × List Char) := do
  let digits := characters.take width
  if digits.length ≠ width then none
  let value ← Text.valueOf? 10 digits
  if least ≤ value && value ≤ greatest then some (value, characters.drop width) else none

def isLeapYear (year : Nat) : Bool :=
  year % 4 = 0 && (year % 100 ≠ 0 || year % 400 = 0)

def daysIn (year month : Nat) : Nat :=
  if month = 2 then (if isLeapYear year then 29 else 28)
  else if month = 4 || month = 6 || month = 9 || month = 11 then 30
  else 31

def skipDate? (characters : List Char) : Option (List Char) := do
  let (year, rest) ← readField? 4 0 9999 characters
  let (month, rest) ← readField? 2 1 12 (← Text.expect? '-' rest)
  let (_, rest) ← readField? 2 1 (daysIn year month) (← Text.expect? '-' rest)
  return rest

def skipSecondFraction : List Char → List Char
  | '.' :: digit :: rest => if digit.isDigit then rest.dropWhile Char.isDigit else '.' :: digit :: rest
  | characters => characters

def skipTime? (characters : List Char) : Option (List Char) := do
  let (_, rest) ← readField? 2 0 23 characters
  let (_, rest) ← readField? 2 0 59 (← Text.expect? ':' rest)
  let (_, rest) ← readField? 2 0 60 (← Text.expect? ':' rest)
  return skipSecondFraction rest

def skipOffset? : List Char → Option (List Char)
  | 'Z' :: rest | 'z' :: rest => some rest
  | '+' :: rest | '-' :: rest => do
      let (_, rest) ← readField? 2 0 23 rest
      let (_, rest) ← readField? 2 0 59 (← Text.expect? ':' rest)
      return rest
  | _ => none

/-- Whether a text is a timestamp: a date, a time and an offset. What stands between date and time is left
to the writer, as long as it is one character of ASCII. -/
def isTimestamp (text : String) : Bool :=
  let behindDate (characters : List Char) : Option (List Char) :=
    match characters with
    | separator :: rest =>
        if separator.toNat < 0x80 then (skipTime? rest).bind skipOffset? else none
    | [] => none
  ((skipDate? text.toList).bind behindDate) == some []

/-! Writing. -/

def padded (width value : Nat) : String :=
  let digits := Nat.toDigits 10 value
  String.ofList (List.replicate (width - digits.length) '0' ++ digits)

def daysPerEra : Nat := 146097

/-- Year, month and day of a day counted from the first of January 1970. Years are taken to begin in March,
so that a leap day is the last of its year. -/
def dateOfDay (day : Nat) : Nat × Nat × Nat :=
  let shifted := day + 719468
  let era := shifted / daysPerEra
  let dayOfEra := shifted % daysPerEra
  let yearOfEra := (dayOfEra - dayOfEra / 1460 + dayOfEra / 36524 - dayOfEra / 146096) / 365
  let dayOfYear := dayOfEra - (365 * yearOfEra + yearOfEra / 4 - yearOfEra / 100)
  let shiftedMonth := (5 * dayOfYear + 2) / 153
  let dayOfMonth := dayOfYear - (153 * shiftedMonth + 2) / 5 + 1
  let month := if shiftedMonth < 10 then shiftedMonth + 3 else shiftedMonth - 9
  let year := yearOfEra + era * 400 + (if month ≤ 2 then 1 else 0)
  (year, month, dayOfMonth)

def ofSeconds (seconds : Nat) : String :=
  let (year, month, day) := dateOfDay (seconds / 86400)
  let second := seconds % 86400
  padded 4 year ++ "-" ++ padded 2 month ++ "-" ++ padded 2 day ++ "T" ++
    padded 2 (second / 3600) ++ ":" ++ padded 2 (second / 60 % 60) ++ ":" ++
    padded 2 (second % 60) ++ "Z"

end BearerProxy.Timestamp
