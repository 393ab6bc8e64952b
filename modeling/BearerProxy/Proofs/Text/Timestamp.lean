import Mathlib.Order.Monotone.Basic
import Mathlib.Tactic.IntervalCases
import BearerProxy.Proofs.Text.Digits
import BearerProxy.Text.Timestamp

/-!
What is written as the timestamp of a moment is read as one: the day is a day of the calendar, and every field
has its width. Years of five digits are left out, since the format has none.
-/

namespace BearerProxy.Timestamp

/-! Years that begin in March, counted within 400 of them. -/

def daysBefore (year : Nat) : Nat :=
  365 * year + year / 4 - year / 100 + year / 400

/-- The days without those that only leap years have, so that every year has 365 of them. -/
def commonDays (day : Nat) : Nat :=
  day - day / 1460 + day / 36524 - day / 146096

theorem daysBefore_succ (year : Nat) :
    daysBefore (year + 1) = daysBefore year + if isLeapYear (year + 1) then 366 else 365 := by
  have fours : (year + 1) / 4 = year / 4 + if (year + 1) % 4 = 0 then 1 else 0 := by
    split <;> omega
  have hundreds : (year + 1) / 100 = year / 100 + if (year + 1) % 100 = 0 then 1 else 0 := by
    split <;> omega
  have eras : (year + 1) / 400 = year / 400 + if (year + 1) % 400 = 0 then 1 else 0 := by
    split <;> omega
  have fewer : year / 100 ≤ year / 4 := by omega
  have ofFour : (year + 1) % 100 = 0 → (year + 1) % 4 = 0 := by omega
  have ofHundred : (year + 1) % 400 = 0 → (year + 1) % 100 = 0 := by omega
  rw [daysBefore, daysBefore, fours, hundreds, eras, isLeapYear]
  by_cases four : (year + 1) % 4 = 0
  · by_cases hundred : (year + 1) % 100 = 0
    · by_cases era : (year + 1) % 400 = 0
      · simp only [four, hundred, era, if_true, decide_true, Bool.and_true, Bool.or_true]
        omega
      · simp [four, hundred, era]
        omega
    · simp [four, hundred, mt ofHundred hundred]
      omega
  · simp [four, mt ofFour four, mt ofHundred (mt ofFour four)]
    omega

theorem monotone_commonDays : Monotone commonDays := by
  apply monotone_nat_of_le_succ
  intro day
  rw [commonDays, commonDays]
  omega

theorem commonDays_bounds : ∀ year < 400, 365 * year ≤ commonDays (daysBefore year) ∧
    commonDays (daysBefore (year + 1) - 1) < 365 * (year + 1) := by
  decide +kernel

theorem exists_year {day limit : Nat} (before : day < daysBefore limit) :
    ∃ year < limit, daysBefore year ≤ day ∧ day < daysBefore (year + 1) := by
  induction limit with
  | zero => exact absurd before (Nat.not_lt_zero day)
  | succ limit induction =>
      by_cases earlier : day < daysBefore limit
      · rcases induction earlier with ⟨year, below, found⟩
        exact ⟨year, Nat.lt_succ_of_lt below, found⟩
      · exact ⟨limit, Nat.lt_succ_self limit, Nat.le_of_not_lt earlier, before⟩

theorem commonDays_div {day year : Nat} (inEra : year < 400) (after : daysBefore year ≤ day)
    (before : day < daysBefore (year + 1)) : commonDays day / 365 = year := by
  have bounds := commonDays_bounds year inEra
  have lower : commonDays (daysBefore year) ≤ commonDays day := monotone_commonDays after
  have upper : commonDays day ≤ commonDays (daysBefore (year + 1) - 1) :=
    monotone_commonDays (Nat.le_sub_one_of_lt before)
  omega

/-! Dates. -/

structure IsDate (date : Nat × Nat × Nat) : Prop where
  month : 1 ≤ date.2.1 ∧ date.2.1 ≤ 12
  day : 1 ≤ date.2.2 ∧ date.2.2 ≤ daysIn date.1 date.2.1

def marchDate (year dayOfYear : Nat) : Nat × Nat × Nat :=
  let shiftedMonth := (5 * dayOfYear + 2) / 153
  let dayOfMonth := dayOfYear - (153 * shiftedMonth + 2) / 5 + 1
  let month := if shiftedMonth < 10 then shiftedMonth + 3 else shiftedMonth - 9
  (year + (if month ≤ 2 then 1 else 0), month, dayOfMonth)

def InYear (year dayOfYear : Nat) : Prop :=
  dayOfYear < if isLeapYear (year + 1) then 366 else 365

theorem exists_marchDate (day : Nat) :
    ∃ era year dayOfYear, year < 400 ∧ InYear year dayOfYear ∧
      day + 719468 = era * daysPerEra + daysBefore year + dayOfYear ∧
      dateOfDay day = marchDate (year + era * 400) dayOfYear := by
  have inEra : (day + 719468) % daysPerEra < daysBefore 400 := Nat.mod_lt _ (by decide)
  rcases exists_year inEra with ⟨year, below, after, before⟩
  have divided := commonDays_div below after before
  have noEra : daysBefore year = 365 * year + year / 4 - year / 100 := by
    rw [daysBefore, Nat.div_eq_of_lt below, Nat.add_zero]
  refine ⟨(day + 719468) / daysPerEra, year, (day + 719468) % daysPerEra - daysBefore year, below, ?_, ?_, ?_⟩
  · rw [daysBefore_succ] at before
    rw [InYear]
    omega
  · have whole := Nat.div_add_mod' (day + 719468) daysPerEra
    omega
  · rw [commonDays] at divided
    rw [dateOfDay]
    simp only [divided, ← noEra]
    rfl

theorem isDate_marchDate {year dayOfYear : Nat} (inYear : InYear year dayOfYear) :
    IsDate (marchDate year dayOfYear) := by
  rw [InYear] at inYear
  have inLeapYear : dayOfYear < 366 := by
    split at inYear <;> omega
  have lastMonth : (5 * dayOfYear + 2) / 153 ≤ 11 := by omega
  rw [marchDate]
  generalize shifted : (5 * dayOfYear + 2) / 153 = shiftedMonth at lastMonth
  by_cases february : shiftedMonth = 11
  -- Only the length of the last month hangs on the year.
  · subst february
    constructor
    case month => simp
    case day =>
      simp only [daysIn]
      cases leap : isLeapYear (year + 1) with
      | true =>
          simp [leap]
          omega
      | false =>
          rw [leap, if_neg Bool.false_ne_true] at inYear
          simp [leap]
          omega
  · have earlier : shiftedMonth ≤ 10 := by omega
    interval_cases shiftedMonth <;> constructor <;> simp [daysIn] <;> omega

theorem isLeapYear_add_eras (year era : Nat) : isLeapYear (year + era * 400) = isLeapYear year := by
  have four : (year + era * 400) % 4 = year % 4 := by omega
  have hundred : (year + era * 400) % 100 = year % 100 := by omega
  have whole : (year + era * 400) % 400 = year % 400 := by omega
  rw [isLeapYear, isLeapYear, four, hundred, whole]

theorem isDate_dateOfDay (day : Nat) : IsDate (dateOfDay day) := by
  rcases exists_marchDate day with ⟨era, year, dayOfYear, -, inYear, -, same⟩
  rw [same]
  apply isDate_marchDate
  rwa [InYear, Nat.add_right_comm, isLeapYear_add_eras, ← InYear]

theorem year_dateOfDay {day : Nat} (before : day < 2932897) : (dateOfDay day).1 ≤ 9999 := by
  rcases exists_marchDate day with ⟨era, year, dayOfYear, below, inYear, counted, same⟩
  rw [same, marchDate]
  rw [daysPerEra] at counted
  rw [daysBefore] at counted
  simp only
  split <;> split <;> omega

/-! Fields. -/

theorem length_padded {width value : Nat} (positive : 0 < width) (fits : value < 10 ^ width) :
    (padded width value).toList.length = width := by
  have short := (Nat.length_toDigits_le_iff (by decide) positive).mpr fits
  rw [padded, String.toList_ofList, List.length_append, List.length_replicate]
  omega

theorem valueOf?_padded (width value : Nat) :
    Text.valueOf? 10 (padded width value).toList = some value := by
  have zeros (count : Nat) : Nat.ofDigitChars 10 (List.replicate count '0') 0 = 0 := by
    induction count with
    | zero => rfl
    | succ count induction => exact induction
  rw [padded, String.toList_ofList, Text.valueOf?_of_isDigit, Nat.ofDigitChars_append, zeros,
    Nat.ofDigitChars_ten_toDigits]
  intro digit member
  rcases List.mem_append.mp member with isZero | inNumber
  · rw [List.eq_of_mem_replicate isZero]
    rfl
  · exact Nat.isDigit_of_mem_toDigits (by decide) (by decide) inNumber

theorem readField?_padded {width least greatest value : Nat} (positive : 0 < width)
    (fits : value < 10 ^ width) (between : least ≤ value ∧ value ≤ greatest) (rest : List Char) :
    readField? width least greatest ((padded width value).toList ++ rest) = some (value, rest) := by
  have length := length_padded positive fits
  rw [readField?, List.take_left' length, List.drop_left' length, valueOf?_padded]
  simp [length, between]

theorem skipDate?_padded {year month day : Nat} (inFormat : year ≤ 9999) (date : IsDate (year, month, day))
    (rest : List Char) :
    skipDate? ((padded 4 year).toList ++ '-' :: ((padded 2 month).toList ++
      '-' :: ((padded 2 day).toList ++ rest))) = some rest := by
  have longest : daysIn year month ≤ 31 := by
    rw [daysIn]
    repeat' split
    all_goals omega
  have isDay := date.day
  have isMonth := date.month
  dsimp only at isDay isMonth
  rw [skipDate?, readField?_padded (by decide) (by omega) (by omega)]
  simp only [Option.bind_eq_bind, Option.bind_some, Text.expect?, if_true]
  rw [readField?_padded (by decide) (by omega) isMonth]
  simp only [Option.bind_some, if_true]
  rw [readField?_padded (by decide) (by omega) isDay]
  rfl

theorem skipTime?_padded {hour minute second : Nat} (isHour : hour ≤ 23) (isMinute : minute ≤ 59)
    (isSecond : second ≤ 59) (rest : List Char) :
    skipTime? ((padded 2 hour).toList ++ ':' :: ((padded 2 minute).toList ++
      ':' :: ((padded 2 second).toList ++ rest))) = some (skipSecondFraction rest) := by
  rw [skipTime?, readField?_padded (by decide) (by omega) ⟨Nat.zero_le _, isHour⟩]
  simp only [Option.bind_eq_bind, Option.bind_some, Text.expect?, if_true]
  rw [readField?_padded (by decide) (by omega) ⟨Nat.zero_le _, isMinute⟩]
  simp only [Option.bind_some, if_true]
  rw [readField?_padded (by decide) (by omega) ⟨Nat.zero_le _, by omega⟩]
  rfl

/-- Every moment before the year 10000 is written as a timestamp. -/
theorem isTimestamp_ofSeconds (seconds : Nat) (before : seconds < 253402300800) :
    isTimestamp (ofSeconds seconds) := by
  have inFormat : (dateOfDay (seconds / 86400)).1 ≤ 9999 := year_dateOfDay (by omega)
  have date := isDate_dateOfDay (seconds / 86400)
  rcases split : dateOfDay (seconds / 86400) with ⟨year, month, day⟩
  rw [split] at inFormat date
  have dash : "-".toList = ['-'] := rfl
  have colon : ":".toList = [':'] := rfl
  have ends : "T".toList = ['T'] ∧ "Z".toList = ['Z'] := ⟨rfl, rfl⟩
  have separates : 'T'.toNat < 0x80 := by decide
  simp only [isTimestamp, ofSeconds, split, String.toList_append, dash, colon, ends, List.append_assoc,
    List.cons_append, List.nil_append]
  rw [skipDate?_padded inFormat date]
  simp only [Option.bind_some, if_pos separates]
  rw [skipTime?_padded (by omega) (by omega) (by omega)]
  rfl

end BearerProxy.Timestamp
