import BearerProxy.Proofs.Json.RoundTrip

/-!
Integers in JSON. A number is read as an integer exactly if it has neither fraction nor exponent, fits a 64-bit
word and is not a negative zero; and such an integer, once written, is read back.
-/

namespace BearerProxy.Json

def FitsWord (value : Int) : Prop :=
  -0x8000000000000000 ≤ value ∧ value < wordLimit

namespace NumberText

def integer (number : NumberText) : Int :=
  if number.negative then -naturalOf number.whole else naturalOf number.whole

/-- Numbers that are written as integers of 64 bits. Negative zero is none of them. -/
structure WritesWord (number : NumberText) : Prop where
  fraction : number.fraction = none
  exponent : number.exponent = none
  fits : FitsWord number.integer
  notNegativeZero : number.negative → number.integer ≠ 0

theorem value?_of_writesWord {number : NumberText} (word : number.WritesWord) :
    number.value? = some (.integer number.integer) := by
  rcases word with ⟨fraction, exponent, ⟨lower, upper⟩, notNegativeZero⟩
  rw [value?, fraction, exponent]
  cases negative : number.negative with
  | false =>
      simp only [integer, negative, Bool.false_eq_true, if_false] at upper ⊢
      have below : naturalOf number.whole < wordLimit := Int.ofNat_lt.mp upper
      simp [below]
  | true =>
      have notZero := notNegativeZero negative
      simp only [integer, negative, if_true] at lower notZero ⊢
      have positive : 0 < naturalOf number.whole := by omega
      have small : naturalOf number.whole ≤ 0x8000000000000000 := by omega
      simp [positive, small]

theorem value?_cases {number : NumberText} {value : Json} (isValue : number.value? = some value) :
    (number.WritesWord ∧ value = .integer number.integer) ∨ ∃ decimal, value = .decimal decimal := by
  dsimp only [value?] at isValue
  split at isValue
  · rename_i plain
    rw [Bool.and_eq_true, Option.isNone_iff_eq_none, Option.isNone_iff_eq_none] at plain
    split at isValue
    · rename_i unsigned
      simp only [Bool.and_eq_true, decide_eq_true_eq, Bool.not_eq_true'] at unsigned
      have same : number.integer = naturalOf number.whole := by simp [integer, unsigned.2]
      cases isValue
      refine .inl ⟨⟨plain.1, plain.2, ⟨?_, ?_⟩, ?_⟩, by rw [same]⟩
      · omega
      · rw [same]
        exact Int.ofNat_lt.mpr unsigned.1
      · simp [unsigned.2]
    · split at isValue
      · rename_i signed
        simp only [Bool.and_eq_true, decide_eq_true_eq] at signed
        rcases signed with ⟨⟨negative, positive⟩, small⟩
        have same : number.integer = -naturalOf number.whole := by simp [integer, negative]
        cases isValue
        refine .inl ⟨⟨plain.1, plain.2, ⟨?_, ?_⟩, fun _ => ?_⟩, by rw [same]⟩
        · omega
        · simp only [wordLimit]
          omega
        · omega
      · split at isValue
        · cases isValue
          exact .inr ⟨_, rfl⟩
        · rcases Option.map_eq_some_iff.mp isValue with ⟨_, _, equal⟩
          exact .inr ⟨_, equal.symm⟩
  · rcases Option.map_eq_some_iff.mp isValue with ⟨_, _, equal⟩
    exact .inr ⟨_, equal.symm⟩

/-- The numbers that are read as integers. -/
theorem value?_eq_integer_iff (number : NumberText) (value : Int) :
    number.value? = some (.integer value) ↔ number.WritesWord ∧ number.integer = value := by
  constructor
  · intro isValue
    rcases value?_cases isValue with ⟨word, same⟩ | ⟨_, isDecimal⟩
    · exact ⟨word, (Json.integer.inj same).symm⟩
    · cases isDecimal
  · rintro ⟨word, rfl⟩
    exact value?_of_writesWord word

end NumberText

/-! The digits of a natural number. -/

theorem naturalOf_toDigits (magnitude : Nat) : naturalOf (Nat.toDigits 10 magnitude) = magnitude := by
  have read := Nat.ofDigitChars_ten_toDigits (n := magnitude)
  rw [Nat.ofDigitChars_eq_foldl] at read
  simpa only [naturalOf, Nat.mul_comm] using read

theorem isDigit_of_mem_toDigits (magnitude : Nat) {digit : Char}
    (isMember : digit ∈ Nat.toDigits 10 magnitude) : isDigit digit = true :=
  Nat.isDigit_of_mem_toDigits (by decide) (by decide) isMember

theorem head?_toDigits (magnitude : Nat) (positive : 0 < magnitude) :
    (Nat.toDigits 10 magnitude).head? ≠ some '0' := by
  induction magnitude using Nat.strongRecOn with
  | ind magnitude induction =>
      by_cases small : magnitude < 10
      · have single : ∀ digit < 10, 0 < digit → [Nat.digitChar digit].head? ≠ some '0' := by decide
        rw [Nat.toDigits_of_lt_base small]
        exact single magnitude small positive
      · have large : 10 ≤ magnitude := Nat.le_of_not_lt small
        have shorter := induction (magnitude / 10) (by omega) (by omega)
        rw [Nat.toDigits_of_base_le (by decide) large,
          List.head?_append, Option.or_of_isSome (List.isSome_head?.mpr Nat.toDigits_ne_nil)]
        exact shorter

/-! Reading back. -/

theorem takeDigits_append {digits rest : List Char} (areDigits : ∀ digit ∈ digits, isDigit digit = true)
    (ends : EndsValue rest) : takeDigits (digits ++ rest) = (digits, rest) := by
  have stops : rest.takeWhile isDigit = [] ∧ rest.dropWhile isDigit = rest := by
    cases rest with
    | nil => exact ⟨rfl, rfl⟩
    | cons first others =>
        rcases ends first rfl with rfl | rfl | rfl <;> exact ⟨rfl, rfl⟩
  rw [takeDigits, List.takeWhile_append_of_pos areDigits, List.dropWhile_append_of_pos areDigits,
    stops.1, stops.2, List.append_nil]

theorem wellFormed_toDigits (magnitude : Nat) :
    ((Nat.toDigits 10 magnitude).isEmpty ||
      ((Nat.toDigits 10 magnitude).head? = some '0' && 1 < (Nat.toDigits 10 magnitude).length)) =
        false := by
  rw [List.isEmpty_eq_false_iff.mpr Nat.toDigits_ne_nil, Bool.false_or]
  by_cases zero : magnitude = 0
  · rw [zero]
    decide
  · simp [head?_toDigits magnitude (Nat.pos_of_ne_zero zero)]

def wholeNumber (negative : Bool) (magnitude : Nat) : NumberText :=
  ⟨negative, Nat.toDigits 10 magnitude, none, none⟩

theorem readNumberText?_negative (magnitude : Nat) {rest : List Char} (ends : EndsValue rest) :
    readNumberText? ('-' :: (Nat.toDigits 10 magnitude ++ rest)) =
      some (wholeNumber true magnitude, rest) := by
  have taken := takeDigits_append (fun _ => isDigit_of_mem_toDigits magnitude) ends
  simp only [readNumberText?, taken, wellFormed_toDigits]
  cases rest with
  | nil => rfl
  | cons first others =>
      rcases ends first rfl with rfl | rfl | rfl <;> rfl

theorem exists_toDigits_eq_cons (magnitude : Nat) :
    ∃ first others, Nat.toDigits 10 magnitude = first :: others ∧ isDigit first = true := by
  cases written : Nat.toDigits 10 magnitude with
  | nil => exact absurd written Nat.toDigits_ne_nil
  | cons first others =>
      refine ⟨first, others, rfl, isDigit_of_mem_toDigits magnitude ?_⟩
      rw [written]
      exact List.mem_cons_self

theorem readNumberText?_toDigits (magnitude : Nat) {rest : List Char} (ends : EndsValue rest) :
    readNumberText? (Nat.toDigits 10 magnitude ++ rest) = some (wholeNumber false magnitude, rest) := by
  have taken := takeDigits_append (fun _ => isDigit_of_mem_toDigits magnitude) ends
  have unsigned : ∀ others, Nat.toDigits 10 magnitude ++ rest = '-' :: others → False := by
    rcases exists_toDigits_eq_cons magnitude with ⟨first, digits, written, firstIsDigit⟩
    rintro others equal
    rw [written] at equal
    cases equal
    cases firstIsDigit
  rw [readNumberText?.eq_def]
  simp only [taken, wellFormed_toDigits]
  cases rest with
  | nil => rfl
  | cons first others =>
      rcases ends first rfl with rfl | rfl | rfl <;> rfl

theorem readNumberText?_encodeInteger (value : Int) {rest : List Char} (ends : EndsValue rest) :
    readNumberText? (encodeInteger value ++ rest) =
      some (wholeNumber (value < 0) value.natAbs, rest) := by
  cases value with
  | ofNat magnitude => exact readNumberText?_toDigits magnitude ends
  | negSucc below =>
      rw [decide_eq_true (Int.negSucc_lt_zero below)]
      exact readNumberText?_negative (below + 1) ends

theorem integer_wholeNumber (value : Int) :
    (wholeNumber (value < 0) value.natAbs).integer = value := by
  rw [NumberText.integer, wholeNumber, naturalOf_toDigits]
  by_cases negative : value < 0
  · rw [if_pos (decide_eq_true negative)]
    omega
  · rw [if_neg (by simpa using negative)]
    omega

theorem value?_wholeNumber {value : Int} (fits : FitsWord value) :
    (wholeNumber (value < 0) value.natAbs).value? = some (.integer value) := by
  have same := integer_wholeNumber value
  apply (NumberText.value?_eq_integer_iff _ _).mpr
  refine ⟨⟨rfl, rfl, ?_, fun negative => ?_⟩, same⟩
  · rw [same]
    exact fits
  · rw [same]
    exact Int.ne_of_lt (of_decide_eq_true negative)

def integerStarts : List Char :=
  ['-', '0', '1', '2', '3', '4', '5', '6', '7', '8', '9']

theorem mem_integerStarts_of_isDigit {digit : Char} (digitIs : isDigit digit = true) :
    digit ∈ integerStarts := by
  have codes : ∀ code ≤ '9'.toNat, '0'.toNat ≤ code → Char.ofNat code ∈ integerStarts := by decide
  simp only [isDigit, Bool.and_eq_true, decide_eq_true_eq] at digitIs
  have isStart := codes digit.toNat digitIs.2 digitIs.1
  rwa [Char.ofNat_toNat] at isStart

theorem exists_encodeInteger_eq_cons (value : Int) :
    ∃ first others, encodeInteger value = first :: others ∧ first ∈ integerStarts := by
  cases value with
  | ofNat magnitude =>
      rcases exists_toDigits_eq_cons magnitude with ⟨first, others, written, firstIsDigit⟩
      exact ⟨first, others, written, mem_integerStarts_of_isDigit firstIsDigit⟩
  | negSucc below => exact ⟨'-', _, rfl, by decide⟩

theorem isSpace_of_mem_integerStarts {first : Char} (isStart : first ∈ integerStarts) :
    isSpace first = false := by
  have none : integerStarts.any isSpace = false := rfl
  exact Bool.eq_false_iff.mpr (List.any_eq_false.mp none first isStart)

theorem readValue?_of_mem_integerStarts (limit depth : Nat) {first : Char} (rest : List Char)
    (isStart : first ∈ integerStarts) :
    readValue? limit depth (first :: rest) =
      match readNumberText? (first :: rest) with
      | none => none
      | some (number, rest) => number.value?.map fun value => (value, rest) := by
  simp only [integerStarts, List.mem_cons, List.not_mem_nil, or_false] at isStart
  rcases isStart with rfl | rfl | rfl | rfl | rfl | rfl | rfl | rfl | rfl | rfl | rfl <;>
    cases depth <;> rfl

theorem readsBack_integer (limit depth : Nat) {value : Int} (fits : FitsWord value) :
    ReadsBack (readValue? limit depth) (.integer value) := by
  intro rest ends
  have number := readNumberText?_encodeInteger value ends
  rcases exists_encodeInteger_eq_cons value with ⟨first, others, written, isStart⟩
  rw [encode]
  rw [written, List.cons_append] at number ⊢
  rw [skipSpace_cons _ _ (isSpace_of_mem_integerStarts isStart),
    readValue?_of_mem_integerStarts _ _ _ isStart, number]
  simp only [value?_wholeNumber fits, Option.map_some]

end BearerProxy.Json
