import BearerProxy.Text

/-! Digits are letters and decimal digits, and a number is read back from its decimal digits. -/

namespace BearerProxy.Text

theorem isDigit_iff (character : Char) :
    character.isDigit ↔ 48 ≤ character.toNat ∧ character.toNat ≤ 57 :=
  Bool.and_eq_true_iff.trans (and_congr decide_eq_true_iff decide_eq_true_iff)

theorem isUpper_iff (character : Char) :
    character.isUpper ↔ 65 ≤ character.toNat ∧ character.toNat ≤ 90 :=
  decide_eq_true_iff

theorem isLower_iff (character : Char) :
    character.isLower ↔ 97 ≤ character.toNat ∧ character.toNat ≤ 122 :=
  Bool.and_eq_true_iff.trans (and_congr decide_eq_true_iff decide_eq_true_iff)

theorem isAlphanum_iff (character : Char) :
    character.isAlphanum ↔ ((65 ≤ character.toNat ∧ character.toNat ≤ 90) ∨
      (97 ≤ character.toNat ∧ character.toNat ≤ 122)) ∨
      (48 ≤ character.toNat ∧ character.toNat ≤ 57) := by
  rw [← isUpper_iff, ← isLower_iff, ← isDigit_iff]
  exact Bool.or_eq_true_iff.trans (or_congr_left Bool.or_eq_true_iff)

theorem not_isBlank_of_isAlphanum {character : Char} (isAlphanum : character.isAlphanum) :
    ¬isBlank character := by
  rw [isAlphanum_iff] at isAlphanum
  simp only [isBlank, Bool.or_eq_true, Bool.and_eq_true, decide_eq_true_eq, beq_iff_eq]
  omega

theorem isAlphanum_of_isDigitOf {base : Nat} {character : Char} (isDigit : isDigitOf base character) :
    character.isAlphanum := by
  have codes : ('0' ≤ character ∧ character ≤ '9' ↔ 48 ≤ character.toNat ∧ character.toNat ≤ 57) ∧
      ('a' ≤ character ∧ character ≤ 'f' ↔ 97 ≤ character.toNat ∧ character.toNat ≤ 102) ∧
      ('A' ≤ character ∧ character ≤ 'F' ↔ 65 ≤ character.toNat ∧ character.toNat ≤ 70) :=
    ⟨Iff.rfl, Iff.rfl, Iff.rfl⟩
  rw [isAlphanum_iff]
  simp only [isDigitOf, digitValue?, Option.isSome_ite, Bool.and_eq_true, decide_eq_true_eq, codes] at isDigit
  -- What is none of the three kinds has the base for its value, which is no digit of it.
  split at isDigit
  · omega
  · split at isDigit
    · omega
    · split at isDigit <;> omega

theorem digitValue?_of_not_isAlphanum {character : Char} (noDigit : ¬character.isAlphanum) (base : Nat) :
    digitValue? base character = none :=
  Option.not_isSome_iff_eq_none.mp fun isDigit => noDigit (isAlphanum_of_isDigitOf isDigit)

theorem isDigitOf_of_valueOf? {base value : Nat} {digits : List Char} (read : valueOf? base digits = some value) :
    ∀ digit ∈ digits, isDigitOf base digit := by
  rw [valueOf?] at read
  generalize 0 = start at read
  induction digits generalizing start with
  | nil => exact fun digit member => absurd member List.not_mem_nil
  | cons head tail induction =>
      rw [List.foldlM_cons] at read
      rcases Option.bind_eq_some_iff.mp read with ⟨next, first, read⟩
      rcases Option.map_eq_some_iff.mp first with ⟨digit, isDigit, -⟩
      rw [List.forall_mem_cons]
      exact ⟨Option.isSome_of_eq_some isDigit, induction next read⟩

theorem digitValue?_of_isDigit {digit : Char} (isDigit : digit.isDigit) :
    digitValue? 10 digit = some (digit.toNat - '0'.toNat) := by
  have decimal := (isDigit_iff digit).mp isDigit
  have between : ('0' ≤ digit && digit ≤ '9') = true := by
    rw [Bool.and_eq_true, decide_eq_true_eq, decide_eq_true_eq]
    exact decimal
  have small : digit.toNat - '0'.toNat < 10 := by
    have zero : '0'.toNat = 48 := rfl
    omega
  rw [digitValue?, if_pos between, if_pos small]

theorem valueOf?_of_isDigit {digits : List Char} (decimal : ∀ digit ∈ digits, digit.isDigit) :
    valueOf? 10 digits = some (Nat.ofDigitChars 10 digits 0) := by
  rw [valueOf?]
  generalize 0 = start
  induction digits generalizing start with
  | nil => rfl
  | cons head tail induction =>
      rw [List.forall_mem_cons] at decimal
      rw [List.foldlM_cons, digitValue?_of_isDigit decimal.1, Nat.ofDigitChars_cons, Nat.mul_comm 10 start]
      exact induction decimal.2 _

theorem natural?_toDigits (number : Nat) : natural? (Nat.toDigits 10 number) = some number := by
  have nonempty : (Nat.toDigits 10 number).isEmpty = false := List.isEmpty_eq_false_iff.mpr Nat.toDigits_ne_nil
  have decimal := valueOf?_of_isDigit fun digit member =>
    Nat.isDigit_of_mem_toDigits (b := 10) (n := number) (by decide) (by decide) member
  rw [natural?, nonempty, if_neg Bool.false_ne_true, decimal, Nat.ofDigitChars_ten_toDigits]

theorem isAlphanum_of_natural? {digits : List Char} {number : Nat} (read : natural? digits = some number) :
    ∀ digit ∈ digits, digit.isAlphanum := by
  intro digit member
  rw [natural?] at read
  split at read
  · cases read
  · exact isAlphanum_of_isDigitOf (isDigitOf_of_valueOf? read digit member)

end BearerProxy.Text
