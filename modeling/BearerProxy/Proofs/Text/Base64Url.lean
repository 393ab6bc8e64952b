import BearerProxy.Text.Base64

/-! Base64 is read back as it was written, and its digits hold no dot. -/

namespace BearerProxy.Text.Base64Url

theorem digitValue?_digit : ∀ value < 64, digitValue? (digit value) = some value := by
  decide

theorem digit_ne_dot : ∀ value < 64, digit value ≠ '.' := by
  decide

theorem exists_digit_of_mem_encode (bytes : List UInt8) (character : Char)
    (member : character ∈ encode bytes) : ∃ value < 64, character = digit value := by
  fun_induction encode bytes with
  | case1 => cases member
  | case2 first =>
      have bound := first.toNat_lt
      simp only [List.mem_cons, List.not_mem_nil, or_false] at member
      rcases member with equal | equal
      · exact ⟨_, by omega, equal⟩
      · exact ⟨_, by omega, equal⟩
  | case3 first second =>
      have firstBound := first.toNat_lt
      have secondBound := second.toNat_lt
      simp only [List.mem_cons, List.not_mem_nil, or_false] at member
      rcases member with equal | equal | equal
      · exact ⟨_, by omega, equal⟩
      · exact ⟨_, by omega, equal⟩
      · exact ⟨_, by omega, equal⟩
  | case4 first second third rest induction =>
      have firstBound := first.toNat_lt
      have secondBound := second.toNat_lt
      have thirdBound := third.toNat_lt
      simp only [List.mem_cons] at member
      rcases member with equal | equal | equal | equal | member
      · exact ⟨_, by omega, equal⟩
      · exact ⟨_, by omega, equal⟩
      · exact ⟨_, by omega, equal⟩
      · exact ⟨_, by omega, equal⟩
      · exact induction member

theorem ne_dot_of_mem_encode (bytes : List UInt8) (character : Char)
    (member : character ∈ encode bytes) : character ≠ '.' := by
  rcases exists_digit_of_mem_encode bytes character member with ⟨value, bound, equal⟩
  rw [equal]
  exact digit_ne_dot value bound

theorem ofNat_eq_of_toNat_eq {value : Nat} (byte : UInt8) (equal : value = byte.toNat) :
    UInt8.ofNat value = byte := by
  rw [equal, UInt8.ofNat_toNat]

theorem decode?_encode (bytes : List UInt8) : decode? (encode bytes) = some bytes := by
  fun_induction encode bytes with
  | case1 => rfl
  | case2 first =>
      have bound := first.toNat_lt
      have read := digitValue?_digit
      simp only [decode?, read _ (show first.toNat / 4 < 64 by omega),
        read _ (show first.toNat % 4 * 16 < 64 by omega), Option.bind_eq_bind, Option.bind_some]
      rw [if_pos (by omega), ofNat_eq_of_toNat_eq first (by omega)]
  | case3 first second =>
      have firstBound := first.toNat_lt
      have secondBound := second.toNat_lt
      have read := digitValue?_digit
      simp only [decode?, read _ (show first.toNat / 4 < 64 by omega),
        read _ (show first.toNat % 4 * 16 + second.toNat / 16 < 64 by omega),
        read _ (show second.toNat % 16 * 4 < 64 by omega), Option.bind_eq_bind, Option.bind_some]
      rw [if_pos (by omega), ofNat_eq_of_toNat_eq first (by omega),
        ofNat_eq_of_toNat_eq second (by omega)]
  | case4 first second third rest induction =>
      have firstBound := first.toNat_lt
      have secondBound := second.toNat_lt
      have thirdBound := third.toNat_lt
      have read := digitValue?_digit
      simp only [decode?, read _ (show first.toNat / 4 < 64 by omega),
        read _ (show first.toNat % 4 * 16 + second.toNat / 16 < 64 by omega),
        read _ (show second.toNat % 16 * 4 + third.toNat / 64 < 64 by omega),
        read _ (show third.toNat % 64 < 64 by omega), induction, Option.bind_eq_bind,
        Option.bind_some]
      rw [ofNat_eq_of_toNat_eq first (by omega),
        ofNat_eq_of_toNat_eq second (by omega),
        ofNat_eq_of_toNat_eq third (by omega)]

end BearerProxy.Text.Base64Url
