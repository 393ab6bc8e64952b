/-! Texts and their bytes: reading the UTF-8 form of a text gives the text back. -/

namespace BearerProxy.Text

theorem toList_loop (bytes : ByteArray) (index : Nat) (read : List UInt8) :
    ByteArray.toList.loop bytes index read =
      read.reverse ++ bytes.data.toList.drop index := by
  fun_induction ByteArray.toList.loop bytes index read with
  | case1 index read inside induction =>
      have inside : index < bytes.data.toList.length := by simpa using inside
      rw [induction, List.drop_eq_getElem_cons inside, List.reverse_cons, List.append_assoc,
        List.singleton_append]
      simp_all [ByteArray.get!]
  | case2 index read outside =>
      rw [List.drop_eq_nil_of_le (by simpa using outside), List.append_nil]

theorem toList_eq_data (bytes : ByteArray) : bytes.toList = bytes.data.toList := by
  rw [ByteArray.toList, toList_loop]
  rfl

theorem toList_toUTF8 (text : String) :
    text.toUTF8.toList = text.toList.flatMap String.utf8EncodeChar := by
  rw [toList_eq_data, String.toUTF8_eq_toByteArray, ← String.utf8Encode_toList,
    List.utf8Encode, List.toList_data_toByteArray]

theorem fromUTF8?_toUTF8 (text : String) : String.fromUTF8? text.toUTF8 = some text := by
  have valid : text.toUTF8.IsValidUTF8 := text.isValidUTF8
  rw [String.fromUTF8?, dif_pos valid]
  rfl

theorem fromUTF8?_toList_toUTF8 (text : String) :
    String.fromUTF8? ⟨text.toUTF8.toList.toArray⟩ = some text := by
  rw [toList_eq_data]
  exact fromUTF8?_toUTF8 text

theorem toUTF8_of_fromUTF8? {bytes : ByteArray} {text : String}
    (read : String.fromUTF8? bytes = some text) : text.toUTF8 = bytes := by
  rw [String.fromUTF8?] at read
  split at read
  · rw [← Option.some.inj read]
    rfl
  · cases read

private theorem not_ascii_ofNat {value : Nat} (high : 0x80 ≤ value) (small : value < 0x100) :
    ¬(UInt8.ofNat value).toNat < 0x80 := by
  rw [UInt8.toNat_ofNat', Nat.mod_eq_of_lt small]
  omega

/-- A byte below 128 is a character by itself: all bytes of a longer form have their highest bit set. -/
theorem toNat_of_mem_utf8EncodeChar {byte : UInt8} {character : Char}
    (member : byte ∈ String.utf8EncodeChar character) (ascii : byte.toNat < 0x80) :
    character.toNat = byte.toNat := by
  simp only [String.utf8EncodeChar] at member
  split at member
  · rename_i small
    change character.toNat ≤ 0x7F at small
    rw [List.mem_singleton.mp member]
    change character.toNat = (UInt8.ofNat character.toNat).toNat
    rw [UInt8.toNat_ofNat']
    omega
  · exfalso
    split at member
    · simp only [List.mem_cons, List.not_mem_nil, or_false] at member
      rcases member with equal | equal
      · exact not_ascii_ofNat (by omega) (by omega) (equal ▸ ascii)
      · exact not_ascii_ofNat (by omega) (by omega) (equal ▸ ascii)
    · split at member
      · simp only [List.mem_cons, List.not_mem_nil, or_false] at member
        rcases member with equal | equal | equal
        · exact not_ascii_ofNat (by omega) (by omega) (equal ▸ ascii)
        · exact not_ascii_ofNat (by omega) (by omega) (equal ▸ ascii)
        · exact not_ascii_ofNat (by omega) (by omega) (equal ▸ ascii)
      · simp only [List.mem_cons, List.not_mem_nil, or_false] at member
        rcases member with equal | equal | equal | equal
        · exact not_ascii_ofNat (by omega) (by omega) (equal ▸ ascii)
        · exact not_ascii_ofNat (by omega) (by omega) (equal ▸ ascii)
        · exact not_ascii_ofNat (by omega) (by omega) (equal ▸ ascii)
        · exact not_ascii_ofNat (by omega) (by omega) (equal ▸ ascii)

theorem exists_of_mem_toUTF8 {byte : UInt8} {text : String}
    (member : byte ∈ text.toUTF8.toList) (ascii : byte.toNat < 0x80) :
    ∃ character ∈ text.toList, character.toNat = byte.toNat := by
  rw [toList_toUTF8, List.mem_flatMap] at member
  rcases member with ⟨character, inText, encoded⟩
  exact ⟨character, inText, toNat_of_mem_utf8EncodeChar encoded ascii⟩

theorem utf8EncodeChar_of_ascii {character : Char} (ascii : character.toNat < 0x80) :
    String.utf8EncodeChar character = [UInt8.ofNat character.toNat] := by
  have small : character.val.toNat ≤ 127 := Nat.le_of_lt_succ ascii
  simp only [String.utf8EncodeChar, if_pos small]
  rfl

/-! The first byte of a character tells where it begins. -/

theorem utf8EncodeChar_eq_cons (character : Char) :
    ∃ first others, String.utf8EncodeChar character = first :: others ∧ first.IsUTF8FirstByte ∧
      ∀ byte ∈ others, ¬byte.IsUTF8FirstByte := by
  cases encoded : String.utf8EncodeChar character with
  | nil => exact absurd encoded String.utf8EncodeChar_ne_nil
  | cons first others =>
      have isFirst (index : Nat) (inside : index < (first :: others).length) :
          ((first :: others)[index]).IsUTF8FirstByte ↔ index = 0 := by
        simp only [← encoded]
        exact UInt8.isUTF8FirstByte_getElem_utf8EncodeChar
      refine ⟨first, others, rfl, (isFirst 0 (Nat.succ_pos _)).mpr rfl, ?_⟩
      intro byte member isFirstByte
      rcases List.getElem_of_mem member with ⟨index, inside, isByte⟩
      rw [← isByte] at isFirstByte
      exact Nat.succ_ne_zero index ((isFirst (index + 1) (Nat.succ_lt_succ inside)).mp isFirstByte)

theorem utf8EncodeChar_injective {one other : Char}
    (same : String.utf8EncodeChar one = String.utf8EncodeChar other) : one = other := by
  have read (character : Char) :
      (String.utf8EncodeChar character).toByteArray.utf8DecodeChar? 0 = some character := by
    rw [← ByteArray.append_empty (b := (String.utf8EncodeChar character).toByteArray)]
    exact ByteArray.utf8DecodeChar?_utf8EncodeChar_append
  have together := read one
  rw [same, read other] at together
  exact (Option.some.inj together).symm

theorem utf8EncodeChar_of_suffix {one other : Char} {front : List UInt8}
    (ends : String.utf8EncodeChar one = front ++ String.utf8EncodeChar other) : one = other := by
  rcases utf8EncodeChar_eq_cons one with ⟨first, others, oneForm, -, noneFirst⟩
  rcases utf8EncodeChar_eq_cons other with ⟨mark, rest, otherForm, isFirst, -⟩
  cases front with
  | nil => exact utf8EncodeChar_injective ends
  | cons byte front =>
      rw [oneForm, otherForm] at ends
      have inside : mark ∈ others := by
        rw [(List.cons.inj ends).2]
        exact List.mem_append_right _ List.mem_cons_self
      exact absurd isFirst (noneFirst mark inside)

/-- A text whose bytes end in the form of a character ends in that character. -/
theorem mem_of_toUTF8_eq_append {text : String} {front : List UInt8} {character : Char}
    (ends : text.toUTF8.toList = front ++ String.utf8EncodeChar character) :
    character ∈ text.toList := by
  rw [toList_toUTF8] at ends
  rcases List.eq_nil_or_concat text.toList with empty | ⟨before, last, whole⟩
  · rw [empty] at ends
    exact absurd (List.append_eq_nil_iff.mp ends.symm).2 String.utf8EncodeChar_ne_nil
  · rw [List.concat_eq_append] at whole
    have isLast : last ∈ text.toList := by simp [whole]
    rw [whole, List.flatMap_append, List.flatMap_singleton] at ends
    rcases List.append_eq_append_iff.mp ends with ⟨middle, -, form⟩ | ⟨middle, -, form⟩
    · exact utf8EncodeChar_of_suffix form ▸ isLast
    · exact (utf8EncodeChar_of_suffix form).symm ▸ isLast

end BearerProxy.Text
