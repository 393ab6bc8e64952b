import BearerProxy.Http.Header
import BearerProxy.Proofs.Text.Utf8

/-!
Which texts are tokens and values, and what the operations on header fields do to the values of one name.
-/

namespace BearerProxy.Http

/-! Tokens. -/

theorem isTokenCharacter_of_capital {character : Char}
    (capital : 65 ≤ character.toNat ∧ character.toNat ≤ 90) : isTokenCharacter character := by
  have inRange : 'A' ≤ character ∧ character ≤ 'Z' := by
    rw [Char.le_def, Char.le_def, UInt32.le_iff_toNat_le, UInt32.le_iff_toNat_le]
    exact capital
  simp [isTokenCharacter, inRange]

theorem isTokenCharacter_toUpper {character : Char} (legal : isTokenCharacter character) :
    isTokenCharacter character.toUpper := by
  delta Char.toUpper
  split
  · rename_i small
    have bounds : 97 ≤ character.val.toNat ∧ character.val.toNat ≤ 122 :=
      ⟨UInt32.le_iff_toNat_le.mp small.1, UInt32.le_iff_toNat_le.mp small.2⟩
    have shift : ('A'.val - 'a'.val).toNat = 2 ^ 32 - 32 := by decide
    apply isTokenCharacter_of_capital
    change 65 ≤ (character.val + ('A'.val - 'a'.val)).toNat ∧
      (character.val + ('A'.val - 'a'.val)).toNat ≤ 90
    rw [UInt32.toNat_add, shift]
    omega
  · exact legal

theorem isToken_upperAscii {text : String} (legal : isToken text) :
    isToken (Text.upperAscii text) := by
  rw [isToken, Bool.and_eq_true, List.all_eq_true] at legal ⊢
  rcases legal with ⟨someText, legal⟩
  rw [Text.upperAscii, String.toList_ofList]
  constructor
  · simpa using someText
  · intro character member
    rcases List.mem_map.mp member with ⟨before, inText, isUpper⟩
    rw [← isUpper]
    exact isTokenCharacter_toUpper (legal before inText)

namespace HeaderValue

theorem ofText?_eq_some (text : String) (value : HeaderValue) (legal : ofText? text = some value) :
    value = ⟨text.toUTF8.toList⟩ := by
  rw [ofText?, ofBytes?] at legal
  split at legal
  · exact (Option.some.inj legal).symm
  · cases legal

theorem ofText?_of_legal {text : String}
    (legal : ∀ character ∈ text.toList, (String.utf8EncodeChar character).all isValueByte) :
    ofText? text = some ⟨text.toUTF8.toList⟩ := by
  rw [ofText?, ofBytes?, if_pos]
  rw [Text.toList_toUTF8, List.all_flatMap, List.all_eq_true]
  exact legal

def isValueCharacter (character : Char) : Bool :=
  (0x20 ≤ character.toNat && character.toNat != 0x7F) || character.toNat == 0x09

theorem isValueByte_iff (byte : UInt8) :
    isValueByte byte ↔ 0x20 ≤ byte.toNat ∧ byte.toNat ≠ 0x7F ∨ byte.toNat = 0x09 := by
  simp [isValueByte, UInt8.le_iff_toNat_le, ← UInt8.toNat_inj]

theorem all_isValueByte_iff (character : Char) :
    (String.utf8EncodeChar character).all isValueByte ↔ isValueCharacter character := by
  by_cases ascii : character.toNat < 0x80
  · have same : (UInt8.ofNat character.toNat).toNat = character.toNat := by
      rw [UInt8.toNat_ofNat']
      omega
    rw [Text.utf8EncodeChar_of_ascii ascii, List.all_cons, List.all_nil, Bool.and_true,
      isValueByte_iff, same]
    simp [isValueCharacter]
  · have legal : isValueCharacter character := by
      simp [isValueCharacter]
      omega
    refine iff_of_true (List.all_eq_true.mpr fun byte member => ?_) legal
    have high : ¬byte.toNat < 0x80 := fun low =>
      ascii (Text.toNat_of_mem_utf8EncodeChar member low ▸ low)
    rw [isValueByte_iff]
    omega

/-- A text is a value exactly if each of its characters may stand in one. -/
theorem isSome_ofText?_iff (text : String) :
    (ofText? text).isSome ↔ ∀ character ∈ text.toList, isValueCharacter character := by
  rw [ofText?, ofBytes?, Text.toList_toUTF8]
  simp [List.all_flatMap, ← all_isValueByte_iff]

theorem ofText?_eq_none_iff (text : String) :
    ofText? text = none ↔ ∃ character ∈ text.toList, ¬isValueCharacter character := by
  rw [← Option.not_isSome_iff_eq_none, isSome_ofText?_iff, Classical.not_forall]
  simp only [Classical.not_imp]

def isTextCharacter (character : Char) : Bool :=
  (0x20 ≤ character.toNat && character.toNat < 0x7F) || character.toNat == 0x09

theorem isTextByte_of_isTextCharacter {character : Char} (plain : isTextCharacter character) :
    isTextByte (UInt8.ofNat character.toNat) ∧
      Char.ofNat (UInt8.ofNat character.toNat).toNat = character ∧ character.toNat < 0x80 := by
  simp only [isTextCharacter, Bool.or_eq_true, Bool.and_eq_true, decide_eq_true_eq,
    beq_iff_eq] at plain
  have ascii : character.toNat < 0x80 := by omega
  have same : (UInt8.ofNat character.toNat).toNat = character.toNat := by
    rw [UInt8.toNat_ofNat']
    omega
  refine ⟨?_, ?_, ascii⟩
  · simp only [isTextByte, Bool.or_eq_true, Bool.and_eq_true, decide_eq_true_eq, beq_iff_eq,
      UInt8.le_iff_toNat_le, UInt8.lt_iff_toNat_lt, ← UInt8.toNat_inj, same]
    exact plain
  · rw [same, Char.ofNat_toNat]

theorem text?_toUTF8 {text : String} (plain : ∀ character ∈ text.toList, isTextCharacter character) :
    (HeaderValue.mk text.toUTF8.toList).text? = some text := by
  have bytes : text.toUTF8.toList =
      text.toList.map fun character => UInt8.ofNat character.toNat := by
    rw [Text.toList_toUTF8, List.map_eq_flatMap, List.flatMap_def, List.flatMap_def]
    congr 1
    apply List.map_congr_left
    intro character member
    exact Text.utf8EncodeChar_of_ascii (isTextByte_of_isTextCharacter (plain character member)).2.2
  have legal : (HeaderValue.mk text.toUTF8.toList).bytes.all isTextByte := by
    rw [bytes, List.all_map, List.all_eq_true]
    exact fun character member => (isTextByte_of_isTextCharacter (plain character member)).1
  have same : text.toUTF8.toList.map (fun byte => Char.ofNat byte.toNat) = text.toList := by
    rw [bytes, List.map_map]
    exact (List.map_congr_left fun character member =>
      (isTextByte_of_isTextCharacter (plain character member)).2.1).trans (List.map_id _)
  rw [text?, if_pos legal, same, String.ofList_toList]

end HeaderValue

namespace Headers

theorem values_append (headers : Headers) (name other : String) (value : HeaderValue) :
    (headers.append name value).values other =
      headers.values other ++
        if Text.lowerAscii name = Text.lowerAscii other then [value] else [] := by
  rw [append, values, List.filter_append, List.map_append]
  by_cases same : Text.lowerAscii name = Text.lowerAscii other
  · simp [values, same]
  · simp [values, same]

theorem values_remove (headers : Headers) (name other : String) :
    (headers.remove name).values other =
      if Text.lowerAscii name = Text.lowerAscii other then [] else headers.values other := by
  rw [remove, values, List.filter_filter]
  by_cases same : Text.lowerAscii name = Text.lowerAscii other
  · rw [if_pos same, List.map_eq_nil_iff, List.filter_eq_nil_iff]
    intro field _
    simp [same]
  · rw [if_neg same, values]
    congr 1
    apply List.filter_congr
    intro field _
    by_cases found : field.1 = Text.lowerAscii other
    · simp [found, Ne.symm same]
    · simp [found]

theorem values_insert (headers : Headers) (name other : String) (value : HeaderValue) :
    (headers.insert name value).values other =
      if Text.lowerAscii name = Text.lowerAscii other then [value] else headers.values other := by
  rw [insert, values_append, values_remove]
  by_cases same : Text.lowerAscii name = Text.lowerAscii other
  · simp [same]
  · simp [same]

theorem values_without (headers : Headers) (names : List String) (other : String) :
    (headers.without names).values other =
      if Text.lowerAscii other ∈ names then [] else headers.values other := by
  rw [without, values, List.filter_filter]
  by_cases listed : Text.lowerAscii other ∈ names
  · rw [if_pos listed, List.map_eq_nil_iff, List.filter_eq_nil_iff]
    intro field _
    by_cases found : field.1 = Text.lowerAscii other
    · simp [found, listed]
    · simp [found]
  · rw [if_neg listed, values]
    congr 1
    apply List.filter_congr
    intro field _
    by_cases found : field.1 = Text.lowerAscii other
    · simp [found, listed]
    · simp [found]

end Headers

end BearerProxy.Http
