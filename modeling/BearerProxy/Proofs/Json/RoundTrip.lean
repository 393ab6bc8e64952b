import BearerProxy.Json.Parser
import BearerProxy.Json.Value
import BearerProxy.Proofs.Text.Utf8

/-!
What is written is read back: strings with every escape, and objects whose member values are read
back.
-/

namespace BearerProxy.Json

/-! Strings. -/

theorem controlEscape_eq : ∀ code < 0x20,
    controlEscape (Char.ofNat code) =
      ['\\', 'u', '0', '0', Nat.digitChar (code / 16), Nat.digitChar (code % 16)] := by
  decide

theorem hexUnit?_digitChar : ∀ code < 0x20,
    hexUnit? '0' '0' (Nat.digitChar (code / 16)) (Nat.digitChar (code % 16)) = some code := by
  decide

theorem readStringRest?_controlEscape (read rest : List Char) (character : Char)
    (isControl : character.toNat < 0x20) :
    readStringRest? read (controlEscape character ++ rest) =
      readStringRest? (character :: read) rest := by
  have written := controlEscape_eq character.toNat isControl
  have unit := hexUnit?_digitChar character.toNat isControl
  rw [Char.ofNat_toNat] at written
  have notLow : isLowSurrogate character.toNat = false := by
    simp [isLowSurrogate]; omega
  have notHigh : isHighSurrogate character.toNat = false := by
    simp [isHighSurrogate]; omega
  rw [written]
  simp only [List.cons_append, List.nil_append]
  rw [readStringRest?, unit]
  simp [notLow, notHigh, Char.ofNat_toNat]

theorem readStringRest?_plain (read rest : List Char) (character : Char)
    (notQuote : character ≠ '"') (notBackslash : character ≠ '\\')
    (notControl : ¬character.toNat < 0x20) :
    readStringRest? read (character :: rest) = readStringRest? (character :: read) rest := by
  rw [readStringRest?.eq_def]
  split
  case h_5 =>
    rename_i equal
    cases equal
    simp [notBackslash, notControl]
  all_goals simp_all

theorem readStringRest?_encodeCharacter (read rest : List Char) (character : Char) :
    readStringRest? read (encodeCharacter character ++ rest) =
      readStringRest? (character :: read) rest := by
  unfold encodeCharacter
  split
  case h_8 =>
    rename_i notQuote notBackslash _ _ _ _ _
    split
    case isTrue isControl => exact readStringRest?_controlEscape read rest character isControl
    case isFalse notControl =>
      exact readStringRest?_plain read rest character notQuote notBackslash notControl
  all_goals simp [readStringRest?, plainEscape?]

theorem readStringRest?_flatMap (read characters rest : List Char) :
    readStringRest? read (characters.flatMap encodeCharacter ++ '"' :: rest) =
      some (String.ofList (read.reverse ++ characters), rest) := by
  induction characters generalizing read with
  | nil => simp [readStringRest?]
  | cons head tail induction =>
      rw [List.flatMap_cons, List.append_assoc, readStringRest?_encodeCharacter, induction]
      simp

theorem encodeString_append (text : String) (rest : List Char) :
    encodeString text ++ rest = '"' :: (text.toList.flatMap encodeCharacter ++ '"' :: rest) := by
  simp [encodeString]

theorem readStringRest?_encodeString (text : String) (rest : List Char) :
    readStringRest? [] (text.toList.flatMap encodeCharacter ++ '"' :: rest) =
      some (text, rest) := by
  rw [readStringRest?_flatMap]
  simp

/-! Objects. -/

/-- Texts that may stand behind a written value: they do not go on with it. -/
def EndsValue (rest : List Char) : Prop :=
  ∀ character ∈ rest.head?, character = ',' ∨ character = ']' ∨ character = '\x7d'

def ReadsBack (read : Reader Json) (value : Json) : Prop :=
  ∀ rest, EndsValue rest → read (skipSpace (encode value ++ rest)) = some (value, rest)

theorem skipSpace_cons (character : Char) (rest : List Char)
    (notSpace : isSpace character = false) :
    skipSpace (character :: rest) = character :: rest := by
  simp [skipSpace, notSpace]

theorem endsValue_encodeMembers (members : List (String × Json)) (rest : List Char) :
    EndsValue (encodeMembers members ++ rest) := by
  cases members with
  | nil => simp [encodeMembers, EndsValue]
  | cons member members => simp [encodeMembers, EndsValue]

theorem readMember?_encode (read : Reader Json) (key : String) (value : Json)
    (readsBack : ReadsBack read value) (rest : List Char) (ends : EndsValue rest) :
    readMember? read (skipSpace (encodeString key ++ ':' :: (encode value ++ rest))) =
      some ((key, value), rest) := by
  rw [encodeString_append, skipSpace_cons _ _ (by decide), readMember?,
    readStringRest?_encodeString]
  simp [skipSpace_cons ':' _ (by decide), readsBack rest ends]

theorem readMembers?_encode (read : Reader Json) (members : List (String × Json)) :
    ∀ (key : String) (value : Json) (collected : List (String × Json)) (limit : Nat)
      (rest : List Char),
    ReadsBack read value → (∀ member ∈ members, ReadsBack read member.2) →
    members.length < limit →
    readMembers? read collected limit
        (encodeString key ++ ':' :: (encode value ++ (encodeMembers members ++ rest))) =
      some (collected.reverse ++ (key, value) :: members, rest) := by
  induction members with
  | nil =>
      intro key value collected limit rest readsBack _ bound
      cases limit with
      | zero => cases bound
      | succ limit =>
          have ends := endsValue_encodeMembers [] rest
          rw [readMembers?, readMember?_encode read key value readsBack _ ends]
          simp [encodeMembers, skipSpace_cons '\x7d' _ (by decide)]
  | cons member members induction =>
      intro key value collected limit rest readsBack othersReadBack bound
      cases limit with
      | zero => cases bound
      | succ limit =>
          have ends := endsValue_encodeMembers (member :: members) rest
          have others := induction member.1 member.2 ((key, value) :: collected) limit rest
            (othersReadBack member List.mem_cons_self)
            (fun other isMember => othersReadBack other (List.mem_cons_of_mem _ isMember))
            (by simpa using bound)
          rw [readMembers?, readMember?_encode read key value readsBack _ ends]
          simp only [encodeMembers, List.cons_append, List.append_assoc,
            skipSpace_cons ',' _ (by decide)]
          rw [others]
          simp

theorem length_encodeMembers (members : List (String × Json)) :
    members.length < (encodeMembers members).length := by
  induction members with
  | nil => simp [encodeMembers]
  | cons member members induction =>
      simp only [encodeMembers, List.length_cons, List.length_append]
      omega

theorem encode_object_append (key : String) (value : Json) (members : List (String × Json))
    (rest : List Char) :
    encode (.object ((key, value) :: members)) ++ rest =
      '\x7b' :: (encodeString key ++ ':' :: (encode value ++ (encodeMembers members ++ rest))) := by
  simp [encode]

theorem length_lt_length_encode (member : String × Json) (members : List (String × Json)) :
    members.length < (encode (.object (member :: members))).length := by
  have bound := length_encodeMembers members
  simp only [encode, List.length_cons, List.length_append]
  omega

/-- An object is read back as the object of its members. -/
theorem readValue?_encode_object (limit depth : Nat) (member : String × Json)
    (members : List (String × Json)) (bound : members.length < limit)
    (readsBack : ∀ other ∈ member :: members, ReadsBack (readValue? limit depth) other.2)
    (rest : List Char) :
    readValue? limit (depth + 1) (encode (.object (member :: members)) ++ rest) =
      some (ofMembers (member :: members), rest) := by
  have read := readMembers?_encode (readValue? limit depth) members member.1 member.2 [] limit
    rest (readsBack member List.mem_cons_self)
    (fun other isMember => readsBack other (List.mem_cons_of_mem _ isMember)) bound
  rw [encode_object_append]
  rw [encodeString_append] at read ⊢
  rw [readValue?, skipSpace_cons '"' _ (by decide)]
  simp [read]

theorem parse?_renderBytes (value : Json) :
    parse? value.renderBytes = parseCharacters? value.encode := by
  rw [parse?, renderBytes, render, Text.fromUTF8?_toUTF8, Option.bind_some, String.toList_ofList]

theorem parseCharacters?_encode_object (member : String × Json)
    (members : List (String × Json))
    (readsBack : ∀ other ∈ member :: members, ∀ limit, 0 < limit →
      ReadsBack (readValue? limit (nestingLimit - 1)) other.2) :
    parseCharacters? (encode (.object (member :: members))) =
      some (ofMembers (member :: members)) := by
  have written := encode_object_append member.1 member.2 members []
  have long := length_lt_length_encode member members
  have read := readValue?_encode_object (encode (.object (member :: members))).length
    (nestingLimit - 1) member members long
    (fun other isMember => readsBack other isMember _ (Nat.zero_lt_of_lt long)) []
  rw [List.append_nil] at written read
  rw [parseCharacters?, written, skipSpace_cons _ _ (by decide), ← written]
  simp only [nestingLimit] at read ⊢
  rw [read]
  simp [skipSpace]

theorem parseMembers?_encode_object (member : String × Json)
    (members : List (String × Json))
    (readsBack : ∀ other ∈ member :: members, ∀ limit,
      ReadsBack (readValue? limit (nestingLimit - 1)) other.2) :
    parseMembers? (encode (.object (member :: members))) = some (member :: members) := by
  have written := encode_object_append member.1 member.2 members []
  have read := readMembers?_encode
    (readValue? (encode (.object (member :: members))).length (nestingLimit - 1)) members
    member.1 member.2 [] (encode (.object (member :: members))).length []
    (readsBack member List.mem_cons_self _)
    (fun other isMember => readsBack other (List.mem_cons_of_mem _ isMember) _)
    (length_lt_length_encode member members)
  have start : skipSpace (encode (.object (member :: members))) =
      '\x7b' :: (encodeString member.1 ++
        ':' :: (encode member.2 ++ (encodeMembers members ++ []))) := by
    rw [← skipSpace_cons '\x7b' _ (by decide), ← written, List.append_nil]
  rw [encodeString_append, List.append_nil] at read start
  have finish : skipSpace [] = [] := rfl
  rw [parseMembers?, start]
  simp [skipSpace_cons '"' _ (by decide), read, finish]

theorem readsBack_string (limit depth : Nat) (text : String) :
    ReadsBack (readValue? limit depth) (.string text) := by
  intro rest _
  rw [encode, encodeString_append, skipSpace_cons _ _ (by decide)]
  cases depth with
  | zero => simp [readValue?, readScalar?, readStringRest?_encodeString]
  | succ depth => simp [readValue?, readScalar?, readStringRest?_encodeString]

end BearerProxy.Json
