import BearerProxy.Proofs.Json.Integer
import BearerProxy.Proofs.Keyed.Order

/-!
Values of any depth. What is read from a text is well formed: nested no deeper than the reader goes, with the
members of every object in order. A well-formed value without decimals, once written, is read back.
-/

namespace BearerProxy.Json

/-- Values that are nested at most `depth` deep, with the members of objects in order and each key once. -/
inductive WellFormed : (depth : Nat) → Json → Prop
  | null : WellFormed depth .null
  | bool : WellFormed depth (.bool value)
  | integer (fits : FitsWord value) : WellFormed depth (.integer value)
  | decimal : WellFormed depth (.decimal value)
  | string : WellFormed depth (.string value)
  | array (items : ∀ item ∈ values, WellFormed depth item) : WellFormed (depth + 1) (.array values)
  | object (sorted : Keyed.Sorted values) (members : ∀ member ∈ values, WellFormed depth member.2) :
      WellFormed (depth + 1) (.object values)

/-- Values in which every number, at any depth, is an integer; `NumberText.value?_eq_integer_iff` tells how such a
number is written. -/
inductive Integral : Json → Prop
  | null : Integral .null
  | bool : Integral (.bool value)
  | integer : Integral (.integer value)
  | string : Integral (.string value)
  | array (items : ∀ item ∈ values, Integral item) : Integral (.array values)
  | object (members : ∀ member ∈ values, Integral member.2) : Integral (.object values)

/-! What is read is well formed. -/

theorem wellFormed_of_value? (depth : Nat) {number : NumberText} {value : Json}
    (isValue : number.value? = some value) : WellFormed depth value := by
  rcases NumberText.value?_cases isValue with ⟨word, rfl⟩ | ⟨decimal, rfl⟩
  · exact .integer word.fits
  · exact .decimal

theorem wellFormed_of_readScalar? (depth : Nat) {characters rest : List Char} {value : Json}
    (read : readScalar? characters = some (value, rest)) : WellFormed depth value := by
  rw [readScalar?.eq_def] at read
  split at read
  · cases read
    exact .null
  · cases read
    exact .bool
  · cases read
    exact .bool
  · rcases Option.map_eq_some_iff.mp read with ⟨text, _, equal⟩
    cases equal
    exact .string
  · split at read
    · cases read
    · rcases Option.map_eq_some_iff.mp read with ⟨text, isValue, equal⟩
      cases equal
      exact wellFormed_of_value? depth isValue

theorem forall_mem_of_readItems? {holds : Json → Prop} {readItem : Reader Json}
    (one : ∀ characters item rest, readItem characters = some (item, rest) → holds item)
    (limit : Nat) {read items : List Json} {characters rest : List Char}
    (early : ∀ item ∈ read, holds item)
    (result : readItems? readItem read limit characters = some (items, rest)) :
    ∀ item ∈ items, holds item := by
  induction limit generalizing read characters with
  | zero => cases result
  | succ limit induction =>
      rw [readItems?] at result
      split at result
      · cases result
      · rename_i item after isItem
        have extended : ∀ other ∈ item :: read, holds other := by
          intro other isOther
          rcases List.mem_cons.mp isOther with isLast | isEarly
          · rw [isLast]
            exact one _ _ _ isItem
          · exact early other isEarly
        split at result
        · exact induction extended result
        · cases result
          intro other isOther
          exact extended other (List.mem_reverse.mp isOther)
        · cases result

theorem holds_of_readMember? {holds : Json → Prop} {readItem : Reader Json}
    (one : ∀ characters item rest, readItem characters = some (item, rest) → holds item)
    {member : String × Json} {characters rest : List Char}
    (result : readMember? readItem characters = some (member, rest)) : holds member.2 := by
  rw [readMember?.eq_def] at result
  split at result
  · split at result
    · cases result
    · split at result
      · rcases Option.map_eq_some_iff.mp result with ⟨item, isItem, equal⟩
        cases equal
        exact one _ _ _ isItem
      · cases result
  · cases result

theorem forall_mem_of_readMembers? {holds : Json → Prop} {readItem : Reader Json}
    (one : ∀ characters item rest, readItem characters = some (item, rest) → holds item)
    (limit : Nat) {read members : List (String × Json)} {characters rest : List Char}
    (early : ∀ member ∈ read, holds member.2)
    (result : readMembers? readItem read limit characters = some (members, rest)) :
    ∀ member ∈ members, holds member.2 := by
  induction limit generalizing read characters with
  | zero => cases result
  | succ limit induction =>
      rw [readMembers?] at result
      split at result
      · cases result
      · rename_i member after isMember
        have extended : ∀ other ∈ member :: read, holds other.2 := by
          intro other isOther
          rcases List.mem_cons.mp isOther with isLast | isEarly
          · rw [isLast]
            exact holds_of_readMember? one isMember
          · exact early other isEarly
        split at result
        · exact induction extended result
        · cases result
          intro other isOther
          exact extended other (List.mem_reverse.mp isOther)
        · cases result

theorem wellFormed_ofMembers {depth : Nat} {members : List (String × Json)}
    (wellFormed : ∀ member ∈ members, WellFormed depth member.2) :
    WellFormed (depth + 1) (ofMembers members) :=
  .object (Keyed.sorted_ofList members) fun member isMember =>
    wellFormed member (Keyed.mem_of_mem_ofList isMember)

theorem wellFormed_of_readValue? (limit depth : Nat) {characters rest : List Char} {value : Json}
    (read : readValue? limit depth characters = some (value, rest)) : WellFormed depth value := by
  induction depth generalizing characters rest value with
  | zero => exact wellFormed_of_readScalar? 0 read
  | succ depth induction =>
      have one : ∀ characters item rest,
          readValue? limit depth characters = some (item, rest) → WellFormed depth item :=
        fun _ _ _ => induction
      rw [readValue?.eq_def] at read
      dsimp only at read
      split at read
      · split at read
        · cases read
          exact .array (List.forall_mem_nil _)
        · rcases Option.map_eq_some_iff.mp read with ⟨⟨items, after⟩, result, equal⟩
          cases equal
          exact .array (forall_mem_of_readItems? one limit (List.forall_mem_nil _) result)
      · split at read
        · cases read
          exact .object List.Pairwise.nil (List.forall_mem_nil _)
        · rcases Option.map_eq_some_iff.mp read with ⟨⟨members, after⟩, result, equal⟩
          cases equal
          exact wellFormed_ofMembers (forall_mem_of_readMembers? one limit (List.forall_mem_nil _) result)
      · exact wellFormed_of_readScalar? (depth + 1) read

theorem wellFormed_of_parse? {bytes : ByteArray} {value : Json} (parsed : parse? bytes = some value) :
    WellFormed nestingLimit value := by
  rcases Option.bind_eq_some_iff.mp parsed with ⟨text, _, read⟩
  rw [parseCharacters?] at read
  split at read
  · cases read
  · rename_i other rest isRead
    split at read
    · cases read
      exact wellFormed_of_readValue? _ _ isRead
    · cases read

/-! Arrays, written and read back. -/

theorem skipSpace_skipSpace (characters : List Char) :
    skipSpace (skipSpace characters) = skipSpace characters := by
  induction characters with
  | nil => rfl
  | cons first rest induction =>
      cases space : isSpace first with
      | true =>
          have skipped : skipSpace (first :: rest) = skipSpace rest := by simp [skipSpace, space]
          rw [skipped, induction]
      | false => rw [skipSpace_cons first rest space, skipSpace_cons first rest space]

theorem endsValue_encodeItems (items : List Json) (rest : List Char) :
    EndsValue (encodeItems items ++ rest) := by
  cases items with
  | nil => simp [encodeItems, EndsValue]
  | cons item items => simp [encodeItems, EndsValue]

theorem readItems?_encode (read : Reader Json) (items : List Json) :
    ∀ (item : Json) (collected : List Json) (limit : Nat) (rest : List Char),
    ReadsBack read item → (∀ other ∈ items, ReadsBack read other) → items.length < limit →
    readItems? read collected limit (encode item ++ (encodeItems items ++ rest)) =
      some (collected.reverse ++ item :: items, rest) := by
  induction items with
  | nil =>
      intro item collected limit rest readsBack _ bound
      cases limit with
      | zero => cases bound
      | succ limit =>
          rw [readItems?, readsBack _ (endsValue_encodeItems [] rest)]
          simp [encodeItems, skipSpace_cons ']' _ (by decide)]
  | cons second items induction =>
      intro item collected limit rest readsBack othersReadBack bound
      cases limit with
      | zero => cases bound
      | succ limit =>
          have others := induction second (item :: collected) limit rest
            (othersReadBack second List.mem_cons_self)
            (fun other isItem => othersReadBack other (List.mem_cons_of_mem _ isItem))
            (Nat.lt_of_succ_lt_succ bound)
          rw [readItems?, readsBack _ (endsValue_encodeItems (second :: items) rest)]
          simp only [encodeItems, List.cons_append, List.append_assoc,
            skipSpace_cons ',' _ (by decide)]
          rw [others]
          simp

theorem readItems?_skipSpace (read : Reader Json) (collected : List Json) (limit : Nat)
    (characters : List Char) :
    readItems? read collected limit (skipSpace characters) =
      readItems? read collected limit characters := by
  cases limit with
  | zero => rfl
  | succ limit => rw [readItems?, readItems?, skipSpace_skipSpace]

theorem readValue?_bracket (limit depth : Nat) (rest : List Char) :
    readValue? limit depth (']' :: rest) = none := by
  cases depth <;> rfl

theorem encode_array_append (item : Json) (items : List Json) (rest : List Char) :
    encode (.array (item :: items)) ++ rest = '[' :: (encode item ++ (encodeItems items ++ rest)) := by
  simp [encode]

theorem readValue?_encode_array (limit depth : Nat) (item : Json) (items : List Json)
    (bound : items.length < limit)
    (readsBack : ∀ other ∈ item :: items, ReadsBack (readValue? limit depth) other)
    (rest : List Char) :
    readValue? limit (depth + 1) (encode (.array (item :: items)) ++ rest) =
      some (.array (item :: items), rest) := by
  have first := readsBack item List.mem_cons_self
  have read := readItems?_encode (readValue? limit depth) items item [] limit rest first
    (fun other isItem => readsBack other (List.mem_cons_of_mem _ isItem)) bound
  have nonempty : ∀ after, skipSpace (encode item ++ (encodeItems items ++ rest)) = ']' :: after → False := by
    intro after starts
    have isFirst := first _ (endsValue_encodeItems items rest)
    rw [starts, readValue?_bracket] at isFirst
    cases isFirst
  rw [encode_array_append, readValue?.eq_def]
  simp only
  rw [readItems?_skipSpace, read]
  rfl

/-! A written value is at least as long as each of its parts. -/

theorem length_encodeItems (items : List Json) : items.length < (encodeItems items).length := by
  induction items with
  | nil => simp [encodeItems]
  | cons item items induction =>
      simp only [encodeItems, List.length_cons, List.length_append]
      omega

theorem length_encode_le_of_mem_items {item : Json} {items : List Json} (isItem : item ∈ items) :
    (encode item).length ≤ (encodeItems items).length := by
  induction items with
  | nil => cases isItem
  | cons first items induction =>
      simp only [encodeItems, List.length_cons, List.length_append]
      rcases List.mem_cons.mp isItem with rfl | later
      · omega
      · have shorter := induction later
        omega

theorem length_encode_le_of_mem_members {member : String × Json} {members : List (String × Json)}
    (isMember : member ∈ members) : (encode member.2).length ≤ (encodeMembers members).length := by
  induction members with
  | nil => cases isMember
  | cons first members induction =>
      simp only [encodeMembers, List.length_cons, List.length_append]
      rcases List.mem_cons.mp isMember with rfl | later
      · omega
      · have shorter := induction later
        omega

theorem length_le_length_encode_array (items : List Json) :
    items.length ≤ (encode (.array items)).length := by
  cases items with
  | nil => decide
  | cons item items =>
      have bound := length_encodeItems items
      simp only [encode, List.length_cons, List.length_append]
      omega

theorem length_le_length_encode_object (members : List (String × Json)) :
    members.length ≤ (encode (.object members)).length := by
  cases members with
  | nil => decide
  | cons member members => exact length_lt_length_encode member members

theorem length_encode_item_le {item : Json} {items : List Json} (isItem : item ∈ items) :
    (encode item).length ≤ (encode (.array items)).length := by
  have bound := length_encode_le_of_mem_items isItem
  cases items with
  | nil => cases isItem
  | cons first items => simpa [encode, encodeItems] using bound

theorem length_encode_member_le {member : String × Json} {members : List (String × Json)}
    (isMember : member ∈ members) : (encode member.2).length ≤ (encode (.object members)).length := by
  have bound := length_encode_le_of_mem_members isMember
  cases members with
  | nil => cases isMember
  | cons first members => simpa [encode, encodeMembers] using bound

/-! What is written is read back. -/

theorem readsBack_null (limit depth : Nat) : ReadsBack (readValue? limit depth) .null := by
  intro rest _
  cases depth <;> rfl

theorem readsBack_bool (limit depth : Nat) (value : Bool) :
    ReadsBack (readValue? limit depth) (.bool value) := by
  intro rest _
  cases value <;> cases depth <;> rfl

theorem readsBack_array {limit depth : Nat} {items : List Json} (bound : items.length ≤ limit)
    (readsBack : ∀ item ∈ items, ReadsBack (readValue? limit depth) item) :
    ReadsBack (readValue? limit (depth + 1)) (.array items) := by
  intro rest _
  cases items with
  | nil => rfl
  | cons item items =>
      rw [encode_array_append, skipSpace_cons _ _ (by decide), ← encode_array_append,
        readValue?_encode_array limit depth item items bound readsBack]

theorem readsBack_object {limit depth : Nat} {members : List (String × Json)}
    (bound : members.length ≤ limit) (sorted : Keyed.Sorted members)
    (readsBack : ∀ member ∈ members, ReadsBack (readValue? limit depth) member.2) :
    ReadsBack (readValue? limit (depth + 1)) (.object members) := by
  intro rest _
  cases members with
  | nil => rfl
  | cons member members =>
      rw [encode_object_append, skipSpace_cons _ _ (by decide), ← encode_object_append,
        readValue?_encode_object limit depth member members bound readsBack,
        ofMembers, sorted.ofList_eq]

/-- A well-formed value without decimals is read back by every reader that goes deep enough and may read as
many items as the written value has characters. -/
theorem WellFormed.readsBack {depth : Nat} {value : Json} (wellFormed : WellFormed depth value)
    (integral : Integral value) (limit : Nat) (bound : (encode value).length ≤ limit) :
    ReadsBack (readValue? limit depth) value := by
  induction wellFormed with
  | null => exact readsBack_null limit _
  | bool => exact readsBack_bool limit _ _
  | integer fits => exact readsBack_integer limit _ fits
  | decimal => cases integral
  | string => exact readsBack_string limit _ _
  | @array items depth _ induction =>
      rcases integral with _ | _ | _ | _ | integrals
      have few := length_le_length_encode_array items
      refine readsBack_array (Nat.le_trans few bound) fun item isItem => ?_
      have short := length_encode_item_le isItem
      exact induction item isItem (integrals item isItem) (Nat.le_trans short bound)
  | @object members depth sorted _ induction =>
      rcases integral with _ | _ | _ | _ | _ | integrals
      have few := length_le_length_encode_object members
      refine readsBack_object (Nat.le_trans few bound) sorted fun member isMember => ?_
      have short := length_encode_member_le isMember
      exact induction member isMember (integrals member isMember) (Nat.le_trans short bound)

theorem WellFormed.parseCharacters?_encode {value : Json} (wellFormed : WellFormed nestingLimit value)
    (integral : Integral value) : parseCharacters? (encode value) = some value := by
  have read := wellFormed.readsBack integral _ (Nat.le_refl _) [] nofun
  rw [List.append_nil] at read
  rw [parseCharacters?, read]
  rfl

theorem WellFormed.parse?_renderBytes {value : Json} (wellFormed : WellFormed nestingLimit value)
    (integral : Integral value) : parse? value.renderBytes = some value := by
  rw [Json.parse?_renderBytes]
  exact wellFormed.parseCharacters?_encode integral

end BearerProxy.Json
