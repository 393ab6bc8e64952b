import BearerProxy.Forward.Rule
import BearerProxy.Proofs.Json.Values

/-!
The body that a rule rewrites. It stays as it is, byte for byte, unless it is a JSON object with a member that
the rule lists; then it stands for the same object without those members. Filtering again changes nothing, and
filtering by one list after another is filtering by both at once.
-/

namespace BearerProxy

def unlisted (fields : List String) (members : List (String × Json)) : List (String × Json) :=
  members.filter fun member => member.1 ∉ fields

def Lists (fields : List String) (members : List (String × Json)) : Prop :=
  ∃ member ∈ members, member.1 ∈ fields

inductive Untouched (fields : List String) (body : ByteArray) : Prop
  | empty (isEmpty : body.isEmpty)
  | notJson (unread : Json.parse? body = none)
  | notObject (value : Json) (parsed : Json.parse? body = some value)
      (other : ∀ members, value ≠ .object members)
  | unlisted (members : List (String × Json)) (parsed : Json.parse? body = some (.object members))
      (listsNone : ¬Lists fields members)

variable {fields : List String} {members : List (String × Json)} {body : ByteArray}

/-! Names one after another. -/

theorem unlisted_append (fields others : List String) (members : List (String × Json)) :
    unlisted (fields ++ others) members = unlisted others (unlisted fields members) := by
  rw [unlisted, unlisted, unlisted, List.filter_filter]
  congr 1
  funext member
  simp [Bool.and_comm]

theorem lists_append_iff (fields others : List String) (members : List (String × Json)) :
    Lists (fields ++ others) members ↔ Lists fields members ∨ Lists others (unlisted fields members) := by
  constructor
  · rintro ⟨member, isMember, isListed⟩
    by_cases early : member.1 ∈ fields
    · exact .inl ⟨member, isMember, early⟩
    · have late := (List.mem_append.mp isListed).resolve_left early
      exact .inr ⟨member, List.mem_filter.mpr ⟨isMember, by simpa using early⟩, late⟩
  · rintro (⟨member, isMember, early⟩ | ⟨member, isKept, late⟩)
    · exact ⟨member, isMember, List.mem_append_left others early⟩
    · exact ⟨member, (List.mem_filter.mp isKept).1, List.mem_append_right fields late⟩

theorem not_lists_unlisted (fields : List String) (members : List (String × Json)) :
    ¬Lists fields (unlisted fields members) := by
  rintro ⟨member, isKept, isListed⟩
  have isUnlisted := (List.mem_filter.mp isKept).2
  exact of_decide_eq_true isUnlisted isListed

theorem unlisted_of_not_lists (listsNone : ¬Lists fields members) :
    unlisted fields members = members := by
  apply List.filter_eq_self.mpr
  intro member isMember
  exact decide_eq_true fun isListed => listsNone ⟨member, isMember, isListed⟩

/-! Taking members out. -/

theorem unlisted_singleton (field : String) (members : List (String × Json)) :
    unlisted [field] members = Keyed.erase field members := by
  simp [unlisted, Keyed.erase]

theorem lists_singleton_iff (field : String) (members : List (String × Json)) :
    Lists [field] members ↔ (Keyed.lookup? field members).isSome := by
  rw [Keyed.isSome_lookup?_iff]
  simp [Lists]

theorem withoutMembers_spec (fields : List String) (members : List (String × Json)) :
    (withoutMembers fields members).2 = unlisted fields members ∧
      ((withoutMembers fields members).1 = [] ↔ ¬Lists fields members) := by
  induction fields generalizing members with
  | nil =>
      have listsNone : ¬Lists [] members := by simp [Lists]
      exact ⟨(unlisted_of_not_lists listsNone).symm, iff_of_true rfl listsNone⟩
  | cons field fields induction =>
      rcases induction (unlisted [field] members) with ⟨kept, removed⟩
      rw [← List.singleton_append, unlisted_append, lists_append_iff, not_or, ← removed, ← kept,
        lists_singleton_iff, unlisted_singleton, List.singleton_append, withoutMembers]
      cases (Keyed.lookup? field members).isSome with
      | true => exact ⟨rfl, by simp⟩
      | false => exact ⟨rfl, by simp⟩

/-! The body. -/

theorem parse?_of_isEmpty (isEmpty : body.isEmpty) : Json.parse? body = none := by
  have noBytes : body = String.toUTF8 "" := ByteArray.size_eq_zero_iff.mp (beq_iff_eq.mp isEmpty)
  rw [noBytes, Json.parse?, Text.fromUTF8?_toUTF8]
  decide

theorem untouched_or_lists (fields : List String) (body : ByteArray) :
    Untouched fields body ∨
      ∃ members, Json.parse? body = some (.object members) ∧ Lists fields members := by
  cases parsed : Json.parse? body with
  | none => exact .inl (.notJson parsed)
  | some value =>
      cases value with
      | object members =>
          by_cases lists : Lists fields members
          · exact .inr ⟨members, rfl, lists⟩
          · exact .inl (.unlisted members parsed lists)
      | _ => exact .inl (.notObject _ parsed nofun)

theorem untouched_iff (fields : List String) (body : ByteArray) :
    Untouched fields body ↔
      ∀ members, Json.parse? body = some (.object members) → ¬Lists fields members := by
  constructor
  · intro untouched members parsed
    cases untouched with
    | empty isEmpty =>
        rw [parse?_of_isEmpty isEmpty] at parsed
        cases parsed
    | notJson unread =>
        rw [unread] at parsed
        cases parsed
    | notObject value isValue other =>
        rw [isValue] at parsed
        exact absurd (Option.some.inj parsed) (other members)
    | unlisted others isObject listsNone =>
        rw [isObject] at parsed
        cases parsed
        exact listsNone
  · intro listsNone
    rcases untouched_or_lists fields body with untouched | ⟨members, parsed, lists⟩
    · exact untouched
    · exact absurd lists (listsNone members parsed)

theorem filterBody_of_object (parsed : Json.parse? body = some (.object members))
    (nonempty : ¬(body.isEmpty || fields.isEmpty)) :
    (filterBody fields body).value =
      if (withoutMembers fields members).1.isEmpty then body
      else (Json.object (unlisted fields members)).renderBytes := by
  rw [filterBody, if_neg nonempty, parsed, ← (withoutMembers_spec fields members).1]
  dsimp only
  rw [Reported.value_bind]
  split <;> rfl

theorem filterBody_of_untouched (untouched : Untouched fields body) :
    (filterBody fields body).value = body := by
  by_cases skipped : body.isEmpty || fields.isEmpty
  · rw [filterBody, if_pos skipped]
    rfl
  · cases untouched with
    | empty isEmpty => exact absurd (Bool.or_eq_true_iff.mpr (.inl isEmpty)) skipped
    | notJson unread =>
        rw [filterBody, if_neg skipped, unread]
        rfl
    | notObject value parsed other =>
        rw [filterBody, if_neg skipped, parsed]
        cases value with
        | object members => exact absurd rfl (other members)
        | _ => rfl
    | unlisted members parsed listsNone =>
        have noneRemoved := (withoutMembers_spec fields members).2.mpr listsNone
        rw [filterBody_of_object parsed skipped, noneRemoved]
        rfl

theorem filterBody_of_lists (parsed : Json.parse? body = some (.object members))
    (lists : Lists fields members) :
    (filterBody fields body).value = (Json.object (unlisted fields members)).renderBytes := by
  have nonempty : ¬(body.isEmpty || fields.isEmpty) := by
    rcases lists with ⟨member, _, isListed⟩
    rw [Bool.or_eq_true_iff]
    rintro (isEmpty | isEmpty)
    · rw [parse?_of_isEmpty isEmpty] at parsed
      cases parsed
    · rw [List.isEmpty_iff.mp isEmpty] at isListed
      cases isListed
  have someRemoved : ¬(withoutMembers fields members).1.isEmpty := by
    rw [List.isEmpty_iff, (withoutMembers_spec fields members).2]
    exact not_not_intro lists
  rw [filterBody_of_object parsed nonempty, if_neg someRemoved]

/-! Filtering again. -/

theorem wellFormed_unlisted {depth : Nat} (wellFormed : Json.WellFormed depth (.object members))
    (fields : List String) : Json.WellFormed depth (.object (unlisted fields members)) := by
  cases wellFormed with
  | object sorted wellFormed =>
      exact .object (sorted.filter _) fun member isKept =>
        wellFormed member (List.mem_filter.mp isKept).1

theorem integral_unlisted (integral : Json.Integral (.object members)) (fields : List String) :
    Json.Integral (.object (unlisted fields members)) := by
  cases integral with
  | object integral =>
      exact .object fun member isKept => integral member (List.mem_filter.mp isKept).1

/-- A filtered body stands for the object without the listed members. -/
theorem parse?_filterBody (parsed : Json.parse? body = some (.object members))
    (lists : Lists fields members) (integral : Json.Integral (.object members)) :
    Json.parse? (filterBody fields body).value = some (.object (unlisted fields members)) := by
  have wellFormed := Json.wellFormed_of_parse? parsed
  rw [filterBody_of_lists parsed lists]
  exact (wellFormed_unlisted wellFormed fields).parse?_renderBytes (integral_unlisted integral fields)

def IntegralBody (body : ByteArray) : Prop :=
  ∀ value, Json.parse? body = some value → value.Integral

theorem filterBody_append_of_untouched (untouched : Untouched fields body) (others : List String) :
    (filterBody others body).value = (filterBody (fields ++ others) body).value := by
  have listsNone := (untouched_iff fields body).mp untouched
  rcases untouched_or_lists others body with othersUntouched | ⟨members, parsed, lists⟩
  · have allUntouched : Untouched (fields ++ others) body := by
      apply (untouched_iff _ _).mpr
      intro members parsed
      have othersNone := (untouched_iff others body).mp othersUntouched members parsed
      rw [lists_append_iff, unlisted_of_not_lists (listsNone members parsed)]
      exact not_or.mpr ⟨listsNone members parsed, othersNone⟩
    rw [filterBody_of_untouched othersUntouched, filterBody_of_untouched allUntouched]
  · have kept := unlisted_of_not_lists (listsNone members parsed)
    have allLists : Lists (fields ++ others) members := by
      rw [lists_append_iff, kept]
      exact .inr lists
    rw [filterBody_of_lists parsed lists, filterBody_of_lists parsed allLists, unlisted_append, kept]

theorem filterBody_append_of_lists (parsed : Json.parse? body = some (.object members))
    (lists : Lists fields members) (integral : Json.Integral (.object members))
    (others : List String) :
    (filterBody others (filterBody fields body).value).value =
      (filterBody (fields ++ others) body).value := by
  have allLists := (lists_append_iff fields others members).mpr (.inl lists)
  have reparsed := parse?_filterBody parsed lists integral
  rw [filterBody_of_lists parsed allLists, unlisted_append]
  by_cases listsMore : Lists others (unlisted fields members)
  · exact filterBody_of_lists reparsed listsMore
  · rw [filterBody_of_untouched (.unlisted _ reparsed listsMore), filterBody_of_lists parsed lists,
      unlisted_of_not_lists listsMore]

/-- What it means that filtering takes the listed members out of a body and does nothing else. Where the body is
written anew, this is asked of bodies whose numbers are integers. -/
structure RemovesListed (fields : List String) (body : ByteArray) : Prop where
  untouched : Untouched fields body → (filterBody fields body).value = body
  removed : ¬Untouched fields body → IntegralBody body →
    ∃ members, Json.parse? body = some (.object members) ∧
      Json.parse? (filterBody fields body).value = some (.object (unlisted fields members))
  idempotent : (¬Untouched fields body → IntegralBody body) →
    (filterBody fields (filterBody fields body).value).value = (filterBody fields body).value
  composed : (¬Untouched fields body → IntegralBody body) → ∀ others,
    (filterBody others (filterBody fields body).value).value =
      (filterBody (fields ++ others) body).value

/-- Whatever the body, filtering takes out the members that are listed and nothing else. -/
theorem filterBody_removesListed (fields : List String) (body : ByteArray) :
    RemovesListed fields body := by
  rcases untouched_or_lists fields body with untouched | ⟨members, parsed, lists⟩
  · have same := filterBody_of_untouched untouched
    refine ⟨fun _ => same, fun touched => absurd untouched touched, fun _ => ?_, fun _ others => ?_⟩
    · rw [same, same]
    · rw [same]
      exact filterBody_append_of_untouched untouched others
  · have touched : ¬Untouched fields body := fun untouched =>
      (untouched_iff fields body).mp untouched members parsed lists
    refine ⟨fun untouched => absurd untouched touched, fun _ integral => ?_, fun integral => ?_,
      fun integral => ?_⟩
    · exact ⟨members, parsed, parse?_filterBody parsed lists (integral _ parsed)⟩
    · have reparsed := parse?_filterBody parsed lists (integral touched _ parsed)
      exact filterBody_of_untouched (.unlisted _ reparsed (not_lists_unlisted fields members))
    · exact filterBody_append_of_lists parsed lists (integral touched _ parsed)

/-- A member is taken out however its name is spelled and however often it stands there. -/
example :
    (filterBody ["a"] "\x7b\"\\u0061\":1,\"c\":[2],\"b\":null,\"a\":3\x7d".toUTF8).value =
      "\x7b\"b\":null,\"c\":[2]\x7d".toUTF8 := by
  decide +kernel

end BearerProxy
