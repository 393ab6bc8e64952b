import BearerProxy.Credential.Record

/-!
Which JSON values are records, and what is wrong with the others. Both are said without the reader, and the reader
agrees: it takes the fields of a record as they are written, and names everything that is wrong with a value that is
none.
-/

namespace BearerProxy

def Json.HasText (item : Json) (field : String) : Prop :=
  ∃ text, item.get? field = some (.string text) ∧ ¬Text.isBlankText text

namespace FieldFault

def field? : FieldFault → Option String
  | .notAnObject _ => none
  | .missing field | .wrongType field _ | .blank field => some field

theorem isMissing_iff (fault : FieldFault) : fault.isMissing ↔ ∃ field, fault = .missing field := by
  cases fault <;> simp [isMissing]

inductive Concerns (item : Json) (field : String) : FieldFault → Prop
  | missing (absent : item.get? field = none) : Concerns item field (.missing field)
  | wrongType (value : Json) (found : item.get? field = some value)
      (noText : ∀ text, value ≠ .string text) : Concerns item field (.wrongType field value.kind)
  | blank (text : String) (found : item.get? field = some (.string text))
      (blank : Text.isBlankText text) : Concerns item field (.blank field)

variable {item : Json} {field : String} {fault other : FieldFault}

theorem Concerns.field?_eq (concerns : Concerns item field fault) : fault.field? = some field := by
  cases concerns <;> rfl

theorem Concerns.not_hasText (concerns : Concerns item field fault) : ¬item.HasText field := by
  rintro ⟨text, found, visible⟩
  cases concerns with
  | missing absent =>
      rw [absent] at found
      cases found
  | wrongType value foundToo noText =>
      rw [foundToo] at found
      exact noText text (Option.some.inj found)
  | blank other foundToo blank =>
      rw [foundToo] at found
      cases found
      exact visible blank

theorem Concerns.unique (concerns : Concerns item field fault)
    (concernsToo : Concerns item field other) : fault = other := by
  cases concerns <;> cases concernsToo <;> grind

end FieldFault

namespace Credential

def IsRecord (item : Json) : Prop :=
  ∀ field ∈ ["clientId", "clientSecret", "tenant"], item.HasText field

/-- The fields of a credential are the members of a record as they are written; its display name is there exactly
if the record has a name that says something. -/
structure Describes (item : Json) (credential : Credential) : Prop where
  id : item.get? "clientId" = some (.string credential.id)
  secret : item.get? "clientSecret" = some (.string credential.secret)
  tenant : item.get? "tenant" = some (.string credential.tenant)
  visible : ¬Text.isBlankText credential.id ∧ ¬Text.isBlankText credential.secret ∧
    ¬Text.isBlankText credential.tenant
  displayName : ∀ name, credential.displayName = some name ↔
    item.get? "name" = some (.string name) ∧ ¬Text.isBlankText name

/-- All that is wrong with a value as a record: it is no object, or else it has the faults of its members, each
once and in the order of the members. -/
inductive FaultyWith (item : Json) : List FieldFault → Prop
  | notAnObject (noObject : ∀ members, item ≠ .object members) :
      FaultyWith item [.notAnObject item.kind]
  | members (members : List (String × Json)) (object : item = .object members)
      (faults : List FieldFault) (nonempty : faults ≠ [])
      (exact : ∀ fault, fault ∈ faults ↔
        ∃ field ∈ ["clientId", "clientSecret", "tenant"], FieldFault.Concerns item field fault)
      (inOrder : (faults.map FieldFault.field?).Sublist
        [some "clientId", some "clientSecret", some "tenant"]) :
      FaultyWith item faults

theorem FaultyWith.not_isRecord {item : Json} {faults : List FieldFault}
    (faulty : FaultyWith item faults) : ¬IsRecord item := by
  intro isRecord
  cases faulty with
  | notAnObject noObject =>
      rcases isRecord "clientId" List.mem_cons_self with ⟨text, found, -⟩
      cases item with
      | object members => exact noObject members rfl
      | null | bool | integer | decimal | string | array => cases found
  | members members object faults nonempty exact inOrder =>
      rcases List.exists_mem_of_ne_nil faults nonempty with ⟨fault, listed⟩
      rcases (exact fault).mp listed with ⟨field, required, concerns⟩
      exact concerns.not_hasText (isRecord field required)

/-! The reader on one member. -/

variable {members : List (String × Json)} {field text : String} {fault : FieldFault}

theorem requiredText_cases (members : List (String × Json)) (field : String) :
    (∃ text, (Json.object members).get? field = some (.string text) ∧ ¬Text.isBlankText text ∧
      requiredText members field = .ok text) ∨
    ∃ fault, FieldFault.Concerns (.object members) field fault ∧
      requiredText members field = .error fault := by
  rw [requiredText]
  cases found : Keyed.lookup? field members with
  | none => exact .inr ⟨_, .missing found, rfl⟩
  | some value =>
      cases value with
      | string text =>
          by_cases blank : Text.isBlankText text
          · exact .inr ⟨_, .blank text found blank, if_pos blank⟩
          · exact .inl ⟨text, found, blank, if_neg blank⟩
      | null | bool | integer | decimal | array | object =>
          exact .inr ⟨_, .wrongType _ found nofun, rfl⟩

theorem requiredText_eq_ok_iff :
    requiredText members field = .ok text ↔
      (Json.object members).get? field = some (.string text) ∧ ¬Text.isBlankText text := by
  rcases requiredText_cases members field with ⟨other, found, visible, read⟩ | ⟨fault, concerns, read⟩
  · rw [read, found, Except.ok.injEq, Option.some.injEq, Json.string.injEq]
    constructor
    · intro same
      exact ⟨same, same ▸ visible⟩
    · exact And.left
  · rw [read]
    constructor
    · intro ok
      cases ok
    · rintro ⟨found, visible⟩
      exact absurd ⟨text, found, visible⟩ concerns.not_hasText

theorem requiredText_eq_error_iff :
    requiredText members field = .error fault ↔
      FieldFault.Concerns (.object members) field fault := by
  rcases requiredText_cases members field with ⟨text, found, visible, read⟩ | ⟨other, concerns, read⟩
  · rw [read]
    constructor
    · intro error
      cases error
    · intro concerns
      exact absurd ⟨text, found, visible⟩ concerns.not_hasText
  · rw [read, Except.error.injEq]
    constructor
    · intro same
      exact same ▸ concerns
    · exact concerns.unique

theorem mem_faultOf_requiredText_iff :
    fault ∈ faultOf (requiredText members field) ↔
      FieldFault.Concerns (.object members) field fault := by
  rw [← requiredText_eq_error_iff]
  cases requiredText members field with
  | ok text => simp [faultOf]
  | error other => simp [faultOf, eq_comm]

theorem exists_ok_of_faultOf_eq_nil {result : Except FieldFault String}
    (faultless : faultOf result = []) : ∃ text, result = .ok text := by
  cases result with
  | ok text => exact ⟨text, rfl⟩
  | error fault => cases faultless

theorem faultOf_requiredText_inOrder (members : List (String × Json)) (field : String) :
    ((faultOf (requiredText members field)).map FieldFault.field?).Sublist [some field] := by
  cases read : requiredText members field with
  | ok text => exact List.nil_sublist _
  | error fault =>
      have same := (requiredText_eq_error_iff.mp read).field?_eq
      simp [faultOf, same]

/-! The reader on a whole value. -/

theorem describes_withDisplayName {item : Json} {credential : Credential} {name : String}
    (found : item.get? "name" = some (.string name))
    (describes : ∀ displayName, (∀ other, displayName = some other ↔
      item.get? "name" = some (.string other) ∧ ¬Text.isBlankText other) →
      Describes item { credential with displayName }) :
    Describes item (credential.withDisplayName name) := by
  refine describes _ fun other => ?_
  rw [found, Option.some.injEq, Json.string.injEq]
  by_cases blank : Text.isBlankText name
  · rw [if_pos blank]
    constructor
    · nofun
    · rintro ⟨same, visible⟩
      exact absurd (same ▸ blank) visible
  · rw [if_neg blank, Option.some.injEq]
    constructor
    · intro same
      exact ⟨same, same ▸ blank⟩
    · exact And.left

theorem describes_of_ofJson {item : Json} {credential : Credential}
    (read : ofJson item = .ok credential) : Describes item credential := by
  cases item with
  | object members =>
      rw [ofJson] at read
      simp only [] at read
      split at read
      · rename_i idText secretText tenantText id secret tenant
        have id := requiredText_eq_ok_iff.mp id
        have secret := requiredText_eq_ok_iff.mp secret
        have tenant := requiredText_eq_ok_iff.mp tenant
        have describes (displayName : Option String) (shown : ∀ other, displayName = some other ↔
            (Json.object members).get? "name" = some (.string other) ∧ ¬Text.isBlankText other) :
            Describes (.object members) ⟨idText, secretText, tenantText, displayName⟩ :=
          ⟨id.1, secret.1, tenant.1, ⟨id.2, secret.2, tenant.2⟩, shown⟩
        split at read
        · rename_i name found
          cases read
          exact describes_withDisplayName found describes
        · rename_i noName
          cases read
          refine describes none fun other => ⟨nofun, ?_⟩
          rintro ⟨found, -⟩
          exact absurd found (noName other)
      · cases read
  | null | bool | integer | decimal | string | array => cases read

theorem faultyWith_of_ofJson {item : Json} {faults : List FieldFault}
    (refused : ofJson item = .error faults) : FaultyWith item faults := by
  cases item with
  | object members =>
      rw [ofJson] at refused
      simp only [] at refused
      split at refused
      · split at refused
        · cases refused
        · cases refused
      · rename_i incomplete
        cases refused
        refine .members members rfl _ ?_ ?_ ?_
        · intro faultless
          simp only [List.append_eq_nil_iff] at faultless
          rcases faultless with ⟨⟨idFaultless, secretFaultless⟩, tenantFaultless⟩
          rcases exists_ok_of_faultOf_eq_nil idFaultless with ⟨id, idRead⟩
          rcases exists_ok_of_faultOf_eq_nil secretFaultless with ⟨secret, secretRead⟩
          rcases exists_ok_of_faultOf_eq_nil tenantFaultless with ⟨tenant, tenantRead⟩
          exact incomplete _ _ _ idRead secretRead tenantRead
        · intro fault
          simp only [List.mem_append, mem_faultOf_requiredText_iff, List.mem_cons, List.not_mem_nil,
            or_false, exists_eq_or_imp, exists_eq_left, or_assoc]
          rfl
        · rw [List.map_append, List.map_append]
          exact ((faultOf_requiredText_inOrder members idField).append
            (faultOf_requiredText_inOrder members secretField)).append
            (faultOf_requiredText_inOrder members tenantField)
  | null | bool | integer | decimal | string | array =>
      cases refused
      exact .notAnObject nofun

/-- What is read is what a record says, and only records are read. -/
theorem Describes.isRecord {item : Json} {credential : Credential}
    (describes : Describes item credential) : IsRecord item := by
  simp only [IsRecord, List.forall_mem_cons, List.not_mem_nil, false_implies, implies_true, and_true]
  exact ⟨⟨_, describes.id, describes.visible.1⟩, ⟨_, describes.secret, describes.visible.2.1⟩,
    ⟨_, describes.tenant, describes.visible.2.2⟩⟩

theorem Describes.unique {item : Json} {credential other : Credential}
    (describes : Describes item credential) (describesToo : Describes item other) :
    credential = other := by
  have id := describes.id.symm.trans describesToo.id
  have secret := describes.secret.symm.trans describesToo.secret
  have tenant := describes.tenant.symm.trans describesToo.tenant
  have displayName : credential.displayName = other.displayName :=
    Option.ext fun name => (describes.displayName name).trans (describesToo.displayName name).symm
  cases credential
  cases other
  simp_all

theorem ofJson_eq_ok_iff {item : Json} {credential : Credential} :
    ofJson item = .ok credential ↔ Describes item credential := by
  constructor
  · exact describes_of_ofJson
  · intro describes
    cases read : ofJson item with
    | ok other => rw [describes.unique (describes_of_ofJson read)]
    | error faults => exact absurd describes.isRecord (faultyWith_of_ofJson read).not_isRecord

theorem isRecord_iff {item : Json} :
    IsRecord item ↔ ∃ credential, ofJson item = .ok credential := by
  constructor
  · intro isRecord
    cases read : ofJson item with
    | ok credential => exact ⟨credential, rfl⟩
    | error faults => exact absurd isRecord (faultyWith_of_ofJson read).not_isRecord
  · rintro ⟨credential, read⟩
    exact (describes_of_ofJson read).isRecord

end Credential

end BearerProxy
