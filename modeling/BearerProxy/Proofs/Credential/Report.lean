import Mathlib.Data.List.Forall2
import BearerProxy.Proofs.Credential.Loading

/-!
What comes of a credential document. It is accepted exactly if it is an array of records, at least one, and the pool
then has one credential for each of them. Of an array with other values in it every such value is reported, once and
with all that is wrong with it.
-/

namespace BearerProxy.Pool

/-- A report on the items of a document: those that are no records, in their order, each once and with all of its
faults. -/
structure ReportsOn (items : List Json) (report : List RecordFault) : Prop where
  inOrder : report.Pairwise fun earlier later => earlier.index < later.index
  sound : ∀ record ∈ report, ∃ item, items[record.index]? = some item ∧
    Credential.FaultyWith item record.faults
  complete : ∀ (index : Nat) (item : Json), items[index]? = some item →
    ¬Credential.IsRecord item → ∃ record ∈ report, record.index = index

def OnlyMissing (report : List RecordFault) : Prop :=
  ∀ record ∈ report, ∀ fault ∈ record.faults, ∃ field, fault = .missing field

/-! The items of an array. -/

def faultAt? (entry : Json × Nat) : Option RecordFault :=
  match Credential.ofJson entry.1 with
  | .ok _ => none
  | .error faults => some ⟨entry.2, faults⟩

theorem faultAt?_eq_some_iff {entry : Json × Nat} {record : RecordFault} :
    faultAt? entry = some record ↔
      entry.2 = record.index ∧ Credential.ofJson entry.1 = .error record.faults := by
  rw [faultAt?]
  cases read : Credential.ofJson entry.1 with
  | ok credential => simp
  | error faults =>
      cases record
      simp

theorem faultsFrom_eq_filterMap (start : Nat) (items : List Json) :
    faultsFrom start items = (items.zipIdx start).filterMap faultAt? := by
  induction items generalizing start with
  | nil => rfl
  | cons item items induction =>
      rw [faultsFrom, List.zipIdx_cons, List.filterMap_cons, faultAt?, ← induction]
      cases Credential.ofJson item with
      | ok credential => rfl
      | error faults => rfl

theorem mem_faultsFrom_iff {items : List Json} {record : RecordFault} :
    record ∈ faultsFrom 0 items ↔
      ∃ item, items[record.index]? = some item ∧ Credential.ofJson item = .error record.faults := by
  rw [faultsFrom_eq_filterMap, List.mem_filterMap]
  constructor
  · rintro ⟨⟨item, index⟩, isEntry, reported⟩
    rcases faultAt?_eq_some_iff.mp reported with ⟨same, refused⟩
    rw [← same]
    exact ⟨item, List.mk_mem_zipIdx_iff_getElem?.mp isEntry, refused⟩
  · rintro ⟨item, found, refused⟩
    exact ⟨(item, record.index), List.mk_mem_zipIdx_iff_getElem?.mpr found,
      faultAt?_eq_some_iff.mpr ⟨rfl, refused⟩⟩

theorem inOrder_faultsFrom (items : List Json) :
    (faultsFrom 0 items).Pairwise fun earlier later => earlier.index < later.index := by
  have positions : (items.zipIdx.map Prod.snd).Pairwise (· < ·) := by
    rw [List.zipIdx_map_snd]
    exact List.pairwise_lt_range'
  rw [faultsFrom_eq_filterMap]
  refine (List.pairwise_map.mp positions).filterMap _ fun one other less record reported later
    reportedLater => ?_
  rw [← (faultAt?_eq_some_iff.mp reported).1, ← (faultAt?_eq_some_iff.mp reportedLater).1]
  exact less

theorem reportsOn_faultsFrom (items : List Json) : ReportsOn items (faultsFrom 0 items) := by
  refine ⟨inOrder_faultsFrom items, ?_, ?_⟩
  · intro record reported
    rcases mem_faultsFrom_iff.mp reported with ⟨item, found, refused⟩
    exact ⟨item, found, Credential.faultyWith_of_ofJson refused⟩
  · intro index item found noRecord
    cases read : Credential.ofJson item with
    | ok credential => exact absurd (Credential.isRecord_iff.mpr ⟨credential, read⟩) noRecord
    | error faults => exact ⟨⟨index, faults⟩, mem_faultsFrom_iff.mpr ⟨item, found, read⟩, rfl⟩

theorem faultsFrom_eq_nil_iff (items : List Json) :
    faultsFrom 0 items = [] ↔ ∀ item ∈ items, Credential.IsRecord item := by
  constructor
  · intro faultless item member
    apply Classical.byContradiction
    intro noRecord
    rcases List.getElem?_of_mem member with ⟨index, found⟩
    rcases (reportsOn_faultsFrom items).complete index item found noRecord with ⟨record, reported, -⟩
    rw [faultless] at reported
    cases reported
  · intro records
    apply List.eq_nil_iff_forall_not_mem.mpr
    intro record reported
    rcases (reportsOn_faultsFrom items).sound record reported with ⟨item, found, faulty⟩
    exact faulty.not_isRecord (records item (List.mem_of_getElem? found))

theorem describes_credentialsOf {items : List Json}
    (records : ∀ item ∈ items, Credential.IsRecord item) :
    List.Forall₂ Credential.Describes items (credentialsOf items) := by
  induction items with
  | nil => exact .nil
  | cons item items induction =>
      rcases List.forall_mem_cons.mp records with ⟨isRecord, others⟩
      rcases Credential.isRecord_iff.mp isRecord with ⟨credential, read⟩
      have together : credentialsOf (item :: items) = credential :: credentialsOf items := by
        rw [credentialsOf, List.filterMap_cons, read]
        rfl
      rw [together]
      exact .cons (Credential.describes_of_ofJson read) (induction others)

theorem isRecord_of_described {items : List Json} {credentials : List Credential}
    (described : List.Forall₂ Credential.Describes items credentials) :
    ∀ item ∈ items, Credential.IsRecord item := by
  induction described with
  | nil => exact List.forall_mem_nil _
  | cons describes described induction => exact List.forall_mem_cons.mpr ⟨describes.isRecord, induction⟩

/-! The whole document. -/

variable {document : ByteArray} {items : List Json}

theorem load_of_array (parsed : Json.parse? document = some (.array items)) (nonempty : items ≠ []) :
    (load document).value =
      if (faultsFrom 0 items).isEmpty then ofCredentials (credentialsOf items)
      else .error (.records (faultsFrom 0 items)) := by
  rw [load_value, parsed]
  cases items with
  | nil => exact absurd rfl nonempty
  | cons item items => rfl

theorem ofCredentials_credentials (pool : Pool) : ofCredentials pool.credentials = .ok pool := by
  rw [ofCredentials, dif_pos pool.nonempty]

theorem load_of_described (parsed : Json.parse? document = some (.array items)) (pool : Pool)
    (described : List.Forall₂ Credential.Describes items pool.credentials) :
    (load document).value = .ok pool := by
  have records := isRecord_of_described described
  have nonempty : items ≠ [] := by
    intro nothing
    rw [nothing] at described
    exact pool.nonempty (List.forall₂_nil_left_iff.mp described)
  have unique : Relator.RightUnique Credential.Describes := fun _ _ _ => Credential.Describes.unique
  have same : credentialsOf items = pool.credentials :=
    List.right_unique_forall₂' unique (describes_credentialsOf records) described
  rw [load_of_array parsed nonempty, (faultsFrom_eq_nil_iff items).mpr records, same]
  exact ofCredentials_credentials pool

theorem exists_described_of_load {pool : Pool} (loaded : (load document).value = .ok pool) :
    ∃ items, Json.parse? document = some (.array items) ∧ items ≠ [] ∧
      List.Forall₂ Credential.Describes items pool.credentials := by
  rw [load_value] at loaded
  split at loaded
  · cases loaded
  · cases loaded
  · rename_i items nonempty parsed
    split at loaded
    · rename_i faultless
      have records := (faultsFrom_eq_nil_iff items).mp (List.isEmpty_iff.mp faultless)
      rw [credentials_of_ofCredentials loaded]
      exact ⟨items, parsed, nonempty, describes_credentialsOf records⟩
    · cases loaded
  · cases loaded

theorem code_records (report : List RecordFault) :
    ((Failure.records report).code.text = "CONFIG_1003" ↔ OnlyMissing report) ∧
    ((Failure.records report).code.text = "CONFIG_1005" ↔ ¬OnlyMissing report) := by
  have onlyMissing : (report.all fun record => record.faults.all FieldFault.isMissing) ↔
      OnlyMissing report := by
    simp only [List.all_eq_true, OnlyMissing, FieldFault.isMissing_iff]
  rw [Failure.code, ← onlyMissing]
  split
  · rename_i missing
    simp [missing, FailureCode.text]
  · rename_i other
    simp [other, FailureCode.text]

/-- What comes of a document, whatever bytes it has. -/
structure LoadsExactly (document : ByteArray) : Prop where
  accepted : (∃ pool, (load document).value = .ok pool) ↔
    ∃ items, Json.parse? document = some (.array items) ∧ items ≠ [] ∧
      ∀ item ∈ items, Credential.IsRecord item
  loaded : ∀ pool, (load document).value = .ok pool ↔
    ∃ items, Json.parse? document = some (.array items) ∧ items ≠ [] ∧
      List.Forall₂ Credential.Describes items pool.credentials
  notJson : Json.parse? document = none → (load document).value = .error (.document .notJson)
  notAnArray : ∀ value, Json.parse? document = some value → (∀ items, value ≠ .array items) →
    (load document).value = .error (.document (.notAnArray value.kind))
  empty : Json.parse? document = some (.array []) → (load document).value = .error .noRecords
  faulty : ∀ items, Json.parse? document = some (.array items) →
    (∃ item ∈ items, ¬Credential.IsRecord item) →
      ∃ report, (load document).value = .error (.records report) ∧ ReportsOn items report ∧
        ((Failure.records report).code.text = "CONFIG_1003" ↔ OnlyMissing report) ∧
        ((Failure.records report).code.text = "CONFIG_1005" ↔ ¬OnlyMissing report)

theorem load_exact (document : ByteArray) : LoadsExactly document where
  accepted := by
    constructor
    · rintro ⟨pool, loaded⟩
      rcases exists_described_of_load loaded with ⟨items, parsed, nonempty, described⟩
      exact ⟨items, parsed, nonempty, isRecord_of_described described⟩
    · rintro ⟨items, parsed, nonempty, records⟩
      have described := describes_credentialsOf records
      refine ⟨⟨credentialsOf items, fun nothing => nonempty ?_⟩, load_of_described parsed _ described⟩
      rw [nothing] at described
      exact List.forall₂_nil_right_iff.mp described
  loaded pool := by
    constructor
    · exact exists_described_of_load
    · rintro ⟨items, parsed, -, described⟩
      exact load_of_described parsed pool described
  notJson parsed := by rw [load_value, parsed]
  notAnArray value parsed noArray := by
    rw [load_value, parsed]
    cases value with
    | array items => exact absurd rfl (noArray items)
    | null | bool | integer | decimal | string | object => rfl
  empty parsed := by rw [load_value, parsed]
  faulty items parsed := by
    rintro ⟨item, member, noRecord⟩
    have faulty : ¬(faultsFrom 0 items).isEmpty := fun faultless =>
      noRecord ((faultsFrom_eq_nil_iff items).mp (List.isEmpty_iff.mp faultless) item member)
    refine ⟨faultsFrom 0 items, ?_, reportsOn_faultsFrom items, code_records _⟩
    rw [load_of_array parsed (List.ne_nil_of_mem member), if_neg faulty]

/-- Of two members with one name the last counts, and a blank text is not the same as none. -/
example :
    ((load "[\x7b\"clientId\":1,\"clientId\":\" \",\"tenant\":\"t\"\x7d,null]".toUTF8).value.map
      credentials) =
        .error (.records
          [⟨0, [.blank "clientId", .missing "clientSecret"]⟩, ⟨1, [.notAnObject "null"]⟩]) := by
  decide +kernel

end BearerProxy.Pool
