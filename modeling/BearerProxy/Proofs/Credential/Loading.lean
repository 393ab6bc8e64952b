import BearerProxy.Credential.Pool
import BearerProxy.Proofs.Credential.Record

/-!
What a loaded pool holds. The check of a record agrees with the check before a mint on what is blank, so that no
credential of a loaded pool misses a field.
-/

namespace BearerProxy

namespace Credential

theorem missingFields_eq_nil_iff (credential : Credential) :
    credential.missingFields = [] ↔
      ¬Text.isBlankText credential.id ∧ ¬Text.isBlankText credential.secret ∧
        ¬Text.isBlankText credential.tenant := by
  simp [missingFields]

theorem missingFields_of_ofJson {item : Json} {credential : Credential}
    (read : ofJson item = .ok credential) : credential.missingFields = [] :=
  credential.missingFields_eq_nil_iff.mpr (describes_of_ofJson read).visible

end Credential

namespace Pool

theorem missingFields_of_mem_credentialsOf {items : List Json} {credential : Credential}
    (member : credential ∈ credentialsOf items) : credential.missingFields = [] := by
  rcases List.mem_filterMap.mp member with ⟨item, -, read⟩
  cases result : Credential.ofJson item with
  | error faults =>
      rw [result] at read
      cases read
  | ok other =>
      rw [result] at read
      cases read
      exact Credential.missingFields_of_ofJson result

theorem credentials_of_ofCredentials {credentials : List Credential} {pool : Pool}
    (made : ofCredentials credentials = .ok pool) : pool.credentials = credentials := by
  rw [ofCredentials] at made
  split at made
  · cases made
    rfl
  · cases made

theorem load_value (document : ByteArray) :
    (load document).value =
      match Json.parse? document with
      | none => .error (.document .notJson)
      | some (.array []) => .error .noRecords
      | some (.array items) =>
          if (faultsFrom 0 items).isEmpty then ofCredentials (credentialsOf items)
          else .error (.records (faultsFrom 0 items))
      | some other => .error (.document (.notAnArray other.kind)) := by
  rw [load]
  cases Json.parse? document with
  | none => rfl
  | some value =>
      cases value with
      | array items =>
          cases items with
          | nil => rfl
          | cons item items =>
              simp only [Reported.value_bind, readRecords]
              by_cases faultless : (faultsFrom 0 (item :: items)).isEmpty
              · simp only [faultless, if_true, Reported.value_pure, Reported.value_bind]
              · simp only [faultless, Reported.value_pure]
                rfl
      | null | bool | integer | decimal | string | object => rfl

theorem credentials_of_load {document : ByteArray} {pool : Pool}
    (loaded : (load document).value = .ok pool) : ∃ items, pool.credentials = credentialsOf items := by
  rw [load_value] at loaded
  split at loaded
  · cases loaded
  · cases loaded
  · split at loaded
    · exact ⟨_, credentials_of_ofCredentials loaded⟩
    · cases loaded
  · cases loaded

theorem complete_of_load {document : ByteArray} {pool : Pool}
    (loaded : (load document).value = .ok pool) :
    ∀ credential ∈ pool.credentials, credential.missingFields = [] := by
  rcases credentials_of_load loaded with ⟨items, same⟩
  intro credential member
  rw [same] at member
  exact missingFields_of_mem_credentialsOf member

end Pool

end BearerProxy
