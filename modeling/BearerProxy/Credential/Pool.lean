import BearerProxy.Credential.Record
import BearerProxy.Files
import BearerProxy.Journal
import BearerProxy.Json.Parser

/-! Credential documents: a JSON array of records becomes a pool, or every faulty record is reported. -/

namespace BearerProxy

/-- The credentials of a document, in their order; there is at least one. -/
structure Pool where
  credentials : List Credential
  nonempty : credentials ≠ []

namespace Pool

def size (pool : Pool) : Nat := pool.credentials.length

def ofCredentials (credentials : List Credential) : Except Failure Pool :=
  if nonempty : credentials ≠ [] then .ok ⟨credentials, nonempty⟩ else .error .noRecords

def faultsFrom (index : Nat) : List Json → List RecordFault
  | [] => []
  | item :: items =>
      match Credential.ofJson item with
      | .ok _ => faultsFrom (index + 1) items
      | .error faults => ⟨index, faults⟩ :: faultsFrom (index + 1) items

def credentialsOf (items : List Json) : List Credential :=
  items.filterMap fun item => (Credential.ofJson item).toOption

def reportFaults : List RecordFault → Reported Unit
  | [] => pure ()
  | fault :: faults => do
      errorEvent .credentials "invalid credential record" [("failure", .text fault.message)]
      reportFaults faults

/-- All records, if none is faulty; otherwise all faults together. -/
def readRecords (items : List Json) : Reported (Except Failure (List Credential)) := do
  let faults := faultsFrom 0 items
  reportFaults faults
  return if faults.isEmpty then .ok (credentialsOf items) else .error (.records faults)

def load (document : ByteArray) : Reported (Except Failure Pool) :=
  match Json.parse? document with
  | none => do
      errorEvent .credentials "credential file is not valid JSON"
      return .error (.document .notJson)
  | some (.array []) => do
      errorEvent .credentials "credential array is empty"
      return .error .noRecords
  | some (.array items) => do
      match ← readRecords items with
      | .error failure => return .error failure
      | .ok credentials =>
          infoEvent .credentials "loaded and validated credential records"
            [("count", .count credentials.length)]
          return ofCredentials credentials
  | some other => do
      errorEvent .credentials "credential file must contain an array" [("found", .text other.kind)]
      return .error (.document (.notAnArray other.kind))

/-! Documents in files. -/

def readFile [Monad m] (files : FileSystem m) (path : String) :
    m (Reported (Except Failure Pool)) := do
  let document ← files.read path
  return do
    infoEvent .credentials "loading credentials" [("path", .text path)]
    match document with
    | .error fault => return .error (.unreadable path fault)
    | .ok document => load document

def loadFile [Monad m] (files : FileSystem m) (path : String) (base : Option String) :
    m (Reported (Except Failure Pool)) := do
  let resolved ← files.locate path base
  if ← files.pathExists resolved then readFile files resolved
  else
    return do
      errorEvent .credentials "secrets file not found"
        [("resolved", .text resolved), ("original", .text path)]
      return .error (.secretsFileMissing resolved path)

end Pool

end BearerProxy
