import BearerProxy.Failure
import BearerProxy.Json.Value
import BearerProxy.Text

/-! One tenant's credential: what it holds, how it is read from JSON and how it is shown. -/

namespace BearerProxy

/-- An authentication identity. `secret` never appears in messages or inspection texts. -/
structure Credential where
  id : String
  secret : String
  tenant : String
  displayName : Option String := none
  deriving DecidableEq, Repr, Inhabited

namespace Credential

def idField : String := "clientId"
def secretField : String := "clientSecret"
def tenantField : String := "tenant"
def nameField : String := "name"

def requiredFields : List String := [idField, secretField, tenantField]

def missingFields (credential : Credential) : List String :=
  [(idField, credential.id), (secretField, credential.secret), (tenantField, credential.tenant)]
    |>.filter (fun field => Text.isBlankText field.2)
    |>.map (·.1)

def new (id secret tenant : String) : Except Failure Credential :=
  let credential : Credential := { id, secret, tenant }
  if credential.missingFields.isEmpty then .ok credential
  else .error (.incompleteCredential credential.missingFields)

def withDisplayName (credential : Credential) (name : String) : Credential :=
  { credential with displayName := if Text.isBlankText name then none else some name }

def labelLength : Nat := 8

/-- The name of a credential in diagnostics: its display name, or else the beginning of its id. -/
def label (credential : Credential) : String :=
  match credential.displayName.filter (fun name => !Text.isBlankText name) with
  | some name => name
  | none =>
      let id := Text.trimCharacters credential.id.toList
      if id.isEmpty then "config-unnamed"
      else if labelLength < id.length then
        "config-" ++ String.ofList (id.take labelLength) ++ "..."
      else "config-" ++ String.ofList id

def inspect (credential : Credential) : String :=
  Text.inspectFields "CredentialRecord"
    [("id", Text.quote credential.id),
     ("secret", Text.quote Text.redacted),
     ("tenant", Text.quote credential.tenant),
     ("display_name", Text.inspectOption (credential.displayName.map Text.quote))]

/-! Reading a record from a JSON value. -/

def requiredText (members : List (String × Json)) (field : String) : Except FieldFault String :=
  match Keyed.lookup? field members with
  | none => .error (.missing field)
  | some (.string text) => if Text.isBlankText text then .error (.blank field) else .ok text
  | some other => .error (.wrongType field other.kind)

def faultOf : Except FieldFault String → List FieldFault
  | .ok _ => []
  | .error fault => [fault]

/-- The credential that a JSON value describes, or everything that is wrong with the value. -/
def ofJson : Json → Except (List FieldFault) Credential
  | .object members =>
      let id := requiredText members idField
      let secret := requiredText members secretField
      let tenant := requiredText members tenantField
      match id, secret, tenant with
      | .ok id, .ok secret, .ok tenant =>
          let credential : Credential := { id, secret, tenant }
          match Keyed.lookup? nameField members with
          | some (.string name) => .ok (credential.withDisplayName name)
          | _ => .ok credential
      | _, _, _ => .error (faultOf id ++ faultOf secret ++ faultOf tenant)
  | other => .error [.notAnObject other.kind]

end Credential

end BearerProxy
