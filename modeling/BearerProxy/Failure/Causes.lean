import BearerProxy.Text.Quoted
import BearerProxy.Url.Host

/-! The causes behind failures that clients and operators see as one sentence each. -/

namespace BearerProxy

inductive DocumentFault
  | notJson
  | notAnArray (found : String)
  | stated (reason : String)
  deriving DecidableEq, Repr, Inhabited

def DocumentFault.message : DocumentFault → String
  | .notJson => "invalid JSON"
  | .notAnArray found => "secrets file must contain an array, got " ++ found
  | .stated reason => reason

inductive SettingsFault
  | notToml
  | zeroTokenLifetime
  | marginNotBelowLifetime (margin lifetime : Nat)
  | illegalPortVariable (text : String)
  | noListenPort (listen : String)
  | baseUrlScheme (text : String)
  | blankHost
  | zeroTimeout
  | illegalListenAddress (text : String)
  | blankAdminToken
  | journalTaken
  | stated (reason : String)
  deriving DecidableEq, Repr, Inhabited

def SettingsFault.message : SettingsFault → String
  | .notToml => "invalid settings TOML"
  | .zeroTokenLifetime => "tokens.ttl_seconds must be greater than zero"
  | .marginNotBelowLifetime margin lifetime =>
      "tokens.refresh_margin_seconds (" ++ toString margin ++
        ") must be less than tokens.ttl_seconds (" ++ toString lifetime ++ ")"
  | .illegalPortVariable text => "FLOW_PROXY_PORT must be a port number, got " ++ Text.quote text
  | .noListenPort listen => "server.listen has no valid port: " ++ listen
  | .baseUrlScheme text => "upstream.base_url must be an http(s) URL, got " ++ Text.quote text
  | .blankHost => "upstream.host cannot be empty"
  | .zeroTimeout => "upstream timeouts must be greater than zero"
  | .illegalListenAddress text =>
      "invalid server.listen " ++ Text.quote text ++ ": invalid socket address syntax"
  | .blankAdminToken => "server.admin_token cannot be blank"
  | .journalTaken =>
      "failed to install tracing subscriber: a global default trace dispatcher has already been set"
  | .stated reason => reason

inductive RequestFault
  | illegalTarget (fault : Url.Fault)
  | illegalBase (fault : Url.Fault)
  | foreignOrigin (origin : String)
  | emptyToken
  | noHeaders
  | illegalToken
  | illegalHost
  | emptyPath
  | illegalMethod (text : String)
  | stated (reason : String)
  deriving DecidableEq, Repr, Inhabited

def RequestFault.message : RequestFault → String
  | .illegalTarget fault => "invalid target URL: " ++ fault.message
  | .illegalBase fault => "invalid upstream base URL: " ++ fault.message
  | .foreignOrigin origin => "target " ++ origin ++ " is not the upstream origin"
  | .emptyToken => "token cannot be empty"
  | .noHeaders => "request has no headers"
  | .illegalToken => "token is not a valid header value"
  | .illegalHost => "upstream host is not a valid header value"
  | .emptyPath => "path cannot be empty"
  | .illegalMethod text => "invalid HTTP method: " ++ text
  | .stated reason => reason

inductive ReadFault
  | notFound
  | isDirectory
  | notADirectory
  | permissionDenied
  | nameTooLong
  | illegalName
  | notUtf8
  | stated (reason : String)
  deriving DecidableEq, Repr, Inhabited

namespace ReadFault

def message : ReadFault → String
  | .notFound => "No such file or directory (os error 2)"
  | .isDirectory => "Is a directory (os error 21)"
  | .notADirectory => "Not a directory (os error 20)"
  | .permissionDenied => "Permission denied (os error 13)"
  | .nameTooLong => "File name too long (os error 36)"
  | .illegalName => "file name contained an unexpected NUL byte"
  | .notUtf8 => "stream did not contain valid UTF-8"
  | .stated reason => reason

private def inspectFixed (kind message : String) : String :=
  Text.inspectFields "Error" [("kind", kind), ("message", Text.quote message)]

private def inspectSystemError (code : Nat) (kind message : String) : String :=
  Text.inspectFields "Os"
    [("code", toString code), ("kind", kind), ("message", Text.quote message)]

def inspect : ReadFault → String
  | .notFound => inspectSystemError 2 "NotFound" "No such file or directory"
  | .isDirectory => inspectSystemError 21 "IsADirectory" "Is a directory"
  | .notADirectory => inspectSystemError 20 "NotADirectory" "Not a directory"
  | .permissionDenied => inspectSystemError 13 "PermissionDenied" "Permission denied"
  | .nameTooLong => inspectSystemError 36 "InvalidFilename" "File name too long"
  | .illegalName => inspectFixed "InvalidInput" "file name contained an unexpected NUL byte"
  | .notUtf8 => inspectFixed "InvalidData" "stream did not contain valid UTF-8"
  | .stated reason =>
      Text.inspectFields "Custom" [("kind", "Other"), ("error", Text.quote reason)]

end ReadFault

/-! What can be wrong with the records of a credential document. -/

/-- One fault of a record; `found` names the kind of JSON value that stands in the wrong place. -/
inductive FieldFault
  | notAnObject (found : String)
  | missing (field : String)
  | wrongType (field found : String)
  | blank (field : String)
  deriving DecidableEq, Repr

namespace FieldFault

def message : FieldFault → String
  | .notAnObject found => "configuration must be an object, got " ++ found
  | .missing field => "missing required field '" ++ field ++ "'"
  | .wrongType field found => "field '" ++ field ++ "' must be a string, got " ++ found
  | .blank field => "field '" ++ field ++ "' cannot be empty or whitespace-only"

def isMissing : FieldFault → Bool
  | .missing _ => true
  | _ => false

def inspect : FieldFault → String
  | .notAnObject found => Text.inspectFields "NotAnObject" [("found", Text.quote found)]
  | .missing field => "Missing(" ++ Text.quote field ++ ")"
  | .wrongType field found =>
      Text.inspectFields "WrongType" [("field", Text.quote field), ("found", Text.quote found)]
  | .blank field => "Empty(" ++ Text.quote field ++ ")"

end FieldFault

structure RecordFault where
  index : Nat
  faults : List FieldFault
  deriving DecidableEq, Repr

namespace RecordFault

def message (record : RecordFault) : String :=
  "record " ++ toString record.index ++ ": " ++
    String.intercalate "; " (record.faults.map FieldFault.message)

def inspect (record : RecordFault) : String :=
  Text.inspectFields "RecordIssue"
    [("index", toString record.index),
     ("issues", Text.inspectList (record.faults.map FieldFault.inspect))]

end RecordFault

end BearerProxy
