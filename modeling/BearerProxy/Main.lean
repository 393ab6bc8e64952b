import BearerProxy.Program
import BearerProxy.Text.Timestamp
import Std.Time.DateTime.Timestamp

/-! The program on a machine: its files, its variables, its clock, its listener and its terminal. -/

namespace BearerProxy.Machine

def readFault : IO.Error → ReadFault
  | .noFileOrDirectory .. => .notFound
  | .permissionDenied .. => .permissionDenied
  | .inappropriateType _ code _ => if code = 20 then .notADirectory else .isDirectory
  | fault => .stated (toString fault)

def realPath? (path : String) : IO (Option String) := do
  try
    let real ← IO.FS.realPath path
    return some real.toString
  catch _ => return none

def files : FileSystem IO where
  read path := do
    try
      return .ok (← IO.FS.readBinFile path)
    catch fault => return .error (readFault fault)
  pathExists path := return (← realPath? path).isSome
  canonical? path := realPath? path
  currentDirectory? := do
    try
      let directory ← IO.currentDir
      return some directory.toString
    catch _ => return none

def knownVariables : IO (List (String × String)) := do
  let names := Program.thresholdVariable :: Variable.all
  let values ← names.mapM fun name => return (← IO.getEnv name).map fun value => (name, value)
  return values.filterMap id

def now : IO Nat := do
  let timestamp ← Std.Time.Timestamp.now
  return timestamp.toSecondsSinceUnixEpoch.toInt.toNat

/-- This layer has no sockets, so that no address is to be had. -/
def listen (_ : Program.Ready) : IO (Option String) :=
  return some Program.noAddress

end BearerProxy.Machine

open BearerProxy in
def main (arguments : List String) : IO UInt32 := do
  let seconds ← Machine.now
  let outcome ← Program.run Machine.files arguments (← Machine.knownVariables) (UInt64.ofNat seconds)
    Machine.listen
  if let some style := outcome.style then
    for event in outcome.events do
      IO.println (style.line event (Timestamp.ofSeconds seconds))
  IO.print outcome.output
  IO.eprint outcome.complaint
  return outcome.status
