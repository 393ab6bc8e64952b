import BearerProxy.Failure.Causes
import BearerProxy.Text

/-!
Files by path. What the proxy asks of a file system is a structure over any monad, so that the same
rules run on the files of a machine and on files that are a value.
-/

namespace BearerProxy

/-- Reading a whole file, whether a path leads anywhere, the path without dots, and the directory from
which relative paths start. -/
structure FileSystem (m : Type → Type) where
  read : String → m (Except ReadFault ByteArray)
  pathExists : String → m Bool
  canonical? : String → m (Option String)
  currentDirectory? : m (Option String)

namespace Path

def isAbsolute (path : String) : Bool :=
  Text.startsWith "/" path

def under (directory path : String) : String :=
  if isAbsolute path || directory.isEmpty then path
  else if directory.endsWith "/" then directory ++ path
  else directory ++ "/" ++ path

/-- A path, last character first, without slashes and single dots at its end. -/
def dropIdleEnd : List Char → List Char
  | '/' :: rest => dropIdleEnd rest
  | '.' :: '/' :: rest => dropIdleEnd rest
  | reversed => reversed

def directory? (path : String) : Option String :=
  match Text.splitLast? (· == '/') path.toList with
  | none => none
  | some (before, _) =>
      let kept := (dropIdleEnd before.reverse).reverse
      some (if kept.isEmpty then "/" else String.ofList kept)

end Path

namespace FileSystem

/-- Where a configured path leads: relative paths are tried from the current directory and then from a
base directory, and a path that leads nowhere is taken from the current directory. -/
def locate [Monad m] (files : FileSystem m) (path : String) (base : Option String) : m String := do
  if Path.isAbsolute path then return path
  if ← files.pathExists path then return (← files.canonical? path).getD path
  if let some base := base then
    let candidate := Path.under base path
    if ← files.pathExists candidate then return candidate
  match ← files.currentDirectory? with
  | none => return path
  | some current => return Path.under current path

def readText [Monad m] (files : FileSystem m) (path : String) : m (Except ReadFault String) := do
  match ← files.read path with
  | .error fault => return .error fault
  | .ok bytes =>
      match String.fromUTF8? bytes with
      | none => return .error .notUtf8
      | some text => return .ok text

end FileSystem

end BearerProxy
