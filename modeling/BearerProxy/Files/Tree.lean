import BearerProxy.Files
import BearerProxy.Text

/-! A file system that is a value: files and directories by the names on the way to them. -/

namespace BearerProxy

inductive FileNode
  | file (bytes : ByteArray)
  | directory
  deriving DecidableEq

structure FileTree where
  nodes : List (List String × FileNode) := []
  current : List String := []

namespace FileTree

def node? (tree : FileTree) (place : List String) : Option FileNode :=
  if place.isEmpty then some .directory else tree.nodes.lookup place

def add (tree : FileTree) (place : List String) (node : FileNode) : FileTree :=
  let ancestors := (List.range place.length).map place.take
  let missing := ancestors.filter fun ancestor => (tree.node? ancestor).isNone
  { tree with nodes := (place, node) :: missing.map (·, .directory) ++ tree.nodes }

def longestName : Nat := 255

def longestPath : Nat := 4095

/-- The place reached from another one by way of the given names. Every name is looked up in a
directory, also the dots that lead nowhere else. -/
def walk (tree : FileTree) (place : List String) : List String → Except ReadFault (List String)
  | [] => .ok place
  | name :: names =>
      if tree.node? place ≠ some .directory then .error .notADirectory
      else if name = "" || name = "." then tree.walk place names
      else if name = ".." then tree.walk place.dropLast names
      else if longestName < name.utf8ByteSize then .error .nameTooLong
      else if (tree.node? (place ++ [name])).isSome then tree.walk (place ++ [name]) names
      else .error .notFound

def find (tree : FileTree) (path : String) : Except ReadFault (List String) :=
  if path.isEmpty then .error .notFound
  else if path.toList.contains '\x00' then .error .illegalName
  else if longestPath < path.utf8ByteSize then .error .nameTooLong
  else
    let start := if Path.isAbsolute path then [] else tree.current
    tree.walk start ((Text.pieces '/' path.toList).map String.ofList)

def read (tree : FileTree) (path : String) : Except ReadFault ByteArray := do
  match tree.node? (← tree.find path) with
  | some (.file bytes) => return bytes
  | _ => throw .isDirectory

def pathOf (place : List String) : String :=
  "/" ++ String.intercalate "/" place

def fileSystem (tree : FileTree) : FileSystem Id where
  read path := tree.read path
  pathExists path := (tree.find path).isOk
  canonical? path := (tree.find path).toOption.map pathOf
  currentDirectory? := some (pathOf tree.current)

end FileTree

end BearerProxy
