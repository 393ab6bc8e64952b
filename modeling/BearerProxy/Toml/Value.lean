import BearerProxy.Decimal.Binary64
import BearerProxy.Keyed

/-!
TOML values. A table remembers how it came about, since that decides what a later line may still add to
it: headers extend what headers made, dotted keys extend what dotted keys made, and a table in braces is
closed.
-/

namespace BearerProxy

namespace Toml

/-- How a table came about: under its own header, as the ancestor of another one, by a dotted key, or
in braces. -/
inductive Origin
  | header
  | ancestor
  | dotted
  | inline
  deriving DecidableEq, Repr

end Toml

/-- Moments are kept as they are written. An array of tables that headers build has at least one
element; the last one is still open. -/
inductive Toml where
  | string (text : String)
  | integer (value : Int)
  | decimal (value : Decimal.Binary64)
  | boolean (value : Bool)
  | moment (text : String)
  | array (items : List Toml)
  | table (origin : Toml.Origin) (entries : List (String × Toml))
  | tables (elements : List (List (String × Toml)))
  deriving Repr, Inhabited, BEq

namespace Toml

structure Key where
  path : List String
  name : String
  deriving DecidableEq, Repr

abbrev Entries := List (String × Toml)

def replaceEntry (name : String) (value : Toml) (entries : Entries) : Entries :=
  entries.map fun entry => if entry.1 = name then (name, value) else entry

abbrev Change := Origin → Entries → Option Entries

def Origin.isOpenTo (origin : Origin) (kind : Origin) : Bool :=
  match origin, kind with
  | .inline, _ => false
  | .header, .dotted => false
  | _, _ => true

/-- Changes the table at the end of a path. Tables that are missing on the way come about by the given
kind of path; an array of tables is passed through its last element. -/
def changeAt (kind : Origin) (change : Change) : List String → Change
  | [], origin, entries => change origin entries
  | name :: path, _, entries =>
      match Keyed.lookup? name entries with
      | none => do
          let inner ← changeAt kind change path kind []
          return entries ++ [(name, .table kind inner)]
      | some (.table origin inner) =>
          if origin.isOpenTo kind then do
            let inner ← changeAt kind change path origin inner
            return replaceEntry name (.table origin inner) entries
          else none
      | some (.tables elements) => do
          let last ← elements.getLast?
          let last ← changeAt kind change path .header last
          return replaceEntry name (.tables (elements.dropLast ++ [last])) entries
      | some _ => none

/-- Adds a value under a name that is free. Below a dotted path only tables made by dotted keys are
open. -/
def addValue (path : List String) (name : String) (value : Toml) : Change :=
  fun origin entries =>
    if (origin == .dotted) == path.isEmpty || (Keyed.lookup? name entries).isSome then none
    else some (entries ++ [(name, value)])

def assign (key : Key) (value : Toml) : Change :=
  changeAt .dotted (addValue key.path key.name value) key.path

def openTable (name : String) : Change := fun _ entries =>
  match Keyed.lookup? name entries with
  | none => some (entries ++ [(name, .table .header [])])
  | some (.table .ancestor inner) => some (replaceEntry name (.table .header inner) entries)
  | some _ => none

def openElement (name : String) : Change := fun _ entries =>
  match Keyed.lookup? name entries with
  | none => some (entries ++ [(name, .tables [[]])])
  | some (.tables elements) => some (replaceEntry name (.tables (elements ++ [[]])) entries)
  | some _ => none

inductive Statement
  | assignment (key : Key) (value : Toml)
  | tableHeader (key : Key)
  | elementHeader (key : Key)
  deriving Repr, BEq

structure Progress where
  entries : Entries
  current : List String
  deriving Repr

def Progress.apply (progress : Progress) : Statement → Option Progress
  | .assignment key value => do
      let entries ← changeAt .ancestor (assign key value) progress.current .header progress.entries
      return { progress with entries }
  | .tableHeader key => do
      let entries ← changeAt .ancestor (openTable key.name) key.path .header progress.entries
      return { entries, current := key.path ++ [key.name] }
  | .elementHeader key => do
      let entries ← changeAt .ancestor (openElement key.name) key.path .header progress.entries
      return { entries, current := key.path ++ [key.name] }

def ofStatements? (statements : List Statement) : Option Toml := do
  let progress ← statements.foldlM Progress.apply ⟨[], []⟩
  return .table .header progress.entries

def ofAssignments? (assignments : List (Key × Toml)) : Option Toml := do
  let entries ← assignments.foldlM
    (fun entries assignment => assign assignment.1 assignment.2 .inline entries) []
  return .table .inline entries

end Toml

end BearerProxy
