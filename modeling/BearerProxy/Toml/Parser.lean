import BearerProxy.Toml.Scalar

/-!
Reading TOML documents, version 1.0: a document is a series of statements, which together build one
table. Arrays and tables in braces may be nested 79 deep, and a dotted key may have 79 parts.
-/

namespace BearerProxy.Toml

def nestingLimit : Nat := 79

/-! Keys. -/

def isBareCharacter (character : Char) : Bool :=
  character.isAlpha || character.isDigit || character == '_' || character == '-'

def readKeyPart? : Reader String
  | '"' :: rest => readBasic? [] rest
  | '\'' :: rest => readLiteral? rest
  | characters =>
      let (name, rest) := characters.span isBareCharacter
      if name.isEmpty then none else some (String.ofList name, rest)

def readKeyParts? : Nat → Reader (List String)
  | 0, _ => none
  | limit + 1, characters => do
      let (part, rest) ← readKeyPart? (skipBlanks characters)
      match skipBlanks rest with
      | '.' :: rest =>
          let (parts, rest) ← readKeyParts? limit rest
          return (part :: parts, rest)
      | rest => return ([part], rest)

def readKey? (characters : List Char) : Option (Key × List Char) := do
  let (parts, rest) ← readKeyParts? nestingLimit characters
  let name ← parts.getLast?
  return (⟨parts.dropLast, name⟩, rest)

/-! Values. -/

def readAssignment? (readValue : Reader Toml) (characters : List Char) :
    Option ((Key × Toml) × List Char) := do
  let (key, rest) ← readKey? characters
  let rest ← Text.expect? '=' rest
  let (value, rest) ← readValue (skipBlanks rest)
  return ((key, value), rest)

def readItems? (readValue : Reader Toml) (read : List Toml) : Nat → Reader (List Toml)
  | 0, _ => none
  | limit + 1, characters => do
      match ← skipFill? false characters with
      | ']' :: rest => return (read.reverse, rest)
      | characters =>
          let (item, rest) ← readValue characters
          match ← skipFill? false rest with
          | ',' :: rest => readItems? readValue (item :: read) limit rest
          | ']' :: rest => return ((item :: read).reverse, rest)
          | _ => none

def readAssignments? (readValue : Reader Toml) (read : List (Key × Toml)) :
    Nat → Reader (List (Key × Toml))
  | 0, _ => none
  | limit + 1, characters => do
      let (assignment, rest) ← readAssignment? readValue characters
      match skipBlanks rest with
      | ',' :: rest => readAssignments? readValue (assignment :: read) limit rest
      | '\x7d' :: rest => return ((assignment :: read).reverse, rest)
      | _ => none

def readInlineTable? (readValue : Reader Toml) (limit : Nat) (characters : List Char) :
    Option (Toml × List Char) :=
  match skipBlanks characters with
  | '\x7d' :: rest => some (.table .inline [], rest)
  | characters => do
      let (assignments, rest) ← readAssignments? readValue [] limit characters
      return (← ofAssignments? assignments, rest)

/-- A value whose collections are nested at most `depth` deep and have at most `limit` items each. -/
def readValue? (limit : Nat) : (depth : Nat) → Reader Toml
  | depth, characters =>
      match characters, depth with
      | '[' :: rest, depth + 1 => do
          let (items, rest) ← readItems? (readValue? limit depth) [] limit rest
          return (.array items, rest)
      | '\x7b' :: rest, depth + 1 => readInlineTable? (readValue? limit depth) limit rest
      | '"' :: _, _ => (readString? characters).map fun (text, rest) => (.string text, rest)
      | '\'' :: _, _ => (readString? characters).map fun (text, rest) => (.string text, rest)
      | _, _ => readScalar? characters

/-! Statements. -/

def readHeader? : Reader Statement
  | '[' :: '[' :: rest => do
      let (key, rest) ← readKey? rest
      return (.elementHeader key, ← Text.expect? ']' (← Text.expect? ']' rest))
  | '[' :: rest => do
      let (key, rest) ← readKey? rest
      return (.tableHeader key, ← Text.expect? ']' rest)
  | _ => none

def readStatement? (limit : Nat) (characters : List Char) : Option (Statement × List Char) := do
  let (statement, rest) ←
    if characters.head? = some '[' then readHeader? characters
    else
      (readAssignment? (readValue? limit nestingLimit) characters).map fun (assignment, rest) =>
        (.assignment assignment.1 assignment.2, rest)
  return (statement, ← finishLine? rest)

def readStatements? (size : Nat) : (limit : Nat) → List Char → Option (List Statement)
  | 0, _ => none
  | limit + 1, characters =>
      match skipBlanks characters with
      | [] => some []
      | characters =>
          match finishLine? characters with
          | some rest => readStatements? size limit rest
          | none => do
              let (statement, rest) ← readStatement? size characters
              return statement :: (← readStatements? size limit rest)

/-- The table that a document describes. A byte order mark may stand in front. -/
def parse? (document : String) : Option Toml :=
  let characters :=
    match document.toList with
    | '\ufeff' :: rest => rest
    | characters => characters
  (readStatements? characters.length (characters.length + 1) characters).bind ofStatements?

end BearerProxy.Toml
