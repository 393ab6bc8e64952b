import BearerProxy.Text

/-!
The texts of TOML documents: blanks and comments, and strings in their four forms. Control characters
other than tabs stand nowhere, and a line ends with a line feed or a carriage return and a line feed.
-/

namespace BearerProxy.Toml

abbrev Reader (α : Type) := List Char → Option (α × List Char)

def isBlank (character : Char) : Bool :=
  character == ' ' || character == '\t'

def skipBlanks (characters : List Char) : List Char :=
  characters.dropWhile isBlank

def isText (character : Char) : Bool :=
  character == '\t' || (0x20 ≤ character.toNat && character != '\x7f')

def lineEnd? : List Char → Option (List Char)
  | '\n' :: rest => some rest
  | '\r' :: '\n' :: rest => some rest
  | _ => none

def skipComment (characters : List Char) : List Char :=
  match characters with
  | '#' :: rest => rest.dropWhile isText
  | _ => characters

def finishLine? (characters : List Char) : Option (List Char) :=
  match skipComment (skipBlanks characters) with
  | [] => some []
  | rest => lineEnd? rest

/-- Skips blanks, line ends and comments between the items of an array. A comment must end with its
line. -/
def skipFill? (inComment : Bool) : List Char → Option (List Char)
  | [] => if inComment then none else some []
  | '\r' :: '\n' :: rest => skipFill? false rest
  | character :: rest =>
      if character == '\n' then skipFill? false rest
      else if inComment then
        if isText character then skipFill? true rest else none
      else if character == '#' then skipFill? true rest
      else if isBlank character then skipFill? false rest
      else some (character :: rest)

/-! Strings. The readers begin behind the opening quotes; `read` holds the characters so far, the last
one first. -/

def scalar? (code : Nat) : Option Char :=
  if code.isValidChar then some (Char.ofNat code) else none

def codeEscape? (digits : List Char) : Option Char :=
  (Text.valueOf? 16 digits).bind scalar?

def plainEscape? : Char → Option Char
  | 'b' => some '\x08'
  | 'f' => some '\x0c'
  | 'n' => some '\n'
  | 'r' => some '\r'
  | 't' => some '\t'
  | '"' => some '"'
  | '\\' => some '\\'
  | _ => none

def readBasic? (read : List Char) : Reader String
  | [] => none
  | '"' :: rest => some (String.ofList read.reverse, rest)
  | '\\' :: 'u' :: a :: b :: c :: d :: rest =>
      match codeEscape? [a, b, c, d] with
      | none => none
      | some character => readBasic? (character :: read) rest
  | '\\' :: 'U' :: a :: b :: c :: d :: e :: f :: g :: h :: rest =>
      match codeEscape? [a, b, c, d, e, f, g, h] with
      | none => none
      | some character => readBasic? (character :: read) rest
  | '\\' :: escape :: rest =>
      match plainEscape? escape with
      | none => none
      | some character => readBasic? (character :: read) rest
  | character :: rest =>
      if character != '\\' && isText character then readBasic? (character :: read) rest else none

def readLiteral? (characters : List Char) : Option (String × List Char) :=
  match characters.span fun character => isText character && character != '\'' with
  | (text, '\'' :: rest) => some (String.ofList text, rest)
  | _ => none

/-- The end of a string in triple quotes: up to two more quotes belong to the text. -/
def closeLong (quote : Char) (read rest : List Char) : String × List Char :=
  let extra := (rest.take 2).takeWhile (· == quote)
  (String.ofList (read.reverse ++ extra), rest.drop extra.length)

def endsLine (characters : List Char) : Bool :=
  (lineEnd? (skipBlanks characters)).isSome

/-- Reads a string between triple double quotes. A backslash at the end of a line joins it to the next
text; `joining` tells that blanks and line ends are skipped. -/
def readLongBasic? (joining : Bool) (read : List Char) : Reader String
  | [] => none
  | '"' :: '"' :: '"' :: rest => some (closeLong '"' read rest)
  | '\r' :: '\n' :: rest =>
      if joining then readLongBasic? true read rest else readLongBasic? false ('\n' :: read) rest
  | '\\' :: 'u' :: a :: b :: c :: d :: rest =>
      match codeEscape? [a, b, c, d] with
      | none => none
      | some character => readLongBasic? false (character :: read) rest
  | '\\' :: 'U' :: a :: b :: c :: d :: e :: f :: g :: h :: rest =>
      match codeEscape? [a, b, c, d, e, f, g, h] with
      | none => none
      | some character => readLongBasic? false (character :: read) rest
  | '\\' :: next :: rest =>
      if endsLine (next :: rest) then readLongBasic? true read (next :: rest)
      else
        match plainEscape? next with
        | none => none
        | some character => readLongBasic? false (character :: read) rest
  | character :: rest =>
      if joining && (isBlank character || character == '\n') then readLongBasic? true read rest
      else if character == '\n' || (character != '\\' && isText character) then
        readLongBasic? false (character :: read) rest
      else none

def readLongLiteral? (read : List Char) : Reader String
  | [] => none
  | '\'' :: '\'' :: '\'' :: rest => some (closeLong '\'' read rest)
  | '\r' :: '\n' :: rest => readLongLiteral? ('\n' :: read) rest
  | character :: rest =>
      if character == '\n' || isText character then readLongLiteral? (character :: read) rest
      else none

def dropFirstLineEnd (characters : List Char) : List Char :=
  (lineEnd? characters).getD characters

def readString? : Reader String
  | '"' :: '"' :: '"' :: rest => readLongBasic? false [] (dropFirstLineEnd rest)
  | '\'' :: '\'' :: '\'' :: rest => readLongLiteral? [] (dropFirstLineEnd rest)
  | '"' :: rest => readBasic? [] rest
  | '\'' :: rest => readLiteral? rest
  | _ => none

end BearerProxy.Toml
