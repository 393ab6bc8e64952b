import BearerProxy.Text
import BearerProxy.Url.CharacterFolding
import BearerProxy.Url.Composition
import BearerProxy.Url.Punycode

/-!
Domain names as URLs carry them: folded to small letters, with labels beyond ASCII in the form
`xn--…` of internationalised names. Length and hyphens are not restricted, and labels may be empty.

Beyond ASCII the rules are those of the common blocks only. The tables of folding, composition, marks, ignored and
disallowed characters leave out rarer scripts and unassigned code points; labels that mix directions of writing are
not told apart, and joiners are refused even where their neighbours would allow them. What is proved of names rests
on no more than this: in a name that is accepted no control character and no white space survives.
-/

namespace BearerProxy.Url.DomainName

def isForbidden (character : Char) : Bool :=
  character.toNat ≤ 0x20 || character.toNat == 0x7F ||
    ['%', '#', '/', ':', '<', '>', '?', '@', '[', '\\', ']', '^', '|'].contains character

def isIgnored (character : Char) : Bool :=
  let code := character.toNat
  code == 0xAD || code == 0x34F || code == 0x200B || code == 0x2060 || code == 0x2064 ||
    code == 0xFEFF || (0x180B ≤ code && code ≤ 0x180D) || (0xFE00 ≤ code && code ≤ 0xFE0F) ||
    (0xE0100 ≤ code && code ≤ 0xE01EF)

/-- Characters beyond ASCII that no name holds: controls, spaces, joiners, format characters, private
use and noncharacters. -/
def isDisallowed (character : Char) : Bool :=
  let code := character.toNat
  (0x80 ≤ code && code ≤ 0x9F) || Text.isBlank character || (0x200C ≤ code && code ≤ 0x200F) ||
    (0x202A ≤ code && code ≤ 0x202E) || (0x2066 ≤ code && code ≤ 0x206F) ||
    (0xE000 ≤ code && code ≤ 0xF8FF) || (0xFFF9 ≤ code && code ≤ 0xFFFF) ||
    (0xFDD0 ≤ code && code ≤ 0xFDEF) || 0xE0000 ≤ code || code % 0x10000 ≥ 0xFFFE

def isMark (character : Char) : Bool :=
  let code := character.toNat
  (0x300 ≤ code && code ≤ 0x36F) || (0x483 ≤ code && code ≤ 0x489) ||
    (0x591 ≤ code && code ≤ 0x5BD) || (0x610 ≤ code && code ≤ 0x61A) ||
    (0x64B ≤ code && code ≤ 0x65F) || (0x1AB0 ≤ code && code ≤ 0x1AFF) ||
    (0x1DC0 ≤ code && code ≤ 0x1DFF) || (0x20D0 ≤ code && code ≤ 0x20FF) ||
    (0x302A ≤ code && code ≤ 0x302F) || code == 0x3099 || code == 0x309A ||
    (0xFE20 ≤ code && code ≤ 0xFE2F)

def isAscii (character : Char) : Bool := character.toNat < 0x80

def foldName? (character : Char) : Option (List Char) :=
  if isAscii character then some [character.toLower]
  else if isIgnored character then some []
  else if isDisallowed character then none
  else some (foldCharacter character)

def encodedMark : List Char := ['x', 'n', '-', '-']

def isCanonicalLabel (label : List Char) : Bool :=
  label.all (fun character => foldName? character == some [character]) &&
    composeCharacters label == label &&
    !(label.head?.any isMark)

def encodeAsciiLabel? (label : List Char) : Option (List Char) :=
  match Text.dropPrefix? encodedMark label with
  | none => some label
  | some encoded => do
      let decoded ← Punycode.decode? encoded
      if !decoded.all isAscii && isCanonicalLabel decoded && Punycode.encode decoded == encoded then
        some label
      else none

def encodeLabel? (label : List Char) : Option (List Char) :=
  if label.all isAscii then encodeAsciiLabel? label
  else if isCanonicalLabel label && (Text.dropPrefix? encodedMark label).isNone then
    some (encodedMark ++ Punycode.encode label)
  else none

def toAscii? (name : List Char) : Option (List Char) := do
  let folded ← name.mapM foldName?
  let labels ← (Text.pieces '.' (composeCharacters folded.flatten)).mapM encodeLabel?
  let name := Text.joinPieces '.' labels
  if name.any isForbidden then none else some name

end BearerProxy.Url.DomainName
