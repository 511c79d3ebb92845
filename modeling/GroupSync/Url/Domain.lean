import GroupSync.Text.Composition
import GroupSync.Text.Direction
import GroupSync.Text.Utf8
import GroupSync.Url.Domain.Mapping
import GroupSync.Url.PercentEncoding
import GroupSync.Url.Punycode

/-!
# Domain names

The ASCII form of a domain name.  Characters are folded and composed, labels outside ASCII are
written in their encoded form, and labels that are written in that form already are decoded and
held to the same rules.  A name of ASCII characters without encoded labels is only folded.
-/

namespace GroupSync

namespace Url

namespace Domain

open Text

/-- The form of a character in a run of characters that are replaced one by one. -/
def shifted? (character : Char) : Option Char :=
  (shiftedTable.find? fun entry =>
    match entry with
    | [first, last, step, _] =>
        first ≤ character.toNat && character.toNat ≤ last &&
          (character.toNat - first) % step == 0
    | _ => false).bind fun entry =>
      match entry with
      | [first, _, _, form] => some (Char.ofNat (form + (character.toNat - first)))
      | _ => none

/-- The folded form of a character; `none` if it may not occur. -/
def foldChar? (character : Char) : Option (List Char) :=
  if character.toNat < 0x80 then some [character.toLower]
  else if disallowedTable.covers character then none
  else if droppedTable.covers character then some []
  else
    match shifted? character with
    | some form => some [form]
    | none =>
        match replacedTable.row? character with
        | some codes => some (codes.map Char.ofNat)
        | none =>
            match expandedTable.row? character with
            | some codes => some (codes.map Char.ofNat)
            | none => some [character]

/-- The folded and composed form of a name. -/
def fold? (name : List Char) : Option (List Char) := do
  let folded ← name.mapM foldChar?
  return compose folded.flatten

/-- A joiner must follow a mark that silences a vowel. -/
def joinersAllowed : Option Char → List Char → Bool
  | _, [] => true
  | before, character :: rest =>
      (if character.toNat == 0x200C || character.toNat == 0x200D then
        before.any fun mark => Composition.combiningClass mark == 9
      else true) && joinersAllowed (some character) rest

/-- A label outside ASCII in its folded form is one that may occur. -/
def labelAllowed (label : List Char) : Bool :=
  !(label.head?.any Composition.isMark) && joinersAllowed none label

/-- The mark at the head of an encoded label. -/
def encodedMark : List Char :=
  "xn--".toList

/-- The characters of an encoded label behind its mark: they must include one outside ASCII,
and folding must not change them. -/
def decodeLabel? (encoded : List Char) : Option (List Char) := do
  let label ← Punycode.decode? encoded
  let folded ← fold? label
  if folded = label && (label.any fun character => 0x80 ≤ character.toNat) &&
      labelAllowed label then
    some label
  else none

/-- A label with its ASCII form and the characters that it stands for. -/
structure Label where
  ascii : List Char
  characters : List Char

def readLabel? (text : List Char) : Option Label :=
  if encodedMark.isPrefixOf text then
    (decodeLabel? (text.drop encodedMark.length)).map fun characters => ⟨text, characters⟩
  else if text.all fun character => character.toNat < 0x80 then some ⟨text, text⟩
  else if labelAllowed text then some ⟨encodedMark ++ Punycode.encode text, text⟩
  else none

def joinLabels (labels : List (List Char)) : List Char :=
  ['.'].intercalate labels

/-- A name of mixed direction has only unambiguous labels. -/
def directionsAllowed (labels : List Label) : Bool :=
  !(labels.any fun label => label.characters.any fun character =>
      (Direction.ofChar character).isMixed) ||
    labels.all fun label => Direction.labelAllowed label.characters

/-- The name is in ASCII and has no encoded labels. -/
def isPlain (name : List Char) : Bool :=
  (name.all fun character => character.toNat < 0x80) &&
    (name.splitOn '.').all fun label => !encodedMark.isPrefixOf (label.map Char.toLower)

def ascii? (name : List Char) : Option (List Char) :=
  if isPlain name then some (name.map Char.toLower)
  else do
    let folded ← fold? name
    let labels ← (folded.splitOn '.').mapM readLabel?
    if directionsAllowed labels then some (joinLabels (labels.map Label.ascii)) else none

/-- A character that may not stand in the ASCII form of a name. -/
def isForbidden (character : Char) : Bool :=
  character.toNat ≤ 0x20 || character.toNat == 0x7F ||
    ['#', '/', ':', '<', '>', '?', '@', '[', '\\', ']', '^', '|', '%'].contains character

/-- The name that a host stands for, after its percent signs are decoded. -/
def ofHost? (host : List Char) : Option (List Char) := do
  let decoded ← decodeUtf8? (percentDecode (utf8Bytes host))
  let name ← ascii? decoded
  if name.any isForbidden then none else some name

end Domain

end Url

end GroupSync
