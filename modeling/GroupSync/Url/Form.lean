import GroupSync.Text.Utf8
import GroupSync.Url.PercentEncoding

/-!
# Forms

Pairs of names and values as the text of a form body.  Letters, digits and four signs stand for
themselves, a blank is written as a plus sign and every other byte in percent encoding; pairs
are separated by ampersands, and an equals sign separates a name from its value.
-/

namespace GroupSync

namespace Url

namespace Form

/-- A character that stands for itself. -/
def isPlain (character : Char) : Bool :=
  character.isAlphanum || ['*', '-', '.', '_'].contains character

def encodeChar (character : Char) : List Char :=
  if isPlain character then [character]
  else if character == ' ' then ['+']
  else (String.utf8EncodeChar character).flatMap encodeByte

def encodeText (text : List Char) : List Char :=
  text.flatMap encodeChar

def encodePair (pair : List Char × List Char) : List Char :=
  encodeText pair.1 ++ '=' :: encodeText pair.2

def encode (pairs : List (List Char × List Char)) : List Char :=
  ['&'].intercalate (pairs.map encodePair)

def decodeText (form : List Char) : List Char :=
  let spaced := form.map fun character => if character == '+' then ' ' else character
  Text.decodeUtf8Lossy (percentDecode (Text.utf8Bytes spaced))

/-- The pair of a form; without an equals sign the value is empty. -/
def decodePair (form : List Char) : List Char × List Char :=
  (decodeText (form.takeWhile (· != '=')), decodeText ((form.dropWhile (· != '=')).drop 1))

/-- The pairs of a form body; empty pairs are passed over. -/
def decode (form : List Char) : List (List Char × List Char) :=
  ((form.splitOn '&').filter fun pair => !pair.isEmpty).map decodePair

end Form

end Url

end GroupSync
