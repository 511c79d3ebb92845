import GroupSync.Document.Node
import GroupSync.Text.Ascii

/-!
# Writing JSON texts

The compact text of a document tree: no blanks, members in the order of the tree, and escapes
only for the quote, the backslash and the control characters below the space.
-/

namespace GroupSync

namespace Document

namespace Json

def escapeChar (character : Char) : List Char :=
  if character == '"' then ['\\', '"']
  else if character == '\\' then ['\\', '\\']
  else if character == '\x08' then ['\\', 'b']
  else if character == '\x0c' then ['\\', 'f']
  else if character == '\n' then ['\\', 'n']
  else if character == '\r' then ['\\', 'r']
  else if character == '\t' then ['\\', 't']
  else if character.toNat < 0x20 then
    ['\\', 'u', '0', '0', Text.hexDigit (character.toNat / 16),
      Text.hexDigit (character.toNat % 16)]
  else [character]

def stringChars (text : String) : List Char :=
  '"' :: (text.toList.flatMap escapeChar ++ ['"'])

mutual

/-- The compact text of a tree.  What a flaw stands for has no text. -/
def chars : Node → List Char
  | .null => ['n', 'u', 'l', 'l']
  | .boolean true => ['t', 'r', 'u', 'e']
  | .boolean false => ['f', 'a', 'l', 's', 'e']
  | .integer value => (toString value).toList
  | .float text => text.toList
  | .string value => stringChars value
  | .list items _ => '[' :: (itemChars items ++ [']'])
  | .object members _ => '\x7b' :: (memberChars members ++ ['\x7d'])
  | .flawed _ => []

def itemChars : List Node → List Char
  | [] => []
  | item :: [] => chars item
  | item :: next :: items => chars item ++ ',' :: itemChars (next :: items)

def memberChars : List (Node × Node) → List Char
  | [] => []
  | (key, value) :: [] => chars key ++ ':' :: chars value
  | (key, value) :: next :: members =>
      chars key ++ ':' :: (chars value ++ ',' :: memberChars (next :: members))

end

def render (node : Node) : String :=
  String.ofList (chars node)

end Json

namespace Node

/-- A list without a flaw. -/
def ofList (items : List Node) : Node :=
  .list items none

/-- An object without a flaw whose keys are given as texts. -/
def ofMembers (members : List (String × Node)) : Node :=
  .object (members.map fun member => (.string member.1, member.2)) none

def ofStrings (texts : List String) : Node :=
  ofList (texts.map .string)

end Node

end Document

end GroupSync
