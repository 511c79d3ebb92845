import GroupSync.Text.Ascii
import GroupSync.Text.Unmarked

/-!
# Quoted texts

The form in which diagnostics show a text: between double quotes, with the quote and the
backslash escaped, the usual control characters by their letters and every other character
without a mark by its number in braces.
-/

namespace GroupSync

namespace Text

def quoteChar (character : Char) : List Char :=
  if character == '"' then ['\\', '"']
  else if character == '\\' then ['\\', '\\']
  else if character == '\n' then ['\\', 'n']
  else if character == '\r' then ['\\', 'r']
  else if character == '\t' then ['\\', 't']
  else if character == '\x00' then ['\\', '0']
  else if isUnmarked character then
    "\\u\x7b".toList ++ (numeral 16 character.toNat).toList ++ ['\x7d']
  else [character]

/-- A text in the form in which diagnostics show it. -/
def quoted (text : String) : String :=
  String.ofList ('"' :: text.toList.flatMap quoteChar ++ ['"'])

def quotedList (texts : List String) : String :=
  "[" ++ ", ".intercalate (texts.map quoted) ++ "]"

end Text

end GroupSync
