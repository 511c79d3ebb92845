/-!
# Blank characters

The characters that carry the Unicode property `White_Space`, and the removal of
blanks from the two ends of a text.  Settings, header values and reply bodies are
trimmed by this one rule.
-/

namespace GroupSync

namespace Text

/-- The Unicode property `White_Space`. -/
def isBlank (character : Char) : Bool :=
  let code := character.toNat
  (0x09 ≤ code && code ≤ 0x0D) || code == 0x20 || code == 0x85 || code == 0xA0 ||
    code == 0x1680 || (0x2000 ≤ code && code ≤ 0x200A) || code == 0x2028 ||
    code == 0x2029 || code == 0x202F || code == 0x205F || code == 0x3000

def stripChars (belongs : Char → Bool) (text : List Char) : List Char :=
  ((text.dropWhile belongs).reverse.dropWhile belongs).reverse

def trimChars (text : List Char) : List Char :=
  stripChars isBlank text

def trim (text : String) : String :=
  String.ofList (trimChars text.toList)

/-- A text is blank when nothing is left of it after trimming. -/
def isBlankText (text : String) : Bool :=
  text.toList.all isBlank

end Text

end GroupSync
