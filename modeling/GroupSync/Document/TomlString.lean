import GroupSync.Text.Ascii

/-!
# Quoted texts of TOML texts

Texts between quotes or apostrophes, on one line or, between triple ones, on several.  Only
texts between quotes know escapes.  Each reader begins behind the opening sign and returns the
text together with what follows its closing sign.
-/

namespace GroupSync

namespace Document

namespace TomlString

/-- A control character that may not stand in a text or comment. -/
def isControl (character : Char) : Bool :=
  (character.toNat < 0x20 && character != '\t') || character.toNat == 0x7F

/-- The character of a code point in hexadecimal digits at the head of a text. -/
def readCode? (count : Nat) (text : List Char) : Option (Char × List Char) := do
  let digits := text.take count
  let code ← Text.numeralValue? 16 digits
  if digits.length = count && code.isValidChar then some (Char.ofNat code, text.drop count)
  else none

def readEscape? (text : List Char) : Option (Char × List Char) :=
  match text with
  | 'b' :: rest => some ('\x08', rest)
  | 't' :: rest => some ('\t', rest)
  | 'n' :: rest => some ('\n', rest)
  | 'f' :: rest => some ('\x0c', rest)
  | 'r' :: rest => some ('\r', rest)
  | 'e' :: rest => some ('\x1b', rest)
  | '"' :: rest => some ('"', rest)
  | '\\' :: rest => some ('\\', rest)
  | 'x' :: rest => readCode? 2 rest
  | 'u' :: rest => readCode? 4 rest
  | 'U' :: rest => readCode? 8 rest
  | _ => none

/-- The texts that quotes or apostrophes delimit. -/
abbrev Quoted := Option (List Char × List Char)

def push (character : Char) (quoted : Quoted) : Quoted :=
  quoted.map fun (text, rest) => (character :: text, rest)

def readBasic : Nat → List Char → Quoted
  | 0, _ => none
  | _ + 1, [] => none
  | fuel + 1, character :: rest =>
      if character == '"' then some ([], rest)
      else if character == '\\' then do
        let (escaped, rest) ← readEscape? rest
        push escaped (readBasic fuel rest)
      else if isControl character then none
      else push character (readBasic fuel rest)

def readLiteral : List Char → Quoted
  | [] => none
  | character :: rest =>
      if character == '\'' then some ([], rest)
      else if isControl character then none
      else push character (readLiteral rest)

def dropBreak (text : List Char) : List Char :=
  match text with
  | '\n' :: rest => rest
  | '\r' :: '\n' :: rest => rest
  | rest => rest

def isSpace (character : Char) : Bool :=
  character == ' ' || character == '\t'

/-- The text behind a backslash that ends its line, with all blanks and line breaks after it;
`none` if the line goes on. -/
def afterLineEnd? (text : List Char) : Option (List Char) :=
  let rest := text.dropWhile isSpace
  if dropBreak rest = rest then none
  else
    some (rest.dropWhile fun character =>
      isSpace character || character == '\n' || character == '\r')

/-- The text that closing signs at the head of a text leave over: three signs close a text, and
up to two further ones belong to it.  `none` if there are less than three. -/
def close? (sign : Char) (text : List Char) : Quoted :=
  let count := (text.takeWhile (· == sign)).length
  if count < 3 then none
  else
    let kept := min (count - 3) 2
    some (List.replicate kept sign, text.drop (kept + 3))

def readLongBasic : Nat → List Char → Quoted
  | 0, _ => none
  | _ + 1, [] => none
  | fuel + 1, character :: rest =>
      if character == '"' then
        match close? '"' (character :: rest) with
        | some closed => some closed
        | none => push character (readLongBasic fuel rest)
      else if character == '\\' then
        match afterLineEnd? rest with
        | some rest => readLongBasic fuel rest
        | none => do
            let (escaped, rest) ← readEscape? rest
            push escaped (readLongBasic fuel rest)
      else if character == '\n' then push character (readLongBasic fuel rest)
      else if character == '\r' && rest.head? = some '\n' then readLongBasic fuel rest
      else if isControl character then none
      else push character (readLongBasic fuel rest)

def readLongLiteral : List Char → Quoted
  | [] => none
  | character :: rest =>
      if character == '\'' then
        match close? '\'' (character :: rest) with
        | some closed => some closed
        | none => push character (readLongLiteral rest)
      else if character == '\n' then push character (readLongLiteral rest)
      else if character == '\r' && rest.head? = some '\n' then readLongLiteral rest
      else if isControl character then none
      else push character (readLongLiteral rest)

/-- Read a quoted text on one line, as it may stand for a key; `none` if the text begins with
neither sign. -/
def readShort? (text : List Char) : Quoted :=
  match text with
  | '"' :: rest => readBasic (rest.length + 1) rest
  | '\'' :: rest => readLiteral rest
  | _ => none

def read? (text : List Char) : Quoted :=
  match text with
  | '"' :: '"' :: '"' :: rest => readLongBasic (rest.length + 1) (dropBreak rest)
  | '\'' :: '\'' :: '\'' :: rest => readLongLiteral (dropBreak rest)
  | text => readShort? text

end TomlString

end Document

end GroupSync
