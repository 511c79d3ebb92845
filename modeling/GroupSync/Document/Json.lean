import GroupSync.Document.Decoder
import GroupSync.Document.JsonNumber
import GroupSync.Document.JsonString

/-!
# Reading JSON texts

The tree of a JSON text.  Reading goes from left to right and stops at the first fault that
cannot be passed over; the tree then ends in a flaw at that place.  The depth of nesting is
limited by the length of the text only, which serves as the measure of the recursion.
-/

namespace GroupSync

namespace Document

namespace Json

def isSpace (character : Char) : Bool :=
  character == ' ' || character == '\n' || character == '\t' || character == '\r'

def skipSpace (text : List Char) : List Char :=
  text.dropWhile isSpace

/-- A node together with the text behind it, or without it if the reading stops. -/
abbrev Reading := Node × Option (List Char)

def stopped (flaw : Flaw) : Reading :=
  (.flawed flaw, none)

/-- Reading goes on behind a leaf unless the leaf cannot be passed over. -/
def leaf (node : Node) (rest : List Char) : Reading :=
  match node.skipFault? with
  | none => (node, some rest)
  | some _ => (node, none)

def readWord (word : List Char) (node : Node) (text : List Char) : Reading :=
  match word, text with
  | [], rest => (node, some rest)
  | _ :: _, [] => stopped (.common .endInValue)
  | expected :: word, found :: rest =>
      if expected == found then readWord word node rest else stopped (.common .expectedWord)

/-- The flaw of an object that ends behind a comma: a missing value to somebody who decodes
it, an open object to somebody who passes over it. -/
def endBehindComma : Flaw :=
  ⟨.endInValue, some .endInObject⟩

def commaBeforeBracket : Flaw :=
  ⟨.trailingComma, some .expectedValue⟩

def commaBeforeBrace : Flaw :=
  ⟨.trailingComma, some .keyNotString⟩

mutual

def readValue : Nat → List Char → Reading
  | 0, _ => stopped (.common .endInValue)
  | fuel + 1, text =>
      match skipSpace text with
      | [] => stopped (.common .endInValue)
      | 'n' :: rest => readWord ['u', 'l', 'l'] .null rest
      | 't' :: rest => readWord ['r', 'u', 'e'] (.boolean true) rest
      | 'f' :: rest => readWord ['a', 'l', 's', 'e'] (.boolean false) rest
      | '"' :: rest =>
          let (node, rest) := JsonString.read rest
          leaf node rest
      | '-' :: rest =>
          let (node, rest) := JsonNumber.read true rest
          leaf node rest
      | '[' :: rest =>
          let (items, ending, rest) := readItems fuel rest
          (.list items ending, rest)
      | '\x7b' :: rest =>
          let (members, ending, rest) := readMembers fuel rest
          (.object members ending, rest)
      | digit :: rest =>
          if digit.isDigit then
            let (node, rest) := JsonNumber.read false (digit :: rest)
            leaf node rest
          else stopped (.common .expectedValue)

/-- Read the items of a list behind its opening bracket. -/
def readItems : Nat → List Char → List Node × Option Flaw × Option (List Char)
  | 0, _ => ([], some (.common .endInList), none)
  | fuel + 1, text =>
      match skipSpace text with
      | [] => ([], some (.common .endInList), none)
      | ']' :: rest => ([], none, some rest)
      | text => readItem fuel text

def readItem : Nat → List Char → List Node × Option Flaw × Option (List Char)
  | 0, _ => ([], some (.common .endInList), none)
  | fuel + 1, text =>
      match readValue fuel text with
      | (item, none) => ([item], none, none)
      | (item, some rest) =>
          let (items, ending, rest) := readMoreItems fuel rest
          (item :: items, ending, rest)

def readMoreItems : Nat → List Char → List Node × Option Flaw × Option (List Char)
  | 0, _ => ([], some (.common .endInList), none)
  | fuel + 1, text =>
      match skipSpace text with
      | [] => ([], some (.common .endInList), none)
      | ']' :: rest => ([], none, some rest)
      | ',' :: rest =>
          match skipSpace rest with
          | ']' :: _ => ([], some commaBeforeBracket, none)
          | rest => readItem fuel rest
      | _ => ([], some (.common .expectedCommaOrBracket), none)

/-- Read the members of an object behind its opening brace. -/
def readMembers : Nat → List Char → List (Node × Node) × Option Flaw × Option (List Char)
  | 0, _ => ([], some (.common .endInObject), none)
  | fuel + 1, text =>
      match skipSpace text with
      | [] => ([], some (.common .endInObject), none)
      | '\x7d' :: rest => ([], none, some rest)
      | '"' :: rest => readMember fuel rest
      | _ => ([], some (.common .keyNotString), none)

/-- Read a member of an object, behind the opening quote of its key, and what follows it. -/
def readMember : Nat → List Char → List (Node × Node) × Option Flaw × Option (List Char)
  | 0, _ => ([], some (.common .endInObject), none)
  | fuel + 1, text =>
      let (key, rest) := JsonString.read text
      match leaf key rest with
      | (key, none) => ([(key, key)], none, none)
      | (key, some rest) =>
          match skipSpace rest with
          | ':' :: rest =>
              match readValue fuel rest with
              | (value, none) => ([(key, value)], none, none)
              | (value, some rest) =>
                  let (members, ending, rest) := readMoreMembers fuel rest
                  ((key, value) :: members, ending, rest)
          | [] => ([(key, .flawed (.common .endInObject))], none, none)
          | _ => ([(key, .flawed (.common .expectedColon))], none, none)

def readMoreMembers : Nat → List Char → List (Node × Node) × Option Flaw × Option (List Char)
  | 0, _ => ([], some (.common .endInObject), none)
  | fuel + 1, text =>
      match skipSpace text with
      | [] => ([], some (.common .endInObject), none)
      | '\x7d' :: rest => ([], none, some rest)
      | ',' :: rest =>
          match skipSpace rest with
          | '"' :: rest => readMember fuel rest
          | '\x7d' :: _ => ([], some commaBeforeBrace, none)
          | [] => ([], some endBehindComma, none)
          | _ => ([], some (.common .keyNotString), none)
      | _ => ([], some (.common .expectedCommaOrBrace), none)

end

/-- Read a text from its first character on; every call of the readers leaves less than three
further calls before the next character is consumed. -/
def read (text : List Char) : Reading :=
  readValue (3 * text.length + 3) text

/-- Decode a whole JSON text: the value first, then the demand that nothing follows it. -/
def decode {α : Type} (ask : Node → Decoded α) (text : String) : Decoded α := do
  let (node, rest) := read text.toList
  let value ← ask node
  match rest with
  | none => return value
  | some rest =>
      if (skipSpace rest).isEmpty then return value
      else .error (.fault .trailingCharacters)

end Json

end Document

end GroupSync
