/-!
# Documents

The common shape of configuration files, group files and reply bodies after reading: a tree
of null, booleans, numbers, texts, lists and objects.

A text may break off or be malformed anywhere, and yet the reader of a value must report the
first fault that it meets in reading order, whether that is a fault of the text or a value of
the wrong type.  So a tree keeps its faults in place.  A value that somebody asks for and a
value that is passed over are checked by different rules: a `Flaw` records the fault for both.
-/

namespace GroupSync

namespace Document

inductive Fault where
  | endInValue
  | endInList
  | endInObject
  | endInString
  | expectedValue
  | expectedWord
  | expectedColon
  | expectedCommaOrBracket
  | expectedCommaOrBrace
  | trailingComma
  | trailingCharacters
  | keyNotString
  | invalidNumber
  | numberOutOfRange
  | invalidEscape
  | unpairedEscapeEnds
  | unpairedEscape
  | controlCharacter
deriving DecidableEq, Repr

namespace Fault

def message : Fault → String
  | endInValue => "EOF while parsing a value"
  | endInList => "EOF while parsing a list"
  | endInObject => "EOF while parsing an object"
  | endInString => "EOF while parsing a string"
  | expectedValue => "expected value"
  | expectedWord => "expected ident"
  | expectedColon => "expected `:`"
  | expectedCommaOrBracket => "expected `,` or `]`"
  | expectedCommaOrBrace => "expected `,` or `\x7d`"
  | trailingComma => "trailing comma"
  | trailingCharacters => "trailing characters"
  | keyNotString => "key must be a string"
  | invalidNumber => "invalid number"
  | numberOutOfRange => "number out of range"
  | invalidEscape => "invalid escape"
  | unpairedEscapeEnds => "unexpected end of hex escape"
  | unpairedEscape => "lone leading surrogate in hex escape"
  | controlCharacter => "control character (\\u0000-\\u001F) found while parsing a string"

end Fault

/-- A fault as met by somebody who asks for the value, and as met by somebody who passes over
it; the latter may get past it. -/
structure Flaw where
  /-- What is reported when the value is asked for. -/
  decoding : Fault
  /-- What is reported when the value is passed over, if that fails. -/
  skipping : Option Fault
deriving DecidableEq, Repr

namespace Flaw

def common (fault : Fault) : Flaw :=
  ⟨fault, some fault⟩

/-- A fault that is met only by somebody who asks for the value. -/
def whenDecoded (fault : Fault) : Flaw :=
  ⟨fault, none⟩

end Flaw

/-- A document tree.  A list or object that breaks off carries the flaw at its end; its items
stand in the order of the text.  A floating-point number is kept as its diagnostic text. -/
inductive Node where
  | null
  | boolean (value : Bool)
  | integer (value : Int)
  | float (text : String)
  | string (value : String)
  | list (items : List Node) (ending : Option Flaw)
  | object (members : List (Node × Node)) (ending : Option Flaw)
  | flawed (flaw : Flaw)
deriving Inhabited

namespace Node

mutual

/-- The first fault that somebody meets who passes over a value. -/
def skipFault? : Node → Option Fault
  | flawed flaw => flaw.skipping
  | list items ending =>
      match skipItems items with
      | some fault => some fault
      | none => ending.bind Flaw.skipping
  | object members ending =>
      match skipMembers members with
      | some fault => some fault
      | none => ending.bind Flaw.skipping
  | _ => none

def skipItems : List Node → Option Fault
  | [] => none
  | item :: items =>
      match skipFault? item with
      | some fault => some fault
      | none => skipItems items

def skipMembers : List (Node × Node) → Option Fault
  | [] => none
  | (key, value) :: members =>
      match skipFault? key with
      | some fault => some fault
      | none =>
          match skipFault? value with
          | some fault => some fault
          | none => skipMembers members

end

end Node

end Document

end GroupSync
