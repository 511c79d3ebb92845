import GroupSync.Document.Node
import GroupSync.Text.Ascii
import GroupSync.Text.Utf8

/-!
# Strings of JSON texts

A string is first cut into pieces, characters and escapes, up to its closing quote or to the
place where it cannot go on.  Decoding joins the escapes of surrogate pairs.  Somebody who
passes over the string asks only that the pieces are well formed one by one.
-/

namespace GroupSync

namespace Document

namespace JsonString

/-- A piece of a string: a character, or an escape that gives a 16-bit unit. -/
inductive Piece where
  | character (value : Char)
  | unit (value : Nat)
deriving DecidableEq, Repr

/-- How the pieces of a string end. -/
inductive Ending where
  | closed
  | cutOff
  /-- With a backslash at the end of the text. -/
  | cutOffInEscape
  /-- With a backslash before a character that makes no escape. -/
  | strayEscape
  /-- With the beginning of a numeric escape, at the end of the text or before characters that
  are no hexadecimal digits. -/
  | brokenUnit (fault : Fault)
  | control
deriving DecidableEq, Repr

namespace Ending

def fault? : Ending → Option Fault
  | closed => none
  | cutOff => some .endInString
  | cutOffInEscape => some .endInString
  | strayEscape => some .invalidEscape
  | brokenUnit fault => some fault
  | control => some .controlCharacter

end Ending

def simpleEscape? (letter : Char) : Option Char :=
  match letter with
  | '"' => some '"'
  | '\\' => some '\\'
  | '/' => some '/'
  | 'b' => some '\x08'
  | 'f' => some '\x0c'
  | 'n' => some '\n'
  | 'r' => some '\r'
  | 't' => some '\t'
  | _ => none

def unitOf? (first second third fourth : Char) : Option Nat :=
  Text.numeralValue? 16 [first, second, third, fourth]

/-- The fault of a numeric escape without four hexadecimal digits: the text ends first when
fewer than four bytes are left. -/
def brokenUnitFault (rest : List Char) : Fault :=
  if Text.utf8Length (rest.take 4) < 4 then .endInString else .invalidEscape

/-- Cut a string into its pieces, behind its opening quote. -/
def pieces : List Char → List Piece × Ending × List Char
  | [] => ([], .cutOff, [])
  | '"' :: rest => ([], .closed, rest)
  | '\\' :: [] => ([], .cutOffInEscape, [])
  | '\\' :: 'u' :: first :: second :: third :: fourth :: rest =>
      match unitOf? first second third fourth with
      | some value =>
          let (following, ending, rest) := pieces rest
          (.unit value :: following, ending, rest)
      | none => ([], .brokenUnit .invalidEscape, [])
  | '\\' :: 'u' :: rest => ([], .brokenUnit (brokenUnitFault rest), [])
  | '\\' :: letter :: rest =>
      match simpleEscape? letter with
      | some value =>
          let (following, ending, rest) := pieces rest
          (.character value :: following, ending, rest)
      | none => ([], .strayEscape, [])
  | character :: rest =>
      if character.toNat < 0x20 then ([], .control, [])
      else
        let (following, ending, rest) := pieces rest
        (.character character :: following, ending, rest)

/-- A unit is the first half of a surrogate pair. -/
def isLeading (unit : Nat) : Bool :=
  0xD800 ≤ unit && unit ≤ 0xDBFF

/-- A unit is the second half of a surrogate pair. -/
def isTrailing (unit : Nat) : Bool :=
  0xDC00 ≤ unit && unit ≤ 0xDFFF

def pairCharacter (leading trailing : Nat) : Char :=
  Char.ofNat ((leading - 0xD800) * 0x400 + (trailing - 0xDC00) + 0x10000)

/-- The fault of a leading surrogate after which the string ends. -/
def afterLeading : Ending → Fault
  | .cutOff => .endInString
  | .cutOffInEscape => .endInString
  | .brokenUnit fault => fault
  | _ => .unpairedEscapeEnds

/-- Join the pieces of a string, or report the first escape that belongs to no pair. -/
def join (ending : Ending) : List Piece → Except Fault (List Char)
  | [] => .ok []
  | .character value :: rest => do
      let characters ← join ending rest
      return value :: characters
  | .unit value :: rest =>
      if isTrailing value then .error .unpairedEscape
      else if isLeading value then
        match rest with
        | .unit second :: rest =>
            if isTrailing second then do
              let characters ← join ending rest
              return pairCharacter value second :: characters
            else .error .unpairedEscape
        | .character _ :: _ => .error .unpairedEscapeEnds
        | [] => .error (afterLeading ending)
      else do
        let characters ← join ending rest
        return Char.ofNat value :: characters

def nodeOf (pieces : List Piece) (ending : Ending) : Node :=
  match join ending pieces, ending.fault? with
  | .ok characters, none => .string (String.ofList characters)
  | .ok _, some fault => .flawed (.common fault)
  | .error fault, skipping => .flawed ⟨fault, skipping⟩

def read (text : List Char) : Node × List Char :=
  let (parts, ending, rest) := pieces text
  (nodeOf parts ending, rest)

end JsonString

end Document

end GroupSync
