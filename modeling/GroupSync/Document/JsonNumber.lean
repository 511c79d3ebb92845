import GroupSync.Document.Node
import GroupSync.Number.FloatText

/-!
# Numbers of JSON texts

A numeral without fraction and exponent that fits 64 bits is an integer; minus zero, a numeral
with a fraction or an exponent and one that is too long is a floating-point number.  The
significant digits are collected as long as they fit 64 bits, and what is left is scaled by
one power of ten at a time, so the last bit of a long numeral follows this arithmetic.
-/

namespace GroupSync

namespace Document

namespace JsonNumber

def greatestSignificand : Nat := 0xFFFFFFFFFFFFFFFF

/-- The greatest power of ten below the greatest double. -/
def greatestPower : Nat := 308

def powerOfTen (exponent : Nat) : Float :=
  Float.ofScientific 1 false exponent

/-- Scale a floating-point number by a power of ten; `none` if the result is too large.  Very
small scales are applied in steps. -/
def scale : Nat → Float → Int → Option Float
  | 0, value, _ => some value
  | steps + 1, value, exponent =>
      if exponent.natAbs ≤ greatestPower then
        if 0 ≤ exponent then
          let product := value * powerOfTen exponent.natAbs
          if product.isInf then none else some product
        else some (value / powerOfTen exponent.natAbs)
      else if value == 0.0 then some value
      else if 0 ≤ exponent then none
      else scale steps (value / powerOfTen greatestPower) (exponent + greatestPower)

/-- The node of a floating-point number given by its sign, its significant digits and a power
of ten. -/
def scaledNode (negative : Bool) (significand : Nat) (exponent : Int) : Node :=
  let value := (UInt64.ofNat significand).toFloat
  match scale (exponent.natAbs / greatestPower + 2) value exponent with
  | some value => .float (Number.floatText .mixed (if negative then -value else value))
  | none => .flawed (.whenDecoded .numberOutOfRange)

/-- The digits at the head of a text, as a number as far as it fits 64 bits, with the count of
the digits used and the count of those left out. -/
def collectDigits : List Char → Nat → Nat → Nat → Nat × Nat × Nat
  | [], total, used, dropped => (total, used, dropped)
  | digit :: rest, total, used, dropped =>
      if digit.isDigit then
        let longer := total * 10 + (digit.toNat - '0'.toNat)
        if dropped = 0 ∧ longer ≤ greatestSignificand then collectDigits rest longer (used + 1) 0
        else collectDigits rest total used (dropped + 1)
      else (total, used, dropped)

def afterDigits (text : List Char) : List Char :=
  text.dropWhile Char.isDigit

/-- The flaw of a numeral that lacks a digit: at the end of the text the value is missed, but
somebody who passes over it only sees a malformed number. -/
def missingDigit (rest : List Char) : Flaw :=
  if rest.isEmpty then ⟨.endInValue, some .invalidNumber⟩ else .common .invalidNumber

/-- The greatest exponent that is still counted. -/
def greatestCountedExponent : Nat := 0x7FFFFFFF

def hugeExponent (negative : Bool) (significand : Nat) (grows : Bool) : Node :=
  if significand ≠ 0 ∧ grows then .flawed (.whenDecoded .numberOutOfRange)
  else .float (if negative then "-0.0" else "0.0")

def digitsValue (digits : List Char) : Nat :=
  digits.foldl (fun total digit => total * 10 + (digit.toNat - '0'.toNat)) 0

/-- A power of ten kept within the range that is counted. -/
def clampExponent (exponent : Int) : Int :=
  max (-0x80000000) (min 0x7FFFFFFF exponent)

/-- Read the exponent of a numeral, behind its letter. -/
def readExponent (negative : Bool) (significand : Nat) (exponent : Int) (text : List Char) :
    Node × List Char :=
  let (grows, text) := match text with
    | '+' :: rest => (true, rest)
    | '-' :: rest => (false, rest)
    | rest => (true, rest)
  let digits := text.takeWhile Char.isDigit
  if digits.isEmpty then (.flawed (missingDigit text), text)
  else
    let value := digitsValue digits
    let node :=
      if greatestCountedExponent < value then hugeExponent negative significand grows
      else
        let change : Int := if grows then value else -(value : Int)
        scaledNode negative significand (clampExponent (exponent + change))
    (node, afterDigits text)

/-- Read what may follow the digits of a numeral that is a floating-point number. -/
def readScale (negative : Bool) (significand : Nat) (exponent : Int) (text : List Char) :
    Node × List Char :=
  match text with
  | 'e' :: rest => readExponent negative significand exponent rest
  | 'E' :: rest => readExponent negative significand exponent rest
  | rest => (scaledNode negative significand exponent, rest)

/-- The significand of a fraction: its digits are appended as long as the number fits. -/
def readFraction (negative : Bool) (significand : Nat) (exponent : Int) (text : List Char) :
    Node × List Char :=
  let (total, used, dropped) := collectDigits text significand 0 0
  if used + dropped = 0 then (.flawed (missingDigit text), text)
  else readScale negative total (exponent - used) (afterDigits text)

def integerNode (negative : Bool) (significand : Nat) : Node :=
  if negative then
    if significand = 0 then .float "-0.0"
    else if significand ≤ 0x8000000000000000 then .integer (-(significand : Int))
    else .float (Number.floatText .mixed (-(UInt64.ofNat significand).toFloat))
  else .integer significand

/-- Read what may follow the whole digits of a numeral. -/
def readTail (negative : Bool) (significand dropped : Nat) (text : List Char) :
    Node × List Char :=
  match text with
  | '.' :: rest => readFraction negative significand dropped rest
  | 'e' :: rest => readExponent negative significand dropped rest
  | 'E' :: rest => readExponent negative significand dropped rest
  | rest =>
      if dropped = 0 then (integerNode negative significand, rest)
      else (scaledNode negative significand dropped, rest)

/-- Read a numeral behind its sign.  A node with a flaw that cannot be passed over ends the
reading of the text. -/
def read (negative : Bool) (text : List Char) : Node × List Char :=
  match text with
  | '0' :: rest =>
      match rest with
      | [] => readTail negative 0 0 rest
      | next :: _ =>
          if next.isDigit then (.flawed (.common .invalidNumber), rest)
          else readTail negative 0 0 rest
  | digit :: _ =>
      if digit.isDigit then
        let (total, _, dropped) := collectDigits text 0 0 0
        readTail negative total dropped (afterDigits text)
      else (.flawed (.common .invalidNumber), text)
  | [] => (.flawed (missingDigit []), [])

end JsonNumber

end Document

end GroupSync
