import GroupSync.Document.JsonText
import GroupSync.Number.FloatText

/-!
# Simple values of TOML texts

Numbers, truth values and points in time, each as the whole text of a value.  Digits may be
grouped by single underscores.  An integer of any size is read; whether it fits is up to those
who ask for it.
-/

namespace GroupSync

namespace Document

namespace TomlScalar

/-- Digits without the underscores that group them; an underscore stands between two digits. -/
def ungroup? (isDigit : Char → Bool) (text : List Char) : Option (List Char) :=
  let groups := text.splitOn '_'
  if groups.all fun group => !group.isEmpty && group.all isDigit then some groups.flatten
  else none

def isDigitOf (base : Nat) (character : Char) : Bool :=
  (Text.hexValue? character).any (· < base)

/-- Digits of a decimal number before its point: a zero stands alone. -/
def wholeDigits? (text : List Char) : Option (List Char) := do
  let digits ← ungroup? Char.isDigit text
  if digits.head? = some '0' && 1 < digits.length then none else some digits

def splitSign (text : List Char) : Bool × List Char :=
  match text with
  | '-' :: rest => (true, rest)
  | '+' :: rest => (false, rest)
  | rest => (false, rest)

def signed (negative : Bool) (number : Nat) : Int :=
  if negative then -(number : Int) else number

/-- Read an integer in a base that is named by its mark. -/
def readMarkedInteger? (base : Nat) (text : List Char) : Option Int := do
  let digits ← ungroup? (isDigitOf base) text
  let number ← Text.numeralValue? base digits
  return number

def readInteger? (text : List Char) : Option Int :=
  match text with
  | '0' :: 'x' :: digits => readMarkedInteger? 16 digits
  | '0' :: 'o' :: digits => readMarkedInteger? 8 digits
  | '0' :: 'b' :: digits => readMarkedInteger? 2 digits
  | text => do
      let (negative, text) := splitSign text
      let digits ← wholeDigits? text
      let number ← Text.numeralValue? 10 digits
      return signed negative number

/-- An integer as a node; one that needs more than 128 bits is too large for everybody. -/
def integerNode (value : Int) : Node :=
  if -0x80000000000000000000000000000000 ≤ value &&
      value < 0x100000000000000000000000000000000 then .integer value
  else .flawed (.common .numberOutOfRange)

/-- The parts of a decimal number: the digits before and behind its point, and its exponent. -/
structure Decimal where
  whole : List Char
  fraction : List Char
  exponent : Int

def readExponent? (text : List Char) : Option Int := do
  let (negative, text) := splitSign text
  let digits ← ungroup? Char.isDigit text
  let number ← Text.numeralValue? 10 digits
  return signed negative number

/-- Read a decimal number without its sign; it has a point or an exponent. -/
def readDecimal? (text : List Char) : Option Decimal := do
  let isLetter := fun character : Char => character == 'e' || character == 'E'
  let mantissa := text.takeWhile fun character => !isLetter character
  let exponent ← match text.dropWhile fun character => !isLetter character with
    | [] => some none
    | _ :: digits => (readExponent? digits).map some
  let whole ← wholeDigits? (mantissa.takeWhile (· != '.'))
  let fraction ← match mantissa.dropWhile (· != '.') with
    | [] => some none
    | _ :: digits => (ungroup? Char.isDigit digits).map some
  if fraction.isNone && exponent.isNone then none
  else return ⟨whole, fraction.getD [], exponent.getD 0⟩

/-- The double nearest to a decimal number; `none` if it is too large. -/
def Decimal.toFloat? (decimal : Decimal) : Option Float :=
  let digits := decimal.whole ++ decimal.fraction
  let significand := (Text.numeralValue? 10 digits).getD 0
  let exponent := decimal.exponent - decimal.fraction.length
  let leading := exponent + (Nat.toDigits 10 significand).length
  if significand = 0 ∨ leading < -400 then some 0.0
  else if 400 < leading then none
  else
    let value := Float.ofScientific significand (exponent < 0) exponent.natAbs
    if value.isInf then none else some value

def floatNode (negative : Bool) (value : Float) : Node :=
  .float (Number.floatText .plain (if negative then -value else value))

def readFloat? (text : List Char) : Option Node :=
  let (negative, text) := splitSign text
  if text = ['i', 'n', 'f'] then some (.float (if negative then "-inf" else "inf"))
  else if text = ['n', 'a', 'n'] then some (.float "NaN")
  else
    (readDecimal? text).map fun decimal =>
      match decimal.toFloat? with
      | some value => floatNode negative value
      | none => .flawed (.common .numberOutOfRange)

/-- Read a number of exactly so many digits at the head of a text. -/
def takeNumber? (count : Nat) (text : List Char) : Option (Nat × List Char) :=
  let digits := text.take count
  if digits.length = count && digits.all Char.isDigit then
    (Text.numeralValue? 10 digits).map fun number => (number, text.drop count)
  else none

def daysOfMonth (year month : Nat) : Nat :=
  if month = 2 then
    if year % 4 = 0 ∧ (year % 100 ≠ 0 ∨ year % 400 = 0) then 29 else 28
  else if [4, 6, 9, 11].contains month then 30
  else 31

def afterDate? (text : List Char) : Option (List Char) := do
  let (year, text) ← takeNumber? 4 text
  let '-' :: text := text | none
  let (month, text) ← takeNumber? 2 text
  let '-' :: text := text | none
  let (day, text) ← takeNumber? 2 text
  if 1 ≤ month ∧ month ≤ 12 ∧ 1 ≤ day ∧ day ≤ daysOfMonth year month then some text else none

/-- The text behind the seconds of a time, which may be left out. -/
def afterSeconds? (text : List Char) : Option (List Char) :=
  match text with
  | ':' :: text => do
      let (second, text) ← takeNumber? 2 text
      if 60 < second then none
      else
        match text with
        | '.' :: digit :: rest =>
            if digit.isDigit then some (rest.dropWhile Char.isDigit) else none
        | ['.'] => none
        | rest => some rest
  | rest => some rest

def afterTime? (text : List Char) : Option (List Char) := do
  let (hour, text) ← takeNumber? 2 text
  let ':' :: text := text | none
  let (minute, text) ← takeNumber? 2 text
  if 23 < hour ∨ 59 < minute then none else afterSeconds? text

/-- A text is empty or the offset of a time zone. -/
def isOffset (text : List Char) : Bool :=
  match text with
  | [] => true
  | ['Z'] => true
  | ['z'] => true
  | sign :: rest =>
      (sign == '+' || sign == '-') &&
        match takeNumber? 2 rest with
        | some (hour, ':' :: rest) =>
            match takeNumber? 2 rest with
            | some (minute, []) => hour ≤ 23 && minute ≤ 59
            | _ => false
        | _ => false

def isDateEnd (character : Char) : Bool :=
  character == 'T' || character == 't' || character == ' '

/-- A text is a date, a time, or both with or without an offset. -/
def isMoment (text : List Char) : Bool :=
  match afterDate? text with
  | some [] => true
  | some (sign :: rest) => isDateEnd sign && (afterTime? rest).any isOffset
  | none => afterTime? text = some []

/-- A point in time as a node: to those who ask for a value it is a record. -/
def momentNode (text : List Char) : Node :=
  .ofMembers [("moment", .string (String.ofList text))]

/-- Read a value that is not a text, a list or a table. -/
def read? (text : List Char) : Option Node :=
  if text = "true".toList then some (.boolean true)
  else if text = "false".toList then some (.boolean false)
  else
    match readInteger? text with
    | some value => some (integerNode value)
    | none =>
        match readFloat? text with
        | some node => some node
        | none => if isMoment text then some (momentNode text) else none

end TomlScalar

end Document

end GroupSync
