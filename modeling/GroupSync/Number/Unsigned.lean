/-!
# Unsigned numbers in decimal

Reading a natural number below `2 ^ 64` from its decimal numeral, with a cause for every text
that is none.
-/

namespace GroupSync

namespace Number

inductive IntegerFault where
  | empty
  | invalidDigit
  | tooLarge
deriving DecidableEq

namespace IntegerFault

def message : IntegerFault → String
  | .empty => "cannot parse integer from empty string"
  | .invalidDigit => "invalid digit found in string"
  | .tooLarge => "number too large to fit in target type"

end IntegerFault

/-- Read the digits of a 64-bit natural number from the left.  A sum that has become too large
is reported at once, before later characters are looked at. -/
def readDigits : List Char → Nat → Except IntegerFault Nat
  | [], total => .ok total
  | digit :: rest, total =>
      if digit.isDigit then
        let total := total * 10 + (digit.toNat - '0'.toNat)
        if total < 0x10000000000000000 then readDigits rest total else .error .tooLarge
      else .error .invalidDigit

/-- Read a 64-bit natural number, with or without a plus sign. -/
def readUInt64 (text : List Char) : Except IntegerFault Nat :=
  match text with
  | [] => .error .empty
  | ['+'] => .error .invalidDigit
  | '+' :: digits => readDigits digits 0
  | digits => readDigits digits 0

end Number

end GroupSync
