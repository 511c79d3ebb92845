/-!
# ASCII letters and digits

Comparison without regard to ASCII case, the values of hexadecimal digits, and the
numerals of natural numbers.  Letters outside ASCII are left as they are: no rule of
this library folds them.
-/

namespace GroupSync

namespace Text

def lowerAscii (text : String) : String :=
  String.ofList (text.toList.map Char.toLower)

/-- Two texts agree up to the case of their ASCII letters. -/
def equalsIgnoringAsciiCase (first second : String) : Bool :=
  first.toList.map Char.toLower == second.toList.map Char.toLower

def hexValue? (digit : Char) : Option Nat :=
  if '0' ≤ digit && digit ≤ '9' then some (digit.toNat - '0'.toNat)
  else if 'a' ≤ digit && digit ≤ 'f' then some (digit.toNat - 'a'.toNat + 10)
  else if 'A' ≤ digit && digit ≤ 'F' then some (digit.toNat - 'A'.toNat + 10)
  else none

/-- The digit of a value below sixteen, in small letters. -/
def hexDigit (value : Nat) : Char :=
  if value < 10 then Char.ofNat ('0'.toNat + value)
  else Char.ofNat ('a'.toNat + (value - 10))

/-- The digit of a value below sixteen, in capitals. -/
def upperHexDigit (value : Nat) : Char :=
  (hexDigit value).toUpper

/-- The value of a numeral in a base of at most sixteen, `none` at a character that is no
digit of the base.  The empty numeral has the value zero. -/
def numeralValue? (base : Nat) (digits : List Char) : Option Nat :=
  digits.foldl (fun total digit => do
    let total ← total
    let value ← hexValue? digit
    if value < base then some (total * base + value) else none) (some 0)

def numeral (base number : Nat) : String :=
  String.ofList (Nat.toDigits base number)

end Text

end GroupSync
