/-!
# Base 64

Byte sequences as texts of 64 characters: three bytes become four characters, and equals signs
fill up what is missing at the end.
-/

namespace GroupSync

namespace Text

namespace Base64

def symbol (value : Nat) : Char :=
  if value < 26 then Char.ofNat ('A'.toNat + value)
  else if value < 52 then Char.ofNat ('a'.toNat + (value - 26))
  else if value < 62 then Char.ofNat ('0'.toNat + (value - 52))
  else if value = 62 then '+'
  else '/'

/-- The characters of a 24-bit group, first the one of the highest bits. -/
def group (bits : Nat) : List Char :=
  [symbol (bits / 0x40000 % 64), symbol (bits / 0x1000 % 64), symbol (bits / 0x40 % 64),
    symbol (bits % 64)]

def encode : List UInt8 → List Char
  | first :: second :: third :: rest =>
      group (first.toNat * 0x10000 + second.toNat * 0x100 + third.toNat) ++ encode rest
  | [first, second] => (group (first.toNat * 0x10000 + second.toNat * 0x100)).take 3 ++ ['=']
  | [first] => (group (first.toNat * 0x10000)).take 2 ++ ['=', '=']
  | [] => []

end Base64

end Text

end GroupSync
