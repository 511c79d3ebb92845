import GroupSync.Text.Ascii

/-!
# Numeric hosts

Hosts that are addresses: four-byte addresses in decimal, octal or hexadecimal parts, of which
the last may stand for several bytes, and addresses of eight 16-bit pieces, which may end in a
four-byte address and in which one run of zeros may be left out.
-/

namespace GroupSync

namespace Url

namespace Ipv4

/-- Read one part of an address: `none` if it is no number. -/
def readNumber? (part : List Char) : Option Nat :=
  match part with
  | [] => none
  | '0' :: 'x' :: digits => Text.numeralValue? 16 digits
  | '0' :: 'X' :: digits => Text.numeralValue? 16 digits
  | '0' :: digit :: digits => Text.numeralValue? 8 (digit :: digits)
  | digits => Text.numeralValue? 10 digits

/-- The parts of a host without the empty one behind a dot at its end. -/
def parts (host : List Char) : List (List Char) :=
  let all := host.splitOn '.'
  if all.getLast? = some [] then all.dropLast else all

/-- A host that ends in a number is an address or nothing. -/
def endsInNumber (host : List Char) : Bool :=
  match (parts host).getLast? with
  | none => false
  | some last => (!last.isEmpty && last.all Char.isDigit) || (readNumber? last).isSome

/-- The value of the parts of an address: each but the last is one byte, the last one fills
what is left. -/
def value? (numbers : List Nat) : Option Nat :=
  match numbers.reverse with
  | [] => none
  | last :: others =>
      let leading := others.reverse
      if 4 < numbers.length || Nat.pow 256 (5 - numbers.length) ≤ last ||
          leading.any fun number => 255 < number then none
      else
        some (leading.foldl (fun total number => total * 256 + number) 0 *
          Nat.pow 256 (5 - numbers.length) + last)

def read? (host : List Char) : Option Nat := do
  let numbers ← (parts host).mapM readNumber?
  value? numbers

/-- The text of an address: four decimal bytes. -/
def render (address : Nat) : String :=
  ".".intercalate ([3, 2, 1, 0].map fun place => toString (address / Nat.pow 256 place % 256))

end Ipv4

namespace Ipv6

/-- Read a piece: one to four hexadecimal digits. -/
def readPiece? (text : List Char) : Option Nat :=
  if text.isEmpty || 4 < text.length then none else Text.numeralValue? 16 text

/-- Read a byte of a four-byte address: a decimal number without leading zeros. -/
def readByte? (text : List Char) : Option Nat :=
  if text.isEmpty || 3 < text.length || (1 < text.length && text.head? = some '0') then none
  else (Text.numeralValue? 10 text).filter (· ≤ 255)

/-- Read a four-byte address as two pieces. -/
def readTail? (text : List Char) : Option (List Nat) := do
  match ← (text.splitOn '.').mapM readByte? with
  | [first, second, third, fourth] => some [first * 256 + second, third * 256 + fourth]
  | _ => none

/-- Read pieces separated by colons; if allowed, the last may be a four-byte address. -/
def readPieces? (tailAllowed : Bool) : List (List Char) → Option (List Nat)
  | [] => some []
  | [last] =>
      if tailAllowed && last.contains '.' then readTail? last
      else (readPiece? last).map fun piece => [piece]
  | first :: rest => do
      let piece ← readPiece? first
      let pieces ← readPieces? tailAllowed rest
      return piece :: pieces

/-- Read the pieces on one side of a left-out run of zeros; the side may be empty. -/
def readSide? (tailAllowed : Bool) (text : List Char) : Option (List Nat) :=
  if text.isEmpty then some [] else readPieces? tailAllowed (text.splitOn ':')

def splitGap : List Char → Option (List Char × List Char)
  | ':' :: ':' :: rest => some ([], rest)
  | character :: rest => (splitGap rest).map fun sides => (character :: sides.1, sides.2)
  | [] => none

def read? (text : List Char) : Option (List Nat) := do
  match splitGap text with
  | some (left, right) =>
      let leading ← readSide? false left
      let trailing ← readSide? true right
      let known := leading.length + trailing.length
      if known ≤ 7 then some (leading ++ List.replicate (8 - known) 0 ++ trailing) else none
  | none =>
      let pieces ← readSide? true text
      if pieces.length = 8 then some pieces else none

/-- The length of the run of zeros at the head of a list. -/
def zeroRun (pieces : List Nat) : Nat :=
  (pieces.takeWhile (· == 0)).length

/-- The place and the length of the first longest run of zeros from a place on. -/
def longestRun : List Nat → Nat → Nat × Nat → Nat × Nat
  | [], _, best => best
  | piece :: pieces, place, best =>
      let length := zeroRun (piece :: pieces)
      longestRun pieces (place + 1) (if best.2 < length then (place, length) else best)

def renderPieces (pieces : List Nat) : String :=
  ":".intercalate (pieces.map (Text.numeral 16))

/-- The text of an address; the first longest run of two or more zeros is left out. -/
def render (pieces : List Nat) : String :=
  let (place, length) := longestRun pieces 0 (0, 0)
  if length < 2 then renderPieces pieces
  else renderPieces (pieces.take place) ++ "::" ++ renderPieces (pieces.drop (place + length))

end Ipv6

end Url

end GroupSync
