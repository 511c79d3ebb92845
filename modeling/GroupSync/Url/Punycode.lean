/-!
# Punycode

The encoding of a label's characters in ASCII.  The ASCII characters come first; each other
character is inserted by a delta to the state before it, written in variable-length digits of
base 36 whose thresholds follow an adaptive bias.
-/

namespace GroupSync

namespace Url

namespace Punycode

def digitOf (value : Nat) : Char :=
  if value < 26 then Char.ofNat ('a'.toNat + value) else Char.ofNat ('0'.toNat + (value - 26))

/-- The value of a digit of either case. -/
def valueOf? (digit : Char) : Option Nat :=
  if 'a' ≤ digit && digit ≤ 'z' then some (digit.toNat - 'a'.toNat)
  else if 'A' ≤ digit && digit ≤ 'Z' then some (digit.toNat - 'A'.toNat)
  else if '0' ≤ digit && digit ≤ '9' then some (digit.toNat - '0'.toNat + 26)
  else none

def initialBias : Nat := 72

/-- The threshold of the digit with number `place` (counted from zero) under a bias. -/
def threshold (place bias : Nat) : Nat :=
  min 26 (max 1 (36 * (place + 1) - bias))

/-- Divide a delta by 35 until it is small, counting the divisions. -/
def shrink : Nat → Nat → Nat → Nat × Nat
  | 0, delta, count => (delta, count)
  | steps + 1, delta, count =>
      if 455 < delta then shrink steps (delta / 35) (count + 1) else (delta, count)

/-- The bias after a delta; `points` counts the characters that are there by then. -/
def adapt (delta points : Nat) (first : Bool) : Nat :=
  let damped := if first then delta / 700 else delta / 2
  let (small, count) := shrink 16 (damped + damped / points) 0
  36 * count + 36 * small / (small + 38)

/-- The state of decoding: the characters so far, the place and code point of the last
insertion, the delta that is being read with the weight of its next digit, and the bias. -/
structure Decoding where
  output : List Char
  place : Nat
  code : Nat
  delta : Nat
  weight : Nat
  digit : Nat
  bias : Nat

def greatestDelta : Nat := 0xFFFFFFFF

/-- Insert the character of a completed delta. -/
def Decoding.insert? (state : Decoding) (delta : Nat) : Option Decoding :=
  let points := state.output.length + 1
  let position := state.place + delta
  let code := state.code + position / points
  let place := position % points
  if code.isValidChar then
    some
      { output := state.output.take place ++ Char.ofNat code :: state.output.drop place
        place := place + 1
        code := code
        delta := 0
        weight := 1
        digit := 0
        bias := adapt delta points (state.place == 0) }
  else none

def decodeDigits : List Char → Decoding → Option (List Char)
  | [], state => if state.digit = 0 then some state.output else none
  | digit :: digits, state =>
      match valueOf? digit with
      | none => none
      | some value =>
          let delta := state.delta + value * state.weight
          let least := threshold state.digit state.bias
          if greatestDelta < delta then none
          else if value < least then
            match state.insert? delta with
            | some state => decodeDigits digits state
            | none => none
          else
            decodeDigits digits
              { state with
                delta := delta
                weight := state.weight * (36 - least)
                digit := state.digit + 1 }

/-- The characters of an encoded label, without the mark at its head. -/
def decode? (text : List Char) : Option (List Char) :=
  let tail := (text.reverse.takeWhile (· != '-')).reverse
  let basic := (text.reverse.dropWhile (· != '-')).drop 1 |>.reverse
  if basic.all fun character => character.toNat < 0x80 then
    decodeDigits tail ⟨basic, 0, 0x80, 0, 1, 0, initialBias⟩
  else none

/-- The digits of a delta from a place on. -/
def encodeDelta (bias : Nat) : Nat → Nat → Nat → List Char
  | 0, _, _ => []
  | steps + 1, place, delta =>
      let least := threshold place bias
      if delta < least then [digitOf delta]
      else
        digitOf (least + (delta - least) % (36 - least)) ::
          encodeDelta bias steps (place + 1) ((delta - least) / (36 - least))

/-- The state of encoding: the digits so far, the open delta, the bias and the number of
characters that are written. -/
structure Encoding where
  output : List Char
  delta : Nat
  bias : Nat
  written : Nat

/-- Look at a character while the characters with a given code point are written. -/
def Encoding.visit (basic code : Nat) (state : Encoding) (character : Char) : Encoding :=
  if character.toNat < code then { state with delta := state.delta + 1 }
  else if character.toNat = code then
    { output := state.output ++ encodeDelta state.bias 64 0 state.delta
      delta := 0
      bias := adapt state.delta (state.written + 1) (state.written == basic)
      written := state.written + 1 }
  else state

/-- Write the characters with the given code points, which ascend from `next` on. -/
def encodeCodes (label : List Char) (basic : Nat) : List Nat → Nat → Encoding → Encoding
  | [], _, state => state
  | code :: codes, next, state =>
      let raised := { state with delta := state.delta + (code - next) * (state.written + 1) }
      let visited := label.foldl (Encoding.visit basic code) raised
      encodeCodes label basic codes (code + 1) { visited with delta := visited.delta + 1 }

/-- Put a number into its place in an ascending list, unless it is there already. -/
def place (number : Nat) : List Nat → List Nat
  | [] => [number]
  | first :: rest =>
      if number < first then number :: first :: rest
      else if number = first then first :: rest
      else first :: place number rest

/-- Encode the characters of a label, without the mark at its head. -/
def encode (label : List Char) : List Char :=
  let basic := label.filter fun character => character.toNat < 0x80
  let codes := (label.filter fun character => 0x80 ≤ character.toNat).foldr
    (fun character codes => place character.toNat codes) []
  let digits := (encodeCodes label basic.length codes 0x80
    ⟨[], 0, initialBias, basic.length⟩).output
  if basic.isEmpty then digits else basic ++ '-' :: digits

end Punycode

end Url

end GroupSync
