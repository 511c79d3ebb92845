import GroupSync.Text.DirectionTable

/-!
# Texts of mixed direction

The bidirectional class of a character and the rule under which a label of mixed classes can be
shown without ambiguity.
-/

namespace GroupSync

namespace Text

/-- The bidirectional classes that the rule for labels tells apart. -/
inductive Direction where
  | leftToRight
  | rightToLeft
  | arabicLetter
  | arabicNumber
  | number
  | sign
  | terminator
  | separator
  | attached
  | neutralControl
  | neutral
deriving DecidableEq

namespace Direction

def ofAscii (character : Char) : Direction :=
  if character.isAlpha then leftToRight
  else if character.isDigit then number
  else if ['+', '-'].contains character then sign
  else if ['#', '$', '%'].contains character then terminator
  else if [',', '.', '/', ':'].contains character then separator
  else neutral

def tables : List (CodeTable × Direction) :=
  [(rightToLeftTable, rightToLeft), (arabicLetterTable, arabicLetter),
    (arabicNumberTable, arabicNumber), (numberTable, number), (signTable, sign),
    (terminatorTable, terminator), (separatorTable, separator), (attachedTable, attached),
    (neutralControlTable, neutralControl), (neutralTable, neutral)]

def ofChar (character : Char) : Direction :=
  if character.toNat < 0x80 then ofAscii character
  else ((tables.find? fun entry => entry.1.covers character).map Prod.snd).getD leftToRight

/-- A class that makes its text one of mixed direction. -/
def isMixed (direction : Direction) : Bool :=
  [rightToLeft, arabicLetter, arabicNumber].contains direction

/-- A class that may stand in labels of either direction. -/
def isWeak (direction : Direction) : Bool :=
  [number, sign, separator, terminator, neutral, neutralControl, attached].contains direction

/-- The last class of a label that is not attached to the one before. -/
def lastFree? (directions : List Direction) : Option Direction :=
  (directions.reverse.dropWhile (· == attached)).head?

/-- A label that begins from the right may hold only certain classes, must end in a letter or
digit, and must not mix the two kinds of digits. -/
def rightToLeftAllowed (directions : List Direction) : Bool :=
  directions.all (fun direction => direction.isMixed || direction.isWeak) &&
    (lastFree? directions).any (fun last => last.isMixed || last == number) &&
    !(directions.contains number && directions.contains arabicNumber)

/-- A label that begins from the left may hold only certain classes and must end in a letter
or digit. -/
def leftToRightAllowed (directions : List Direction) : Bool :=
  directions.all (fun direction => direction == leftToRight || direction.isWeak) &&
    (lastFree? directions).any (fun last => last == leftToRight || last == number)

/-- A label of a name of mixed direction is unambiguous. -/
def labelAllowed (label : List Char) : Bool :=
  let directions := label.map ofChar
  match directions.head? with
  | none => true
  | some first =>
      if first == rightToLeft || first == arabicLetter then rightToLeftAllowed directions
      else if first == leftToRight then leftToRightAllowed directions
      else false

end Direction

end Text

end GroupSync
