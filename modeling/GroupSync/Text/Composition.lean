import GroupSync.Text.Marks

/-!
# Composed characters

The composed normal form of a text: every character is taken apart, the marks behind each
starter are put into the order of their classes, and what can be composed is composed again.
Syllables of the Korean script are composed by arithmetic.
-/

namespace GroupSync

namespace Text

namespace Composition

/-- The combining class of a character; zero for starters. -/
def combiningClass (character : Char) : Nat :=
  match classTable.covering? character with
  | some [_, _, value] => value
  | _ => 0

def isMark (character : Char) : Bool :=
  markTable.covers character

/-- The two parts of a composed character. -/
def parts? (character : Char) : Option (Char × Char) :=
  (compositionTable.find? fun entry => entry.getLast? == some character.toNat).bind fun entry =>
    match entry with
    | [first, second, _] => some (Char.ofNat first, Char.ofNat second)
    | _ => none

/-- The number of syllables of the Korean script. -/
def syllableCount : Nat := 11172

/-- The place of a syllable of the Korean script among them. -/
def syllablePlace? (character : Char) : Option Nat :=
  let code := character.toNat
  if 0xAC00 ≤ code ∧ code < 0xAC00 + syllableCount then some (code - 0xAC00) else none

def syllableLetters (place : Nat) : List Char :=
  let leading := Char.ofNat (0x1100 + place / 588)
  let vowel := Char.ofNat (0x1161 + place % 588 / 28)
  if place % 28 = 0 then [leading, vowel]
  else [leading, vowel, Char.ofNat (0x11A7 + place % 28)]

/-- Take a character apart completely.  No character has more than four parts in a row. -/
def takeApart : Nat → Char → List Char
  | 0, character => [character]
  | steps + 1, character =>
      match syllablePlace? character with
      | some place => syllableLetters place
      | none =>
          match parts? character with
          | some (first, second) => takeApart steps first ++ [second]
          | none => [character]

/-- Put a mark into its place among the marks before it, which are given last first. -/
def placeMark (mark : Char) (markClass : Nat) : List (Char × Nat) → List (Char × Nat)
  | [] => [(mark, markClass)]
  | (before, beforeClass) :: earlier =>
      if markClass < beforeClass then
        (before, beforeClass) :: placeMark mark markClass earlier
      else (mark, markClass) :: (before, beforeClass) :: earlier

/-- Order the marks behind each starter by their classes; `waiting` holds the marks since the
last starter, last first. -/
def orderMarks : List Char → List (Char × Nat) → List (Char × Nat)
  | [], waiting => waiting.reverse
  | character :: rest, waiting =>
      match combiningClass character with
      | 0 => waiting.reverse ++ (character, 0) :: orderMarks rest []
      | markClass => orderMarks rest (placeMark character markClass waiting)

/-- The composed form of two characters of the Korean script. -/
def composeLetters? (first second : Char) : Option Char :=
  let lead := first.toNat
  let next := second.toNat
  if 0x1100 ≤ lead ∧ lead < 0x1113 ∧ 0x1161 ≤ next ∧ next < 0x1176 then
    some (Char.ofNat (0xAC00 + ((lead - 0x1100) * 21 + (next - 0x1161)) * 28))
  else
    match syllablePlace? first with
    | some place =>
        if place % 28 = 0 ∧ 0x11A7 < next ∧ next < 0x11C3 then
          some (Char.ofNat (lead + (next - 0x11A7)))
        else none
    | none => none

def compose? (first second : Char) : Option Char :=
  match composeLetters? first second with
  | some composed => some composed
  | none =>
      (compositionTable.find? fun entry =>
          entry.take 2 == [first.toNat, second.toNat]).bind fun entry =>
        entry.getLast?.map Char.ofNat

/-- Compose characters from the left.  `starter` is the last starter, `behind` holds what
stands behind it uncomposed, last first, with the classes. -/
def composeFrom : List (Char × Nat) → Option Char → List (Char × Nat) → List Char
  | [], starter, behind => starter.toList ++ (behind.map Prod.fst).reverse
  | (character, characterClass) :: rest, starter, behind =>
      let blocked := match behind with
        | [] => false
        | (_, lastClass) :: _ => characterClass ≤ lastClass
      let composed := if blocked then none else starter.bind fun lead => compose? lead character
      match composed with
      | some lead => composeFrom rest (some lead) behind
      | none =>
          if characterClass = 0 then
            starter.toList ++ (behind.map Prod.fst).reverse ++
              composeFrom rest (some character) []
          else composeFrom rest starter ((character, characterClass) :: behind)

end Composition

/-- The composed normal form of a text whose characters have no other replacement. -/
def compose (text : List Char) : List Char :=
  Composition.composeFrom
    (Composition.orderMarks (text.flatMap (Composition.takeApart 4)) []) none []

end Text

end GroupSync
