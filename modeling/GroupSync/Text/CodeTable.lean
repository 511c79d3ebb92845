import GroupSync.Text.Ascii

/-!
# Tables of code points

Data about characters, written as lines of entries.  Entries are separated by blanks, and an
entry is a row of hexadecimal numbers joined by hyphens, whose meaning is up to the table.
-/

namespace GroupSync

namespace Text

abbrev CodeTable := List (List Nat)

namespace CodeTable

/-- Read one entry; what is no number counts as zero. -/
def readEntry (entry : List Char) : List Nat :=
  (entry.splitOn '-').map fun number => (numeralValue? 16 number).getD 0

def read (lines : List String) : CodeTable :=
  lines.flatMap fun line =>
    ((line.toList.splitOn ' ').filter fun entry => !entry.isEmpty).map readEntry

/-- A code point lies in an entry that is a range or a single code point. -/
def entryCovers (code : Nat) (entry : List Nat) : Bool :=
  match entry with
  | [only] => code == only
  | first :: last :: _ => first ≤ code && code ≤ last
  | [] => false

def covers (table : CodeTable) (character : Char) : Bool :=
  table.any (entryCovers character.toNat)

/-- The entry whose range a character lies in. -/
def covering? (table : CodeTable) (character : Char) : Option (List Nat) :=
  table.find? (entryCovers character.toNat)

/-- The numbers behind a character in a table whose entries begin with single characters. -/
def row? (table : CodeTable) (character : Char) : Option (List Nat) :=
  (table.find? fun entry => entry.head? == some character.toNat).map List.tail

end CodeTable

end Text

end GroupSync
