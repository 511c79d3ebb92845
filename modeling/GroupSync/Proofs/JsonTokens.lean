import GroupSync.Document.Json

/-!
# Strings and numerals of JSON texts

What a string and a numeral are, sign by sign.  A string is read up to its closing quote and a
numeral up to the first character that cannot prolong it, and what follows has no part in the tree.
The tree may have a flaw, such as half of a surrogate pair or a number that is too large, but only
the one who asks for the value meets it.
-/

namespace GroupSync

namespace Document

namespace JsonString

/-- The letters behind the backslash of an escape, but for the one that announces a unit. -/
def escapeLetters : List Char :=
  ['"', '\\', '/', 'b', 'f', 'n', 'r', 't']

def hexDigits : List Char :=
  "0123456789abcdefABCDEF".toList

/-- What stands for one piece of a string. -/
inductive IsMark : List Char → Prop
  | raw {character : Char} (printable : ¬ character.toNat < 0x20) (quote : character ≠ '"')
      (backslash : character ≠ '\\') : IsMark [character]
  | escape {letter : Char} (listed : letter ∈ escapeLetters) : IsMark ['\\', letter]
  | unit {first second third fourth : Char}
      (hexadecimal : [first, second, third, fourth] ⊆ hexDigits) :
      IsMark ['\\', 'u', first, second, third, fourth]

/-- What stands between the quotes of a string. -/
structure Spelling where
  marks : List (List Char)
  valid : ∀ mark ∈ marks, IsMark mark

namespace Spelling

/-- The string behind its opening quote. -/
def chars (spelling : Spelling) : List Char :=
  spelling.marks.flatten ++ ['"']

/-- The tree of the string, which may have a flaw that only the one who asks for it meets. -/
def node (spelling : Spelling) : Node :=
  (read spelling.chars).1

end Spelling

theorem pieces_cons_of_raw {character : Char} (rest : List Char) (quote : character ≠ '"')
    (backslash : character ≠ '\\') (control : ¬ character.toNat < 0x20) :
    pieces (character :: rest) =
      (.character character :: (pieces rest).1, (pieces rest).2.1, (pieces rest).2.2) := by
  rw [pieces]
  · rw [if_neg control]
  · rintro rfl; exact quote rfl
  · rintro rfl; exact absurd rfl backslash
  · rintro _ _ _ _ _ rfl; exact absurd rfl backslash
  · rintro _ rfl; exact absurd rfl backslash
  · rintro _ _ rfl; exact absurd rfl backslash

theorem exists_unitOf?_eq_some {first second third fourth : Char}
    (hexadecimal : [first, second, third, fourth] ⊆ hexDigits) :
    ∃ value, unitOf? first second third fourth = some value := by
  have all : hexDigits.all (fun digit => (Text.hexValue? digit).any (· < 16)) = true := by decide
  have valued (digit : Char) (listed : digit ∈ hexDigits) :
      ∃ value, Text.hexValue? digit = some value ∧ value < 16 := by
    simpa [Option.any_eq_true] using List.all_eq_true.mp all digit listed
  simp only [List.cons_subset, List.nil_subset, and_true] at hexadecimal
  obtain ⟨isFirst, isSecond, isThird, isFourth⟩ := hexadecimal
  obtain ⟨_, firstValue, firstSmall⟩ := valued first isFirst
  obtain ⟨_, secondValue, secondSmall⟩ := valued second isSecond
  obtain ⟨_, thirdValue, thirdSmall⟩ := valued third isThird
  obtain ⟨_, fourthValue, fourthSmall⟩ := valued fourth isFourth
  simp [unitOf?, Text.numeralValue?, firstValue, secondValue, thirdValue, fourthValue, firstSmall,
    secondSmall, thirdSmall, fourthSmall]

/-- A mark is read as one piece, whatever follows. -/
theorem IsMark.exists_pieces {mark : List Char} (isMark : IsMark mark) :
    ∃ piece : Piece, ∀ rest, pieces (mark ++ rest) =
      (piece :: (pieces rest).1, (pieces rest).2.1, (pieces rest).2.2) := by
  cases isMark with
  | raw printable quote backslash =>
      exact ⟨_, fun rest => pieces_cons_of_raw rest quote backslash printable⟩
  | @escape letter listed =>
      simp only [escapeLetters, List.mem_cons, List.not_mem_nil, or_false] at listed
      rcases listed with rfl | rfl | rfl | rfl | rfl | rfl | rfl | rfl
      all_goals exact ⟨_, fun rest => rfl⟩
  | unit hexadecimal =>
      obtain ⟨value, spelled⟩ := exists_unitOf?_eq_some hexadecimal
      refine ⟨.unit value, fun rest => ?_⟩
      simp [pieces, spelled]

theorem exists_pieces_flatten {marks : List (List Char)} (valid : ∀ mark ∈ marks, IsMark mark) :
    ∃ parts, ∀ rest, pieces (marks.flatten ++ '"' :: rest) = (parts, .closed, rest) := by
  induction marks with
  | nil => exact ⟨[], fun rest => rfl⟩
  | cons mark marks induction =>
      obtain ⟨parts, later⟩ := induction fun other member => valid other (.tail _ member)
      obtain ⟨piece, first⟩ := (valid mark List.mem_cons_self).exists_pieces
      refine ⟨piece :: parts, fun rest => ?_⟩
      rw [List.flatten_cons, List.append_assoc, first, later]

theorem skipFault?_nodeOf_closed (parts : List Piece) :
    (nodeOf parts .closed).skipFault? = none := by
  rw [nodeOf]
  cases join .closed parts <;> rfl

variable (spelling : Spelling)

theorem skipFault?_node : spelling.node.skipFault? = none := by
  obtain ⟨parts, cut⟩ := exists_pieces_flatten spelling.valid
  rw [Spelling.node, Spelling.chars, read, cut]
  exact skipFault?_nodeOf_closed parts

theorem read_append (rest : List Char) : read (spelling.chars ++ rest) = (spelling.node, rest) := by
  obtain ⟨parts, cut⟩ := exists_pieces_flatten spelling.valid
  have alone : read spelling.chars = (nodeOf parts .closed, []) := by
    rw [Spelling.chars, read, cut]
  rw [Spelling.node, alone, Spelling.chars, List.append_assoc, read]
  simp [cut]

end JsonString

namespace JsonNumber

def IsDigits (digits : List Char) : Prop :=
  digits ≠ [] ∧ ∀ digit ∈ digits, digit.isDigit = true

/-- The fraction of a numeral, or nothing. -/
inductive IsFraction : List Char → Prop
  | nothing : IsFraction []
  | point {digits : List Char} (isDigits : IsDigits digits) : IsFraction ('.' :: digits)

/-- The exponent of a numeral, or nothing. -/
inductive IsExponent : List Char → Prop
  | nothing : IsExponent []
  | power {letter : Char} {sign digits : List Char} (letters : letter ∈ ['e', 'E'])
      (signs : sign ∈ [[], ['+'], ['-']]) (isDigits : IsDigits digits) :
      IsExponent (letter :: (sign ++ digits))

/-- A numeral behind its sign.  Only zero begins with a zero. -/
inductive IsNumeral : List Char → Prop
  | intro {whole fraction exponent : List Char} (isDigits : IsDigits whole)
      (canonical : whole.head? = some '0' → whole = ['0']) (isFraction : IsFraction fraction)
      (isExponent : IsExponent exponent) : IsNumeral (whole ++ (fraction ++ exponent))

def EndsNumeral (rest : List Char) : Prop :=
  ∀ next later, rest = next :: later →
    next.isDigit = false ∧ next ≠ '.' ∧ next ≠ 'e' ∧ next ≠ 'E'

def EndsDigits (rest : List Char) : Prop :=
  ∀ next later, rest = next :: later → next.isDigit = false

theorem endsNumeral_nil : EndsNumeral [] := by
  rintro next later ⟨⟩

theorem EndsNumeral.endsDigits {rest : List Char} (ends : EndsNumeral rest) : EndsDigits rest :=
  fun next later same => (ends next later same).1

theorem endsDigits_cons {next : Char} (foreign : next.isDigit = false) (later : List Char) :
    EndsDigits (next :: later) := by
  rintro _ _ ⟨⟩
  exact foreign

/-! ### Rows of digits -/

section Digits

variable {digits rest : List Char} (numeral : ∀ digit ∈ digits, digit.isDigit = true)
  (ends : EndsDigits rest)

include numeral ends

theorem takeWhile_append : (digits ++ rest).takeWhile Char.isDigit = digits := by
  rw [List.takeWhile_append_of_pos numeral]
  cases rest with
  | nil => simp
  | cons next later => simp [ends next later rfl]

theorem afterDigits_append : afterDigits (digits ++ rest) = rest := by
  rw [afterDigits, List.dropWhile_append_of_pos numeral]
  cases rest with
  | nil => rfl
  | cons next later => exact List.dropWhile_cons_of_neg (by simp [ends next later rfl])

theorem collectDigits_append (total used dropped : Nat) :
    collectDigits (digits ++ rest) total used dropped =
      collectDigits digits total used dropped := by
  induction digits generalizing total used dropped with
  | nil =>
      cases rest with
      | nil => rfl
      | cons next later => simp [collectDigits, ends next later rfl]
  | cons digit digits induction =>
      have later := induction fun other member => numeral other (.tail _ member)
      simp only [List.cons_append, collectDigits, later]

omit ends in
theorem count_collectDigits (total used dropped : Nat) :
    (collectDigits digits total used dropped).2.1 +
      (collectDigits digits total used dropped).2.2 = used + dropped + digits.length := by
  induction digits generalizing total used dropped with
  | nil => rfl
  | cons digit digits induction =>
      have later := induction fun other member => numeral other (.tail _ member)
      simp only [collectDigits, numeral digit List.mem_cons_self, if_true, List.length_cons]
      split
      · rename_i fits
        rw [later]
        omega
      · rw [later]
        omega

end Digits

/-! ### Parts of a numeral -/

/-- A reader of a part of a numeral makes one tree of a text, whatever follows that cannot prolong
the numeral. -/
def ReadsPart (reader : List Char → Node × List Char) (text : List Char) : Prop :=
  ∃ node : Node, node.skipFault? = none ∧
    ∀ rest, EndsNumeral rest → reader (text ++ rest) = (node, rest)

theorem skipFault?_scaledNode (negative : Bool) (significand : Nat) (exponent : Int) :
    (scaledNode negative significand exponent).skipFault? = none := by
  rw [scaledNode]
  split <;> rfl

theorem skipFault?_hugeExponent (negative : Bool) (significand : Nat) (grows : Bool) :
    (hugeExponent negative significand grows).skipFault? = none := by
  rw [hugeExponent]
  split <;> rfl

theorem skipFault?_integerNode (negative : Bool) (significand : Nat) :
    (integerNode negative significand).skipFault? = none := by
  rw [integerNode]
  split
  · split
    · rfl
    · split <;> rfl
  · rfl

variable (negative : Bool) (significand : Nat) (exponent : Int)

/-- The tree of a numeral with the digits of an exponent. -/
def exponentNode (grows : Bool) (digits : List Char) : Node :=
  if greatestCountedExponent < digitsValue digits then hugeExponent negative significand grows
  else
    let change : Int := if grows then digitsValue digits else -(digitsValue digits : Int)
    scaledNode negative significand (clampExponent (exponent + change))

theorem skipFault?_exponentNode (grows : Bool) (digits : List Char) :
    (exponentNode negative significand exponent grows digits).skipFault? = none := by
  rw [exponentNode]
  split
  · exact skipFault?_hugeExponent negative significand grows
  · exact skipFault?_scaledNode _ _ _

theorem readsPart_readExponent {sign digits : List Char} (signs : sign ∈ [[], ['+'], ['-']])
    (isDigits : IsDigits digits) :
    ReadsPart (readExponent negative significand exponent) (sign ++ digits) := by
  obtain ⟨present, numeral⟩ := isDigits
  have unsigned (rest : List Char) (ends : EndsNumeral rest) (grows : Bool) :
      (if ((digits ++ rest).takeWhile Char.isDigit).isEmpty then
          (Node.flawed (missingDigit (digits ++ rest)), digits ++ rest)
        else
          (exponentNode negative significand exponent grows
            ((digits ++ rest).takeWhile Char.isDigit), afterDigits (digits ++ rest))) =
        (exponentNode negative significand exponent grows digits, rest) := by
    rw [takeWhile_append numeral ends.endsDigits, afterDigits_append numeral ends.endsDigits,
      if_neg (by simpa using present)]
  simp only [List.mem_cons, List.not_mem_nil, or_false] at signs
  rcases signs with rfl | rfl | rfl
  · refine ⟨exponentNode negative significand exponent true digits,
      skipFault?_exponentNode _ _ _ _ _, fun rest ends => ?_⟩
    obtain ⟨digit, later, rfl⟩ := List.exists_cons_of_ne_nil present
    have isDigit := numeral digit List.mem_cons_self
    rw [← unsigned rest ends true, List.nil_append, readExponent]
    · rfl
    -- A digit is no sign.
    · rintro _ ⟨⟩
      cases isDigit
    · rintro _ ⟨⟩
      cases isDigit
  · exact ⟨_, skipFault?_exponentNode _ _ _ true digits, fun rest ends => unsigned rest ends true⟩
  · exact ⟨_, skipFault?_exponentNode _ _ _ false digits, fun rest ends => unsigned rest ends false⟩

theorem IsExponent.endsDigits_append {text rest : List Char} (isExponent : IsExponent text)
    (ends : EndsNumeral rest) : EndsDigits (text ++ rest) := by
  cases isExponent with
  | nothing => exact ends.endsDigits
  | power letters signs isDigits =>
      refine endsDigits_cons ?_ _
      simp only [List.mem_cons, List.not_mem_nil, or_false] at letters
      rcases letters with rfl | rfl <;> decide

theorem readsPart_readScale {text : List Char} (isExponent : IsExponent text) :
    ReadsPart (readScale negative significand exponent) text := by
  cases isExponent with
  | nothing =>
      refine ⟨scaledNode negative significand exponent, skipFault?_scaledNode _ _ _,
        fun rest ends => ?_⟩
      rw [List.nil_append, readScale]
      · rintro later rfl
        exact (ends _ _ rfl).2.2.1 rfl
      · rintro later rfl
        exact (ends _ _ rfl).2.2.2 rfl
  | power letters signs isDigits =>
      have power := readsPart_readExponent negative significand exponent signs isDigits
      simp only [List.mem_cons, List.not_mem_nil, or_false] at letters
      rcases letters with rfl | rfl
      · exact power
      · exact power

theorem readsPart_readFraction {digits text : List Char} (isDigits : IsDigits digits)
    (isExponent : IsExponent text) :
    ReadsPart (readFraction negative significand exponent) (digits ++ text) := by
  obtain ⟨present, numeral⟩ := isDigits
  have count := count_collectDigits numeral significand 0 0
  rcases collected : collectDigits digits significand 0 0 with ⟨total, used, dropped⟩
  have some : ¬ used + dropped = 0 := by
    have positive := List.length_pos_iff.mpr present
    simp only [collected] at count
    omega
  obtain ⟨node, passed, reads⟩ :=
    readsPart_readScale negative total (exponent - used) isExponent
  refine ⟨node, passed, fun rest ends => ?_⟩
  have stops := isExponent.endsDigits_append ends
  rw [List.append_assoc, readFraction, collectDigits_append numeral stops, collected,
    afterDigits_append numeral stops]
  exact (if_neg some).trans (reads rest ends)

theorem endsDigits_fraction_append {fraction text rest : List Char}
    (isFraction : IsFraction fraction) (isExponent : IsExponent text) (ends : EndsNumeral rest) :
    EndsDigits (fraction ++ (text ++ rest)) := by
  cases isFraction with
  | nothing => exact isExponent.endsDigits_append ends
  | point isDigits => exact endsDigits_cons (by decide) _

theorem readsPart_readTail (dropped : Nat) {fraction text : List Char}
    (isFraction : IsFraction fraction) (isExponent : IsExponent text) :
    ReadsPart (readTail negative significand dropped) (fraction ++ text) := by
  cases isFraction with
  | point isDigits =>
      exact readsPart_readFraction negative significand dropped isDigits isExponent
  | nothing =>
      cases isExponent with
      | nothing =>
          refine ⟨if dropped = 0 then integerNode negative significand
            else scaledNode negative significand dropped, ?_, fun rest ends => ?_⟩
          · split
            · exact skipFault?_integerNode negative significand
            · exact skipFault?_scaledNode _ _ _
          · rw [List.append_nil, List.nil_append, readTail]
            · split <;> rfl
            · rintro later rfl
              exact (ends _ _ rfl).2.1 rfl
            · rintro later rfl
              exact (ends _ _ rfl).2.2.1 rfl
            · rintro later rfl
              exact (ends _ _ rfl).2.2.2 rfl
      | power letters signs isDigits =>
          have power := readsPart_readExponent negative significand dropped signs isDigits
          simp only [List.mem_cons, List.not_mem_nil, or_false] at letters
          rcases letters with rfl | rfl
          · exact power
          · exact power

theorem read_zero {rest : List Char} (stops : EndsDigits rest) :
    read negative ('0' :: rest) = readTail negative 0 0 rest := by
  cases rest with
  | nil => rfl
  | cons next later => exact if_neg (by simp [stops next later rfl])

/-- A numeral is read as one tree, whatever follows that cannot prolong it. -/
theorem IsNumeral.readsPart {numeral : List Char} (isNumeral : IsNumeral numeral) :
    ReadsPart (read negative) numeral := by
  obtain ⟨⟨present, digits⟩, canonical, isFraction, isExponent⟩ := isNumeral
  rename_i whole fraction text
  obtain ⟨digit, later, rfl⟩ := List.exists_cons_of_ne_nil present
  have isDigit := digits digit List.mem_cons_self
  by_cases zero : digit = '0'
  · subst zero
    obtain rfl : later = [] := by simpa using canonical rfl
    obtain ⟨node, passed, reads⟩ := readsPart_readTail negative 0 0 isFraction isExponent
    refine ⟨node, passed, fun rest ends => ?_⟩
    have stops := endsDigits_fraction_append isFraction isExponent ends
    rw [List.append_assoc, List.append_assoc, List.cons_append, List.nil_append,
      read_zero negative stops, ← List.append_assoc]
    exact reads rest ends
  · rcases collected : collectDigits (digit :: later) 0 0 0 with ⟨total, used, dropped⟩
    obtain ⟨node, passed, reads⟩ := readsPart_readTail negative total dropped isFraction isExponent
    refine ⟨node, passed, fun rest ends => ?_⟩
    have stops := endsDigits_fraction_append isFraction isExponent ends
    have collects := collectDigits_append digits stops 0 0 0
    have behind := afterDigits_append digits stops
    rw [List.cons_append] at collects behind
    rw [List.append_assoc, List.append_assoc, List.cons_append, read]
    · rw [if_pos isDigit, collects, collected, behind, ← List.append_assoc]
      exact reads rest ends
    · exact zero

theorem IsNumeral.read_append {numeral rest : List Char} (isNumeral : IsNumeral numeral)
    (ends : EndsNumeral rest) :
    read negative (numeral ++ rest) = ((read negative numeral).1, rest) := by
  obtain ⟨node, -, reads⟩ := isNumeral.readsPart negative
  have alone := reads [] endsNumeral_nil
  rw [List.append_nil] at alone
  rw [alone, reads rest ends]

theorem IsNumeral.skipFault?_read {numeral : List Char} (isNumeral : IsNumeral numeral) :
    (read negative numeral).1.skipFault? = none := by
  obtain ⟨node, passed, reads⟩ := isNumeral.readsPart negative
  have alone := reads [] endsNumeral_nil
  rw [List.append_nil] at alone
  rw [alone]
  exact passed

end JsonNumber

end Document

end GroupSync
