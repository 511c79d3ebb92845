import GroupSync.Document.JsonText
import GroupSync.Proofs.DecimalNumerals
import GroupSync.Proofs.JsonGrammar

/-!
# Reading what was written

A tree that has no flaw, no floating-point number and no number beyond 64 bits is given back by
its text.  What is written is a text of the grammar, and its strings and numerals stand for the very
texts and numbers that they were written for.
-/

namespace GroupSync

namespace Document

namespace JsonString

open Json (escapeChar)

/-- A piece that stands for a character: the character itself, or the unit of a control
character. -/
def Piece.StandsFor (piece : Piece) (character : Char) : Prop :=
  piece = .character character ∨ piece = .unit character.toNat ∧ character.toNat < 0x20

theorem unitOf?_hexDigits : ∀ value < 0x20,
    unitOf? '0' '0' (Text.hexDigit (value / 16)) (Text.hexDigit (value % 16)) = some value := by
  decide

/-- The form of a character is read as one piece, which stands for the character. -/
theorem exists_pieces_escapeChar (character : Char) :
    ∃ piece : Piece, piece.StandsFor character ∧ ∀ rest, pieces (escapeChar character ++ rest) =
      (piece :: (pieces rest).1, (pieces rest).2.1, (pieces rest).2.2) := by
  unfold escapeChar
  simp only [beq_iff_eq]
  -- Seven characters have an escape of one letter; what is left are the other control characters
  -- and the characters that stand for themselves.
  iterate 7
    split
    · rename_i same
      subst same
      exact ⟨_, .inl rfl, fun _ => rfl⟩
  split
  · rename_i control
    refine ⟨.unit character.toNat, .inr ⟨rfl, control⟩, fun rest => ?_⟩
    have value := unitOf?_hexDigits character.toNat control
    simp [pieces, value]
  · rename_i quote backslash _ _ _ _ _ control
    refine ⟨.character character, .inl rfl, fun rest => ?_⟩
    exact pieces_cons_of_raw rest quote backslash control

theorem isMark_escapeChar (character : Char) : IsMark (escapeChar character) := by
  have hexadecimal : ∀ value < 0x20,
      ['0', '0', Text.hexDigit (value / 16), Text.hexDigit (value % 16)] ⊆ hexDigits := by decide
  unfold escapeChar
  simp only [beq_iff_eq]
  iterate 7
    split
    · exact .escape (by decide)
  split
  · rename_i control
    exact .unit (hexadecimal character.toNat control)
  · rename_i quote backslash _ _ _ _ _ control
    exact .raw control quote backslash

theorem join_cons_of_standsFor {piece : Piece} {character : Char}
    (stands : piece.StandsFor character) (ending : Ending) (rest : List Piece) :
    join ending (piece :: rest) = (join ending rest).map (character :: ·) := by
  rcases stands with rfl | ⟨rfl, control⟩
  · rw [join]
    cases join ending rest <;> rfl
  · have notTrailing : isTrailing character.toNat = false := by
      simp [isTrailing]; omega
    have notLeading : isLeading character.toNat = false := by
      simp [isLeading]; omega
    rw [join.eq_def]
    simp only [notTrailing, notLeading, Char.ofNat_toNat]
    cases join ending rest <;> rfl

theorem exists_pieces_escaped (text rest : List Char) :
    ∃ parts, pieces (text.flatMap escapeChar ++ '"' :: rest) = (parts, .closed, rest) ∧
      join .closed parts = .ok text := by
  induction text with
  | nil => exact ⟨[], rfl, rfl⟩
  | cons character text induction =>
      obtain ⟨parts, read, joined⟩ := induction
      obtain ⟨piece, stands, reads⟩ := exists_pieces_escapeChar character
      refine ⟨piece :: parts, ?_, ?_⟩
      · rw [List.flatMap_cons, List.append_assoc, reads, read]
      · rw [join_cons_of_standsFor stands, joined]
        rfl

/-- What is written of a text behind its opening quote is read as the text. -/
theorem read_escaped (text : String) (rest : List Char) :
    read (text.toList.flatMap escapeChar ++ '"' :: rest) = (.string text, rest) := by
  obtain ⟨parts, cut, joined⟩ := exists_pieces_escaped text.toList rest
  simp [read, cut, nodeOf, joined, Ending.fault?]

end JsonString

namespace JsonNumber

theorem collectDigits_of_fits {digits : List Char}
    (numeral : ∀ digit ∈ digits, digit.isDigit = true) (total used : Nat)
    (fits : Nat.ofDigitChars 10 digits total ≤ greatestSignificand) :
    collectDigits digits total used 0 =
      (Nat.ofDigitChars 10 digits total, used + digits.length, 0) := by
  induction digits generalizing total used with
  | nil => rfl
  | cons digit digits induction =>
      rw [Nat.ofDigitChars_cons] at fits ⊢
      have isDigit := numeral digit List.mem_cons_self
      have step : total * 10 + (digit.toNat - '0'.toNat) =
          10 * total + (digit.toNat - '0'.toNat) := by omega
      have room := Nat.le_trans (Number.le_ofDigitChars digits _) fits
      rw [collectDigits, if_pos isDigit, step]
      simp only [room, and_self, if_true]
      rw [induction (fun later member => numeral later (List.mem_cons_of_mem _ member)) _ _ fits]
      simp [Nat.add_assoc, Nat.add_comm 1]

/-- The numeral of a positive number begins with a digit other than zero. -/
theorem exists_toDigits_eq_cons {number : Nat} (positive : 0 < number) :
    ∃ digit digits, Nat.toDigits 10 number = digit :: digits ∧ digit ≠ '0' := by
  induction number using Nat.strongRecOn with
  | ind number induction =>
      rw [Nat.toDigits_eq_if (by decide)]
      split
      · rename_i small
        refine ⟨_, [], rfl, ?_⟩
        have distinct : ∀ value < 10, 0 < value → value.digitChar ≠ '0' := by decide
        exact distinct number small positive
      · rename_i large
        obtain ⟨digit, digits, shorter, nonzero⟩ :=
          induction (number / 10) (by omega) (by omega)
        exact ⟨digit, _, by rw [shorter]; rfl, nonzero⟩

theorem isNumeral_toDigits (number : Nat) : IsNumeral (Nat.toDigits 10 number) := by
  have digits : IsDigits (Nat.toDigits 10 number) := ⟨Nat.toDigits_ne_nil,
    fun digit member => Nat.isDigit_of_mem_toDigits (by decide) (by decide) member⟩
  have canonical : (Nat.toDigits 10 number).head? = some '0' → Nat.toDigits 10 number = ['0'] := by
    rcases Nat.eq_zero_or_pos number with rfl | positive
    · exact fun _ => Nat.toDigits_zero 10
    · obtain ⟨digit, later, written, nonzero⟩ := exists_toDigits_eq_cons positive
      rw [written]
      rintro ⟨⟩
      exact absurd rfl nonzero
  simpa using IsNumeral.intro digits canonical .nothing .nothing

/-- The numeral of a number that fits is read as an integer. -/
theorem read_toDigits {number : Nat} (fits : number ≤ greatestSignificand) (negative : Bool) :
    (read negative (Nat.toDigits 10 number)).1 = integerNode negative number := by
  rcases Nat.eq_zero_or_pos number with rfl | positive
  · rfl
  · have numeral : ∀ digit ∈ Nat.toDigits 10 number, digit.isDigit = true :=
      fun digit member => Nat.isDigit_of_mem_toDigits (by decide) (by decide) member
    have value : Nat.ofDigitChars 10 (Nat.toDigits 10 number) 0 = number :=
      Nat.ofDigitChars_ten_toDigits
    have collected := collectDigits_of_fits numeral 0 0 (by rwa [value])
    have behind := afterDigits_append numeral endsNumeral_nil.endsDigits
    obtain ⟨digit, digits, written, nonzero⟩ := exists_toDigits_eq_cons positive
    rw [value] at collected
    rw [List.append_nil] at behind
    rw [written] at collected behind ⊢
    have isDigit := numeral digit (written ▸ List.mem_cons_self)
    rw [read]
    · simp only [isDigit, collected, behind, if_true]
      rfl
    · exact nonzero

end JsonNumber

namespace Node

/-- A tree that its text gives back: it has no flaw and no floating-point number, its integers fit
64 bits and its keys are texts. -/
inductive IsPlain : Node → Prop
  | null : IsPlain .null
  | boolean (value : Bool) : IsPlain (.boolean value)
  | integer (value : Int) (fits : fitsWord value = true) : IsPlain (.integer value)
  | string (value : String) : IsPlain (.string value)
  | list (items : List Node) (plain : ∀ item ∈ items, IsPlain item) : IsPlain (.ofList items)
  | object (members : List (String × Node)) (plain : ∀ member ∈ members, IsPlain member.2) :
      IsPlain (.ofMembers members)

end Node

namespace Json

theorem writes_integer {value : Int} (fits : fitsWord value = true) :
    Writes (.integer value) (chars (.integer value)) := by
  simp only [fitsWord, Bool.and_eq_true, decide_eq_true_eq] at fits
  cases value with
  | ofNat number =>
      have small : number ≤ JsonNumber.greatestSignificand := by
        have bound := fits.2
        simp only [JsonNumber.greatestSignificand, Int.ofNat_eq_natCast] at bound ⊢
        omega
      have written : chars (.integer (.ofNat number)) = Nat.toDigits 10 number := Nat.toList_repr
      have writes := Writes.natural (JsonNumber.isNumeral_toDigits number)
      rw [JsonNumber.read_toDigits small] at writes
      rw [written]
      exact writes
  | negSucc number =>
      have small : number + 1 ≤ 0x8000000000000000 := by
        have bound := fits.1
        omega
      have significand : number + 1 ≤ JsonNumber.greatestSignificand := by
        simp only [JsonNumber.greatestSignificand]
        omega
      have written : chars (.integer (.negSucc number)) = '-' :: Nat.toDigits 10 (number + 1) := by
        have signed : chars (.integer (.negSucc number)) = ("-" ++ (number + 1).repr).toList := rfl
        rw [signed, String.toList_append, Nat.toList_repr]
        rfl
      have node : JsonNumber.integerNode true (number + 1) = .integer (.negSucc number) := by
        simp only [JsonNumber.integerNode, if_true, Nat.add_one_ne_zero, if_false, small]
        rfl
      have writes := Writes.negative (JsonNumber.isNumeral_toDigits (number + 1))
      rw [JsonNumber.read_toDigits significand, node] at writes
      rw [written]
      exact writes

/-- The spelling of a text, with as few escapes as possible. -/
def spellingOf (text : String) : JsonString.Spelling where
  marks := text.toList.map escapeChar
  valid := by
    intro mark member
    obtain ⟨character, -, rfl⟩ := List.mem_map.mp member
    exact JsonString.isMark_escapeChar character

theorem chars_spellingOf (text : String) : '"' :: (spellingOf text).chars = stringChars text := by
  rw [JsonString.Spelling.chars, spellingOf, ← List.flatMap_def]
  rfl

theorem node_spellingOf (text : String) : (spellingOf text).node = .string text := by
  rw [JsonString.Spelling.node, JsonString.Spelling.chars, spellingOf, ← List.flatMap_def,
    JsonString.read_escaped]

/-! ### Compact lists and objects -/

def noSpace : Space :=
  ⟨[], nofun⟩

def itemOf (node : Node) : Item :=
  ⟨noSpace, node, chars node, noSpace⟩

def memberOf (member : String × Node) : Member :=
  ⟨noSpace, spellingOf member.1, noSpace, itemOf member.2⟩

theorem chars_itemOf (node : Node) : (itemOf node).chars = chars node :=
  List.append_nil _

theorem chars_memberOf (member : String × Node) :
    (memberOf member).chars = stringChars member.1 ++ ':' :: chars member.2 := by
  rw [Member.chars, memberOf, chars_itemOf, ← chars_spellingOf]
  rfl

theorem itemChars_eq_separated (items : List Node) :
    itemChars items = separated ((items.map itemOf).map Item.chars) := by
  induction items with
  | nil => rfl
  | cons item items induction =>
      cases items with
      | nil => simp [itemChars, separated, chars_itemOf]
      | cons next items =>
          rw [itemChars, induction]
          simp [separated, chars_itemOf]

/-- The members of an object with their keys as nodes. -/
def keyed (members : List (String × Node)) : List (Node × Node) :=
  members.map fun member => (.string member.1, member.2)

theorem memberChars_eq_separated (members : List (String × Node)) :
    memberChars (keyed members) = separated ((members.map memberOf).map Member.chars) := by
  induction members with
  | nil => rfl
  | cons member members induction =>
      cases members with
      | nil => simp [keyed, memberChars, separated, chars_memberOf, chars]
      | cons next members =>
          have later : memberChars (keyed (member :: next :: members)) =
              stringChars member.1 ++ ':' :: (chars member.2 ++
                ',' :: memberChars (keyed (next :: members))) := rfl
          rw [later, induction]
          simp [separated, chars_memberOf]

/-- The text of a plain tree is a JSON text. -/
theorem writes_chars {node : Node} (plain : node.IsPlain) : Writes node (chars node) := by
  induction plain with
  | null => exact .null
  | boolean value =>
      cases value with
      | true => exact .yes
      | false => exact .no
  | integer value fits => exact writes_integer fits
  | string value =>
      have writes := Writes.string (spellingOf value)
      rw [chars_spellingOf, node_spellingOf] at writes
      exact writes
  | list items plain induction =>
      have nodes : (items.map itemOf).map Item.node = items := by
        rw [List.map_map]
        exact List.map_id items
      have written : ∀ item ∈ items.map itemOf, Writes item.node item.text := by
        intro item member
        obtain ⟨node, listed, rfl⟩ := List.mem_map.mp member
        exact induction node listed
      have writes := Writes.list noSpace (items.map itemOf) written
      rw [nodes, ← itemChars_eq_separated] at writes
      exact writes
  | object members plain induction =>
      have nodes : (members.map memberOf).map Member.nodes = keyed members := by
        rw [List.map_map]
        exact List.map_congr_left fun member _ =>
          Prod.ext (node_spellingOf member.1) rfl
      have written : ∀ member ∈ members.map memberOf,
          Writes member.value.node member.value.text := by
        intro member listed
        obtain ⟨entry, given, rfl⟩ := List.mem_map.mp listed
        exact induction entry given
      have writes := Writes.object noSpace (members.map memberOf) written
      rw [nodes, ← memberChars_eq_separated] at writes
      exact writes

/-- The text of a plain tree is read as the tree, and nothing is left over. -/
theorem read_chars {node : Node} (plain : node.IsPlain) :
    read (chars node) = (node, some []) := by
  have reading := (writes_chars plain).readsAs.reads [] (3 * (chars node).length + 3)
    JsonNumber.endsNumeral_nil (by omega)
  rwa [List.append_nil] at reading

theorem spells_render {node : Node} (plain : node.IsPlain) : Spells (render node) node :=
  ⟨itemOf node, rfl, writes_chars plain, by rw [chars_itemOf, render, String.toList_ofList]⟩

/-- Plain trees with the same text are equal. -/
theorem render_inj {first second : Node} (firstPlain : first.IsPlain)
    (secondPlain : second.IsPlain) : render first = render second ↔ first = second := by
  refine ⟨fun same => ?_, congrArg render⟩
  have reading := read_chars firstPlain
  rw [String.ofList_inj.mp same, read_chars secondPlain] at reading
  exact (congrArg Prod.fst reading).symm

end Json

end Document

end GroupSync
