import GroupSync.Proofs.JsonTokens

/-!
# The grammar of JSON texts

What a JSON text is, with the tree that it stands for: words, strings, numerals, and lists and
objects of such texts, with spaces between the signs.  Every text of the grammar is read to its end
and gives its tree, which can be passed over at any depth.
-/

namespace GroupSync

namespace Document

namespace Json

open JsonNumber (EndsNumeral)

/-- Spaces between the signs of a text. -/
structure Space where
  chars : List Char
  blank : ∀ character ∈ chars, isSpace character = true

/-- A text with its tree, and the spaces around it. -/
structure Item where
  before : Space
  node : Node
  text : List Char
  after : Space

def Item.chars (item : Item) : List Char :=
  item.before.chars ++ (item.text ++ item.after.chars)

/-- A member of an object, with the spaces on both sides of its colon and around it. -/
structure Member where
  before : Space
  key : JsonString.Spelling
  gap : Space
  value : Item

namespace Member

def chars (member : Member) : List Char :=
  member.before.chars ++
    '"' :: (member.key.chars ++ (member.gap.chars ++ ':' :: member.value.chars))

def nodes (member : Member) : Node × Node :=
  (member.key.node, member.value.node)

end Member

/-- Texts with commas between them. -/
def separated : List (List Char) → List Char
  | [] => []
  | text :: texts => text ++ texts.flatMap (',' :: ·)

/-- A text is a JSON value and stands for a tree. -/
inductive Writes : Node → List Char → Prop
  | null : Writes .null ['n', 'u', 'l', 'l']
  | yes : Writes (.boolean true) ['t', 'r', 'u', 'e']
  | no : Writes (.boolean false) ['f', 'a', 'l', 's', 'e']
  | string (spelling : JsonString.Spelling) : Writes spelling.node ('"' :: spelling.chars)
  | natural {numeral : List Char} (isNumeral : JsonNumber.IsNumeral numeral) :
      Writes (JsonNumber.read false numeral).1 numeral
  | negative {numeral : List Char} (isNumeral : JsonNumber.IsNumeral numeral) :
      Writes (JsonNumber.read true numeral).1 ('-' :: numeral)
  | list (space : Space) (items : List Item)
      (written : ∀ item ∈ items, Writes item.node item.text) :
      Writes (.list (items.map Item.node) none)
        ('[' :: (space.chars ++ (separated (items.map Item.chars) ++ [']'])))
  | object (space : Space) (members : List Member)
      (written : ∀ member ∈ members, Writes member.value.node member.value.text) :
      Writes (.object (members.map Member.nodes) none)
        ('\x7b' :: (space.chars ++ (separated (members.map Member.chars) ++ ['\x7d'])))

/-- A text is read as a tree, whatever follows that cannot prolong a numeral. -/
structure ReadsAs (node : Node) (text : List Char) : Prop where
  /-- The text begins neither with a space nor with the end of a list. -/
  opens : ∃ head tail, text = head :: tail ∧ isSpace head = false ∧ head ≠ ']'
  reads : ∀ rest fuel, EndsNumeral rest → 3 * text.length ≤ fuel →
    readValue fuel (text ++ rest) = (node, some rest)

theorem ReadsAs.positive {node : Node} {text : List Char} (reads : ReadsAs node text) :
    0 < text.length := by
  obtain ⟨head, tail, rfl, -⟩ := reads.opens
  exact Nat.succ_pos tail.length

/-! ### Spaces -/

theorem skipSpace_cons {head : Char} (visible : isSpace head = false) (rest : List Char) :
    skipSpace (head :: rest) = head :: rest :=
  List.dropWhile_cons_of_neg (by simp [visible])

theorem skipSpace_append (space : Space) (rest : List Char) :
    skipSpace (space.chars ++ rest) = skipSpace rest :=
  List.dropWhile_append_of_pos space.blank

theorem isSpace_of_isDigit {character : Char} (isDigit : character.isDigit = true) :
    isSpace character = false := by
  rw [Bool.eq_false_iff]
  intro space
  simp only [isSpace, Bool.or_eq_true, beq_iff_eq] at space
  rcases space with ((rfl | rfl) | rfl) | rfl <;> cases isDigit

theorem endsNumeral_of_isSpace {character : Char} (space : isSpace character = true)
    (rest : List Char) : EndsNumeral (character :: rest) := by
  rintro _ _ ⟨⟩
  simp only [isSpace, Bool.or_eq_true, beq_iff_eq] at space
  rcases space with ((rfl | rfl) | rfl) | rfl <;> decide

theorem endsNumeral_cons {next : Char} {later : List Char}
    (foreign : next ∈ [',', ']', '\x7d']) : EndsNumeral (next :: later) := by
  rintro _ _ ⟨⟩
  simp only [List.mem_cons, List.not_mem_nil, or_false] at foreign
  rcases foreign with rfl | rfl | rfl <;> decide

theorem endsNumeral_space_append (space : Space) {rest : List Char} (ends : EndsNumeral rest) :
    EndsNumeral (space.chars ++ rest) := by
  obtain ⟨chars, blank⟩ := space
  cases chars with
  | nil => exact ends
  | cons character chars => exact endsNumeral_of_isSpace (blank character List.mem_cons_self) _

theorem readValue_space (fuel : Nat) (space : Space) (rest : List Char) :
    readValue fuel (space.chars ++ rest) = readValue fuel rest := by
  cases fuel with
  | zero => rfl
  | succ fuel => rw [readValue, readValue, skipSpace_append]

/-! ### Leaves -/

theorem leaf_of_passed {node : Node} (passed : node.skipFault? = none) (rest : List Char) :
    leaf node rest = (node, some rest) := by
  rw [leaf, passed]

theorem readValue_digit {digit : Char} (isDigit : digit.isDigit = true) (fuel : Nat)
    (rest : List Char) :
    readValue (fuel + 1) (digit :: rest) =
      leaf (JsonNumber.read false (digit :: rest)).1
        (JsonNumber.read false (digit :: rest)).2 := by
  rw [readValue, skipSpace_cons (isSpace_of_isDigit isDigit)]
  split
  case h_9 same => cases same; simp [isDigit]
  case h_1 same => cases same
  all_goals
    rename_i same
    cases same
    cases isDigit

theorem exists_numeral_eq_cons {numeral : List Char} (isNumeral : JsonNumber.IsNumeral numeral) :
    ∃ digit digits, numeral = digit :: digits ∧ digit.isDigit = true := by
  obtain ⟨⟨present, digits⟩, canonical, isFraction, isExponent⟩ := isNumeral
  obtain ⟨digit, later, rfl⟩ := List.exists_cons_of_ne_nil present
  exact ⟨digit, _, rfl, digits digit List.mem_cons_self⟩

/-- A word is read letter by letter, and its first letter tells which word it is. -/
theorem readsAs_word {node : Node} {head : Char} {tail : List Char} (visible : isSpace head = false)
    (noBracket : head ≠ ']')
    (reads : ∀ fuel rest, readValue (fuel + 1) (head :: (tail ++ rest)) = (node, some rest)) :
    ReadsAs node (head :: tail) where
  opens := ⟨head, tail, rfl, visible, noBracket⟩
  reads := by
    intro rest fuel _ enough
    obtain ⟨fuel, rfl⟩ : ∃ less, fuel = less + 1 :=
      Nat.exists_eq_succ_of_ne_zero (by simp at enough; omega)
    exact reads fuel rest

theorem readsAs_natural {numeral : List Char} (isNumeral : JsonNumber.IsNumeral numeral) :
    ReadsAs (JsonNumber.read false numeral).1 numeral := by
  have passed := isNumeral.skipFault?_read false
  have reads (rest : List Char) (ends : EndsNumeral rest) := isNumeral.read_append false ends
  obtain ⟨digit, digits, rfl, isDigit⟩ := exists_numeral_eq_cons isNumeral
  constructor
  · refine ⟨digit, digits, rfl, isSpace_of_isDigit isDigit, ?_⟩
    rintro rfl
    cases isDigit
  · intro rest fuel ends enough
    obtain ⟨fuel, rfl⟩ : ∃ less, fuel = less + 1 :=
      Nat.exists_eq_succ_of_ne_zero (by simp at enough; omega)
    have numeral := reads rest ends
    rw [List.cons_append] at numeral ⊢
    rw [readValue_digit isDigit, numeral, leaf_of_passed passed]

theorem readsAs_negative {numeral : List Char} (isNumeral : JsonNumber.IsNumeral numeral) :
    ReadsAs (JsonNumber.read true numeral).1 ('-' :: numeral) where
  opens := ⟨_, _, rfl, by decide, by decide⟩
  reads := by
    intro rest fuel ends enough
    obtain ⟨fuel, rfl⟩ : ∃ less, fuel = less + 1 :=
      Nat.exists_eq_succ_of_ne_zero (by simp at enough; omega)
    rw [List.cons_append, readValue, skipSpace_cons (by decide)]
    simp only [isNumeral.read_append true ends]
    exact leaf_of_passed (isNumeral.skipFault?_read true) rest

theorem readsAs_string (spelling : JsonString.Spelling) :
    ReadsAs spelling.node ('"' :: spelling.chars) :=
  readsAs_word (by decide) (by decide) fun fuel rest => by
    rw [readValue, skipSpace_cons (by decide)]
    simp only [JsonString.read_append]
    exact leaf_of_passed (JsonString.skipFault?_node spelling) rest

/-! ### Lists -/

theorem readMoreItems_space (fuel : Nat) (space : Space) (rest : List Char) :
    readMoreItems fuel (space.chars ++ rest) = readMoreItems fuel rest := by
  cases fuel with
  | zero => rfl
  | succ fuel => rw [readMoreItems, readMoreItems, skipSpace_append]

theorem readMoreItems_close (fuel : Nat) (rest : List Char) :
    readMoreItems (fuel + 1) (']' :: rest) = ([], none, some rest) :=
  rfl

theorem readMoreItems_comma {head : Char} (visible : isSpace head = false)
    (noBracket : head ≠ ']') (fuel : Nat) (space : Space) (tail : List Char) :
    readMoreItems (fuel + 1) (',' :: (space.chars ++ head :: tail)) =
      readItem fuel (head :: tail) := by
  have comma : isSpace ',' = false := by decide
  simp only [readMoreItems, skipSpace_cons comma, skipSpace_append, skipSpace_cons visible]
  split
  · rename_i same
    cases same
    exact absurd rfl noBracket
  · rfl

/-- Items that are read as their trees make a list, from the text of the first of them on. -/
theorem readItem_items {item : Item} {items : List Item} (reads : ReadsAs item.node item.text)
    (readsLater : ∀ other ∈ items, ReadsAs other.node other.text) (rest : List Char) {fuel : Nat}
    (enough : 3 * (item.text.length + (items.flatMap (',' :: ·.chars)).length) + 1 ≤ fuel) :
    readItem fuel (item.text ++ (item.after.chars ++
        (items.flatMap (',' :: ·.chars) ++ ']' :: rest))) =
      ((item :: items).map Item.node, none, some rest) := by
  -- An item and the sign behind it take two steps, which its first character pays for.
  have positive := reads.positive
  induction items generalizing item fuel with
  | nil =>
      simp only [List.flatMap_nil, List.length_nil] at enough
      obtain ⟨fuel, rfl⟩ : ∃ less, fuel = less + 2 := ⟨fuel - 2, by omega⟩
      have ends : EndsNumeral (']' :: rest) := endsNumeral_cons (by decide)
      rw [List.flatMap_nil, List.nil_append, readItem,
        reads.reads _ (fuel + 1) (endsNumeral_space_append item.after ends) (by omega)]
      simp only [readMoreItems_space, readMoreItems_close]
      rfl
  | cons next items induction =>
      have readsNext := readsLater next List.mem_cons_self
      have regroup : (next :: items).flatMap (',' :: ·.chars) ++ ']' :: rest =
          ',' :: (next.before.chars ++ (next.text ++ (next.after.chars ++
            (items.flatMap (',' :: ·.chars) ++ ']' :: rest)))) := by
        simp [Item.chars]
      have length := congrArg List.length regroup
      simp only [List.length_append, List.length_cons] at length
      obtain ⟨fuel, rfl⟩ : ∃ less, fuel = less + 2 := ⟨fuel - 2, by omega⟩
      have enoughLater :
          3 * (next.text.length + (items.flatMap (',' :: ·.chars)).length) + 1 ≤ fuel := by omega
      have later := induction readsNext
        (fun other member => readsLater other (List.mem_cons_of_mem _ member)) enoughLater
        readsNext.positive
      have ends : EndsNumeral ((next :: items).flatMap (',' :: ·.chars) ++ ']' :: rest) := by
        rw [regroup]
        exact endsNumeral_cons (by decide)
      rw [readItem, reads.reads _ (fuel + 1) (endsNumeral_space_append item.after ends) (by omega)]
      obtain ⟨head, tail, spelled, visible, noBracket⟩ := readsNext.opens
      rw [spelled, List.cons_append] at later regroup
      simp only [readMoreItems_space, regroup, readMoreItems_comma visible noBracket, later]
      rfl

theorem readsAs_list (space : Space) {items : List Item}
    (reads : ∀ item ∈ items, ReadsAs item.node item.text) :
    ReadsAs (.list (items.map Item.node) none)
      ('[' :: (space.chars ++ (separated (items.map Item.chars) ++ [']']))) where
  opens := ⟨_, _, rfl, by decide, by decide⟩
  reads := by
    intro rest fuel _ enough
    simp only [List.length_cons, List.length_append, List.length_nil] at enough
    obtain ⟨fuel, rfl⟩ : ∃ less, fuel = less + 2 := ⟨fuel - 2, by omega⟩
    have inner : readItems (fuel + 1)
        (space.chars ++ (separated (items.map Item.chars) ++ ']' :: rest)) =
          (items.map Item.node, none, some rest) := by
      cases items with
      | nil =>
          simp only [List.map_nil, separated, List.nil_append, readItems, skipSpace_append]
          rfl
      | cons item items =>
          have first := reads item List.mem_cons_self
          have regroup : separated ((item :: items).map Item.chars) ++ ']' :: rest =
              item.before.chars ++ (item.text ++ (item.after.chars ++
                (items.flatMap (',' :: ·.chars) ++ ']' :: rest))) := by
            simp [separated, Item.chars, List.flatMap_map]
          have length := congrArg List.length regroup
          simp only [List.length_append, List.length_cons] at length
          have enoughItems :
              3 * (item.text.length + (items.flatMap (',' :: ·.chars)).length) + 1 ≤ fuel := by
            omega
          have reading := readItem_items first
            (fun other member => reads other (List.mem_cons_of_mem _ member)) rest enoughItems
          obtain ⟨head, tail, spelled, visible, noBracket⟩ := first.opens
          rw [spelled, List.cons_append] at reading regroup
          rw [regroup, readItems, skipSpace_append, skipSpace_append, skipSpace_cons visible]
          split
          · rename_i same
            cases same
          · rename_i same
            cases same
            exact absurd rfl noBracket
          · exact reading
    have bracket : isSpace '[' = false := by decide
    rw [List.cons_append, List.append_assoc, List.append_assoc, List.singleton_append, readValue,
      skipSpace_cons bracket]
    simp only [inner]

/-! ### Objects -/

theorem readMoreMembers_space (fuel : Nat) (space : Space) (rest : List Char) :
    readMoreMembers fuel (space.chars ++ rest) = readMoreMembers fuel rest := by
  cases fuel with
  | zero => rfl
  | succ fuel => rw [readMoreMembers, readMoreMembers, skipSpace_append]

theorem readMoreMembers_close (fuel : Nat) (rest : List Char) :
    readMoreMembers (fuel + 1) ('\x7d' :: rest) = ([], none, some rest) :=
  rfl

theorem readMoreMembers_comma (fuel : Nat) (space : Space) (rest : List Char) :
    readMoreMembers (fuel + 1) (',' :: (space.chars ++ '"' :: rest)) = readMember fuel rest := by
  have comma : isSpace ',' = false := by decide
  have quote : isSpace '"' = false := by decide
  simp only [readMoreMembers, skipSpace_cons comma, skipSpace_append, skipSpace_cons quote]

/-- A member is read behind the opening quote of its key. -/
theorem readMember_append {member : Member} (reads : ReadsAs member.value.node member.value.text)
    {rest : List Char} (ends : EndsNumeral rest) {fuel : Nat}
    (enough : 3 * member.value.text.length ≤ fuel) :
    readMember (fuel + 1)
        (member.key.chars ++ (member.gap.chars ++ ':' :: (member.value.chars ++ rest))) =
      (member.nodes :: (readMoreMembers fuel rest).1, (readMoreMembers fuel rest).2) := by
  have colon : isSpace ':' = false := by decide
  have value := reads.reads _ fuel (endsNumeral_space_append member.value.after ends) enough
  rw [readMember]
  simp only [JsonString.read_append, leaf_of_passed (JsonString.skipFault?_node member.key),
    skipSpace_append, skipSpace_cons colon, Item.chars, List.append_assoc, readValue_space, value,
    readMoreMembers_space]
  rfl

/-- Members whose values are read as their trees make an object, from the first key on. -/
theorem readMember_members {member : Member} {members : List Member}
    (reads : ReadsAs member.value.node member.value.text)
    (readsLater : ∀ other ∈ members, ReadsAs other.value.node other.value.text)
    (rest : List Char) {fuel : Nat}
    (enough :
      3 * (member.value.text.length + (members.flatMap (',' :: ·.chars)).length) + 1 ≤ fuel) :
    readMember fuel (member.key.chars ++ (member.gap.chars ++ ':' :: (member.value.chars ++
        (members.flatMap (',' :: ·.chars) ++ '\x7d' :: rest)))) =
      ((member :: members).map Member.nodes, none, some rest) := by
  have positive := reads.positive
  induction members generalizing member fuel with
  | nil =>
      simp only [List.flatMap_nil, List.length_nil] at enough
      obtain ⟨fuel, rfl⟩ : ∃ less, fuel = less + 2 := ⟨fuel - 2, by omega⟩
      rw [List.flatMap_nil, List.nil_append,
        readMember_append reads (endsNumeral_cons (by decide)) (by omega), readMoreMembers_close]
      rfl
  | cons next members induction =>
      have readsNext := readsLater next List.mem_cons_self
      have regroup : (next :: members).flatMap (',' :: ·.chars) ++ '\x7d' :: rest =
          ',' :: (next.before.chars ++ '"' :: (next.key.chars ++ (next.gap.chars ++ ':' ::
            (next.value.chars ++ (members.flatMap (',' :: ·.chars) ++ '\x7d' :: rest))))) := by
        simp [Member.chars]
      have length := congrArg List.length regroup
      simp only [List.length_append, List.length_cons, Item.chars] at length
      obtain ⟨fuel, rfl⟩ : ∃ less, fuel = less + 2 := ⟨fuel - 2, by omega⟩
      have enoughLater :
          3 * (next.value.text.length + (members.flatMap (',' :: ·.chars)).length) + 1 ≤ fuel := by
        omega
      have later := induction readsNext
        (fun other member => readsLater other (List.mem_cons_of_mem _ member)) enoughLater
        readsNext.positive
      have ends : EndsNumeral ((next :: members).flatMap (',' :: ·.chars) ++ '\x7d' :: rest) := by
        rw [regroup]
        exact endsNumeral_cons (by decide)
      rw [readMember_append reads ends (by omega), regroup, readMoreMembers_comma, later]
      rfl

theorem readsAs_object (space : Space) {members : List Member}
    (reads : ∀ member ∈ members, ReadsAs member.value.node member.value.text) :
    ReadsAs (.object (members.map Member.nodes) none)
      ('\x7b' :: (space.chars ++ (separated (members.map Member.chars) ++ ['\x7d']))) where
  opens := ⟨_, _, rfl, by decide, by decide⟩
  reads := by
    intro rest fuel _ enough
    simp only [List.length_cons, List.length_append, List.length_nil] at enough
    obtain ⟨fuel, rfl⟩ : ∃ less, fuel = less + 2 := ⟨fuel - 2, by omega⟩
    have inner : readMembers (fuel + 1)
        (space.chars ++ (separated (members.map Member.chars) ++ '\x7d' :: rest)) =
          (members.map Member.nodes, none, some rest) := by
      cases members with
      | nil =>
          simp only [List.map_nil, separated, List.nil_append, readMembers, skipSpace_append]
          rfl
      | cons member members =>
          have quote : isSpace '"' = false := by decide
          have regroup : separated ((member :: members).map Member.chars) ++ '\x7d' :: rest =
              member.before.chars ++ '"' :: (member.key.chars ++ (member.gap.chars ++ ':' ::
                (member.value.chars ++
                  (members.flatMap (',' :: ·.chars) ++ '\x7d' :: rest)))) := by
            simp [separated, Member.chars, List.flatMap_map]
          have length := congrArg List.length regroup
          simp only [List.length_append, List.length_cons, Item.chars] at length
          have enoughMembers : 3 * (member.value.text.length +
              (members.flatMap (',' :: ·.chars)).length) + 1 ≤ fuel := by
            omega
          rw [regroup, readMembers, skipSpace_append, skipSpace_append, skipSpace_cons quote]
          exact readMember_members (reads member List.mem_cons_self)
            (fun other later => reads other (List.mem_cons_of_mem _ later)) rest enoughMembers
    have brace : isSpace '\x7b' = false := by decide
    rw [List.cons_append, List.append_assoc, List.append_assoc, List.singleton_append, readValue,
      skipSpace_cons brace]
    simp only [inner]

/-- Every text of the grammar is read as its tree. -/
theorem Writes.readsAs {node : Node} {text : List Char} (writes : Writes node text) :
    ReadsAs node text := by
  induction writes with
  | null => exact readsAs_word (by decide) (by decide) fun fuel rest => rfl
  | yes => exact readsAs_word (by decide) (by decide) fun fuel rest => rfl
  | no => exact readsAs_word (by decide) (by decide) fun fuel rest => rfl
  | string spelling => exact readsAs_string spelling
  | natural isNumeral => exact readsAs_natural isNumeral
  | negative isNumeral => exact readsAs_negative isNumeral
  | list space items written reads => exact readsAs_list space reads
  | object space members written reads => exact readsAs_object space reads

/-- Whatever its values are, a text of the grammar can be passed over. -/
theorem Writes.skipFault?_eq_none {node : Node} {text : List Char} (writes : Writes node text) :
    node.skipFault? = none := by
  induction writes with
  | null => rfl
  | yes => rfl
  | no => rfl
  | string spelling => exact JsonString.skipFault?_node spelling
  | natural isNumeral => exact isNumeral.skipFault?_read false
  | negative isNumeral => exact isNumeral.skipFault?_read true
  | list space items written passed =>
      have all : Node.skipItems (items.map Item.node) = none := by
        clear written
        induction items with
        | nil => rfl
        | cons item items induction =>
            rw [List.map_cons, Node.skipItems, passed item List.mem_cons_self]
            exact induction fun other member => passed other (List.mem_cons_of_mem _ member)
      rw [Node.skipFault?, all]
      rfl
  | object space members written passed =>
      have all : Node.skipMembers (members.map Member.nodes) = none := by
        clear written
        induction members with
        | nil => rfl
        | cons member members induction =>
            rw [List.map_cons, Member.nodes, Node.skipMembers, JsonString.skipFault?_node,
              passed member List.mem_cons_self]
            exact induction fun other later => passed other (List.mem_cons_of_mem _ later)
      rw [Node.skipFault?, all]
      rfl

/-- A text is a JSON text that stands for a tree: a value with spaces around it. -/
def Spells (text : String) (node : Node) : Prop :=
  ∃ item : Item, item.node = node ∧ Writes item.node item.text ∧ item.chars = text.toList

/-- A JSON text is decoded by asking its tree. -/
theorem decode_of_spells {α : Type} (ask : Node → Decoded α) {text : String} {node : Node}
    (spells : Spells text node) : decode ask text = ask node := by
  obtain ⟨item, rfl, writes, spelled⟩ := spells
  have reading : read text.toList = (item.node, some item.after.chars) := by
    have ends : EndsNumeral item.after.chars := by
      have empty := endsNumeral_space_append item.after JsonNumber.endsNumeral_nil
      rwa [List.append_nil] at empty
    rw [← spelled, Item.chars, read, readValue_space]
    refine writes.readsAs.reads _ _ ends ?_
    simp only [List.length_append]
    omega
  have nothing : skipSpace item.after.chars = [] := by
    have empty := skipSpace_append item.after []
    rwa [List.append_nil] at empty
  simp only [decode, reading, nothing]
  cases ask item.node <;> rfl

end Json

end Document

end GroupSync
