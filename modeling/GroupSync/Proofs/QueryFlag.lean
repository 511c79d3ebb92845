import GroupSync.Url.Reader
import Mathlib.Data.List.DropRight
import Mathlib.Data.List.TakeWhile

/-!
# A flag behind a question mark

A text is completed to a URL by a question mark and a flag.  The flag is the query of the URL
exactly if no number sign and no question mark comes before it, unless the text spells the same
query itself.
-/

namespace GroupSync

namespace Url

/-- The query of what follows a scheme: what stands behind the first question mark, up to the first
number sign. -/
def queryOf (text : List Char) : Option (List Char) :=
  (cut '?' (cut '#' text).1).2

/-- A flag that reading leaves as it is behind a question mark. -/
structure IsSteady (flag : List Char) : Prop where
  visible : ∀ character ∈ flag, 0x20 < character.toNat
  numberFree : '#' ∉ flag
  percentFree : '%' ∉ flag
  encoded : ∀ kind : SchemeKind, percentEncode kind.querySet flag = flag

/-- A text that may be followed by a question mark and a flag for the flag to be its query. -/
def MakesWay (text flag : List Char) : Prop :=
  ('#' ∉ text ∧ '?' ∉ text) ∨
    ∃ front behind, text = front ++ '?' :: flag ++ '#' :: behind ∧ '#' ∉ front ∧ '?' ∉ front

section Cutting

variable {sign : Char} {front text : List Char}

theorem cut_append_of_not_mem (free : sign ∉ front) (text : List Char) :
    cut sign (front ++ text) = (front ++ (cut sign text).1, (cut sign text).2) := by
  have passes : ∀ character ∈ front, (character != sign) = true := by
    intro character member
    refine bne_iff_ne.mpr ?_
    rintro rfl
    exact free member
  rw [cut, List.takeWhile_append_of_pos passes, List.dropWhile_append_of_pos passes]
  rfl

theorem cut_of_not_mem (free : sign ∉ text) : cut sign text = (text, none) := by
  simpa [cut] using cut_append_of_not_mem free []

@[simp]
theorem cut_cons_self (sign : Char) (text : List Char) :
    cut sign (sign :: text) = ([], some text) := by
  simp [cut]

end Cutting

variable {front text flag : List Char}

theorem queryOf_append_of_not_mem (numberFree : '#' ∉ front) (questionFree : '?' ∉ front)
    (text : List Char) : queryOf (front ++ text) = queryOf text := by
  rw [queryOf, cut_append_of_not_mem numberFree, cut_append_of_not_mem questionFree]
  rfl

/-- The first number sign ends the query. -/
theorem queryOf_append_numberSign (numberFree : '#' ∉ front) (text : List Char) :
    queryOf (front ++ '#' :: text) = (cut '?' front).2 := by
  rw [queryOf, cut_append_of_not_mem numberFree, cut_cons_self, List.append_nil]

theorem queryOf_questionMark (numberFree : '#' ∉ flag) : queryOf ('?' :: flag) = some flag := by
  have free : '#' ∉ '?' :: flag := by simpa using numberFree
  rw [queryOf, cut_of_not_mem free, cut_cons_self]

theorem queryOf_append_flag_iff (numberFree : '#' ∉ flag) :
    queryOf (text ++ '?' :: flag) = some flag ↔ MakesWay text flag := by
  constructor
  · intro query
    by_cases numbered : '#' ∈ text
    · obtain ⟨place, behind, rfl, placeFree⟩ := List.eq_append_cons_of_mem numbered
      -- The number sign cuts the flag off, so the query stands before it.
      rw [List.append_assoc, List.cons_append, queryOf_append_numberSign placeFree] at query
      by_cases questioned : '?' ∈ place
      · obtain ⟨front, rest, rfl, frontFree⟩ := List.eq_append_cons_of_mem questioned
        rw [cut_append_of_not_mem frontFree, cut_cons_self] at query
        obtain rfl : rest = flag := Option.some.inj query
        refine .inr ⟨front, behind, rfl, ?_, frontFree⟩
        exact fun member => placeFree (List.mem_append_left _ member)
      · rw [cut_of_not_mem questioned] at query
        cases query
    · refine .inl ⟨numbered, fun questioned => ?_⟩
      obtain ⟨front, rest, rfl, frontFree⟩ := List.eq_append_cons_of_mem questioned
      simp only [List.mem_append, List.mem_cons, not_or] at numbered
      have restFree : '#' ∉ rest ++ '?' :: flag := by
        simpa [numbered.2.2] using numberFree
      -- The query begins at the earlier question mark, so it is longer than the flag.
      rw [List.append_assoc, queryOf_append_of_not_mem numbered.1 frontFree, List.cons_append,
        queryOf_questionMark restFree] at query
      have lengths := congrArg List.length (Option.some.inj query)
      simp only [List.length_append, List.length_cons] at lengths
      omega
  · rintro (⟨textFree, questionFree⟩ | ⟨front, behind, rfl, frontFree, questionFree⟩)
    · rw [queryOf_append_of_not_mem textFree questionFree, queryOf_questionMark numberFree]
    · have flagFree : '#' ∉ '?' :: flag := by simpa using numberFree
      have spelled : front ++ '?' :: flag ++ '#' :: behind ++ '?' :: flag =
          front ++ ('?' :: flag ++ '#' :: (behind ++ '?' :: flag)) := by simp
      rw [spelled, queryOf_append_of_not_mem frontFree questionFree,
        queryOf_append_numberSign flagFree, cut_cons_self]

/-- A blank or control, which reading drops at the ends. -/
def isControl (character : Char) : Bool :=
  character.toNat ≤ 0x20

/-- A text without its tabs and line breaks. -/
def unbroken (text : List Char) : List Char :=
  text.filter fun character => character != '\t' && character != '\n' && character != '\r'

theorem unbroken_eq_self (visible : ∀ character ∈ text, 0x20 < character.toNat) :
    unbroken text = text := by
  refine List.filter_eq_self.mpr fun character member => ?_
  have shown := visible character member
  simp only [Bool.and_eq_true, bne_iff_ne]
  refine ⟨⟨?_, ?_⟩, ?_⟩
  · rintro rfl
    exact absurd shown (by decide)
  · rintro rfl
    exact absurd shown (by decide)
  · rintro rfl
    exact absurd shown (by decide)

theorem dropWhile_append_of_stop {belongs : Char → Bool} {sign : Char}
    (stops : belongs sign = false) (text rest : List Char) :
    (text ++ sign :: rest).dropWhile belongs = text.dropWhile belongs ++ sign :: rest := by
  cases dropped : text.dropWhile belongs with
  | nil => simp [List.dropWhile_append, dropped, stops]
  | cons character characters => simp [List.dropWhile_append, dropped]

theorem stripChars_append_flag (text : List Char)
    (visible : ∀ character ∈ flag, 0x20 < character.toNat) :
    Text.stripChars isControl (text ++ '?' :: flag) =
      text.dropWhile isControl ++ '?' :: flag := by
  rw [Text.stripChars, dropWhile_append_of_stop (by decide)]
  refine List.rdropWhile_eq_self_iff.mpr fun _ => ?_
  rw [List.getLast_append_of_ne_nil _ (List.cons_ne_nil _ _)]
  rcases List.mem_cons.mp (List.getLast_mem (List.cons_ne_nil '?' flag)) with last | last
  · rw [last]
    decide
  · have shown := visible _ last
    simp only [isControl, decide_eq_true_eq]
    omega

/-- Reading drops only blanks and controls in front of a flag. -/
theorem exists_tidy_append_flag (text : List Char)
    (visible : ∀ character ∈ flag, 0x20 < character.toNat) :
    ∃ dropped tidied, unbroken text = dropped ++ tidied ∧ '#' ∉ dropped ∧ '?' ∉ dropped ∧
      tidy (text ++ '?' :: flag) = tidied ++ '?' :: flag := by
  refine ⟨unbroken (text.takeWhile isControl), unbroken (text.dropWhile isControl), ?_, ?_, ?_, ?_⟩
  · rw [unbroken, unbroken, unbroken, ← List.filter_append, List.takeWhile_append_dropWhile]
  · intro member
    exact absurd (List.mem_takeWhile_imp (List.mem_filter.mp member).1) (by decide)
  · intro member
    exact absurd (List.mem_takeWhile_imp (List.mem_filter.mp member).1) (by decide)
  · have kept : unbroken ('?' :: flag) = '?' :: flag :=
      unbroken_eq_self (by simpa using visible)
    have tidied : tidy (text ++ '?' :: flag) =
        unbroken (Text.stripChars isControl (text ++ '?' :: flag)) := rfl
    rw [tidied, stripChars_append_flag text visible, unbroken, List.filter_append]
    exact congrArg _ kept

theorem dropWhile_of_splitScheme? {scheme rest : List Char}
    (found : splitScheme? text = some (scheme, rest)) :
    text.dropWhile isSchemeChar = ':' :: rest := by
  rw [splitScheme?] at found
  split at found
  · rename_i behind
    split at found
    · cases found
      exact behind
    · cases found
  · cases found

/-- A scheme in front of a flag ends at a colon that is in front of the flag as well. -/
theorem exists_of_splitScheme?_append_flag {scheme rest : List Char}
    (found : splitScheme? (text ++ '?' :: flag) = some (scheme, rest)) :
    ∃ name tail, text = name ++ ':' :: tail ∧ '#' ∉ name ∧ '?' ∉ name ∧
      rest = tail ++ '?' :: flag := by
  have colon := dropWhile_of_splitScheme? found
  rw [dropWhile_append_of_stop (by decide)] at colon
  have named : ∀ character ∈ text.takeWhile isSchemeChar, isSchemeChar character = true :=
    fun _ member => List.mem_takeWhile_imp member
  cases behind : text.dropWhile isSchemeChar with
  | nil => simp [behind] at colon
  | cons sign tail =>
      rw [behind, List.cons_append] at colon
      obtain ⟨rfl, rfl⟩ := List.cons.inj colon
      refine ⟨text.takeWhile isSchemeChar, tail, ?_, ?_, ?_, rfl⟩
      · rw [← behind, List.takeWhile_append_dropWhile]
      · exact fun member => absurd (named _ member) (by decide)
      · exact fun member => absurd (named _ member) (by decide)

theorem query_of_readTidy {url : Url} (read : readTidy text = .ok url) :
    ∃ scheme rest, splitScheme? text = some (scheme, rest) ∧
      url.query = (queryOf rest).map (percentEncode (SchemeKind.of scheme).querySet) := by
  rw [readTidy] at read
  cases split : splitScheme? text with
  | none =>
      rw [split] at read
      cases read
  | some found =>
      obtain ⟨scheme, rest⟩ := found
      refine ⟨scheme, rest, rfl, ?_⟩
      rw [split] at read
      simp only [bind, Except.bind] at read
      split at read
      · cases read
      · cases read
        rfl

theorem encodeChar_eq_singleton {encoded : EncodeSet} {character : Char}
    (percentFree : '%' ∉ encodeChar encoded character) :
    encodeChar encoded character = [character] := by
  rw [encodeChar] at percentFree ⊢
  split
  · rfl
  · rename_i written
    rw [if_neg written] at percentFree
    obtain ⟨byte, bytes, coded⟩ :=
      List.exists_cons_of_ne_nil (String.utf8EncodeChar_ne_nil (c := character))
    simp [coded, encodeByte] at percentFree

theorem percentEncode_eq_self {encoded : EncodeSet}
    (percentFree : '%' ∉ percentEncode encoded text) : percentEncode encoded text = text := by
  induction text with
  | nil => rfl
  | cons character text induction =>
      rw [percentEncode, List.flatMap_cons] at percentFree ⊢
      rw [List.mem_append, not_or] at percentFree
      rw [encodeChar_eq_singleton percentFree.1]
      exact congrArg (character :: ·) (induction percentFree.2)

/-- A text without percent signs that is its own encoded form is that of no other text. -/
theorem percentEncode_eq_iff {encoded : EncodeSet} (percentFree : '%' ∉ flag)
    (settled : percentEncode encoded flag = flag) :
    percentEncode encoded text = flag ↔ text = flag := by
  constructor
  · rintro rfl
    exact (percentEncode_eq_self percentFree).symm
  · rintro rfl
    exact settled

theorem IsSteady.map_percentEncode_eq_some_iff (steady : IsSteady flag) {kind : SchemeKind}
    {query : Option (List Char)} :
    query.map (percentEncode kind.querySet) = some flag ↔ query = some flag := by
  cases query with
  | none => simp
  | some text =>
      rw [Option.map_some, Option.some.injEq, Option.some.injEq]
      exact percentEncode_eq_iff steady.percentFree (steady.encoded kind)

/-- A flag behind a question mark is the query exactly if what comes before makes way for it. -/
theorem query_eq_some_iff (steady : IsSteady flag) {url : Url}
    (read : Url.read (String.ofList (text ++ '?' :: flag)) = .ok url) :
    url.query = some flag ↔ MakesWay (unbroken text) flag := by
  obtain ⟨dropped, tidied, parts, droppedNumber, droppedQuestion, tidies⟩ :=
    exists_tidy_append_flag text steady.visible
  rw [Url.read, String.toList_ofList, tidies] at read
  obtain ⟨scheme, rest, found, query⟩ := query_of_readTidy read
  obtain ⟨name, tail, rfl, nameNumber, nameQuestion, rfl⟩ :=
    exists_of_splitScheme?_append_flag found
  have colonNumber : '#' ∉ name ++ [':'] := by simpa using nameNumber
  have colonQuestion : '?' ∉ name ++ [':'] := by simpa using nameQuestion
  have spelled : unbroken text ++ '?' :: flag =
      dropped ++ ((name ++ [':']) ++ (tail ++ '?' :: flag)) := by
    simp [parts]
  rw [query, steady.map_percentEncode_eq_some_iff, ← queryOf_append_flag_iff steady.numberFree,
    spelled, queryOf_append_of_not_mem droppedNumber droppedQuestion,
    queryOf_append_of_not_mem colonNumber colonQuestion]

end Url

end GroupSync
