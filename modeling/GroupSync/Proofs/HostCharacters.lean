import GroupSync.Proofs.Utf8RoundTrip
import GroupSync.Url.Domain

/-!
# Blanks and controls in host names

Decoding, folding, composing and encoding a name leave a blank or control where it stands, and none
may stand in the name of a host.  So no text with a blank or control is one.
-/

namespace GroupSync

namespace Text

namespace Utf8

theorem le_of_isContinuation {byte : UInt8} (continues : isContinuation byte = true) :
    0x80 ≤ byte := by
  simp only [isContinuation, Bool.and_eq_true, decide_eq_true_eq] at continues
  exact continues.1

/-- The second byte of a character with more than two bytes is none of ASCII. -/
theorem le_of_second {lead second : UInt8}
    (fits : ¬ (second < leastSecond lead || greatestSecond lead < second) = true) :
    0x80 ≤ second := by
  have least : 0x80 ≤ leastSecond lead := by
    rw [leastSecond]
    split
    · decide
    · split
      · decide
      · decide
  simp only [Bool.or_eq_true, decide_eq_true_eq, not_or, UInt8.not_lt] at fits
  exact UInt8.le_trans least fits.1

/-- A character has up to three bytes behind its first one, and they are none of ASCII. -/
theorem le_of_mem_take_head {lead byte : UInt8} {rest : List UInt8} {value : Char} {further : Nat}
    (read : head lead rest = .character value further) (member : byte ∈ rest.take further) :
    0x80 ≤ byte := by
  revert read
  fun_cases head lead rest with
  | case1 =>
      rintro ⟨⟩
      cases member
  | case2 _ _ second later continues =>
      rintro ⟨⟩
      obtain rfl : byte = second := by simpa using member
      exact le_of_isContinuation continues
  | case9 _ _ _ second fits third later continues =>
      rintro ⟨⟩
      obtain rfl | rfl : byte = second ∨ byte = third := by simpa using member
      · exact le_of_second fits
      · exact le_of_isContinuation (by simpa using continues)
  | case11 _ _ _ second fits third continues _ fourth later ends =>
      rintro ⟨⟩
      obtain rfl | rfl | rfl : byte = second ∨ byte = third ∨ byte = fourth := by
        simpa using member
      · exact le_of_second fits
      · exact le_of_isContinuation (by simpa using continues)
      · exact le_of_isContinuation ends
  | _ => rintro ⟨⟩

end Utf8

/-- A blank or control is no visible character. -/
theorem ne_of_low {sign other : Char} (low : sign.toNat ≤ 0x20) (visible : 0x20 < other.toNat) :
    sign ≠ other := by
  rintro rfl
  omega

/-- A byte of ASCII is a character of the text that the bytes spell. -/
theorem mem_of_decodeUtf8? {bytes : List UInt8} {text : List Char} {byte : UInt8}
    (spelled : decodeUtf8? bytes = some text) (low : byte.toNat < 0x80) (member : byte ∈ bytes) :
    Char.ofNat byte.toNat ∈ text := by
  rw [decodeUtf8?] at spelled
  induction bytes using Utf8.heads.induct generalizing text with
  | case1 => cases member
  | case2 lead rest =>
      rename_i first skipped induction
      rw [Utf8.heads] at spelled
      cases read : Utf8.head lead rest with
      | illFormed further =>
          rw [read, List.mapM_cons] at spelled
          cases spelled
      | character value further =>
          simp only [read, List.mapM_cons, Utf8.Head.character?, Option.bind_eq_bind,
            Option.bind_some, Option.bind_eq_some_iff] at spelled
          obtain ⟨characters, later, ⟨⟩⟩ := spelled
          -- The byte is the first of its character, for the bytes behind it are none of ASCII.
          rcases List.mem_cons.mp member with rfl | member
          · rw [Utf8.head_one low] at read
            cases read
            exact List.mem_cons_self
          · rw [← List.take_append_drop further rest] at member
            rcases List.mem_append.mp member with continuing | behind
            · have high := Utf8.le_of_mem_take_head read continuing
              exact absurd low (UInt8.not_lt.mpr high)
            · have skips : skipped = further := by simp only [skipped, first, read]
              rw [skips] at induction
              exact List.mem_cons_of_mem _ (induction later behind)

theorem exists_mem_of_mapM {α β : Type} {step : α → Option β} {items : List α} {values : List β}
    {item : α} (made : items.mapM step = some values) (member : item ∈ items) :
    ∃ value ∈ values, step item = some value := by
  induction items generalizing values with
  | nil => cases member
  | cons first items induction =>
      rw [List.mapM_cons] at made
      obtain ⟨value, stepped, made⟩ := Option.bind_eq_some_iff.mp made
      obtain ⟨others, later, ⟨⟩⟩ := Option.bind_eq_some_iff.mp made
      rcases List.mem_cons.mp member with rfl | member
      · exact ⟨value, List.mem_cons_self, stepped⟩
      · obtain ⟨found, listed, same⟩ := induction later member
        exact ⟨found, List.mem_cons_of_mem _ listed, same⟩

/-- Every line of a table holds only entries of a kind. -/
theorem CodeTable.all_read_cons {isKind : List Nat → Bool} {line : List Char} {lines : List String}
    (here : ((line.splitOn ' ').filter fun entry => !entry.isEmpty).all
      (fun entry => isKind (readEntry entry)) = true)
    (later : (read lines).all isKind = true) :
    (read (String.ofList line :: lines)).all isKind = true := by
  rw [read, List.flatMap_cons, List.all_append, Bool.and_eq_true, String.toList_ofList,
    List.all_map]
  exact ⟨here, later⟩

namespace Composition

theorem all_compositionTable :
    List.all compositionTable (List.all · fun number => 0x20 < number) = true := by
  rw [compositionTable]
  repeat' refine CodeTable.all_read_cons (by decide +kernel) ?_
  rfl

/-- No blank or control is composed, and none is a part of a composed character. -/
theorem lt_of_mem_compositionTable {entry : List Nat} {number : Nat}
    (listed : entry ∈ compositionTable) (member : number ∈ entry) : 0x20 < number :=
  of_decide_eq_true
    (List.all_eq_true.mp (List.all_eq_true.mp all_compositionTable entry listed) number member)

section Kept

variable {sign : Char}

theorem takeApart_eq_singleton (low : sign.toNat ≤ 0x20) (steps : Nat) :
    takeApart steps sign = [sign] := by
  cases steps with
  | zero => rfl
  | succ steps =>
      have whole : parts? sign = none := by
        have unlisted : (compositionTable.find? fun entry =>
            entry.getLast? == some sign.toNat) = none := by
          refine List.find?_eq_none.mpr fun entry listed last => ?_
          have shown := lt_of_mem_compositionTable listed
            (List.mem_of_getLast? (beq_iff_eq.mp last))
          omega
        rw [parts?, unlisted]
        rfl
      have noSyllable : syllablePlace? sign = none := if_neg (by omega)
      rw [takeApart, noSyllable, whole]

theorem compose?_eq_none {first second : Char}
    (low : first.toNat ≤ 0x20 ∨ second.toNat ≤ 0x20) : compose? first second = none := by
  have noLetters : composeLetters? first second = none := by
    rw [composeLetters?, if_neg (by omega)]
    split
    · rename_i place found
      refine if_neg ?_
      rw [syllablePlace?] at found
      split at found
      · omega
      · cases found
    · rfl
  have unlisted : (compositionTable.find? fun entry =>
      entry.take 2 == [first.toNat, second.toNat]) = none := by
    refine List.find?_eq_none.mpr fun entry listed head => ?_
    have among {number : Nat} (member : number ∈ [first.toNat, second.toNat]) : 0x20 < number := by
      rw [← beq_iff_eq.mp head] at member
      exact lt_of_mem_compositionTable listed (List.mem_of_mem_take member)
    have firstShown := among List.mem_cons_self
    have secondShown := among (List.mem_cons_of_mem _ List.mem_cons_self)
    omega
  rw [compose?, noLetters, unlisted]
  rfl

theorem placeMark_perm (mark : Char) (markClass : Nat) (waiting : List (Char × Nat)) :
    (placeMark mark markClass waiting).Perm ((mark, markClass) :: waiting) := by
  induction waiting with
  | nil => exact .refl _
  | cons before earlier induction =>
      rw [placeMark]
      split
      · exact (induction.cons before).trans (.swap _ _ _)
      · exact .refl _

theorem orderMarks_cons (character : Char) (rest : List Char) (waiting : List (Char × Nat)) :
    orderMarks (character :: rest) waiting =
      match combiningClass character with
      | 0 => waiting.reverse ++ (character, 0) :: orderMarks rest []
      | markClass => orderMarks rest (placeMark character markClass waiting) := by
  rfl

/-- Ordering marks keeps every character. -/
theorem map_orderMarks_perm (text : List Char) (waiting : List (Char × Nat)) :
    ((orderMarks text waiting).map Prod.fst).Perm (waiting.map Prod.fst ++ text) := by
  induction text generalizing waiting with
  | nil =>
      rw [List.append_nil]
      exact waiting.reverse_perm.map Prod.fst
  | cons character text induction =>
      rw [orderMarks_cons]
      generalize combiningClass character = characterClass
      cases characterClass with
      | zero =>
          change ((waiting.reverse ++ (character, 0) :: orderMarks text []).map Prod.fst).Perm _
          rw [List.map_append, List.map_cons]
          exact (waiting.reverse_perm.map Prod.fst).append ((induction []).cons character)
      | succ earlier =>
          refine (induction _).trans ?_
          refine (((placeMark_perm character _ waiting).map Prod.fst).append_right text).trans ?_
          exact List.perm_middle.symm

/-- A character is composed with the last starter, or it is kept beside it. -/
theorem exists_composeFrom_cons (character : Char) (characterClass : Nat)
    (coming : List (Char × Nat)) (starter : Option Char) (behind : List (Char × Nat)) :
    ∃ composed : Option Char,
      (∀ lead, composed = some lead →
        ∃ first, starter = some first ∧ compose? first character = some lead) ∧
      composeFrom ((character, characterClass) :: coming) starter behind =
        match composed with
        | some lead => composeFrom coming (some lead) behind
        | none =>
            if characterClass = 0 then
              starter.toList ++ (behind.map Prod.fst).reverse ++
                composeFrom coming (some character) []
            else composeFrom coming starter ((character, characterClass) :: behind) := by
  cases behind with
  | nil =>
      exact ⟨starter.bind fun lead => compose? lead character,
        fun lead => Option.bind_eq_some_iff.mp, by rfl⟩
  | cons last behind =>
      refine ⟨if decide (characterClass ≤ last.2) then none
        else starter.bind fun lead => compose? lead character, fun lead made => ?_, by rfl⟩
      split at made
      · cases made
      · exact Option.bind_eq_some_iff.mp made

/-- A blank or control that is still to come, that is the last starter, or that stands behind it, is
composed with nothing. -/
theorem mem_composeFrom (low : sign.toNat ≤ 0x20) {coming behind : List (Char × Nat)}
    {starter : Option Char}
    (held : sign ∈ coming.map Prod.fst ∨ starter = some sign ∨ sign ∈ behind.map Prod.fst) :
    sign ∈ composeFrom coming starter behind := by
  -- The induction is on what is still to come; what is taken from there stays a starter or behind.
  induction coming generalizing starter behind with
  | nil => simpa [composeFrom] using held
  | cons next coming induction =>
      obtain ⟨character, characterClass⟩ := next
      obtain ⟨composed, parts, composes⟩ :=
        exists_composeFrom_cons character characterClass coming starter behind
      rw [composes]
      rw [List.map_cons, List.mem_cons] at held
      cases composed with
      | some lead =>
          obtain ⟨first, started, made⟩ := parts lead rfl
          refine induction ?_
          rcases held with (same | later) | same | passed
          · obtain rfl : sign = character := same
            rw [compose?_eq_none (.inr low)] at made
            cases made
          · exact .inl later
          · obtain rfl : first = sign := Option.some.inj (started.symm.trans same)
            rw [compose?_eq_none (.inl low)] at made
            cases made
          · exact .inr (.inr passed)
      | none =>
          dsimp only
          split
          · rcases held with (rfl | later) | started | passed
            · exact List.mem_append_right _ (induction (.inr (.inl rfl)))
            · exact List.mem_append_right _ (induction (.inl later))
            · simp [started]
            · refine List.mem_append_left _ (List.mem_append_right _ ?_)
              exact List.mem_reverse.mpr passed
          · rcases held with (rfl | later) | started | passed
            · exact induction (.inr (.inr List.mem_cons_self))
            · exact induction (.inl later)
            · exact induction (.inr (.inl started))
            · exact induction (.inr (.inr (List.mem_cons_of_mem _ passed)))

end Kept

end Composition

theorem mem_compose {sign : Char} {text : List Char} (low : sign.toNat ≤ 0x20)
    (member : sign ∈ text) : sign ∈ compose text := by
  have apart : sign ∈ text.flatMap (Composition.takeApart 4) := by
    refine List.mem_flatMap.mpr ⟨sign, member, ?_⟩
    rw [Composition.takeApart_eq_singleton low]
    exact List.mem_singleton_self sign
  refine Composition.mem_composeFrom low (.inl ?_)
  exact (Composition.map_orderMarks_perm _ []).mem_iff.mpr apart

end Text

namespace Url

/-- A byte that has no part in percent signs is left as it is, also behind one. -/
theorem mem_percentDecode {bytes : List UInt8} {byte : UInt8} (plain : byte ≠ 0x25)
    (noDigit : hexByteValue? byte = none) (member : byte ∈ bytes) :
    byte ∈ percentDecode bytes := by
  induction bytes using percentDecode.induct with
  | case1 first second rest high low lowDigit highDigit induction =>
      simp only [List.mem_cons] at member
      rcases member with rfl | rfl | rfl | later
      · exact absurd rfl plain
      · rw [noDigit] at highDigit
        cases highDigit
      · rw [noDigit] at lowDigit
        cases lowDigit
      · rw [percentDecode, highDigit, lowDigit]
        exact List.mem_cons_of_mem _ (induction later)
  | case2 first second rest noValue induction =>
      rw [percentDecode]
      split
      · rename_i high low highDigit lowDigit
        exact (noValue high low highDigit lowDigit).elim
      · rcases List.mem_cons.mp member with rfl | later
        · exact absurd rfl plain
        · exact List.mem_cons_of_mem _ (induction later)
  | case3 first rest noSign induction =>
      rw [percentDecode]
      · rcases List.mem_cons.mp member with rfl | later
        · exact List.mem_cons_self
        · exact List.mem_cons_of_mem _ (induction later)
      · exact noSign
  | case4 => exact member

/-- A blank or control has no part in percent signs. -/
theorem apart_of_low : ∀ code ≤ 0x20,
    UInt8.ofNat code ≠ 0x25 ∧ hexByteValue? (UInt8.ofNat code) = none := by
  decide

namespace Domain

open Text

variable {sign : Char} {name : List Char}

theorem mem_intercalate_iff {parts : List (List Char)} (noDot : sign ≠ '.') :
    sign ∈ ['.'].intercalate parts ↔ ∃ part ∈ parts, sign ∈ part := by
  induction parts with
  | nil => simp
  | cons part parts induction =>
      cases parts with
      | nil => simp
      | cons next parts => simp [List.intercalate_cons_cons, induction, noDot]

theorem toLower_eq_self (low : sign.toNat ≤ 0x20) : sign.toLower = sign := by
  refine dif_neg ?_
  rintro ⟨capital, -⟩
  have atLeast : 0x41 ≤ sign.toNat := UInt32.le_iff_toNat_le.mp capital
  omega

/-- Folding a name leaves its blanks and controls. -/
theorem mem_of_fold? {folded : List Char} (low : sign.toNat ≤ 0x20) (member : sign ∈ name)
    (made : fold? name = some folded) : sign ∈ folded := by
  obtain ⟨forms, each, ⟨⟩⟩ := Option.bind_eq_some_iff.mp made
  obtain ⟨form, listed, formed⟩ := exists_mem_of_mapM each member
  rw [foldChar?, if_pos (by omega), toLower_eq_self low] at formed
  cases formed
  exact mem_compose low (List.mem_flatten.mpr ⟨_, listed, List.mem_singleton_self sign⟩)

theorem mem_encode {label : List Char} (low : sign.toNat ≤ 0x20) (member : sign ∈ label) :
    sign ∈ Punycode.encode label := by
  have basic : sign ∈ label.filter fun character => character.toNat < 0x80 :=
    List.mem_filter.mpr ⟨member, decide_eq_true (by omega)⟩
  simp only [Punycode.encode]
  split
  · rename_i empty
    rw [List.isEmpty_iff.mp empty] at basic
    cases basic
  · exact List.mem_append_left _ basic

theorem mem_ascii_of_readLabel? {text : List Char} {label : Label} (low : sign.toNat ≤ 0x20)
    (member : sign ∈ text) (read : readLabel? text = some label) : sign ∈ label.ascii := by
  rw [readLabel?] at read
  split at read
  · obtain ⟨characters, -, rfl⟩ := Option.map_eq_some_iff.mp read
    exact member
  · split at read
    · cases read
      exact member
    · split at read
      · cases read
        exact List.mem_append_right _ (mem_encode low member)
      · cases read

/-- The blanks and controls of a name are in its ASCII form. -/
theorem mem_of_ascii? {written : List Char} (low : sign.toNat ≤ 0x20) (member : sign ∈ name)
    (made : ascii? name = some written) : sign ∈ written := by
  have noDot : sign ≠ '.' := ne_of_low low (by decide)
  rw [ascii?] at made
  split at made
  · cases made
    exact List.mem_map.mpr ⟨sign, member, toLower_eq_self low⟩
  · obtain ⟨folded, folds, made⟩ := Option.bind_eq_some_iff.mp made
    obtain ⟨labels, reads, made⟩ := Option.bind_eq_some_iff.mp made
    have kept : sign ∈ ['.'].intercalate (folded.splitOn '.') := by
      rw [List.intercalate_splitOn]
      exact mem_of_fold? low member folds
    obtain ⟨text, piece, within⟩ := (mem_intercalate_iff noDot).mp kept
    obtain ⟨label, listed, read⟩ := exists_mem_of_mapM reads piece
    split at made
    · cases made
      exact (mem_intercalate_iff noDot).mpr
        ⟨_, List.mem_map_of_mem listed, mem_ascii_of_readLabel? low within read⟩
    · cases made

/-- No name stands for a host that has a blank or control. -/
theorem ofHost?_eq_none {host : List Char} (low : sign.toNat ≤ 0x20) (member : sign ∈ host) :
    ofHost? host = none := by
  cases read : ofHost? host with
  | none => rfl
  | some found =>
      obtain ⟨decoded, spelled, read⟩ := Option.bind_eq_some_iff.mp read
      obtain ⟨ascii, made, read⟩ := Option.bind_eq_some_iff.mp read
      obtain ⟨plain, noDigit⟩ := apart_of_low sign.toNat low
      have code : (UInt8.ofNat sign.toNat).toNat = sign.toNat :=
        UInt8.toNat_ofNat_of_lt' (show sign.toNat < 256 by omega)
      have written : UInt8.ofNat sign.toNat ∈ utf8Bytes host := by
        refine List.mem_flatMap.mpr ⟨sign, member, ?_⟩
        have single : String.utf8EncodeChar sign = [UInt8.ofNat sign.toNat] :=
          if_pos (show sign.toNat ≤ 0x7F by omega)
        rw [single]
        exact List.mem_singleton_self _
      have kept : sign ∈ decoded := by
        have character :=
          mem_of_decodeUtf8? spelled (by omega) (mem_percentDecode plain noDigit written)
        rwa [code, Char.ofNat_toNat] at character
      have forbidden : ascii.any isForbidden = true :=
        List.any_eq_true.mpr ⟨sign, mem_of_ascii? low kept made, by simp [isForbidden, low]⟩
      rw [if_pos forbidden] at read
      cases read

end Domain

end Url

end GroupSync
