import GroupSync.Number.Unsigned
import GroupSync.Text.Blank
import Mathlib.Algebra.Order.Ring.Int
import Mathlib.Data.List.DropRight

/-!
# Decimal numerals between blanks

Settings and header values are trimmed before they are read.  Trimming gives back a text that has
blanks on both sides of it, and a row of digits is then read as the number that it denotes exactly
if the number fits 64 bits, however many zeros the row begins with.
-/

namespace GroupSync

namespace Text

theorem isDigit_eq_false_of_isBlank {character : Char} (blank : isBlank character = true) :
    character.isDigit = false := by
  simp only [isBlank, Bool.or_eq_true, Bool.and_eq_true, decide_eq_true_eq, beq_iff_eq] at blank
  rw [Bool.eq_false_iff]
  intro digit
  have bounds : 48 ≤ character.toNat ∧ character.toNat ≤ 57 := Char.isDigit_iff_toNat.mp digit
  omega

/-- A text that begins and ends with a character that is not blank. -/
structure IsTrimmed (text : List Char) : Prop where
  present : text ≠ []
  first : isBlank (text.head present) = false
  last : isBlank (text.getLast present) = false

variable {text before after : List Char}

theorem isTrimmed_of_forall (present : text ≠ [])
    (visible : ∀ character ∈ text, isBlank character = false) : IsTrimmed text where
  present := present
  first := visible _ (List.head_mem present)
  last := visible _ (List.getLast_mem present)

theorem IsTrimmed.trimChars_append (trimmed : IsTrimmed text)
    (blankBefore : ∀ character ∈ before, isBlank character = true)
    (blankAfter : ∀ character ∈ after, isBlank character = true) :
    trimChars (before ++ text ++ after) = text := by
  obtain ⟨present, first, last⟩ := trimmed
  have opened : (text ++ after).dropWhile isBlank = text ++ after := by
    obtain ⟨head, tail, rfl⟩ := List.exists_cons_of_ne_nil present
    exact List.dropWhile_cons_of_neg (by simpa using first)
  have closed : text.rdropWhile isBlank = text :=
    List.rdropWhile_eq_self_iff.mpr fun _ => by simpa using last
  rw [trimChars, stripChars, List.append_assoc, List.dropWhile_append_of_pos blankBefore, opened,
    List.reverse_append,
    List.dropWhile_append_of_pos fun character member =>
      blankAfter character (List.mem_reverse.mp member)]
  exact closed

theorem trimChars_of_blank (blank : ∀ character ∈ text, isBlank character = true) :
    trimChars text = [] := by
  have dropped : text.dropWhile isBlank = [] := List.dropWhile_eq_nil_iff.mpr blank
  rw [trimChars, stripChars, dropped]
  rfl

end Text

namespace Number

theorem le_ofDigitChars (digits : List Char) (total : Nat) :
    total ≤ Nat.ofDigitChars 10 digits total := by
  rw [Nat.ofDigitChars_eq_ofDigitChars_zero]
  have positive : 0 < 10 ^ digits.length := Nat.pow_pos (by decide)
  have grown : total ≤ 10 ^ digits.length * total := Nat.le_mul_of_pos_left total positive
  omega

/-- A row of digits denotes a number; zeros at its beginning do not count. -/
structure Denotes (digits : List Char) (number : Nat) : Prop where
  present : digits ≠ []
  numeral : ∀ digit ∈ digits, digit.isDigit = true
  value : Nat.ofDigitChars 10 digits 0 = number

variable {digits : List Char} {number : Nat}

theorem readDigits_eq (numeral : ∀ digit ∈ digits, digit.isDigit = true) {total : Nat}
    (small : total < 2 ^ 64) :
    readDigits digits total =
      if Nat.ofDigitChars 10 digits total < 2 ^ 64 then .ok (Nat.ofDigitChars 10 digits total)
      else .error .tooLarge := by
  induction digits generalizing total with
  | nil => exact (if_pos small).symm
  | cons digit digits induction =>
      have step : total * 10 + (digit.toNat - '0'.toNat) =
          10 * total + (digit.toNat - '0'.toNat) := by omega
      rw [readDigits, if_pos (numeral digit List.mem_cons_self), Nat.ofDigitChars_cons, step]
      dsimp only
      split
      · rename_i fits
        exact induction (fun other member => numeral other (List.mem_cons_of_mem _ member)) fits
      · rename_i exceeds
        have grown := le_ofDigitChars digits (10 * total + (digit.toNat - '0'.toNat))
        rw [if_neg (by omega)]

/-- A row of digits is read as its number if that fits, and is refused as too large otherwise. -/
theorem Denotes.readUInt64_eq (denotes : Denotes digits number) :
    readUInt64 digits = if number < 2 ^ 64 then .ok number else .error .tooLarge := by
  obtain ⟨present, numeral, rfl⟩ := denotes
  rw [← readDigits_eq numeral (by decide)]
  -- A row of digits is not empty and does not begin with a sign.
  fun_cases readUInt64 digits with
  | case1 => exact absurd rfl present
  | case2 => exact absurd (numeral '+' List.mem_cons_self) (by decide)
  | case3 => exact absurd (numeral '+' List.mem_cons_self) (by decide)
  | case4 => rfl

theorem Denotes.isTrimmed (denotes : Denotes digits number) : Text.IsTrimmed digits := by
  refine Text.isTrimmed_of_forall denotes.present fun digit member => ?_
  by_contra blank
  have foreign := Text.isDigit_eq_false_of_isBlank (by simpa using blank)
  rw [denotes.numeral digit member] at foreign
  cases foreign

/-- Blanks around a row of digits do not change what is read. -/
theorem Denotes.readUInt64_trimChars (denotes : Denotes digits number) {before after : List Char}
    (blankBefore : ∀ character ∈ before, Text.isBlank character = true)
    (blankAfter : ∀ character ∈ after, Text.isBlank character = true) :
    readUInt64 (Text.trimChars (before ++ digits ++ after)) =
      if number < 2 ^ 64 then .ok number else .error .tooLarge := by
  rw [denotes.isTrimmed.trimChars_append blankBefore blankAfter, denotes.readUInt64_eq]

end Number

end GroupSync
