import GroupSync.NameSet
import GroupSync.Text.Utf8

/-!
# The order of bytes

Texts are compared by the code points of their characters.  Their bytes compare in the same way:
of two characters the greater one has the greater bytes, and no character's bytes begin those of
another one.  So the members of a set of names stand in the order of their bytes.
-/

namespace GroupSync

namespace Text

/-- Bytes that begin with two numbers compare as these do, and by the rest if they are equal. -/
theorem ofNat_cons_lt_cons_iff {first second : Nat} (firstSmall : first < 256)
    (secondSmall : second < 256) {rest other : List UInt8} :
    UInt8.ofNat first :: rest < UInt8.ofNat second :: other ↔
      first < second ∨ first = second ∧ rest < other := by
  rw [List.cons_lt_cons_iff, UInt8.lt_iff_toNat_lt, ← UInt8.toNat_inj]
  simp [Nat.mod_eq_of_lt firstSmall, Nat.mod_eq_of_lt secondSmall]

theorem toNat_val_lt (character : Char) : character.val.toNat < 0x110000 := by
  rcases character.valid with low | ⟨_, high⟩
  · exact Nat.lt_trans low (by decide)
  · exact high

/-- The greater of two characters has the greater bytes, whatever follows them. -/
theorem utf8EncodeChar_append_lt {first second : Char} (less : first < second)
    (rest other : List UInt8) :
    String.utf8EncodeChar first ++ rest < String.utf8EncodeChar second ++ other := by
  have codes : first.val.toNat < second.val.toNat := less
  have firstBound := toNat_val_lt first
  have secondBound := toNat_val_lt second
  unfold String.utf8EncodeChar
  generalize first.val.toNat = low at *
  generalize second.val.toNat = high at *
  have lowTop : low / 262144 % 8 = low / 4096 / 64 := by omega
  have highTop : high / 262144 % 8 = high / 4096 / 64 := by omega
  have lowUpper : low / 4096 = low / 64 / 64 := by omega
  have highUpper : high / 4096 = high / 64 / 64 := by omega
  simp only [lowTop, highTop, lowUpper, highUpper]
  -- Each of the two characters takes one, two, three or four bytes.
  repeat' split
  all_goals
    simp (disch := omega) only [List.cons_append, List.nil_append, ofNat_cons_lt_cons_iff]
    omega

/-- The order of texts is the order of their bytes. -/
theorem utf8Bytes_lt_of_lt {first second : List Char} (less : first < second) :
    utf8Bytes first < utf8Bytes second := by
  induction less with
  | nil =>
      rename_i character rest
      obtain ⟨byte, bytes, written⟩ :=
        List.exists_cons_of_ne_nil (String.utf8EncodeChar_ne_nil (c := character))
      simp [utf8Bytes, written]
  | rel less => exact utf8EncodeChar_append_lt less _ _
  | cons _ induction => exact List.append_left_lt induction

end Text

/-- The members of a set stand in the order of their bytes, each of them once. -/
theorem NameSet.pairwise_utf8Bytes (names : NameSet) :
    names.toList.Pairwise fun first second =>
      Text.utf8Bytes first.toList < Text.utf8Bytes second.toList :=
  names.ascending.imp fun less => Text.utf8Bytes_lt_of_lt (String.lt_iff.mp less)

end GroupSync
