import GroupSync.Proofs.Utf8RoundTrip
import GroupSync.Url.Form

/-!
# Reading back a form

The signs that divide a form into pairs, and a pair into name and value, never occur in what a text
is written as, since they are written as their bytes.  So a form falls apart where it was joined,
and each text in it is read back, whatever characters it is made of.
-/

namespace GroupSync

namespace Url

theorem percentDecode_cons_of_ne {byte : UInt8} (plain : byte ≠ 0x25) (rest : List UInt8) :
    percentDecode (byte :: rest) = byte :: percentDecode rest := by
  rw [percentDecode]
  rintro first second others rfl
  exact absurd rfl plain

/-- The digit of a value is one byte, and this byte has the value. -/
theorem map_hexByteValue?_upperHexDigit :
    ∀ value < 16, (String.utf8EncodeChar (Text.upperHexDigit value)).map hexByteValue? =
      [some value] := by
  decide

/-- A byte in percent encoding is read back, whatever follows it. -/
theorem percentDecode_utf8Bytes_encodeByte (byte : UInt8) (rest : List UInt8) :
    percentDecode (Text.utf8Bytes (encodeByte byte) ++ rest) = byte :: percentDecode rest := by
  have bound := byte.toNat_lt
  obtain ⟨first, firstDigit, high⟩ := List.map_eq_singleton_iff.mp
    (map_hexByteValue?_upperHexDigit (byte.toNat / 16) (by omega))
  obtain ⟨second, secondDigit, low⟩ := List.map_eq_singleton_iff.mp
    (map_hexByteValue?_upperHexDigit (byte.toNat % 16) (by omega))
  have written : Text.utf8Bytes (encodeByte byte) = [0x25, first, second] := by
    simp only [Text.utf8Bytes, encodeByte, List.flatMap_cons, List.flatMap_nil, firstDigit,
      secondDigit]
    rfl
  have whole : byte.toNat / 16 * 16 + byte.toNat % 16 = byte.toNat := by omega
  rw [written, List.cons_append, List.cons_append, List.cons_append, List.nil_append,
    percentDecode]
  simp only [high, low, whole, UInt8.ofNat_toNat]

theorem percentDecode_utf8Bytes_encodeBytes (bytes rest : List UInt8) :
    percentDecode (Text.utf8Bytes (bytes.flatMap encodeByte) ++ rest) =
      bytes ++ percentDecode rest := by
  induction bytes with
  | nil => rfl
  | cons byte bytes induction =>
      rw [List.flatMap_cons, Text.utf8Bytes_append, List.append_assoc,
        percentDecode_utf8Bytes_encodeByte, induction, List.cons_append]

namespace Form

/-- The signs of a form that divide it, or stand for a blank. -/
def signs : List Char :=
  ['&', '=', '+']

theorem upperHexDigit_not_mem_signs : ∀ value < 16, Text.upperHexDigit value ∉ signs := by
  decide

theorem not_mem_signs_of_mem_encodeByte {byte : UInt8} {character : Char}
    (member : character ∈ encodeByte byte) : character ∉ signs := by
  have bound := byte.toNat_lt
  simp only [encodeByte, List.mem_cons, List.not_mem_nil, or_false] at member
  rcases member with rfl | rfl | rfl
  · decide
  · exact upperHexDigit_not_mem_signs _ (by omega)
  · exact upperHexDigit_not_mem_signs _ (by omega)

theorem not_mem_signs_of_isPlain {character : Char} (plain : isPlain character = true) :
    character ∉ signs := by
  intro member
  simp only [signs, List.mem_cons, List.not_mem_nil, or_false] at member
  rcases member with rfl | rfl | rfl
  · exact absurd plain (by decide)
  · exact absurd plain (by decide)
  · exact absurd plain (by decide)

/-- A text is written without the signs that divide a form. -/
theorem not_mem_encodeText {sign : Char} (divides : sign ∈ ['&', '=']) (text : List Char) :
    sign ∉ encodeText text := by
  have isSign : sign ∈ signs := List.mem_append_left ['+'] divides
  intro member
  obtain ⟨character, -, written⟩ := List.mem_flatMap.mp member
  rw [encodeChar] at written
  split at written
  · rename_i plain
    obtain rfl := List.mem_singleton.mp written
    exact not_mem_signs_of_isPlain plain isSign
  · split at written
    · obtain rfl := List.mem_singleton.mp written
      exact absurd divides (by decide)
    · obtain ⟨byte, -, spelled⟩ := List.mem_flatMap.mp written
      exact not_mem_signs_of_mem_encodeByte spelled isSign

/-- What a character of a form stands for before bytes are decoded. -/
def blankOfPlus (character : Char) : Char :=
  if character == '+' then ' ' else character

theorem decodeText_eq (form : List Char) : decodeText form =
    Text.decodeUtf8Lossy (percentDecode (Text.utf8Bytes (form.map blankOfPlus))) :=
  rfl

theorem blankOfPlus_of_not_mem_signs {character : Char} (noSign : character ∉ signs) :
    blankOfPlus character = character := by
  have noPlus : character ≠ '+' := by
    rintro rfl
    exact noSign (by decide)
  rw [blankOfPlus, if_neg (by simpa using noPlus)]

theorem map_blankOfPlus_encodeBytes (bytes : List UInt8) :
    (bytes.flatMap encodeByte).map blankOfPlus = bytes.flatMap encodeByte := by
  refine (List.map_congr_left fun character member => ?_).trans (List.map_id _)
  obtain ⟨byte, -, spelled⟩ := List.mem_flatMap.mp member
  exact blankOfPlus_of_not_mem_signs (not_mem_signs_of_mem_encodeByte spelled)

theorem bounds_of_isPlain {character : Char} (plain : isPlain character = true) :
    character.toNat ≤ 0x7F ∧ character.toNat ≠ 0x25 := by
  delta isPlain Char.isAlphanum Char.isAlpha Char.isUpper Char.isLower Char.isDigit at plain
  simp only [Bool.or_eq_true, Bool.and_eq_true, decide_eq_true_eq, List.contains_iff_mem,
    UInt32.le_iff_toNat_le, List.mem_cons, List.not_mem_nil, or_false] at plain
  rcases plain with ((upper | lower) | digit) | rfl | rfl | rfl | rfl
  · change 0x41 ≤ character.toNat ∧ character.toNat ≤ 0x5A at upper
    omega
  · change 0x61 ≤ character.toNat ∧ character.toNat ≤ 0x7A at lower
    omega
  · change 0x30 ≤ character.toNat ∧ character.toNat ≤ 0x39 at digit
    omega
  all_goals decide

/-- A character that stands for itself has one byte, which is no percent sign. -/
theorem exists_utf8EncodeChar_of_isPlain {character : Char} (plain : isPlain character = true) :
    ∃ byte, String.utf8EncodeChar character = [byte] ∧ byte ≠ 0x25 := by
  obtain ⟨ascii, noPercent⟩ := bounds_of_isPlain plain
  have small : character.toNat < 256 := by omega
  refine ⟨UInt8.ofNat character.toNat, ?_, fun percent => noPercent ?_⟩
  · exact if_pos ascii
  · rw [← UInt8.toNat_ofNat_of_lt' small, percent]
    rfl

/-- A character is read back as its bytes from what it is written as, whatever follows it. -/
theorem percentDecode_encodeChar (character : Char) (rest : List UInt8) :
    percentDecode (Text.utf8Bytes ((encodeChar character).map blankOfPlus) ++ rest) =
      String.utf8EncodeChar character ++ percentDecode rest := by
  rw [encodeChar]
  split
  · rename_i plain
    obtain ⟨byte, written, noPercent⟩ := exists_utf8EncodeChar_of_isPlain plain
    rw [List.map_singleton, blankOfPlus_of_not_mem_signs (not_mem_signs_of_isPlain plain),
      Text.utf8Bytes, List.flatMap_singleton, written, List.singleton_append,
      percentDecode_cons_of_ne noPercent, List.singleton_append]
  · split
    · rename_i blank
      obtain rfl : character = ' ' := by simpa using blank
      exact percentDecode_cons_of_ne (by decide) rest
    · rw [map_blankOfPlus_encodeBytes, percentDecode_utf8Bytes_encodeBytes]

theorem percentDecode_encodeText (text : List Char) :
    percentDecode (Text.utf8Bytes ((encodeText text).map blankOfPlus)) = Text.utf8Bytes text := by
  induction text with
  | nil => rfl
  | cons character text induction =>
      rw [encodeText, List.flatMap_cons, List.map_append, Text.utf8Bytes_append,
        percentDecode_encodeChar, ← encodeText, induction, Text.utf8Bytes_cons]

/-- A text is read back from what it is written as. -/
theorem decodeText_encodeText (text : List Char) : decodeText (encodeText text) = text := by
  rw [decodeText_eq, percentDecode_encodeText, Text.decodeUtf8Lossy_utf8Bytes]

theorem decodePair_encodePair (pair : List Char × List Char) :
    decodePair (encodePair pair) = pair := by
  have noEquals : ∀ character ∈ encodeText pair.1, (character != '=') = true := by
    intro character member
    have other : character ≠ '=' := by
      rintro rfl
      exact not_mem_encodeText (by decide) _ member
    simpa using other
  rw [decodePair, encodePair, List.takeWhile_append_of_pos noEquals,
    List.dropWhile_append_of_pos noEquals, List.takeWhile_cons_of_neg (by decide),
    List.dropWhile_cons_of_neg (by decide), List.append_nil, List.drop_one, List.tail_cons,
    decodeText_encodeText, decodeText_encodeText]

/-- The sign between the pairs is written between them only. -/
theorem not_mem_encodePair (pair : List Char × List Char) : '&' ∉ encodePair pair := by
  intro written
  rw [encodePair, List.mem_append, List.mem_cons] at written
  rcases written with name | equals | value
  · exact not_mem_encodeText (by decide) _ name
  · exact absurd equals (by decide)
  · exact not_mem_encodeText (by decide) _ value

/-- The pairs of a form are read back, in order, whatever characters they are made of. -/
theorem decode_encode (pairs : List (List Char × List Char)) : decode (encode pairs) = pairs := by
  cases pairs with
  | nil => rfl
  | cons pair pairs =>
      have undivided : ∀ part ∈ (pair :: pairs).map encodePair, '&' ∉ part := by
        intro part member
        obtain ⟨origin, -, rfl⟩ := List.mem_map.mp member
        exact not_mem_encodePair origin
      have present : ((pair :: pairs).map encodePair).filter (fun part => !part.isEmpty) =
          (pair :: pairs).map encodePair := by
        refine List.filter_eq_self.mpr fun part member => ?_
        obtain ⟨origin, -, rfl⟩ := List.mem_map.mp member
        simp [encodePair]
      rw [decode, encode, List.splitOn_intercalate '&' undivided (by simp), present, List.map_map]
      exact (List.map_congr_left fun pair _ => decodePair_encodePair pair).trans (List.map_id _)

theorem encode_injective : Function.Injective encode :=
  Function.LeftInverse.injective decode_encode

end Form

end Url

end GroupSync
