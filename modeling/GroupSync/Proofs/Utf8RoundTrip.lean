import GroupSync.Text.Utf8

/-!
# Reading the bytes of a text

The bytes of a character, whatever follows them, are read as this character and no more.  So a text
is read back from its bytes, and no part of them is ill-formed.
-/

namespace GroupSync

namespace Text

theorem utf8Bytes_cons (character : Char) (text : List Char) :
    utf8Bytes (character :: text) = String.utf8EncodeChar character ++ utf8Bytes text :=
  List.flatMap_cons

theorem utf8Bytes_append (first second : List Char) :
    utf8Bytes (first ++ second) = utf8Bytes first ++ utf8Bytes second :=
  List.flatMap_append

namespace Utf8

variable {lead second third fourth : UInt8} {rest : List UInt8}

theorem isContinuation_eq_true (low : 0x80 ≤ second.toNat) (high : second.toNat ≤ 0xBF) :
    isContinuation second = true := by
  simp [isContinuation, UInt8.le_iff_toNat_le, low, high]

theorem head_one (low : lead.toNat < 0x80) :
    head lead rest = .character (Char.ofNat lead.toNat) 0 := by
  simp [head, UInt8.lt_iff_toNat_lt, low]

theorem head_two (low : 0xC2 ≤ lead.toNat) (high : lead.toNat ≤ 0xDF)
    (continues : isContinuation second = true) :
    head lead (second :: rest) =
      .character (Char.ofNat (lead.toNat % 32 * 64 + payload second)) 1 := by
  have past : ¬ lead.toNat < 0x80 := by omega
  simp [head, UInt8.lt_iff_toNat_lt, UInt8.le_iff_toNat_le, past, low, high, continues]

theorem head_three (low : 0xE0 ≤ lead.toNat) (high : lead.toNat ≤ 0xEF)
    (least : (leastSecond lead).toNat ≤ second.toNat)
    (greatest : second.toNat ≤ (greatestSecond lead).toNat)
    (continues : isContinuation third = true) :
    head lead (second :: third :: rest) =
      .character (Char.ofNat
        ((lead.toNat % 16 * 64 + payload second) * 64 + payload third)) 2 := by
  have past : ¬ lead.toNat < 0x80 := by omega
  have notTwo : ¬ lead.toNat ≤ 0xDF := by omega
  have longer : lead.toNat ≤ 0xF4 := by omega
  simp [head, UInt8.lt_iff_toNat_lt, UInt8.le_iff_toNat_le, past, notTwo, low, longer, high,
    least, greatest, continues]

theorem head_four (low : 0xF0 ≤ lead.toNat) (high : lead.toNat ≤ 0xF4)
    (least : (leastSecond lead).toNat ≤ second.toNat)
    (greatest : second.toNat ≤ (greatestSecond lead).toNat)
    (continues : isContinuation third = true) (further : isContinuation fourth = true) :
    head lead (second :: third :: fourth :: rest) =
      .character (Char.ofNat
        (((lead.toNat % 8 * 64 + payload second) * 64 + payload third) * 64 +
          payload fourth)) 3 := by
  have past : ¬ lead.toNat < 0x80 := by omega
  have notTwo : ¬ lead.toNat ≤ 0xDF := by omega
  have longer : 0xE0 ≤ lead.toNat := by omega
  have notThree : ¬ lead.toNat ≤ 0xEF := by omega
  simp [head, UInt8.lt_iff_toNat_lt, UInt8.le_iff_toNat_le, past, notTwo, high, longer, notThree,
    least, greatest, continues, further]

/-- The second byte keeps a character in its shortest form if it does so behind the two leads that
ask for more than a continuation byte. -/
theorem leastSecond_le (continues : 0x80 ≤ second.toNat)
    (three : lead.toNat = 0xE0 → 0xA0 ≤ second.toNat)
    (four : lead.toNat = 0xF0 → 0x90 ≤ second.toNat) :
    (leastSecond lead).toNat ≤ second.toNat := by
  have byLead : (leastSecond lead).toNat =
      if lead.toNat = 0xE0 then 0xA0 else if lead.toNat = 0xF0 then 0x90 else 0x80 := by
    simp [leastSecond, ← UInt8.toNat_inj, apply_ite UInt8.toNat]
  rw [byLead]
  split
  · rename_i lowest
    exact three lowest
  · split
    · rename_i lowest
      exact four lowest
    · exact continues

/-- The second byte stays out of the surrogates, and below the last plane, if it does so behind the
two leads that border on them. -/
theorem le_greatestSecond (continues : second.toNat ≤ 0xBF)
    (three : lead.toNat = 0xED → second.toNat ≤ 0x9F)
    (four : lead.toNat = 0xF4 → second.toNat ≤ 0x8F) :
    second.toNat ≤ (greatestSecond lead).toNat := by
  have byLead : (greatestSecond lead).toNat =
      if lead.toNat = 0xED then 0x9F else if lead.toNat = 0xF4 then 0x8F else 0xBF := by
    simp [greatestSecond, ← UInt8.toNat_inj, apply_ite UInt8.toNat]
  rw [byLead]
  split
  · rename_i bordering
    exact three bordering
  · split
    · rename_i bordering
      exact four bordering
    · exact continues

/-- Six bits of a number make a continuation byte. -/
theorem isContinuation_ofNat (number : Nat) :
    isContinuation (UInt8.ofNat (number % 64 + 128)) = true := by
  have byte := UInt8.toNat_ofNat_of_lt' (show number % 64 + 128 < 256 by omega)
  exact isContinuation_eq_true (by omega) (by omega)

theorem payload_ofNat (number : Nat) :
    payload (UInt8.ofNat (number % 64 + 128)) = number % 64 := by
  rw [payload, UInt8.toNat_ofNat_of_lt' (show number % 64 + 128 < 256 by omega)]
  omega

variable {number : Nat}

theorem head_ofTwo (low : 0x7F < number) (high : number ≤ 0x7FF) :
    head (UInt8.ofNat (number / 64 % 32 + 192)) (UInt8.ofNat (number % 64 + 128) :: rest) =
      .character (Char.ofNat number) 1 := by
  have lead := UInt8.toNat_ofNat_of_lt' (show number / 64 % 32 + 192 < 256 by omega)
  have whole : (number / 64 % 32 + 192) % 32 * 64 + number % 64 = number := by omega
  rw [head_two (by omega) (by omega) (isContinuation_ofNat number), payload_ofNat, lead, whole]

theorem head_ofThree (low : 0x7FF < number) (high : number ≤ 0xFFFF)
    (valid : number < 0xD800 ∨ 0xDFFF < number) :
    head (UInt8.ofNat (number / 4096 % 16 + 224))
        (UInt8.ofNat (number / 64 % 64 + 128) :: UInt8.ofNat (number % 64 + 128) :: rest) =
      .character (Char.ofNat number) 2 := by
  have lead := UInt8.toNat_ofNat_of_lt' (show number / 4096 % 16 + 224 < 256 by omega)
  have second := UInt8.toNat_ofNat_of_lt' (show number / 64 % 64 + 128 < 256 by omega)
  have whole : ((number / 4096 % 16 + 224) % 16 * 64 + number / 64 % 64) * 64 + number % 64 =
      number := by omega
  rw [head_three (by omega) (by omega) (leastSecond_le (by omega) (by omega) (by omega))
    (le_greatestSecond (by omega) (by omega) (by omega)) (isContinuation_ofNat number),
    payload_ofNat, payload_ofNat, lead, whole]

theorem head_ofFour (low : 0xFFFF < number) (high : number < 0x110000) :
    head (UInt8.ofNat (number / 262144 % 8 + 240))
        (UInt8.ofNat (number / 4096 % 64 + 128) :: UInt8.ofNat (number / 64 % 64 + 128) ::
          UInt8.ofNat (number % 64 + 128) :: rest) =
      .character (Char.ofNat number) 3 := by
  have lead := UInt8.toNat_ofNat_of_lt' (show number / 262144 % 8 + 240 < 256 by omega)
  have second := UInt8.toNat_ofNat_of_lt' (show number / 4096 % 64 + 128 < 256 by omega)
  have whole : (((number / 262144 % 8 + 240) % 8 * 64 + number / 4096 % 64) * 64 +
      number / 64 % 64) * 64 + number % 64 = number := by omega
  rw [head_four (by omega) (by omega) (leastSecond_le (by omega) (by omega) (by omega))
    (le_greatestSecond (by omega) (by omega) (by omega)) (isContinuation_ofNat (number / 64))
    (isContinuation_ofNat number), payload_ofNat, payload_ofNat, payload_ofNat, lead, whole]

/-- The bytes of a character are read as this character, whatever follows them. -/
theorem exists_head_utf8EncodeChar (character : Char) : ∃ lead further,
    String.utf8EncodeChar character = lead :: further ∧
      ∀ rest, head lead (further ++ rest) = .character character further.length := by
  have code : Char.ofNat character.val.toNat = character := Char.ofNat_toNat character
  have valid : character.val.toNat < 0xD800 ∨
      0xDFFF < character.val.toNat ∧ character.val.toNat < 0x110000 := character.valid
  rw [String.utf8EncodeChar]
  generalize character.val.toNat = number at code valid
  rw [← code]
  split
  · refine ⟨_, [], rfl, fun rest => ?_⟩
    have lead := UInt8.toNat_ofNat_of_lt' (show number < 256 by omega)
    rw [List.nil_append, head_one (by omega), lead, List.length_nil]
  · split
    · exact ⟨_, [_], rfl, fun rest => head_ofTwo (by omega) (by omega)⟩
    · split
      · exact ⟨_, [_, _], rfl, fun rest => head_ofThree (by omega) (by omega) (by omega)⟩
      · exact ⟨_, [_, _, _], rfl, fun rest => head_ofFour (by omega) (by omega)⟩

theorem heads_utf8EncodeChar_append (character : Char) (rest : List UInt8) :
    heads (String.utf8EncodeChar character ++ rest) =
      .character character ((String.utf8EncodeChar character).length - 1) :: heads rest := by
  obtain ⟨lead, further, bytes, read⟩ := exists_head_utf8EncodeChar character
  rw [bytes, List.cons_append, heads, read, List.length_cons, Nat.add_sub_cancel]
  dsimp only
  rw [List.drop_left]

/-- Every part of the bytes of a text is one of its characters. -/
theorem heads_utf8Bytes (text : List Char) : heads (utf8Bytes text) =
    text.map fun character =>
      .character character ((String.utf8EncodeChar character).length - 1) := by
  induction text with
  | nil => rw [utf8Bytes, List.flatMap_nil, heads, List.map_nil]
  | cons character text induction =>
      rw [utf8Bytes_cons, heads_utf8EncodeChar_append, induction, List.map_cons]

end Utf8

/-- A text is read back from its bytes. -/
theorem decodeUtf8Lossy_utf8Bytes (text : List Char) : decodeUtf8Lossy (utf8Bytes text) = text := by
  rw [decodeUtf8Lossy, Utf8.heads_utf8Bytes, List.map_map]
  exact List.map_id text

end Text

end GroupSync
