/-!
# UTF-8

Texts as byte sequences.  Encoding is character by character.  Decoding goes through one
classification of the bytes at the head of a sequence: either they spell a character, or
they begin with a maximal ill-formed part, which the strict decoder refuses and the lenient
one replaces by a single U+FFFD.
-/

namespace GroupSync

namespace Text

def utf8Bytes (text : List Char) : List UInt8 :=
  text.flatMap String.utf8EncodeChar

def utf8Length (text : List Char) : Nat :=
  (utf8Bytes text).length

namespace Utf8

/-- The character that stands for bytes that spell none. -/
def replacement : Char :=
  Char.ofNat 0xFFFD

/-- A byte that continues a character begun before it. -/
def isContinuation (byte : UInt8) : Bool :=
  0x80 ≤ byte && byte ≤ 0xBF

def payload (byte : UInt8) : Nat :=
  byte.toNat % 64

/-- What stands at the head of a byte sequence: a character and the number of bytes after
the first one that belong to it, or an ill-formed part of that many further bytes. -/
inductive Head where
  | character (value : Char) (further : Nat)
  | illFormed (further : Nat)

/-- The least second byte that keeps a three- or four-byte character in its shortest form. -/
def leastSecond (lead : UInt8) : UInt8 :=
  if lead == 0xE0 then 0xA0 else if lead == 0xF0 then 0x90 else 0x80

/-- The greatest second byte that stays below the surrogates and below the last plane. -/
def greatestSecond (lead : UInt8) : UInt8 :=
  if lead == 0xED then 0x9F else if lead == 0xF4 then 0x8F else 0xBF

def head (lead : UInt8) (rest : List UInt8) : Head :=
  if lead < 0x80 then .character (Char.ofNat lead.toNat) 0
  else if 0xC2 ≤ lead && lead ≤ 0xDF then
    match rest with
    | second :: _ =>
        if isContinuation second then
          .character (Char.ofNat (lead.toNat % 32 * 64 + payload second)) 1
        else .illFormed 0
    | [] => .illFormed 0
  else if 0xE0 ≤ lead && lead ≤ 0xF4 then
    match rest with
    | [] => .illFormed 0
    | second :: rest =>
        if second < leastSecond lead || greatestSecond lead < second then .illFormed 0
        else
          match rest with
          | [] => .illFormed 1
          | third :: rest =>
              if !isContinuation third then .illFormed 1
              else if lead ≤ 0xEF then
                .character (Char.ofNat
                  ((lead.toNat % 16 * 64 + payload second) * 64 + payload third)) 2
              else
                match rest with
                | [] => .illFormed 2
                | fourth :: _ =>
                    if isContinuation fourth then
                      .character (Char.ofNat
                        (((lead.toNat % 8 * 64 + payload second) * 64 + payload third) * 64 +
                          payload fourth)) 3
                    else .illFormed 2
  else .illFormed 0

def heads : List UInt8 → List Head
  | [] => []
  | lead :: rest =>
      let first := head lead rest
      let further := match first with
        | .character _ further => further
        | .illFormed further => further
      first :: heads (rest.drop further)
termination_by bytes => bytes.length
decreasing_by simp only [List.length_drop, List.length_cons]; omega

def Head.character? : Head → Option Char
  | .character value _ => some value
  | .illFormed _ => none

end Utf8

/-- The text that a byte sequence spells, if it is well formed throughout. -/
def decodeUtf8? (bytes : List UInt8) : Option (List Char) :=
  (Utf8.heads bytes).mapM Utf8.Head.character?

/-- The text of a byte sequence, each ill-formed part read as U+FFFD. -/
def decodeUtf8Lossy (bytes : List UInt8) : List Char :=
  (Utf8.heads bytes).map fun head => head.character?.getD Utf8.replacement

end Text

end GroupSync
