import GroupSync.Text.Ascii
import GroupSync.Text.Utf8

/-!
# Percent encoding

Characters outside ASCII, and those of a set that depends on the place, are written as the
percent signs and hexadecimal digits of their UTF-8 bytes.  Decoding works on bytes; a percent
sign without two hexadecimal digits stands for itself.
-/

namespace GroupSync

namespace Url

/-- A set of ASCII characters that are written in encoded form. -/
abbrev EncodeSet := Char → Bool

def controlSet : EncodeSet :=
  fun character => character.toNat < 0x20 || character.toNat == 0x7F

def fragmentSet : EncodeSet :=
  fun character => controlSet character || [' ', '"', '<', '>', '\x60'].contains character

/-- The set of queries in general. -/
def querySet : EncodeSet :=
  fun character => controlSet character || [' ', '"', '#', '<', '>'].contains character

/-- The set of queries of special schemes. -/
def specialQuerySet : EncodeSet :=
  fun character => querySet character || character == '\''

def pathSet : EncodeSet :=
  fun character => fragmentSet character || ['#', '?', '\x7b', '\x7d'].contains character

def userinfoSet : EncodeSet :=
  fun character => pathSet character ||
    ['/', ':', ';', '=', '@', '[', '\\', ']', '^', '|'].contains character

def encodeByte (byte : UInt8) : List Char :=
  ['%', Text.upperHexDigit (byte.toNat / 16), Text.upperHexDigit (byte.toNat % 16)]

/-- A character as it is written in a place with a given set. -/
def encodeChar (encoded : EncodeSet) (character : Char) : List Char :=
  if character.toNat < 0x80 && !encoded character then [character]
  else (String.utf8EncodeChar character).flatMap encodeByte

def percentEncode (encoded : EncodeSet) (text : List Char) : List Char :=
  text.flatMap (encodeChar encoded)

def hexByteValue? (byte : UInt8) : Option Nat :=
  if byte < 0x80 then Text.hexValue? (Char.ofNat byte.toNat) else none

/-- Decode the percent signs of a byte sequence. -/
def percentDecode : List UInt8 → List UInt8
  | 0x25 :: first :: second :: rest =>
      match hexByteValue? first, hexByteValue? second with
      | some high, some low => UInt8.ofNat (high * 16 + low) :: percentDecode rest
      | _, _ => 0x25 :: percentDecode (first :: second :: rest)
  | byte :: rest => byte :: percentDecode rest
  | [] => []

end Url

end GroupSync
