import MemberStream.Bytes

namespace MemberStream

/-!
# Hexadecimal text

A byte string is written with two lower-case digits per octet, and digits of
either case are read back.
-/

/-- The digit of a value below sixteen. -/
def hexDigit
    (value : Nat) :
    Char :=
  if value < 10 then
    Char.ofNat (48 + value)
  else
    Char.ofNat (87 + value)

/-- The digits of a byte string. -/
def hexText
    (bytes : Bytes) :
    String :=
  String.ofList
    (bytes.flatMap fun byte => [hexDigit (byte.toNat / 16), hexDigit (byte.toNat % 16)])

/-- The eight digits of a 32-bit word. -/
def hexWord
    (value : UInt32) :
    String :=
  hexText (littleEndian 4 value.toNat).reverse

/-- The value of a digit; other characters count as zero. -/
def hexValue
    (character : Char) :
    Nat :=
  if '0' ≤ character ∧ character ≤ '9' then
    character.toNat - 48
  else if 'a' ≤ character ∧ character ≤ 'f' then
    character.toNat - 87
  else if 'A' ≤ character ∧ character ≤ 'F' then
    character.toNat - 55
  else
    0

/-- Read digits behind octets that are given last first; a single last digit is left out. -/
def ofHexOnto
    (bytes : Bytes) :
    List Char →
    Bytes
  | high :: low :: rest =>
      ofHexOnto (UInt8.ofNat (hexValue high * 16 + hexValue low) :: bytes) rest
  | _ =>
      bytes.reverse

/-- The byte string with given digits. -/
def ofHexText
    (text : String) :
    Bytes :=
  ofHexOnto [] text.toList

end MemberStream
