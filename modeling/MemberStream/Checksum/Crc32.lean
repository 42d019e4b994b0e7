import MemberStream.Text.Hex

namespace MemberStream

/-!
# CRC-32

The reflected CRC-32 with polynomial `0xEDB88320`.  The register starts with
all bits set and is complemented when it is read, so the checksum of the empty
string is zero.
-/

/-- A running CRC-32: the register after the bytes absorbed so far. -/
structure Crc32 where
  register : UInt32
  deriving Repr, DecidableEq

namespace Crc32

/-- The register before any byte. -/
def empty : Crc32 where
  register :=
    0xFFFFFFFF

/-- One polynomial division step. -/
def shiftStep
    (register : UInt32) :
    UInt32 :=
  if register &&& 1 = 1 then
    (register >>> 1) ^^^ 0xEDB88320
  else
    register >>> 1

/-- Absorb one byte, lowest bit first. -/
def absorb
    (crc : Crc32)
    (byte : UInt8) :
    Crc32 where
  register :=
    shiftStep <| shiftStep <| shiftStep <| shiftStep <|
      shiftStep <| shiftStep <| shiftStep <| shiftStep <|
        crc.register ^^^ byte.toUInt32

/-- Absorb a byte string. -/
def update
    (crc : Crc32)
    (bytes : Bytes) :
    Crc32 :=
  bytes.foldl absorb crc

/-- The checksum of the bytes absorbed so far. -/
def value
    (crc : Crc32) :
    UInt32 :=
  crc.register ^^^ 0xFFFFFFFF

/-- The text of a running checksum. -/
def text
    (crc : Crc32) :
    String :=
  "RunningCrc(0x" ++ hexWord crc.value ++ ")"

/-- Absorbing a concatenation absorbs its parts in order. -/
theorem update_append
    (crc : Crc32)
    (first second : Bytes) :
    crc.update (first ++ second) = (crc.update first).update second := by
  simp [update]

end Crc32

/-- The CRC-32 of a whole byte string. -/
def crc32
    (bytes : Bytes) :
    UInt32 :=
  (Crc32.empty.update bytes).value

/-- The empty string has checksum zero. -/
@[simp]
theorem crc32_nil :
    crc32 [] = 0 := by
  decide

end MemberStream
