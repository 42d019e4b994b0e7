import MemberStream.Bytes

namespace MemberStream

/-!
# Zstandard frame headers

The header of a written frame holds the length of the source in the narrowest of
four fields.  As long as the source fits in the largest window that is written,
the frame is a single segment and names no window.  No dictionary or checksum
follows.
-/

namespace Zstd

/-- The magic number of a frame. -/
def magic : Bytes :=
  [0x28, 0xb5, 0x2f, 0xfd]

/-- The exponent of the largest window of a written frame. -/
def writtenWindowLog : Nat :=
  27

/-- The window octet of a frame that is not a single segment. -/
def windowOctet : UInt8 :=
  UInt8.ofNat (8 * (writtenWindowLog - 10))

/-- The descriptor octet of a frame, its window unless it is a single segment, and its length. -/
def contentSizeField
    (sourceLength : Nat) :
    Bytes :=
  if sourceLength < 256 then
    0x20 :: littleEndian 1 sourceLength
  else if sourceLength < 256 + 65536 then
    0x60 :: littleEndian 2 (sourceLength - 256)
  else if sourceLength ≤ 2 ^ writtenWindowLog then
    0xa0 :: littleEndian 4 sourceLength
  else if sourceLength < 2 ^ (32 : Nat) then
    0x80 :: windowOctet :: littleEndian 4 sourceLength
  else
    0xc0 :: windowOctet :: littleEndian 8 sourceLength

/-- The header of a written frame. -/
def header
    (sourceLength : Nat) :
    Bytes :=
  magic ++ contentSizeField sourceLength

/-- How the body of a block is stored. -/
inductive BlockKind
  | raw
  | repeated
  | compressed
  deriving Repr, DecidableEq

namespace BlockKind

/-- The two bits of a block header that tell its kind. -/
def code : BlockKind → Nat
  | .raw =>
      0
  | .repeated =>
      1
  | .compressed =>
      2

end BlockKind

/-- The header of a block: whether it is the last, its kind and its length. -/
def blockHeader
    (last : Bool)
    (kind : BlockKind)
    (length : Nat) :
    Bytes :=
  littleEndian 3 (last.toNat + 2 * kind.code + 8 * length)

/-- The frame of the empty string: one last raw block without content. -/
def emptyFrame : Bytes :=
  header 0 ++ blockHeader true .raw 0

end Zstd

end MemberStream
