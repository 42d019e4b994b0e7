import MemberStream.Bytes
import MemberStream.Checksum.XxHash

namespace MemberStream

/-!
# LZ4 frame headers

A frame starts with its magic number, a flag octet, a block size octet and the
second octet of their hash.  Frames written here have independent blocks and a
content checksum, and the smallest block size class that holds the source.
-/

namespace Lz4

/-- The magic number of a frame. -/
def magic : Bytes :=
  [0x04, 0x22, 0x4d, 0x18]

/-- The flags of a written frame: version 1, independent blocks, content checksum. -/
def writtenFlags : UInt8 :=
  0x64

/-- The block size octet of a source of the given length. -/
def blockSizeOctet
    (sourceLength : Nat) :
    UInt8 :=
  if sourceLength ≤ 64 * 1024 then
    0x40
  else if sourceLength ≤ 256 * 1024 then
    0x50
  else
    0x70

/-- The checksum of a frame descriptor: the second octet of its hash. -/
def descriptorChecksum
    (descriptor : Bytes) :
    UInt8 :=
  (xxHash32 descriptor >>> 8).toUInt8

/-- The header of a written frame. -/
def header
    (sourceLength : Nat) :
    Bytes :=
  let descriptor := [writtenFlags, blockSizeOctet sourceLength]
  magic ++ descriptor ++ [descriptorChecksum descriptor]

/-- The word after the last block of a frame. -/
def endMark : Bytes :=
  [0, 0, 0, 0]

/-- The content checksum of a frame. -/
def contentChecksum
    (content : Bytes) :
    Bytes :=
  littleEndian 4 (xxHash32 content).toNat

/-- The frame of the empty string. -/
def emptyFrame : Bytes :=
  header 0 ++ endMark ++ contentChecksum []

end Lz4

end MemberStream
