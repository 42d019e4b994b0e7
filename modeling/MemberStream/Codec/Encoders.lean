import MemberStream.Deflate.Encode
import MemberStream.Lz4.Frame
import MemberStream.Zstd.Encode

namespace MemberStream

/-!
# Encoders

The compressed part of a member is written by an encoder of its algorithm.  How
an encoder compresses is its own affair, and so is what a level means to it: the
containers, the codecs and the engines are put together over any encoders.
-/

/-- An encoder for every algorithm; one that fails tells why. -/
structure Encoders where
  /-- A deflate body at a level. -/
  deflateBody : UInt32 → Bytes → Except String Bytes
  /-- An LZ4 frame with a checksum of its content. -/
  lz4Frame : Bytes → Except String Bytes
  /-- A Zstandard frame at a level. -/
  zstdFrame : Nat → Bytes → Except String Bytes

/-- The encoders of this library, which never fail. -/
def Encoders.own : Encoders where
  deflateBody level source :=
    .ok (Deflate.encodeBody level source)
  lz4Frame source :=
    .ok (Lz4.encodeMember source)
  zstdFrame _ source :=
    .ok (Zstd.encodeMember source)

end MemberStream
