import MemberStream.Bytes

namespace MemberStream

/-!
# Bit streams

A bit stream is a byte string that is read bit by bit, lowest bit of each octet
first.  Octets are also read whole, from the next octet boundary on.  The number
of octets left is kept beside them, so that it need not be counted again and
again.
-/

/-- The bits still to be read. -/
structure BitStream where
  /-- What is left of the octet being read. -/
  held : List Bool := []
  bytes : Bytes := []
  octetsLeft : Nat := bytes.length
  octetsLeft_eq : octetsLeft = bytes.length := by rfl

/-- The bits of an octet, lowest first. -/
def bitsOfByte
    (byte : UInt8) :
    List Bool :=
  [byte &&& 1 != 0, byte &&& 2 != 0, byte &&& 4 != 0, byte &&& 8 != 0,
    byte &&& 16 != 0, byte &&& 32 != 0, byte &&& 64 != 0, byte &&& 128 != 0]

/-- An octet has eight bits. -/
@[simp]
theorem length_bitsOfByte
    (byte : UInt8) :
    (bitsOfByte byte).length = 8 := by
  rfl

namespace BitStream

/-- The bits of a byte string. -/
def ofBytes
    (bytes : Bytes) :
    BitStream where
  bytes :=
    bytes

/-- A list of bits. -/
def ofBits
    (bits : List Bool) :
    BitStream where
  held :=
    bits

/-- How many bits are left. -/
def size
    (stream : BitStream) :
    Nat :=
  stream.held.length + 8 * stream.octetsLeft

/-- Whether no bit is left. -/
def isEmpty
    (stream : BitStream) :
    Bool :=
  stream.held.isEmpty && stream.bytes.isEmpty

/-- The next bit. -/
def next?
    (stream : BitStream) :
    Option (Bool × BitStream) :=
  match stream with
  | ⟨bit :: held, bytes, octetsLeft, octetsLeft_eq⟩ =>
      some (bit, ⟨held, bytes, octetsLeft, octetsLeft_eq⟩)
  | ⟨[], byte :: bytes, octetsLeft, octetsLeft_eq⟩ =>
      match bitsOfByte byte with
      | bit :: held =>
          some (bit, ⟨held, bytes, octetsLeft - 1, by simp [octetsLeft_eq]⟩)
      | [] =>
          none
  | ⟨[], [], _, _⟩ =>
      none

/-- The next `count` octets from the next octet boundary on. -/
def take?
    (count : Nat)
    (stream : BitStream) :
    Option (Bytes × BitStream) :=
  if count ≤ stream.octetsLeft then
    some (stream.bytes.take count,
      { bytes := stream.bytes.drop count
        octetsLeft := stream.octetsLeft - count
        octetsLeft_eq := by simp [stream.octetsLeft_eq] })
  else
    none

/--
The bits of a piece that is read from its end: the highest bit of the last octet
that is set only marks where the bits start, and none of that octet's bits set
means that there is no mark.
-/
def backward?
    (bytes : Bytes) :
    Option BitStream :=
  match bytes.reverse with
  | [] =>
      none
  | last :: rest =>
      match (bitsOfByte last).reverse.dropWhile (fun bit => !bit) with
      | [] =>
          none
      | _ :: bits =>
          some (ofBits (bits ++ rest.flatMap (fun byte => (bitsOfByte byte).reverse)))

end BitStream

end MemberStream
