import MemberStream.Bits.Stream

namespace MemberStream

/-!
# Packing bits

Bits are packed into octets lowest first, and the last octet is filled with
zeros.  A large value is written as the symbol of a range and the offset in it.
-/

/-- The octet with given bits, lowest first. -/
def byteOfBits
    (b0 b1 b2 b3 b4 b5 b6 b7 : Bool) :
    UInt8 :=
  let place (bit : Bool) (value : UInt8) : UInt8 := if bit then value else 0
  place b0 1 ||| place b1 2 ||| place b2 4 ||| place b3 8 |||
    place b4 16 ||| place b5 32 ||| place b6 64 ||| place b7 128

/-- Pack bits behind octets that are given last first. -/
def packOnto
    (packed : Bytes) :
    List Bool →
    Bytes
  | b0 :: b1 :: b2 :: b3 :: b4 :: b5 :: b6 :: b7 :: rest =>
      packOnto (byteOfBits b0 b1 b2 b3 b4 b5 b6 b7 :: packed) rest
  | [] =>
      packed.reverse
  | rest =>
      let bit (index : Nat) : Bool := rest.getD index false
      let last := byteOfBits (bit 0) (bit 1) (bit 2) (bit 3) (bit 4) (bit 5) (bit 6) (bit 7)
      (last :: packed).reverse

/-- Pack bits into octets. -/
def packBits
    (bits : List Bool) :
    Bytes :=
  packOnto [] bits

/-- The lowest `width` bits of a number, lowest first. -/
def numberBits : Nat → Nat → List Bool
  | 0, _ =>
      []
  | width + 1, value =>
      (value % 2 == 1) :: numberBits width (value / 2)

/-- The last range that starts at or below a value: its symbol, base and extra bits. -/
def rangeOf
    (ranges : List (Nat × Nat))
    (value : Nat) :
    Nat × Nat × Nat :=
  let reached := ranges.takeWhile (fun range => decide (range.1 ≤ value))
  let symbol := reached.length - 1
  (symbol, ranges.getD symbol (0, 0))

end MemberStream
