namespace MemberStream

/-!
# Finite binary values

A finite non-negative double is a natural number times a power of two.  The
decimal writers work on this exact value.
-/

/-- The value `mantissa * 2 ^ exponent`. -/
structure BinaryValue where
  mantissa : Nat
  exponent : Int
  /-- Whether the gap to the value below is half the gap to the value above. -/
  narrowBelow : Bool
  deriving Repr, DecidableEq

namespace BinaryValue

/-- The value of the bits of a finite non-negative double. -/
def ofBits
    (bits : UInt64) :
    BinaryValue :=
  let scale := ((bits >>> 52) &&& 0x7FF).toNat
  let fraction := (bits &&& 0xFFFFFFFFFFFFF).toNat
  if scale = 0 then
    { mantissa := fraction
      exponent := -1074
      narrowBelow := false }
  else
    { mantissa := 2 ^ (52 : Nat) + fraction
      exponent := (scale : Int) - 1075
      narrowBelow := fraction == 0 && decide (1 < scale) }

/-- A quotient of two naturals equal to the value. -/
def numerator
    (value : BinaryValue) :
    Nat :=
  value.mantissa * 2 ^ value.exponent.toNat

/-- The denominator that belongs to `numerator`. -/
def denominator
    (value : BinaryValue) :
    Nat :=
  2 ^ (-value.exponent).toNat

end BinaryValue

/-- The decimal digits of a natural number, most significant first. -/
def decimalDigits
    (number : Nat) :
    List Char :=
  Nat.toDigits 10 number

/-- Fill a digit string with zeros on the left up to a width. -/
def padLeft
    (width : Nat)
    (digits : List Char) :
    List Char :=
  List.replicate (width - digits.length) '0' ++ digits

end MemberStream
