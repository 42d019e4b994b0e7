import MemberStream.Decimal.Binary

namespace MemberStream

/-!
# A fixed number of decimal places

The exact value is rounded to the nearest multiple of the last place; a value
halfway between two multiples goes to the even one.
-/

namespace Decimal

/-- A quotient rounded to the nearest integer, halves going to the even one. -/
def roundQuotient
    (numerator denominator : Nat) :
    Nat :=
  let quotient := numerator / denominator
  let twice := 2 * (numerator % denominator)
  if twice < denominator then
    quotient
  else if denominator < twice then
    quotient + 1
  else if quotient % 2 = 0 then
    quotient
  else
    quotient + 1

/-- The value with exactly `places` digits behind the point. -/
def fixed
    (places : Nat)
    (value : BinaryValue) :
    String :=
  let scaled := roundQuotient (value.numerator * 10 ^ places) value.denominator
  let digits := padLeft (places + 1) (decimalDigits scaled)
  let whole := digits.length - places
  String.ofList (digits.take whole ++ '.' :: digits.drop whole)

end Decimal

end MemberStream
