import MemberStream.Decimal.Binary

namespace MemberStream

/-!
# The fewest digits that read back

A double stands for every real number that rounds to it.  Its shortest text has
the fewest decimal digits of any number in that interval, and the nearest of
those to the exact value.  For one digit, two digits and so on the two
neighbours of the value on that decimal grid are tested in exact arithmetic.
-/

namespace Decimal

/-- The number `digits * 10 ^ exponent`. -/
structure Scientific where
  digits : Nat
  exponent : Int
  deriving Repr, DecidableEq

/--
Compare `digits * 10 ^ exponent` with a quarter of `quarters` units of the last
place of a binary value.
-/
def compareQuarters
    (number : Scientific)
    (quarters : Nat)
    (exponent : Int) :
    Ordering :=
  let binary := exponent - 2
  compare
    (number.digits * 10 ^ number.exponent.toNat * 2 ^ (-binary).toNat)
    (quarters * 2 ^ binary.toNat * 10 ^ (-number.exponent).toNat)

/-- Whether a decimal number rounds to a binary value. -/
def readsBack
    (value : BinaryValue)
    (number : Scientific) :
    Bool :=
  let lower :=
    if value.narrowBelow then
      4 * value.mantissa - 1
    else
      4 * value.mantissa - 2
  let upper := 4 * value.mantissa + 2
  let even := value.mantissa % 2 == 0
  let above := compareQuarters number lower value.exponent
  let below := compareQuarters number upper value.exponent
  (above == .gt || (even && above == .eq)) && (below == .lt || (even && below == .eq))

/-- The exponent of the leading decimal digit of a positive value. -/
def leadingExponent
    (value : BinaryValue) :
    Int :=
  let whole := value.numerator / value.denominator
  if whole = 0 then
    let zeros :=
      (List.range 400).takeWhile
        (fun power => decide (value.numerator * 10 ^ power < value.denominator))
    Int.neg zeros.length
  else
    ((decimalDigits whole).length : Int) - 1

/-- The neighbour below on the grid `10 ^ exponent`. -/
def below
    (value : BinaryValue)
    (exponent : Int) :
    Scientific where
  digits :=
    value.numerator * 10 ^ (-exponent).toNat / (value.denominator * 10 ^ exponent.toNat)
  exponent :=
    exponent

/-- The nearer of two candidates that both read back, the even one on a tie. -/
def nearer
    (value : BinaryValue)
    (lower upper : Scientific) :
    Scientific :=
  let middle : Scientific :=
    { digits := lower.digits + upper.digits
      exponent := lower.exponent }
  match compareQuarters middle (8 * value.mantissa) value.exponent with
  | .gt =>
      lower
  | .lt =>
      upper
  | .eq =>
      if lower.digits % 2 = 0 then lower else upper

/-- The candidate with a given number of digits, if one reads back. -/
def candidate?
    (value : BinaryValue)
    (leading : Int)
    (count : Nat) :
    Option Scientific :=
  let lower := below value (leading - (count : Int) + 1)
  let upper := { lower with digits := lower.digits + 1 }
  match readsBack value lower, readsBack value upper with
  | true, true =>
      some (nearer value lower upper)
  | true, false =>
      some lower
  | false, true =>
      some upper
  | false, false =>
      none

/-- The shortest decimal number that reads back to a positive value. -/
def shortest
    (value : BinaryValue) :
    Scientific :=
  let leading := leadingExponent value
  match ((List.range 17).map (· + 1)).findSome? (candidate? value leading) with
  | some number =>
      number
  | none =>
      below value (leading - 800)

/-- The digits without the zeros at their end, and how many were dropped. -/
def stripZeros
    (digits : List Char) :
    List Char × Nat :=
  let zeros := (digits.reverse.takeWhile (· == '0')).length
  (digits.take (digits.length - zeros), zeros)

/--
Lay out a value: with a point when the leading digit has an exponent from -5 to
15, otherwise with a signed exponent.  At least one digit follows the point of
the positional form.
-/
def render
    (value : BinaryValue) :
    String :=
  if value.mantissa = 0 then
    "0.0"
  else
    let number := shortest value
    let (digits, dropped) := stripZeros (decimalDigits number.digits)
    let count := digits.length
    let leading := number.exponent + (dropped : Int) + (count : Int) - 1
    if -5 ≤ leading ∧ leading < 16 then
      if leading < 0 then
        let zeros := (-leading).toNat - 1
        String.ofList ('0' :: '.' :: (List.replicate zeros '0' ++ digits))
      else
        let whole := leading.toNat + 1
        if count ≤ whole then
          String.ofList (digits ++ List.replicate (whole - count) '0' ++ ['.', '0'])
        else
          String.ofList (digits.take whole ++ '.' :: digits.drop whole)
    else
      let significand :=
        match digits with
        | first :: second :: rest =>
            first :: '.' :: second :: rest
        | digits =>
            digits
      let sign := if leading < 0 then '-' else '+'
      String.ofList (significand ++ 'e' :: sign :: decimalDigits leading.natAbs)

end Decimal

end MemberStream
