namespace MemberStream

/-!
# Unsigned numerals

An unsigned numeral is an optional `+` and one or more ASCII digits.  Leading
zeros are allowed and there is no bound: ranges are checked by the reader of
the number.
-/

namespace Text

/-- The value of a string of ASCII digits, most significant first. -/
def digitsValue
    (digits : List Char) :
    Nat :=
  digits.foldl (fun value digit => 10 * value + (digit.toNat - '0'.toNat)) 0

/-- The value of a non-empty string of ASCII digits. -/
def ofDigits?
    (digits : List Char) :
    Option Nat :=
  if digits.isEmpty = false ∧ digits.all Char.isDigit = true then
    some (digitsValue digits)
  else
    none

/-- The value of an unsigned numeral. -/
def ofNumeral? : List Char → Option Nat
  | '+' :: digits =>
      ofDigits? digits
  | digits =>
      ofDigits? digits

end Text

end MemberStream
