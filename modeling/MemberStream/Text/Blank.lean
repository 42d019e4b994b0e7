namespace MemberStream

/-!
# Blank characters

A character is blank when Unicode gives it the property White_Space.  Values
read from a configuration are trimmed of blanks at both ends.
-/

namespace Text

/-- The characters with the Unicode property White_Space. -/
def isBlank
    (character : Char) :
    Bool :=
  let point := character.toNat
  (9 ≤ point && point ≤ 13) || point == 0x20 || point == 0x85 || point == 0xA0 ||
    point == 0x1680 || (0x2000 ≤ point && point ≤ 0x200A) || point == 0x2028 ||
    point == 0x2029 || point == 0x202F || point == 0x205F || point == 0x3000

/-- The text without the blanks at its two ends. -/
def trim
    (text : List Char) :
    List Char :=
  ((text.dropWhile isBlank).reverse.dropWhile isBlank).reverse

/-- The text with `A` to `Z` replaced by `a` to `z`; other characters stay. -/
def lowerAscii
    (text : List Char) :
    List Char :=
  text.map Char.toLower

end Text

end MemberStream
