import MemberStream.Bytes

namespace MemberStream

/-!
# Lexical elements of JSON

The readers work on the octets of a text and return what is left behind the
element they read.  A failure says whether the text ended too early, is no JSON,
or is JSON of the wrong shape; the first failure in reading order counts.
-/

namespace Json

/-- Why a text does not denote the wanted value. -/
inductive Failure
  /-- The text is well formed, but not of the wanted shape. -/
  | data
  /-- The text is not JSON. -/
  | malformed
  /-- The text ends inside a value. -/
  | unexpectedEnd
  deriving Repr, DecidableEq

/-- The result of reading an element: its value and the octets behind it. -/
abbrev Read (α : Type) :=
  Except Failure (α × Bytes)

/-- Whether an octet is a space, tab, line feed or carriage return. -/
def isSpace
    (byte : UInt8) :
    Bool :=
  byte == 0x20 || byte == 0x09 || byte == 0x0A || byte == 0x0D

/-- The text behind leading white space. -/
def skipSpace
    (text : Bytes) :
    Bytes :=
  text.dropWhile isSpace

/-- Whether an octet is an ASCII digit. -/
def isDigit
    (byte : UInt8) :
    Bool :=
  0x30 ≤ byte && byte ≤ 0x39

/-- The octets of an ASCII word. -/
def octets
    (word : String) :
    Bytes :=
  word.toUTF8.toList

/-- Read the given octets. -/
def readWord : Bytes → Bytes → Except Failure Bytes
  | [], text =>
      .ok text
  | _ :: _, [] =>
      .error .unexpectedEnd
  | expected :: word, byte :: text =>
      if byte = expected then
        readWord word text
      else
        .error .malformed

/-- The failure of a text that breaks off or goes on wrongly inside a number. -/
def numberFailure : Bytes → Failure
  | [] =>
      .unexpectedEnd
  | _ :: _ =>
      .malformed

/-- A number as far as the decoders tell numbers apart. -/
inductive Number
  /-- A natural number without fraction and exponent. -/
  | natural (value : Nat)
  /-- Any other number that a double can hold. -/
  | other
  deriving Repr, DecidableEq

/-- The value of a string of digit octets. -/
def digitsValue
    (digits : Bytes) :
    Nat :=
  digits.foldl (fun value digit => 10 * value + (digit.toNat - 0x30)) 0

/--
Whether `digits * 10 ^ exponent` is too large for a double.  Far exponents are
settled by the number of digits.
-/
def beyondDouble
    (digits : Nat)
    (exponent : Int) :
    Bool :=
  if digits = 0 then
    false
  else
    let magnitude := exponent + ((Nat.toDigits 10 digits).length : Int)
    if 310 < magnitude then
      true
    else if magnitude < 300 then
      false
    else
      decide
        ((2 ^ (1024 : Nat) - 2 ^ (970 : Nat)) * 10 ^ (-exponent).toNat ≤
          digits * 10 ^ exponent.toNat)

/-- The exponent behind the letter `e`, if there is one. -/
def readExponent
    (text : Bytes) :
    Read (Option Int) :=
  match text with
  | 0x65 :: rest | 0x45 :: rest =>
      let (negative, rest) :=
        match rest with
        | 0x2B :: rest =>
            (false, rest)
        | 0x2D :: rest =>
            (true, rest)
        | rest =>
            (false, rest)
      let digits := rest.takeWhile isDigit
      let behind := rest.dropWhile isDigit
      if digits.isEmpty then
        .error (numberFailure behind)
      else
        let value : Int := digitsValue digits
        .ok (some (if negative then -value else value), behind)
  | text =>
      .ok (none, text)

/-- The fraction digits behind the point, if there is one. -/
def readFraction
    (text : Bytes) :
    Read (Option Bytes) :=
  match text with
  | 0x2E :: rest =>
      let digits := rest.takeWhile isDigit
      let behind := rest.dropWhile isDigit
      if digits.isEmpty then
        .error (numberFailure behind)
      else
        .ok (some digits, behind)
  | text =>
      .ok (none, text)

/-- Read an unsigned number. -/
def readNumber
    (text : Bytes) :
    Read Number :=
  let whole := text.takeWhile isDigit
  let behind := text.dropWhile isDigit
  match whole with
  | [] =>
      .error (numberFailure behind)
  | 0x30 :: _ :: _ =>
      .error .malformed
  | whole =>
      match readFraction behind with
      | .error failure =>
          .error failure
      | .ok (fraction, behind) =>
          match readExponent behind with
          | .error failure =>
              .error failure
          | .ok (exponent, behind) =>
              match fraction, exponent with
              | none, none =>
                  if beyondDouble (digitsValue whole) 0 then
                    .error .malformed
                  else
                    .ok (.natural (digitsValue whole), behind)
              | fraction, exponent =>
                  let places := (fraction.getD []).length
                  let digits := digitsValue (whole ++ fraction.getD [])
                  if beyondDouble digits (exponent.getD 0 - (places : Int)) then
                    .error .malformed
                  else
                    .ok (.other, behind)

/-- The value of a hexadecimal digit. -/
def hexDigit?
    (byte : UInt8) :
    Option Nat :=
  if isDigit byte then
    some (byte.toNat - 0x30)
  else if 0x61 ≤ byte ∧ byte ≤ 0x66 then
    some (byte.toNat - 0x61 + 10)
  else if 0x41 ≤ byte ∧ byte ≤ 0x46 then
    some (byte.toNat - 0x41 + 10)
  else
    none

/-- The value of four hexadecimal digits. -/
def hexUnit?
    (a b c d : UInt8) :
    Option Nat :=
  match hexDigit? a, hexDigit? b, hexDigit? c, hexDigit? d with
  | some a, some b, some c, some d =>
      some (((a * 16 + b) * 16 + c) * 16 + d)
  | _, _, _, _ =>
      none

/-- The octet that a one-letter escape stands for. -/
def escaped? : UInt8 → Option UInt8
  | 0x22 =>
      some 0x22
  | 0x5C =>
      some 0x5C
  | 0x2F =>
      some 0x2F
  | 0x62 =>
      some 0x08
  | 0x66 =>
      some 0x0C
  | 0x6E =>
      some 0x0A
  | 0x72 =>
      some 0x0D
  | 0x74 =>
      some 0x09
  | _ =>
      none

/-- Whether a UTF-16 unit is the first of a pair. -/
def isHighSurrogate
    (unit : Nat) :
    Bool :=
  0xD800 ≤ unit && unit < 0xDC00

/-- Whether a UTF-16 unit is the second of a pair. -/
def isLowSurrogate
    (unit : Nat) :
    Bool :=
  0xDC00 ≤ unit && unit < 0xE000

/-- The octets of a code point, last one first, in front of those read before. -/
def pushPoint
    (read : Bytes)
    (point : Nat) :
    Bytes :=
  (String.utf8EncodeChar (Char.ofNat point)).reverse ++ read

/-- The failure of a text that lacks the second half of a surrogate pair. -/
def pairFailure : Bytes → Failure
  | [] =>
      .unexpectedEnd
  | 0x5C :: rest =>
      match rest with
      | [] =>
          .unexpectedEnd
      | 0x75 :: digits =>
          if digits.length < 4 then .unexpectedEnd else .malformed
      | _ :: _ =>
          .malformed
  | _ :: _ =>
      .malformed

/-- Read the rest of a string behind its opening quote, given what was read so far. -/
def readStringFrom
    (read : Bytes) :
    Bytes → Read Bytes
  | [] =>
      .error .unexpectedEnd
  | 0x22 :: rest =>
      .ok (read.reverse, rest)
  | 0x5C :: 0x75 :: a :: b :: c :: d :: rest =>
      match hexUnit? a b c d with
      | none =>
          .error .malformed
      | some unit =>
          if isLowSurrogate unit then
            .error .malformed
          else if isHighSurrogate unit then
            match rest with
            | 0x5C :: 0x75 :: e :: f :: g :: h :: rest =>
                match hexUnit? e f g h with
                | none =>
                    .error .malformed
                | some second =>
                    if isLowSurrogate second then
                      readStringFrom
                        (pushPoint read
                          (0x10000 + (unit - 0xD800) * 0x400 + (second - 0xDC00)))
                        rest
                    else
                      .error .malformed
            | rest =>
                .error (pairFailure rest)
          else
            readStringFrom (pushPoint read unit) rest
  | 0x5C :: 0x75 :: _ =>
      .error .unexpectedEnd
  | 0x5C :: letter :: rest =>
      match escaped? letter with
      | some byte =>
          readStringFrom (byte :: read) rest
      | none =>
          .error .malformed
  | [0x5C] =>
      .error .unexpectedEnd
  | byte :: rest =>
      if byte < 0x20 then
        .error .malformed
      else
        readStringFrom (byte :: read) rest

/-- Read the rest of a string behind its opening quote. -/
def readString
    (text : Bytes) :
    Read Bytes :=
  readStringFrom [] text

end Json

end MemberStream
