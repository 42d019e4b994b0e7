import MemberStream.Json.Lexer

namespace MemberStream

/-!
# Skipping a JSON value

The value of an unknown key is checked for its form and then forgotten.  Open
arrays and objects are kept on a stack.  A number or an escape that breaks off
at the end of the text counts as malformed here, any other value that breaks
off as an unexpected end.
-/

namespace Json

/-- What encloses a value. -/
inductive Enclosure
  | array
  | object
  deriving Repr, DecidableEq

/-- The octet that closes an enclosure. -/
def Enclosure.closing : Enclosure → UInt8
  | .array =>
      0x5D
  | .object =>
      0x7D

/-- Skip the rest of a string behind its opening quote. -/
def skipString : Bytes → Except Failure Bytes
  | [] =>
      .error .unexpectedEnd
  | 0x22 :: rest =>
      .ok rest
  | 0x5C :: 0x75 :: a :: b :: c :: d :: rest =>
      match hexUnit? a b c d with
      | some _ =>
          skipString rest
      | none =>
          .error .malformed
  | 0x5C :: 0x75 :: _ =>
      .error .unexpectedEnd
  | 0x5C :: letter :: rest =>
      match escaped? letter with
      | some _ =>
          skipString rest
      | none =>
          .error .malformed
  | [0x5C] =>
      .error .unexpectedEnd
  | byte :: rest =>
      if byte < 0x20 then
        .error .malformed
      else
        skipString rest

/-- Skip the digits behind a point or an exponent mark; there must be one. -/
def skipDigits
    (text : Bytes) :
    Except Failure Bytes :=
  match text.takeWhile isDigit with
  | [] =>
      .error .malformed
  | _ :: _ =>
      .ok (text.dropWhile isDigit)

/-- Skip an exponent if there is one. -/
def skipExponent
    (text : Bytes) :
    Except Failure Bytes :=
  match text with
  | 0x65 :: rest | 0x45 :: rest =>
      match rest with
      | 0x2B :: rest | 0x2D :: rest =>
          skipDigits rest
      | rest =>
          skipDigits rest
  | text =>
      .ok text

/-- Skip an unsigned number. -/
def skipNumber
    (text : Bytes) :
    Except Failure Bytes :=
  let behind := text.dropWhile isDigit
  match text.takeWhile isDigit with
  | [] =>
      .error .malformed
  | 0x30 :: _ :: _ =>
      .error .malformed
  | _ :: _ =>
      match behind with
      | 0x2E :: rest =>
          match skipDigits rest with
          | .ok behind =>
              skipExponent behind
          | .error failure =>
              .error failure
      | behind =>
          skipExponent behind

/-- Skip a key and the colon behind it. -/
def skipKey
    (text : Bytes) :
    Except Failure Bytes :=
  match skipSpace text with
  | [] =>
      .error .unexpectedEnd
  | 0x22 :: rest =>
      match skipString rest with
      | .error failure =>
          .error failure
      | .ok behind =>
          match skipSpace behind with
          | [] =>
              .error .unexpectedEnd
          | 0x3A :: rest =>
              .ok rest
          | _ :: _ =>
              .error .malformed
  | _ :: _ =>
      .error .malformed

/-- Where a walk over nested values stands. -/
inductive SkipPosition
  /-- In front of a value. -/
  | value
  /-- Right behind the opening bracket of the innermost enclosure. -/
  | opened
  /-- Right behind a value. -/
  | finished
  deriving Repr, DecidableEq

/-- Walk to the end of the outermost value in at most `fuel` steps. -/
def skipFrom : Nat → SkipPosition → List Enclosure → Bytes → Except Failure Bytes
  | 0, _, _, _ =>
      .error .malformed
  | _ + 1, .finished, [], text =>
      .ok text
  | _ + 1, .opened, [], text =>
      .ok text
  | fuel + 1, .value, stack, text =>
      match skipSpace text with
      | [] =>
          .error .unexpectedEnd
      | 0x5B :: rest =>
          skipFrom fuel .opened (.array :: stack) rest
      | 0x7B :: rest =>
          skipFrom fuel .opened (.object :: stack) rest
      | first :: rest =>
          let result : Except Failure Bytes :=
            if first = 0x6E then
              readWord (octets "ull") rest
            else if first = 0x74 then
              readWord (octets "rue") rest
            else if first = 0x66 then
              readWord (octets "alse") rest
            else if first = 0x22 then
              skipString rest
            else if first = 0x2D then
              skipNumber rest
            else if isDigit first then
              skipNumber (first :: rest)
            else
              .error .malformed
          match result with
          | .ok behind =>
              skipFrom fuel .finished stack behind
          | .error failure =>
              .error failure
  | fuel + 1, position, enclosure :: stack, text =>
      match skipSpace text with
      | [] =>
          .error .unexpectedEnd
      | first :: rest =>
          if first = enclosure.closing then
            skipFrom fuel .finished stack rest
          else
            let next : Except Failure Bytes :=
              match position with
              | .finished =>
                  if first = 0x2C then .ok rest else .error .malformed
              | _ =>
                  .ok (first :: rest)
            match next, enclosure with
            | .error failure, _ =>
                .error failure
            | .ok text, .array =>
                skipFrom fuel .value (enclosure :: stack) text
            | .ok text, .object =>
                match skipKey text with
                | .ok behind =>
                    skipFrom fuel .value (enclosure :: stack) behind
                | .error failure =>
                    .error failure

/-- Skip one value. -/
def skipValue
    (text : Bytes) :
    Except Failure Bytes :=
  skipFrom (2 * text.length + 4) .value [] text

end Json

end MemberStream
