import MemberStream.Json.Skip
import MemberStream.Parameter.Domain
import MemberStream.Telemetry.Counters

namespace MemberStream

/-!
# Reading counters and domain members from JSON

Counters are read from an object that holds each field once, in any order and
among unknown keys, or from an array of the six values.  A member of a closed
domain is read from its label, or from an object that maps its label to null.
-/

namespace Json

/-- The failure of a value that has the wrong type: it must be JSON itself. -/
def wrongType
    (text : Bytes) :
    Failure :=
  let checked {α : Type} (result : Except Failure α) : Failure :=
    match result with
    | .ok _ =>
        .data
    | .error failure =>
        failure
  match text with
  | [] =>
      .unexpectedEnd
  | first :: rest =>
      if first = 0x6E then
        checked (readWord (octets "ull") rest)
      else if first = 0x74 then
        checked (readWord (octets "rue") rest)
      else if first = 0x66 then
        checked (readWord (octets "alse") rest)
      else if first = 0x2D then
        checked (readNumber rest)
      else if isDigit first then
        checked (readNumber (first :: rest))
      else if first = 0x22 then
        checked (readString rest)
      else if first = 0x5B ∨ first = 0x7B then
        .data
      else
        .malformed

/-- Read a natural number that fits 64 bits. -/
def readCount
    (text : Bytes) :
    Read UInt64 :=
  match skipSpace text with
  | [] =>
      .error .unexpectedEnd
  | first :: rest =>
      if isDigit first then
        match readNumber (first :: rest) with
        | .error failure =>
            .error failure
        | .ok (.natural value, behind) =>
            if value < 2 ^ (64 : Nat) then
              .ok (UInt64.ofNat value, behind)
            else
              .error .data
        | .ok (.other, _) =>
            .error .data
      else
        .error (wrongType (first :: rest))

/-- Read the colon between a key and its value. -/
def readColon
    (text : Bytes) :
    Except Failure Bytes :=
  match skipSpace text with
  | [] =>
      .error .unexpectedEnd
  | 0x3A :: rest =>
      .ok rest
  | _ :: _ =>
      .error .malformed

/-- Nothing but white space may follow a complete value. -/
def atEnd
    {α : Type} :
    Read α → Except Failure α
  | .error failure =>
      .error failure
  | .ok (value, behind) =>
      if (skipSpace behind).isEmpty then
        .ok value
      else
        .error .malformed

/-- The keys of the counters, in the order of their fields. -/
def counterKeys : List String :=
  [ "read_time_ns"
  , "write_time_ns"
  , "bytes_in"
  , "bytes_out"
  , "engine_time_ns"
  , "copy_time_ns" ]

/-- Counters from their six values, unless one is missing. -/
def countersOfValues? : List (Option UInt64) → Option Counters
  | [some readTime, some writeTime, some bytesIn, some bytesOut, some engineTime, some copyTime] =>
      some {
        readTime := readTime
        writeTime := writeTime
        bytesIn := bytesIn
        bytesOut := bytesOut
        engineTime := engineTime
        copyTime := copyTime }
  | _ =>
      none

/-- Move to the next key of an object, or behind its end. -/
def nextKey
    (first : Bool)
    (text : Bytes) :
    Read (Option Bytes) :=
  let readKey (text : Bytes) : Read (Option Bytes) :=
    match readString text with
    | .ok (key, behind) =>
        .ok (some key, behind)
    | .error failure =>
        .error failure
  match skipSpace text with
  | [] =>
      .error .unexpectedEnd
  | 0x7D :: rest =>
      .ok (none, rest)
  | 0x22 :: rest =>
      if first then readKey rest else .error .malformed
  | 0x2C :: rest =>
      if first then
        .error .malformed
      else
        match skipSpace rest with
        | [] =>
            .error .unexpectedEnd
        | 0x22 :: rest =>
            readKey rest
        | _ :: _ =>
            .error .malformed
  | _ :: _ =>
      .error .malformed

/-- Read the members of an object into the values seen so far. -/
def readMembers : Nat → Bool → List (Option UInt64) → Bytes → Read Counters
  | 0, _, _, _ =>
      .error .malformed
  | fuel + 1, first, values, text =>
      match nextKey first text with
      | .error failure =>
          .error failure
      | .ok (none, behind) =>
          match countersOfValues? values with
          | some counters =>
              .ok (counters, behind)
          | none =>
              .error .data
      | .ok (some key, behind) =>
          match counterKeys.findIdx? (fun name => octets name == key) with
          | some index =>
              match values[index]? with
              | some none =>
                  match readColon behind with
                  | .error failure =>
                      .error failure
                  | .ok behind =>
                      match readCount behind with
                      | .error failure =>
                          .error failure
                      | .ok (count, behind) =>
                          readMembers fuel false (values.set index (some count)) behind
              | _ =>
                  .error .data
          | none =>
              match readColon behind with
              | .error failure =>
                  .error failure
              | .ok behind =>
                  match skipValue behind with
                  | .error failure =>
                      .error failure
                  | .ok behind =>
                      readMembers fuel false values behind

/-- Read the remaining elements of an array of counters. -/
def readElements : Nat → Bool → List UInt64 → Bytes → Except Failure (List UInt64 × Bytes)
  | 0, _, values, text =>
      .ok (values.reverse, text)
  | count + 1, first, values, text =>
      let element (text : Bytes) : Except Failure (List UInt64 × Bytes) :=
        match readCount text with
        | .error failure =>
            .error failure
        | .ok (value, behind) =>
            readElements count false (value :: values) behind
      match skipSpace text with
      | [] =>
          .error .unexpectedEnd
      | 0x5D :: _ =>
          .error .data
      | 0x2C :: rest =>
          if first then
            element text
          else
            match skipSpace rest with
            | [] =>
                .error .unexpectedEnd
            | 0x5D :: _ =>
                .error .malformed
            | rest =>
                element rest
      | rest =>
          if first then element rest else .error .malformed

/-- Read the closing bracket of an array. -/
def readArrayEnd
    (text : Bytes) :
    Except Failure Bytes :=
  match skipSpace text with
  | [] =>
      .error .unexpectedEnd
  | 0x5D :: rest =>
      .ok rest
  | _ :: _ =>
      .error .malformed

/-- Read counters from an object or an array. -/
def readCounters
    (text : Bytes) :
    Read Counters :=
  match skipSpace text with
  | [] =>
      .error .unexpectedEnd
  | 0x7B :: rest =>
      readMembers (rest.length + 1) true (List.replicate counterKeys.length none) rest
  | 0x5B :: rest =>
      match readElements counterKeys.length true [] rest with
      | .error failure =>
          .error failure
      | .ok (values, behind) =>
          match readArrayEnd behind, countersOfValues? (values.map some) with
          | .error failure, _ =>
              .error failure
          | .ok _, none =>
              .error .data
          | .ok behind, some counters =>
              .ok (counters, behind)
  | text =>
      .error (wrongType text)

/-- Read a label behind its opening quote. -/
def readLabel
    {α : Type}
    (members : List α)
    (label : α → String)
    (text : Bytes) :
    Read α :=
  match readString text with
  | .error failure =>
      .error failure
  | .ok (word, behind) =>
      match members.find? (fun member => octets (label member) == word) with
      | some member =>
          .ok (member, behind)
      | none =>
          .error .data

/-- Read the null that a label may be mapped to, and the end of the object. -/
def readNullEnd
    (text : Bytes) :
    Except Failure Bytes :=
  match readColon text with
  | .error failure =>
      .error failure
  | .ok behind =>
      match skipSpace behind with
      | 0x6E :: rest =>
          match readWord (octets "ull") rest with
          | .error failure =>
              .error failure
          | .ok behind =>
              match skipSpace behind with
              | [] =>
                  .error .unexpectedEnd
              | 0x7D :: rest =>
                  .ok rest
              | _ :: _ =>
                  .error .malformed
      | text =>
          .error (wrongType text)

/-- Read a member of a closed domain. -/
def readMember
    {α : Type}
    (members : List α)
    (label : α → String)
    (text : Bytes) :
    Read α :=
  match skipSpace text with
  | [] =>
      .error .unexpectedEnd
  | 0x22 :: rest =>
      readLabel members label rest
  | 0x7B :: rest =>
      match skipSpace rest with
      | 0x22 :: rest =>
          match readLabel members label rest with
          | .error failure =>
              .error failure
          | .ok (member, behind) =>
              match readNullEnd behind with
              | .error failure =>
                  .error failure
              | .ok behind =>
                  .ok (member, behind)
      | text =>
          .error (wrongType text)
  | _ :: _ =>
      .error .malformed

/-- Counters from a whole text. -/
def countersOfText
    (text : String) :
    Except Failure Counters :=
  atEnd (readCounters (octets text))

/-- A member of a closed domain from a whole text. -/
def memberOfText
    {α : Type}
    (members : List α)
    (label : α → String)
    (text : String) :
    Except Failure α :=
  atEnd (readMember members label (octets text))

end Json

end MemberStream
