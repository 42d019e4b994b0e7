import MemberStream.Deflate.Framing
import MemberStream.Deflate.Inflate

namespace MemberStream

/-!
# Reading gzip members

A gzip member is a header with optional fields, a deflate body, and a trailer
with the checksum and the length of the content.  The optional fields are
skipped; a header checksum is compared with the header before it.
-/

namespace Deflate

open Decoder

/-- The fixed part of a gzip header. -/
structure GzipFlags where
  extra : Bool
  name : Bool
  comment : Bool
  checksum : Bool
  deriving Repr, DecidableEq

namespace GzipFlags

/-- The fields that a flag octet announces; reserved bits must be clear. -/
def ofOctet?
    (octet : UInt8) :
    Option GzipFlags :=
  if octet &&& 0xe0 != 0 then
    none
  else
    some {
      extra := octet &&& 4 != 0
      name := octet &&& 8 != 0
      comment := octet &&& 16 != 0
      checksum := octet &&& 2 != 0 }

end GzipFlags

/-- The longest name or comment. -/
def longestText : Nat :=
  65535

/-- Read a text up to its zero octet; the result has that octet, too. -/
def terminatedText : Decoder Bytes :=
  iterate
    (fun (state : Nat × Bytes) => do
      let (count, text) := state
      let byte ← octet
      if byte = 0 then
        return .stop (byte :: text).reverse
      else do
        require (count < longestText) .decodeFailed
        return .again (count + 1, byte :: text))
    (0, [])

/-- Read an extra field with its length. -/
def extraField : Decoder Bytes := do
  let length ← octets 2
  let content ← octets (ofLittleEndian length)
  return length ++ content

/-- Read a field if it is there. -/
def optionalField
    (present : Bool)
    (field : Decoder Bytes) :
    Decoder Bytes :=
  if present then field else return []

/-- Compare a header checksum with the header before it. -/
def headerChecksum
    (header : Bytes) :
    Decoder Bytes := do
  let stored ← octets 2
  require (ofLittleEndian stored == (crc32 header).toNat % 2 ^ (16 : Nat)) .checksumMismatch
  return stored

/-- Read a gzip header. -/
def gzipHead : Decoder Bytes := do
  let head ← octets gzipHeaderLength
  require (head.take 2 == gzipMagic) .badMagic
  require (head.getD 2 0 == 8) .decodeFailed
  match GzipFlags.ofOctet? (head.getD 3 0) with
  | none =>
      malformed
  | some flags => do
      let extra ← optionalField flags.extra extraField
      let name ← optionalField flags.name terminatedText
      let comment ← optionalField flags.comment terminatedText
      let header := head ++ extra ++ name ++ comment
      let checksum ← optionalField flags.checksum (headerChecksum header)
      return header ++ checksum

/-- Read a gzip member and return its content. -/
def gzipMember : Decoder Bytes := do
  let _ ← gzipHead
  let history ← body
  let content := history.toList
  let checksum ← word 4
  let length ← word 4
  require (checksum == (crc32 content).toNat) .checksumMismatch
  require (length == content.length % 2 ^ (32 : Nat)) .checksumMismatch
  return content

end Deflate

end MemberStream
