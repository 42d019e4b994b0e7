import MemberStream.Deflate.Gzip

namespace MemberStream

/-!
# Reading deflate members

A member is read from the front of a byte string.  The result is the number of
bytes the member takes up, and its content.
-/

namespace Deflate

/-- Read a bare body; input that ends inside it is truncated. -/
def decodeRaw
    (input : Bytes) :
    Except CodecFailure (Nat × Bytes) :=
  let length := input.length
  match body.run (.ofBytes input) with
  | .done history rest =>
      .ok (length - rest.octetsLeft, history.toList)
  | .refused failure =>
      .error failure
  | .unfinished =>
      .error (.truncated length)

/-- Read a body behind its length; what follows the body within that length is skipped. -/
def decodePrefixed
    (input : Bytes) :
    Except CodecFailure (Nat × Bytes) :=
  match splitBytes? 4 input with
  | none =>
      .error (.truncated input.length)
  | some (lengthOctets, rest) =>
      let bodyLength := ofLittleEndian lengthOctets
      match splitBytes? bodyLength rest with
      | none =>
          .error (.truncated input.length)
      | some (stored, _) =>
          match decodeRaw stored with
          | .ok (_, content) =>
              .ok (4 + bodyLength, content)
          | .error failure =>
              .error failure

/--
Read a gzip member.  Only input shorter than the fixed part of a header counts as
truncated; a member that ends early later on is malformed.
-/
def decodeGzip
    (input : Bytes) :
    Except CodecFailure (Nat × Bytes) :=
  let length := input.length
  if length < gzipHeaderLength then
    .error (.truncated length)
  else
    match gzipMember.run (.ofBytes input) with
    | .done content rest =>
        .ok (length - rest.octetsLeft, content)
    | .refused failure =>
        .error failure
    | .unfinished =>
        .error .decodeFailed

/-- Read a member in a given container. -/
def decodeMember
    (format : DeflateFormat)
    (input : Bytes) :
    Except CodecFailure (Nat × Bytes) :=
  match format with
  | .raw =>
      decodeRaw input
  | .lengthPrefixed =>
      decodePrefixed input
  | .gzip | .gzipExtended =>
      decodeGzip input

end Deflate

end MemberStream
