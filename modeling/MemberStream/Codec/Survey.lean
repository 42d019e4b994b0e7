import MemberStream.Codec.Member

namespace MemberStream

/-!
# Surveys of compressed streams

A survey lists the members of a stream with their content, as far as they can be
decoded.  The marks of a member are what its container shows besides the
compressed data: header, checksum, and whether a stored length is right.
-/

/-- A member of a stream. -/
structure SurveyedMember where
  /-- The member as it is stored. -/
  stored : Bytes
  content : Bytes
  deriving Repr, DecidableEq

/-- The members of a stream and what follows the last one that can be decoded. -/
structure Survey where
  members : List SurveyedMember
  rest : Bytes
  deriving Repr, DecidableEq

namespace Survey

/-- Survey a stream behind members that are given last first. -/
def gather
    (parameters : ParameterSet)
    (members : List SurveyedMember)
    (stream : Bytes) :
    Survey :=
  match parameters.decodeMember stream with
  | .ok (length, content) =>
      if 0 < length ∧ 0 < stream.length then
        gather parameters (⟨stream.take length, content⟩ :: members) (stream.drop length)
      else
        ⟨members.reverse, stream⟩
  | .error _ =>
      ⟨members.reverse, stream⟩
termination_by stream.length
decreasing_by
  simp only [List.length_drop]
  omega

end Survey

/-- Survey a stream. -/
def ParameterSet.survey
    (parameters : ParameterSet)
    (stream : Bytes) :
    Survey :=
  Survey.gather parameters [] stream

/-- What the container of a member shows. -/
inductive Marks
  | bare
  /-- A body behind its length, and whether it fills that length. -/
  | prefixed (fits : Bool)
  | gzip (head sum : Bytes)
  /-- A gzip member with an extra field, and whether the stored body length is right. -/
  | gzipExtended (head sum extra : Bytes) (sourceLength : Nat) (fits : Bool)
  | lz4 (head sum : Bytes)
  | zstd (head : Bytes)
  deriving Repr, DecidableEq

namespace Marks

/-- The octets of a member from one offset up to another. -/
def octets
    (stored : Bytes)
    (first last : Nat) :
    Bytes :=
  (stored.take last).drop first

/-- The last octets of a member. -/
def ending
    (stored : Bytes)
    (count : Nat) :
    Bytes :=
  stored.drop (stored.length - count)

/-- Whether a bare body takes up some octets exactly. -/
def fillsExactly
    (stored : Bytes) :
    Bool :=
  match Deflate.decodeRaw stored with
  | .ok (length, _) =>
      length == stored.length
  | .error _ =>
      false

/-- The length of the extra field with its own length. -/
def extraFieldLength : Nat :=
  14

/-- What the container of a deflate member shows. -/
def ofDeflate
    (format : DeflateFormat)
    (stored : Bytes) :
    Marks :=
  let head := stored.take Deflate.gzipHeaderLength
  let sum := ending stored Deflate.gzipTrailerLength
  match format with
  | .raw =>
      .bare
  | .lengthPrefixed =>
      .prefixed (fillsExactly (stored.drop 4))
  | .gzip =>
      .gzip head sum
  | .gzipExtended =>
      let framing :=
        Deflate.gzipHeaderLength + extraFieldLength + Deflate.gzipTrailerLength
      .gzipExtended head sum (octets stored 10 16) (ofLittleEndian (octets stored 16 20))
        (ofLittleEndian (octets stored 20 24) + framing == stored.length)

end Marks

/-- What the container of a member shows under the given parameters. -/
def ParameterSet.marks
    (parameters : ParameterSet)
    (stored : Bytes) :
    Marks :=
  match parameters.algorithm with
  | .deflate =>
      .ofDeflate parameters.deflateFormat stored
  | .lz4 =>
      .lz4 (stored.take 7) (Marks.ending stored 4)
  | .zstd =>
      .zstd (stored.take Zstd.magic.length)

end MemberStream
