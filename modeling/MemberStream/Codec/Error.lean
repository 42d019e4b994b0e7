import MemberStream.Error.Basic
import MemberStream.Parameter.Domain

namespace MemberStream

/-!
# Errors of member codecs

A member codec fails for one of six causes.  An engine that meets one reports
the stream error it stands for; a stored checksum or length that disagrees with
the decoded content is the only one that counts as an integrity failure.
-/

/-- Why a member cannot be encoded or decoded. -/
inductive CodecFailure
  | levelOutOfRange (level highest : Nat)
  | encodeFailed (text : String)
  | decodeFailed
  /-- The input ends inside the member, after the given number of bytes. -/
  | truncated (length : Nat)
  | badMagic
  /-- The content disagrees with the checksum or length stored in the member. -/
  | checksumMismatch
  deriving Repr, DecidableEq

/-- A failure together with the algorithm whose codec met it. -/
structure CodecError where
  algorithm : Algorithm
  failure : CodecFailure
  deriving Repr, DecidableEq

namespace CodecError

/-- The wording of a codec error. -/
def message
    (error : CodecError) :
    String :=
  let codec := error.algorithm.name
  match error.failure with
  | .levelOutOfRange level highest =>
      codec ++ " level " ++ toString level ++ " out of range (max " ++ toString highest ++ ")"
  | .encodeFailed text =>
      codec ++ " encode failed: " ++ text
  | .decodeFailed =>
      codec ++ " decode failed"
  | .truncated count =>
      codec ++ " member truncated after " ++ toString count ++ " bytes"
  | .badMagic =>
      codec ++ " magic mismatch"
  | .checksumMismatch =>
      codec ++ " checksum mismatch"

/-- The stream error that a codec error stands for. -/
def toStreamError
    (error : CodecError) :
    StreamError :=
  match error.failure with
  | .levelOutOfRange _ _ =>
      .invalidParameter .compressionLevel
  | .encodeFailed _ =>
      .engineFault error.message
  | .decodeFailed | .truncated _ | .badMagic =>
      .corruptInput error.message
  | .checksumMismatch =>
      .integrityCheckFailed

end CodecError

end MemberStream
