import MemberStream.Codec.Encoders
import MemberStream.Deflate.Member
import MemberStream.Parameter.Set

namespace MemberStream

/-!
# Members

A member is one self-contained unit of a compressed stream: a deflate body in
its container, an LZ4 frame or a Zstandard frame.  A stream is a concatenation
of members, and each algorithm has a codec that writes one member and that reads
the member at the front of a byte string.
-/

namespace Algorithm

/-- The highest level that a codec accepts; LZ4 has no levels. -/
def highestLevel? : Algorithm → Option Nat
  | .deflate =>
      some 9
  | .lz4 =>
      none
  | .zstd =>
      some 22

/-- Refuse a level above the highest one. -/
def checkLevel
    (algorithm : Algorithm)
    (level : UInt32) :
    Except CodecError Unit :=
  match algorithm.highestLevel? with
  | some highest =>
      if highest < level.toNat then
        .error ⟨algorithm, .levelOutOfRange level.toNat highest⟩
      else
        .ok ()
  | none =>
      .ok ()

end Algorithm

namespace ParameterSet

/-- The level of a Zstandard frame, which is a signed word. -/
def frameLevel
    (parameters : ParameterSet) :
    Nat :=
  min parameters.level.toNat (2 ^ (31 : Nat) - 1)

open Appending in
/-- Encode a source, and append its member. -/
def writeMember
    (parameters : ParameterSet)
    (encoders : Encoders)
    (source : Bytes) :
    Appending Unit :=
  match parameters.algorithm with
  | .deflate => do
      let body ← written (encoders.deflateBody parameters.level source)
      Deflate.frame parameters.deflateFormat parameters.level source body
  | .lz4 => do
      let frame ← written (encoders.lz4Frame source)
      append frame
  | .zstd => do
      let frame ← written (encoders.zstdFrame parameters.frameLevel source)
      append frame

/-- Append the member of a source to some output, with the encoders of this library or others. -/
def encodeOnto
    (parameters : ParameterSet)
    (source output : Bytes)
    (encoders : Encoders := .own) :
    Except CodecError Unit × Bytes :=
  let (result, output) := (parameters.writeMember encoders source).onto output
  (result.mapError (CodecError.mk parameters.algorithm), output)

/-- The member of a source. -/
def encodeMember
    (parameters : ParameterSet)
    (encoders : Encoders)
    (source : Bytes) :
    Except CodecError Bytes :=
  let (result, member) := parameters.encodeOnto source [] encoders
  result.map (fun _ => member)

/-- Read the member at the front of some input: its length and its content. -/
def decodeMember
    (parameters : ParameterSet)
    (input : Bytes) :
    Except CodecError (Nat × Bytes) :=
  let decoded :=
    match parameters.algorithm with
    | .deflate =>
        Deflate.decodeMember parameters.deflateFormat input
    | .lz4 =>
        Lz4.decodeMember input
    | .zstd =>
        Zstd.decodeMember input
  decoded.mapError (CodecError.mk parameters.algorithm)

/-- What is written for a source: the output of its encoder, in a container if it has one. -/
def memberOf
    (parameters : ParameterSet)
    (encoders : Encoders)
    (source : Bytes) :
    Except CodecFailure Bytes :=
  match parameters.algorithm with
  | .deflate =>
      match encoders.deflateBody parameters.level source with
      | .ok body =>
          Deflate.member parameters.deflateFormat parameters.level source body
      | .error text =>
          .error (.encodeFailed text)
  | .lz4 =>
      (encoders.lz4Frame source).mapError .encodeFailed
  | .zstd =>
      (encoders.zstdFrame parameters.frameLevel source).mapError .encodeFailed

/-- What is written for a source is appended, or nothing is. -/
theorem writeMember_onto
    (parameters : ParameterSet)
    (encoders : Encoders)
    (source output : Bytes) :
    (parameters.writeMember encoders source).onto output =
      match parameters.memberOf encoders source with
      | .ok member => (.ok (), output ++ member)
      | .error failure => (.error failure, output) := by
  unfold writeMember memberOf
  cases parameters.algorithm with
  | deflate =>
      dsimp only
      rw [Appending.written_bind_onto]
      cases encoders.deflateBody parameters.level source with
      | ok body =>
          exact Deflate.frame_onto _ _ source body output
      | error text =>
          rfl
  | lz4 =>
      exact Appending.written_bind_append_onto (encoders.lz4Frame source) output
  | zstd =>
      exact Appending.written_bind_append_onto
        (encoders.zstdFrame parameters.frameLevel source) output

/-- The member of a source is what is written for it. -/
theorem encodeMember_eq
    (parameters : ParameterSet)
    (encoders : Encoders)
    (source : Bytes) :
    parameters.encodeMember encoders source =
      (parameters.memberOf encoders source).mapError (CodecError.mk parameters.algorithm) := by
  rw [encodeMember, encodeOnto, writeMember_onto]
  cases parameters.memberOf encoders source with
  | ok member =>
      rfl
  | error failure =>
      rfl

/-- Encoding appends the member of the source, or it fails and leaves the output as it is. -/
theorem encodeOnto_eq
    (parameters : ParameterSet)
    (source output : Bytes)
    (encoders : Encoders) :
    parameters.encodeOnto source output encoders =
      match parameters.encodeMember encoders source with
      | .ok member => (.ok (), output ++ member)
      | .error error => (.error error, output) := by
  rw [encodeMember_eq, encodeOnto, writeMember_onto]
  cases parameters.memberOf encoders source with
  | ok member =>
      rfl
  | error failure =>
      rfl

/-- Append the content of the member at the front of some input to some output. -/
def decodeOnto
    (parameters : ParameterSet)
    (input output : Bytes) :
    Except CodecError (Nat × Bytes) :=
  match parameters.decodeMember input with
  | .ok (length, content) =>
      .ok (length, output ++ content)
  | .error error =>
      .error error

end ParameterSet

end MemberStream
