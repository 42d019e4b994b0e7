import MemberStream.Codec.Encoders
import MemberStream.Proofs.Lz4.Acceptance
import MemberStream.Proofs.Zstd.Frames

namespace MemberStream

/-!
# Encoders that are inverted

Encoders are inverted if the decoder of each algorithm reads what is written for
a source as the source, from the first octet to the last.  This says nothing of
what a stream holds behind it, of containers, or of the walk that finds the end
of an LZ4 frame.  It is all that is asked of encoders: how well they compress,
and what a level means to them, is left to them.
-/

open BitStream

namespace Lz4

/-- A frame with a checksum and with content in each of its blocks, which is read as a source. -/
structure FrameOf
    (source member : Bytes) :
    Prop where
  start :
    member.take magic.length = magic
  checksummed :
    (Flags.ofOctet (member.getD 4 0)).contentChecksum = true
  filled :
    ¬ HoldsEmptyBlock member
  reads :
    ReadsAll .boundary frame source member

namespace FrameOf

variable {source member : Bytes}

/-- The walk over a frame ends where decoding does. -/
theorem walked
    (frameOf : FrameOf source member) :
    Walked member := by
  obtain ⟨_, rfl, accepted⟩ := frameOf.reads
  obtain ⟨head, header, chain, history, tail, split, means, before, checked⟩ :=
    (done_of_frame accepted).resolve_left frameOf.filled
  have flagged := frameOf.checksummed
  have start := frameOf.start
  rw [split, means.getD_octets] at flagged
  obtain ⟨rfl, left, rfl, ends, -⟩ := done_of_checkContent flagged checked
  obtain rfl : [] = left := congrArg BitStream.bytes ends
  have front : head.start.length = magic.length := means.start
  rw [split, FrameHead.octets, List.append_assoc, List.take_left' front] at start
  rw [split]
  exact (walked_iff means).mpr
    ⟨start, skipBehindHead_endMark before flagged (length_contentChecksum _) []⟩

/-- A frame is read as its source, whatever is behind it. -/
theorem decodeMember_append
    (frameOf : FrameOf source member)
    (more : Bytes) :
    decodeMember (member ++ more) = .ok (member.length, source) := by
  obtain ⟨_, -, accepted⟩ := frameOf.reads
  rw [decodeMember_of_walked frameOf.walked, accepted]

/-- A frame ends with the checksum of its source, and with any other one it is refused for it. -/
theorem checksum
    (frameOf : FrameOf source member) :
    ∃ front,
      member = front ++ contentChecksum source ∧
        ∀ other more : Bytes,
          other.length = 4 →
            other ≠ contentChecksum source →
              decodeMember (front ++ other ++ more) = .error .checksumMismatch := by
  have decoded := frameOf.decodeMember_append []
  have filled : ¬ HoldsEmptyBlock (member.take member.length) := by
    rw [List.take_length]
    exact frameOf.filled
  rw [List.append_nil] at decoded
  have ends := sum_of_endMark decoded frameOf.checksummed filled
  rwa [List.take_length] at ends

end FrameOf

/-- No block of a written frame is empty. -/
theorem not_holdsEmptyBlock_encodeMember
    (source : Bytes) :
    ¬ HoldsEmptyBlock (encodeMember source) := by
  obtain ⟨written, member, reads⟩ := parts_encodeMember source
  have front := (reads_frameHeader source.length).done
    (written ++ endMark ++ contentChecksum source)
  intro holds
  rw [member] at holds
  generalize split : header source.length ++ (written ++ endMark ++ contentChecksum source) = bytes
    at holds
  cases holds with
  | @behindChain head said chain history extended empty means before extension nothing more =>
      rw [split, means.reads] at front
      injection front with same ends
      have stops := blocks_emptyBlock extension nothing more
      have goesOn := reads.done (contentChecksum source)
      rw [← blocks_chain before, ends, same, goesOn] at stops
      cases stops

/-- What is written for a source is a frame of it. -/
theorem frameOf_encodeMember
    (source : Bytes) :
    FrameOf source (encodeMember source) where
  start :=
    rfl
  checksummed :=
    show (Flags.ofOctet writtenFlags).contentChecksum = true by decide
  filled :=
    not_holdsEmptyBlock_encodeMember source
  reads :=
    (reads_encodeMember source).all

/-- The placeholder is a frame of nothing. -/
theorem frameOf_emptyFrame :
    FrameOf [] emptyFrame :=
  encodeMember_nil ▸ frameOf_encodeMember []

end Lz4

/-- Encoders whose output the decoders read as the source that it is written for. -/
structure Encoders.Inverted
    (encoders : Encoders) :
    Prop where
  deflateBody :
    ∀ {level source body},
      encoders.deflateBody level source = .ok body →
        ReadsAll .anywhere Deflate.body source.toArray body
  lz4Frame :
    ∀ {source frame},
      encoders.lz4Frame source = .ok frame →
        Lz4.FrameOf source frame
  /-- The length of a source is stored in the frame in 64 bits at most. -/
  zstdFrame :
    ∀ {level source frame},
      source.length < 2 ^ (64 : Nat) →
        encoders.zstdFrame level source = .ok frame →
          ReadsAll .boundary Zstd.frame source frame

/-- The encoders of this library are inverted. -/
theorem Encoders.Inverted.own :
    Encoders.own.Inverted where
  deflateBody := by
    rintro level source _ ⟨⟩
    exact (Deflate.reads_encodeBody level source).all
  lz4Frame := by
    rintro source _ ⟨⟩
    exact Lz4.frameOf_encodeMember source
  zstdFrame := by
    rintro _ source _ short ⟨⟩
    exact (Zstd.reads_encodeMember short).all

end MemberStream
