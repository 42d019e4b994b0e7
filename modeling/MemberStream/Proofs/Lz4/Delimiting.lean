import MemberStream.Lz4.Frame
import MemberStream.Proofs.Bits.SelfDelimiting

namespace MemberStream

/-!
# LZ4 frames delimit themselves

The walk over a frame does not look ahead.  A frame that is found takes up an
octet at least, and no more than there are.
-/

open BitStream

namespace Lz4

theorem selfDelimiting_skipBlocks
    (checksumLength : Nat) :
    SelfDelimiting (skipBlocks checksumLength) :=
  .iterate (fun _ => .bind (.word 4) fun _ =>
    .ite (.pure _) (.bind (.octets _) (fun _ => .pure _))) ()

/-- The walk over a frame does not look ahead. -/
theorem selfDelimiting_skipFrame :
    SelfDelimiting skipFrame :=
  .bind (.octets 4) fun _ =>
    .bind (.require _ _) fun _ =>
      .bind .octet fun _ =>
        .bind (.octets _) fun _ =>
          .bind (selfDelimiting_skipBlocks _) fun _ =>
            .bind (.octets _) fun _ =>
              .pure ()

/-- Reading a frame header does not look ahead. -/
theorem selfDelimiting_frameHeader :
    SelfDelimiting frameHeader :=
  .bind (.octets 4) fun _ =>
    .bind .octet fun _ =>
      .bind .octet fun _ =>
        .bind (.require _ _) fun _ =>
          .bind (.require _ _) fun _ =>
            .bind (.octets _) fun _ =>
              .bind (.octets _) fun _ =>
                .bind .octet fun _ =>
                  .bind (.require _ _) fun _ =>
                    .bind (.require _ _) fun _ =>
                      .pure _

/-- Reading a block does not look ahead. -/
theorem selfDelimiting_block
    (header : FrameHeader)
    (history : History)
    (length : Nat)
    (stored : Bool) :
    SelfDelimiting (block header history length stored) :=
  .bind (.require _ _) fun _ =>
    .bind (.octets _) fun _ =>
      .bind (.octets _) fun _ =>
        .bind (.require _ _) fun _ =>
          .ite (.pure _) (.within _ _)

theorem skipFrame_nothing
    (value : Unit)
    (rest : BitStream) :
    skipFrame (behind [] []) ≠ .done value rest :=
  nofun

/-- A frame takes up an octet at least, and no more than there are. -/
theorem frameLength_bounds
    {input : Bytes}
    {length : Nat}
    (found : frameLength input = .ok length) :
    1 ≤ length ∧ length ≤ input.length := by
  unfold frameLength at found
  dsimp only at found
  split at found
  · rename_i rest accepted
    cases found
    have shorter := selfDelimiting_skipFrame.length_lt_of_accepts skipFrame_nothing accepted
    rw [rest.octetsLeft_eq]
    omega
  · cases found
  · cases found

/-- A member takes up an octet at least, and no more than there are. -/
theorem decodeMember_bounds
    {input content : Bytes}
    {length : Nat}
    (decoded : decodeMember input = .ok (length, content)) :
    1 ≤ length ∧ length ≤ input.length := by
  unfold decodeMember at decoded
  split at decoded
  · cases decoded
  · rename_i found
    split at decoded
    · cases decoded
      exact frameLength_bounds found
    · cases decoded
    · cases decoded

end Lz4

end MemberStream
