import MemberStream.Zstd.Frame
import MemberStream.Proofs.Bits.SelfDelimiting

namespace MemberStream

/-!
# Zstandard frames delimit themselves

Every part of a frame outside its compressed blocks is read without looking
ahead, and a compressed block is cut to its length first.  A frame that is read
takes up an octet at least, and no more than there are.
-/

open BitStream

namespace Zstd

/-- The window of a frame does not look ahead. -/
theorem selfDelimiting_windowSize :
    SelfDelimiting windowSize :=
  .bind (.number 3) fun _ =>
    .bind (.number 5) fun _ =>
      .bind (.require _ _) fun _ =>
        .pure _

/-- The content size of a frame does not look ahead. -/
theorem selfDelimiting_contentSize
    (form : Nat)
    (single : Bool) :
    SelfDelimiting (contentSize form single) := by
  unfold contentSize
  split
  · exact .ite (.bind (.word 1) (fun _ => .pure _)) (.pure none)
  · exact .bind (.word 2) (fun _ => .pure _)
  · exact .bind (.word 4) (fun _ => .pure _)
  · exact .bind (.word 8) (fun _ => .pure _)

/-- A frame header does not look ahead. -/
theorem selfDelimiting_frameHeader :
    SelfDelimiting frameHeader := by
  refine .bind (.octets 4) fun _ => .bind (.require _ _) fun _ =>
    .bind (.number 2) fun _ => .bind .bit fun _ => .bind .bit fun _ => .bind .bit fun _ =>
      .bind .bit fun single => .bind (.number 2) fun _ => .bind (.require _ _) fun _ => ?_
  have behindWindow
      {next : Option Nat → Decoder FrameHeader}
      (delimiting : ∀ window, SelfDelimiting (next window)) :
      SelfDelimiting
        (if single then (Pure.pure none : Decoder (Option Nat)) >>= next
          else (some <$> windowSize) >>= next) :=
    .ite (.bind (.pure _) delimiting)
      (.bind (.bind selfDelimiting_windowSize fun _ => .pure _) delimiting)
  exact behindWindow fun _ =>
    .bind (.word _) fun _ =>
      .bind (.require _ _) fun _ =>
        .bind (selfDelimiting_contentSize _ _) fun _ =>
          .bind (.require _ _) fun _ =>
            .pure _

/-- The body of a block does not look ahead. -/
theorem selfDelimiting_blockBody
    (header : FrameHeader)
    (state : FrameState)
    (kind : BlockKind)
    (length : Nat) :
    SelfDelimiting (blockBody header state kind length) := by
  cases kind with
  | raw =>
      exact .bind (.require _ _) fun _ => .bind (.octets _) fun _ => .pure _
  | repeated =>
      exact .bind (.require _ _) fun _ => .bind .octet fun _ => .pure _
  | compressed =>
      exact .bind (.require _ _) fun _ => .bind (.octets _) fun _ => .within _ _

/-- The check of the content size reads nothing. -/
theorem selfDelimiting_checkSize
    (header : FrameHeader)
    (content : History) :
    SelfDelimiting (checkSize header content) := by
  unfold checkSize
  split
  · exact .require _ _
  · exact .pure ()

/-- The kind of a block reads nothing. -/
theorem selfDelimiting_blockKind
    (code : Nat) :
    SelfDelimiting (blockKind code) := by
  unfold blockKind
  split
  · exact .pure _
  · exact .pure _
  · exact .pure _
  · exact .malformed

/-- A block does not look ahead. -/
theorem selfDelimiting_block
    (header : FrameHeader)
    (state : FrameState) :
    SelfDelimiting (block header state) := by
  have start : SelfDelimiting blockStart :=
    .bind .bit fun _ => .bind (.number 2) fun code => .bind (.number 21) fun _ =>
      .bind (selfDelimiting_blockKind code) fun _ => .pure _
  exact .bind start fun start =>
    .ite (.ite (.pure _) (.pure _))
      (.bind (selfDelimiting_blockBody header state start.kind start.length) fun _ =>
        .ite (.bind (selfDelimiting_checkSize _ _) (fun _ => .pure _)) (.pure _))

/-- A frame does not look ahead. -/
theorem selfDelimiting_frame :
    SelfDelimiting frame :=
  .bind selfDelimiting_frameHeader fun header =>
    .bind (.iterate (selfDelimiting_block header) {}) fun _ =>
      .ite (.bind (.word 4) fun _ => .bind (.require _ _) fun _ => .pure _) (.pure _)

theorem frame_nothing
    (content : Bytes)
    (rest : BitStream) :
    frame (behind [] []) ≠ .done content rest :=
  nofun

/-- A member takes up an octet at least, and no more than there are. -/
theorem decodeMember_bounds
    {input content : Bytes}
    {length : Nat}
    (decoded : decodeMember input = .ok (length, content)) :
    1 ≤ length ∧ length ≤ input.length := by
  unfold decodeMember at decoded
  dsimp only at decoded
  split at decoded
  · cases decoded
  · split at decoded
    · rename_i rest accepted
      cases decoded
      have shorter := selfDelimiting_frame.length_lt_of_accepts frame_nothing accepted
      rw [rest.octetsLeft_eq]
      omega
    · cases decoded
    · cases decoded

end Zstd

end MemberStream
