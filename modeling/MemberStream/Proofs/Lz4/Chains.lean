import MemberStream.Lz4.Frame
import MemberStream.Proofs.Bits.Reading

namespace MemberStream

/-!
# Frames as chains of blocks

The parts of a frame as they are written, and what the two walks over its blocks
make of them: the one for their lengths goes over every block, the one for their
content over every block that has some.
-/

open BitStream

namespace Lz4

/-- The parts of a frame header. -/
structure FrameHead where
  start : Bytes
  flagOctet : UInt8
  others : Bytes

namespace FrameHead

/-- The flags of a header. -/
def flags
    (head : FrameHead) :
    Flags :=
  .ofOctet head.flagOctet

/-- The octets of a header. -/
def octets
    (head : FrameHead) :
    Bytes :=
  head.start ++ (head.flagOctet :: head.others)

/-- The octets of a header are read as what it says, whatever is behind them. -/
structure Means
    (head : FrameHead)
    (header : FrameHeader) :
    Prop where
  start : head.start.length = 4
  others : head.others.length = 1 + head.flags.optionalLength + 1
  flags : header.flags = head.flags
  reads :
    ∀ more, frameHeader (behind [] (head.octets ++ more)) = .done header (behind [] more)

end FrameHead

/-- How many octets of checksum a block has behind its data. -/
def Flags.blockChecksumLength
    (flags : Flags) :
    Nat :=
  if flags.blockChecksum then 4 else 0

/-- The parts of a block. -/
structure FramedBlock where
  length : Nat
  data : Bytes
  checksum : Bytes

namespace FramedBlock

/-- What is behind the length of a block. -/
def behindLength
    (framed : FramedBlock) :
    Bytes :=
  framed.data ++ framed.checksum

/-- The octets of a block. -/
def octets
    (framed : FramedBlock) :
    Bytes :=
  littleEndian 4 framed.length ++ framed.behindLength

/-- A block is not an end mark, and it is as long as its length says. -/
structure Sized
    (flags : Flags)
    (framed : FramedBlock) :
    Prop where
  nonzero : framed.length ≠ 0
  small : framed.length < 256 ^ (4 : Nat)
  data : framed.data.length = framed.length % storedMark
  checksum : framed.checksum.length = flags.blockChecksumLength

/-- A block extends some history, whatever is behind it. -/
structure Extends
    (header : FrameHeader)
    (history : History)
    (framed : FramedBlock)
    (extended : History) :
    Prop where
  sized : framed.Sized header.flags
  reads :
    ∀ more,
      block header history (framed.length % storedMark) (decide (storedMark ≤ framed.length))
          (behind [] (framed.behindLength ++ more)) =
        .done extended (behind [] more)

end FramedBlock

/-- Blocks with content, one behind the other, extend some history. -/
inductive Chain
    (header : FrameHeader) :
    History →
    List FramedBlock →
    History →
    Prop where
  | nil
      {history : History} :
      Chain header history [] history
  | cons
      {history extended last : History}
      {framed : FramedBlock}
      {others : List FramedBlock}
      (extension : framed.Extends header history extended)
      (more : extended.size ≠ history.size)
      (chain : Chain header extended others last) :
      Chain header history (framed :: others) last

/-- The octets of some blocks. -/
def chainOctets
    (chain : List FramedBlock) :
    Bytes :=
  chain.flatMap FramedBlock.octets

theorem chainOctets_cons_append
    (framed : FramedBlock)
    (others : List FramedBlock)
    (more : Bytes) :
    chainOctets (framed :: others) ++ more = framed.octets ++ (chainOctets others ++ more) :=
  List.append_assoc _ _ _

theorem FramedBlock.Sized.length_behindLength
    {flags : Flags}
    {framed : FramedBlock}
    (sized : framed.Sized flags) :
    framed.behindLength.length = framed.length % storedMark + flags.blockChecksumLength := by
  rw [FramedBlock.behindLength, List.length_append, sized.data, sized.checksum]

theorem FramedBlock.size_lt
    (framed : FramedBlock)
    (more : Bytes) :
    (behind [] more).size < (behind [] (framed.octets ++ more)).size := by
  simp only [size_behind, FramedBlock.octets, List.length_append, length_littleEndian]
  omega

theorem word_endMark
    (more : Bytes) :
    Decoder.word 4 (behind [] (endMark ++ more)) = .done 0 (behind [] more) :=
  Decoder.word_append (show 0 < 256 ^ 4 by decide)

/-! ## Walking over blocks -/

/-- One round of walking over blocks. -/
def skipRound
    (checksumLength : Nat)
    (_ : Unit) :
    Decoder (Decoder.Round Unit Unit) := do
  let length ← Decoder.word 4
  if length = 0 then
    return .stop ()
  else do
    let _ ← Decoder.octets (length % storedMark + checksumLength)
    return .again ()

theorem skipBlocks_eq
    (checksumLength : Nat) :
    skipBlocks checksumLength = Decoder.iterate (skipRound checksumLength) () :=
  rfl

/-- The walk over a frame goes over a block by its length. -/
theorem skipBlocks_block
    {flags : Flags}
    {framed : FramedBlock}
    (sized : framed.Sized flags)
    (more : Bytes) :
    skipBlocks flags.blockChecksumLength (behind [] (framed.octets ++ more)) =
      skipBlocks flags.blockChecksumLength (behind [] more) := by
  have data := Decoder.octets_append [] framed.behindLength more
  rw [sized.length_behindLength] at data
  have round : skipRound flags.blockChecksumLength () (behind [] (framed.octets ++ more)) =
      .done (.again ()) (behind [] more) := by
    rw [FramedBlock.octets, List.append_assoc, skipRound,
      Decoder.bind_done (Decoder.word_append sized.small), if_neg sized.nonzero,
      Decoder.bind_done data]
    rfl
  rw [skipBlocks_eq, Decoder.iterate_again round (framed.size_lt more)]

/-- The walk over the blocks of a frame stops at the end mark. -/
theorem skipBlocks_endMark
    (checksumLength : Nat)
    (more : Bytes) :
    skipBlocks checksumLength (behind [] (endMark ++ more)) = .done () (behind [] more) := by
  have round : skipRound checksumLength () (behind [] (endMark ++ more)) =
      .done (.stop ()) (behind [] more) := by
    rw [skipRound, Decoder.bind_done (word_endMark more), if_pos rfl]
    rfl
  rw [skipBlocks_eq]
  exact Decoder.iterate_stop round

/-- The walk over a frame goes over blocks with content. -/
theorem skipBlocks_chain
    {header : FrameHeader}
    {history last : History}
    {chain : List FramedBlock}
    (before : Chain header history chain last)
    (more : Bytes) :
    skipBlocks header.flags.blockChecksumLength (behind [] (chainOctets chain ++ more)) =
      skipBlocks header.flags.blockChecksumLength (behind [] more) := by
  induction before with
  | nil =>
      rfl
  | @cons _ _ _ framed others extension _ _ ih =>
      rw [chainOctets_cons_append, skipBlocks_block extension.sized]
      exact ih

/-! ## Reading blocks -/

/-- One round of reading blocks. -/
def blocksRound
    (header : FrameHeader)
    (history : History) :
    Decoder (Decoder.Round History (Ending × History)) := do
  let length ← Decoder.word 4
  if length = 0 then
    return .stop (.endMark, history)
  else do
    let extended ← block header history (length % storedMark) (decide (storedMark ≤ length))
    if extended.size = history.size then
      return .stop (.emptyBlock, extended)
    else
      return .again extended

theorem blocks_eq
    (header : FrameHeader)
    (history : History) :
    blocks header history = Decoder.iterate (blocksRound header) history :=
  rfl

/-- What a round of reading blocks comes to on a block. -/
theorem blocksRound_block
    {header : FrameHeader}
    {history extended : History}
    {framed : FramedBlock}
    (extension : framed.Extends header history extended)
    (more : Bytes) :
    blocksRound header history (behind [] (framed.octets ++ more)) =
      .done
        (if extended.size = history.size then
          .stop (.emptyBlock, extended)
        else
          .again extended)
        (behind [] more) := by
  rw [FramedBlock.octets, List.append_assoc, blocksRound,
    Decoder.bind_done (Decoder.word_append extension.sized.small), if_neg extension.sized.nonzero,
    Decoder.bind_done (extension.reads more)]
  split
  · rfl
  · rfl

/-- Blocks with content are read before what is behind them. -/
theorem blocks_chain
    {header : FrameHeader}
    {history last : History}
    {chain : List FramedBlock}
    (before : Chain header history chain last)
    (more : Bytes) :
    blocks header history (behind [] (chainOctets chain ++ more)) =
      blocks header last (behind [] more) := by
  induction before with
  | nil =>
      rfl
  | @cons history _ _ framed others extension some _ ih =>
      have round := blocksRound_block extension (chainOctets others ++ more)
      rw [if_neg some] at round
      rw [chainOctets_cons_append, blocks_eq, Decoder.iterate_again round (framed.size_lt _)]
      exact ih

/-- Reading blocks stops at the end mark. -/
theorem blocks_endMark
    (header : FrameHeader)
    (history : History)
    (more : Bytes) :
    blocks header history (behind [] (endMark ++ more)) =
      .done (.endMark, history) (behind [] more) := by
  have round : blocksRound header history (behind [] (endMark ++ more)) =
      .done (.stop (.endMark, history)) (behind [] more) := by
    rw [blocksRound, Decoder.bind_done (word_endMark more), if_pos rfl]
    rfl
  rw [blocks_eq]
  exact Decoder.iterate_stop round

/-- Reading blocks stops at a block that holds nothing, too. -/
theorem blocks_emptyBlock
    {header : FrameHeader}
    {history extended : History}
    {empty : FramedBlock}
    (extension : empty.Extends header history extended)
    (nothing : extended.size = history.size)
    (more : Bytes) :
    blocks header history (behind [] (empty.octets ++ more)) =
      .done (.emptyBlock, extended) (behind [] more) := by
  have round := blocksRound_block extension more
  rw [if_pos nothing] at round
  rw [blocks_eq]
  exact Decoder.iterate_stop round

/-! ## Walking over frames -/

/-- The walk over a frame behind its header. -/
def skipBehindHead
    (flags : Flags) :
    Decoder Unit := do
  skipBlocks flags.blockChecksumLength
  let _ ← Decoder.octets (if flags.contentChecksum then 4 else 0)

/-- The walk over a frame goes over its header. -/
theorem skipFrame_head
    {head : FrameHead}
    {header : FrameHeader}
    (means : head.Means header)
    (start : head.start = magic)
    (more : Bytes) :
    skipFrame (behind [] (head.octets ++ more)) = skipBehindHead header.flags (behind [] more) := by
  have first := Decoder.octets_append [] head.start (head.flagOctet :: (head.others ++ more))
  have second : Decoder.octet (behind [] (head.flagOctet :: (head.others ++ more))) =
      .done head.flagOctet (behind [] (head.others ++ more)) :=
    Decoder.bind_done (Decoder.octets_append [] [head.flagOctet] (head.others ++ more))
  have third := Decoder.octets_append [] head.others more
  rw [means.start] at first
  rw [means.others] at third
  rw [FrameHead.octets, List.append_assoc, List.cons_append, skipFrame, Decoder.bind_done first,
    start, Decoder.bind_done (Decoder.require_done (beq_self_eq_true magic) _),
    Decoder.bind_done second]
  rw [show Flags.ofOctet head.flagOctet = head.flags from rfl, Decoder.bind_done third, means.flags]
  rfl

/-- Behind the header the walk goes over blocks with content, too. -/
theorem skipBehindHead_chain
    {header : FrameHeader}
    {history last : History}
    {chain : List FramedBlock}
    (before : Chain header history chain last)
    (more : Bytes) :
    skipBehindHead header.flags (behind [] (chainOctets chain ++ more)) =
      skipBehindHead header.flags (behind [] more) :=
  Decoder.bind_congr (skipBlocks_chain before more) _

/-- Behind the header the walk goes over a block by its length, too. -/
theorem skipBehindHead_block
    {flags : Flags}
    {framed : FramedBlock}
    (sized : framed.Sized flags)
    (more : Bytes) :
    skipBehindHead flags (behind [] (framed.octets ++ more)) =
      skipBehindHead flags (behind [] more) :=
  Decoder.bind_congr (skipBlocks_block sized more) _

end Lz4

end MemberStream
