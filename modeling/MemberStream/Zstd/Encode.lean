import MemberStream.Bits.Packing
import MemberStream.Lz.Parse
import MemberStream.Zstd.Frame

namespace MemberStream

/-!
# Writing Zstandard frames

A source is parsed into runs of literals and copies.  Literals go into raw
blocks, and each copy is a compressed block of its own, without literals and
with one sequence whose three symbols are told directly.
-/

namespace Zstd

/-- The copies of a frame; a shorter copy than this would not be worth its block. -/
def limits
    (sourceLength : Nat) :
    LzLimits where
  shortest :=
    24
  longest :=
    longestBlock
  farthest :=
    min sourceLength (2 ^ writtenWindowLog)
  margin :=
    0

/-- A block before it is known whether it is the last. -/
structure WrittenBlock where
  kind : BlockKind
  data : Bytes
  deriving Repr, DecidableEq

/-- The octets of a block, its header in front. -/
def WrittenBlock.octets
    (last : Bool)
    (block : WrittenBlock) :
    Bytes :=
  blockHeader last block.kind block.data.length ++ block.data

/-- Raw blocks behind blocks that are given last first. -/
def rawBlocksOnto
    (blocks : List WrittenBlock)
    (source : Bytes) :
    List WrittenBlock :=
  match _piece : source.take longestBlock with
  | [] =>
      blocks
  | byte :: piece =>
      rawBlocksOnto (⟨.raw, byte :: piece⟩ :: blocks) (source.drop longestBlock)
termination_by source.length
decreasing_by
  have := congrArg List.length _piece
  simp only [List.length_take, List.length_cons, List.length_drop, longestBlock] at *
  omega

/-- The data of a block that only copies. -/
def copyData
    (distance count : Nat) :
    Bytes :=
  let (distanceSymbol, distanceBase, distanceWidth) := rangeOf distanceCode.ranges (distance + 3)
  let (countSymbol, countBase, countWidth) := rangeOf copyCountCode.ranges count
  let bits :=
    numberBits countWidth (count - countBase) ++
      numberBits distanceWidth (distance + 3 - distanceBase) ++ [true]
  [0x00, 0x01, 0x54, 0x00, UInt8.ofNat distanceSymbol, UInt8.ofNat countSymbol] ++
    packBits bits

/-- The blocks of one sequence behind blocks that are given last first. -/
def sequenceBlocksOnto
    (blocks : List WrittenBlock)
    (sequence : LzSequence) :
    List WrittenBlock :=
  ⟨.compressed, copyData sequence.distance sequence.length⟩ ::
    rawBlocksOnto blocks sequence.literals

/-- Write blocks that are given last first; the first of them ends the frame. -/
def writeBlocks : List WrittenBlock → Bytes
  | [] =>
      blockHeader true .raw 0
  | last :: others =>
      others.reverse.flatMap (WrittenBlock.octets false) ++ last.octets true

/-- The frame of a source. -/
def encodeMember
    (source : Bytes) :
    Bytes :=
  let parse := LzParse.ofBytes (limits source.length) source
  let blocks := rawBlocksOnto (parse.sequences.foldl sequenceBlocksOnto []) parse.tail
  header source.length ++ writeBlocks blocks

end Zstd

end MemberStream
