import MemberStream.Checksum.XxHash
import MemberStream.Lz.History
import MemberStream.Zstd.Header
import MemberStream.Zstd.Literals
import MemberStream.Zstd.Sequence

namespace MemberStream

/-!
# Reading Zstandard frames

A frame is a header, blocks up to the one that is marked as the last, and an
optional checksum of the content.  Frames with a short content of known size are
decoded at once: only the size limits their blocks.  All others are decoded
piece by piece, and no block of theirs may be longer than the window or 128 KiB.
-/

namespace Zstd

open Decoder

/-- The longest block of any frame. -/
def longestBlock : Nat :=
  128 * 1024

/-- The largest window of a frame that is decoded piece by piece. -/
def largestWindow : Nat :=
  2 ^ (27 : Nat) + 1

/-- The longest content that is decoded at once. -/
def longestAtOnce : Nat :=
  8 * 1024

/-- The part of a frame header that decoding needs. -/
structure FrameHeader where
  window : Nat
  contentSize : Option Nat
  checksum : Bool
  deriving Repr, DecidableEq

namespace FrameHeader

/-- Whether the frame is decoded at once. -/
def isShort
    (header : FrameHeader) :
    Bool :=
  match header.contentSize with
  | some size =>
      decide (size ≤ longestAtOnce)
  | none =>
      false

/-- The longest stored block of a frame. -/
def blockLimit
    (header : FrameHeader) :
    Nat :=
  min header.window longestBlock

/-- The most content there may be after a block behind content of the given size. -/
def ceiling
    (header : FrameHeader)
    (size : Nat) :
    Nat :=
  match header.contentSize with
  | some total =>
      if header.isShort then
        total
      else
        min total (size + header.blockLimit)
  | none =>
      size + header.blockLimit

/-- Whether a block of some length may follow content of the given size. -/
def fits
    (header : FrameHeader)
    (size length : Nat) :
    Bool :=
  size + length ≤ header.ceiling size

end FrameHeader

/-- Read the window of a frame: a power of two and some eighths of it. -/
def windowSize : Decoder Nat := do
  let eighths ← number 3
  let exponent ← number 5
  let log := exponent + 10
  require (log ≤ 31) .decodeFailed
  return 2 ^ log + 2 ^ (log - 3) * eighths

/-- Read the content size of a frame. -/
def contentSize
    (form : Nat)
    (single : Bool) :
    Decoder (Option Nat) :=
  match form with
  | 0 =>
      if single then do
        let size ← word 1
        return some size
      else
        return none
  | 1 => do
      let size ← word 2
      return some (size + 256)
  | 2 => do
      let size ← word 4
      return some size
  | _ => do
      let size ← word 8
      return some size

/-- Read a frame header; a frame that needs a dictionary is refused. -/
def frameHeader : Decoder FrameHeader := do
  let start ← octets 4
  require (start == magic) .badMagic
  let dictionaryForm ← number 2
  let checksum ← bit
  let reserved ← bit
  let _unused ← bit
  let single ← bit
  let sizeForm ← number 2
  require (!reserved) .decodeFailed
  let window ←
    if single then
      pure none
    else
      some <$> windowSize
  let dictionary ← word (2 ^ dictionaryForm / 2)
  require (dictionary == 0) .decodeFailed
  let size ← contentSize sizeForm single
  let header : FrameHeader :=
    { window := window.getD (size.getD 0), contentSize := size, checksum := checksum }
  require (header.isShort || header.window ≤ largestWindow) .decodeFailed
  return header

/-- What a block takes over from the blocks before it. -/
structure FrameState where
  history : History := #[]
  recent : RecentDistances := {}
  tree : Option HuffmanTree := none
  tables : Option (Fields FseTable) := none

/--
Carry out the sequences of a block on its literals.  Copies may reach back to
the start of the content, and literals that no sequence takes come last.
-/
def expand
    (ceiling : Nat)
    (recent : RecentDistances)
    (history : History)
    (literals : Bytes) :
    List (Fields Nat) →
    Decoder (History × RecentDistances)
  | [] => do
      require (history.size + literals.length ≤ ceiling) .decodeFailed
      return (history.append literals, recent)
  | values :: rest =>
      match splitBytes? values.literalCount literals with
      | none =>
          malformed
      | some (taken, literals) => do
          let recent := recent.update values.distance (0 < values.literalCount)
          let distance := recent.first
          let start := history.size + values.literalCount
          require (0 < distance && distance ≤ start) .decodeFailed
          require (start + values.copyCount ≤ ceiling) .decodeFailed
          let history := (history.append taken).copy distance values.copyCount
          expand ceiling recent history literals rest

/-- Read the data of a compressed block. -/
def compressedBlock
    (header : FrameHeader)
    (state : FrameState) :
    Decoder FrameState := do
  let literals ← literals header.blockLimit state.tree
  let sequences ← sequences state.tables
  let ceiling := header.ceiling state.history.size
  let (history, recent) ←
    expand ceiling state.recent state.history literals.content sequences.values
  return { history := history, recent := recent,
           tree := literals.tree, tables := sequences.tables }

/-- Read the body of a block. -/
def blockBody
    (header : FrameHeader)
    (state : FrameState)
    (kind : BlockKind)
    (length : Nat) :
    Decoder FrameState :=
  let history := state.history
  match kind with
  | .raw => do
      require (header.fits history.size length) .decodeFailed
      let content ← octets length
      return { state with history := history.append content }
  | .repeated => do
      require (header.fits history.size length) .decodeFailed
      let byte ← octet
      return { state with history := history.append (List.replicate length byte) }
  | .compressed => do
      require (length ≤ header.blockLimit) .decodeFailed
      let data ← octets length
      within (.ofBytes data) (compressedBlock header state)

/-- Compare the content of a frame with the size in its header. -/
def checkSize
    (header : FrameHeader)
    (content : History) :
    Decoder Unit :=
  match header.contentSize with
  | some size =>
      require (size == content.size) .decodeFailed
  | none =>
      return ()

/-- What stands in front of the body of a block. -/
structure BlockStart where
  last : Bool
  kind : BlockKind
  length : Nat
  deriving Repr, DecidableEq

/-- The kind of block that two bits tell; one of their values tells none. -/
def blockKind : Nat → Decoder BlockKind
  | 0 =>
      return .raw
  | 1 =>
      return .repeated
  | 2 =>
      return .compressed
  | _ =>
      malformed

/-- Read the header of a block. -/
def blockStart : Decoder BlockStart := do
  let last ← bit
  let code ← number 2
  let length ← number 21
  let kind ← blockKind code
  return { last, kind, length }

/--
Read one block.  In a frame that is decoded piece by piece a block without a body
does nothing, and as the last one it ends the frame before its size is checked.
-/
def block
    (header : FrameHeader)
    (state : FrameState) :
    Decoder (Round FrameState History) := do
  let start ← blockStart
  if !header.isShort && start.length == 0 && start.kind != .repeated then
    if start.last then
      return .stop state.history
    else
      return .again state
  else do
    let state ← blockBody header state start.kind start.length
    if start.last then do
      checkSize header state.history
      return .stop state.history
    else
      return .again state

/-- Read a frame. -/
def frame : Decoder Bytes := do
  let header ← frameHeader
  let history ← iterate (block header) {}
  let content := history.toList
  if header.checksum then do
    let checksum ← word 4
    require (checksum == (xxHash64 content).toNat % 2 ^ (32 : Nat)) .decodeFailed
  return content

/-- Read the frame at the front of some input: its length and its content. -/
def decodeMember
    (input : Bytes) :
    Except CodecFailure (Nat × Bytes) :=
  let length := input.length
  if length < magic.length then
    .error (.truncated length)
  else
    match frame.run (.ofBytes input) with
    | .done content rest =>
        .ok (length - rest.octetsLeft, content)
    | .refused failure =>
        .error failure
    | .unfinished =>
        .error .decodeFailed

end Zstd

end MemberStream
