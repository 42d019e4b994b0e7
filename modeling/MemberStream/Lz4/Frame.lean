import MemberStream.Lz4.Block
import MemberStream.Lz4.Header

namespace MemberStream

/-!
# LZ4 frames

A frame is a header, blocks behind their lengths, an end mark and an optional
checksum of the content.  Its length is found first, by walking over the blocks;
then the frame is decoded.  A block without content ends decoding, whatever
follows it in the frame.
-/

namespace Lz4

open Decoder

/-- The flags of a frame descriptor. -/
structure Flags where
  independent : Bool
  blockChecksum : Bool
  contentSize : Bool
  contentChecksum : Bool
  dictionary : Bool
  deriving Repr, DecidableEq

namespace Flags

/-- The flags in a flag octet. -/
def ofOctet
    (octet : UInt8) :
    Flags where
  independent :=
    octet &&& 0x20 != 0
  blockChecksum :=
    octet &&& 0x10 != 0
  contentSize :=
    octet &&& 0x08 != 0
  contentChecksum :=
    octet &&& 0x04 != 0
  dictionary :=
    octet &&& 0x01 != 0

/-- How many octets the optional fields of the header take up. -/
def optionalLength
    (flags : Flags) :
    Nat :=
  (if flags.contentSize then 8 else 0) + (if flags.dictionary then 4 else 0)

end Flags

/-- The bit of a block length that marks a stored block. -/
def storedMark : Nat :=
  2 ^ (31 : Nat)

/-- Walk over the blocks of a frame up to the end mark. -/
def skipBlocks
    (checksumLength : Nat) :
    Decoder Unit :=
  iterate
    (fun (_ : Unit) => do
      let length ← word 4
      if length = 0 then
        return .stop ()
      else do
        let _ ← octets (length % storedMark + checksumLength)
        return .again ())
    ()

/-- Walk over a frame. -/
def skipFrame : Decoder Unit := do
  let start ← octets 4
  require (start == magic) .badMagic
  let flags := Flags.ofOctet (← octet)
  let _ ← octets (1 + flags.optionalLength + 1)
  skipBlocks (if flags.blockChecksum then 4 else 0)
  let _ ← octets (if flags.contentChecksum then 4 else 0)

/-- The length of the frame at the front of some input. -/
def frameLength
    (input : Bytes) :
    Except CodecFailure Nat :=
  let length := input.length
  match skipFrame.run (.ofBytes input) with
  | .done () rest =>
      .ok (length - rest.octetsLeft)
  | .refused failure =>
      .error failure
  | .unfinished =>
      .error (.truncated length)

/-- The part of a frame header that decoding needs. -/
structure FrameHeader where
  flags : Flags
  longestBlock : Nat
  contentSize : Option Nat
  deriving Repr, DecidableEq

/-- The longest block of a size code from 4 to 7. -/
def longestBlock
    (code : Nat) :
    Nat :=
  2 ^ (8 + 2 * code)

/-- Read a frame header. -/
def frameHeader : Decoder FrameHeader := do
  let _ ← octets 4
  let flagOctet ← octet
  let sizeOctet ← octet
  let sizeCode := (sizeOctet >>> 4).toNat
  require (flagOctet >>> 6 == 1 && flagOctet &&& 0x02 == 0) .decodeFailed
  require (sizeOctet &&& 0x8f == 0 && 4 ≤ sizeCode) .decodeFailed
  let flags := Flags.ofOctet flagOctet
  let sizeField ← octets (if flags.contentSize then 8 else 0)
  let dictionaryField ← octets (if flags.dictionary then 4 else 0)
  let checksum ← octet
  let descriptor := flagOctet :: sizeOctet :: (sizeField ++ dictionaryField)
  require (checksum == descriptorChecksum descriptor) .checksumMismatch
  require (!flags.dictionary) .decodeFailed
  return {
    flags := flags
    longestBlock := longestBlock sizeCode
    contentSize := if flags.contentSize then some (ofLittleEndian sizeField) else none }

/-- Decode the data of a compressed block behind some history. -/
def compressedContent
    (header : FrameHeader)
    (history : History)
    (data : Bytes) :
    Decoder History :=
  let bounds : BlockBounds :=
    { floor := if header.flags.independent then history.size else 0
      ceiling := history.size + header.longestBlock }
  within (.ofBytes data) (blockContent bounds history)

/-- Read a block of the given length and kind behind some history. -/
def block
    (header : FrameHeader)
    (history : History)
    (length : Nat)
    (stored : Bool) :
    Decoder History := do
  require (length ≤ header.longestBlock) .decodeFailed
  let data ← octets length
  let checksum ← octets (if header.flags.blockChecksum then 4 else 0)
  require
    (!header.flags.blockChecksum || ofLittleEndian checksum == (xxHash32 data).toNat)
    .checksumMismatch
  if stored then
    return history.append data
  else
    compressedContent header history data

/-- How the blocks of a frame end. -/
inductive Ending
  | endMark
  | emptyBlock
  deriving Repr, DecidableEq

/-- Read the blocks of a frame behind some history. -/
def blocks
    (header : FrameHeader)
    (history : History) :
    Decoder (Ending × History) :=
  iterate
    (fun history => do
      let length ← word 4
      if length = 0 then
        return .stop (.endMark, history)
      else do
        let size := history.size
        let extended ←
          block header history (length % storedMark) (decide (storedMark ≤ length))
        if extended.size = size then
          return .stop (.emptyBlock, extended)
        else
          return .again extended)
    history

/-- Compare the content of a frame with the size and the checksum it stores. -/
def checkContent
    (header : FrameHeader)
    (content : Bytes) :
    Decoder Unit := do
  require
    (match header.contentSize with
      | some size => size == content.length
      | none => true)
    .decodeFailed
  if header.flags.contentChecksum then do
    let checksum ← octets 4
    require (checksum == Lz4.contentChecksum content) .checksumMismatch

/-- Decode a frame that has been cut to its length. -/
def frame : Decoder Bytes := do
  let header ← frameHeader
  let (ending, history) ← blocks header #[]
  let content := history.toList
  if ending = .endMark then
    checkContent header content
  return content

/-- Read the frame at the front of some input: its length and its content. -/
def decodeMember
    (input : Bytes) :
    Except CodecFailure (Nat × Bytes) :=
  match frameLength input with
  | .error failure =>
      .error failure
  | .ok length =>
      match frame.run (.ofBytes (input.take length)) with
      | .done content _ =>
          .ok (length, content)
      | .refused failure =>
          .error failure
      | .unfinished =>
          .error .decodeFailed

/-- A block with given content, stored if that is no longer than compressed. -/
def blockOf
    (source : Bytes) :
    Bytes :=
  let compressed := blockOctets source
  if compressed.length < source.length then
    littleEndian 4 compressed.length ++ compressed
  else
    littleEndian 4 (storedMark + source.length) ++ source

/-- The longest block of a written frame. -/
def writtenBlockLength
    (sourceLength : Nat) :
    Nat :=
  longestBlock ((blockSizeOctet sourceLength) >>> 4).toNat

/-- The blocks of a source behind blocks that are given last first. -/
def blocksOf
    (length : Nat)
    (blocks : List Bytes)
    (source : Bytes) :
    List Bytes :=
  if source.isEmpty ∨ length = 0 then
    blocks.reverse
  else
    blocksOf length (blockOf (source.take length) :: blocks) (source.drop length)
termination_by source.length
decreasing_by
  rename_i more
  cases source with
  | nil =>
      simp at more
  | cons byte rest =>
      simp only [List.length_drop, List.length_cons]
      omega

/-- The frame of a source. -/
def encodeMember
    (source : Bytes) :
    Bytes :=
  header source.length ++
    (blocksOf (writtenBlockLength source.length) [] source).flatten ++
    endMark ++ contentChecksum source

end Lz4

end MemberStream
