import MemberStream.Checksum.Crc32
import MemberStream.Codec.Appending

namespace MemberStream

/-!
# Containers of deflate bodies

A deflate member is a deflate body in one of four containers: bare, behind its
length, as a gzip member, or as a gzip member whose extra field holds the
length of the source and of the body.  The stored lengths are 32-bit words; a
length that does not fit is refused before any part of the member is written.
-/

namespace Deflate

/-- The two octets that every gzip member starts with. -/
def gzipMagic : Bytes :=
  [0x1f, 0x8b]

/-- The length of a gzip header without optional fields. -/
def gzipHeaderLength : Nat :=
  10

/-- The length of a gzip trailer. -/
def gzipTrailerLength : Nat :=
  8

/-- The flag of a gzip header that announces an extra field. -/
def extraFieldFlag : UInt8 :=
  0x04

/-- The identifier of the extra subfield that holds the two lengths. -/
def lengthsFieldIdentifier : Bytes :=
  [0x51, 0x5a]

/-- A final stored block without content, the shortest deflate body of nothing. -/
def emptyStoredBlock : Bytes :=
  [0x01, 0x00, 0x00, 0xff, 0xff]

/-- The fixed part of a gzip header; the level is shown in its ninth octet. -/
def gzipHeader
    (flags : UInt8)
    (level : UInt32) :
    Bytes :=
  gzipMagic ++ [0x08, flags, 0, 0, 0, 0, UInt8.ofNat (min level.toNat 255), 0xff]

/-- The extra field that holds the source and body lengths. -/
def lengthsField
    (sourceLength bodyLength : Nat) :
    Bytes :=
  littleEndian 2 12 ++ lengthsFieldIdentifier ++ littleEndian 2 8 ++
    littleEndian 4 sourceLength ++ littleEndian 4 bodyLength

/-- The trailer of a gzip member: the checksum of the source and its length modulo `2 ^ 32`. -/
def gzipTrailer
    (source : Bytes) :
    Bytes :=
  littleEndian 4 (crc32 source).toNat ++ littleEndian 4 source.length

/-- The first of some lengths that does not fit in a 32-bit word. -/
def oversized?
    (lengths : List Nat) :
    Option Nat :=
  lengths.find? (fun length => decide (2 ^ (32 : Nat) ≤ length))

/-- The lengths that a container stores in full, in the order they are written. -/
def storedLengths
    (format : DeflateFormat)
    (source body : Bytes) :
    List Nat :=
  match format with
  | .lengthPrefixed =>
      [body.length]
  | .gzipExtended =>
      [source.length, body.length]
  | .gzip | .raw =>
      []

/-- Put a deflate body of some source into its container. -/
def contain
    (format : DeflateFormat)
    (level : UInt32)
    (source body : Bytes) :
    Bytes :=
  match format with
  | .raw =>
      body
  | .lengthPrefixed =>
      littleEndian 4 body.length ++ body
  | .gzip =>
      gzipHeader 0 level ++ body ++ gzipTrailer source
  | .gzipExtended =>
      gzipHeader extraFieldFlag level ++ lengthsField source.length body.length ++ body ++
        gzipTrailer source

/-- The refusal of a length that does not fit in a 32-bit word. -/
def exceedsWord
    (length : Nat) :
    CodecFailure :=
  .encodeFailed ("member length " ++ toString length ++ " exceeds u32")

/-- The member of a deflate body, refused when a stored length does not fit. -/
def member
    (format : DeflateFormat)
    (level : UInt32)
    (source body : Bytes) :
    Except CodecFailure Bytes :=
  match oversized? (storedLengths format source body) with
  | some length =>
      .error (exceedsWord length)
  | none =>
      .ok (contain format level source body)

/-- Refuse a length that does not fit in a 32-bit word. -/
def checkLength
    (length : Nat) :
    Appending Unit :=
  if 2 ^ (32 : Nat) ≤ length then
    throw (exceedsWord length)
  else
    pure ()

open Appending in
/-- Append a deflate body in its container; the lengths that are stored are checked first. -/
def frame
    (format : DeflateFormat)
    (level : UInt32)
    (source body : Bytes) :
    Appending Unit :=
  match format with
  | .raw =>
      append body
  | .lengthPrefixed => do
      checkLength body.length
      append (littleEndian 4 body.length)
      append body
  | .gzip => do
      append (gzipHeader 0 level)
      append body
      append (gzipTrailer source)
  | .gzipExtended => do
      checkLength source.length
      checkLength body.length
      append (gzipHeader extraFieldFlag level)
      append (lengthsField source.length body.length)
      append body
      append (gzipTrailer source)

theorem oversized?_cons
    (length : Nat)
    (lengths : List Nat) :
    oversized? (length :: lengths) =
      if 2 ^ (32 : Nat) ≤ length then some length else oversized? lengths := by
  unfold oversized?
  split
  · rename_i beyond
    exact List.find?_cons_of_pos (decide_eq_true beyond)
  · rename_i fits
    exact List.find?_cons_of_neg (by simpa using fits)

/-- A length that does not fit is refused, and otherwise the check appends nothing. -/
theorem checkLength_bind_onto
    (length : Nat)
    (output : Bytes)
    (next : Unit → Appending Unit) :
    (checkLength length >>= next).onto output =
      if 2 ^ (32 : Nat) ≤ length then
        (.error (exceedsWord length), output)
      else
        (next ()).onto output := by
  unfold checkLength
  split
  · rfl
  · rfl

/-- Framing appends the member of a body, or it fails and leaves the output as it is. -/
theorem frame_onto
    (format : DeflateFormat)
    (level : UInt32)
    (source body output : Bytes) :
    (frame format level source body).onto output =
      match member format level source body with
      | .ok stored => (.ok (), output ++ stored)
      | .error failure => (.error failure, output) := by
  cases format with
  | raw =>
      exact Appending.append_onto body output
  | lengthPrefixed =>
      simp only [frame, member, storedLengths, contain, oversized?_cons, checkLength_bind_onto,
        Appending.append_bind_onto, Appending.append_onto, List.append_assoc]
      split
      · rfl
      · rfl
  | gzip =>
      simp only [frame, member, storedLengths, contain, Appending.append_bind_onto,
        Appending.append_onto, List.append_assoc]
      rfl
  | gzipExtended =>
      simp only [frame, member, storedLengths, contain, oversized?_cons, checkLength_bind_onto,
        Appending.append_bind_onto, Appending.append_onto, List.append_assoc]
      split
      · rfl
      · split
        · rfl
        · rfl

/-- The member that stands for a stream without content. -/
def emptyMember
    (format : DeflateFormat)
    (level : UInt32) :
    Bytes :=
  contain format level [] emptyStoredBlock

end Deflate

end MemberStream
