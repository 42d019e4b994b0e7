import MemberStream.Proofs.Bits.Packed
import MemberStream.Zstd.Frame

namespace MemberStream

/-!
# Reading written Zstandard headers

The header that is written for a frame is read as the length of its source and
its window, and the header of a block as what it was written for.
-/

open BitStream

namespace Zstd

/-- What the header of a written frame says. -/
def writtenHeader
    (sourceLength : Nat) :
    FrameHeader where
  window :=
    min sourceLength (2 ^ writtenWindowLog)
  contentSize :=
    some sourceLength
  checksum :=
    false

/-- The window of a frame that is not a single segment is read from its octet. -/
theorem reads_windowSize :
    Reads .boundary .boundary windowSize (2 ^ writtenWindowLog) [windowOctet] := by
  have bits : ReadsBits windowSize (2 ^ (17 + 10) + 2 ^ (17 + 10 - 3) * 0)
      (numberBits 3 0 ++ numberBits 5 17) :=
    .bind (.number (show 0 < 2 ^ 3 by decide)) (.last (.number (show 17 < 2 ^ 5 by decide))
      (.silent (.require _ (by decide)) (.pure _)))
  have same : 2 ^ (17 + 10) + 2 ^ (17 + 10 - 3) * 0 = 2 ^ writtenWindowLog := by
    decide
  rw [same] at bits
  exact bits.readsWhole (by decide)

/-- Read a frame header behind a descriptor octet without a dictionary or a checksum. -/
def headerBehindDescriptor
    (sizeForm : Nat)
    (single : Bool) :
    Decoder FrameHeader := do
  let window ←
    if single then
      pure none
    else
      some <$> windowSize
  let dictionary ← Decoder.word (2 ^ (0 : Nat) / 2)
  Decoder.require (dictionary == 0) .decodeFailed
  let size ← contentSize sizeForm single
  let header : FrameHeader :=
    { window := window.getD (size.getD 0), contentSize := size, checksum := false }
  Decoder.require (header.isShort || header.window ≤ largestWindow) .decodeFailed
  return header

/-- A window and a content size complete the header of a frame. -/
theorem reads_headerBehindDescriptor
    {sizeForm sourceLength : Nat}
    {single : Bool}
    {field : Bytes}
    (size : Reads .boundary .boundary (contentSize sizeForm single) (some sourceLength) field)
    (fits : single = true ↔ sourceLength ≤ 2 ^ writtenWindowLog) :
    Reads .boundary .boundary (headerBehindDescriptor sizeForm single)
      (writtenHeader sourceLength)
      ((if single then [] else [windowOctet]) ++ field) := by
  have inside : min sourceLength (2 ^ writtenWindowLog) ≤ largestWindow :=
    Nat.le_trans (Nat.min_le_right _ _) (by decide)
  have none : Reads .boundary .boundary (Decoder.word (2 ^ 0 / 2)) 0 [] :=
    .word (show 0 < 256 ^ 0 by decide)
  have behindWindow
      (window : Option Nat)
      (narrow : window.getD sourceLength = min sourceLength (2 ^ writtenWindowLog)) :
      Reads .boundary .boundary
        (do
          let dictionary ← Decoder.word (2 ^ 0 / 2)
          Decoder.require (dictionary == 0) .decodeFailed
          let size ← contentSize sizeForm single
          let header : FrameHeader :=
            { window := window.getD (size.getD 0), contentSize := size, checksum := false }
          Decoder.require (header.isShort || header.window ≤ largestWindow) .decodeFailed
          return header)
        (writtenHeader sourceLength) field := by
    refine .silent none (.silent (.require _ rfl) (.last size ?_))
    simp only [Option.getD_some, narrow]
    refine .silent (.require _ ?_) (.pure _)
    rw [decide_eq_true inside, Bool.or_true]
  unfold headerBehindDescriptor
  cases single with
  | true =>
      exact .bind (.pure _) (behindWindow _ (Nat.min_eq_left (fits.mp rfl)).symm)
  | false =>
      have large : 2 ^ writtenWindowLog ≤ sourceLength := by
        rcases Nat.le_total sourceLength (2 ^ writtenWindowLog) with small | large
        · cases fits.mpr small
        · exact large
      have window : Reads .boundary .boundary (some <$> windowSize)
          (some (2 ^ writtenWindowLog)) [windowOctet] :=
        .last reads_windowSize (.pure _)
      refine .bind window (behindWindow _ ?_)
      rw [Option.getD_some, Nat.min_eq_right large]

/-- A descriptor octet tells the form of the header behind it. -/
theorem reads_frameHeader_of_descriptor
    {sizeForm sourceLength : Nat}
    {single : Bool}
    {descriptor : UInt8}
    {field : Bytes}
    (told :
      ∀ more,
        frameHeader (behind [] (magic ++ descriptor :: more)) =
          headerBehindDescriptor sizeForm single (behind [] more))
    (size : Reads .boundary .boundary (contentSize sizeForm single) (some sourceLength) field)
    (fits : single = true ↔ sourceLength ≤ 2 ^ writtenWindowLog) :
    Reads .boundary .boundary frameHeader (writtenHeader sourceLength)
      (magic ++ descriptor :: ((if single then [] else [windowOctet]) ++ field)) := by
  have reads := reads_headerBehindDescriptor size fits
  intro held more admits
  obtain ⟨left, there, done⟩ := reads held more admits
  refine ⟨left, there, ?_⟩
  rw [show held = [] from admits] at done ⊢
  rw [← done, ← told]
  rfl

/-- The header of a written frame is read as what it says. -/
theorem reads_frameHeader
    {sourceLength : Nat}
    (fits : sourceLength < 2 ^ (64 : Nat)) :
    Reads .boundary .boundary frameHeader (writtenHeader sourceLength) (header sourceLength) := by
  have largest : 2 ^ writtenWindowLog = 134217728 := rfl
  unfold header contentSizeField
  split
  · rename_i octet
    have told : ∀ more, frameHeader (behind [] (magic ++ 0x20 :: more)) =
        headerBehindDescriptor 0 true (behind [] more) :=
      fun more => rfl
    have size : Reads .boundary .boundary (contentSize 0 true) (some sourceLength)
        (littleEndian 1 sourceLength) :=
      .last (.word (show sourceLength < 256 ^ 1 by omega)) (.pure _)
    have reads := reads_frameHeader_of_descriptor told size (iff_of_true rfl (by omega))
    exact reads
  · split
    · rename_i word
      have told : ∀ more, frameHeader (behind [] (magic ++ 0x60 :: more)) =
          headerBehindDescriptor 1 true (behind [] more) :=
        fun more => rfl
      have size : Reads .boundary .boundary (contentSize 1 true)
          (some (sourceLength - 256 + 256)) (littleEndian 2 (sourceLength - 256)) :=
        .last (.word (show sourceLength - 256 < 256 ^ 2 by omega)) (.pure _)
      rw [Nat.sub_add_cancel (by omega)] at size
      have reads := reads_frameHeader_of_descriptor told size (iff_of_true rfl (by omega))
      exact reads
    · split
      · rename_i single
        have told : ∀ more, frameHeader (behind [] (magic ++ 0xa0 :: more)) =
            headerBehindDescriptor 2 true (behind [] more) :=
          fun more => rfl
        have size : Reads .boundary .boundary (contentSize 2 true) (some sourceLength)
            (littleEndian 4 sourceLength) :=
          .last (.word (show sourceLength < 256 ^ 4 by omega)) (.pure _)
        have reads := reads_frameHeader_of_descriptor told size (iff_of_true rfl single)
        exact reads
      · rename_i large
        split
        · rename_i long
          have told : ∀ more, frameHeader (behind [] (magic ++ 0x80 :: more)) =
              headerBehindDescriptor 2 false (behind [] more) :=
            fun more => rfl
          have size : Reads .boundary .boundary (contentSize 2 false) (some sourceLength)
              (littleEndian 4 sourceLength) :=
            .last (.word (show sourceLength < 256 ^ 4 by omega)) (.pure _)
          have reads :=
            reads_frameHeader_of_descriptor told size (iff_of_false Bool.false_ne_true large)
          exact reads
        · have told : ∀ more, frameHeader (behind [] (magic ++ 0xc0 :: more)) =
              headerBehindDescriptor 3 false (behind [] more) :=
            fun more => rfl
          have size : Reads .boundary .boundary (contentSize 3 false) (some sourceLength)
              (littleEndian 8 sourceLength) :=
            .last (.word (show sourceLength < 256 ^ 8 by omega)) (.pure _)
          have reads :=
            reads_frameHeader_of_descriptor told size (iff_of_false Bool.false_ne_true large)
          exact reads

/-- The two bits of a kind tell it. -/
theorem readsBits_blockKind
    (kind : BlockKind) :
    ReadsBits (blockKind kind.code) kind [] := by
  cases kind with
  | raw =>
      exact .pure _
  | repeated =>
      exact .pure _
  | compressed =>
      exact .pure _

/-- The header of a block is read as what it is written for. -/
theorem reads_blockHeader
    (last : Bool)
    (kind : BlockKind)
    {length : Nat}
    (small : length < 2 ^ (21 : Nat)) :
    Reads .boundary .boundary blockStart { last, kind, length } (blockHeader last kind length) := by
  have code : kind.code < 2 ^ 2 := by
    cases kind <;> decide
  have flag : last.toNat < 2 := by
    cases last <;> decide
  have bits : ReadsBits blockStart { last, kind, length }
      ([last] ++ (numberBits 2 kind.code ++ numberBits 21 length)) :=
    .bind (.bit last) (.bind (.number code) (.last (.number small)
      (.silent (readsBits_blockKind kind) (.pure _))))
  refine bits.readsWhole ?_
  have value : ∀ rest, (last.toNat + 2 * rest) % 2 = last.toNat ∧
      (last.toNat + 2 * rest) / 2 = rest := by
    intro rest
    omega
  have first : numberBits 1 (last.toNat + 2 * kind.code + 8 * length) = [last] := by
    rw [show last.toNat + 2 * kind.code + 8 * length =
        last.toNat + 2 * (kind.code + 4 * length) by omega, numberBits, (value _).1]
    cases last <;> rfl
  have second : numberBits 2 ((last.toNat + 2 * kind.code + 8 * length) / 2 ^ 1) =
      numberBits 2 kind.code := by
    rw [← numberBits_mod]
    congr 1
    omega
  have third : (last.toNat + 2 * kind.code + 8 * length) / 2 ^ 3 = length := by
    omega
  rw [blockHeader, bitsOf_littleEndian, show 8 * 3 = 1 + 2 + 21 from rfl, numberBits_add,
    numberBits_add, first, second, third, List.append_assoc]

end Zstd

end MemberStream
