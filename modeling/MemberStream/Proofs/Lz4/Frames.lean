import MemberStream.Lz4.Frame
import MemberStream.Proofs.Lz4.Blocks

namespace MemberStream

/-!
# Reading written LZ4 frames

A frame that is written for a source is read as the source.
-/

namespace Lz4

/-- What the header of a written frame says. -/
def writtenHeader
    (sourceLength : Nat) :
    FrameHeader where
  flags :=
    { independent := true
      blockChecksum := false
      contentSize := false
      contentChecksum := true
      dictionary := false }
  longestBlock :=
    writtenBlockLength sourceLength
  contentSize :=
    none

/-- There are three classes of written blocks. -/
theorem blockSizeOctet_cases
    (sourceLength : Nat) :
    blockSizeOctet sourceLength = 0x40 ∨
      blockSizeOctet sourceLength = 0x50 ∨
        blockSizeOctet sourceLength = 0x70 := by
  unfold blockSizeOctet
  split
  · exact .inl rfl
  · split
    · exact .inr (.inl rfl)
    · exact .inr (.inr rfl)

/-- Blocks are written with content, and their lengths leave room for the mark. -/
theorem writtenBlockLength_bounds
    (sourceLength : Nat) :
    0 < writtenBlockLength sourceLength ∧ writtenBlockLength sourceLength < storedMark := by
  unfold writtenBlockLength
  rcases blockSizeOctet_cases sourceLength with class_ | class_ | class_ <;>
  · rw [class_]
    decide

/-- The header of a written frame is read as what it says. -/
theorem reads_frameHeader
    (sourceLength : Nat) :
    Reads .boundary .boundary frameHeader (writtenHeader sourceLength) (header sourceLength) := by
  have sizes : (blockSizeOctet sourceLength &&& 0x8f == 0 &&
      decide (4 ≤ (blockSizeOctet sourceLength >>> 4).toNat)) = true := by
    rcases blockSizeOctet_cases sourceLength with class_ | class_ | class_ <;>
    · rw [class_]
      decide
  have all : Reads .boundary .boundary frameHeader (writtenHeader sourceLength)
      (magic ++ ([writtenFlags] ++ ([blockSizeOctet sourceLength] ++ ([] ++ ([] ++ ([] ++ ([] ++
        ([descriptorChecksum [writtenFlags, blockSizeOctet sourceLength]] ++
          ([] ++ ([] ++ [])))))))))) := by
    refine .bind (.octets magic) (.bind (.octet _) (.bind (.octet _) ?_))
    refine .bind (.require _ (by decide)) (.bind (.require _ sizes) ?_)
    refine .bind (.octets []) (.bind (.octets []) (.bind (.octet _) ?_))
    exact .bind (.require _ (beq_self_eq_true _)) (.bind (.require _ rfl) (.pure _))
  exact all

/-- The length and the data of a written block that is read as some bytes. -/
structure BlockHolds
    (sourceLength : Nat)
    (source : Bytes)
    (length : Nat)
    (data : Bytes) :
    Prop where
  nonzero : length ≠ 0
  small : length < 256 ^ (4 : Nat)
  share : length % storedMark = data.length
  reads :
    ∀ history,
      Reads .boundary .boundary
        (block (writtenHeader sourceLength) history data.length (decide (storedMark ≤ length)))
        (history.append source) data

/-- A block that is compressed is read as its source. -/
theorem blockHolds_compressed
    {sourceLength : Nat}
    {source : Bytes}
    (shorter : (blockOctets source).length < source.length)
    (fits : source.length ≤ writtenBlockLength sourceLength) :
    BlockHolds sourceLength source (blockOctets source).length (blockOctets source) := by
  have room := (writtenBlockLength_bounds sourceLength).2
  have mark : storedMark = 2147483648 := rfl
  have positive := List.length_pos_iff.mpr (blockOctets_ne_nil source)
  refine ⟨by omega, by omega, Nat.mod_eq_of_lt (by omega), ?_⟩
  intro history
  have content : ReadsToEnd .boundary
      (blockContent { floor := history.size, ceiling := history.size + _ } history)
      (history.append source) (blockOctets source) :=
    readsToEnd_blockOctets history source (Nat.le_refl _) (Nat.add_le_add_left fits _)
  have all : Reads .boundary .boundary
      (block (writtenHeader sourceLength) history (blockOctets source).length
        (decide (storedMark ≤ (blockOctets source).length)))
      (history.append source) ([] ++ (blockOctets source ++ ([] ++ ([] ++ [])))) := by
    refine .bind (.require _ ?_) (.bind (.octets _) (.bind (.octets []) ?_))
    · exact decide_eq_true (Nat.le_trans (Nat.le_of_lt shorter) fits)
    · refine .bind (.require _ rfl) (.second ?_ content.within)
      rw [decide_eq_true_eq]
      omega
  simp only [List.nil_append, List.append_nil] at all
  exact all

/-- A stored block is read as its data, if there is any or not. -/
theorem reads_storedBlock
    {sourceLength : Nat}
    {source : Bytes}
    (history : History)
    (fits : source.length ≤ writtenBlockLength sourceLength) :
    Reads .boundary .boundary
      (block (writtenHeader sourceLength) history source.length
        (decide (storedMark ≤ storedMark + source.length)))
      (history.append source) source := by
  have all : Reads .boundary .boundary
      (block (writtenHeader sourceLength) history source.length
        (decide (storedMark ≤ storedMark + source.length)))
      (history.append source) ([] ++ (source ++ ([] ++ ([] ++ [])))) := by
    refine .bind (.require _ (decide_eq_true fits)) (.bind (.octets _) (.bind (.octets []) ?_))
    refine .bind (.require _ rfl) (.first ?_ (.pure _))
    rw [decide_eq_true_eq]
    exact Nat.le_add_right _ _
  simp only [List.nil_append, List.append_nil] at all
  exact all

/-- A block that is stored is marked as such. -/
theorem blockHolds_stored
    {sourceLength : Nat}
    {source : Bytes}
    (some : source ≠ [])
    (fits : source.length ≤ writtenBlockLength sourceLength) :
    BlockHolds sourceLength source (storedMark + source.length) source := by
  have room := (writtenBlockLength_bounds sourceLength).2
  have mark : storedMark = 2147483648 := rfl
  have positive := List.length_pos_iff.mpr some
  refine ⟨by omega, by omega, ?_, fun history => reads_storedBlock history fits⟩
  rw [Nat.add_mod_left, Nat.mod_eq_of_lt (by omega)]

/-- A written block is its length and its data, which is read as its source. -/
theorem blockHolds_blockOf
    {sourceLength : Nat}
    {source : Bytes}
    (some : source ≠ [])
    (fits : source.length ≤ writtenBlockLength sourceLength) :
    ∃ length data,
      blockOf source = littleEndian 4 length ++ data ∧
        BlockHolds sourceLength source length data := by
  unfold blockOf
  dsimp only
  split
  · rename_i shorter
    exact ⟨_, _, rfl, blockHolds_compressed shorter fits⟩
  · exact ⟨_, _, rfl, blockHolds_stored some fits⟩

/-- A block with content is read before those behind it. -/
theorem BlockHolds.extended
    {sourceLength length : Nat}
    {source data written : Bytes}
    {history : History}
    {result : Ending × History}
    (holds : BlockHolds sourceLength source length data)
    (some : source ≠ [])
    (others :
      Reads .boundary .boundary (blocks (writtenHeader sourceLength) (history.append source))
        result written) :
    Reads .boundary .boundary (blocks (writtenHeader sourceLength) history) result
      (littleEndian 4 length ++ data ++ written) := by
  have grown : (history.append source).size ≠ history.size := by
    have positive := List.length_pos_iff.mpr some
    rw [History.size_append]
    omega
  refine .again (.bind (.word holds.small) (.second holds.nonzero ?_)) ?_ others
  · have all : Reads .boundary .boundary
        (block (writtenHeader sourceLength) history data.length
            (decide (storedMark ≤ length)) >>= fun extended =>
          if extended.size = history.size then
            (pure (.stop (.emptyBlock, extended)) :
              Decoder (Decoder.Round History (Ending × History)))
          else
            pure (.again extended))
        (.again (history.append source)) (data ++ []) :=
      .bind (holds.reads history) (.second grown (.pure _))
    rw [List.append_nil] at all
    rw [holds.share]
    exact all
  · exact List.cons_ne_nil _ _

/-- The blocks of a source are read behind some content as the source. -/
theorem reads_blocksOf
    {sourceLength length : Nat}
    (chunks : List Bytes)
    (source : Bytes)
    (history : History)
    (positive : 0 < length)
    (fits : length ≤ writtenBlockLength sourceLength) :
    ∃ written,
      (blocksOf length chunks source).flatten = chunks.reverse.flatten ++ written ∧
        Reads .boundary .boundary (blocks (writtenHeader sourceLength) history)
          (.endMark, history.append source) (written ++ endMark) := by
  fun_induction blocksOf length chunks source generalizing history with
  | case1 chunks source ends =>
      obtain rfl : source = [] := by
        rcases ends with empty | none
        · exact List.isEmpty_iff.mp empty
        · omega
      have zero : Reads .boundary .boundary (Decoder.word 4) 0 endMark :=
        .word (show 0 < 256 ^ 4 by decide)
      have reads : Reads .boundary .boundary (blocks (writtenHeader sourceLength) history)
          (.endMark, history) (endMark ++ []) :=
        .stop (.bind zero (.first rfl (.pure _)))
      exact ⟨[], (List.append_nil _).symm, reads⟩
  | case2 chunks source goes ih =>
      have front : source.take length ≠ [] := by
        intro empty
        rcases List.take_eq_nil_iff.mp empty with none | none
        · omega
        · exact goes (.inl (List.isEmpty_iff.mpr none))
      obtain ⟨word, data, same, holds⟩ :=
        blockHolds_blockOf front (Nat.le_trans (List.length_take_le _ _) fits)
      obtain ⟨written, sameRest, reads⟩ := ih (history.append (source.take length))
      rw [History.append_append, List.take_append_drop] at reads
      refine ⟨blockOf (source.take length) ++ written, ?_, ?_⟩
      · rw [sameRest, List.reverse_cons, List.flatten_append, List.flatten_singleton,
          List.append_assoc]
      · rw [same, List.append_assoc]
        exact holds.extended front reads

/-- A written frame is its header, blocks that are read up to the end mark, and the checksum. -/
theorem parts_encodeMember
    (source : Bytes) :
    ∃ written,
      encodeMember source =
          header source.length ++ (written ++ endMark ++ contentChecksum source) ∧
        Reads .boundary .boundary (blocks (writtenHeader source.length) #[])
          (.endMark, source.toArray) (written ++ endMark) := by
  obtain ⟨written, same, reads⟩ :=
    reads_blocksOf [] source #[] (writtenBlockLength_bounds source.length).1 (Nat.le_refl _)
  rw [History.append_nothing] at reads
  refine ⟨written, ?_, reads⟩
  rw [encodeMember, same]
  simp only [List.reverse_nil, List.flatten_nil, List.nil_append, List.append_assoc]

/-- The whole frame of a source is read. -/
theorem reads_encodeMember
    (source : Bytes) :
    Reads .boundary .boundary frame source (encodeMember source) := by
  obtain ⟨written, member, reads⟩ := parts_encodeMember source
  have checked : Reads .boundary .boundary (checkContent (writtenHeader source.length) source) ()
      ([] ++ (contentChecksum source ++ [])) := by
    refine .bind (.require _ rfl) ?_
    exact .bind (.octets (contentChecksum source)) (.require _ (beq_self_eq_true _))
  have all : Reads .boundary .boundary frame source
      (header source.length ++
        ((written ++ endMark) ++ (([] ++ (contentChecksum source ++ [])) ++ []))) := by
    refine .bind (reads_frameHeader source.length) (.bind reads ?_)
    exact .first rfl (.bind checked (.pure _))
  simp only [List.nil_append, List.append_nil] at all
  rw [member]
  exact all

/-- The frame of the empty string is what is written for it. -/
theorem encodeMember_nil :
    encodeMember [] = emptyFrame := by
  have none : blocksOf (writtenBlockLength 0) [] [] = [] := by
    rw [blocksOf, if_pos (.inl rfl)]
    rfl
  rw [encodeMember, List.length_nil, none]
  exact congrArg (· ++ endMark ++ contentChecksum []) (List.append_nil _)

end Lz4

end MemberStream
