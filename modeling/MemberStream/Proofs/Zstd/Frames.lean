import MemberStream.Proofs.Lz.Replay
import MemberStream.Proofs.Zstd.Copies
import MemberStream.Proofs.Zstd.Headers

namespace MemberStream

/-!
# Reading written Zstandard frames

Every block that is written for a source goes on where the one before it ended.
So the blocks are read as longer and longer fronts of the source, and the frame
is read as the source, whatever is behind it.
-/

namespace Zstd

/-- A block without the rest of its frame is read as a part of the source. -/
structure WrittenBlock.Extends
    (source : Bytes)
    (before after : Nat)
    (block : WrittenBlock) :
    Prop where
  some : block.data ≠ []
  small : block.data.length < 2 ^ (21 : Nat)
  reads :
    ∀ state : FrameState,
      state.history.toList = source.take before →
        ∃ next : FrameState,
          next.history.toList = source.take after ∧
            Reads .boundary .boundary
              (blockBody (writtenHeader source.length) state block.kind block.data.length) next
              block.data

/-- Blocks that are given last first hold the front of a source. -/
inductive Holds
    (source : Bytes) :
    List WrittenBlock →
    Nat →
    Prop where
  | none :
      Holds source [] 0
  | block
      {before after : Nat}
      {block : WrittenBlock}
      {blocks : List WrittenBlock} :
      Holds source blocks before →
      block.Extends source before after →
      Holds source (block :: blocks) after

/-- A block of a written frame may be as long as any and go on to the end of the source. -/
theorem le_ceiling
    {sourceLength size length : Nat}
    (within : size + length ≤ sourceLength)
    (short : length ≤ longestBlock) :
    size + length ≤ (writtenHeader sourceLength).ceiling size := by
  have limit : length ≤ (writtenHeader sourceLength).blockLimit := by
    refine Nat.le_min.mpr ⟨Nat.le_min.mpr ⟨by omega, ?_⟩, short⟩
    exact Nat.le_trans short (by decide)
  change size + length ≤
    if (writtenHeader sourceLength).isShort then
      sourceLength
    else
      min sourceLength (size + (writtenHeader sourceLength).blockLimit)
  split
  · exact within
  · exact Nat.le_min.mpr ⟨within, Nat.add_le_add_left limit size⟩

theorem size_of_front
    {source : Bytes}
    {position : Nat}
    {history : History}
    (same : history.toList = source.take position)
    (within : position ≤ source.length) :
    history.size = position := by
  rw [← Array.length_toList, same, List.length_take, Nat.min_eq_left within]

/-- A raw block goes on with its content. -/
theorem extends_raw
    {source piece : Bytes}
    {position : Nat}
    (some : piece ≠ [])
    (short : piece.length ≤ longestBlock)
    (next : piece <+: source.drop position) :
    WrittenBlock.Extends source position (position + piece.length) ⟨.raw, piece⟩ := by
  have same := List.prefix_iff_eq_take.mp next
  have within : position + piece.length ≤ source.length := by
    have length := congrArg List.length same
    have positive := List.length_pos_iff.mpr some
    rw [List.length_take, List.length_drop] at length
    omega
  refine ⟨some, Nat.lt_of_le_of_lt short (by decide), ?_⟩
  intro state front
  have size := size_of_front front (by omega)
  refine ⟨{ state with history := state.history.append piece }, ?_, ?_⟩
  · rw [History.toList_append, front, List.take_add, ← same]
  · have fits : (writtenHeader source.length).fits state.history.size piece.length = true := by
      rw [size]
      exact decide_eq_true (le_ceiling within short)
    exact .silent (.require _ fits) (.last (.octets piece) (.pure _))

/-- Raw blocks go on with the literals that they are written for. -/
theorem holds_rawBlocksOnto
    {source : Bytes}
    {position : Nat}
    {blocks : List WrittenBlock}
    {literals : Bytes}
    (holds : Holds source blocks position)
    (next : literals <+: source.drop position) :
    Holds source (rawBlocksOnto blocks literals) (position + literals.length) := by
  fun_induction rawBlocksOnto blocks literals generalizing position with
  | case1 blocks literals none =>
      obtain rfl : literals = [] := by
        rcases List.take_eq_nil_iff.mp none with zero | empty
        · cases zero
        · exact empty
      exact holds
  | case2 blocks literals byte piece whole ih =>
      rw [← whole] at ih
      have some : literals.take longestBlock ≠ [] := by
        rw [whole]
        exact List.cons_ne_nil _ _
      have first := extends_raw some (List.length_take_le _ _)
        ((List.take_prefix longestBlock literals).trans next)
      have length : (literals.take longestBlock).length + (literals.drop longestBlock).length =
          literals.length := by
        rw [← List.length_append, List.take_append_drop]
      have others : literals.drop longestBlock <+:
          source.drop (position + (literals.take longestBlock).length) := by
        obtain ⟨rest, same⟩ := next
        have split : literals ++ rest =
            literals.take longestBlock ++ (literals.drop longestBlock ++ rest) := by
          rw [← List.append_assoc, List.take_append_drop]
        refine ⟨rest, ?_⟩
        rw [← List.drop_drop, ← same, split, List.drop_left]
      have all := ih (.block holds first) others
      rw [Nat.add_assoc, length, whole] at all
      exact all

/-- The block of a copy goes on with what is copied. -/
theorem extends_copy
    {source : Bytes}
    {position : Nat}
    {sequence : LzSequence}
    (fits : sequence.Fits (limits source.length) source position) :
    WrittenBlock.Extends source (position + sequence.literals.length) (sequence.stop position)
      ⟨.compressed, copyData sequence.distance sequence.length⟩ := by
  have within : position + sequence.literals.length + sequence.length ≤ source.length :=
    fits.within
  have near : sequence.distance ≤ 2 ^ 27 :=
    Nat.le_trans fits.near (Nat.min_le_right _ _)
  have least : 24 ≤ sequence.length :=
    fits.shortest
  have most : sequence.length ≤ longestBlock :=
    fits.longest
  have block : longestBlock = 131072 := rfl
  obtain ⟨tables, written, same, short, -⟩ :=
    reads_copySequences none (show sequence.distance + 3 < 2 ^ 32 by omega)
      (show 3 ≤ sequence.length by omega) (show sequence.length < 65539 + 2 ^ 16 by omega)
  refine ⟨?_, ?_, ?_⟩
  · dsimp only
    rw [same]
    exact List.cons_ne_nil _ _
  · dsimp only
    rw [same, List.length_cons]
    omega
  · intro state front
    have size := size_of_front front (by omega)
    have room : 12 ≤ (writtenHeader source.length).blockLimit :=
      Nat.le_min.mpr ⟨Nat.le_min.mpr ⟨by omega, by decide⟩, by decide⟩
    have inside : sequence.distance ≤ state.history.size := by
      rw [size]
      exact fits.distance_le
    have below : state.history.size + sequence.length ≤
        (writtenHeader source.length).ceiling state.history.size := by
      rw [size]
      exact le_ceiling within most
    obtain ⟨next, copied, reads⟩ :=
      reads_copyData fits.distance_pos inside (by omega) (by omega) (by omega) below room
    refine ⟨next, ?_, reads⟩
    have prior : state.history.toList =
        [] ++ source.take (position + sequence.literals.length) := front
    rw [copied]
    exact History.toList_copy sequence.length prior fits.distance_pos fits.distance_le within
      fits.repeats

/-- The blocks of sequences and a tail that cover the source hold all of it. -/
theorem holds_of_covers
    {source : Bytes}
    {position : Nat}
    {sequences : List LzSequence}
    {tail : Bytes}
    {blocks : List WrittenBlock}
    (covers : Covers (limits source.length) source position sequences tail)
    (holds : Holds source blocks position) :
    Holds source (rawBlocksOnto (sequences.foldl sequenceBlocksOnto blocks) tail)
      source.length := by
  induction covers generalizing blocks with
  | @tail position within =>
      have all := holds_rawBlocksOnto holds (List.prefix_refl (source.drop position))
      rw [List.length_drop, Nat.add_sub_cancel' within] at all
      exact all
  | @sequence position sequence rest tail fits covers ih =>
      have literals : sequence.literals <+: source.drop position :=
        List.prefix_iff_eq_take.mpr fits.literals
      exact ih (.block (holds_rawBlocksOnto holds literals) (extends_copy fits))

/-- The octets of a block are read as the block, and as the end of the frame if it is the last. -/
theorem reads_octets
    {source : Bytes}
    {before after : Nat}
    {written : WrittenBlock}
    {state : FrameState}
    (goesOn : written.Extends source before after)
    (front : state.history.toList = source.take before) :
    ∃ next : FrameState,
      next.history.toList = source.take after ∧
        Reads .boundary .boundary (block (writtenHeader source.length) state) (.again next)
          (written.octets false) ∧
        (after = source.length →
          Reads .boundary .boundary (block (writtenHeader source.length) state)
            (.stop next.history) (written.octets true)) := by
  obtain ⟨next, content, body⟩ := goesOn.reads state front
  have start (last : Bool) := reads_blockHeader last written.kind goesOn.small
  have positive : ¬ (!(writtenHeader source.length).isShort && written.data.length == 0 &&
      written.kind != .repeated) = true := by
    have length := List.length_pos_iff.mpr goesOn.some
    have nonzero : (written.data.length == 0) = false :=
      beq_false_of_ne (Nat.ne_of_gt length)
    rw [nonzero, Bool.and_false, Bool.false_and]
    exact Bool.false_ne_true
  refine ⟨next, content, ?_, ?_⟩
  · refine .bind (start false) (.second positive (.last body ?_))
    exact .second Bool.false_ne_true (.pure _)
  · intro whole
    have size : next.history.size = source.length := by
      rw [← Array.length_toList, content, whole, List.take_length]
    have checked : Reads .boundary .boundary
        (checkSize (writtenHeader source.length) next.history) () [] := by
      refine .require _ ?_
      rw [size]
      exact beq_self_eq_true _
    refine .bind (start true) (.second positive (.last body ?_))
    exact .first rfl (.silent checked (.pure _))

/-- What follows some blocks is read behind the front of the source that they hold. -/
theorem reads_of_holds
    {source back : Bytes}
    {position : Nat}
    {blocks : List WrittenBlock}
    {result : History}
    (holds : Holds source blocks position)
    (rest :
      ∀ state : FrameState,
        state.history.toList = source.take position →
          Reads .boundary .boundary
            (Decoder.iterate (block (writtenHeader source.length)) state) result back) :
    Reads .boundary .boundary
      (Decoder.iterate (block (writtenHeader source.length)) {}) result
      (blocks.reverse.flatMap (WrittenBlock.octets false) ++ back) := by
  induction holds generalizing back with
  | none =>
      exact rest {} rfl
  | @block before after written blocks holds goesOn ih =>
      rw [List.reverse_cons, List.flatMap_append, List.append_assoc]
      refine ih fun state front => ?_
      obtain ⟨next, content, reads, -⟩ := reads_octets goesOn front
      rw [List.flatMap_singleton]
      exact .again reads (List.cons_ne_nil _ _) (rest next content)

/-- The last block of nothing is read as nothing. -/
theorem reads_emptyBlock :
    Reads .boundary .boundary (Decoder.iterate (block (writtenHeader 0)) {}) #[]
      (blockHeader true .raw 0) := by
  have start := reads_blockHeader true .raw (show 0 < 2 ^ 21 by decide)
  have body : Reads .boundary .boundary (blockBody (writtenHeader 0) {} .raw 0) {}
      ([] ++ ([] ++ [])) :=
    .bind (.require _ (by decide)) (.bind (.octets []) (.pure _))
  have checked : Reads .boundary .boundary (checkSize (writtenHeader 0) #[]) () [] :=
    .require _ rfl
  have all : Reads .boundary .boundary (Decoder.iterate (block (writtenHeader 0)) {}) #[]
      (blockHeader true .raw 0 ++ (([] ++ ([] ++ [])) ++ ([] ++ []))) :=
    .stop (.bind start (.second (by decide) (.bind body (.first rfl (.bind checked (.pure _))))))
  exact all

/-- Blocks that hold a source are read as the source. -/
theorem reads_writeBlocks
    {source : Bytes}
    {blocks : List WrittenBlock}
    (holds : Holds source blocks source.length) :
    Reads .boundary .boundary
      (Decoder.iterate (block (writtenHeader source.length)) {}) source.toArray
      (writeBlocks blocks) := by
  generalize whole : source.length = position at holds
  cases holds with
  | none =>
      rw [List.length_eq_zero_iff.mp whole]
      exact reads_emptyBlock
  | @block before after last others holds goesOn =>
      rw [← whole] at goesOn ⊢
      refine reads_of_holds holds fun state front => ?_
      obtain ⟨next, content, -, stops⟩ := reads_octets goesOn front
      rw [List.take_length] at content
      have same : next.history = source.toArray :=
        Array.toList_inj.mp content
      rw [← same]
      exact .stop (stops rfl)

/-- The frame of a source is read as the source. -/
theorem reads_frame
    {source written : Bytes}
    (fits : source.length < 2 ^ (64 : Nat))
    (blocks :
      Reads .boundary .boundary
        (Decoder.iterate (block (writtenHeader source.length)) {}) source.toArray written) :
    Reads .boundary .boundary frame source (header source.length ++ written) :=
  .bind (reads_frameHeader fits) (.last blocks (.second Bool.false_ne_true (.pure _)))

/-- A frame that is read gives its source, whatever is behind it. -/
theorem decodeMember_append
    {source written : Bytes}
    (reads : Reads .boundary .boundary frame source written)
    (enough : magic.length ≤ written.length)
    (more : Bytes) :
    decodeMember (written ++ more) = .ok (written.length, source) := by
  obtain ⟨rest, done, left⟩ := reads.run more
  have long : ¬ (written ++ more).length < magic.length := by
    rw [List.length_append]
    omega
  unfold decodeMember
  dsimp only
  rw [if_neg long, done]
  dsimp only
  rw [left, List.length_append, Nat.add_sub_cancel]

/-- A written frame is read as its source. -/
theorem reads_encodeMember
    {source : Bytes}
    (fits : source.length < 2 ^ (64 : Nat)) :
    Reads .boundary .boundary frame source (encodeMember source) :=
  reads_frame fits (reads_writeBlocks
    (holds_of_covers (LzParse.covers_ofBytes (limits source.length) source) .none))

/-- The frame of the empty string is read as nothing, whatever is behind it. -/
theorem decodeMember_emptyFrame
    (more : Bytes) :
    decodeMember (emptyFrame ++ more) = .ok (emptyFrame.length, []) := by
  have reads : Reads .boundary .boundary frame [] emptyFrame :=
    reads_frame (show 0 < 2 ^ 64 by decide) reads_emptyBlock
  exact decodeMember_append reads (by decide) more

theorem rawBlocksOnto_nil
    (blocks : List WrittenBlock) :
    rawBlocksOnto blocks [] = blocks := by
  rw [rawBlocksOnto]
  rfl

/-- The frame of a run of some byte: the byte, and a block that repeats it. -/
def runFrame
    (byte : UInt8)
    (count : Nat) :
    Bytes :=
  header (count + 1) ++ writeBlocks [⟨.compressed, copyData 1 count⟩, ⟨.raw, [byte]⟩]

/-- A run is covered by its first byte and a copy of it. -/
theorem covers_run
    {count : Nat}
    (byte : UInt8)
    (shortest : 24 ≤ count)
    (longest : count ≤ longestBlock) :
    Covers (limits (count + 1)) (List.replicate (count + 1) byte) 0 [⟨[byte], 1, count⟩] [] := by
  have length : (List.replicate (count + 1) byte).length = count + 1 := List.length_replicate
  have fits :
      LzSequence.Fits (limits (count + 1)) (List.replicate (count + 1) byte) 0
        ⟨[byte], 1, count⟩ := by
    refine ⟨rfl, Nat.one_pos, Nat.le_refl 1, ?_, shortest, longest, ?_, ?_⟩
    · exact Nat.le_min.mpr ⟨Nat.succ_le_succ (Nat.zero_le count), Nat.one_le_two_pow⟩
    · rw [length]
      change 0 + 1 + count + 0 ≤ count + 1
      omega
    · intro index below
      change (List.replicate (count + 1) byte)[0 + 1 - 1 + index]? =
        (List.replicate (count + 1) byte)[0 + 1 + index]?
      dsimp only at below
      rw [List.getElem?_replicate, List.getElem?_replicate, if_pos (by omega), if_pos (by omega)]
  have tail :
      (List.replicate (count + 1) byte).drop (LzSequence.stop 0 ⟨[byte], 1, count⟩) = [] := by
    refine List.drop_of_length_le ?_
    rw [length]
    change count + 1 ≤ 0 + 1 + count
    omega
  have covers := Covers.sequence fits (.tail (by
    rw [length]
    change 0 + 1 + count ≤ count + 1
    omega))
  rwa [tail] at covers

/-- The frame of a run is read as the run, whatever is behind it. -/
theorem decodeMember_runFrame
    {count : Nat}
    (byte : UInt8)
    (shortest : 24 ≤ count)
    (longest : count ≤ longestBlock)
    (more : Bytes) :
    decodeMember (runFrame byte count ++ more) =
      .ok ((runFrame byte count).length, List.replicate (count + 1) byte) := by
  have length : (List.replicate (count + 1) byte).length = count + 1 := List.length_replicate
  have covers := covers_run byte shortest longest
  generalize List.replicate (count + 1) byte = source at length covers ⊢
  rw [← length] at covers
  have holds := holds_of_covers covers .none
  have blocks :
      rawBlocksOnto ([⟨[byte], 1, count⟩].foldl sequenceBlocksOnto []) [] =
        [⟨.compressed, copyData 1 count⟩, ⟨.raw, [byte]⟩] := by
    have single : rawBlocksOnto [] [byte] = [⟨.raw, [byte]⟩] := by
      rw [rawBlocksOnto]
      exact rawBlocksOnto_nil _
    rw [rawBlocksOnto_nil]
    exact congrArg (List.cons _) single
  rw [blocks] at holds
  have short : source.length < 2 ^ 64 := by
    have most : longestBlock = 131072 := rfl
    omega
  have reads := reads_frame short (reads_writeBlocks holds)
  rw [length] at reads
  refine decodeMember_append reads ?_ more
  rw [header, List.length_append, List.length_append]
  omega

end Zstd

end MemberStream
