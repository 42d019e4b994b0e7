import MemberStream.Proofs.Bits.Accepted
import MemberStream.Proofs.Codec.Boundary
import MemberStream.Proofs.Lz4.Chains
import MemberStream.Proofs.Lz4.Frames

namespace MemberStream

/-!
# What is accepted as an LZ4 frame

The blocks of a frame are walked over twice, once for their lengths and once for
their content.  The two walks part at a block that holds nothing: the second
stops there, and nothing behind that block is looked at any more, not even the
checksum of the content.  In a frame without such a block both come to the end
mark, and the octets behind it are the checksum of just the content that is read.
-/

open BitStream

namespace Lz4

/-- A frame has a block that holds nothing behind blocks that all hold something. -/
inductive HoldsEmptyBlock : Bytes → Prop where
  | behindChain
      {head : FrameHead}
      {header : FrameHeader}
      {chain : List FramedBlock}
      {history extended : History}
      {empty : FramedBlock}
      (means : head.Means header)
      (before : Chain header #[] chain history)
      (extension : empty.Extends header history extended)
      (nothing : extended.size = history.size)
      (more : Bytes) :
      HoldsEmptyBlock (head.octets ++ (chainOctets chain ++ (empty.octets ++ more)))

/-! ## Going back from what has been read -/

/-- What is read as a header is one. -/
theorem done_of_frameHeader
    {bytes : Bytes}
    {header : FrameHeader}
    {rest : BitStream}
    (accepted : frameHeader (behind [] bytes) = .done header rest) :
    ∃ (head : FrameHead) (more : Bytes),
      bytes = head.octets ++ more ∧ head.Means header ∧ rest = behind [] more := by
  obtain ⟨used, split, whatever⟩ := selfDelimiting_frameHeader.accepts _ _ _ _ accepted
  obtain ⟨start, _, bytesStart, four, accepted⟩ := Decoder.done_of_octets_bind accepted
  obtain ⟨flagOctet, _, bytesFlags, accepted⟩ := Decoder.done_of_octet_bind accepted
  obtain ⟨sizeOctet, _, bytesSize, accepted⟩ := Decoder.done_of_octet_bind accepted
  obtain ⟨-, accepted⟩ := Decoder.done_of_require_bind accepted
  obtain ⟨-, accepted⟩ := Decoder.done_of_require_bind accepted
  obtain ⟨sizeField, _, bytesSizeField, sizeLength, accepted⟩ :=
    Decoder.done_of_octets_bind accepted
  obtain ⟨dictionaryField, _, bytesDictionary, dictionaryLength, accepted⟩ :=
    Decoder.done_of_octets_bind accepted
  obtain ⟨checksum, more, bytesChecksum, accepted⟩ := Decoder.done_of_octet_bind accepted
  obtain ⟨-, accepted⟩ := Decoder.done_of_require_bind accepted
  obtain ⟨-, last⟩ := Decoder.done_of_require_bind accepted
  cases last
  let head : FrameHead :=
    { start, flagOctet, others := sizeOctet :: (sizeField ++ (dictionaryField ++ [checksum])) }
  have octets : bytes = head.octets ++ more := by
    change bytes = _ at bytesStart
    change _ = flagOctet :: _ at bytesFlags
    change _ = sizeOctet :: _ at bytesSize
    change _ = sizeField ++ _ at bytesSizeField
    change _ = dictionaryField ++ _ at bytesDictionary
    change _ = checksum :: _ at bytesChecksum
    subst bytesChecksum bytesDictionary bytesSizeField bytesSize bytesFlags bytesStart
    simp only [head, FrameHead.octets, List.append_assoc, List.cons_append, List.nil_append]
  have same : used = head.octets := by
    rw [octets] at split
    exact (List.append_cancel_right split).symm
  refine ⟨head, more, octets, ⟨four, ?_, rfl, same ▸ whatever⟩, rfl⟩
  change (sizeOctet :: (sizeField ++ (dictionaryField ++ [checksum]))).length =
    1 + (Flags.ofOctet flagOctet).optionalLength + 1
  rw [List.length_cons, List.length_append, List.length_append, List.length_singleton, sizeLength,
    dictionaryLength, Flags.optionalLength]
  omega

/-- What is read as a block behind some history extends it. -/
theorem done_of_block
    {header : FrameHeader}
    {history extended : History}
    {length : Nat}
    {bytes : Bytes}
    {rest : BitStream}
    (nonzero : length ≠ 0)
    (small : length < 256 ^ (4 : Nat))
    (accepted :
      block header history (length % storedMark) (decide (storedMark ≤ length))
          (behind [] bytes) =
        .done extended rest) :
    ∃ (framed : FramedBlock) (more : Bytes),
      framed.length = length ∧ bytes = framed.behindLength ++ more ∧
        framed.Extends header history extended ∧ rest = behind [] more := by
  obtain ⟨used, split, whatever⟩ := (selfDelimiting_block _ _ _ _).accepts _ _ _ _ accepted
  obtain ⟨-, accepted⟩ := Decoder.done_of_require_bind accepted
  obtain ⟨data, _, rfl, dataLength, accepted⟩ := Decoder.done_of_octets_bind accepted
  obtain ⟨checksum, more, rfl, checksumLength, accepted⟩ := Decoder.done_of_octets_bind accepted
  obtain ⟨-, last⟩ := Decoder.done_of_require_bind accepted
  have stays : rest = behind [] more := by
    split at last
    · cases last
      rfl
    · exact (Decoder.done_of_within last).2
  subst stays
  rw [← List.append_assoc] at split
  obtain rfl : data ++ checksum = used := List.append_cancel_right split
  exact ⟨⟨length, data, checksum⟩, more, rfl, (List.append_assoc _ _ _).symm,
    ⟨⟨nonzero, small, dataLength, checksumLength⟩, whatever⟩, rfl⟩

/-- What one round of reading blocks has found. -/
inductive RoundFinds
    (header : FrameHeader)
    (history : History)
    (bytes more : Bytes) :
    Decoder.Round History (Ending × History) →
    Prop where
  | endMark
      (split : bytes = endMark ++ more) :
      RoundFinds header history bytes more (.stop (.endMark, history))
  | emptyBlock
      {empty : FramedBlock}
      {extended : History}
      (split : bytes = empty.octets ++ more)
      (extension : empty.Extends header history extended)
      (nothing : extended.size = history.size) :
      RoundFinds header history bytes more (.stop (.emptyBlock, extended))
  | block
      {framed : FramedBlock}
      {extended : History}
      (split : bytes = framed.octets ++ more)
      (extension : framed.Extends header history extended)
      (some : extended.size ≠ history.size) :
      RoundFinds header history bytes more (.again extended)

/-- A round of reading blocks finds the end mark or a block, with content or without. -/
theorem done_of_blocksRound
    {header : FrameHeader}
    {history : History}
    {stream rest : BitStream}
    {outcome : Decoder.Round History (Ending × History)}
    (accepted : blocksRound header history stream = .done outcome rest) :
    ∃ more,
      RoundFinds header history stream.bytes more outcome ∧ rest = behind [] more := by
  obtain ⟨length, behindWord, word, small, accepted⟩ := Decoder.done_of_word_bind accepted
  split at accepted
  · rename_i zero
    cases accepted
    rw [zero] at word
    exact ⟨behindWord, .endMark word, rfl⟩
  · rename_i nonzero
    obtain ⟨extended, _, reads, last⟩ := Decoder.done_of_bind accepted
    obtain ⟨framed, more, rfl, rfl, extension, rfl⟩ := done_of_block nonzero small reads
    rw [← List.append_assoc] at word
    split at last
    · rename_i nothing
      cases last
      exact ⟨more, .emptyBlock word extension nothing, rfl⟩
    · rename_i some
      cases last
      exact ⟨more, .block word extension some, rfl⟩

/-- What reading blocks behind some history has found. -/
inductive BlocksFind
    (header : FrameHeader)
    (history : History)
    (bytes more : Bytes) :
    Ending × History →
    Prop where
  | endMark
      {chain : List FramedBlock}
      {last : History}
      (before : Chain header history chain last)
      (split : bytes = chainOctets chain ++ (Lz4.endMark ++ more)) :
      BlocksFind header history bytes more (.endMark, last)
  | emptyBlock
      {chain : List FramedBlock}
      {last extended : History}
      {empty : FramedBlock}
      (before : Chain header history chain last)
      (split : bytes = chainOctets chain ++ (empty.octets ++ more))
      (extension : empty.Extends header last extended)
      (nothing : extended.size = last.size) :
      BlocksFind header history bytes more (.emptyBlock, extended)

/-- What is behind a block with content comes behind it. -/
theorem BlocksFind.behindBlock
    {header : FrameHeader}
    {history extended : History}
    {framed : FramedBlock}
    {bytes more : Bytes}
    {result : Ending × History}
    (extension : framed.Extends header history extended)
    (some : extended.size ≠ history.size)
    (finds : BlocksFind header extended bytes more result) :
    BlocksFind header history (framed.octets ++ bytes) more result := by
  cases finds with
  | endMark before split =>
      refine .endMark (.cons extension some before) ?_
      rw [split, chainOctets_cons_append]
  | emptyBlock before split extendsEmpty nothing =>
      refine .emptyBlock (.cons extension some before) ?_ extendsEmpty nothing
      rw [split, chainOctets_cons_append]

/-- Reading blocks finds the end mark or an empty block behind blocks that are not empty. -/
theorem done_of_blocks
    {header : FrameHeader}
    {history : History}
    {stream rest : BitStream}
    {result : Ending × History}
    (accepted : blocks header history stream = .done result rest) :
    ∃ more, BlocksFind header history stream.bytes more result ∧ rest = behind [] more := by
  rw [blocks_eq] at accepted
  fun_induction Decoder.iterate (blocksRound header) history stream with
  | case1 history stream next left front consumed ih =>
      obtain ⟨_, finds, rfl⟩ := done_of_blocksRound front
      obtain ⟨more, later, last⟩ := ih accepted
      cases finds with
      | block split extension some =>
          rw [split]
          exact ⟨more, later.behindBlock extension some, last⟩
  | case2 =>
      cases accepted
  | case3 history stream result left front =>
      cases accepted
      obtain ⟨more, finds, rfl⟩ := done_of_blocksRound front
      refine ⟨more, ?_, rfl⟩
      cases finds with
      | endMark split =>
          exact .endMark .nil split
      | emptyBlock split extension nothing =>
          exact .emptyBlock .nil split extension nothing
  | case4 =>
      cases accepted
  | case5 =>
      cases accepted

/-- Whatever the checksum is that a frame ends with, the walk over it comes to its end. -/
theorem sum_of_skipBehindHead
    {flags : Flags}
    {bytes : Bytes}
    (flagged : flags.contentChecksum = true)
    (walked : skipBehindHead flags (behind [] bytes) = .done () (behind [] [])) :
    ∃ front sum,
      bytes = front ++ sum ∧ sum.length = 4 ∧
        ∀ other : Bytes,
          other.length = 4 →
            skipBehindHead flags (behind [] (front ++ other)) = .done () (behind [] []) := by
  obtain ⟨_, left, blocks, walked⟩ := Decoder.done_of_bind walked
  rw [flagged, if_pos rfl] at walked
  obtain ⟨sum, more, bytesLeft, four, stops⟩ := Decoder.done_of_octets_bind walked
  obtain ⟨front, split, whatever⟩ :=
    (selfDelimiting_skipBlocks flags.blockChecksumLength).accepts _ _ _ _ blocks
  injection stops with _ ends
  have nothing : more = [] := congrArg BitStream.bytes ends
  rw [nothing, List.append_nil] at bytesLeft
  rw [bytesLeft] at split
  refine ⟨front, sum, split, four, ?_⟩
  intro other otherFour
  have taken := Decoder.octets_append left.held other []
  rw [otherFour, List.append_nil] at taken
  rw [skipBehindHead, Decoder.bind_done (whatever other), flagged, if_pos rfl,
    Decoder.bind_done taken]
  rfl

/-! ## Frames -/

/-- The walk over a frame comes to the end of a string. -/
def Walked
    (member : Bytes) :
    Prop :=
  skipFrame (behind [] member) = .done () (behind [] [])

/-- What is walked over starts with the magic number, and the walk ends behind an octet. -/
theorem done_of_skipFrame
    {bytes : Bytes}
    {rest : BitStream}
    (accepted : skipFrame (behind [] bytes) = .done () rest) :
    bytes.take 4 = magic ∧ ∃ more, rest = behind [] more := by
  obtain ⟨start, _, bytesStart, four, accepted⟩ := Decoder.done_of_octets_bind accepted
  obtain ⟨same, accepted⟩ := Decoder.done_of_require_bind accepted
  obtain ⟨_, _, -, accepted⟩ := Decoder.done_of_bind accepted
  obtain ⟨_, _, -, accepted⟩ := Decoder.done_of_bind accepted
  obtain ⟨_, _, -, accepted⟩ := Decoder.done_of_bind accepted
  obtain ⟨_, more, -, -, last⟩ := Decoder.done_of_octets_bind accepted
  cases last
  change bytes = _ at bytesStart
  refine ⟨?_, more, rfl⟩
  rw [bytesStart, ← four, List.take_left]
  exact eq_of_beq same

/-- A frame that has been found is walked over to its end. -/
theorem walked_of_frameLength
    {input : Bytes}
    {length : Nat}
    (found : frameLength input = .ok length) :
    Walked (input.take length) := by
  obtain ⟨positive, inside⟩ := frameLength_bounds found
  have alone := (frameLength_take found).1 []
  rw [List.append_nil] at alone
  unfold frameLength at alone
  dsimp only at alone
  split at alone
  · rename_i rest accepted
    obtain ⟨-, more, rfl⟩ := done_of_skipFrame accepted
    injection alone with whole
    have left : (behind [] more).octetsLeft = more.length := rfl
    rw [List.length_take_of_le inside, left] at whole
    obtain rfl : more = [] := List.length_eq_zero_iff.mp (by omega)
    exact accepted
  · cases alone
  · cases alone

/-- The length of a frame is that of what is walked over. -/
theorem frameLength_of_walked
    {member : Bytes}
    (walked : Walked member)
    (more : Bytes) :
    frameLength (member ++ more) = .ok member.length := by
  have accepted : skipFrame.run (.ofBytes (member.take member.length ++ more)) =
      .done () (behind [] more) :=
    selfDelimiting_skipFrame.run_take_append walked more
  have left : (behind [] more).octetsLeft = more.length := rfl
  rw [List.take_length] at accepted
  rw [frameLength, accepted]
  dsimp only
  rw [left, List.length_append, Nat.add_sub_cancel]

/-- What is read of a frame that is walked over to its end, whatever is behind it. -/
theorem decodeMember_of_walked
    {member : Bytes}
    (walked : Walked member)
    (more : Bytes) :
    decodeMember (member ++ more) =
      match frame (behind [] member) with
      | .done content _ => .ok (member.length, content)
      | .refused failure => .error failure
      | .unfinished => .error .decodeFailed := by
  rw [decodeMember, frameLength_of_walked walked]
  dsimp only
  rw [List.take_left]
  rfl

/-- A frame that is read has been walked over to its end. -/
theorem walked_of_decodeMember
    {input content : Bytes}
    {length : Nat}
    (decoded : decodeMember input = .ok (length, content)) :
    Walked (input.take length) ∧
      ∃ rest, frame (behind [] (input.take length)) = .done content rest := by
  unfold decodeMember at decoded
  split at decoded
  · cases decoded
  · rename_i found
    split at decoded
    · rename_i rest accepted
      cases decoded
      exact ⟨walked_of_frameLength found, rest, accepted⟩
    · cases decoded
    · cases decoded

/-- A frame is read up to a block that holds nothing, and no further. -/
theorem frame_emptyBlock
    {head : FrameHead}
    {header : FrameHeader}
    {chain : List FramedBlock}
    {history extended : History}
    {empty : FramedBlock}
    (means : head.Means header)
    (before : Chain header #[] chain history)
    (extension : empty.Extends header history extended)
    (nothing : extended.size = history.size)
    (more : Bytes) :
    frame (behind [] (head.octets ++ (chainOctets chain ++ (empty.octets ++ more)))) =
      .done extended.toList (behind [] more) := by
  have reads := blocks_chain before (empty.octets ++ more)
  rw [blocks_emptyBlock extension nothing more] at reads
  rw [frame, Decoder.bind_done (means.reads _), Decoder.bind_done reads]
  rfl

/-- A frame is read to its end mark, and what is behind that is compared with the content. -/
theorem frame_endMark
    {head : FrameHead}
    {header : FrameHeader}
    {chain : List FramedBlock}
    {history : History}
    (means : head.Means header)
    (before : Chain header #[] chain history)
    (more : Bytes) :
    frame (behind [] (head.octets ++ (chainOctets chain ++ (endMark ++ more)))) =
      (checkContent header history.toList >>= fun _ => pure history.toList) (behind [] more) := by
  have reads := blocks_chain before (endMark ++ more)
  rw [blocks_endMark header history more] at reads
  rw [frame, Decoder.bind_done (means.reads _), Decoder.bind_done reads]
  rfl

/-- What is read as a frame is one, up to its end mark or up to an empty block. -/
theorem done_of_frame
    {bytes content : Bytes}
    {rest : BitStream}
    (accepted : frame (behind [] bytes) = .done content rest) :
    HoldsEmptyBlock bytes ∨
      ∃ (head : FrameHead) (header : FrameHeader) (chain : List FramedBlock)
        (history : History) (more : Bytes),
        bytes = head.octets ++ (chainOctets chain ++ (endMark ++ more)) ∧
          head.Means header ∧ Chain header #[] chain history ∧
          (checkContent header history.toList >>= fun _ => pure history.toList)
              (behind [] more) =
            .done content rest := by
  obtain ⟨header, _, front, goesOn⟩ := Decoder.done_of_bind accepted
  obtain ⟨head, behindHead, rfl, means, rfl⟩ := done_of_frameHeader front
  obtain ⟨result, _, reads, -⟩ := Decoder.done_of_bind goesOn
  obtain ⟨more, finds, rfl⟩ := done_of_blocks reads
  change BlocksFind header #[] behindHead more result at finds
  cases finds with
  | @endMark chain history before split =>
      rw [split, frame_endMark means before] at accepted
      rw [split]
      exact .inr ⟨head, header, chain, history, more, rfl, means, before, accepted⟩
  | emptyBlock before split extension nothing =>
      rw [split]
      exact .inl (.behindChain means before extension nothing more)

theorem length_contentChecksum
    (content : Bytes) :
    (contentChecksum content).length = 4 :=
  length_littleEndian 4 _

/-- A content that passes the check has the size and the checksum that are stored. -/
theorem done_of_checkContent
    {header : FrameHeader}
    {content result : Bytes}
    {bytes : Bytes}
    {rest : BitStream}
    (flagged : header.flags.contentChecksum = true)
    (accepted :
      (checkContent header content >>= fun _ => pure content) (behind [] bytes) =
        .done result rest) :
    result = content ∧
      ∃ more,
        bytes = contentChecksum content ++ more ∧ rest = behind [] more ∧
          ∀ other behindOther : Bytes,
            other.length = 4 →
              other ≠ contentChecksum content →
                (checkContent header content >>= fun _ => pure content)
                    (behind [] (other ++ behindOther)) =
                  .refused .checksumMismatch := by
  obtain ⟨_, _, checked, last⟩ := Decoder.done_of_bind accepted
  obtain ⟨sizeAgrees, checked⟩ := Decoder.done_of_require_bind checked
  rw [flagged, if_pos rfl] at checked
  obtain ⟨sum, more, split, four, agrees⟩ := Decoder.done_of_octets_bind checked
  obtain ⟨same, rfl⟩ := Decoder.done_of_require agrees
  cases last
  refine ⟨rfl, more, ?_, rfl, ?_⟩
  · rw [← eq_of_beq same]
    exact split
  · intro other behindOther otherFour differs
    have taken := Decoder.octets_append [] other behindOther
    rw [otherFour] at taken
    have fails : (other == contentChecksum content) = false := beq_false_of_ne differs
    refine Decoder.bind_refused ?_
    rw [checkContent, Decoder.bind_done (Decoder.require_done sizeAgrees _), flagged, if_pos rfl,
      Decoder.bind_done taken]
    exact Decoder.require_refused fails _

/-- The flags of a frame are in its fifth octet. -/
theorem FrameHead.Means.getD_octets
    {head : FrameHead}
    {header : FrameHeader}
    (means : head.Means header)
    (more : Bytes) :
    Flags.ofOctet ((head.octets ++ more).getD 4 0) = header.flags := by
  have four : head.start.length = 4 := means.start
  rw [means.flags, FrameHead.octets, List.append_assoc, List.cons_append,
    List.getD_eq_getElem?_getD, List.getElem?_append_right (Nat.le_of_eq four), four, Nat.sub_self]
  rfl

/-- A frame is walked over if it starts with the magic number and the rest is walked over. -/
theorem walked_iff
    {head : FrameHead}
    {header : FrameHeader}
    {bytes : Bytes}
    (means : head.Means header) :
    Walked (head.octets ++ bytes) ↔
      head.start = magic ∧
        skipBehindHead header.flags (behind [] bytes) = .done () (behind [] []) := by
  constructor
  · intro walked
    obtain ⟨start, -⟩ := done_of_skipFrame walked
    rw [FrameHead.octets, List.append_assoc, ← means.start, List.take_left] at start
    refine ⟨start, ?_⟩
    rw [← skipFrame_head means start]
    exact walked
  · rintro ⟨start, walked⟩
    rw [Walked, skipFrame_head means start]
    exact walked

/-- Behind its header the walk goes over blocks with content and the end mark to a checksum. -/
theorem skipBehindHead_endMark
    {header : FrameHeader}
    {history last : History}
    {chain : List FramedBlock}
    {sum : Bytes}
    (before : Chain header history chain last)
    (flagged : header.flags.contentChecksum = true)
    (four : sum.length = 4)
    (more : Bytes) :
    skipBehindHead header.flags (behind [] (chainOctets chain ++ (endMark ++ (sum ++ more)))) =
      .done () (behind [] more) := by
  have mark := skipBlocks_endMark header.flags.blockChecksumLength (sum ++ more)
  have taken := Decoder.octets_append [] sum more
  rw [four] at taken
  rw [skipBehindHead_chain before, skipBehindHead, Decoder.bind_done mark, flagged, if_pos rfl,
    Decoder.bind_done taken]
  rfl

section Accepted

variable {input content : Bytes} {length : Nat}

/--
The checksum that an accepted frame without an empty block ends with is that of the
content that is read; with any other one the frame is refused for it.
-/
theorem sum_of_endMark
    (decoded : decodeMember input = .ok (length, content))
    (flagged : (Flags.ofOctet (input.getD 4 0)).contentChecksum = true)
    (none : ¬ HoldsEmptyBlock (input.take length)) :
    ∃ front,
      input.take length = front ++ contentChecksum content ∧
        ∀ other more : Bytes,
          other.length = 4 →
            other ≠ contentChecksum content →
              decodeMember (front ++ other ++ more) = .error .checksumMismatch := by
  obtain ⟨walked, rest, accepted⟩ := walked_of_decodeMember decoded
  obtain ⟨head, header, chain, history, tail, split, means, before, checked⟩ :=
    (done_of_frame accepted).resolve_left none
  rw [← List.take_append_drop length input, split, List.append_assoc, means.getD_octets]
    at flagged
  obtain ⟨rfl, left, rfl, -, refuses⟩ := done_of_checkContent flagged checked
  rw [split] at walked
  obtain ⟨start, walked⟩ := (walked_iff means).mp walked
  rw [skipBehindHead_endMark before flagged (length_contentChecksum _)] at walked
  injection walked with _ ends
  obtain rfl : left = [] := congrArg BitStream.bytes ends
  refine ⟨head.octets ++ (chainOctets chain ++ endMark), ?_, ?_⟩
  · rw [split]
    simp only [List.append_assoc, List.append_nil]
  · intro other more four differs
    have again : Walked (head.octets ++ (chainOctets chain ++ (endMark ++ (other ++ [])))) :=
      (walked_iff means).mpr ⟨start, skipBehindHead_endMark before flagged four []⟩
    have same : head.octets ++ (chainOctets chain ++ endMark) ++ other =
        head.octets ++ (chainOctets chain ++ (endMark ++ (other ++ []))) := by
      simp only [List.append_assoc, List.append_nil]
    rw [same, decodeMember_of_walked again, frame_endMark means before,
      refuses other [] four differs]

/--
An accepted frame with an empty block is accepted with the same content whatever
checksum it ends with.
-/
theorem sum_of_emptyBlock
    (decoded : decodeMember input = .ok (length, content))
    (flagged : (Flags.ofOctet (input.getD 4 0)).contentChecksum = true)
    (holds : HoldsEmptyBlock (input.take length)) :
    ∃ front sum,
      input.take length = front ++ sum ∧ sum.length = 4 ∧
        ∀ other more : Bytes,
          other.length = 4 →
            decodeMember (front ++ other ++ more) = .ok (length, content) := by
  have inside := (decodeMember_bounds decoded).2
  obtain ⟨walked, rest, accepted⟩ := walked_of_decodeMember decoded
  generalize split : input.take length = member at holds walked accepted
  cases holds with
  | @behindChain head header chain history extended empty means before extension nothing tail =>
      rw [← List.take_append_drop length input, split, List.append_assoc, means.getD_octets]
        at flagged
      rw [frame_emptyBlock means before extension nothing] at accepted
      cases accepted
      obtain ⟨start, walked⟩ := (walked_iff means).mp walked
      -- The walk goes on behind an empty block, but decoding has stopped there, so nothing looks at
      -- the last four octets.
      have skips (more : Bytes) :
          skipBehindHead header.flags (behind [] (chainOctets chain ++ (empty.octets ++ more))) =
            skipBehindHead header.flags (behind [] more) := by
        rw [skipBehindHead_chain before, skipBehindHead_block extension.sized]
      rw [skips] at walked
      obtain ⟨front, sum, rfl, four, whatever⟩ := sum_of_skipBehindHead flagged walked
      have parts (other : Bytes) :
          head.octets ++ (chainOctets chain ++ (empty.octets ++ front)) ++ other =
            head.octets ++ (chainOctets chain ++ (empty.octets ++ (front ++ other))) := by
        simp only [List.append_assoc]
      refine ⟨_, sum, (parts sum).symm, four, ?_⟩
      intro other more otherFour
      have again : Walked
          (head.octets ++ (chainOctets chain ++ (empty.octets ++ (front ++ other)))) :=
        (walked_iff means).mpr ⟨start, by rw [skips, whatever other otherFour]⟩
      have whole := congrArg List.length split
      rw [List.length_take_of_le inside, ← parts sum, List.length_append, four, ← otherFour,
        ← List.length_append, parts other] at whole
      rw [parts other, decodeMember_of_walked again,
        frame_emptyBlock means before extension nothing, whole]

end Accepted

/-- The parts of the header of a written frame. -/
def writtenHead
    (sourceLength : Nat) :
    FrameHead where
  start :=
    magic
  flagOctet :=
    writtenFlags
  others :=
    [blockSizeOctet sourceLength,
      descriptorChecksum [writtenFlags, blockSizeOctet sourceLength]]

/-- The header of a written frame says what is read from it. -/
theorem means_writtenHead
    (sourceLength : Nat) :
    (writtenHead sourceLength).Means (writtenHeader sourceLength) where
  start :=
    rfl
  others :=
    show 2 = 1 + (Flags.ofOctet writtenFlags).optionalLength + 1 by decide
  flags :=
    show (⟨true, false, false, true, false⟩ : Flags) = Flags.ofOctet writtenFlags by decide
  reads :=
    (reads_frameHeader sourceLength).done

/-- The parts of a stored block. -/
def storedBlock
    (source : Bytes) :
    FramedBlock where
  length :=
    storedMark + source.length
  data :=
    source
  checksum :=
    []

/-- A stored block extends every history with its data, if there is any or not. -/
theorem extends_storedBlock
    {sourceLength : Nat}
    {source : Bytes}
    (history : History)
    (fits : source.length ≤ writtenBlockLength sourceLength) :
    (storedBlock source).Extends (writtenHeader sourceLength) history (history.append source) := by
  have room := (writtenBlockLength_bounds sourceLength).2
  have mark : storedMark = 2147483648 := rfl
  have share : (storedMark + source.length) % storedMark = source.length := by
    rw [Nat.add_mod_left, Nat.mod_eq_of_lt (by omega)]
  have nonzero : storedMark + source.length ≠ 0 := by omega
  have small : storedMark + source.length < 256 ^ 4 := by omega
  refine ⟨⟨nonzero, small, share.symm, rfl⟩, ?_⟩
  rw [show (storedBlock source).behindLength = source from List.append_nil source,
    show (storedBlock source).length = storedMark + source.length from rfl, share]
  exact (reads_storedBlock history fits).done

end Lz4

namespace ParameterSet

/--
In an accepted LZ4 frame that announces a checksum of its content, and that has no
block without content before its end mark, the last four octets are the checksum of
just the content that is read; any others in their place are refused as a mismatch.
A block without content ends decoding, so in a frame with one nothing depends on
these octets: any others in their place are accepted with the same content.
-/
theorem contentChecksum_of_decodeMember
    {parameters : ParameterSet}
    {input content : Bytes}
    {length : Nat}
    (lz4 : parameters.algorithm = .lz4)
    (decoded : parameters.decodeMember input = .ok (length, content))
    (flagged : (Lz4.Flags.ofOctet (input.getD 4 0)).contentChecksum = true) :
    let member := input.take length
    let front := member.take (length - 4)
    let stored := member.drop (length - 4)
    stored.length = 4 ∧
      (¬ Lz4.HoldsEmptyBlock member →
        stored = littleEndian 4 (xxHash32 content).toNat ∧
          ∀ other more : Bytes,
            other.length = 4 →
              other ≠ stored →
                parameters.decodeMember (front ++ other ++ more) =
                  .error ⟨.lz4, .checksumMismatch⟩) ∧
      (Lz4.HoldsEmptyBlock member →
        ∀ other more : Bytes,
          other.length = 4 →
            parameters.decodeMember (front ++ other ++ more) = .ok (length, content)) := by
  intro member front stored
  have codec (bytes : Bytes) : parameters.decodeMember bytes =
      (Lz4.decodeMember bytes).mapError (CodecError.mk .lz4) := by
    rw [decodeMember, lz4]
  have read : Lz4.decodeMember input = .ok (length, content) :=
    ok_of_mapError (codec input ▸ decoded)
  have whole : member.length = length := List.length_take_of_le (Lz4.decodeMember_bounds read).2
  have parts {start sum : Bytes} (split : member = start ++ sum) (four : sum.length = 4) :
      front = start ∧ stored = sum := by
    have cut : length - 4 = start.length := by
      rw [← whole, split, List.length_append, four, Nat.add_sub_cancel]
    unfold front stored
    rw [cut, split]
    exact ⟨List.take_left, List.drop_left⟩
  refine ⟨?_, ?_, ?_⟩
  · by_cases holds : Lz4.HoldsEmptyBlock member
    · obtain ⟨start, sum, split, four, -⟩ := Lz4.sum_of_emptyBlock read flagged holds
      rw [(parts split four).2, four]
    · obtain ⟨start, split, -⟩ := Lz4.sum_of_endMark read flagged holds
      have four := Lz4.length_contentChecksum content
      rw [(parts split four).2, four]
  · intro none
    obtain ⟨start, split, refuses⟩ := Lz4.sum_of_endMark read flagged none
    obtain ⟨sameFront, sameStored⟩ := parts split (Lz4.length_contentChecksum content)
    refine ⟨sameStored, ?_⟩
    intro other more four differs
    rw [codec, sameFront, refuses other more four (sameStored ▸ differs)]
    rfl
  · intro holds other more four
    obtain ⟨start, sum, split, sumFour, accepts⟩ := Lz4.sum_of_emptyBlock read flagged holds
    rw [codec, (parts split sumFour).1, accepts other more four]
    rfl

/--
A frame of one byte and an empty block behind it is accepted although the checksum
that it ends with is not that of the byte, and so it is with any other in its place.
-/
theorem contentChecksum_of_decodeMember_emptied :
    let parameters : ParameterSet := { algorithm := .lz4 }
    let input : Bytes :=
      [0x04, 0x22, 0x4d, 0x18, 0x64, 0x40, 0xa7, 1, 0, 0, 0x80, 65, 0, 0, 0, 0x80,
        0, 0, 0, 0, 0, 0, 0, 0]
    parameters.decodeMember input = .ok (24, [65]) ∧
      input.drop 20 ≠ littleEndian 4 (xxHash32 [65]).toNat ∧
      ∀ other more : Bytes,
        other.length = 4 →
          parameters.decodeMember (input.take 20 ++ other ++ more) = .ok (24, [65]) := by
  intro parameters input
  have means := Lz4.means_writtenHead 1
  have some : ([65] : Bytes).length ≤ Lz4.writtenBlockLength 1 := by decide
  have before : Lz4.Chain (Lz4.writtenHeader 1) #[] [Lz4.storedBlock [65]] #[65] :=
    .cons (Lz4.extends_storedBlock #[] some) (by decide) .nil
  have empty : (Lz4.storedBlock []).Extends (Lz4.writtenHeader 1) #[65] #[65] :=
    Lz4.extends_storedBlock #[65] (Nat.zero_le _)
  have parts : input = (Lz4.writtenHead 1).octets ++ (Lz4.chainOctets [Lz4.storedBlock [65]] ++
      ((Lz4.storedBlock []).octets ++ (Lz4.endMark ++ [0, 0, 0, 0]))) := by
    decide
  have walked : Lz4.Walked input := by
    have flagged : (Lz4.writtenHeader 1).flags.contentChecksum = true := rfl
    have nothing : Lz4.Chain (Lz4.writtenHeader 1) #[] [] #[] := .nil
    have four : ([0, 0, 0, 0] : Bytes).length = 4 := rfl
    rw [parts, Lz4.walked_iff means, Lz4.skipBehindHead_chain before,
      Lz4.skipBehindHead_block empty.sized]
    exact ⟨rfl, Lz4.skipBehindHead_endMark nothing flagged four []⟩
  have decoded : parameters.decodeMember input = .ok (24, [65]) := by
    have whole := Lz4.decodeMember_of_walked walked []
    have reads := Lz4.frame_emptyBlock means before empty rfl (Lz4.endMark ++ [0, 0, 0, 0])
    rw [← parts] at reads
    rw [reads, List.append_nil] at whole
    change (Lz4.decodeMember input).mapError _ = _
    rw [whole]
    rfl
  have flagged : (Lz4.Flags.ofOctet (input.getD 4 0)).contentChecksum = true := by decide
  have holds : Lz4.HoldsEmptyBlock (input.take 24) := by
    rw [parts]
    exact .behindChain means before empty rfl (Lz4.endMark ++ [0, 0, 0, 0])
  obtain ⟨-, -, accepts⟩ := contentChecksum_of_decodeMember rfl decoded flagged
  exact ⟨decoded, by decide, accepts holds⟩

end ParameterSet

end MemberStream
