import MemberStream.Proofs.Codec.Joined
import MemberStream.Proofs.Deflate.Acceptance
import MemberStream.Proofs.Lz4.Acceptance

namespace MemberStream

/-!
# Streams with a damaged member

Members of gzip, LZ4 and Zstandard start with a magic number, and those of gzip
and LZ4 end with a checksum of their content.  A member with anything else in
the place of either is refused for just that, whatever is behind it, and the
members before it are unpacked as if nothing had happened.
-/

open BitStream

/-- Octets that do not pass a check are refused before anything behind them is looked at. -/
theorem Decoder.checked_refused
    {α : Type}
    {count : Nat}
    {failure : CodecFailure}
    {next : Bytes → Decoder α}
    {taken : Bytes}
    (passes : Bytes → Bool)
    (sized : taken.length = count)
    (fails : passes taken = false)
    (more : Bytes) :
    (Decoder.octets count >>= fun start =>
        Decoder.require (passes start) failure >>= fun _ => next start)
        (behind [] (taken ++ more)) =
      .refused failure := by
  have front := Decoder.octets_append [] taken more
  rw [sized] at front
  rw [Decoder.bind_done front]
  exact Decoder.bind_refused (Decoder.require_refused fails _)

namespace Deflate

/-- A gzip member that is refused is reported so, however short it is. -/
theorem decodeGzip_of_refused
    {bytes : Bytes}
    {failure : CodecFailure}
    (refused : gzipMember (behind [] bytes) = .refused failure) :
    decodeGzip bytes = .error failure := by
  have run : gzipMember.run (.ofBytes bytes) = .refused failure := refused
  have enough : ¬ bytes.length < gzipHeaderLength := by
    intro few
    rw [gzipMember_unfinished few] at run
    cases run
  rw [decodeGzip, if_neg enough, run]

/-- A gzip member has the fixed part of a header and starts with the magic number. -/
theorem magic_of_decodeGzip
    {stored content : Bytes}
    (decoded : decodeGzip stored = .ok (stored.length, content)) :
    gzipHeaderLength ≤ stored.length ∧ stored.take gzipMagic.length = gzipMagic := by
  obtain ⟨-, layout, -, same⟩ := decodeGzip_eq_ok_iff.mp decoded
  rw [List.take_length] at same
  refine ⟨?_, ?_⟩
  · unfold decodeGzip at decoded
    dsimp only at decoded
    split at decoded
    · cases decoded
    · rename_i enough
      exact Nat.le_of_not_lt enough
  · rw [same]
    rfl

/-- What is long enough for a gzip member and has another magic number is refused for it. -/
theorem decodeGzip_of_magic
    {other more : Bytes}
    (sized : other.length = gzipMagic.length)
    (differs : other ≠ gzipMagic)
    (enough : gzipHeaderLength ≤ (other ++ more).length) :
    decodeGzip (other ++ more) = .error .badMagic := by
  have fixed : ((other ++ more).take gzipHeaderLength).length = gzipHeaderLength :=
    List.length_take_of_le enough
  have front : ((other ++ more).take gzipHeaderLength).take 2 = other := by
    rw [List.take_take]
    exact List.take_left' sized
  have fails : (((other ++ more).take gzipHeaderLength).take 2 == gzipMagic) = false := by
    rw [front]
    exact beq_false_of_ne differs
  have head : gzipHead (behind [] (other ++ more)) = .refused .badMagic := by
    rw [← List.take_append_drop gzipHeaderLength (other ++ more)]
    exact Decoder.checked_refused (fun head => head.take 2 == gzipMagic) fixed fails _
  exact decodeGzip_of_refused (Decoder.bind_refused head)

/-- A trailer that is not that of a content does not pass for it. -/
theorem checkTrailer_of_ne
    {content : Bytes}
    {checksum length : Nat}
    (differs :
      littleEndian 4 checksum ++ littleEndian 4 length ≠
        littleEndian 4 (crc32 content).toNat ++ littleEndian 4 (content.length % 2 ^ (32 : Nat)))
    (stream : BitStream) :
    checkTrailer content checksum length stream = .refused .checksumMismatch := by
  unfold checkTrailer
  cases sum : checksum == (crc32 content).toNat with
  | false =>
      exact Decoder.bind_refused (Decoder.require_refused rfl stream)
  | true =>
      rw [Decoder.bind_done (Decoder.require_done rfl stream)]
      refine Decoder.bind_refused (Decoder.require_refused (beq_false_of_ne ?_) stream)
      rintro rfl
      exact differs (by rw [eq_of_beq sum])

/-- Any eight octets are two words. -/
theorem exists_words
    {octets : Bytes}
    (sized : octets.length = gzipTrailerLength) :
    ∃ first second,
      octets = littleEndian 4 first ++ littleEndian 4 second ∧
        first < 256 ^ (4 : Nat) ∧ second < 256 ^ (4 : Nat) := by
  have four : (octets.take 4).length = 4 := by
    rw [List.length_take, sized]
    rfl
  have fourBehind : (octets.drop 4).length = 4 := by
    rw [List.length_drop, sized]
    rfl
  have first := littleEndian_ofLittleEndian (octets.take 4)
  have second := littleEndian_ofLittleEndian (octets.drop 4)
  have firstFits := ofLittleEndian_lt (octets.take 4)
  have secondFits := ofLittleEndian_lt (octets.drop 4)
  rw [four] at first firstFits
  rw [fourBehind] at second secondFits
  refine ⟨_, _, ?_, firstFits, secondFits⟩
  rw [first, second, List.take_append_drop]

/-- A gzip member ends with its trailer, and with any other one it is refused as disagreeing. -/
theorem trailer_of_decodeGzip
    {stored content : Bytes}
    (decoded : decodeGzip stored = .ok (stored.length, content)) :
    ∃ front trailer,
      stored = front ++ trailer ∧ trailer.length = gzipTrailerLength ∧
        ∀ other more : Bytes,
          other.length = gzipTrailerLength →
            other ≠ trailer →
              decodeGzip (front ++ other ++ more) = .error .checksumMismatch := by
  obtain ⟨-, layout, holds, same⟩ := decodeGzip_eq_ok_iff.mp decoded
  have split : stored = (layout.header.octets ++ layout.body) ++
      (littleEndian 4 (crc32 content).toNat ++ littleEndian 4 (content.length % 2 ^ 32)) := by
    rw [List.take_length, GzipLayout.octets, List.append_assoc (_ ++ _)] at same
    exact same
  refine ⟨_, _, split, rfl, ?_⟩
  intro other more sized differs
  obtain ⟨first, second, rfl, firstFits, secondFits⟩ := exists_words sized
  have behindBody := gzipMember_trailer holds firstFits secondFits more
  rw [checkTrailer_of_ne differs] at behindBody
  exact decodeGzip_of_refused behindBody

end Deflate

namespace Lz4

/-- A frame starts with the magic number. -/
theorem magic_of_decodeMember
    {stored content : Bytes}
    (decoded : decodeMember stored = .ok (stored.length, content)) :
    stored.take magic.length = magic := by
  have walked := (walked_of_decodeMember decoded).1
  rw [List.take_length] at walked
  exact (done_of_skipFrame walked).1

/-- What has another magic number than a frame is refused for it. -/
theorem decodeMember_of_magic
    {other : Bytes}
    (sized : other.length = magic.length)
    (differs : other ≠ magic)
    (more : Bytes) :
    decodeMember (other ++ more) = .error .badMagic := by
  have walk : skipFrame.run (.ofBytes (other ++ more)) = .refused .badMagic :=
    Decoder.checked_refused (· == magic) sized (beq_false_of_ne differs) more
  have length : frameLength (other ++ more) = .error .badMagic := by
    rw [frameLength, walk]
  rw [decodeMember, length]

end Lz4

namespace Zstd

/-- A frame starts with the magic number. -/
theorem magic_of_decodeMember
    {stored content : Bytes}
    (decoded : decodeMember stored = .ok (stored.length, content)) :
    stored.take magic.length = magic := by
  unfold decodeMember at decoded
  dsimp only at decoded
  split at decoded
  · cases decoded
  · split at decoded
    · rename_i accepted
      obtain ⟨_, _, header, -⟩ := Decoder.done_of_bind accepted
      obtain ⟨start, more, split, four, header⟩ := Decoder.done_of_octets_bind header
      obtain ⟨same, -⟩ := Decoder.done_of_require_bind header
      change stored = _ at split
      have sized : start.length = magic.length := four
      rw [split, List.take_left' sized]
      exact eq_of_beq same
    · cases decoded
    · cases decoded

/-- What has another magic number than a frame is refused for it. -/
theorem decodeMember_of_magic
    {other : Bytes}
    (sized : other.length = magic.length)
    (differs : other ≠ magic)
    (more : Bytes) :
    decodeMember (other ++ more) = .error .badMagic := by
  have header : frameHeader (behind [] (other ++ more)) = .refused .badMagic :=
    Decoder.checked_refused (· == magic) sized (beq_false_of_ne differs) more
  have refused : frame.run (.ofBytes (other ++ more)) = .refused .badMagic :=
    Decoder.bind_refused header
  have enough : ¬ (other ++ more).length < magic.length := by
    rw [List.length_append, sized]
    exact Nat.not_lt_of_le (Nat.le_add_right _ _)
  rw [decodeMember, if_neg enough, refused]

end Zstd

/-- The magic number that members of an algorithm start with, if they start with one. -/
def Algorithm.magic : Algorithm → Bytes
  | .deflate =>
      Deflate.gzipMagic
  | .lz4 =>
      Lz4.magic
  | .zstd =>
      Zstd.magic

/-- How many octets of checksum members with a magic number end with, if they end with some. -/
def Algorithm.checksumLength? : Algorithm → Option Nat
  | .deflate =>
      some Deflate.gzipTrailerLength
  | .lz4 =>
      some 4
  | .zstd =>
      none

namespace ParameterSet

/-- Whether members start with a magic number: of deflate members those of gzip do. -/
def HasMagic
    (parameters : ParameterSet) :
    Prop :=
  parameters.algorithm = .deflate → parameters.deflateFormat ∈ [.gzip, .gzipExtended]

/-- A member with damage to its magic number or its checksum, and the failure that is due to it. -/
inductive Damages
    (parameters : ParameterSet)
    (stored : Bytes) :
    Bytes →
    StreamError →
    Prop where
  | magic
      {other : Bytes}
      (sized : other.length = parameters.algorithm.magic.length)
      (differs : other ≠ stored.take parameters.algorithm.magic.length) :
      Damages parameters stored (other ++ stored.drop parameters.algorithm.magic.length)
        (.corruptInput (parameters.algorithm.name ++ " magic mismatch"))
  | checksum
      {count : Nat}
      {other : Bytes}
      (sums : parameters.algorithm.checksumLength? = some count)
      (sized : other.length = count)
      (differs : other ≠ stored.drop (stored.length - count)) :
      Damages parameters stored (stored.take (stored.length - count) ++ other)
        .integrityCheckFailed

/-- There is something left of a damaged member. -/
theorem Damages.ne_nil
    {parameters : ParameterSet}
    {stored bytes : Bytes}
    {error : StreamError}
    (damages : parameters.Damages stored bytes error) :
    bytes ≠ [] := by
  cases damages with
  | @magic other sized differs =>
      intro nothing
      rw [(List.append_eq_nil_iff.mp nothing).1] at sized
      cases algorithm : parameters.algorithm <;>
      · rw [algorithm] at sized
        cases sized
  | @checksum count other sums sized differs =>
      intro nothing
      rw [(List.append_eq_nil_iff.mp nothing).2] at sized
      cases algorithm : parameters.algorithm <;>
      · rw [algorithm, ← sized] at sums
        cases sums

/-- Deflate members that start with a magic number are read as gzip members. -/
theorem decodeMember_of_hasMagic
    {parameters : ParameterSet}
    (hasMagic : parameters.HasMagic)
    (deflate : parameters.algorithm = .deflate)
    (input : Bytes) :
    parameters.decodeMember input =
      (Deflate.decodeGzip input).mapError (CodecError.mk .deflate) := by
  rw [decodeMember, deflate]
  rcases List.mem_cons.mp (hasMagic deflate) with plain | extended
  · rw [plain]
    rfl
  · rw [List.mem_singleton.mp extended]
    rfl

/-- A member whose magic number has been replaced is refused for it. -/
theorem decodeMember_of_magic
    {parameters : ParameterSet}
    {stored content other : Bytes}
    (hasMagic : parameters.HasMagic)
    (decoded : parameters.decodeMember stored = .ok (stored.length, content))
    (sized : other.length = parameters.algorithm.magic.length)
    (differs : other ≠ stored.take parameters.algorithm.magic.length)
    (more : Bytes) :
    parameters.decodeMember (other ++ (stored.drop parameters.algorithm.magic.length ++ more)) =
      .error ⟨parameters.algorithm, .badMagic⟩ := by
  cases algorithm : parameters.algorithm with
  | deflate =>
      rw [decodeMember_of_hasMagic hasMagic algorithm] at decoded ⊢
      rw [algorithm] at sized differs
      obtain ⟨enough, same⟩ := Deflate.magic_of_decodeGzip (ok_of_mapError decoded)
      have long : Deflate.gzipHeaderLength ≤
          (other ++ (stored.drop Deflate.gzipMagic.length ++ more)).length := by
        rw [List.length_append, List.length_append, List.length_drop, sized]
        change _ ≤ 2 + (stored.length - 2 + more.length)
        omega
      have refused := Deflate.decodeGzip_of_magic sized (same ▸ differs) long
      exact congrArg (Except.mapError (CodecError.mk .deflate)) refused
  | lz4 =>
      unfold decodeMember at decoded ⊢
      rw [algorithm] at sized differs decoded ⊢
      have same := Lz4.magic_of_decodeMember (ok_of_mapError decoded)
      have refused := Lz4.decodeMember_of_magic sized (same ▸ differs)
        (stored.drop Lz4.magic.length ++ more)
      exact congrArg (Except.mapError (CodecError.mk .lz4)) refused
  | zstd =>
      unfold decodeMember at decoded ⊢
      rw [algorithm] at sized differs decoded ⊢
      have same := Zstd.magic_of_decodeMember (ok_of_mapError decoded)
      have refused := Zstd.decodeMember_of_magic sized (same ▸ differs)
        (stored.drop Zstd.magic.length ++ more)
      exact congrArg (Except.mapError (CodecError.mk .zstd)) refused

/-- A written LZ4 member is a frame of its content. -/
theorem Written.frameOf
    {reader : ParameterSet}
    {member : SurveyedMember}
    (written : reader.Written member)
    (lz4 : reader.algorithm = .lz4) :
    Lz4.FrameOf member.content member.stored := by
  cases written with
  | encoded inverted understands short encoded =>
      rw [encodeMember_eq, memberOf, ← understands.algorithm, lz4] at encoded
      exact inverted.lz4Frame (ok_of_mapError (ok_of_mapError encoded))
  | placeholder understands =>
      unfold ParameterSet.placeholder
      rw [← understands.algorithm, lz4]
      exact Lz4.frameOf_emptyFrame

/-- A written member ends with a checksum, and with any other one it is refused as disagreeing. -/
theorem Written.checksum
    {reader : ParameterSet}
    {member : SurveyedMember}
    {count : Nat}
    (hasMagic : reader.HasMagic)
    (written : reader.Written member)
    (sums : reader.algorithm.checksumLength? = some count) :
    ∃ front checksum,
      member.stored = front ++ checksum ∧ checksum.length = count ∧
        ∀ other more : Bytes,
          other.length = count →
            other ≠ checksum →
              reader.decodeMember (front ++ other ++ more) =
                .error ⟨reader.algorithm, .checksumMismatch⟩ := by
  cases algorithm : reader.algorithm with
  | deflate =>
      rw [algorithm] at sums
      cases sums
      have decoded := written.decodeMember []
      rw [List.append_nil, decodeMember_of_hasMagic hasMagic algorithm] at decoded
      obtain ⟨front, trailer, split, sized, refuses⟩ :=
        Deflate.trailer_of_decodeGzip (ok_of_mapError decoded)
      refine ⟨front, trailer, split, sized, ?_⟩
      intro other more otherSized differs
      rw [decodeMember_of_hasMagic hasMagic algorithm, refuses other more otherSized differs]
      rfl
  | lz4 =>
      rw [algorithm] at sums
      cases sums
      obtain ⟨front, split, refuses⟩ := (written.frameOf algorithm).checksum
      refine ⟨front, _, split, Lz4.length_contentChecksum _, ?_⟩
      intro other more otherSized differs
      rw [ParameterSet.decodeMember, algorithm]
      dsimp only
      rw [refuses other more otherSized differs]
      rfl
  | zstd =>
      rw [algorithm] at sums
      cases sums

/-- A damaged member is refused for the damage, whatever is behind it. -/
theorem decodeMember_of_damages
    {reader : ParameterSet}
    {member : SurveyedMember}
    {bytes : Bytes}
    {error : StreamError}
    (hasMagic : reader.HasMagic)
    (written : reader.Written member)
    (damages : reader.Damages member.stored bytes error)
    (more : Bytes) :
    ∃ failure,
      reader.decodeMember (bytes ++ more) = .error failure ∧ failure.toStreamError = error := by
  cases damages with
  | magic sized differs =>
      have decoded := written.decodeMember []
      rw [List.append_nil] at decoded
      rw [List.append_assoc]
      exact ⟨_, decodeMember_of_magic hasMagic decoded sized differs more, rfl⟩
  | @checksum count other sums sized differs =>
      obtain ⟨front, checksum, split, sumSized, refuses⟩ := written.checksum hasMagic sums
      have cut : front.length = member.stored.length - count := by
        rw [split, List.length_append, sumSized, Nat.add_sub_cancel]
      rw [← cut, split, List.drop_left] at differs
      rw [← cut, split, List.take_left]
      exact ⟨_, refuses other more sized differs, rfl⟩

/-- Nothing is unpacked of a stream behind the members before a damaged one. -/
theorem unpackStream_damaged
    {reader : ParameterSet}
    {before : List SurveyedMember}
    {member : SurveyedMember}
    {bytes : Bytes}
    {error : StreamError}
    (hasMagic : reader.HasMagic)
    (writtenBefore : ∀ earlier ∈ before, reader.Written earlier)
    (written : reader.Written member)
    (damages : reader.Damages member.stored bytes error)
    (more : Bytes) :
    reader.unpackStream (joined before ++ (bytes ++ more)) =
      (joinedContent before, some error) := by
  obtain ⟨failure, fails, reported⟩ := decodeMember_of_damages hasMagic written damages more
  have some : bytes ++ more ≠ [] :=
    fun nothing => damages.ne_nil (List.append_eq_nil_iff.mp nothing).1
  have ends := unpack_joined_append writtenBefore (bytes ++ more)
  rw [unpack_error some fails, List.append_nil] at ends
  have nonempty : joined before ++ (bytes ++ more) ≠ [] :=
    fun nothing => some (List.append_eq_nil_iff.mp nothing).2
  rw [unpackStream, if_neg nonempty, ends, ← reported]
  rfl

end ParameterSet

end MemberStream
