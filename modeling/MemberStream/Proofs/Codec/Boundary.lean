import MemberStream.Proofs.Bits.Cutting
import MemberStream.Proofs.Codec.Unpack
import MemberStream.Proofs.Deflate.Containers

namespace MemberStream

/-!
# Where members end

A member that a codec reads from the front of some input ends where the codec
says.  The bytes up to there are read as the same member whatever is behind
them, and if one of them is missing the codec fails as it does on corrupt input:
a member that is cut is never taken for a shorter one, nor for one whose content
disagrees with its checksum.
-/

open BitStream

/-- What a codec reads from the front of some input ends after `length` bytes. -/
structure Boundary
    {ε : Type}
    (corrupt : ε → Prop)
    (decode : Bytes → Except ε (Nat × Bytes))
    (input : Bytes)
    (length : Nat)
    (content : Bytes) :
    Prop where
  positive :
    1 ≤ length
  inside :
    length ≤ input.length
  /-- The bytes up to the boundary tell the member, whatever is behind them. -/
  alone :
    ∀ more, decode (input.take length ++ more) = .ok (length, content)
  /-- There is no member in fewer bytes. -/
  cut :
    ∀ {shorter : Nat},
      shorter < length →
        ∃ error, decode (input.take shorter) = .error error ∧ corrupt error

/-- A codec that reports what a self-delimiting decoder reads, and fails where it runs out. -/
structure Reports
    {α ε : Type}
    (corrupt : ε → Prop)
    (decode : Bytes → Except ε (Nat × Bytes))
    (decoder : Decoder α)
    (contentOf : α → Bytes) :
    Prop where
  delimiting :
    SelfDelimiting decoder
  nothing :
    ∀ value rest, decoder (behind [] []) ≠ .done value rest
  done :
    ∀ {bytes value rest},
      decoder.run (.ofBytes bytes) = .done value rest →
        decode bytes = .ok (bytes.length - rest.octetsLeft, contentOf value)
  unfinished :
    ∀ {bytes},
      decoder.run (.ofBytes bytes) = .unfinished →
        ∃ error, decode bytes = .error error ∧ corrupt error

/-- What such a codec reads ends where the decoder is done. -/
theorem Reports.boundary
    {α ε : Type}
    {corrupt : ε → Prop}
    {decode : Bytes → Except ε (Nat × Bytes)}
    {decoder : Decoder α}
    {contentOf : α → Bytes}
    (reports : Reports corrupt decode decoder contentOf)
    {input : Bytes}
    {value : α}
    {rest : BitStream}
    (accepted : decoder.run (.ofBytes input) = .done value rest) :
    Boundary corrupt decode input (input.length - rest.octetsLeft) (contentOf value) where
  positive := by
    have shorter := reports.delimiting.length_lt_of_accepts reports.nothing accepted
    rw [rest.octetsLeft_eq]
    omega
  inside :=
    Nat.sub_le _ _
  alone := by
    intro more
    have again := reports.done (reports.delimiting.run_take_append accepted more)
    have left : (behind rest.held more).octetsLeft = more.length :=
      rfl
    rwa [left, List.length_append, Nat.add_sub_cancel,
      List.length_take_of_le (Nat.sub_le _ _)] at again
  cut := by
    intro shorter inside
    exact reports.unfinished (reports.delimiting.run_take accepted inside)

/-- What such a decoder reads to its end is reported, whatever is behind it. -/
theorem Reports.append
    {α ε : Type}
    {corrupt : ε → Prop}
    {decode : Bytes → Except ε (Nat × Bytes)}
    {decoder : Decoder α}
    {contentOf : α → Bytes}
    {after : Place}
    {value : α}
    {written : Bytes}
    (reports : Reports corrupt decode decoder contentOf)
    (all : ReadsAll after decoder value written)
    (more : Bytes) :
    decode (written ++ more) = .ok (written.length, contentOf value) := by
  obtain ⟨left, -, done⟩ := all
  have alone := (reports.boundary done).alone more
  have nothing : (behind left []).octetsLeft = 0 := rfl
  rwa [nothing, Nat.sub_zero, List.take_length] at alone

/-- Renaming the errors of a codec leaves its boundaries where they are. -/
theorem Boundary.mapError
    {ε ε' : Type}
    {corrupt : ε → Prop}
    {corrupt' : ε' → Prop}
    {decode : Bytes → Except ε (Nat × Bytes)}
    {rename : ε → ε'}
    {input content : Bytes}
    {length : Nat}
    (boundary : Boundary corrupt decode input length content)
    (still : ∀ error, corrupt error → corrupt' (rename error)) :
    Boundary corrupt' (fun bytes => (decode bytes).mapError rename) input length content where
  positive :=
    boundary.positive
  inside :=
    boundary.inside
  alone := by
    intro more
    rw [boundary.alone more]
    rfl
  cut := by
    intro shorter inside
    obtain ⟨error, fails, corrupts⟩ := boundary.cut inside
    refine ⟨rename error, ?_, still error corrupts⟩
    rw [fails]
    rfl

/-- A split byte string is its two parts, and the front has the length asked for. -/
theorem splitBytes?_eq_some
    {count : Nat}
    {bytes front back : Bytes}
    (split : splitBytes? count bytes = some (front, back)) :
    bytes = front ++ back ∧ front.length = count := by
  unfold splitBytes? at split
  dsimp only at split
  split at split
  · rename_i enough
    cases split
    exact ⟨(List.take_append_drop count bytes).symm, enough⟩
  · cases split

/-- A byte string that is too short is not split. -/
theorem splitBytes?_eq_none
    {count : Nat}
    {bytes : Bytes}
    (short : bytes.length < count) :
    splitBytes? count bytes = none := by
  have missing : (bytes.take count).length ≠ count := by
    rw [List.length_take]
    omega
  unfold splitBytes?
  dsimp only
  rw [if_neg missing]

namespace CodecFailure

/-- Whether a failure counts as corrupt input. -/
def Corrupts : CodecFailure → Prop
  | .decodeFailed | .truncated _ | .badMagic =>
      True
  | .levelOutOfRange _ _ | .encodeFailed _ | .checksumMismatch =>
      False

end CodecFailure

namespace CodecError

/-- Whether a codec error is reported as corrupt input. -/
def Corrupts
    (error : CodecError) :
    Prop :=
  error.toStreamError = .corruptInput error.message

/-- The failures that count as corrupt input are reported as such. -/
theorem corrupts_of_failure
    (algorithm : Algorithm)
    (failure : CodecFailure)
    (corrupts : failure.Corrupts) :
    Corrupts ⟨algorithm, failure⟩ := by
  cases failure with
  | decodeFailed =>
      rfl
  | truncated length =>
      rfl
  | badMagic =>
      rfl
  | levelOutOfRange level highest =>
      exact corrupts.elim
  | encodeFailed text =>
      exact corrupts.elim
  | checksumMismatch =>
      exact corrupts.elim

end CodecError

namespace Deflate

/-- A bare body is reported as it is read. -/
theorem reports_decodeRaw :
    Reports CodecFailure.Corrupts decodeRaw body Array.toList where
  delimiting :=
    selfDelimiting_body
  nothing :=
    body_nothing
  done := by
    intro bytes history rest done
    rw [decodeRaw, done]
  unfinished := by
    intro bytes short
    exact ⟨.truncated bytes.length, by rw [decodeRaw, short], trivial⟩

/-- A bare body ends with its last block. -/
theorem boundary_of_decodeRaw
    {input content : Bytes}
    {length : Nat}
    (decoded : decodeRaw input = .ok (length, content)) :
    Boundary CodecFailure.Corrupts decodeRaw input length content := by
  unfold decodeRaw at decoded
  dsimp only at decoded
  split at decoded
  · rename_i accepted
    cases decoded
    exact reports_decodeRaw.boundary accepted
  · cases decoded
  · cases decoded

/-- A body behind its length is made of the length, as much as it says, and what is behind that. -/
theorem parts_of_decodePrefixed
    {input content : Bytes}
    {length : Nat}
    (decoded : decodePrefixed input = .ok (length, content)) :
    ∃ lengthOctets stored rest used,
      input = lengthOctets ++ stored ++ rest ∧
        lengthOctets.length = 4 ∧
        ofLittleEndian lengthOctets = stored.length ∧
        length = (lengthOctets ++ stored).length ∧
        decodeRaw stored = .ok (used, content) := by
  unfold decodePrefixed at decoded
  dsimp only at decoded
  split at decoded
  · cases decoded
  · rename_i lengthOctets behindLength first
    obtain ⟨rfl, four⟩ := splitBytes?_eq_some first
    split at decoded
    · cases decoded
    · rename_i stored rest second
      obtain ⟨rfl, fits⟩ := splitBytes?_eq_some second
      split at decoded
      · rename_i used body accepted
        cases decoded
        refine ⟨lengthOctets, stored, rest, used, ?_, four, fits.symm, ?_, accepted⟩
        · rw [List.append_assoc]
        · rw [List.length_append, four, fits]
      · cases decoded

/-- A body behind its length ends where the length says. -/
theorem boundary_of_decodePrefixed
    {input content : Bytes}
    {length : Nat}
    (decoded : decodePrefixed input = .ok (length, content)) :
    Boundary CodecFailure.Corrupts decodePrefixed input length content := by
  obtain ⟨positive, inside⟩ := decodePrefixed_bounds decoded
  obtain ⟨lengthOctets, stored, rest, used, rfl, four, fits, rfl, accepted⟩ :=
    parts_of_decodePrefixed decoded
  refine ⟨positive, inside, ?_, ?_⟩
  · intro more
    have first := splitBytes?_append lengthOctets (stored ++ more)
    rw [four] at first
    rw [List.take_left, decodePrefixed, List.append_assoc, first]
    dsimp only
    rw [fits, splitBytes?_append]
    dsimp only
    rw [accepted, List.length_append, four]
  · intro shorter missing
    rw [List.take_append_of_le_length (Nat.le_of_lt missing)]
    refine ⟨.truncated ((lengthOctets ++ stored).take shorter).length, ?_, trivial⟩
    rcases Nat.lt_or_ge shorter 4 with few | enough
    · rw [decodePrefixed, splitBytes?_eq_none (Nat.lt_of_le_of_lt (List.length_take_le _ _) few)]
    · have first := splitBytes?_append lengthOctets (stored.take (shorter - 4))
      have short : (stored.take (shorter - 4)).length < stored.length := by
        rw [List.length_append] at missing
        rw [List.length_take]
        omega
      rw [four] at first
      have wholeLength : lengthOctets.length ≤ shorter := four ▸ enough
      rw [List.take_append, List.take_of_length_le wholeLength, four, decodePrefixed, first]
      dsimp only
      rw [fits, splitBytes?_eq_none short]

/-- A gzip header, and so a gzip member, is unfinished if its fixed part is. -/
theorem gzipMember_unfinished
    {bytes : Bytes}
    (few : bytes.length < gzipHeaderLength) :
    gzipMember.run (.ofBytes bytes) = .unfinished := by
  have head : gzipHead (behind [] bytes) = .unfinished :=
    Decoder.bind_octets_unfinished few
  change Decoder.bind gzipHead _ (behind [] bytes) = _
  rw [Decoder.bind, head]

/-- A gzip member is reported as it is read. -/
theorem reports_decodeGzip :
    Reports CodecFailure.Corrupts decodeGzip gzipMember id where
  delimiting :=
    selfDelimiting_gzipMember
  nothing :=
    gzipMember_nothing
  done := by
    intro bytes content rest done
    have enough : ¬ bytes.length < gzipHeaderLength := by
      intro few
      rw [gzipMember_unfinished few] at done
      cases done
    rw [decodeGzip, if_neg enough, done]
    rfl
  unfinished := by
    intro bytes short
    rw [decodeGzip, short]
    split
    · exact ⟨_, rfl, trivial⟩
    · exact ⟨_, rfl, trivial⟩

/-- A gzip member ends with its trailer. -/
theorem boundary_of_decodeGzip
    {input content : Bytes}
    {length : Nat}
    (decoded : decodeGzip input = .ok (length, content)) :
    Boundary CodecFailure.Corrupts decodeGzip input length content := by
  unfold decodeGzip at decoded
  dsimp only at decoded
  split at decoded
  · cases decoded
  · split at decoded
    · rename_i accepted
      cases decoded
      exact reports_decodeGzip.boundary accepted
    · cases decoded
    · cases decoded

/-- A member ends where its container says. -/
theorem boundary_of_decodeMember
    {format : DeflateFormat}
    {input content : Bytes}
    {length : Nat}
    (decoded : decodeMember format input = .ok (length, content)) :
    Boundary CodecFailure.Corrupts (decodeMember format) input length content := by
  cases format with
  | raw =>
      exact boundary_of_decodeRaw decoded
  | lengthPrefixed =>
      exact boundary_of_decodePrefixed decoded
  | gzip =>
      exact boundary_of_decodeGzip decoded
  | gzipExtended =>
      exact boundary_of_decodeGzip decoded

end Deflate

namespace Lz4

/-- The length of a frame is told by the frame alone, and by nothing less. -/
theorem frameLength_take
    {input : Bytes}
    {length : Nat}
    (found : frameLength input = .ok length) :
    (∀ more, frameLength (input.take length ++ more) = .ok length) ∧
      ∀ {shorter : Nat},
        shorter < length →
          frameLength (input.take shorter) = .error (.truncated (input.take shorter).length) := by
  unfold frameLength at found
  dsimp only at found
  split at found
  · rename_i rest accepted
    cases found
    refine ⟨?_, ?_⟩
    · intro more
      have left : (behind rest.held more).octetsLeft = more.length :=
        rfl
      rw [frameLength, selfDelimiting_skipFrame.run_take_append accepted more]
      dsimp only
      rw [left, List.length_append, Nat.add_sub_cancel, List.length_take_of_le (Nat.sub_le _ _)]
    · intro shorter inside
      rw [frameLength, selfDelimiting_skipFrame.run_take accepted inside]
  · cases found
  · cases found

/-- A frame ends where the walk over its blocks does. -/
theorem boundary_of_decodeMember
    {input content : Bytes}
    {length : Nat}
    (decoded : decodeMember input = .ok (length, content)) :
    Boundary CodecFailure.Corrupts decodeMember input length content := by
  obtain ⟨positive, inside⟩ := decodeMember_bounds decoded
  have whole (bytes : Bytes) : (input.take length ++ bytes).take length = input.take length := by
    rw [List.take_append_of_le_length (Nat.le_of_eq (List.length_take_of_le inside).symm),
      List.take_take, Nat.min_self]
  unfold decodeMember at decoded
  split at decoded
  · cases decoded
  · rename_i found
    split at decoded
    · rename_i accepted
      cases decoded
      obtain ⟨alone, cut⟩ := frameLength_take found
      refine ⟨positive, inside, ?_, ?_⟩
      · intro more
        rw [decodeMember, alone more]
        dsimp only
        rw [whole more, accepted]
      · intro shorter missing
        refine ⟨.truncated (input.take shorter).length, ?_, trivial⟩
        rw [decodeMember, cut missing]
    · cases decoded
    · cases decoded

end Lz4

namespace Zstd

/-- A frame is unfinished if its magic number is. -/
theorem frame_unfinished
    {bytes : Bytes}
    (few : bytes.length < magic.length) :
    frame.run (.ofBytes bytes) = .unfinished := by
  have header : frameHeader (behind [] bytes) = .unfinished :=
    Decoder.bind_octets_unfinished few
  change Decoder.bind frameHeader _ (behind [] bytes) = _
  rw [Decoder.bind, header]

/-- A frame is reported as it is read. -/
theorem reports_decodeMember :
    Reports CodecFailure.Corrupts decodeMember frame id where
  delimiting :=
    selfDelimiting_frame
  nothing :=
    frame_nothing
  done := by
    intro bytes content rest done
    have enough : ¬ bytes.length < magic.length := by
      intro few
      rw [frame_unfinished few] at done
      cases done
    rw [decodeMember, if_neg enough, done]
    rfl
  unfinished := by
    intro bytes short
    rw [decodeMember, short]
    split
    · exact ⟨_, rfl, trivial⟩
    · exact ⟨_, rfl, trivial⟩

/-- A frame ends with its last block, or with the checksum behind it. -/
theorem boundary_of_decodeMember
    {input content : Bytes}
    {length : Nat}
    (decoded : decodeMember input = .ok (length, content)) :
    Boundary CodecFailure.Corrupts decodeMember input length content := by
  unfold decodeMember at decoded
  dsimp only at decoded
  split at decoded
  · cases decoded
  · split at decoded
    · rename_i accepted
      cases decoded
      exact reports_decodeMember.boundary accepted
    · cases decoded
    · cases decoded

end Zstd

namespace ParameterSet

/-- A member that is read ends where its codec says. -/
theorem boundary_of_decodeMember
    {parameters : ParameterSet}
    {input content : Bytes}
    {length : Nat}
    (decoded : parameters.decodeMember input = .ok (length, content)) :
    Boundary CodecError.Corrupts parameters.decodeMember input length content := by
  have front := ok_of_mapError decoded
  have corrupts := CodecError.corrupts_of_failure parameters.algorithm
  unfold decodeMember
  split at front
  · exact (Deflate.boundary_of_decodeMember front).mapError corrupts
  · exact (Lz4.boundary_of_decodeMember front).mapError corrupts
  · exact (Zstd.boundary_of_decodeMember front).mapError corrupts

end ParameterSet

end MemberStream
