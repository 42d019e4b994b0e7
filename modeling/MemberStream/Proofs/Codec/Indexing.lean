import MemberStream.Proofs.Codec.Joined

namespace MemberStream

/-!
# Stored lengths as an index

Two deflate containers store the length of their body, so that the members of a
stream can be told apart without reading any of the bodies.  Hopping over a
stream by these lengths comes to the same offsets as decoding member after
member.  The body is the same in every container.
-/

open BitStream

/-- The 32-bit word at an offset of a byte string. -/
def wordAt
    (offset : Nat)
    (bytes : Bytes) :
    Nat :=
  ofLittleEndian ((bytes.drop offset).take 4)

/--
The offsets that are visited from one on by hopping over a stream, the one at which the
hops come to an end included.
-/
def visits
    (stream : Bytes)
    (lengthAt : Nat → Option Nat)
    (offset : Nat) :
    List Nat :=
  if offset < stream.length then
    match lengthAt offset with
    | some length =>
        if 0 < length then
          offset :: visits stream lengthAt (offset + length)
        else
          [offset]
    | none =>
        [offset]
  else
    [offset]
termination_by stream.length - offset

/-- The offsets of some members from that of the first on, the end of the last one included. -/
def boundaries
    (offset : Nat) :
    List SurveyedMember →
    List Nat
  | [] =>
      [offset]
  | member :: members =>
      offset :: boundaries (offset + member.stored.length) members

/-- Hops by the lengths of the members of a stream visit the boundaries between them. -/
theorem visits_joined
    {lengthAt : Bytes → Nat → Option Nat}
    (before : Bytes)
    {members : List SurveyedMember}
    (some : ∀ member ∈ members, member.stored ≠ [])
    (tells :
      ∀ member ∈ members, ∀ before more : Bytes,
        lengthAt (before ++ (member.stored ++ more)) before.length =
          .some member.stored.length) :
    visits (before ++ joined members) (lengthAt (before ++ joined members)) before.length =
      boundaries before.length members := by
  induction members generalizing before with
  | nil =>
      have stops : ¬ before.length < (before ++ joined []).length := by
        rw [joined, List.flatMap_nil, List.append_nil]
        exact Nat.lt_irrefl _
      rw [visits, if_neg stops]
      rfl
  | cons member members ih =>
      have positive := List.length_pos_iff.mpr (some member List.mem_cons_self)
      have split : before ++ joined (member :: members) =
          before ++ (member.stored ++ joined members) :=
        rfl
      have inside : before.length < (before ++ (member.stored ++ joined members)).length := by
        rw [List.length_append, List.length_append]
        omega
      have others := ih (before ++ member.stored)
        (fun other among => some other (List.mem_cons_of_mem member among))
        (fun other among => tells other (List.mem_cons_of_mem member among))
      rw [List.append_assoc, List.length_append] at others
      rw [split, visits, if_pos inside,
        tells member List.mem_cons_self before (joined members)]
      dsimp only
      rw [if_pos positive, others, boundaries]

/-- A word that is stored at an offset is read there. -/
theorem wordAt_append
    {front more : Bytes}
    {offset value : Nat}
    (place : front.length = offset)
    (fits : value < 2 ^ (32 : Nat)) :
    wordAt offset (front ++ (littleEndian 4 value ++ more)) = value := by
  rw [wordAt, List.drop_left' place, List.take_left' (length_littleEndian 4 value),
    ofLittleEndian_littleEndian 4 value fits]

namespace Deflate

/-- The containers that store lengths in words. -/
def storingFormats : List DeflateFormat :=
  [.lengthPrefixed, .gzipExtended]

/-- The length of the member at an offset of a stream as its container tells it. -/
def toldLength
    (format : DeflateFormat)
    (stream : Bytes)
    (offset : Nat) :
    Option Nat :=
  match format with
  | .gzipExtended =>
      some (24 + wordAt (offset + 20) stream + 8)
  | .lengthPrefixed =>
      some (4 + wordAt offset stream)
  | .gzip | .raw =>
      none

/-- A length that is stored and does not fit in a word, or another such one, is refused. -/
theorem member_of_oversized
    {format : DeflateFormat}
    {source body : Bytes}
    {length : Nat}
    (level : UInt32)
    (among : length ∈ storedLengths format source body)
    (beyond : 2 ^ (32 : Nat) ≤ length) :
    ∃ oversized ∈ storedLengths format source body,
      2 ^ (32 : Nat) ≤ oversized ∧
        member format level source body = .error (exceedsWord oversized) := by
  unfold member
  cases found : oversized? (storedLengths format source body) with
  | some oversized =>
      have large := List.find?_some found
      rw [decide_eq_true_eq] at large
      exact ⟨oversized, List.mem_of_find?_eq_some found, large, rfl⟩
  | none =>
      rw [oversized?, List.find?_eq_none] at found
      exact absurd (decide_eq_true beyond) (found length among)

/-- What is before the lengths in a gzip member that stores them. -/
def beforeLengths
    (level : UInt32) :
    Bytes :=
  gzipHeader extraFieldFlag level ++ littleEndian 2 12 ++ lengthsFieldIdentifier ++
    littleEndian 2 8

/-- A gzip member with lengths has the two words behind its sixteenth octet. -/
theorem contain_gzipExtended
    (level : UInt32)
    (source body : Bytes) :
    contain .gzipExtended level source body =
      beforeLengths level ++ (littleEndian 4 source.length ++
        (littleEndian 4 body.length ++ (body ++ gzipTrailer source))) := by
  simp only [contain, lengthsField, beforeLengths, List.append_assoc]

/-- A length that fits in a word is told by every container that stores it. -/
theorem toldLength_of_contain
    {format : DeflateFormat}
    (level : UInt32)
    {source body : Bytes}
    (stores : format ∈ storingFormats)
    (fits : ∀ length ∈ storedLengths format source body, length < 2 ^ (32 : Nat))
    (before more : Bytes) :
    toldLength format (before ++ (contain format level source body ++ more)) before.length =
      some (contain format level source body).length := by
  cases format with
  | gzipExtended =>
      have word := fits body.length (List.mem_cons_of_mem _ List.mem_cons_self)
      have split : before ++ (contain .gzipExtended level source body ++ more) =
          (before ++ beforeLengths level ++ littleEndian 4 source.length) ++
            (littleEndian 4 body.length ++ (body ++ gzipTrailer source ++ more)) := by
        rw [contain_gzipExtended]
        simp only [List.append_assoc]
      have place : (before ++ beforeLengths level ++ littleEndian 4 source.length).length =
          before.length + 20 := by
        rw [List.length_append, List.length_append, length_littleEndian]
        rfl
      have total : (contain .gzipExtended level source body).length = 24 + body.length + 8 := by
        have front : (beforeLengths level).length = 16 := rfl
        have trailer : (gzipTrailer source).length = 8 := rfl
        rw [contain_gzipExtended]
        simp only [List.length_append, length_littleEndian, front, trailer]
        omega
      rw [toldLength, split, wordAt_append place word, total]
  | lengthPrefixed =>
      have word := fits body.length List.mem_cons_self
      have split : before ++ (contain .lengthPrefixed level source body ++ more) =
          before ++ (littleEndian 4 body.length ++ (body ++ more)) := by
        rw [contain, List.append_assoc]
      have total : (contain .lengthPrefixed level source body).length = 4 + body.length := by
        rw [contain, List.length_append, length_littleEndian]
      rw [toldLength, split, wordAt_append rfl word, total]
  | gzip =>
      exact absurd stores (by decide)
  | raw =>
      exact absurd stores (by decide)

/-- A gzip member without the octets of its extra field and the flag that announces it. -/
def withoutField
    (extended : Bytes) :
    Bytes :=
  (extended.take gzipHeaderLength).set 3 (extended.getD 3 0 &&& ~~~extraFieldFlag) ++
    extended.drop (gzipHeaderLength + 14)

/-- What is between a header without optional fields and the trailer of a gzip member. -/
def bodyBetween
    (plain : Bytes) :
    Bytes :=
  (plain.drop gzipHeaderLength).take (plain.length - gzipHeaderLength - gzipTrailerLength)

/-- Without its extra field a gzip member with lengths is one without. -/
theorem withoutField_contain
    (level : UInt32)
    (source body : Bytes) :
    withoutField (contain .gzipExtended level source body) = contain .gzip level source body := by
  have split : contain .gzipExtended level source body =
      gzipHeader extraFieldFlag level ++
        (lengthsField source.length body.length ++ (body ++ gzipTrailer source)) := by
    simp only [contain, List.append_assoc]
  have front : (contain .gzipExtended level source body).take gzipHeaderLength =
      gzipHeader extraFieldFlag level := by
    rw [split]
    exact List.take_left' rfl
  have back : (contain .gzipExtended level source body).drop (gzipHeaderLength + 14) =
      body ++ gzipTrailer source := by
    rw [split, ← List.append_assoc]
    exact List.drop_left' rfl
  have flags : (contain .gzipExtended level source body).getD 3 0 = extraFieldFlag := by
    rw [split]
    rfl
  have cleared : extraFieldFlag &&& ~~~extraFieldFlag = 0 := by
    decide
  rw [withoutField, front, back, flags, cleared, contain, List.append_assoc]
  rfl

/-- The body is what is between the header and the trailer. -/
theorem bodyBetween_contain
    (level : UInt32)
    (source body : Bytes) :
    bodyBetween (contain .gzip level source body) = body := by
  have header : (gzipHeader 0 level).length = gzipHeaderLength :=
    rfl
  have trailer : (gzipTrailer source).length = gzipTrailerLength :=
    rfl
  have left : (contain .gzip level source body).length - gzipHeaderLength - gzipTrailerLength =
      body.length := by
    rw [contain, List.length_append, List.length_append, header, trailer]
    omega
  rw [bodyBetween, left, contain, List.append_assoc, List.drop_left' header, List.take_left]

end Deflate

namespace ParameterSet

/-- The same parameters for deflate members in a given container. -/
def inContainer
    (parameters : ParameterSet)
    (format : DeflateFormat) :
    ParameterSet :=
  { parameters with algorithm := .deflate, deflateFormat := format }

section Container

variable
    {parameters : ParameterSet} {encoders : Encoders} {format : DeflateFormat}
    {source body stored : Bytes}

/-- A body that an encoder has written is put into its container. -/
theorem encodeMember_inContainer
    (encodes : encoders.deflateBody parameters.level source = .ok body)
    (format : DeflateFormat) :
    (parameters.inContainer format).encodeMember encoders source =
      (Deflate.member format parameters.level source body).mapError (CodecError.mk .deflate) :=
  encodeMember_of_deflate rfl encodes

/-- A deflate member is the member of a body that an encoder has written. -/
theorem member_of_encodeMember
    (encoded : (parameters.inContainer format).encodeMember encoders source = .ok stored) :
    ∃ body,
      encoders.deflateBody parameters.level source = .ok body ∧
        Deflate.member format parameters.level source body = .ok stored := by
  cases encodes : encoders.deflateBody parameters.level source with
  | ok body =>
      rw [encodeMember_inContainer encodes] at encoded
      exact ⟨body, rfl, ok_of_mapError encoded⟩
  | error text =>
      rw [encodeMember_eq, memberOf] at encoded
      dsimp only [inContainer] at encoded
      rw [encodes] at encoded
      cases encoded

/-- A deflate member is decoded to its source, however long that is. -/
theorem decodeMember_inContainer
    (inverted : encoders.Inverted)
    (encoded : (parameters.inContainer format).encodeMember encoders source = .ok stored)
    (more : Bytes) :
    (parameters.inContainer format).decodeMember (stored ++ more) =
      .ok (stored.length, source) := by
  obtain ⟨body, encodes, wrote⟩ := member_of_encodeMember encoded
  have decoded := Deflate.decodeMember_member (inverted.deflateBody encodes) wrote rfl more
  exact congrArg (Except.mapError (CodecError.mk .deflate)) decoded

end Container

/-- The length of the member at an offset of a stream as decoding finds it. -/
def foundLength
    (parameters : ParameterSet)
    (stream : Bytes)
    (offset : Nat) :
    Option Nat :=
  match parameters.decodeMember (stream.drop offset) with
  | .ok (length, _) =>
      some length
  | .error _ =>
      none

/-- What a gzip member with lengths tells, and what it shares with those in other containers. -/
structure Indexes
    (parameters : ParameterSet)
    (encoders : Encoders)
    (source extended : Bytes) :
    Prop where
  decoded :
    ∀ more,
      (parameters.inContainer .gzipExtended).decodeMember (extended ++ more) =
        .ok (extended.length, source)
  sourceLength :
    ∀ more, wordAt 16 (extended ++ more) = source.length
  /-- Its header has an extra field and no other one. -/
  flags :
    extended.getD 3 0 = Deflate.extraFieldFlag
  /-- Behind the length of the extra field there are as many octets as it says, up to the body. -/
  field :
    Deflate.gzipHeaderLength + 2 +
        ofLittleEndian ((extended.drop Deflate.gzipHeaderLength).take 2) = 24
  header :
    ∀ more, ∃ header,
      Deflate.gzipHead (behind [] (extended ++ more)) =
        .done header (behind [] (extended.drop 24 ++ more))
  plain :
    (parameters.inContainer .gzip).encodeMember encoders source =
      .ok (Deflate.withoutField extended)
  bare :
    (parameters.inContainer .raw).encodeMember encoders source =
      .ok (Deflate.bodyBetween (Deflate.withoutField extended))

/-- A gzip member with lengths tells both of them, and shares its body. -/
theorem indexes_of_encodeMember
    {parameters : ParameterSet}
    {encoders : Encoders}
    {source extended : Bytes}
    (inverted : encoders.Inverted)
    (encoded :
      (parameters.inContainer .gzipExtended).encodeMember encoders source = .ok extended) :
    parameters.Indexes encoders source extended := by
  obtain ⟨body, encodes, wrote⟩ := member_of_encodeMember encoded
  obtain ⟨fits, same⟩ := Deflate.contain_of_member wrote
  have split : extended =
      (Deflate.gzipHeader Deflate.extraFieldFlag parameters.level ++
          Deflate.lengthsField source.length body.length) ++
        (body ++ Deflate.gzipTrailer source) := by
    rw [same, Deflate.contain, List.append_assoc]
  have behindField : extended.drop 24 = body ++ Deflate.gzipTrailer source := by
    rw [split]
    exact List.drop_left' rfl
  refine ⟨decodeMember_inContainer inverted encoded, ?_, ?_, ?_, ?_, ?_, ?_⟩
  · intro more
    have word := fits source.length List.mem_cons_self
    rw [same, Deflate.contain_gzipExtended, List.append_assoc, List.append_assoc]
    exact wordAt_append rfl word
  · rw [same, Deflate.contain_gzipExtended]
    rfl
  · rw [same, Deflate.contain_gzipExtended]
    rfl
  · intro more
    obtain ⟨header, reads⟩ :=
      Deflate.reads_gzipHead_lengths parameters.level source.length body.length
    rw [behindField, split, List.append_assoc (_ ++ _)]
    exact ⟨header, reads.done _⟩
  · rw [same, Deflate.withoutField_contain, encodeMember_inContainer encodes]
    rfl
  · rw [same, Deflate.withoutField_contain, Deflate.bodyBetween_contain,
      encodeMember_inContainer encodes]
    rfl

/--
The lengths that deflate containers store index a stream.  Hopping by them visits just the
offsets that decoding member after member finds, which are those between the members.  A
gzip member with lengths tells the length of its source, too; it has an extra field behind
the fixed part of its header, and without that it is the gzip member of the same source,
whose body is the bare member.  So is what a member with its length in front has behind
that.  If a length that is to be stored does not fit in a word, encoding fails and leaves
the output as it is.
-/
theorem storedLengths_index
    (parameters : ParameterSet)
    {encoders : Encoders}
    (inverted : encoders.Inverted) :
    (∀ format ∈ Deflate.storingFormats,
      ∀ members : List SurveyedMember,
        (∀ member ∈ members,
          (parameters.inContainer format).encodeMember encoders member.content =
            .ok member.stored) →
          let stream := joined members
          visits stream (Deflate.toldLength format stream) 0 = boundaries 0 members ∧
            visits stream ((parameters.inContainer format).foundLength stream) 0 =
              boundaries 0 members) ∧
      (∀ source extended : Bytes,
        (parameters.inContainer .gzipExtended).encodeMember encoders source = .ok extended →
          parameters.Indexes encoders source extended) ∧
      (∀ source prefixed : Bytes,
        (parameters.inContainer .lengthPrefixed).encodeMember encoders source = .ok prefixed →
          (parameters.inContainer .raw).encodeMember encoders source = .ok (prefixed.drop 4)) ∧
      ∀ (format : DeflateFormat) (source body output : Bytes) (length : Nat),
        (parameters.inContainer .raw).encodeMember encoders source = .ok body →
          length ∈ Deflate.storedLengths format source body →
            2 ^ (32 : Nat) ≤ length →
              ∃ oversized ∈ Deflate.storedLengths format source body,
                2 ^ (32 : Nat) ≤ oversized ∧
                  (parameters.inContainer format).encodeOnto source output encoders =
                    (.error ⟨.deflate, .encodeFailed
                      ("member length " ++ toString oversized ++ " exceeds u32")⟩, output) := by
  refine ⟨?_, fun source extended => indexes_of_encodeMember inverted, ?_, ?_⟩
  · intro format stores members encoded stream
    have some (member : SurveyedMember) (among : member ∈ members) : member.stored ≠ [] := by
      have decoded := decodeMember_inContainer inverted (encoded member among) []
      exact List.length_pos_iff.mp (decodeMember_bounds decoded).1
    refine ⟨?_, ?_⟩
    · refine visits_joined [] some ?_
      intro member among before more
      obtain ⟨body, -, wrote⟩ := member_of_encodeMember (encoded member among)
      obtain ⟨fits, same⟩ := Deflate.contain_of_member wrote
      rw [same]
      exact Deflate.toldLength_of_contain parameters.level stores fits before more
    · refine visits_joined [] some ?_
      intro member among before more
      rw [foundLength, List.drop_left,
        decodeMember_inContainer inverted (encoded member among) more]
  · intro source prefixed encoded
    obtain ⟨body, encodes, wrote⟩ := member_of_encodeMember encoded
    obtain ⟨-, same⟩ := Deflate.contain_of_member wrote
    rw [same, Deflate.contain, List.drop_left' (length_littleEndian 4 _),
      encodeMember_inContainer encodes]
    rfl
  · intro format source body output length bare among beyond
    obtain ⟨written, encodes, wrote⟩ := member_of_encodeMember bare
    obtain rfl : body = written := (Deflate.contain_of_member wrote).2
    obtain ⟨oversized, stored, large, refused⟩ :=
      Deflate.member_of_oversized parameters.level among beyond
    refine ⟨oversized, stored, large, ?_⟩
    rw [encodeOnto_eq, encodeMember_inContainer encodes, refused]
    rfl

/-- Two gzip members are told apart by their lengths, and a source too long for a word has none. -/
theorem storedLengths_index_stored :
    let parameters : ParameterSet := { level := 0 }
    let stored (source : Bytes) : Bytes :=
      Deflate.contain .gzipExtended 0 source (Deflate.storedBlockOf true source)
    let stream := stored [1, 2] ++ stored [3]
    visits stream (Deflate.toldLength .gzipExtended stream) 0 = [0, 39, 77] ∧
      visits stream ((parameters.inContainer .gzipExtended).foundLength stream) 0 = [0, 39, 77] ∧
      wordAt 16 stream = 2 ∧
      ∃ error,
        (parameters.inContainer .gzipExtended).encodeOnto (List.replicate (2 ^ (32 : Nat)) 0) [9] =
          (.error error, [9]) := by
  intro parameters stored stream
  obtain ⟨boundary, tells, -, refuses⟩ :=
    storedLengths_index parameters Encoders.Inverted.own
  have wrote (source : Bytes) (short : source.length ≤ Deflate.longestStored) :
      (parameters.inContainer .gzipExtended).encodeMember .own source = .ok (stored source) :=
    encodeMember_stored short
  have encoded : ∀ member ∈ [⟨stored [1, 2], [1, 2]⟩, ⟨stored [3], [3]⟩],
      (parameters.inContainer .gzipExtended).encodeMember .own (SurveyedMember.content member) =
        .ok member.stored := by
    intro member among
    rcases List.mem_cons.mp among with rfl | among
    · exact wrote [1, 2] (by decide)
    · rw [List.mem_singleton.mp among]
      exact wrote [3] (by decide)
  obtain ⟨told, found⟩ :=
    boundary .gzipExtended (List.mem_cons_of_mem _ List.mem_cons_self) _ encoded
  have whole : joined [⟨stored [1, 2], [1, 2]⟩, ⟨stored [3], [3]⟩] = stream :=
    congrArg (stored [1, 2] ++ ·) (List.append_nil _)
  rw [whole] at told found
  have large : 2 ^ 32 ≤ (List.replicate (2 ^ 32) (0 : UInt8)).length :=
    Nat.le_of_eq List.length_replicate.symm
  obtain ⟨oversized, -, -, failed⟩ :=
    refuses .gzipExtended _ _ [9] _ rfl List.mem_cons_self large
  exact ⟨told, found, (tells [1, 2] _ (wrote [1, 2] (by decide))).sourceLength (stored [3]),
    _, failed⟩

end ParameterSet

end MemberStream
