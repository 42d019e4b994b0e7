import MemberStream.Codec.Placeholder
import MemberStream.Proofs.Codec.Encoders

namespace MemberStream

/-!
# Unpacking what has been packed

A member that is written under some parameters, by encoders that are inverted,
is read under any parameters that understand them, whatever is behind it.  So
unpacking a concatenation of members gives back the pieces that they were
written for.
-/

namespace ParameterSet

/-- Parameters understand others if they name the same algorithm and containers read alike. -/
structure Understands
    (reader writer : ParameterSet) :
    Prop where
  algorithm : reader.algorithm = writer.algorithm
  /-- Gzip members with and without the lengths in their headers are read alike. -/
  format :
    reader.deflateFormat = writer.deflateFormat ∨
      (reader.deflateFormat ∈ [.gzip, .gzipExtended] ∧
        writer.deflateFormat ∈ [.gzip, .gzipExtended])

/-- Containers that are understood are read alike. -/
theorem Understands.alike
    {reader writer : ParameterSet}
    (understands : reader.Understands writer) :
    Deflate.readAs reader.deflateFormat = Deflate.readAs writer.deflateFormat := by
  have gzip
      {format : DeflateFormat}
      (member : format ∈ [.gzip, .gzipExtended]) :
      Deflate.readAs format = .gzip := by
    rcases List.mem_cons.mp member with rfl | member
    · rfl
    · rw [List.mem_singleton.mp member]
      rfl
  rcases understands.format with same | ⟨first, second⟩
  · rw [same]
  · rw [gzip first, gzip second]

/-- A deflate body that an encoder has written is put into its container. -/
theorem encodeMember_of_deflate
    {parameters : ParameterSet}
    {encoders : Encoders}
    {source body : Bytes}
    (deflate : parameters.algorithm = .deflate)
    (encodes : encoders.deflateBody parameters.level source = .ok body) :
    parameters.encodeMember encoders source =
      (Deflate.member parameters.deflateFormat parameters.level source body).mapError
        (CodecError.mk .deflate) := by
  rw [encodeMember_eq, memberOf, deflate]
  dsimp only
  rw [encodes]

/-- A written member is read as its source, whatever is behind it. -/
theorem decodeMember_of_encodeMember
    {reader writer : ParameterSet}
    {encoders : Encoders}
    {source member : Bytes}
    (inverted : encoders.Inverted)
    (understands : reader.Understands writer)
    (short : source.length < 2 ^ (64 : Nat))
    (encoded : writer.encodeMember encoders source = .ok member)
    (more : Bytes) :
    reader.decodeMember (member ++ more) = .ok (member.length, source) := by
  rw [encodeMember_eq] at encoded
  have wrote := ok_of_mapError encoded
  unfold memberOf at wrote
  unfold decodeMember
  rw [understands.algorithm]
  cases algorithm : writer.algorithm with
  | deflate =>
      rw [algorithm] at wrote
      dsimp only at wrote ⊢
      split at wrote
      · rename_i body encodes
        rw [Deflate.decodeMember_member (inverted.deflateBody encodes) wrote understands.alike]
        rfl
      · cases wrote
  | lz4 =>
      rw [algorithm] at wrote
      dsimp only
      rw [(inverted.lz4Frame (ok_of_mapError wrote)).decodeMember_append]
      rfl
  | zstd =>
      rw [algorithm] at wrote
      have all := inverted.zstdFrame short (ok_of_mapError wrote)
      dsimp only
      rw [Zstd.reports_decodeMember.append all]
      rfl

/-- A placeholder is read as nothing, whatever is behind it. -/
theorem decodeMember_of_placeholder
    {reader writer : ParameterSet}
    (understands : reader.Understands writer)
    (more : Bytes) :
    reader.decodeMember (writer.placeholder ++ more) = .ok (writer.placeholder.length, []) := by
  unfold placeholder decodeMember
  rw [understands.algorithm]
  cases writer.algorithm with
  | deflate =>
      dsimp only
      rw [Deflate.decodeMember_emptyMember _ understands.alike]
      rfl
  | lz4 =>
      dsimp only
      rw [Lz4.frameOf_emptyFrame.decodeMember_append]
      rfl
  | zstd =>
      dsimp only
      rw [Zstd.decodeMember_emptyFrame]
      rfl

/-- What is read from the front of a stream comes first in what the stream holds. -/
theorem unpack_append
    {parameters : ParameterSet}
    {member source : Bytes}
    (more : Bytes)
    (front : parameters.decodeMember (member ++ more) = .ok (member.length, source)) :
    parameters.unpack (member ++ more) =
      (source ++ (parameters.unpack more).1, (parameters.unpack more).2) := by
  have positive := (decodeMember_bounds front).1
  have nonempty : member ++ more ≠ [] :=
    List.append_ne_nil_of_left_ne_nil (List.length_pos_iff.mp positive) more
  rw [unpack_ok nonempty front, List.drop_left]

/-- A stream consists of the members of some pieces. -/
inductive Packs
    (parameters : ParameterSet)
    (encoders : Encoders) :
    List Bytes →
    Bytes →
    Prop where
  | nil :
      Packs parameters encoders [] []
  | cons
      {piece member stream : Bytes}
      {pieces : List Bytes}
      (encoded : parameters.encodeMember encoders piece = .ok member)
      (packs : Packs parameters encoders pieces stream) :
      Packs parameters encoders (piece :: pieces) (member ++ stream)

/-- Pieces in two groups are packed one group behind the other. -/
theorem packs_append
    {parameters : ParameterSet}
    {encoders : Encoders}
    {first second : List Bytes}
    {stream : Bytes} :
    parameters.Packs encoders (first ++ second) stream ↔
      ∃ front back,
        stream = front ++ back ∧
          parameters.Packs encoders first front ∧ parameters.Packs encoders second back := by
  induction first generalizing stream with
  | nil =>
      constructor
      · intro packs
        exact ⟨[], stream, rfl, .nil, packs⟩
      · rintro ⟨front, back, rfl, none, packs⟩
        cases none
        exact packs
  | cons piece first ih =>
      constructor
      · intro packs
        cases packs with
        | @cons _ member rest _ encoded packs =>
            obtain ⟨front, back, rfl, packsFirst, packsSecond⟩ := ih.mp packs
            exact ⟨member ++ front, back, (List.append_assoc _ _ _).symm,
              .cons encoded packsFirst, packsSecond⟩
      · rintro ⟨front, back, rfl, packsFirst, packsSecond⟩
        cases packsFirst with
        | cons encoded packs =>
            rw [List.append_assoc]
            exact .cons encoded (ih.mpr ⟨_, _, rfl, packs, packsSecond⟩)

/-- Pieces are packed in one way only. -/
theorem packs_unique
    {parameters : ParameterSet}
    {encoders : Encoders}
    {pieces : List Bytes}
    {stream other : Bytes}
    (packs : parameters.Packs encoders pieces stream)
    (again : parameters.Packs encoders pieces other) :
    stream = other := by
  induction packs generalizing other with
  | nil =>
      cases again
      rfl
  | cons encoded packs ih =>
      cases again with
      | cons encodedAgain again =>
          rw [encoded] at encodedAgain
          cases encodedAgain
          rw [ih again]

/-- A placeholder holds nothing. -/
theorem unpack_placeholder
    {reader writer : ParameterSet}
    (understands : reader.Understands writer) :
    reader.unpack writer.placeholder = ([], none) := by
  have front := decodeMember_of_placeholder understands []
  have all := unpack_append [] front
  rw [List.append_nil, unpack_nil] at all
  exact all

/-- What encoding appends is the member of the source. -/
theorem encodeMember_of_encodeOnto
    {parameters : ParameterSet}
    {encoders : Encoders}
    {source output : Bytes}
    (appended : (parameters.encodeOnto source output encoders).1 = .ok ()) :
    ∃ member,
      parameters.encodeMember encoders source = .ok member ∧
        (parameters.encodeOnto source output encoders).2 = output ++ member := by
  rw [encodeOnto_eq] at appended ⊢
  cases encoded : parameters.encodeMember encoders source with
  | ok member =>
      exact ⟨member, rfl, rfl⟩
  | error error =>
      rw [encoded] at appended
      cases appended

theorem decodeOnto_of_decodeMember
    {parameters : ParameterSet}
    {input content : Bytes}
    {length : Nat}
    (decoded : parameters.decodeMember input = .ok (length, content))
    (output : Bytes) :
    parameters.decodeOnto input output = .ok (length, output ++ content) := by
  rw [decodeOnto, decoded]

/--
With inverted encoders, encoding that succeeds keeps the output and appends a member, which
is decoded to the source it was written for, whatever is behind it and whatever it is
appended to; and the placeholder is a member of nothing.
-/
theorem decodeOnto_encodeOnto
    {reader writer : ParameterSet}
    {encoders : Encoders}
    (inverted : encoders.Inverted)
    (understands : reader.Understands writer) :
    (∀ (source output : Bytes),
      source.length < 2 ^ (64 : Nat) →
        (writer.encodeOnto source output encoders).1 = .ok () →
          ∃ member,
            (writer.encodeOnto source output encoders).2 = output ++ member ∧
              ∀ (more before : Bytes),
                reader.decodeOnto (member ++ more) before =
                  .ok (member.length, before ++ source)) ∧
      writer.placeholder ≠ [] ∧
      ∀ (more before : Bytes),
        reader.decodeOnto (writer.placeholder ++ more) before =
          .ok (writer.placeholder.length, before) := by
  refine ⟨?_, ?_, ?_⟩
  · intro source output short appended
    obtain ⟨member, encoded, kept⟩ := encodeMember_of_encodeOnto appended
    refine ⟨member, kept, ?_⟩
    intro more before
    exact decodeOnto_of_decodeMember
      (decodeMember_of_encodeMember inverted understands short encoded more) before
  · have front := decodeMember_of_placeholder understands []
    rw [List.append_nil] at front
    exact List.length_pos_iff.mp (decodeMember_bounds front).1
  · intro more before
    rw [decodeOnto_of_decodeMember (decodeMember_of_placeholder understands more) before,
      List.append_nil]

/-- A gzip member with the lengths in its header is appended, and read by a reader of plain ones. -/
theorem decodeOnto_encodeOnto_lengths :
    let writer : ParameterSet := { deflateFormat := .gzipExtended }
    let reader : ParameterSet := { deflateFormat := .gzip }
    ∃ member,
      (writer.encodeOnto [1, 2] [9]).2 = 9 :: member ∧
        reader.decodeOnto (member ++ [0x1f]) [8] = .ok (member.length, [8, 1, 2]) ∧
        reader.decodeOnto (writer.placeholder ++ [0x1f]) [8] =
          .ok (writer.placeholder.length, [8]) := by
  intro writer reader
  have understands : reader.Understands writer :=
    ⟨rfl, Or.inr ⟨List.mem_cons_self, List.mem_cons_of_mem _ List.mem_cons_self⟩⟩
  obtain ⟨sources, -, nothing⟩ := decodeOnto_encodeOnto Encoders.Inverted.own understands
  have appended : (writer.encodeOnto [1, 2] [9]).1 = .ok () := by
    have fits : ∀ length ∈
        Deflate.storedLengths .gzipExtended [1, 2] (Deflate.encodeBody 1 [1, 2]),
        length < 2 ^ (32 : Nat) := by
      decide +kernel
    have encoded : writer.encodeMember .own [1, 2] = _ := encodeMember_of_deflate rfl rfl
    rw [encodeOnto_eq, encoded, Deflate.member_of_fits writer.level fits]
    rfl
  obtain ⟨member, kept, decoded⟩ := sources [1, 2] [9] (by decide) appended
  exact ⟨member, kept, decoded [0x1f] [8], nothing [0x1f] [8]⟩

end ParameterSet

/-- A few bytes are stored in one block at level zero. -/
theorem encodeMember_stored
    {source : Bytes}
    (short : source.length ≤ Deflate.longestStored) :
    ({ level := 0 } : ParameterSet).encodeMember .own source =
      .ok (Deflate.contain .gzipExtended 0 source (Deflate.storedBlockOf true source)) := by
  have body : Deflate.encodeBody 0 source = Deflate.storedBlockOf true source := by
    rw [Deflate.encodeBody, if_pos rfl, Deflate.storedBody, Deflate.storedChunks, if_pos short]
    exact List.append_nil _
  have fits : ∀ length ∈
      Deflate.storedLengths .gzipExtended source (Deflate.storedBlockOf true source),
      length < 2 ^ (32 : Nat) := by
    intro length stored
    simp only [Deflate.longestStored] at short
    rcases List.mem_cons.mp stored with rfl | stored
    · omega
    · rw [List.mem_singleton.mp stored, Deflate.length_storedBlockOf]
      omega
  have encodes : Encoders.own.deflateBody 0 source = .ok (Deflate.storedBlockOf true source) :=
    congrArg Except.ok body
  rw [ParameterSet.encodeMember_of_deflate rfl encodes, Deflate.member_of_fits 0 fits]
  rfl

end MemberStream
