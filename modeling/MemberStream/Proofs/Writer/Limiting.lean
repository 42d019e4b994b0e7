import MemberStream.Proofs.Basic
import MemberStream.Proofs.Codec.Limiting
import MemberStream.Proofs.Writer.Opening

namespace MemberStream

/-!
# Writing under a limit

A writer with a limit stops at the first piece whose member is longer than the limit, with the
members of the pieces before it in the sink, whatever its output buffer has been through.
-/

variable {encoders : Encoders}

namespace ParameterSet

/-- Whether the codec accepts a piece, and its member is within a limit. -/
def EncodesWithin
    (parameters : ParameterSet)
    (encoders : Encoders)
    (limit : Nat)
    (piece : Bytes) :
    Prop :=
  ∃ member, parameters.encodeMember encoders piece = .ok member ∧ member.length ≤ limit

/-- Some pieces are packed up to the first one whose member is longer than a limit. -/
inductive PacksBefore
    (parameters : ParameterSet)
    (encoders : Encoders)
    (limit : Nat)
    (pieces : List Bytes)
    (stream : Bytes) :
    Prop where
  | here
      {done rest : List Bytes}
      {piece member : Bytes}
      (parts : pieces = done ++ piece :: rest)
      (packs : parameters.PacksWithin encoders done stream)
      (encoded : parameters.encodeMember encoders piece = .ok member)
      (exceeds : limit < member.length)

variable {parameters : ParameterSet} {limit : Nat} {pieces : List Bytes}

/-- A member that is longer than the limit is not within it. -/
theorem not_encodesWithin
    {piece member : Bytes}
    (encoded : parameters.encodeMember encoders piece = .ok member)
    (exceeds : limit < member.length) :
    ¬ parameters.EncodesWithin encoders limit piece := by
  rintro ⟨again, same, within⟩
  rw [encoded] at same
  cases same
  exact absurd within (Nat.not_le_of_lt exceeds)

/-- A piece that is rejected under a limit has no member within it. -/
theorem Rejects.not_encodesWithin
    {piece : Bytes}
    {error : StreamError}
    (rejects : parameters.Rejects encoders piece error)
    (ceiling : parameters.ceiling = limit) :
    ¬ parameters.EncodesWithin encoders limit piece := by
  cases rejects with
  | codec fails =>
      rintro ⟨member, encoded, -⟩
      rw [fails] at encoded
      cases encoded
  | room encoded exceeds =>
      rw [ceiling] at exceeds
      exact ParameterSet.not_encodesWithin encoded exceeds

/-- Pieces that are packed under a limit have members within it. -/
theorem PacksWithin.encodesWithin
    {stream : Bytes}
    (packs : parameters.PacksWithin encoders pieces stream)
    (limited : parameters.maxBufferLength = some limit) :
    ∀ piece ∈ pieces, parameters.EncodesWithin encoders limit piece := by
  intro piece inside
  obtain ⟨done, rest, rfl⟩ := List.append_of_mem inside
  obtain ⟨front, back, -, -, packsBehind⟩ := packs_append.mp packs.packs
  cases packsBehind with
  | @cons _ member _ _ encoded packsRest =>
      exact ⟨member, encoded, packs.within piece inside member limit encoded limited⟩

/-- There is a member that is too long if pieces are packed up to one. -/
theorem PacksBefore.exists_exceeds
    {stream : Bytes}
    (before : parameters.PacksBefore encoders limit pieces stream) :
    ∃ piece ∈ pieces, ∃ member,
      parameters.encodeMember encoders piece = .ok member ∧ limit < member.length := by
  cases before with
  | @here done rest piece member parts packs encoded exceeds =>
      rw [parts]
      exact ⟨piece, List.mem_append_right done List.mem_cons_self, member, encoded, exceeds⟩

/-- If all members are within the limit, none is too long. -/
theorem not_exceeds_of_encodesWithin
    (within : ∀ piece ∈ pieces, parameters.EncodesWithin encoders limit piece) :
    ¬ ∃ piece ∈ pieces, ∃ member,
      parameters.encodeMember encoders piece = .ok member ∧ limit < member.length := by
  rintro ⟨piece, inside, member, encoded, exceeds⟩
  exact not_encodesWithin encoded exceeds (within piece inside)

/-- Pieces are packed up to the one that is rejected, and up to no other. -/
theorem PacksBefore.eq_of_rejects
    {done rest : List Bytes}
    {piece stream other : Bytes}
    {error : StreamError}
    (before : parameters.PacksBefore encoders limit (done ++ piece :: rest) other)
    (limited : parameters.maxBufferLength = some limit)
    (ceiling : parameters.ceiling = limit)
    (packs : parameters.PacksWithin encoders done stream)
    (rejects : parameters.Rejects encoders piece error) :
    other = stream ∧ ∃ member, parameters.encodeMember encoders piece = .ok member := by
  cases before with
  | @here _ _ _ member parts packsOther encoded exceeds =>
      obtain ⟨rfl, rfl⟩ := eq_of_first parts (packs.encodesWithin limited)
        (packsOther.encodesWithin limited) (rejects.not_encodesWithin ceiling)
        (not_encodesWithin encoded exceeds)
      exact ⟨packs_unique packsOther.packs packs.packs, member, encoded⟩

end ParameterSet

namespace Writer

variable {σ α : Type}

/-- What packing some pieces comes to under a limit. -/
structure PacksUpTo
    (parameters : ParameterSet)
    (limit : Nat)
    (received : Bytes)
    (pieces : List Bytes)
    (value : α)
    (result : Except StreamError α)
    (last : Writer (RecordedSink σ) (MemberEngine encoders)) :
    Prop where
  /-- It stops at the first piece whose member is too long, with those before it in the sink. -/
  refused :
    ∀ stream,
      parameters.PacksBefore encoders limit pieces stream →
        (∃ wanted, result = .error (.bufferLimitExceeded wanted limit)) ∧
          last.sink.received = received ++ stream
  refused_iff :
    (∃ wanted ceiling, result = .error (.bufferLimitExceeded wanted ceiling)) ↔
      ∃ stream, parameters.PacksBefore encoders limit pieces stream
  /-- If the codec accepts all pieces, it comes down to the lengths of their members. -/
  encoded :
    (∀ piece ∈ pieces, ∃ member, parameters.encodeMember encoders piece = .ok member) →
      ((∃ wanted ceiling, result = .error (.bufferLimitExceeded wanted ceiling)) ↔
          ∃ piece ∈ pieces, ∃ member,
            parameters.encodeMember encoders piece = .ok member ∧ limit < member.length) ∧
        ((∀ piece ∈ pieces, parameters.EncodesWithin encoders limit piece) → result = .ok value)

variable {parameters : ParameterSet} {limit : Nat} {received : Bytes} {pieces : List Bytes}
  {value : α}

/-- Packing that succeeds has met no member that is too long. -/
theorem packsUpTo_of_packed
    {stream : Bytes}
    {last : Writer (RecordedSink σ) (MemberEngine encoders)}
    (packs : parameters.PacksWithin encoders pieces stream)
    (limited : parameters.maxBufferLength = some limit) :
    PacksUpTo parameters limit received pieces value (.ok value) last := by
  have none := ParameterSet.not_exceeds_of_encodesWithin (packs.encodesWithin limited)
  refine ⟨?_, ?_, fun _ => ⟨⟨nofun, fun exceeds => absurd exceeds none⟩, fun _ => rfl⟩⟩
  · intro other before
    exact absurd before.exists_exceeds none
  · exact ⟨nofun, fun ⟨_, before⟩ => absurd before.exists_exceeds none⟩

/-- Packing that stops has met a piece that the codec refuses, or a member that is too long. -/
theorem packsUpTo_of_stops
    {error : StreamError}
    {failed : Writer (RecordedSink σ) (MemberEngine encoders)}
    (stops : Stops parameters received pieces error failed)
    (limited : parameters.maxBufferLength = some limit)
    (ceiling : parameters.ceiling = limit) :
    PacksUpTo parameters limit received pieces value (.error error) failed := by
  cases stops with
  | @here done rest piece stream parts packs rejects arrived =>
      subst parts
      have inside : piece ∈ done ++ piece :: rest :=
        List.mem_append_right done List.mem_cons_self
      have only {other : Bytes}
          (before : parameters.PacksBefore encoders limit (done ++ piece :: rest) other) :=
        before.eq_of_rejects limited ceiling packs rejects
      cases rejects with
      | @codec error fails =>
          have never : ¬ ∃ member, parameters.encodeMember encoders piece = .ok member := by
            rintro ⟨member, encoded⟩
            rw [fails] at encoded
            cases encoded
          refine ⟨fun other before => absurd (only before).2 never, ⟨?_, ?_⟩,
            fun encodes => absurd (encodes piece inside) never⟩
          · rintro ⟨wanted, most, same⟩
            exact absurd (Except.error.inj same)
              (error.toStreamError_ne_bufferLimitExceeded wanted most)
          · rintro ⟨other, before⟩
            exact absurd (only before).2 never
      | @room member wanted encoded exceeds =>
          rw [ceiling] at exceeds ⊢
          have before : parameters.PacksBefore encoders limit (done ++ piece :: rest) stream :=
            .here rfl packs encoded exceeds
          refine ⟨?_, ⟨fun _ => ⟨stream, before⟩, fun _ => ⟨wanted, limit, rfl⟩⟩, ?_⟩
          · intro other again
            rw [(only again).1]
            exact ⟨⟨wanted, rfl⟩, arrived⟩
          · intro _
            refine ⟨⟨fun _ => before.exists_exceeds, fun _ => ⟨wanted, limit, rfl⟩⟩, ?_⟩
            intro within
            exact absurd before.exists_exceeds
              (ParameterSet.not_exceeds_of_encodesWithin within)

/-- A writer at the start of a session packs what is written, up to the limit. -/
theorem packsUpTo_of_opened
    [Sink σ]
    {writer : Writer (RecordedSink σ) (MemberEngine encoders)}
    (opened : writer.Opened parameters)
    (accepts : Sink.Accepts writer.sink)
    (limited : parameters.maxBufferLength = some limit)
    (word : limit ≤ maxLength)
    (buffers : List Bytes) :
    PacksUpTo parameters limit writer.sink.received (parameters.segments [] buffers)
      (buffers.map List.length) (writer.writeThenClose buffers).1
      (writer.writeThenClose buffers).2 := by
  have yields := ended_of_prepared (prepared_of_opened opened accepts) buffers
  rw [List.append_nil] at yields
  generalize writer.writeThenClose buffers = outcome at yields ⊢
  cases yields with
  | packed packs ended =>
      exact packsUpTo_of_packed packs limited
  | stopped stops =>
      exact packsUpTo_of_stops stops limited (ParameterSet.ceiling_of_limited limited word)

end Writer

end MemberStream
