import MemberStream.Engine.Member
import MemberStream.Proofs.Codec.RoundTrip
import MemberStream.Proofs.Engine.Member
import MemberStream.Stream.Writer
import MemberStream.Transport.Recorded

namespace MemberStream

/-!
# What packing comes to

A writer on a member engine packs pieces one after the other.  Either all of
them are packed, or it stops at the first one that the codec refuses or whose
member is longer than an output buffer may become; what came before that piece
is in the sink.  Which of both happens depends on the pieces and the parameters,
and not on how the output buffer grew on the way.
-/

variable {encoders : Encoders}

namespace ParameterSet

/-- Pieces that are packed as members no longer than the ceiling of the parameters. -/
structure PacksWithin
    (parameters : ParameterSet)
    (encoders : Encoders)
    (pieces : List Bytes)
    (stream : Bytes) :
    Prop where
  packs : parameters.Packs encoders pieces stream
  within :
    ∀ piece ∈ pieces, ∀ member limit,
      parameters.encodeMember encoders piece = .ok member →
        parameters.maxBufferLength = some limit →
          member.length ≤ limit

/-- Nothing is packed as nothing. -/
theorem packsWithin_nil
    (parameters : ParameterSet) :
    parameters.PacksWithin encoders [] [] where
  packs :=
    .nil
  within := by
    intro piece member
    cases member

/-- A piece is packed as its member. -/
theorem packsWithin_single
    {parameters : ParameterSet}
    {piece member : Bytes}
    (encoded : parameters.encodeMember encoders piece = .ok member)
    (within : ∀ limit, parameters.maxBufferLength = some limit → member.length ≤ limit) :
    parameters.PacksWithin encoders [piece] member where
  packs := by
    have packs := Packs.cons encoded .nil
    rwa [List.append_nil] at packs
  within := by
    intro other inside given limit same
    rw [List.mem_singleton.mp inside, encoded] at same
    cases same
    exact within limit

/-- Pieces in two groups are packed one group behind the other. -/
theorem PacksWithin.append
    {parameters : ParameterSet}
    {first second : List Bytes}
    {front back : Bytes}
    (packsFirst : parameters.PacksWithin encoders first front)
    (packsSecond : parameters.PacksWithin encoders second back) :
    parameters.PacksWithin encoders (first ++ second) (front ++ back) where
  packs :=
    packs_append.mpr ⟨front, back, rfl, packsFirst.packs, packsSecond.packs⟩
  within := by
    intro piece inside
    rcases List.mem_append.mp inside with inside | inside
    · exact packsFirst.within piece inside
    · exact packsSecond.within piece inside

/-- Why a piece cannot be packed. -/
inductive Rejects
    (parameters : ParameterSet)
    (encoders : Encoders)
    (piece : Bytes) :
    StreamError →
    Prop where
  /-- The codec refuses it. -/
  | codec
      {error : CodecError}
      (fails : parameters.encodeMember encoders piece = .error error) :
      Rejects parameters encoders piece error.toStreamError
  /-- Its member is longer than the output buffer may become. -/
  | room
      {member : Bytes}
      {wanted : Nat}
      (encoded : parameters.encodeMember encoders piece = .ok member)
      (beyond : parameters.ceiling < member.length) :
      Rejects parameters encoders piece (.bufferLimitExceeded wanted parameters.ceiling)

/-- Whether there can be room for the member of every piece. -/
def FitsEach
    (parameters : ParameterSet)
    (encoders : Encoders)
    (pieces : List Bytes) :
    Prop :=
  ∀ piece ∈ pieces, ∀ member,
    parameters.encodeMember encoders piece = .ok member →
      member.length ≤ parameters.ceiling

/-- Under no ceiling there can be room for all members of a short stream. -/
theorem fitsEach_of_short
    {parameters : ParameterSet}
    {pieces : List Bytes}
    {stream : Bytes}
    (packs : parameters.Packs encoders pieces stream)
    (unlimited : parameters.maxBufferLength = none)
    (short : stream.length ≤ maxLength) :
    parameters.FitsEach encoders pieces := by
  have ceiling : parameters.ceiling = maxLength := by
    rw [ParameterSet.ceiling, unlimited, Option.getD_none, Nat.min_self]
  induction packs with
  | nil =>
      intro piece inside
      cases inside
  | @cons piece member stream pieces encoded packs ih =>
      rw [List.length_append] at short
      intro other inside given same
      rcases List.mem_cons.mp inside with rfl | inside
      · rw [encoded] at same
        cases same
        omega
      · exact ih (by omega) other inside given same

/-- No piece is rejected that has a member for which there can be room. -/
theorem Packs.not_rejects
    {parameters : ParameterSet}
    {done rest : List Bytes}
    {piece stream : Bytes}
    {error : StreamError}
    (packs : parameters.Packs encoders (done ++ piece :: rest) stream)
    (fits : parameters.FitsEach encoders (done ++ piece :: rest)) :
    ¬ parameters.Rejects encoders piece error := by
  obtain ⟨front, back, rfl, -, packs⟩ := packs_append.mp packs
  cases packs with
  | cons encoded packs =>
      intro rejects
      cases rejects with
      | codec fails =>
          rw [encoded] at fails
          cases fails
      | room again beyond =>
          have inside := List.mem_append_right done (List.mem_cons_self : piece ∈ piece :: rest)
          exact absurd beyond (Nat.not_lt_of_le (fits piece inside _ again))

end ParameterSet

namespace Writer

variable {σ α : Type}

/-- A writer that has stopped at a piece that is rejected, with those before it in the sink. -/
inductive Stops
    (parameters : ParameterSet)
    (received : Bytes)
    (pieces : List Bytes)
    (error : StreamError)
    (failed : Writer (RecordedSink σ) (MemberEngine encoders)) :
    Prop where
  | here
      {done rest : List Bytes}
      {piece stream : Bytes}
      (parts : pieces = done ++ piece :: rest)
      (packs : parameters.PacksWithin encoders done stream)
      (rejects : parameters.Rejects encoders piece error)
      (arrived : failed.sink.received = received ++ stream)

namespace Stops

variable {parameters : ParameterSet} {received : Bytes} {pieces : List Bytes} {error : StreamError}
  {failed : Writer (RecordedSink σ) (MemberEngine encoders)}

theorem moved
    {last : Writer (RecordedSink σ) (MemberEngine encoders)}
    (stops : Stops parameters received pieces error failed)
    (same : last.sink.received = failed.sink.received) :
    Stops parameters received pieces error last := by
  cases stops with
  | here parts packs rejects arrived =>
      exact .here parts packs rejects (same.trans arrived)

/-- What comes behind a piece that is rejected does not matter. -/
theorem append
    (stops : Stops parameters received pieces error failed)
    (more : List Bytes) :
    Stops parameters received (pieces ++ more) error failed := by
  cases stops with
  | @here done rest piece stream parts packs rejects arrived =>
      have whole : pieces ++ more = done ++ piece :: (rest ++ more) := by
        rw [parts, List.append_assoc, List.cons_append]
      exact .here whole packs rejects arrived

/-- What has been packed before is in the sink, too. -/
theorem behind
    {first : List Bytes}
    {front : Bytes}
    (packs : parameters.PacksWithin encoders first front)
    (stops : Stops parameters (received ++ front) pieces error failed) :
    Stops parameters received (first ++ pieces) error failed := by
  cases stops with
  | @here done rest piece stream parts packsDone rejects arrived =>
      have whole : first ++ pieces = first ++ done ++ piece :: rest := by
        rw [parts, List.append_assoc]
      refine .here whole (packs.append packsDone) rejects ?_
      rw [arrived, List.append_assoc]

end Stops

/--
What packing some pieces comes to: the given value with all of them packed, or the
error of the first piece that is rejected.
-/
inductive Yields
    (parameters : ParameterSet)
    (received : Bytes)
    (pieces : List Bytes)
    (value : α)
    (after : Bytes → Writer (RecordedSink σ) (MemberEngine encoders) → Prop) :
    Except StreamError α × Writer (RecordedSink σ) (MemberEngine encoders) →
    Prop where
  | packed
      {stream : Bytes}
      {next : Writer (RecordedSink σ) (MemberEngine encoders)}
      (packs : parameters.PacksWithin encoders pieces stream)
      (holds : after stream next) :
      Yields parameters received pieces value after (.ok value, next)
  | stopped
      {error : StreamError}
      {failed : Writer (RecordedSink σ) (MemberEngine encoders)}
      (stops : Stops parameters received pieces error failed) :
      Yields parameters received pieces value after (.error error, failed)

namespace Yields

variable {parameters : ParameterSet} {received : Bytes} {first second : List Bytes}
  {value : α} {after : Bytes → Writer (RecordedSink σ) (MemberEngine encoders) → Prop}
  {outcome : Except StreamError α × Writer (RecordedSink σ) (MemberEngine encoders)}

/-- What comes behind packed pieces is what comes of both. -/
theorem behind
    {front : Bytes}
    (packs : parameters.PacksWithin encoders first front)
    (yields :
      Yields parameters (received ++ front) second value
        (fun stream next => after (front ++ stream) next) outcome) :
    Yields parameters received (first ++ second) value after outcome := by
  cases yields with
  | packed packsSecond holds =>
      exact .packed (packs.append packsSecond) holds
  | stopped stops =>
      exact .stopped (stops.behind packs)

theorem of_ok
    {given : α}
    {next : Writer (RecordedSink σ) (MemberEngine encoders)}
    (yields : Yields parameters received first value after (.ok given, next)) :
    given = value ∧ ∃ stream, parameters.PacksWithin encoders first stream ∧ after stream next := by
  cases yields with
  | packed packs holds =>
      exact ⟨rfl, _, packs, holds⟩

/-- Pieces that have members for which there can be room are packed. -/
theorem of_packs
    {stream : Bytes}
    (yields : Yields parameters received first value after outcome)
    (packs : parameters.Packs encoders first stream)
    (fits : parameters.FitsEach encoders first) :
    ∃ next, outcome = (.ok value, next) ∧ after stream next := by
  cases yields with
  | packed packsWithin holds =>
      rw [ParameterSet.packs_unique packsWithin.packs packs] at holds
      exact ⟨_, rfl, holds⟩
  | stopped stops =>
      cases stops with
      | here parts packsDone rejects arrived =>
          rw [parts] at packs fits
          exact absurd rejects (packs.not_rejects fits)

end Yields

end Writer

end MemberStream
