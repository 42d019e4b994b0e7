import MemberStream.Proofs.Codec.Unpack

namespace MemberStream

/-!
# Unpacking under a limit

Member after member is decoded from the front of a stream, as long as none of them holds
more than some limit.  That stops at the end of the stream, at the first member that cannot
be decoded, or at the first one that can be, but holds more.
-/

namespace CodecError

theorem toStreamError_ne_bufferLimitExceeded
    (error : CodecError)
    (wanted limit : Nat) :
    error.toStreamError ≠ .bufferLimitExceeded wanted limit := by
  unfold toStreamError
  split <;> exact nofun

end CodecError

/-- What unpacking under a limit stops at. -/
inductive UnpackStop where
  /-- There is nothing behind the members. -/
  | ended
  /-- The next member cannot be decoded. -/
  | undecodable (error : CodecError)
  /-- The next member holds more than the limit. -/
  | beyond

/-- What a read gets behind the members, of a stream that must hold one at least. -/
inductive UnpackStop.Answers
    (upstream : Bytes)
    (limit : Nat) :
    UnpackStop →
    Except StreamError Bytes →
    Prop where
  | empty
      (nothing : upstream = []) :
      Answers upstream limit .ended (.error .emptyBuffer)
  | ended
      (some : upstream ≠ []) :
      Answers upstream limit .ended (.ok [])
  | undecodable
      (error : CodecError) :
      Answers upstream limit (.undecodable error) (.error error.toStreamError)
  | beyond
      (wanted : Nat) :
      Answers upstream limit .beyond (.error (.bufferLimitExceeded wanted limit))

/-- It is for a member beyond the limit, and for nothing else, that the limit is reported. -/
theorem UnpackStop.Answers.refused_iff
    {upstream : Bytes}
    {limit : Nat}
    {stop : UnpackStop}
    {result : Except StreamError Bytes}
    (answers : stop.Answers upstream limit result) :
    (∃ wanted ceiling, result = .error (.bufferLimitExceeded wanted ceiling)) ↔
      stop = .beyond := by
  constructor
  · rintro ⟨wanted, ceiling, rfl⟩
    generalize same : StreamError.bufferLimitExceeded wanted ceiling = refusal at answers
    cases answers with
    | empty nothing =>
        cases same
    | undecodable error =>
        exact absurd same.symm (error.toStreamError_ne_bufferLimitExceeded wanted ceiling)
    | beyond wanted =>
        rfl
  · rintro rfl
    cases answers with
    | beyond wanted =>
        exact ⟨wanted, limit, rfl⟩

theorem UnpackStop.Answers.of_ok
    {upstream bytes : Bytes}
    {limit : Nat}
    {stop : UnpackStop}
    (answers : stop.Answers upstream limit (.ok bytes)) :
    bytes = [] := by
  cases answers with
  | ended some =>
      rfl

namespace ParameterSet

/--
The contents of the members at the front of a stream, each of them within a limit, and what
unpacking stops at behind them.
-/
inductive UnpacksWithin
    (parameters : ParameterSet)
    (limit : Nat) :
    Bytes →
    Bytes →
    UnpackStop →
    Prop where
  | ended :
      UnpacksWithin parameters limit [] [] .ended
  | undecodable
      {stream : Bytes}
      {error : CodecError}
      (nonempty : stream ≠ [])
      (fails : parameters.decodeMember stream = .error error) :
      UnpacksWithin parameters limit stream [] (.undecodable error)
  | beyond
      {stream content : Bytes}
      {length : Nat}
      (decoded : parameters.decodeMember stream = .ok (length, content))
      (exceeds : limit < content.length) :
      UnpacksWithin parameters limit stream [] .beyond
  | member
      {stream content contents : Bytes}
      {length : Nat}
      {stop : UnpackStop}
      (decoded : parameters.decodeMember stream = .ok (length, content))
      (within : content.length ≤ limit)
      (behind : UnpacksWithin parameters limit (stream.drop length) contents stop) :
      UnpacksWithin parameters limit stream (content ++ contents) stop

/-- There is no content in an empty stream, and unpacking it comes to its end. -/
theorem UnpacksWithin.of_nil
    {parameters : ParameterSet}
    {limit : Nat}
    {contents : Bytes}
    {stop : UnpackStop}
    (unpacks : parameters.UnpacksWithin limit [] contents stop) :
    contents = [] ∧ stop = .ended := by
  cases unpacks with
  | ended =>
      exact ⟨rfl, rfl⟩
  | undecodable nonempty fails =>
      exact absurd rfl nonempty
  | beyond decoded exceeds | member decoded within behind =>
      obtain ⟨some, enough⟩ := decodeMember_bounds decoded
      exact absurd (Nat.le_trans some enough) (Nat.not_succ_le_zero 0)

/-- Whatever the limit is, unpacking a stream under it stops somewhere. -/
theorem exists_unpacksWithin
    (parameters : ParameterSet)
    (limit : Nat)
    (stream : Bytes) :
    ∃ contents stop, parameters.UnpacksWithin limit stream contents stop := by
  fun_induction unpack parameters stream with
  | case1 =>
      exact ⟨[], .ended, .ended⟩
  | case2 stream nonempty error fails =>
      exact ⟨[], .undecodable error, .undecodable nonempty fails⟩
  | case3 stream nonempty length content decoded _ _ _ ih =>
      by_cases within : content.length ≤ limit
      · obtain ⟨contents, stop, behind⟩ := ih
        exact ⟨content ++ contents, stop, .member decoded within behind⟩
      · exact ⟨[], .beyond, .beyond decoded (Nat.lt_of_not_le within)⟩

end ParameterSet

end MemberStream
