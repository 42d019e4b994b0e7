import MemberStream.Codec.Member
import MemberStream.Proofs.Basic
import MemberStream.Proofs.Deflate.Delimiting
import MemberStream.Proofs.Lz4.Delimiting
import MemberStream.Proofs.Zstd.Delimiting

namespace MemberStream

/-!
# Unpacking streams

What a stream holds is found by decoding member after member from its front,
until it is used up or a member fails.  `answers` says what reads of given sizes
get of that: the content in order, and behind it the failure, or nothing if
there is none.
-/

namespace ParameterSet

/-- A member takes up an octet at least, and no more than there are. -/
theorem decodeMember_bounds
    {parameters : ParameterSet}
    {input content : Bytes}
    {length : Nat}
    (decoded : parameters.decodeMember input = .ok (length, content)) :
    1 ≤ length ∧ length ≤ input.length := by
  have front := ok_of_mapError decoded
  split at front
  · exact Deflate.decodeMember_bounds front
  · exact Lz4.decodeMember_bounds front
  · exact Zstd.decodeMember_bounds front

/-- The contents of the members of a stream up to its end, or up to the member that fails. -/
def unpack
    (parameters : ParameterSet)
    (stream : Bytes) :
    Bytes × Option CodecError :=
  if stream = [] then
    ([], none)
  else
    match _front : parameters.decodeMember stream with
    | .error error =>
        ([], some error)
    | .ok (length, content) =>
        let (contents, ending) := parameters.unpack (stream.drop length)
        (content ++ contents, ending)
termination_by stream.length
decreasing_by
  have bounds := decodeMember_bounds _front
  rw [List.length_drop]
  omega

theorem unpack_nil
    (parameters : ParameterSet) :
    parameters.unpack [] = ([], none) := by
  rw [unpack, if_pos rfl]

/-- A stream ends where its first member fails. -/
theorem unpack_error
    {parameters : ParameterSet}
    {stream : Bytes}
    {error : CodecError}
    (nonempty : stream ≠ [])
    (front : parameters.decodeMember stream = .error error) :
    parameters.unpack stream = ([], some error) := by
  rw [unpack, if_neg nonempty]
  split
  · rename_i cause same
    rw [front] at same
    cases same
    rfl
  · rename_i same
    rw [front] at same
    cases same

/-- What a stream holds is the content of its first member and what is behind it. -/
theorem unpack_ok
    {parameters : ParameterSet}
    {stream content : Bytes}
    {length : Nat}
    (nonempty : stream ≠ [])
    (front : parameters.decodeMember stream = .ok (length, content)) :
    parameters.unpack stream =
      (content ++ (parameters.unpack (stream.drop length)).1,
        (parameters.unpack (stream.drop length)).2) := by
  rw [unpack, if_neg nonempty]
  split
  · rename_i cause same
    rw [front] at same
    cases same
  · rename_i same
    rw [front] at same
    cases same
    rfl

/-- What reading a whole stream comes to; there is always a member in a stream. -/
def unpackStream
    (parameters : ParameterSet)
    (stream : Bytes) :
    Bytes × Option StreamError :=
  if stream = [] then
    ([], some .emptyBuffer)
  else
    ((parameters.unpack stream).1, (parameters.unpack stream).2.map CodecError.toStreamError)

end ParameterSet

/-- The answer to a read of some size from some content and the failure behind it. -/
def answer
    (contents : Bytes)
    (ending : Option StreamError)
    (size : Nat) :
    Except StreamError Bytes :=
  match contents, ending with
  | [], some error =>
      .error error
  | _, _ =>
      .ok (contents.take size)

/-- The answers to reads of some sizes, one after the other. -/
def answers
    (contents : Bytes)
    (ending : Option StreamError) :
    List Nat →
    List (Except StreamError Bytes)
  | [] =>
      []
  | size :: sizes =>
      answer contents ending size :: answers (contents.drop size) ending sizes

/-- As long as there is content, or no failure behind it, a read gets content. -/
theorem answer_of_content
    {contents : Bytes}
    {ending : Option StreamError}
    (size : Nat)
    (some : contents ≠ [] ∨ ending = none) :
    answer contents ending size = .ok (contents.take size) := by
  unfold answer
  split
  · simp at some
  · rfl

/-- The bytes that some reads delivered, in order. -/
def deliveredBy
    (results : List (Except StreamError Bytes)) :
    Bytes :=
  results.flatMap fun result =>
    match result with
    | .ok bytes =>
        bytes
    | .error _ =>
        []

/-- Behind all content every read gets the same answer. -/
theorem answer_nil
    (ending : Option StreamError)
    (size : Nat) :
    answer [] ending size =
      match ending with
      | some error => .error error
      | none => .ok [] := by
  cases ending with
  | some error =>
      rfl
  | none =>
      rw [answer_of_content size (Or.inr rfl), List.take_nil]

/-- Behind all content all reads get the same answer. -/
theorem answers_nil
    (ending : Option StreamError)
    (sizes : List Nat) :
    answers [] ending sizes =
      List.replicate sizes.length
        (match ending with
          | some error => .error error
          | none => .ok []) := by
  induction sizes with
  | nil =>
      rfl
  | cons size sizes ih =>
      rw [answers, List.drop_nil, ih, answer_nil]
      rfl

/-- What reads deliver in total is the front of the content. -/
theorem deliveredBy_answers
    (contents : Bytes)
    (ending : Option StreamError)
    (sizes : List Nat) :
    deliveredBy (answers contents ending sizes) = contents.take sizes.sum := by
  induction sizes generalizing contents with
  | nil =>
      rw [List.sum_nil, List.take_zero]
      rfl
  | cons size sizes ih =>
      have first :
          (match answer contents ending size with
            | .ok bytes => bytes
            | .error _ => []) = contents.take size := by
        cases contents with
        | nil =>
            rw [answer_nil, List.take_nil]
            cases ending with
            | none =>
                rfl
            | some error =>
                rfl
        | cons byte contents =>
            rw [answer_of_content size (Or.inl (List.cons_ne_nil _ _))]
      rw [answers, deliveredBy, List.flatMap_cons, List.sum_cons, List.take_add, first]
      exact congrArg (contents.take size ++ ·) (ih (contents.drop size))

end MemberStream
