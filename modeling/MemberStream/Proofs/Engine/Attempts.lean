import MemberStream.Proofs.Engine.Sessions

namespace MemberStream

/-!
# Attempts at an output buffer

Every data call of a session is an attempt at the output buffer of the stream: the
engine is content with it, or finds it too short.  A record of engine calls shows how
long the buffer was at each attempt, and so how it has grown.
-/

/-- Whether the engine found the output buffer too short. -/
def Reply.isShort
    (reply : Reply) :
    Bool :=
  match reply.result with
  | .error .insufficientBuffer =>
      true
  | _ =>
      false

/-- A refusal for any other reason says nothing of the output buffer. -/
theorem Reply.isShort_of_ne
    {error : StreamError}
    (other : error ≠ .insufficientBuffer)
    (filled : Bytes) :
    Reply.isShort ⟨.error error, filled⟩ = false := by
  unfold isShort
  split
  · rename_i same
    cases same
    exact absurd rfl other
  · rfl

/-- What a data call shows of the output buffer. -/
structure Attempt where
  /-- The length of the buffer. -/
  capacity : Nat
  /-- Whether the engine found that too short. -/
  short : Bool

namespace EngineCall

/-- Whether a call is a data call that found the output buffer too short. -/
def isShort : EngineCall → Bool
  | .compress _ _ reply | .decompress _ _ reply =>
      reply.isShort
  | _ =>
      false

/-- What a call shows of the output buffer, if it is a data call. -/
def attempt? : EngineCall → Option Attempt
  | .compress _ capacity reply | .decompress _ capacity reply =>
      some ⟨capacity, reply.isShort⟩
  | _ =>
      none

/-- The attempts of the session that the newest start has begun, newest first. -/
def attempts
    (calls : List EngineCall) :
    List Attempt :=
  (sinceStart calls).filterMap attempt?

@[simp]
theorem attempts_compress
    (input : Bytes)
    (capacity : Nat)
    (reply : Reply)
    (calls : List EngineCall) :
    attempts (.compress input capacity reply :: calls) =
      ⟨capacity, reply.isShort⟩ :: attempts calls :=
  rfl

@[simp]
theorem attempts_decompress
    (input : Bytes)
    (capacity : Nat)
    (reply : Reply)
    (calls : List EngineCall) :
    attempts (.decompress input capacity reply :: calls) =
      ⟨capacity, reply.isShort⟩ :: attempts calls :=
  rfl

@[simp]
theorem attempts_close
    (result : Except StreamError Unit)
    (calls : List EngineCall) :
    attempts (.close result :: calls) = attempts calls :=
  rfl

end EngineCall

end MemberStream
