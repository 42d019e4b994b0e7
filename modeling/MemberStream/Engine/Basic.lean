import MemberStream.Bytes
import MemberStream.Error.Basic
import MemberStream.Parameter.Set

namespace MemberStream

/-!
# Chunk engines

A stream hands its data to an engine slice by slice.  A data call reports how
much of the input it consumed and how much output it produced; an insufficient
buffer means that nothing was consumed and that the call may be repeated with
the same input and more room.  One engine serves a stream for its whole life,
through any number of sessions.

A step may consume nothing and still produce output, but no engine goes on like
that for ever: this is the one promise an engine makes.
-/

/-- The counts that a successful data call reports. -/
structure Step where
  consumed : Nat
  produced : Nat
  deriving Repr, DecidableEq

namespace Step

/-- Whether a step reports more than it was offered. -/
def exceeds
    (step : Step)
    (available capacity : Nat) :
    Bool :=
  decide (available < step.consumed) || decide (capacity < step.produced)

/-- Whether a step neither consumed nor produced anything. -/
def isIdle
    (step : Step) :
    Bool :=
  step.consumed == 0 && step.produced == 0

/-- The fault of an engine that reports more than it was offered. -/
def overreport
    (step : Step)
    (available capacity : Nat) :
    StreamError :=
  .engineFault ("engine reported " ++ toString step.consumed ++ "/" ++ toString step.produced ++
    " bytes for " ++ toString available ++ "/" ++ toString capacity ++ " available")

end Step

/-- The answer to a data call, with what it put at the front of the output slice. -/
structure Reply where
  result : Except StreamError Step
  filled : Bytes := []

namespace Reply

/--
The first `count` bytes of the output slice after the call.  A reply that fills fewer
bytes than it counts stands for an engine that wrote zeros behind them; one that leaves
there what the slice held before has filled the slice with that.
-/
def front
    (reply : Reply)
    (count : Nat) :
    Bytes :=
  (reply.filled ++ List.replicate (count - reply.filled.length) 0).take count

/-- The front of the output slice has the requested length. -/
@[simp]
theorem length_front
    (reply : Reply)
    (count : Nat) :
    (reply.front count).length = count := by
  simp only [front, List.length_take, List.length_append, List.length_replicate]
  omega

/-- An engine that filled exactly what it reports leaves that at the front. -/
theorem front_of_length
    (reply : Reply)
    (count : Nat)
    (exact : reply.filled.length = count) :
    reply.front count = reply.filled := by
  subst exact
  simp [front]

end Reply

/-- The calls that an engine answers. -/
class EngineCalls (ε : Type) where
  start : ε → ParameterSet → Except StreamError Unit × ε
  /-- Compress from the front of the input into a slice of the given length. -/
  compress : ε → Bytes → Nat → Reply × ε
  /-- Decompress from the front of the input into a slice of the given length. -/
  decompress : ε → Bytes → Nat → Reply × ε
  /-- Mark the input of the next compress call as the end of the stream. -/
  setLast : ε → Bool → ε
  /-- Close the session; an engine without one answers that none was started. -/
  close : ε → Except StreamError Unit × ε

/--
One compress call, with or without a mark before it, took an engine from one
state to the next and produced output without consuming any input.
-/
def Stalls
    {ε : Type}
    [calls : EngineCalls ε]
    (next current : ε) :
    Prop :=
  ∃ (ready : ε) (input : Bytes) (capacity produced : Nat) (filled : Bytes),
    (ready = current ∨ ready = calls.setLast current true) ∧
    0 < produced ∧
    calls.compress ready input capacity = (⟨.ok ⟨0, produced⟩, filled⟩, next)

/-- An engine: its calls, and the promise that it does not stall for ever. -/
class Engine (ε : Type) extends EngineCalls ε where
  settles : WellFounded (Stalls (ε := ε))

end MemberStream
