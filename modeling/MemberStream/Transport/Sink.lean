import MemberStream.Bytes
import MemberStream.Error.Basic

namespace MemberStream

/-!
# Sinks

A sink takes bytes a few at a time.  A write that takes nothing means that the
sink has stopped accepting; an interrupted write is tried again, and no sink
interrupts for ever.  `Sink.writeAll` puts a whole string into a sink or tells
why that failed.
-/

/-- The calls that a sink answers. -/
class SinkCalls (σ : Type) where
  /-- Take some bytes from the front and tell how many. -/
  write : σ → Bytes → Except TransportError Nat × σ
  flush : σ → Except TransportError Unit × σ

/-- An interrupted write took a sink from one state to the next. -/
def Interrupts
    {σ : Type}
    [calls : SinkCalls σ]
    (next current : σ) :
    Prop :=
  ∃ (bytes : Bytes) (error : TransportError),
    error.kind = .interrupted ∧ calls.write current bytes = (.error error, next)

/-- A sink takes no more than it is offered and stops interrupting at some point. -/
class Sink (σ : Type) extends SinkCalls σ where
  accepted_le :
    ∀ (sink next : σ) (bytes : Bytes) (count : Nat),
      write sink bytes = (.ok count, next) → count ≤ bytes.length
  settles : WellFounded (Interrupts (σ := σ))

namespace Sink

/-- The failure of a sink that took nothing although bytes were left. -/
def exhausted : TransportError :=
  .worded .writeZero "failed to write whole buffer"

/-- Write a whole string, through partial and interrupted writes. -/
def writeAll
    {σ : Type}
    [operations : Sink σ]
    (sink : σ)
    (bytes : Bytes) :
    Except TransportError Unit × σ :=
  match bytes with
  | [] =>
      (.ok (), sink)
  | byte :: rest =>
      match _answer : SinkCalls.write sink (byte :: rest) with
      | (.ok 0, next) =>
          (.error exhausted, next)
      | (.ok (count + 1), next) =>
          writeAll next (rest.drop count)
      | (.error error, next) =>
          if _interrupted : error.kind = .interrupted then
            writeAll next (byte :: rest)
          else
            (.error error, next)
termination_by (bytes.length, operations.settles.wrap sink)
decreasing_by
  · apply Prod.Lex.left
    simp only [List.length_drop, List.length_cons]
    omega
  · apply Prod.Lex.right
    exact ⟨byte :: rest, error, _interrupted, _answer⟩

end Sink

/--
The stream error of a failed sink call: a sink that stopped accepting bytes is
a short write.
-/
def StreamError.ofSink
    (error : TransportError) :
    StreamError :=
  if error.kind = .writeZero then
    .shortWrite
  else
    .ofTransport error

end MemberStream
