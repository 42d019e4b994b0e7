import MemberStream.Engine.Recorded
import MemberStream.Stream.Writer
import MemberStream.Transport.Recorded

namespace MemberStream

/-!
# Sessions of a writer

A session of a writer is a sequence of calls between two resets.  It starts from
a fresh writer: one that has just been built, or whose reset has just succeeded.
An observed writer works on a recorded sink and a recorded engine, which answer
as those inside them do.
-/

/-- A call on a writer within a session. -/
inductive WriterCall
  | writeChunk (bytes : Bytes)
  /-- Write through the byte-stream interface. -/
  | write (bytes : Bytes)
  /-- Flush through the byte-stream interface. -/
  | flush
  | close
  deriving Repr, DecidableEq

/-- What a call on a writer came to. -/
inductive WriterAnswer
  | chunkWritten (result : Except StreamError Nat)
  | written (result : Except TransportError Nat)
  | flushed (result : Except TransportError Unit)
  | closed (result : Except StreamError Unit)

namespace WriterCall

/-- The buffer that a call hands to the writer. -/
def buffer : WriterCall → Bytes
  | .writeChunk bytes | .write bytes =>
      bytes
  | .flush | .close =>
      []

end WriterCall

namespace WriterAnswer

/-- How many bytes the writer took, if the call was a write and succeeded. -/
def taken? : WriterAnswer → Option Nat
  | .chunkWritten (.ok count) | .written (.ok count) =>
      some count
  | _ =>
      none

end WriterAnswer

/-- The calls of a session with their answers, in order. -/
abbrev WriterHistory := List (WriterCall × WriterAnswer)

namespace WriterHistory

/-- All buffers handed to the writer. -/
def handed
    (history : WriterHistory) :
    Bytes :=
  history.flatMap (fun entry => entry.1.buffer)

/-- The buffers that the writer accepted. -/
def accepted
    (history : WriterHistory) :
    Bytes :=
  history.flatMap (fun entry => if entry.2.taken?.isSome then entry.1.buffer else [])

end WriterHistory

namespace Writer

variable {σ ε : Type}

/-- Carry out one call. -/
def perform
    [Sink σ]
    [Engine ε]
    (writer : Writer σ ε) :
    WriterCall →
    WriterAnswer × Writer σ ε
  | .writeChunk bytes =>
      let (result, next) := writer.writeChunk bytes
      (.chunkWritten result, next)
  | .write bytes =>
      let (result, next) := writer.write bytes
      (.written result, next)
  | .flush =>
      let (result, next) := writer.flush
      (.flushed result, next)
  | .close =>
      let (result, next) := writer.close
      (.closed result, next)

/-- Carry out the calls of a session in order. -/
def run
    [Sink σ]
    [Engine ε]
    (writer : Writer σ ε) :
    List WriterCall →
    WriterHistory × Writer σ ε
  | [] =>
      ([], writer)
  | call :: rest =>
      let (answer, next) := writer.perform call
      let (history, last) := next.run rest
      ((call, answer) :: history, last)

/-- The same writer on a recorded sink and a recorded engine. -/
def observed
    (writer : Writer σ ε) :
    Writer (RecordedSink σ) (RecordedEngine ε) :=
  { writer with
    sink := { sink := writer.sink }
    engine := { engine := writer.engine } }

/-- A writer at the start of a session. -/
structure IsFresh
    (writer : Writer σ ε) :
    Prop where
  unclosed : writer.phase ≠ .closed
  held : writer.held = []
  counters : writer.counters = {}
  crc : writer.crc = .empty
  wroteOutput : writer.wroteOutput = false

/-- A writer is fresh when it has been built, whatever options are applied to it. -/
theorem isFresh_of_built
    (sink : σ)
    (engine : ε)
    (overrides : Overrides)
    (staged : ParameterSet) :
    IsFresh ({ sink, engine, overrides, staged } : Writer σ ε) where
  unclosed := by
    simp
  held := rfl
  counters := rfl
  crc := rfl
  wroteOutput := rfl

/-- A session that starts makes the writer fresh. -/
theorem isFresh_of_startSession
    [EngineCalls ε]
    {writer started : Writer σ ε}
    {scope : Scope}
    (starts : writer.startSession scope = (.ok (), started)) :
    started.IsFresh := by
  unfold startSession at starts
  dsimp only at starts
  split at starts
  · cases starts
  · cases starts
    exact ⟨by simp [report], rfl, rfl, rfl, rfl⟩

/-- A writer is fresh when a reset has succeeded. -/
theorem isFresh_of_reset
    [Sink σ]
    [Engine ε]
    {writer renewed : Writer σ ε}
    {sink previous : σ}
    (resets : writer.reset sink = (.ok previous, renewed)) :
    renewed.IsFresh := by
  unfold reset at resets
  dsimp only at resets
  split at resets
  · rename_i started starts
    cases resets
    obtain ⟨unclosed, held, counters, crc, wroteOutput⟩ := isFresh_of_startSession starts
    exact ⟨unclosed, held, counters, crc, wroteOutput⟩
  · cases resets

end Writer

end MemberStream
