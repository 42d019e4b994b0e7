import MemberStream.Transport.Sink
import MemberStream.Transport.Source

namespace MemberStream

/-!
# Recorded sinks and sources

A recorded sink answers as the sink inside it and keeps what that sink took; a
recorded source keeps every read with its answer, newest first.
-/

/-- A sink together with the bytes it took, newest chunk first, and its flush calls. -/
structure RecordedSink (σ : Type) where
  sink : σ
  chunks : List Bytes := []
  flushes : Nat := 0

namespace RecordedSink

/-- Everything a sink took, in order. -/
def received
    {σ : Type}
    (recorded : RecordedSink σ) :
    Bytes :=
  recorded.chunks.reverse.flatten

/-- Each call goes to the sink inside; accepted bytes and flush calls are recorded. -/
instance {σ : Type} [inner : SinkCalls σ] : SinkCalls (RecordedSink σ) where
  write recorded bytes :=
    match inner.write recorded.sink bytes with
    | (.ok count, sink) =>
        (.ok count, { recorded with sink := sink, chunks := bytes.take count :: recorded.chunks })
    | (.error error, sink) =>
        (.error error, { recorded with sink := sink })
  flush recorded :=
    let (result, sink) := inner.flush recorded.sink
    (result, { recorded with sink := sink, flushes := recorded.flushes + 1 })

/-- A recorded sink is interrupted only when the sink inside it is. -/
theorem interrupts_sink
    {σ : Type}
    [SinkCalls σ]
    {next current : RecordedSink σ}
    (interrupted : Interrupts next current) :
    Interrupts next.sink current.sink := by
  obtain ⟨bytes, error, kind, answer⟩ := interrupted
  refine ⟨bytes, error, kind, ?_⟩
  simp only [SinkCalls.write] at answer
  split at answer
  · cases answer
  · rename_i inner
    cases answer
    exact inner

instance {σ : Type} [inner : Sink σ] : Sink (RecordedSink σ) where
  accepted_le recorded next bytes count answer := by
    simp only [SinkCalls.write] at answer
    split at answer
    · rename_i accepted
      cases answer
      exact inner.accepted_le _ _ _ _ accepted
    · cases answer
  settles :=
    Subrelation.wf interrupts_sink (InvImage.wf sink inner.settles)

end RecordedSink

/-- One read and its answer. -/
structure SourceRead where
  capacity : Nat
  answer : Except TransportError Bytes

namespace SourceRead

/-- The bytes that a read brought. -/
def bytes
    (read : SourceRead) :
    Bytes :=
  match read.answer with
  | .ok bytes =>
      bytes
  | .error _ =>
      []

/-- Whether a read came to the end of the source. -/
def ends
    (read : SourceRead) :
    Bool :=
  match read.answer with
  | .ok bytes =>
      bytes.isEmpty
  | .error _ =>
      false

end SourceRead

/-- A source together with the reads from it, newest first. -/
structure RecordedSource (σ : Type) where
  source : σ
  reads : List SourceRead := []

namespace RecordedSource

/-- Everything a source handed out before it first came to its end, in order. -/
def upstream
    {σ : Type}
    (recorded : RecordedSource σ) :
    Bytes :=
  (recorded.reads.reverse.takeWhile (fun read => !read.ends)).flatMap SourceRead.bytes

/-- Each read goes to the source inside and is recorded with its answer. -/
instance {σ : Type} [inner : SourceCalls σ] : SourceCalls (RecordedSource σ) where
  read recorded capacity :=
    let (answer, source) := inner.read recorded.source capacity
    (answer, ⟨source, ⟨capacity, answer⟩ :: recorded.reads⟩)

/-- A recorded source goes on only when the source inside it does. -/
theorem continues_source
    {σ : Type}
    [SourceCalls σ]
    {next current : RecordedSource σ}
    (continued : Continues next current) :
    Continues next.source current.source := by
  obtain ⟨capacity, ⟨bytes, more, answer⟩ | ⟨error, kind, answer⟩⟩ := continued
  · cases inner : SourceCalls.read current.source capacity with
    | mk result source =>
        simp only [SourceCalls.read, inner, Prod.mk.injEq] at answer
        obtain ⟨rfl, rfl⟩ := answer
        exact ⟨capacity, Or.inl ⟨bytes, more, inner⟩⟩
  · cases inner : SourceCalls.read current.source capacity with
    | mk result source =>
        simp only [SourceCalls.read, inner, Prod.mk.injEq] at answer
        obtain ⟨rfl, rfl⟩ := answer
        exact ⟨capacity, Or.inr ⟨error, kind, inner⟩⟩

instance {σ : Type} [inner : Source σ] : Source (RecordedSource σ) where
  length_le recorded next capacity bytes answer := by
    cases outcome : SourceCalls.read recorded.source capacity with
    | mk result source =>
        simp only [SourceCalls.read, outcome, Prod.mk.injEq] at answer
        obtain ⟨rfl, rfl⟩ := answer
        exact inner.length_le _ _ _ _ outcome
  settles :=
    Subrelation.wf continues_source (InvImage.wf source inner.settles)

end RecordedSource

end MemberStream
