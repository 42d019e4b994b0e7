import MemberStream.Proofs.Reader.Filtering
import MemberStream.Proofs.Writer.Filtering
import MemberStream.Rehearsal.Transport

namespace MemberStream

/-!
# The debug level only filters

Over an engine that ignores it, the debug level decides which events of a stream are
recorded and how urgent they are, and nothing else that can be seen of the stream.
-/

/--
Take two streams that are built alike but for the debug level of their overrides, and any
requests that leave the level alone.  Every reply is the same, and so is what the streams
show of themselves: the sink or source, the counters and the checksum, and the parameters
apart from the level.  The trace at the lower level holds the events of the other one whose
tags it reaches, in the same order; every event is urgent exactly if its level is high or
debug.
-/
theorem debugLevel_filters
    {σ ρ ε : Type}
    [Sink σ]
    [Source ρ]
    [Engine ε]
    {engine : ε}
    (ignores : IgnoresLevel engine)
    (overrides : Overrides)
    {lower upper : DebugLevel}
    (ordered : lower ≤ upper) :
    (∀ (sink : σ) (requests : List (WriterRequest σ)),
      (∀ request ∈ requests, request.LeavesLevel) →
        let quiet := Writer.builtAt sink engine overrides lower
        let loud := Writer.builtAt sink engine overrides upper
        quiet.outcomes requests = loud.outcomes requests ∧
          Trace.Filters
            (quiet.serveEach requests).trace (loud.serveEach requests).trace lower upper) ∧
      ∀ (source : ρ) (requests : List (ReaderRequest ρ)),
        (∀ request ∈ requests, request.LeavesLevel) →
          let quiet := Reader.builtAt source engine overrides lower
          let loud := Reader.builtAt source engine overrides upper
          quiet.outcomes requests = loud.outcomes requests ∧
            Trace.Filters
              (quiet.serveEach requests).trace (loud.serveEach requests).trace lower upper := by
  constructor
  · intro sink requests leave
    exact Writer.filters_of_built ignores ordered sink overrides leave
  · intro source requests leave
    exact Reader.filters_of_built ignores ordered source overrides leave

/-- A byte that is held back is told of from the medium level on, and a started session before. -/
theorem debugLevel_filters_held :
    let sink : ScriptedSink := {}
    let source : ScriptedSource := {}
    let engine : MemberEngine := {}
    let requests : List (WriterRequest ScriptedSink) :=
      [.apply [.sensitive true], .reset {}, .call (.write [1])]
    let quiet := (Writer.builtAt sink engine {} .low).serveEach requests
    let loud := (Writer.builtAt sink engine {} .high).serveEach requests
    let quietReader := (Reader.builtAt source engine {} .low).serveEach [.reset {}, .close]
    let loudReader := (Reader.builtAt source engine {} .high).serveEach [.reset {}, .close]
    loud.trace.events =
        [(["qz_writer", "write"], .held 1), (["qz_writer"], .writerStarted defaultBufferLength)] ∧
      quiet.trace.events = [(["qz_writer"], .writerStarted defaultBufferLength)] ∧
      quiet.trace.SevereAt .low ∧
      loud.trace.SevereAt .high ∧
      quietReader.trace.events = loudReader.trace.events := by
  intro sink source engine requests quiet loud quietReader loudReader
  have ordered : DebugLevel.low ≤ .high := by
    decide
  obtain ⟨writers, readers⟩ :=
    debugLevel_filters (σ := ScriptedSink) (ρ := ScriptedSource) (MemberEngine.ignoresLevel engine)
      {} ordered
  obtain ⟨-, filters⟩ := writers sink requests (by simp [requests, WriterRequest.LeavesLevel,
    LeavesLevel])
  obtain ⟨-, closes⟩ := readers source [.reset {}, .close] (by simp [ReaderRequest.LeavesLevel])
  let started : Writer ScriptedSink MemberEngine :=
    (Writer.builtAt sink engine {} .high).serveEach [.apply [.sensitive true], .reset {}]
  have writes : started.writeChunk [1] = _ :=
    Writer.writeChunk_of_holdsAll rfl (Writer.flushHeld_nil rfl _) rfl
  have told :
      loud.trace.events =
        [(["qz_writer", "write"], .held 1),
          (["qz_writer"], .writerStarted defaultBufferLength)] := by
    have last : loud = (started.writeChunk [1]).2 :=
      rfl
    rw [last, writes]
    rfl
  refine ⟨told, ?_, filters.quiet, filters.loud, ?_⟩
  · rw [filters.events, told]
    decide
  · rw [closes.events]
    rfl

end MemberStream
