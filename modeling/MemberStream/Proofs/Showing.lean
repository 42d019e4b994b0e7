import MemberStream.Proofs.Reader.Showing
import MemberStream.Proofs.Writer.Showing
import MemberStream.Rehearsal.Engine
import MemberStream.Rehearsal.Transport

namespace MemberStream

/-!
# No option is lost, and none changes a session

Whatever is requested of a stream, and whatever its engine and its sink or source
answer, the parameters it shows account for every option that has been staged, and a
session keeps its own from its start to the next reset.  Only a reader that was closed
while idle shows something else.
-/

/--
Every field of the staged set has the last value staged for it, and a stream shows that
set, or in a session what the overrides make of it.  From the start of a session to the
next reset a stream shows the parameters that its engine was started with: every batch of
options is refused, and neither the staged nor the effective set changes.  A reader that
was closed without a session shows the set of the session before, or the default if there
was none, whatever has been staged since.
-/
theorem parameters_of_requests
    {σ ρ ε : Type}
    [Sink σ]
    [Source ρ]
    [Engine ε]
    (engine : ε)
    (overrides : Overrides) :
    (∀ (sink : σ) (requests : List (WriterRequest σ)),
      (∀ request, request ∈ requests → request.isOverride = false) →
        let built : Writer σ (RecordedEngine ε) := { sink, engine := { engine }, overrides }
        let writer := built.serveEach requests
        let options := built.takenOptions requests
        let inForce := EngineCall.inForce? writer.engine.calls
        (∀ field,
          writer.staged.value field =
            (lastValue? options field).getD (({} : ParameterSet).value field)) ∧
          Shows overrides options inForce.isSome writer.staged writer.parameters ∧
          ∀ parameters,
            inForce = some parameters →
              writer.parameters = parameters ∧
                ∀ between : List (WriterRequest σ),
                  (∀ request, request ∈ between → request.isReset = false) →
                    let later := writer.serveEach between
                    later.staged = writer.staged ∧
                      later.effective = writer.effective ∧
                      later.parameters = parameters ∧
                      ∀ batch, later.apply batch = (.error .applyAfterStart, later)) ∧
      ∀ (source : ρ) (requests : List (ReaderRequest ρ)),
        (∀ request, request ∈ requests → request.isOverride = false) →
          let built : Reader ρ (RecordedEngine ε) := { source, engine := { engine }, overrides }
          let reader := built.serveEach requests
          let options := built.takenOptions requests
          let inForce := EngineCall.inForce? reader.engine.calls
          (∀ field,
            reader.staged.value field =
              (lastValue? options field).getD (({} : ParameterSet).value field)) ∧
            ((reader.phase = .closed → inForce.isSome) →
              Shows overrides options inForce.isSome reader.staged reader.parameters) ∧
            (reader.phase = .closed →
              inForce = none →
                reader.parameters = (EngineCall.newest? reader.engine.calls).getD {}) ∧
            ∀ parameters,
              inForce = some parameters →
                reader.parameters = parameters ∧
                  ∀ between : List (ReaderRequest ρ),
                    (∀ request, request ∈ between → request.isReset = false) →
                      let later := reader.serveEach between
                      later.staged = reader.staged ∧
                        later.effective = reader.effective ∧
                        later.parameters = parameters ∧
                        ∀ batch, later.apply batch = (.error .applyAfterStart, later) := by
  constructor
  · intro sink requests fixed built writer options inForce
    have follows : writer.Follows overrides options :=
      Writer.follows_serveEach fixed (Writer.follows_of_built sink engine overrides)
    refine ⟨?_, Writer.shows_of_follows follows, ?_⟩
    · intro field
      change writer.streamParameters.staged.value field = _
      rw [follows.parameters.staged]
      exact ParameterSet.value_staging options field
    · intro parameters found
      exact Writer.frozen_of_follows follows found
  · intro source requests fixed built reader options inForce
    have follows : reader.streamParameters.Follows overrides options :=
      Reader.follows_serveEach fixed (Reader.follows_of_built source engine overrides)
    refine ⟨?_, Reader.shows_of_follows follows, ?_, ?_⟩
    · intro field
      change reader.streamParameters.staged.value field = _
      rw [follows.staged]
      exact ParameterSet.value_staging options field
    · intro closed _
      unfold Reader.parameters
      rw [closed]
      exact follows.effective
    · intro parameters found
      exact Reader.frozen_of_follows follows found

/--
The law holds of a writer whose first session was refused and that was reset, of a reader
that was reset, and of one that was closed before it had a session.
-/
theorem parameters_of_requests_refused :
    let engine : ScriptedEngine := { onStart := [(1, .timeout)] }
    let overrides : Overrides := { level := some 9 }
    let writer : Writer ScriptedSink (RecordedEngine ScriptedEngine) :=
      { sink := {}, engine := { engine }, overrides }
    let written :=
      writer.serveEach
        [.apply [.algorithm .lz4, .sensitive true], .call (.writeChunk [1]),
          .apply [.sensitive false, .bounceBufferLength 1, .algorithm .zstd], .reset {}]
    let reader : Reader ScriptedSource (RecordedEngine ScriptedEngine) :=
      { source := {}, engine := { engine }, overrides }
    let renewed := reader.serveEach [.reset {}, .apply [.algorithm .lz4], .reset {}]
    let closed := reader.serveEach [.reset {}, .apply [.algorithm .lz4], .close]
    written.parameters.value .algorithm = Algorithm.lz4 ∧
      written.parameters.value .sensitive = false ∧
      written.parameters.value .level = (9 : UInt32) ∧
      (written.serveEach [.call (.write [2])]).apply [.algorithm .zstd] =
        (.error .applyAfterStart, written.serveEach [.call (.write [2])]) ∧
      renewed.parameters.value .algorithm = Algorithm.lz4 ∧
      (renewed.serveEach [.read 4, .close]).apply [.algorithm .zstd] =
        (.error .applyAfterStart, renewed.serveEach [.read 4, .close]) ∧
      closed.staged.value .algorithm = Algorithm.lz4 ∧
      closed.parameters = {} := by
  intro engine overrides writer written reader renewed closed
  obtain ⟨writers, readers⟩ :=
    parameters_of_requests (σ := ScriptedSink) (ρ := ScriptedSource) engine overrides
  obtain ⟨-, shows, frozen⟩ :=
    writers {}
      [.apply [.algorithm .lz4, .sensitive true], .call (.writeChunk [1]),
        .apply [.sensitive false, .bounceBufferLength 1, .algorithm .zstd], .reset {}]
      (by simp [WriterRequest.isOverride])
  obtain ⟨-, renewedShows, -, renewedFrozen⟩ :=
    readers {} [.reset {}, .apply [.algorithm .lz4], .reset {}] (by simp [ReaderRequest.isOverride])
  obtain ⟨staged, -, stale, -⟩ :=
    readers {} [.reset {}, .apply [.algorithm .lz4], .close] (by simp [ReaderRequest.isOverride])
  have still := (frozen _ rfl).2 [.call (.write [2])] (by simp [WriterRequest.isReset])
  have renewedStill := (renewedFrozen _ rfl).2 [.read 4, .close] (by simp [ReaderRequest.isReset])
  exact ⟨shows.precedence .algorithm, shows.plain .sensitive rfl, shows.precedence .level,
    still.2.2.2 _, (renewedShows nofun).precedence .algorithm, renewedStill.2.2.2 _,
    staged .algorithm, stale rfl rfl⟩

end MemberStream
