import Mathlib
import MemberStream.Proofs.Reader.Growing
import MemberStream.Proofs.Reader.Places
import MemberStream.Proofs.Reader.Spending
import MemberStream.Proofs.Writer.Growing
import MemberStream.Proofs.Writer.Spending
import MemberStream.Rehearsal.Engine
import MemberStream.Rehearsal.Transport

namespace MemberStream

/-!
# Growth is bounded

Writers and readers enlarge their output buffer strictly, and only so often.  So their loops
around an engine come to an end, whenever it finds the buffer too short.
-/

/--
Whatever is requested of a stream, and whatever its engine answers, the output buffer of the
session in force grows within the bounds of its parameters.  A write and a read make no more
data calls than they have bytes to offer, and retries, as long as every successful step
consumes something.
-/
theorem growsWithin_of_requests
    {σ ρ ε : Type}
    [Sink σ]
    [Source ρ]
    [Engine ε]
    (engine : ε)
    (overrides : Overrides)
    (staged : ParameterSet) :
    (∀ (sink : σ) (requests : List (WriterRequest σ)),
      let built : Writer σ (RecordedEngine ε) := { sink, engine := { engine }, overrides, staged }
      let writer := built.serveEach requests
      (∀ parameters,
        EngineCall.inForce? writer.engine.calls = some parameters →
          GrowsWithin parameters (EngineCall.attempts writer.engine.calls) writer.growth
            writer.outputLength writer.failure) ∧
        ∀ bytes,
          writer.engine.Spends (writer.writeChunk bytes).2.engine
            (writer.held.length + bytes.length)) ∧
      ∀ (source : ρ) (requests : List (ReaderRequest ρ)),
        let built : Reader ρ (RecordedEngine ε) :=
          { source, engine := { engine }, overrides, staged }
        let reader := built.serveEach requests
        (∀ parameters,
          EngineCall.inForce? reader.engine.calls = some parameters →
            GrowsWithin parameters (EngineCall.attempts reader.engine.calls) reader.growth
              reader.outputLength reader.failure) ∧
          (staged.inputBufferLength ≤ maxLength →
            (∀ request ∈ requests, request.Measured) → reader.inputLength ≤ maxLength) ∧
          ∀ length,
            let active := (reader.ready reader.scope).2
            let next := (reader.readChunk length).2
            reader.engine.Spends next.engine
              (active.unread.length + (next.sourceTotal - active.sourceTotal)) := by
  refine ⟨?_, ?_⟩
  · intro sink requests built writer
    have grows : writer.outputBuffer.Grows :=
      Writer.grows_serveEach sink engine overrides staged requests
    exact ⟨fun parameters inForce => (grows parameters inForce).within,
      fun bytes => Writer.spends_writeChunk writer bytes⟩
  · intro source requests built reader
    have grows : reader.outputBuffer.Grows :=
      Reader.grows_serveEach source engine overrides staged requests
    have balanced : reader.Balanced :=
      Reader.balanced_serveEach source (⟨engine, []⟩ : RecordedEngine ε) overrides staged requests
    refine ⟨fun parameters inForce => (grows parameters inForce).within, ?_,
      fun length => Reader.spends_readChunk balanced length⟩
    intro measured requestsMeasured
    have placed : reader.Placed :=
      Reader.serveEach_keeps (motive := fun next => next.Placed)
        (fun _ request member placed =>
          Reader.placed_serve (requestsMeasured request member) placed)
        ⟨⟨⟨Nat.le_refl 0, Nat.le_refl 0, Nat.le_refl 0⟩, Nat.zero_le _, measured⟩, rfl⟩
    exact placed.inputLength

/--
The law holds of a writer whose engine wants more than the ceiling, which is reached after
as many enlargements as the increment must double; of a writer without a ceiling, whose
engine is content with the second enlargement; and of a reader that has just started.
-/
theorem growsWithin_of_requests_short :
    let engine : ScriptedEngine :=
      { minOutput := 40, onCall := [(3, .claim ⟨1, 0⟩)] }
    let staged : ParameterSet :=
      { bufferGrowth := 3, outputBufferLength := 2, inputBufferMode := .noLast }
    let limited : ParameterSet := { staged with maxBufferLength := some 20 }
    let writer (staged : ParameterSet) : Writer ScriptedSink (RecordedEngine ScriptedEngine) :=
      { sink := {}, engine := { engine }, staged }
    let failed := (writer limited).serveEach [.call (.writeChunk [1, 2])]
    let written := (writer staged).serveEach [.call (.writeChunk [1])]
    let reader : Reader ScriptedSource (RecordedEngine ScriptedEngine) :=
      { source := { data := [1, 2] }, engine := { engine }, staged }
    let read := reader.serveEach [.reset { data := [3] }]
    EngineCall.attempts failed.engine.calls =
        [⟨20, true⟩, ⟨14, true⟩, ⟨14, false⟩, ⟨8, true⟩, ⟨2, true⟩] ∧
      (∃ wanted, failed.failure = some (.bufferLimitExceeded wanted 20)) ∧
      EngineCall.attempts written.engine.calls = [⟨13, false⟩, ⟨7, true⟩, ⟨2, true⟩] ∧
      shortages (EngineCall.attempts written.engine.calls) ≤ 3 ∧
      Enlarges written.outputLength (EngineCall.attempts written.engine.calls) ∧
      written.growth.increment = 12 ∧
      written.engine.Spends (written.writeChunk [4]).2.engine (written.held.length + 1) ∧
      read.growth.increment = 3 ∧
      read.inputLength ≤ maxLength := by
  intro engine staged limited writer failed written reader read
  have short : EngineCall.attempts failed.engine.calls =
      [⟨20, true⟩, ⟨14, true⟩, ⟨14, false⟩, ⟨8, true⟩, ⟨2, true⟩] := by
    dsimp only [failed, writer, limited, staged, engine]
    cbv
  have enough : EngineCall.attempts written.engine.calls =
      [⟨13, false⟩, ⟨7, true⟩, ⟨2, true⟩] := by
    dsimp only [written, writer, staged, engine]
    cbv
  obtain ⟨writers, -⟩ :=
    growsWithin_of_requests (σ := ScriptedSink) (ρ := ScriptedSource) engine {} limited
  obtain ⟨unlimitedWriters, readers⟩ :=
    growsWithin_of_requests (σ := ScriptedSink) (ρ := ScriptedSource) engine {} staged
  have limitedGrows :=
    (writers {} [.call (.writeChunk [1, 2])]).1 limited
      (by dsimp only [limited, staged, engine]; cbv)
  obtain ⟨grows, spends⟩ := unlimitedWriters {} [.call (.writeChunk [1])]
  have writtenGrows := grows staged (by dsimp only [staged, engine]; cbv)
  obtain ⟨starts, fits, -⟩ := readers { data := [1, 2] } [.reset { data := [3] }]
  have readGrows := starts staged rfl
  have reached : ∃ wanted, failed.failure = some (.bufferLimitExceeded wanted 20) := by
    obtain ⟨-, within | ⟨earlier, wanted, -, -, -, -, failure⟩⟩ :=
      limitedGrows.limited 20 3 rfl (by decide) (by decide)
    · have most : shortages (EngineCall.attempts failed.engine.calls) ≤ 3 := within.2
      rw [short] at most
      exact absurd most (by decide)
    · exact ⟨wanted, failure⟩
  have content : Enlarges written.outputLength (EngineCall.attempts written.engine.calls) ∧
      shortages (EngineCall.attempts written.engine.calls) ≤ 3 := by
    refine writtenGrows.unlimited rfl 13 3 (by decide) (by decide) ?_
    change ∀ attempt ∈ EngineCall.attempts written.engine.calls, _
    rw [enough]
    decide
  have doubled : written.growth.increment = 12 := by
    refine (writtenGrows.increment (by decide)).trans ?_
    change min (3 * 2 ^ shortages (EngineCall.attempts written.engine.calls)) maxLength = 12
    rw [enough]
    decide
  exact ⟨short, reached, enough, content.2, content.1, doubled, spends [4],
    readGrows.increment (by decide), fits (by decide) (by simp [ReaderRequest.Measured])⟩

end MemberStream
