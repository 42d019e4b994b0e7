import MemberStream.Proofs.Reader.Reporting
import MemberStream.Proofs.Writer.Reporting
import MemberStream.Rehearsal.Engine
import MemberStream.Rehearsal.Transport

namespace MemberStream

/-!
# Failures and their traces

Whatever makes a stream fail, its trace tells of the failure exactly once, if the level
that decides is low or higher.  In a session that is the level that is staged, or what the
overrides make of it.  A session that is refused does not bring its level with it, though:
its failure is told at the level of the session before, and a first session that is refused
is told of at no level.
-/

/--
The failures that the trace of a stream tells of are those that the stream has come to keep
in the course of all requests, each once and in order, as far as the debug level of the
newest session that the engine accepted reaches them.  As long as the overrides stay as they
are, that is the level of the staged parameters and the overrides for every failure that has
come up in a session.
-/
theorem told_of_requests
    {σ ρ ε : Type}
    [Sink σ]
    [Source ρ]
    [Engine ε]
    (engine : ε)
    (overrides : Overrides) :
    (∀ (sink : σ) (requests : List (WriterRequest σ)),
      let built : Writer σ (RecordedEngine ε) := { sink, engine := { engine }, overrides }
      let kept := built.keptIn requests
      (built.serveEach requests).trace.failures .writer = KeptFailure.told kept ∧
        ((∀ request ∈ requests, request.isOverride = false) →
          ∀ failure ∈ kept,
            failure.parameters.inForce.isSome →
              failure.level = (failure.parameters.staged.resolve overrides).debugLevel)) ∧
      ∀ (source : ρ) (requests : List (ReaderRequest ρ)),
        let built : Reader ρ (RecordedEngine ε) := { source, engine := { engine }, overrides }
        let kept := built.keptIn requests
        (built.serveEach requests).trace.failures .reader = KeptFailure.told kept ∧
          ((∀ request ∈ requests, request.isOverride = false) →
            ∀ failure ∈ kept,
              failure.parameters.inForce.isSome →
                failure.level = (failure.parameters.staged.resolve overrides).debugLevel) := by
  constructor
  · intro sink requests built kept
    have follows := Writer.follows_of_built sink engine overrides
    refine ⟨?_, ?_⟩
    · have told := Writer.failures_serveEach follows.parameters.effective requests
      rwa [show built.trace.failures .writer = [] from rfl, List.append_nil] at told
    · intro fixed failure keeps inForce
      obtain ⟨options, behind⟩ := Writer.follows_of_keptIn follows fixed keeps
      exact KeptFailure.level_of_inForce behind inForce
  · intro source requests built kept
    have follows := Reader.follows_of_built source engine overrides
    refine ⟨?_, ?_⟩
    · have told := Reader.failures_serveEach follows.effective requests
      rwa [show built.trace.failures .reader = [] from rfl, List.append_nil] at told
    · intro fixed failure keeps inForce
      obtain ⟨options, behind⟩ := Reader.follows_of_keptIn follows fixed keeps
      exact KeptFailure.level_of_inForce behind inForce

/--
With the low debug level staged, a first session that is refused is told of neither by a
writer nor by a reader; an engine that cannot be closed is told of by the reader.
-/
theorem told_of_requests_refused :
    let engine : ScriptedEngine :=
      { onStart := [(1, .timeout)], onClose := [(1, .integrityCheckFailed)] }
    let writer : Writer ScriptedSink (RecordedEngine ScriptedEngine) :=
      { sink := {}, engine := { engine } }
    let writes : List (WriterRequest ScriptedSink) :=
      [.apply [.debugLevel .low], .call (.writeChunk [1]), .reset {}]
    let reader : Reader ScriptedSource (RecordedEngine ScriptedEngine) :=
      { source := {}, engine := { engine } }
    let reads : List (ReaderRequest ScriptedSource) :=
      [.apply [.debugLevel .low], .read 4, .reset {}, .close]
    (writer.keptIn writes).map KeptFailure.error = [.timeout] ∧
      (writer.serveEach writes).trace.failures .writer = [] ∧
      (reader.keptIn reads).map KeptFailure.error = [.integrityCheckFailed, .timeout] ∧
      (reader.serveEach reads).trace.failures .reader = [.integrityCheckFailed] ∧
      (reader.keptIn reads).head?.map KeptFailure.level = some .low := by
  intro engine writer writes reader reads
  obtain ⟨writers, readers⟩ :=
    told_of_requests (σ := ScriptedSink) (ρ := ScriptedSource) engine {}
  obtain ⟨written, -⟩ := writers {} writes
  obtain ⟨told, levels⟩ := readers {} reads
  have fixed : ∀ request ∈ reads, request.isOverride = false := by
    simp [reads, ReaderRequest.isOverride]
  have silent : KeptFailure.told (writer.keptIn writes) = [] := by
    decide +kernel
  have speaks : KeptFailure.told (reader.keptIn reads) = [.integrityCheckFailed] := by
    decide +kernel
  have newest :
      ((reader.keptIn reads).head?.map fun failure =>
        (failure.parameters.inForce.isSome,
          (failure.parameters.staged.resolve {}).debugLevel)) = some (true, .low) := by
    decide +kernel
  obtain ⟨failure, first, facts⟩ := Option.map_eq_some_iff.mp newest
  obtain ⟨running, low⟩ := Prod.mk.inj facts
  have level : failure.level = .low := by
    rw [levels fixed failure (List.mem_of_head? first) running, low]
  refine ⟨by decide +kernel, written.trans silent, by decide +kernel, told.trans speaks, ?_⟩
  rw [first]
  exact congrArg some level

end MemberStream
