import MemberStream.Proofs.Parameter.Batch
import MemberStream.Proofs.Reader.Operating
import MemberStream.Proofs.Writer.Operating
import MemberStream.Rehearsal.Engine
import MemberStream.Rehearsal.Transport

namespace MemberStream

/-!
# What a session is started with

An option comes before an override, and an override before the default, in whatever order
and however often options are applied, overrides replaced and sessions started.
-/

namespace ParameterSet

/-- Overrides fill in nothing more where they have been filled in already. -/
theorem resolve_resolve
    (staged : ParameterSet)
    (overrides : Overrides) :
    (staged.resolve overrides).resolve overrides = staged.resolve overrides := by
  have filled {α : Type} (override : Option α) (value : α) :
      override.getD (override.getD value) = override.getD value := by
    cases override <;> rfl
  simp only [resolve]
  congr 1 <;> split <;> simp only [filled]

end ParameterSet

/--
What a writer or a reader hands to its engine in any request, at whatever point of its
life, is in every field the value of the last option that it has taken for that field; if
it has taken none, it is what the overrides in force say of the field, which they do of
three fields only, and the default if they say nothing.  The same is true of what bare
session parameters are resolved to.  Resolving once more changes nothing.
-/
theorem handed_of_requests
    {σ ρ ε : Type}
    [Sink σ]
    [Source ρ]
    [Engine ε]
    (engine : ε)
    (overrides : Overrides) :
    (∀ (sink : σ) (requests : List (WriterRequest σ)) (request : WriterRequest σ),
      let built : Writer σ (RecordedEngine ε) := { sink, engine := { engine }, overrides }
      let writer := built.serveEach requests
      ∃ count parameters,
        EngineCall.handed (writer.serve request).2.engine.calls =
            List.replicate count parameters ++ EngineCall.handed writer.engine.calls ∧
          Shows (requests.foldl WriterRequest.overriding overrides)
            (built.takenOptions requests) true writer.staged parameters) ∧
      (∀ (source : ρ) (requests : List (ReaderRequest ρ)) (request : ReaderRequest ρ),
        let built : Reader ρ (RecordedEngine ε) := { source, engine := { engine }, overrides }
        let reader := built.serveEach requests
        ∃ count parameters,
          EngineCall.handed (reader.serve request).2.engine.calls =
              List.replicate count parameters ++ EngineCall.handed reader.engine.calls ∧
            Shows (requests.foldl ReaderRequest.overriding overrides)
              (built.takenOptions requests) true reader.staged parameters) ∧
      (∀ requests : List SessionRequest,
        let built : SessionParameters := {}
        let session := built.serveEach requests
        Shows overrides (built.takenOptions requests) true session.parameters
          (session.parameters.resolve overrides)) ∧
      ∀ staged : ParameterSet,
        (staged.resolve overrides).resolve overrides = staged.resolve overrides := by
  refine ⟨?_, ?_, ?_, ?_⟩
  · intro sink requests request built writer
    obtain ⟨inForce, staged⟩ := Writer.restages_serveEach built requests
    obtain ⟨count, handed⟩ := EngineCall.handed_of_operated (Writer.operated_serve writer request)
    refine ⟨count, _, handed, ?_⟩
    change Shows _ _ true (built.serveEach requests).staged
      ((built.serveEach requests).staged.resolve (built.serveEach requests).overrides)
    rw [inForce, staged]
    exact shows_resolved _ _
  · intro source requests request built reader
    obtain ⟨inForce, staged⟩ := Reader.restages_serveEach built requests
    obtain ⟨count, handed⟩ := EngineCall.handed_of_operated (Reader.operated_serve reader request)
    refine ⟨count, _, handed, ?_⟩
    change Shows _ _ true (built.serveEach requests).staged
      ((built.serveEach requests).staged.resolve (built.serveEach requests).overrides)
    rw [inForce, staged]
    exact shows_resolved _ _
  · intro requests built session
    change Shows _ _ true (built.serveEach requests).parameters
      ((built.serveEach requests).parameters.resolve overrides)
    rw [SessionParameters.parameters_serveEach]
    exact shows_resolved _ _
  · intro staged
    exact staged.resolve_resolve overrides

/--
An option that says the default comes before an override although its batch was stopped
behind it, and the override stands where no option was taken.
-/
theorem handed_of_requests_overridden :
    let built : Writer ScriptedSink (RecordedEngine ScriptedEngine) :=
      { sink := {}
        engine := { engine := {} }
        overrides := { algorithm := some .zstd, level := some 9 } }
    let writer := built.serveEach [.apply [.algorithm .deflate, .compressionLevel 0]]
    ∃ count parameters,
      EngineCall.handed (writer.serve (.reset {})).2.engine.calls =
          List.replicate count parameters ++ [] ∧
        parameters.algorithm = .deflate ∧
        parameters.level = 9 ∧
        parameters.bufferGrowth = defaultBufferGrowth := by
  intro built writer
  obtain ⟨writers, -⟩ :=
    handed_of_requests (σ := ScriptedSink) (ρ := ScriptedSource) ({} : ScriptedEngine)
      { algorithm := some .zstd, level := some 9 }
  obtain ⟨count, parameters, handed, shows⟩ :=
    writers {} [.apply [.algorithm .deflate, .compressionLevel 0]] (.reset {})
  exact ⟨count, parameters, handed, (shows.precedence .algorithm).trans rfl,
    (shows.precedence .level).trans rfl, (shows.plain .bufferGrowth rfl).trans rfl⟩

end MemberStream
