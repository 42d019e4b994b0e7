import MemberStream.Proofs.Engine.Answers
import MemberStream.Proofs.Parameter.Batch
import MemberStream.Proofs.Reader.Operating
import MemberStream.Proofs.Writer.Operating
import MemberStream.Rehearsal.Transport

namespace MemberStream

/-!
# What can be staged

Whatever has been requested of a writer, a reader or bare session parameters before, a
batch is taken up to the first option that the role objects to, and what is staged keeps
to its domain.  So does what an engine is started with, and an engine that works one
member per call is never called against the direction of its session.
-/

variable {encoders : Encoders}

/-- A role can work in the direction that is staged, and overrides leave it alone. -/
theorem WellStaged.directed
    {role : TargetRole}
    {staged : ParameterSet}
    (well : WellStaged role staged)
    (overrides : Overrides) :
    role.directed (staged.resolve overrides) = true := by
  obtain ⟨compresses, decompresses⟩ := well.admitted .direction
  change role = .writer → staged.direction ≠ .decompress at compresses
  change role = .reader → staged.direction ≠ .compress at decompresses
  cases role with
  | writer =>
      change staged.direction.allowsCompress = true
      cases direction : staged.direction <;> simp_all [Direction.allowsCompress]
  | reader =>
      change staged.direction.allowsDecompress = true
      cases direction : staged.direction <;> simp_all [Direction.allowsDecompress]
  | session =>
      rfl

namespace Writer

variable {σ ε : Type}

/-- A writer takes only options that are in their domain and accepted. -/
theorem fine_of_takenBy
    {writer : Writer σ ε}
    {request : WriterRequest σ}
    {option : StreamOption}
    (taken : option ∈ writer.takenBy request) :
    option.InDomain ∧ TargetRole.writer.Accepts option := by
  cases request with
  | apply options =>
      simp only [takenBy] at taken
      split at taken
      · exact fine_of_accepted taken
      · simp at taken
  | _ =>
      simp [takenBy] at taken

variable [Sink σ]

/-- Every request keeps the parameters of a writer well staged. -/
theorem wellStaged_serve
    [Engine ε]
    {writer : Writer σ ε}
    (request : WriterRequest σ)
    (well : WellStaged .writer writer.staged) :
    WellStaged .writer (writer.serve request).2.staged := by
  rw [(restages_serve writer request).staged]
  exact well.stageEach (fun _ taken => fine_of_takenBy taken)

/-- No request makes a writer call its engine against the direction of the session. -/
theorem atService_serve
    {writer : Writer σ (RecordedEngine (MemberEngine encoders))}
    (request : WriterRequest σ)
    (well : WellStaged .writer writer.staged)
    (atService : writer.engine.AtService .writer) :
    (writer.serve request).2.engine.AtService .writer :=
  atService.of_operated (well.directed writer.overrides) (operated_serve writer request)

end Writer

namespace Reader

variable {σ ε : Type}

/-- A reader takes only options that are in their domain and accepted. -/
theorem fine_of_takenBy
    {reader : Reader σ ε}
    {request : ReaderRequest σ}
    {option : StreamOption}
    (taken : option ∈ reader.takenBy request) :
    option.InDomain ∧ TargetRole.reader.Accepts option := by
  cases request with
  | apply options =>
      simp only [takenBy] at taken
      split at taken
      · exact fine_of_accepted taken
      · simp at taken
  | _ =>
      simp [takenBy] at taken

variable [Source σ]

/-- Every request keeps the parameters of a reader well staged. -/
theorem wellStaged_serve
    [EngineCalls ε]
    {reader : Reader σ ε}
    (request : ReaderRequest σ)
    (well : WellStaged .reader reader.staged) :
    WellStaged .reader (reader.serve request).2.staged := by
  rw [(restages_serve reader request).staged]
  exact well.stageEach (fun _ taken => fine_of_takenBy taken)

/-- No request makes a reader call its engine against the direction of the session. -/
theorem atService_serve
    {reader : Reader σ (RecordedEngine (MemberEngine encoders))}
    (request : ReaderRequest σ)
    (well : WellStaged .reader reader.staged)
    (atService : reader.engine.AtService .reader) :
    (reader.serve request).2.engine.AtService .reader :=
  atService.of_operated (well.directed reader.overrides) (operated_serve reader request)

end Reader

/-- Nothing has been asked of an engine that has just been built. -/
theorem RecordedEngine.AtService.of_built
    (role : TargetRole) :
    ({ engine := {} } : RecordedEngine (MemberEngine encoders)).AtService role where
  serves := by
    intro parameters session
    cases session
  directed := by
    simp

/--
A writer, a reader and bare session parameters deal with batches as their role says,
whatever has been requested of them since they were built: a batch is refused once the
session has started, and taken up to the first option that is out of its domain, or that
the role does not take, before that.  Every field that is staged keeps to its domain, and
so does every field that a session is started with, but for a level that overrides fill
in.  A member engine is never called against the direction of its session.
-/
theorem batched_of_requests
    {σ ρ ε : Type}
    [Sink σ]
    [Source ρ]
    [Engine ε]
    (encoders : Encoders)
    (overrides : Overrides) :
    (∀ (sink : σ) (engine : ε) (requests : List (WriterRequest σ)),
      let built : Writer σ ε := { sink, engine, overrides }
      let writer := built.serveEach requests
      Writer.target.Batched writer ∧
        ∀ options, writer.apply options = Writer.target.apply writer options) ∧
      (∀ (source : ρ) (engine : ε) (requests : List (ReaderRequest ρ)),
        let built : Reader ρ ε := { source, engine, overrides }
        let reader := built.serveEach requests
        Reader.target.Batched reader ∧
          ∀ options, reader.apply options = Reader.target.apply reader options) ∧
      (∀ requests : List SessionRequest,
        let built : SessionParameters := {}
        let session := built.serveEach requests
        SessionParameters.target.Batched session ∧
          ∀ options, session.apply options = SessionParameters.target.apply session options) ∧
      (∀ (sink : σ) (requests : List (WriterRequest σ)),
        let built : Writer σ (RecordedEngine (MemberEngine encoders)) :=
          { sink, engine := { engine := {} }, overrides }
        ∀ call, call ∈ (built.serveEach requests).engine.calls →
          call.error? ≠ some (.invalidParameter .incompatibleDirection)) ∧
      ∀ (source : ρ) (requests : List (ReaderRequest ρ)),
        let built : Reader ρ (RecordedEngine (MemberEngine encoders)) :=
          { source, engine := { engine := {} }, overrides }
        ∀ call, call ∈ (built.serveEach requests).engine.calls →
          call.error? ≠ some (.invalidParameter .incompatibleDirection) := by
  refine ⟨?_, ?_, ?_, ?_, ?_⟩
  · intro sink engine requests built writer
    refine ⟨Target.batched_of_wellStaged ?_, fun _ => rfl⟩
    exact Writer.serveEach_keeps (motive := fun next => WellStaged .writer next.staged)
      (fun _ request _ well => Writer.wellStaged_serve request well) (.default .writer)
  · intro source engine requests built reader
    refine ⟨Target.batched_of_wellStaged ?_, fun _ => rfl⟩
    exact Reader.serveEach_keeps (motive := fun next => WellStaged .reader next.staged)
      (fun _ request _ well => Reader.wellStaged_serve request well) (.default .reader)
  · intro requests built session
    refine ⟨Target.batched_of_wellStaged ?_, fun _ => rfl⟩
    change WellStaged .session (built.serveEach requests).parameters
    rw [SessionParameters.parameters_serveEach]
    exact (WellStaged.default .session).stageEach
      (fun _ taken => SessionParameters.fine_of_taken taken)
  · intro sink requests built
    exact (Writer.serveEach_keeps
      (motive := fun next : Writer σ (RecordedEngine (MemberEngine encoders)) =>
        WellStaged .writer next.staged ∧ next.engine.AtService .writer)
      (fun _ request _ ⟨well, atService⟩ =>
        ⟨Writer.wellStaged_serve request well, Writer.atService_serve request well atService⟩)
      ⟨.default .writer, .of_built .writer⟩).2.directed
  · intro source requests built
    exact (Reader.serveEach_keeps
      (motive := fun next : Reader ρ (RecordedEngine (MemberEngine encoders)) =>
        WellStaged .reader next.staged ∧ next.engine.AtService .reader)
      (fun _ request _ ⟨well, atService⟩ =>
        ⟨Reader.wellStaged_serve request well, Reader.atService_serve request well atService⟩)
      ⟨.default .reader, .of_built .reader⟩).2.directed

/--
The law holds of an idle writer, of one that has started and of frozen parameters: a level
out of its domain stops a batch, and the option before it stays.
-/
theorem batched_of_requests_stopped :
    let built : Writer ScriptedSink MemberEngine := { sink := {}, engine := {} }
    let options := [StreamOption.algorithm .lz4, .compressionLevel 0, .inputBufferLength 7]
    let started := built.serveEach [.apply options, .reset {}]
    let frozen := ({} : SessionParameters).serveEach [.freeze]
    BatchOutcome .writer options {}
        (.error (.invalidParameter .compressionLevel), (StreamOption.algorithm .lz4).stage {}) ∧
      started.staged = (StreamOption.algorithm .lz4).stage {} ∧
      started.apply options = (.error .applyAfterStart, started) ∧
      frozen.apply options = (.error .applyAfterStart, frozen) := by
  intro built options started frozen
  obtain ⟨writers, -, sessions, -⟩ :=
    batched_of_requests (σ := ScriptedSink) (ρ := ScriptedSource) (ε := MemberEngine) .own {}
  obtain ⟨idle, -⟩ := writers {} {} []
  obtain ⟨running, same⟩ := writers {} {} [.apply options, .reset {}]
  obtain ⟨held, bare⟩ := sessions [.freeze]
  obtain ⟨result, staged, outcome, comes⟩ := idle.outcome rfl options
  cases comes
  exact ⟨outcome, rfl, (same options).trans (running.refused rfl options),
    (bare options).trans (held.refused rfl options)⟩

end MemberStream
