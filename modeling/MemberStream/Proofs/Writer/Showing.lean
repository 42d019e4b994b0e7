import MemberStream.Proofs.Engine.Sessions
import MemberStream.Proofs.Parameter.Showing
import MemberStream.Proofs.Writer.Marking
import MemberStream.Proofs.Writer.Renewal

namespace MemberStream

/-!
# The parameters that a writer shows

A writer starts a session before it closes, so it leaves the idle phase with the
parameters of a session in force, and they stay in force until it is reset.
-/

/-- Whether a request replaces the overrides. -/
def WriterRequest.isOverride
    {σ : Type} :
    WriterRequest σ → Bool
  | .override _ =>
      true
  | _ =>
      false

namespace Writer

variable {σ ε : Type}

/-- What a writer keeps of its parameters, beside those that its engine was started with. -/
def streamParameters
    (writer : Writer σ (RecordedEngine ε)) :
    StreamParameters where
  overrides := writer.overrides
  staged := writer.staged
  effective := writer.effective
  phase := writer.phase
  inForce := EngineCall.inForce? writer.engine.calls
  newest := EngineCall.newest? writer.engine.calls

theorem streamParameters_of_call
    {writer next : Writer σ (RecordedEngine ε)}
    {call : EngineCall}
    (same : SameSession next writer)
    (calls : next.engine.calls = call :: writer.engine.calls)
    (noStart : call.isStart = false) :
    next.streamParameters = writer.streamParameters := by
  unfold streamParameters
  rw [same.overrides, same.staged, same.effective, same.phase, calls,
    EngineCall.inForce?_cons noStart, EngineCall.newest?_cons noStart]

section Session

variable [EngineCalls ε]

/-- A session that has started is in force. -/
theorem streamParameters_of_started
    {writer started : Writer σ (RecordedEngine ε)}
    (starts : Started writer started) :
    started.streamParameters = writer.streamParameters.started := by
  unfold streamParameters StreamParameters.started
  rw [starts.overrides, starts.staged, starts.effective, starts.phase,
    RecordedEngine.calls_of_start starts.engine]
  rfl

/-- A writer that is ready was active before, or its session has started. -/
theorem advances_of_readied
    {writer active : Writer σ (RecordedEngine ε)}
    (readied : Readied writer active) :
    writer.streamParameters.Advances active.streamParameters := by
  cases readied with
  | active unfailed phase =>
      exact .same
  | started unfailed phase starts =>
      rw [streamParameters_of_started starts]
      exact .started phase

/-- A writer that is not ready is as it was, or its session was refused. -/
theorem advances_of_unready
    {writer next : Writer σ (RecordedEngine ε)}
    {error : StreamError}
    (unready : Unready writer error next) :
    writer.streamParameters.Advances next.streamParameters := by
  cases unready with
  | failed kept | closed unfailed phase =>
      exact .same
  | @refused error engine span trace unfailed phase answer =>
      have refused :
          streamParameters
              { writer with
                engine := engine
                span := span
                trace := trace
                failure := some error } =
            writer.streamParameters.refused := by
        unfold streamParameters StreamParameters.refused
        rw [RecordedEngine.calls_of_start answer, ← phase]
        rfl
      rw [refused]
      exact .refused phase

theorem streamParameters_markedEngine
    (writer : Writer σ (RecordedEngine ε)) :
    streamParameters { writer with engine := writer.markedEngine } = writer.streamParameters := by
  unfold markedEngine
  split <;> rfl

theorem streamParameters_teardown
    (writer : Writer σ (RecordedEngine ε)) :
    writer.teardown.streamParameters = writer.streamParameters := by
  unfold teardown
  split <;> rfl

theorem streamParameters_closeEngine
    (writer : Writer σ (RecordedEngine ε))
    (scope : Scope) :
    (writer.closeEngine scope).2.streamParameters = writer.streamParameters := by
  unfold closeEngine
  dsimp only
  split <;> rfl

end Session

variable [Sink σ] [Engine ε]

/-- Submitting input leaves the parameters of a session alone. -/
theorem streamParameters_submit
    (writer : Writer σ (RecordedEngine ε))
    (scope : Scope)
    (offset : Nat)
    (input : Bytes) :
    (writer.submit scope offset input).2.streamParameters = writer.streamParameters := by
  have round {writer next : Writer σ (RecordedEngine ε)} {input : Bytes} {reply : Reply}
      (same : SameSession next writer)
      (answer :
        EngineCalls.compress writer.markedEngine input writer.outputLength =
          (reply, next.engine)) :
      next.streamParameters = writer.streamParameters := by
    have marked : SameSession next { writer with engine := writer.markedEngine } :=
      same.trans (by constructor <;> rfl)
    rw [streamParameters_of_call marked (RecordedEngine.calls_of_compress answer) rfl]
    exact streamParameters_markedEngine writer
  apply submit_induction
    (motive := fun (writer : Writer σ (RecordedEngine ε)) _ _ outcome =>
      outcome.2.streamParameters = writer.streamParameters)
  case finish =>
    intro writer offset
    rfl
  case advance =>
    intro writer next offset count input outcome more advance later
    obtain ⟨reply, answer⟩ := compressed_of_advance advance
    exact later.trans (round (sameSession_of_advance advance).1 answer)
  case halt =>
    intro writer failed offset input error more halt
    obtain ⟨reply, answer⟩ := compressed_of_halt halt
    exact round (sameSession_of_halt halt).1 answer

/-- Flushing what is held back leaves the parameters of a session alone. -/
theorem streamParameters_flushHeld
    (writer : Writer σ (RecordedEngine ε))
    (scope : Scope) :
    (writer.flushHeld scope).2.streamParameters = writer.streamParameters := by
  apply flushHeld_keeps (motive := fun next => next.streamParameters = writer.streamParameters)
  · intro next held same
    exact same
  · intro next input same
    exact (streamParameters_submit next scope 0 input).trans same
  · rfl

/-- A write advances the parameters. -/
theorem advances_writeChunk
    (writer : Writer σ (RecordedEngine ε))
    (bytes : Bytes) :
    writer.streamParameters.Advances (writer.writeChunk bytes).2.streamParameters := by
  cases writes_writeChunk writer bytes with
  | unready refused same =>
      rw [same]
      exact advances_of_unready refused
  | @staged active readied stages =>
      have staged :
          (active.stage (writer.scope ++ ["write"]) bytes).2.streamParameters =
            active.streamParameters := by
        apply stage_keeps
          (motive := fun next => next.streamParameters = active.streamParameters)
        · intro next held same
          exact same
        · intro next input same
          exact (streamParameters_submit next _ 0 input).trans same
        · intro next event same
          exact same
        · rfl
      rw [stages, staged]
      exact advances_of_readied readied

/-- Completing a stream closes it, and leaves its parameters alone otherwise. -/
theorem streamParameters_complete
    (writer : Writer σ (RecordedEngine ε))
    (scope : Scope) :
    (writer.complete scope).2.streamParameters = writer.streamParameters.closed := by
  have marked : writer.markedLast.streamParameters = writer.streamParameters.closed := by
    unfold streamParameters StreamParameters.closed markedLast
    dsimp only
    congr 1
  have flushed := (streamParameters_flushHeld writer.markedLast scope).trans marked
  have comes := completes_complete writer scope
  generalize writer.complete scope = outcome at comes ⊢
  cases comes with
  | @unflushed _ failed flushes =>
      rw [flushes] at flushed
      exact (streamParameters_teardown failed).trans flushed
  | undrained flushes drains =>
      rw [flushes] at flushed
      exact (streamParameters_teardown _).trans flushed
  | drained flushes drains =>
      rw [flushes] at flushed
      exact (streamParameters_closeEngine _ scope).trans flushed

/-- Closing a writer advances the parameters. -/
theorem advances_close
    (writer : Writer σ (RecordedEngine ε)) :
    writer.streamParameters.Advances writer.close.2.streamParameters := by
  have closes := closes_close writer
  generalize writer.close = outcome at closes
  cases closes with
  | again phase =>
      exact .same
  | failed unclosed kept =>
      change writer.streamParameters.Advances writer.teardown.streamParameters
      rw [streamParameters_teardown]
      exact .same
  | unready unclosed unfailed refused =>
      exact advances_of_unready refused
  | @unplaced active failed scope error readied places =>
      obtain ⟨sink, trace, rfl⟩ := unplaced_of_writePlaceholder places
      have torn := streamParameters_teardown
        ({ active with sink := sink, trace := trace, wroteOutput := true } : Writer σ _)
      change writer.streamParameters.Advances (teardown _).streamParameters
      rw [torn]
      change writer.streamParameters.Advances active.streamParameters
      exact advances_of_readied readied
  | @completed active whole scope readied shape =>
      have same : whole.streamParameters = active.streamParameters := by
        obtain ⟨sink, trace, wroteOutput, rfl⟩ := eq_of_whole shape
        rfl
      rw [streamParameters_complete, same]
      cases readied with
      | active unfailed phase =>
          exact .closed phase
      | started unfailed phase starts =>
          rw [streamParameters_of_started starts]
          exact .ended phase

/-- What a reset has cleared is idle, with the parameters of before. -/
theorem streamParameters_cleared
    (writer : Writer σ (RecordedEngine ε)) :
    writer.cleared.streamParameters = writer.streamParameters.cleared := by
  have closed :
      writer.closeForReset.streamParameters.cleared = writer.streamParameters.cleared := by
    apply closeForReset_keeps
      (motive := fun next => next.streamParameters.cleared = writer.streamParameters.cleared)
    · intro failed error same
      exact same
    · rfl
    · intro active unfailed
      have advances := advances_close writer
      generalize writer.close.2.streamParameters = after at advances
      cases advances with
      | same | closed _ =>
          rfl
      | started idle | refused idle | ended idle =>
          cases active.symm.trans idle
  have torn := congrArg StreamParameters.cleared (streamParameters_teardown writer.closeForReset)
  exact torn.trans closed

/-- A reset starts a session with what is staged, or leaves the writer idle without one. -/
theorem streamParameters_reset
    (writer : Writer σ (RecordedEngine ε))
    (sink : σ) :
    (writer.reset sink).2.streamParameters = writer.streamParameters.started ∨
      (writer.reset sink).2.streamParameters = writer.streamParameters.refused := by
  have cleared := streamParameters_cleared writer
  rw [reset_eq]
  split
  · rename_i started starts
    have after := streamParameters_of_started (started_of_startSession starts)
    rw [cleared] at after
    exact .inl after
  · rename_i error idle starts
    obtain ⟨engine, span, trace, answer, rfl⟩ := refused_of_startSession starts
    refine .inr ?_
    have after :
        streamParameters { writer.cleared with engine := engine } =
          writer.cleared.streamParameters.refused := by
      unfold streamParameters StreamParameters.refused
      rw [RecordedEngine.calls_of_start answer]
      rfl
    rw [cleared] at after
    exact after

/-- The options that a request stages. -/
def takenBy
    (writer : Writer σ ε) :
    WriterRequest σ →
    List StreamOption
  | .apply options =>
      if writer.phase = .idle then
        accepted .writer options
      else
        []
  | _ =>
      []

/-- The options that some requests stage, in order. -/
def takenOptions
    (writer : Writer σ ε) :
    List (WriterRequest σ) →
    List StreamOption
  | [] =>
      []
  | request :: rest =>
      writer.takenBy request ++ (writer.serve request).2.takenOptions rest

/-- A writer with the parameters of some options, and not closed without a session. -/
structure Follows
    (writer : Writer σ (RecordedEngine ε))
    (overrides : Overrides)
    (options : List StreamOption) :
    Prop where
  parameters : writer.streamParameters.Follows overrides options
  closed : writer.phase = .closed → (EngineCall.inForce? writer.engine.calls).isSome

omit [Sink σ] [Engine ε] in
/-- Nothing has been staged in a writer that has just been built. -/
theorem follows_of_built
    (sink : σ)
    (engine : ε)
    (overrides : Overrides) :
    Follows { sink, engine := { engine }, overrides } overrides [] where
  parameters :=
    { overrides := rfl
      staged := rfl
      effective := rfl
      inForce := by
        intro parameters inForce
        cases inForce
      active := by
        intro active
        cases active }
  closed := by
    intro closed
    cases closed

omit [Sink σ] [Engine ε] in
/-- A writer shows what the options and the overrides say. -/
theorem shows_of_follows
    {writer : Writer σ (RecordedEngine ε)}
    {overrides : Overrides}
    {options : List StreamOption}
    (follows : writer.Follows overrides options) :
    Shows overrides options (EngineCall.inForce? writer.engine.calls).isSome writer.staged
      writer.parameters := by
  unfold parameters
  split
  · rename_i idle
    apply follows.parameters.shows_staged
    apply Option.eq_none_iff_forall_ne_some.mpr
    intro parameters inForce
    exact (follows.parameters.inForce parameters inForce).1 idle
  · rename_i unidle
    apply follows.parameters.shows_effective
    cases phase : writer.phase with
    | idle =>
        exact absurd phase unidle
    | active =>
        exact follows.parameters.active phase
    | closed =>
        exact follows.closed phase

omit [Sink σ] [Engine ε] in
/-- What advances the parameters of a writer stages nothing, and closes no idle writer. -/
theorem Follows.advances
    {writer next : Writer σ (RecordedEngine ε)}
    {overrides : Overrides}
    {options : List StreamOption}
    (follows : writer.Follows overrides options)
    (advances : writer.streamParameters.Advances next.streamParameters) :
    next.Follows overrides options := by
  refine ⟨follows.parameters.advances advances, ?_⟩
  intro closed
  change next.streamParameters.phase = .closed at closed
  change next.streamParameters.inForce.isSome
  generalize next.streamParameters = after at advances closed
  cases advances with
  | same =>
      exact follows.closed closed
  | closed active =>
      exact follows.parameters.active active
  | started idle =>
      cases closed
  | refused idle =>
      cases closed
  | ended idle =>
      rfl

/-- A request stages the options that it is said to stage. -/
theorem follows_serve
    {writer : Writer σ (RecordedEngine ε)}
    {overrides : Overrides}
    {options : List StreamOption}
    (request : WriterRequest σ)
    (fixed : request.isOverride = false)
    (follows : writer.Follows overrides options) :
    (writer.serve request).2.Follows overrides (options ++ writer.takenBy request) := by
  have silent {next : Writer σ (RecordedEngine ε)}
      (after : next.Follows overrides options) :
      next.Follows overrides (options ++ []) := by
    rwa [List.append_nil]
  have served := served_serve writer request
  generalize (writer.serve request).1.error? = error?, (writer.serve request).2 = next at served ⊢
  cases served with
  | @wrote call bytes writes =>
      exact silent (follows.advances (advances_writeChunk writer bytes))
  | closed closes =>
      have after := silent (follows.advances (advances_close writer))
      rcases closes with rfl | rfl
      · exact after
      · exact after
  | applied batch =>
      by_cases idle : writer.phase = .idle
      · have staged := follows.parameters.stages idle .writer batch
        have taken : writer.takenBy (.apply batch) = accepted .writer batch := if_pos idle
        rw [apply_of_idle idle batch, taken]
        exact ⟨staged, follows.closed⟩
      · have taken : writer.takenBy (.apply batch) = [] := if_neg idle
        rw [apply_of_unidle idle batch, taken]
        exact silent follows
  | overridden replaced =>
      cases fixed
  | flushed flushes | altered change =>
      exact silent ⟨follows.parameters, follows.closed⟩
  | reset sink =>
      apply silent
      have parameters : (writer.reset sink).2.streamParameters.Follows overrides options ∧
          (writer.reset sink).2.streamParameters.phase ≠ .closed := by
        rcases streamParameters_reset writer sink with same | same <;> rw [same]
        · exact ⟨follows.parameters.started, nofun⟩
        · exact ⟨follows.parameters.refused, nofun⟩
      exact ⟨parameters.1, fun closed => absurd closed parameters.2⟩

/-- Some requests stage the options that they are said to stage, in order. -/
theorem follows_serveEach
    {writer : Writer σ (RecordedEngine ε)}
    {overrides : Overrides}
    {options : List StreamOption}
    {requests : List (WriterRequest σ)}
    (fixed : ∀ request, request ∈ requests → request.isOverride = false)
    (follows : writer.Follows overrides options) :
    (writer.serveEach requests).Follows overrides (options ++ writer.takenOptions requests) := by
  induction requests generalizing writer options with
  | nil =>
      rw [takenOptions, List.append_nil]
      exact follows
  | cons request rest ih =>
      have served := follows_serve request (fixed request List.mem_cons_self) follows
      rw [takenOptions, ← List.append_assoc]
      exact ih (fun other member => fixed other (List.mem_cons_of_mem request member)) served

/-- A writer that has left the idle phase keeps its parameters until it is reset. -/
theorem parameters_serveEach_of_unidle
    {writer : Writer σ (RecordedEngine ε)}
    {requests : List (WriterRequest σ)}
    (noReset : ∀ request, request ∈ requests → request.isReset = false)
    (unidle : writer.phase ≠ .idle) :
    (writer.serveEach requests).staged = writer.staged ∧
      (writer.serveEach requests).effective = writer.effective ∧
      (writer.serveEach requests).phase ≠ .idle := by
  apply serveEach_keeps
    (motive := fun next =>
      next.staged = writer.staged ∧ next.effective = writer.effective ∧ next.phase ≠ .idle)
    _ ⟨rfl, rfl, unidle⟩
  intro next request member ⟨staged, effective, unidle⟩
  have kept {last : Writer σ (RecordedEngine ε)}
      (advances : next.streamParameters.Advances last.streamParameters) :
      last.staged = writer.staged ∧ last.effective = writer.effective ∧ last.phase ≠ .idle := by
    obtain ⟨sameStaged, sameEffective, still⟩ := advances.frozen unidle
    exact ⟨sameStaged.trans staged, sameEffective.trans effective, still⟩
  have served := served_serve next request
  generalize (next.serve request).1.error? = error?, (next.serve request).2 = last at served ⊢
  cases served with
  | @wrote call bytes writes =>
      exact kept (advances_writeChunk next bytes)
  | closed closes =>
      exact kept (advances_close next)
  | applied batch =>
      rw [apply_of_unidle unidle batch]
      exact ⟨staged, effective, unidle⟩
  | flushed flushes | overridden overrides | altered change =>
      exact ⟨staged, effective, unidle⟩
  | reset sink =>
      have reset := noReset _ member
      cases reset

/-- A session in force is the one whose parameters are shown, and is frozen until the next reset. -/
theorem frozen_of_follows
    {writer : Writer σ (RecordedEngine ε)}
    {overrides : Overrides}
    {options : List StreamOption}
    {parameters : ParameterSet}
    (follows : writer.Follows overrides options)
    (inForce : EngineCall.inForce? writer.engine.calls = some parameters) :
    writer.parameters = parameters ∧
      ∀ between : List (WriterRequest σ),
        (∀ request, request ∈ between → request.isReset = false) →
          let later := writer.serveEach between
          later.staged = writer.staged ∧
            later.effective = writer.effective ∧
            later.parameters = parameters ∧
            ∀ batch, later.apply batch = (.error .applyAfterStart, later) := by
  obtain ⟨unidle, newest, -⟩ := follows.parameters.inForce parameters inForce
  have effective : writer.effective = parameters := by
    change writer.streamParameters.effective = parameters
    rw [follows.parameters.effective, newest, Option.getD_some]
  have shown {later : Writer σ (RecordedEngine ε)} (unidle : later.phase ≠ .idle) :
      later.parameters = later.effective := by
    unfold Writer.parameters
    split
    · contradiction
    · rfl
  refine ⟨(shown unidle).trans effective, ?_⟩
  intro between noReset later
  obtain ⟨staged, same, still⟩ := parameters_serveEach_of_unidle noReset unidle
  exact ⟨staged, same, (shown still).trans (same.trans effective), apply_of_unidle still⟩

end Writer

end MemberStream
