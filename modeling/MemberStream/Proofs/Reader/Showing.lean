import MemberStream.Proofs.Engine.Sessions
import MemberStream.Proofs.Parameter.Showing
import MemberStream.Proofs.Reader.Discipline

namespace MemberStream

/-!
# The parameters that a reader shows

A reader keeps its parameters as a writer does, but for one thing: while it is idle it
is closed without a session, and leaves the idle phase with no parameters in force.
-/

/-- Whether a request replaces the overrides. -/
def ReaderRequest.isOverride
    {σ : Type} :
    ReaderRequest σ → Bool
  | .override _ =>
      true
  | _ =>
      false

namespace Reader

variable {σ ε : Type}

/-- What a reader keeps of its parameters, beside those that its engine was started with. -/
def streamParameters
    (reader : Reader σ (RecordedEngine ε)) :
    StreamParameters where
  overrides := reader.overrides
  staged := reader.staged
  effective := reader.effective
  phase := reader.phase
  inForce := EngineCall.inForce? reader.engine.calls
  newest := EngineCall.newest? reader.engine.calls

/-- A session that has started shows its own parameters. -/
theorem effective_of_startSession
    [EngineCalls ε]
    {reader started : Reader σ ε}
    {scope : Scope}
    (starts : reader.startSession scope = (.ok (), started)) :
    started.effective = reader.staged.resolve reader.overrides := by
  unfold startSession at starts
  dsimp only at starts
  split at starts
  · cases starts
  · cases starts
    rfl

variable [EngineCalls ε]

/-- A session that has started is in force. -/
theorem streamParameters_of_startSession
    {reader started : Reader σ (RecordedEngine ε)}
    {scope : Scope}
    (starts : reader.startSession scope = (.ok (), started)) :
    started.streamParameters = reader.streamParameters.started := by
  have shape := started_of_startSession starts
  unfold streamParameters StreamParameters.started
  rw [shape.overrides, shape.staged, effective_of_startSession starts, shape.phase,
    RecordedEngine.calls_of_start shape.engine]
  rfl

/-- A session that has been refused leaves the reader idle without one. -/
theorem streamParameters_of_refused
    {reader idle : Reader σ (RecordedEngine ε)}
    {scope : Scope}
    {error : StreamError}
    (phase : reader.phase = .idle)
    (starts : reader.startSession scope = (.error error, idle)) :
    idle.streamParameters = reader.streamParameters.refused := by
  obtain ⟨engine, span, trace, answer, rfl⟩ := refused_of_startSession starts
  unfold streamParameters StreamParameters.refused
  rw [RecordedEngine.calls_of_start answer, ← phase]
  rfl

/-- Getting ready leaves the parameters alone, or starts the session of an idle reader. -/
theorem advances_ready
    (reader : Reader σ (RecordedEngine ε))
    (scope : Scope) :
    reader.streamParameters.Advances (reader.ready scope).2.streamParameters := by
  apply ready_keeps (motive := fun next =>
    reader.streamParameters.Advances next.streamParameters) .same
  · intro phase started starts
    rw [streamParameters_of_startSession starts]
    exact .started phase
  · intro phase error idle starts
    change reader.streamParameters.Advances idle.streamParameters
    rw [streamParameters_of_refused phase starts]
    exact .refused phase

theorem streamParameters_teardown
    (reader : Reader σ (RecordedEngine ε)) :
    reader.teardown.streamParameters = reader.streamParameters := by
  unfold teardown
  split <;> rfl

/-- Closing a reader that is not idle advances its parameters. -/
theorem advances_close
    {reader : Reader σ (RecordedEngine ε)}
    (unidle : reader.phase ≠ .idle) :
    reader.streamParameters.Advances reader.close.2.streamParameters := by
  have closes := closes_close reader
  generalize reader.close = outcome at closes
  cases closes with
  | again phase =>
      exact .same
  | idle phase =>
      exact absurd phase unidle
  | @failed error trace phase kept =>
      have torn := congrArg StreamParameters.closed (streamParameters_teardown reader)
      change reader.streamParameters.Advances reader.teardown.streamParameters.closed
      rw [torn]
      exact .closed phase
  | @closed engine trace phase unfailed answer
  | @refused error engine trace phase unfailed answer =>
      have closed :
          streamParameters { reader with engine := engine, phase := .closed } =
            reader.streamParameters.closed := by
        unfold streamParameters StreamParameters.closed
        rw [RecordedEngine.calls_of_close answer]
        rfl
      change reader.streamParameters.Advances
        (streamParameters { reader with engine := engine, phase := .closed })
      rw [closed]
      exact .closed phase

theorem streamParameters_close_of_idle
    {reader : Reader σ (RecordedEngine ε)}
    (idle : reader.phase = .idle) :
    reader.close.2.streamParameters = reader.streamParameters.closed := by
  rw [close_of_idle idle]
  rfl

/-- A reset starts a session with what is staged, or leaves the reader idle without one. -/
theorem streamParameters_reset
    (reader : Reader σ (RecordedEngine ε))
    (source : σ) :
    (reader.reset source).2.streamParameters = reader.streamParameters.started ∨
      (reader.reset source).2.streamParameters = reader.streamParameters.refused := by
  have cleared : reader.cleared.streamParameters = reader.streamParameters.cleared :=
    congrArg StreamParameters.cleared (streamParameters_teardown reader)
  rw [reset_eq]
  split
  · rename_i started starts
    have after := streamParameters_of_startSession starts
    rw [cleared] at after
    exact .inl after
  · rename_i error idle starts
    have after := streamParameters_of_refused rfl starts
    rw [cleared] at after
    exact .inr after

variable [Source σ]

/-- A round leaves the parameters of a session alone. -/
theorem streamParameters_round
    (reader : Reader σ (RecordedEngine ε))
    (scope : Scope)
    (wanted : Nat) :
    (reader.round scope wanted).reader.streamParameters = reader.streamParameters := by
  have same := sameSession_round reader scope wanted
  unfold streamParameters
  rw [same.overrides, same.staged, same.effective, same.phase]
  rcases decompressed_of_round reader scope wanted with silent | ⟨input, capacity, reply, answer⟩
  · rw [silent]
  · rw [RecordedEngine.calls_of_decompress answer, EngineCall.inForce?_cons rfl,
      EngineCall.newest?_cons rfl]

/-- A read advances the parameters. -/
theorem advances_readChunk
    (reader : Reader σ (RecordedEngine ε))
    (length : Nat) :
    reader.streamParameters.Advances (reader.readChunk length).2.streamParameters := by
  apply readChunk_keeps
    (motive := fun next => reader.streamParameters.Advances next.streamParameters)
    _ _ (advances_ready reader _) length
  · intro next wanted advances
    rwa [streamParameters_round]
  · intro next error advances
    exact advances

/-- The options that a request stages. -/
def takenBy
    (reader : Reader σ ε) :
    ReaderRequest σ →
    List StreamOption
  | .apply options =>
      if reader.phase = .idle then
        accepted .reader options
      else
        []
  | _ =>
      []

/-- The options that some requests stage, in order. -/
def takenOptions
    (reader : Reader σ ε) :
    List (ReaderRequest σ) →
    List StreamOption
  | [] =>
      []
  | request :: rest =>
      reader.takenBy request ++ (reader.serve request).2.takenOptions rest

omit [EngineCalls ε] [Source σ] in
/-- Nothing has been staged in a reader that has just been built. -/
theorem follows_of_built
    (source : σ)
    (engine : ε)
    (overrides : Overrides) :
    (Reader.streamParameters { source, engine := { engine }, overrides }).Follows overrides []
    where
  overrides := rfl
  staged := rfl
  effective := rfl
  inForce := by
    intro parameters inForce
    cases inForce
  active := by
    intro active
    cases active

omit [EngineCalls ε] [Source σ] in
/-- A reader shows what options and overrides say, unless it was closed without a session. -/
theorem shows_of_follows
    {reader : Reader σ (RecordedEngine ε)}
    {overrides : Overrides}
    {options : List StreamOption}
    (follows : reader.streamParameters.Follows overrides options)
    (closed : reader.phase = .closed → (EngineCall.inForce? reader.engine.calls).isSome) :
    Shows overrides options (EngineCall.inForce? reader.engine.calls).isSome reader.staged
      reader.parameters := by
  unfold parameters
  split
  · rename_i idle
    apply follows.shows_staged
    apply Option.eq_none_iff_forall_ne_some.mpr
    intro parameters inForce
    exact (follows.inForce parameters inForce).1 idle
  · rename_i unidle
    apply follows.shows_effective
    cases phase : reader.phase with
    | idle =>
        exact absurd phase unidle
    | active =>
        exact follows.active phase
    | closed =>
        exact closed phase

/-- A request stages the options that it is said to stage. -/
theorem follows_serve
    {reader : Reader σ (RecordedEngine ε)}
    {overrides : Overrides}
    {options : List StreamOption}
    (request : ReaderRequest σ)
    (fixed : request.isOverride = false)
    (follows : reader.streamParameters.Follows overrides options) :
    (reader.serve request).2.streamParameters.Follows overrides
      (options ++ reader.takenBy request) := by
  have silent {next : Reader σ (RecordedEngine ε)}
      (after : next.streamParameters.Follows overrides options) :
      next.streamParameters.Follows overrides (options ++ []) := by
    rwa [List.append_nil]
  have served := served_serve reader request
  generalize (reader.serve request).2 = next at served ⊢
  cases served with
  | readInto buffer | read length =>
      exact silent (follows.advances (advances_readChunk reader _))
  | closed =>
      apply silent
      by_cases idle : reader.phase = .idle
      · rw [streamParameters_close_of_idle idle]
        exact follows.closed
      · exact follows.advances (advances_close idle)
  | applied batch =>
      by_cases idle : reader.phase = .idle
      · have staged := follows.stages idle .reader batch
        have taken : reader.takenBy (.apply batch) = accepted .reader batch := if_pos idle
        rw [apply_of_idle idle batch, taken]
        exact staged
      · have taken : reader.takenBy (.apply batch) = [] := if_neg idle
        rw [apply_of_unidle idle batch, taken]
        exact silent follows
  | overridden replaced =>
      cases fixed
  | altered change =>
      apply silent
      exact follows
  | reset source =>
      apply silent
      rcases streamParameters_reset reader source with same | same <;> rw [same]
      · exact follows.started
      · exact follows.refused

/-- Some requests stage the options that they are said to stage, in order. -/
theorem follows_serveEach
    {reader : Reader σ (RecordedEngine ε)}
    {overrides : Overrides}
    {options : List StreamOption}
    {requests : List (ReaderRequest σ)}
    (fixed : ∀ request, request ∈ requests → request.isOverride = false)
    (follows : reader.streamParameters.Follows overrides options) :
    (reader.serveEach requests).streamParameters.Follows overrides
      (options ++ reader.takenOptions requests) := by
  induction requests generalizing reader options with
  | nil =>
      rw [takenOptions, List.append_nil]
      exact follows
  | cons request rest ih =>
      have served := follows_serve request (fixed request List.mem_cons_self) follows
      rw [takenOptions, ← List.append_assoc]
      exact ih (fun other member => fixed other (List.mem_cons_of_mem request member)) served

/-- A reader that has left the idle phase keeps its parameters until it is reset. -/
theorem parameters_serveEach_of_unidle
    {reader : Reader σ (RecordedEngine ε)}
    {requests : List (ReaderRequest σ)}
    (noReset : ∀ request, request ∈ requests → request.isReset = false)
    (unidle : reader.phase ≠ .idle) :
    (reader.serveEach requests).staged = reader.staged ∧
      (reader.serveEach requests).effective = reader.effective ∧
      (reader.serveEach requests).phase ≠ .idle := by
  apply serveEach_keeps
    (motive := fun next =>
      next.staged = reader.staged ∧ next.effective = reader.effective ∧ next.phase ≠ .idle)
    _ ⟨rfl, rfl, unidle⟩
  intro next request member ⟨staged, effective, unidle⟩
  have kept {last : Reader σ (RecordedEngine ε)}
      (advances : next.streamParameters.Advances last.streamParameters) :
      last.staged = reader.staged ∧ last.effective = reader.effective ∧ last.phase ≠ .idle := by
    obtain ⟨sameStaged, sameEffective, still⟩ := advances.frozen unidle
    exact ⟨sameStaged.trans staged, sameEffective.trans effective, still⟩
  have served := served_serve next request
  generalize (next.serve request).2 = last at served ⊢
  cases served with
  | readInto buffer | read length =>
      exact kept (advances_readChunk next _)
  | closed =>
      exact kept (advances_close unidle)
  | applied batch =>
      rw [apply_of_unidle unidle batch]
      exact ⟨staged, effective, unidle⟩
  | overridden overrides | altered change =>
      exact ⟨staged, effective, unidle⟩
  | reset source =>
      have reset := noReset _ member
      cases reset

/-- A session in force is the one whose parameters are shown, and is frozen until the next reset. -/
theorem frozen_of_follows
    {reader : Reader σ (RecordedEngine ε)}
    {overrides : Overrides}
    {options : List StreamOption}
    {parameters : ParameterSet}
    (follows : reader.streamParameters.Follows overrides options)
    (inForce : EngineCall.inForce? reader.engine.calls = some parameters) :
    reader.parameters = parameters ∧
      ∀ between : List (ReaderRequest σ),
        (∀ request, request ∈ between → request.isReset = false) →
          let later := reader.serveEach between
          later.staged = reader.staged ∧
            later.effective = reader.effective ∧
            later.parameters = parameters ∧
            ∀ batch, later.apply batch = (.error .applyAfterStart, later) := by
  obtain ⟨unidle, newest, -⟩ := follows.inForce parameters inForce
  have effective : reader.effective = parameters := by
    change reader.streamParameters.effective = parameters
    rw [follows.effective, newest, Option.getD_some]
  have shown {later : Reader σ (RecordedEngine ε)} (unidle : later.phase ≠ .idle) :
      later.parameters = later.effective := by
    unfold Reader.parameters
    split
    · contradiction
    · rfl
  refine ⟨(shown unidle).trans effective, ?_⟩
  intro between noReset later
  obtain ⟨staged, same, still⟩ := parameters_serveEach_of_unidle noReset unidle
  exact ⟨staged, same, (shown still).trans (same.trans effective), apply_of_unidle still⟩

end Reader

end MemberStream
