import MemberStream.Proofs.Growth
import MemberStream.Proofs.Writer.Marking
import MemberStream.Proofs.Writer.Renewal

namespace MemberStream

/-!
# How the output buffer of a writer grows

Submitting input is a loop of data calls, and the output buffer stays as it has grown from
one submission to the next, until another session starts.  The failure that ends a loop is
kept, so that no data call follows it in the session.
-/

namespace Writer

variable {σ ε : Type}

/-- What a writer keeps of its output buffer, beside what its engine has made of it. -/
def outputBuffer
    (writer : Writer σ (RecordedEngine ε)) :
    OutputBuffer where
  inForce := EngineCall.inForce? writer.engine.calls
  attempts := EngineCall.attempts writer.engine.calls
  growth := writer.growth
  length := writer.outputLength
  failure := writer.failure

section Session

variable [EngineCalls ε]

/-- A session that has started has an output buffer that has not grown yet. -/
theorem outputBuffer_of_started
    {writer started : Writer σ (RecordedEngine ε)}
    (starts : Started writer started) :
    started.outputBuffer =
      .started (writer.staged.resolve writer.overrides) writer.failure := by
  unfold outputBuffer OutputBuffer.started
  rw [starts.outputLength, starts.growth, starts.failure,
    RecordedEngine.calls_of_start starts.engine]
  rfl

/-- A writer that is ready has the output buffer of before, or one that has not grown yet. -/
theorem grows_of_readied
    {writer active : Writer σ (RecordedEngine ε)}
    (readied : Readied writer active)
    (grows : writer.outputBuffer.Grows) :
    active.outputBuffer.Grows := by
  cases readied with
  | active unfailed phase =>
      exact grows
  | started unfailed phase starts =>
      rw [outputBuffer_of_started starts]
      exact OutputBuffer.grows_started _ _

/-- A writer that is not ready has the output buffer of before, or no session. -/
theorem grows_of_unready
    {writer next : Writer σ (RecordedEngine ε)}
    {error : StreamError}
    (unready : Unready writer error next)
    (grows : writer.outputBuffer.Grows) :
    next.outputBuffer.Grows := by
  cases unready with
  | failed kept | closed unfailed phase =>
      exact grows
  | refused unfailed phase answer =>
      apply OutputBuffer.grows_of_none
      unfold outputBuffer
      dsimp only
      rw [RecordedEngine.calls_of_start answer]
      rfl

theorem outputBuffer_markedEngine
    (writer : Writer σ (RecordedEngine ε)) :
    outputBuffer { writer with engine := writer.markedEngine } = writer.outputBuffer := by
  unfold markedEngine
  split <;> rfl

theorem outputBuffer_teardown
    (writer : Writer σ (RecordedEngine ε)) :
    writer.teardown.outputBuffer = writer.outputBuffer := by
  unfold teardown
  split <;> rfl

/-- A compress call is an attempt of the session in force. -/
theorem outputBuffer_of_compress
    {writer : Writer σ (RecordedEngine ε)}
    {input : Bytes}
    {capacity : Nat}
    {reply : Reply}
    {engine : RecordedEngine ε}
    (answer : EngineCalls.compress writer.markedEngine input capacity = (reply, engine)) :
    outputBuffer { writer with engine := engine } =
      { writer.outputBuffer with
        attempts := ⟨capacity, reply.isShort⟩ :: writer.outputBuffer.attempts } := by
  have marked := outputBuffer_markedEngine writer
  unfold outputBuffer at marked ⊢
  simp only [OutputBuffer.mk.injEq] at marked
  rw [RecordedEngine.calls_of_compress answer, EngineCall.inForce?_cons rfl,
    EngineCall.attempts_compress, marked.1, marked.2.1]

/-- A call that the engine answers with a step, or refuses, is content with the output buffer. -/
theorem attempted_of_content
    {writer : Writer σ (RecordedEngine ε)}
    {input : Bytes}
    {reply : Reply}
    {engine : RecordedEngine ε}
    (answer :
      EngineCalls.compress writer.markedEngine input writer.outputLength = (reply, engine))
    (content : reply.isShort = false)
    (failure : Option StreamError) :
    writer.outputBuffer.Attempted
      { outputBuffer { writer with engine := engine } with failure := failure } := by
  rw [outputBuffer_of_compress answer, content]
  exact .served failure

end Session

variable [Sink σ]

/-- Settling a step leaves the output buffer alone, whatever becomes of the output. -/
theorem outputBuffer_settle
    (writer : Writer σ (RecordedEngine ε))
    (scope : Scope)
    (step : Step)
    (output : Bytes)
    (offset : Nat)
    (input : Bytes) :
    (writer.settle scope step output offset input).2.outputBuffer =
      { writer.outputBuffer with
        failure := (writer.settle scope step output offset input).2.failure } := by
  cases settles : writer.settle scope step output offset input with
  | mk result settled =>
      cases result with
      | ok =>
          rcases settle_ok settles with ⟨-, rfl⟩ | ⟨sink, -, rfl⟩ <;> rfl
      | error error =>
          obtain ⟨cause, sink, -, rfl, rfl⟩ := settle_error settles
          rfl

section Round

variable [EngineCalls ε]

/-- A round that goes on is an attempt at the output buffer. -/
theorem attempted_of_advance
    {writer next : Writer σ (RecordedEngine ε)}
    {scope : Scope}
    {offset count : Nat}
    {input : Bytes}
    (advance : Advance writer scope offset input next count) :
    writer.outputBuffer.Attempted next.outputBuffer := by
  cases advance with
  | @step step filled engine settled answer within busy settles =>
      have same := outputBuffer_settle ({ writer with engine := engine } : Writer σ _) scope step
        (Reply.front ⟨.ok step, filled⟩ step.produced) offset input
      rw [settles] at same
      rw [same]
      exact attempted_of_content answer rfl _
  | @grow filled engine length growth answer grown larger =>
      change
        writer.outputBuffer.Attempted
          { outputBuffer { writer with engine := engine } with growth := growth, length := length }
      rw [outputBuffer_of_compress answer]
      exact .grown grown larger

/-- A round that halts is an attempt at the output buffer. -/
theorem attempted_of_halt
    {writer failed : Writer σ (RecordedEngine ε)}
    {scope : Scope}
    {offset : Nat}
    {input : Bytes}
    {error : StreamError}
    (halt : Halt writer scope offset input error failed) :
    writer.outputBuffer.Attempted failed.outputBuffer := by
  cases halt with
  | overreport answer beyond | idle answer within idle =>
      exact attempted_of_content answer rfl (some _)
  | @sink step filled engine error failed answer within busy settles =>
      have same := outputBuffer_settle ({ writer with engine := engine } : Writer σ _) scope step
        (Reply.front ⟨.ok step, filled⟩ step.produced) offset input
      rw [settles] at same
      rw [same]
      exact attempted_of_content answer rfl _
  | @limit filled engine error growth answer refused =>
      change
        writer.outputBuffer.Attempted
          { outputBuffer { writer with engine := engine } with
            growth := growth
            failure := some error }
      rw [outputBuffer_of_compress answer]
      exact .refused refused
  | @saturated filled engine length growth answer grown stuck =>
      change
        writer.outputBuffer.Attempted
          { outputBuffer { writer with engine := engine } with
            growth := growth
            failure := some (.bufferLimitExceeded length maxLength) }
      rw [outputBuffer_of_compress answer]
      exact .saturated grown stuck
  | @engine filled engine error answer terminal =>
      exact attempted_of_content answer (Reply.isShort_of_ne terminal filled) (some error)

end Round

variable [Engine ε]

/-- A submission of a writer that has not failed has the output buffer grow as it should. -/
theorem grows_submit
    (writer : Writer σ (RecordedEngine ε))
    (unfailed : writer.failure = none)
    (grows : writer.outputBuffer.Grows)
    (scope : Scope)
    (offset : Nat)
    (input : Bytes) :
    (writer.submit scope offset input).2.outputBuffer.Grows := by
  revert unfailed grows
  apply submit_induction
    (motive := fun (writer : Writer σ (RecordedEngine ε)) _ _ outcome =>
      writer.failure = none → writer.outputBuffer.Grows → outcome.2.outputBuffer.Grows)
  case finish =>
    intro writer offset unfailed grows
    exact grows
  case advance =>
    intro writer next offset count input outcome more advance later unfailed grows
    have kept := (sameSession_of_advance advance).2.trans unfailed
    exact later kept (grows.attempted unfailed (attempted_of_advance advance))
  case halt =>
    intro writer failed offset input error more halt unfailed grows
    exact grows.attempted unfailed (attempted_of_halt halt)

/-- A writer that has not failed submits what it holds back, and has not failed if that succeeds. -/
theorem grows_flushHeld
    (writer : Writer σ (RecordedEngine ε))
    (unfailed : writer.failure = none)
    (grows : writer.outputBuffer.Grows)
    (scope : Scope) :
    (writer.flushHeld scope).2.outputBuffer.Grows ∧
      ((writer.flushHeld scope).1 = .ok () → (writer.flushHeld scope).2.failure = none) := by
  have submits :=
    grows_submit { writer with held := [] } unfailed grows scope 0 writer.held
  have kept := (sameSession_submit { writer with held := [] } scope 0 writer.held).2
  rw [flushHeld_eq]
  refine ⟨submits, fun fine => ?_⟩
  dsimp only at fine ⊢
  split at kept
  · exact kept.trans unfailed
  · rename_i answer
    rw [answer] at fine
    cases fine

/-- Taking a buffer has the output buffer grow as it should. -/
theorem grows_stage
    (writer : Writer σ (RecordedEngine ε))
    (unfailed : writer.failure = none)
    (grows : writer.outputBuffer.Grows)
    (scope : Scope)
    (bytes : Bytes) :
    (writer.stage scope bytes).2.outputBuffer.Grows := by
  obtain ⟨flushed, kept⟩ := grows_flushHeld writer unfailed grows scope
  have comes := stages_stage writer scope bytes
  generalize writer.stage scope bytes = outcome at comes ⊢
  cases comes with
  | unflushed flushes =>
      rwa [flushes] at flushed
  | held flushes holds =>
      rwa [flushes] at flushed
  | @cut next _ front tail count flushes _ _ _ submits
  | @halted next _ front tail _ flushes _ _ _ submits =>
      rw [flushes] at flushed kept
      have grown :=
        grows_submit { next with held := next.held ++ tail } (kept rfl) flushed scope 0 front
      rwa [submits] at grown

/-- A write has the output buffer grow as it should. -/
theorem grows_writeChunk
    {writer : Writer σ (RecordedEngine ε)}
    (grows : writer.outputBuffer.Grows)
    (bytes : Bytes) :
    (writer.writeChunk bytes).2.outputBuffer.Grows := by
  cases writes_writeChunk writer bytes with
  | unready refused same =>
      rw [same]
      exact grows_of_unready refused grows
  | @staged active readied stages =>
      rw [stages]
      exact grows_stage active readied.open.2.1 (grows_of_readied readied grows) _ bytes

/-- Completing a stream has the output buffer grow as it should. -/
theorem grows_complete
    (writer : Writer σ (RecordedEngine ε))
    (unfailed : writer.failure = none)
    (grows : writer.outputBuffer.Grows)
    (scope : Scope) :
    (writer.complete scope).2.outputBuffer.Grows := by
  obtain ⟨flushed, kept⟩ := grows_flushHeld writer.markedLast unfailed grows scope
  have comes := completes_complete writer scope
  generalize writer.complete scope = outcome at comes ⊢
  cases comes with
  | @unflushed _ failed flushes =>
      rw [flushes] at flushed
      change failed.teardown.outputBuffer.Grows
      rwa [outputBuffer_teardown]
  | @undrained next sink cause flushes drains =>
      rw [flushes] at flushed kept
      have torn := outputBuffer_teardown ({ next with sink := sink } : Writer σ _)
      change OutputBuffer.Grows { outputBuffer (teardown _) with failure := some _ }
      rw [torn]
      exact flushed.fail (kept rfl) _
  | drained flushes drains =>
      rw [flushes] at flushed kept
      unfold closeEngine
      dsimp only
      split
      · exact flushed
      · exact flushed.fail (kept rfl) _

/-- Closing a writer has the output buffer grow as it should. -/
theorem grows_close
    {writer : Writer σ (RecordedEngine ε)}
    (grows : writer.outputBuffer.Grows) :
    writer.close.2.outputBuffer.Grows := by
  have closes := closes_close writer
  generalize writer.close = outcome at closes
  cases closes with
  | again phase =>
      exact grows
  | failed unclosed kept =>
      change writer.teardown.outputBuffer.Grows
      rwa [outputBuffer_teardown]
  | unready unclosed unfailed refused =>
      exact grows_of_unready refused grows
  | @unplaced active failed scope error readied places =>
      obtain ⟨sink, trace, rfl⟩ := unplaced_of_writePlaceholder places
      have torn := outputBuffer_teardown
        ({ active with sink := sink, trace := trace, wroteOutput := true } : Writer σ _)
      change OutputBuffer.Grows { outputBuffer (teardown _) with failure := some _ }
      rw [torn]
      exact (grows_of_readied readied grows).fail readied.open.2.1 _
  | @completed active whole scope readied shape =>
      have ready := grows_of_readied readied grows
      have same : whole.outputBuffer = active.outputBuffer := by
        obtain ⟨sink, trace, wroteOutput, rfl⟩ := eq_of_whole shape
        rfl
      have unfailed : whole.failure = none :=
        (congrArg OutputBuffer.failure same).trans readied.open.2.1
      rw [← same] at ready
      exact grows_complete whole unfailed ready scope

/-- A reset starts a session with an output buffer that has not grown yet, or has none. -/
theorem grows_reset
    (writer : Writer σ (RecordedEngine ε))
    (sink : σ) :
    (writer.reset sink).2.outputBuffer.Grows := by
  rw [reset_eq]
  split
  · rename_i started starts
    change started.outputBuffer.Grows
    rw [outputBuffer_of_started (started_of_startSession starts)]
    exact OutputBuffer.grows_started _ _
  · rename_i error idle starts
    obtain ⟨engine, span, trace, answer, rfl⟩ := refused_of_startSession starts
    apply OutputBuffer.grows_of_none
    change EngineCall.inForce? engine.calls = none
    rw [RecordedEngine.calls_of_start answer]
    rfl

/-- Every request has the output buffer grow as it should. -/
theorem grows_serve
    {writer : Writer σ (RecordedEngine ε)}
    (grows : writer.outputBuffer.Grows)
    (request : WriterRequest σ) :
    (writer.serve request).2.outputBuffer.Grows := by
  have served := served_serve writer request
  generalize (writer.serve request).1.error? = error?, (writer.serve request).2 = next at served ⊢
  cases served with
  | @wrote call bytes writes =>
      exact grows_writeChunk grows bytes
  | closed closes =>
      exact grows_close grows
  | flushed flushes | applied options | overridden overrides | altered change =>
      exact grows
  | reset sink =>
      exact grows_reset writer sink

/-- Whatever is requested of a writer, its output buffer grows as it should. -/
theorem grows_serveEach
    (sink : σ)
    (engine : ε)
    (overrides : Overrides)
    (staged : ParameterSet)
    (requests : List (WriterRequest σ)) :
    (Writer.serveEach { sink, engine := { engine }, overrides, staged }
      requests).outputBuffer.Grows :=
  serveEach_keeps (motive := fun next => next.outputBuffer.Grows)
    (fun _ request _ grows => grows_serve grows request)
    (OutputBuffer.grows_of_none rfl)

end Writer

end MemberStream
