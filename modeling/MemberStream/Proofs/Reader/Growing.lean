import MemberStream.Proofs.Growth
import MemberStream.Proofs.Reader.Discipline

namespace MemberStream

/-!
# How the output buffer of a reader grows

The output buffer of a reader grows as that of a writer does, but for what is outstanding:
for a reader that is what its caller still wants.
-/

namespace Reader

variable {σ ε : Type}

/-- What a reader keeps of its output buffer, beside what its engine has made of it. -/
def outputBuffer
    (reader : Reader σ (RecordedEngine ε)) :
    OutputBuffer where
  inForce := EngineCall.inForce? reader.engine.calls
  attempts := EngineCall.attempts reader.engine.calls
  growth := reader.growth
  length := reader.outputLength
  failure := reader.failure

variable [EngineCalls ε]

/-- A session that has started has an output buffer that has not grown yet. -/
theorem outputBuffer_of_startSession
    {reader started : Reader σ (RecordedEngine ε)}
    {scope : Scope}
    (starts : reader.startSession scope = (.ok (), started)) :
    started.outputBuffer =
      .started (reader.staged.resolve reader.overrides) reader.failure := by
  unfold startSession at starts
  dsimp only at starts
  split at starts
  · cases starts
  · rename_i engine answer
    cases starts
    unfold outputBuffer OutputBuffer.started
    dsimp only [report]
    rw [RecordedEngine.calls_of_start answer]
    rfl

/-- A session that has been refused leaves a reader without one. -/
theorem grows_of_refused
    {reader idle : Reader σ (RecordedEngine ε)}
    {scope : Scope}
    {error : StreamError}
    (starts : reader.startSession scope = (.error error, idle)) :
    (idle.fail scope error).outputBuffer.Grows := by
  obtain ⟨engine, span, trace, answer, rfl⟩ := refused_of_startSession starts
  apply OutputBuffer.grows_of_none
  change EngineCall.inForce? engine.calls = none
  rw [RecordedEngine.calls_of_start answer]
  rfl

/-- A reader that is ready, or is not, has an output buffer that has grown as it should. -/
theorem grows_ready
    {reader : Reader σ (RecordedEngine ε)}
    (grows : reader.outputBuffer.Grows)
    (scope : Scope) :
    (reader.ready scope).2.outputBuffer.Grows := by
  apply ready_keeps (motive := fun next => next.outputBuffer.Grows) grows
  · intro _ started starts
    rw [outputBuffer_of_startSession starts]
    exact OutputBuffer.grows_started _ _
  · intro _ error idle starts
    exact grows_of_refused starts

theorem outputBuffer_teardown
    (reader : Reader σ (RecordedEngine ε)) :
    reader.teardown.outputBuffer = reader.outputBuffer := by
  unfold teardown
  split <;> rfl

/-- A close is no attempt, and leaves the session in force. -/
theorem outputBuffer_of_close
    {reader : Reader σ (RecordedEngine ε)}
    {result : Except StreamError Unit}
    {engine : RecordedEngine ε}
    (answer : EngineCalls.close reader.engine = (result, engine)) :
    outputBuffer { reader with engine := engine } = reader.outputBuffer := by
  unfold outputBuffer
  dsimp only
  rw [RecordedEngine.calls_of_close answer, EngineCall.inForce?_cons rfl,
    EngineCall.attempts_close]

/-- A decompress call is an attempt of the session in force. -/
theorem outputBuffer_of_decompress
    {reader : Reader σ (RecordedEngine ε)}
    {input : Bytes}
    {capacity : Nat}
    {reply : Reply}
    {engine : RecordedEngine ε}
    (answer : EngineCalls.decompress reader.engine input capacity = (reply, engine)) :
    outputBuffer { reader with engine := engine } =
      { reader.outputBuffer with
        attempts := ⟨capacity, reply.isShort⟩ :: reader.outputBuffer.attempts } := by
  unfold outputBuffer
  dsimp only
  rw [RecordedEngine.calls_of_decompress answer, EngineCall.inForce?_cons rfl,
    EngineCall.attempts_decompress]

/-- A call that the engine answers with a step, or refuses, is content with the output buffer. -/
theorem attempted_of_content
    {reader : Reader σ (RecordedEngine ε)}
    {input : Bytes}
    {reply : Reply}
    {engine : RecordedEngine ε}
    (answer : EngineCalls.decompress reader.engine input reader.outputLength = (reply, engine))
    (content : reply.isShort = false)
    (failure : Option StreamError) :
    reader.outputBuffer.Attempted
      { outputBuffer { reader with engine := engine } with failure := failure } := by
  rw [outputBuffer_of_decompress answer, content]
  exact .served failure

/-- The failure that a reader keeps after a round, if it had none before. -/
def Round.failure? : Round σ ε → Option StreamError
  | .failed error _ =>
      some error
  | _ =>
      none

/-- An engine call is an attempt at the output buffer. -/
theorem attempted_advance
    {reader : Reader σ (RecordedEngine ε)}
    (unfailed : reader.failure = none)
    (scope : Scope)
    (wanted : Nat) :
    reader.outputBuffer.Attempted
      { (reader.advance scope wanted).reader.outputBuffer with
        failure := (reader.advance scope wanted).failure? } := by
  have answered := answered_advance reader scope wanted
  generalize reader.advance scope wanted = round at answered
  cases answered with
  | overreport answer beyond | idle answer within idle =>
      exact attempted_of_content answer rfl (some _)
  | step answer within busy =>
      exact attempted_of_content answer rfl none
  | @limit bytes engine error growth answer refused =>
      change
        reader.outputBuffer.Attempted
          { outputBuffer { reader with engine := engine } with
            growth := growth
            failure := some error }
      rw [outputBuffer_of_decompress answer]
      exact .refused refused
  | @grow bytes engine length growth answer grown larger =>
      change
        reader.outputBuffer.Attempted
          { outputBuffer { reader with engine := engine } with
            growth := growth
            length := length
            failure := none }
      rw [outputBuffer_of_decompress answer, ← unfailed]
      exact .grown grown larger
  | @saturated bytes engine length growth answer grown stuck =>
      change
        reader.outputBuffer.Attempted
          { outputBuffer { reader with engine := engine } with
            growth := growth
            failure := some (.bufferLimitExceeded length maxLength) }
      rw [outputBuffer_of_decompress answer]
      exact .saturated grown stuck
  | @engine bytes engine error answer terminal =>
      exact attempted_of_content answer (Reply.isShort_of_ne terminal bytes) (some error)

variable [Source σ]

omit [EngineCalls ε] in
theorem outputBuffer_ensureInput
    (reader : Reader σ (RecordedEngine ε))
    (scope : Scope) :
    (reader.ensureInput scope).2.outputBuffer = reader.outputBuffer := by
  have same := sameOutput_ensureInput reader scope
  unfold outputBuffer
  rw [same.engine, same.growth, same.outputLength, same.failure]

/-- A round of a reader that has not failed has the output buffer grow as it should. -/
theorem grows_round
    {reader : Reader σ (RecordedEngine ε)}
    (unfailed : reader.failure = none)
    (grows : reader.outputBuffer.Grows)
    (scope : Scope)
    (wanted : Nat) :
    OutputBuffer.Grows
      { (reader.round scope wanted).reader.outputBuffer with
        failure := (reader.round scope wanted).failure? } := by
  have ensures := outputBuffer_ensureInput reader scope
  unfold round
  split
  · exact grows.fail unfailed none
  · split
    · rename_i error failed answer
      rw [answer] at ensures
      change OutputBuffer.Grows { failed.outputBuffer with failure := some error }
      rw [ensures]
      exact grows.fail unfailed (some error)
    · rename_i filled answer
      rw [answer] at ensures
      have kept : filled.failure = none :=
        (congrArg OutputBuffer.failure ensures).trans unfailed
      rw [← ensures] at grows
      split
      · exact grows.fail kept none
      · exact grows.attempted kept (attempted_advance kept scope wanted)

/-- A delivery of a reader that has not failed has the output buffer grow as it should. -/
theorem grows_deliver
    {reader : Reader σ (RecordedEngine ε)}
    (unfailed : reader.failure = none)
    (grows : reader.outputBuffer.Grows)
    (scope : Scope)
    (wanted : Nat)
    (delivered : Bytes) :
    (reader.deliver scope wanted delivered).2.outputBuffer.Grows := by
  -- The induction is over rounds; a round that goes on has not failed, so the law is about the same
  -- failure on both of its sides.
  fun_induction deliver reader scope wanted delivered with
  | case1 reader delivered =>
      exact grows
  | case2 reader wanted delivered more bytes next round ih
  | case3 reader wanted delivered more next round ih =>
      have after := grows_round unfailed grows scope wanted
      have kept := (sameSession_round reader scope wanted).failure.trans unfailed
      rw [round] at after kept
      change next.failure = none at kept
      change OutputBuffer.Grows { next.outputBuffer with failure := none } at after
      rw [← kept] at after
      exact ih kept after
  | case4 reader wanted delivered more last round =>
      have after := grows_round unfailed grows scope wanted
      have kept := (sameSession_round reader scope wanted).failure.trans unfailed
      rw [round] at after kept
      change last.failure = none at kept
      change OutputBuffer.Grows { last.outputBuffer with failure := none } at after
      rwa [← kept] at after
  | case5 reader wanted delivered more error last round =>
      have after := grows_round unfailed grows scope wanted
      rw [round] at after
      rw [failAfter_reader]
      exact after

/-- A read has the output buffer grow as it should. -/
theorem grows_readChunk
    {reader : Reader σ (RecordedEngine ε)}
    (grows : reader.outputBuffer.Grows)
    (length : Nat) :
    (reader.readChunk length).2.outputBuffer.Grows := by
  have readies := grows_ready grows reader.scope
  have reads := reads_readChunk reader length
  generalize reader.readChunk length = outcome at reads
  cases reads with
  | unready answer =>
      rwa [answer] at readies
  | delivered answer =>
      rw [answer] at readies
      exact grows_deliver (readied_of_ready answer).open.2.1 readies _ length []

omit [Source σ] in
/-- Closing a reader leaves its output buffer alone. -/
theorem grows_close
    {reader : Reader σ (RecordedEngine ε)}
    (grows : reader.outputBuffer.Grows) :
    reader.close.2.outputBuffer.Grows := by
  have closes := closes_close reader
  generalize reader.close = outcome at closes
  cases closes with
  | again phase | idle phase =>
      exact grows
  | failed phase kept =>
      change reader.teardown.outputBuffer.Grows
      rwa [outputBuffer_teardown]
  | @closed engine trace phase unfailed answer =>
      change (outputBuffer { reader with engine := engine }).Grows
      rwa [outputBuffer_of_close answer]
  | @refused error engine trace phase unfailed answer =>
      change OutputBuffer.Grows
        { outputBuffer { reader with engine := engine } with failure := some error }
      rw [outputBuffer_of_close answer]
      exact grows.fail unfailed _

omit [Source σ] in
/-- A reset starts a session with an output buffer that has not grown yet, or has none. -/
theorem grows_reset
    (reader : Reader σ (RecordedEngine ε))
    (source : σ) :
    (reader.reset source).2.outputBuffer.Grows := by
  rw [reset_eq]
  split
  · rename_i started starts
    change started.outputBuffer.Grows
    rw [outputBuffer_of_startSession starts]
    exact OutputBuffer.grows_started _ _
  · rename_i starts
    exact grows_of_refused starts

/-- Every request has the output buffer grow as it should. -/
theorem grows_serve
    {reader : Reader σ (RecordedEngine ε)}
    (grows : reader.outputBuffer.Grows)
    (request : ReaderRequest σ) :
    (reader.serve request).2.outputBuffer.Grows := by
  have served := served_serve reader request
  generalize (reader.serve request).2 = next at served ⊢
  cases served with
  | readInto buffer | read length =>
      exact grows_readChunk grows _
  | closed =>
      exact grows_close grows
  | applied options | overridden overrides | altered change =>
      exact grows
  | reset source =>
      exact grows_reset reader source

/-- Whatever is requested of a reader, its output buffer grows as it should. -/
theorem grows_serveEach
    (source : σ)
    (engine : ε)
    (overrides : Overrides)
    (staged : ParameterSet)
    (requests : List (ReaderRequest σ)) :
    (Reader.serveEach { source, engine := { engine }, overrides, staged }
        requests).outputBuffer.Grows :=
  serveEach_keeps (motive := fun next => next.outputBuffer.Grows)
    (fun _ request _ grows => grows_serve grows request)
    (OutputBuffer.grows_of_none rfl)

end Reader

end MemberStream
