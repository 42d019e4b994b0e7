import MemberStream.Proofs.Reader.Discipline
import MemberStream.Proofs.Writer.Discipline
import MemberStream.Rehearsal.Engine
import MemberStream.Rehearsal.Transport

namespace MemberStream

/-!
# Streams keep session discipline

Whatever is requested of a stream, and whatever its engine and its sink or source
answer, the calls on the engine are disciplined.
-/

/--
The calls that a writer or a reader makes on its engine, from when it was built on, are
disciplined, and close every session at most once before the next start.  After a close,
whatever it answers, no session is open, and no request before the next reset makes a call
on the engine, another close included; closing an idle reader makes none, either.
-/
theorem disciplined_of_requests
    {σ ρ ε : Type}
    [Sink σ]
    [Source ρ]
    [Engine ε]
    (engine : ε)
    (overrides : Overrides)
    (staged : ParameterSet) :
    (∀ (sink : σ) (requests : List (WriterRequest σ)),
      let built : Writer σ (RecordedEngine ε) := { sink, engine := { engine }, overrides, staged }
      let writer := built.serveEach requests
      let closed := writer.close.2
      EngineCall.Disciplined writer.engine.calls ∧
        EngineCall.ClosedOnce writer.engine.calls ∧
        EngineCall.Disciplined closed.engine.calls ∧
        EngineCall.leaveOpen closed.engine.calls = false ∧
        ∀ between : List (WriterRequest σ),
          (∀ request, request ∈ between → request.isReset = false) →
            (closed.serveEach between).engine = closed.engine ∧
              (closed.serveEach between).close.2.engine = closed.engine) ∧
      ∀ (source : ρ) (requests : List (ReaderRequest ρ)),
        let built : Reader ρ (RecordedEngine ε) :=
          { source, engine := { engine }, overrides, staged }
        let reader := built.serveEach requests
        let closed := reader.close.2
        EngineCall.Disciplined reader.engine.calls ∧
          EngineCall.ClosedOnce reader.engine.calls ∧
          EngineCall.Disciplined closed.engine.calls ∧
          EngineCall.leaveOpen closed.engine.calls = false ∧
          (reader.phase = .idle → closed.engine = reader.engine) ∧
          ∀ between : List (ReaderRequest ρ),
            (∀ request, request ∈ between → request.isReset = false) →
              (closed.serveEach between).engine = closed.engine ∧
                (closed.serveEach between).close.2.engine = closed.engine := by
  constructor
  · intro sink requests built writer closed
    have disciplined : writer.session.Disciplined :=
      Writer.serveEach_keeps (motive := fun next => next.session.Disciplined)
        (fun _ request _ => Writer.disciplined_serve request)
        (SessionState.disciplined_of_built engine)
    have quiet : closed.session.Quiet := Writer.quiet_close disciplined
    refine ⟨disciplined.engine.calls, disciplined.engine.calls.closedOnce, quiet.engine.calls,
      quiet.engine.leaveOpen, ?_⟩
    intro between noReset
    have same := Writer.session_serveEach_of_quiet noReset quiet
    have still : (closed.serveEach between).session.Quiet := by
      rwa [same]
    refine ⟨congrArg SessionState.engine same, ?_⟩
    rw [Writer.close_of_quiet still]
    exact congrArg SessionState.engine same
  · intro source requests built reader closed
    have disciplined : reader.session.Disciplined :=
      Reader.serveEach_keeps (motive := fun next => next.session.Disciplined)
        (fun _ request _ => Reader.disciplined_serve request)
        (SessionState.disciplined_of_built engine)
    have quiet : closed.session.Quiet := Reader.quiet_close disciplined
    have phase : closed.phase = .closed := Reader.phase_close reader
    refine ⟨disciplined.engine.calls, disciplined.engine.calls.closedOnce, quiet.engine.calls,
      quiet.engine.leaveOpen, ?_, ?_⟩
    · intro idle
      change reader.close.2.engine = reader.engine
      rw [Reader.close_of_idle idle]
    · intro between noReset
      have same := Reader.session_serveEach_of_closed noReset phase
      have still : (closed.serveEach between).phase = .closed :=
        (congrArg SessionState.phase same).trans phase
      refine ⟨congrArg SessionState.engine same, ?_⟩
      rw [Reader.close_of_closed still]
      exact congrArg SessionState.engine same

/--
The law holds of a writer whose first start and whose first close fail, and of an idle
reader that is closed, read from and closed again.
-/
theorem disciplined_of_requests_failing :
    let engine : ScriptedEngine :=
      { onStart := [(1, .timeout)], onClose := [(1, .timeout)] }
    let writer : Writer ScriptedSink (RecordedEngine ScriptedEngine) :=
      { sink := {}, engine := { engine }, overrides := {}, staged := {} }
    let used := writer.serveEach [.call (.writeChunk [1]), .reset {}]
    let reader : Reader ScriptedSource (RecordedEngine ScriptedEngine) :=
      { source := {}, engine := { engine }, overrides := {}, staged := {} }
    let unused := reader.serveEach []
    EngineCall.ClosedOnce used.engine.calls ∧
      (used.close.2.serveEach [.call (.write [2])]).close.2.engine = used.close.2.engine ∧
      unused.phase = .idle ∧
      unused.close.2.engine = unused.engine ∧
      (unused.close.2.serveEach [.read 4]).close.2.engine = unused.close.2.engine := by
  dsimp only
  obtain ⟨writers, readers⟩ :=
    disciplined_of_requests (σ := ScriptedSink) (ρ := ScriptedSource)
      ({ onStart := [(1, .timeout)], onClose := [(1, .timeout)] } : ScriptedEngine) {} {}
  obtain ⟨-, once, -, -, quiet⟩ := writers {} [.call (.writeChunk [1]), .reset {}]
  obtain ⟨-, -, -, -, idle, silent⟩ := readers {} []
  have noWriterReset :
      ∀ request, request ∈ [WriterRequest.call (σ := ScriptedSink) (.write [2])] →
        request.isReset = false := by
    intro request member
    rw [List.mem_singleton.mp member]
    rfl
  have noReaderReset :
      ∀ request, request ∈ [ReaderRequest.read (σ := ScriptedSource) 4] →
        request.isReset = false := by
    intro request member
    rw [List.mem_singleton.mp member]
    rfl
  exact ⟨once, (quiet _ noWriterReset).2, rfl, idle rfl, (silent _ noReaderReset).2⟩

end MemberStream
