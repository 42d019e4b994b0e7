import MemberStream.Proofs.Engine.Discipline
import MemberStream.Proofs.Writer.Absorbing
import MemberStream.Rehearsal.Engine
import MemberStream.Rehearsal.Transport

namespace MemberStream

/-!
# A failure freezes a writer

Whatever a request for data, a close or a reset fails of is kept.  From then on the
writer refuses data with that failure, and nothing moves before it is reset: not the
sink, the counters, the checksum or what is held back, and not the engine, either,
whose session may only be closed.
-/

/-- What a request does to the sink of a writer that refuses data. -/
def WriterRequest.alteration
    {σ : Type} :
    WriterRequest σ → σ → σ
  | .alter change =>
      change
  | _ =>
      id

/-- Whether a request closes the writer. -/
def WriterRequest.isClose
    {σ : Type} :
    WriterRequest σ → Bool
  | .call .close | .finish =>
      true
  | _ =>
      false

namespace Writer

variable {σ ε : Type}

section Session

variable [EngineCalls ε]

/-- Tearing down leaves everything alone but the session. -/
theorem teardown_eq
    (writer : Writer σ ε) :
    ∃ engine sessionOpen,
      writer.teardown = { writer with engine := engine, sessionOpen := sessionOpen } := by
  unfold teardown
  split
  · exact ⟨_, _, rfl⟩
  · exact ⟨_, _, rfl⟩

theorem failure_teardown
    (writer : Writer σ ε) :
    writer.teardown.failure = writer.failure := by
  obtain ⟨engine, sessionOpen, torn⟩ := teardown_eq writer
  rw [torn]

/-- A writer that has not become ready has kept the reason, unless it had been closed. -/
theorem kept_of_unready
    {writer next : Writer σ ε}
    {error : StreamError}
    (unready : Unready writer error next)
    (terminal : error ≠ .alreadyClosed ∨ writer.phase ≠ .closed) :
    next.failure = some error ∧ next.phase = writer.phase := by
  cases unready with
  | failed kept =>
      exact ⟨kept, rfl⟩
  | closed unfailed phase =>
      rcases terminal with other | unclosed
      · exact absurd rfl other
      · exact absurd phase unclosed
  | refused unfailed phase answer =>
      exact ⟨rfl, rfl⟩

/-- A writer that fails to close its engine has kept the reason. -/
theorem kept_of_closeEngine
    {writer failed : Writer σ ε}
    {scope : Scope}
    {error : StreamError}
    (closes : writer.closeEngine scope = (.error error, failed)) :
    failed.failure = some error := by
  unfold closeEngine at closes
  dsimp only at closes
  split at closes
  · cases closes
  · cases closes
    rfl

end Session

variable [Sink σ] [Engine ε]

theorem kept_of_submit
    {writer failed : Writer σ ε}
    {scope : Scope}
    {offset : Nat}
    {input : Bytes}
    {error : StreamError}
    (submits : writer.submit scope offset input = (.error error, failed)) :
    failed.failure = some error ∧ failed.phase = writer.phase := by
  obtain ⟨same, kept⟩ := sameSession_submit writer scope offset input
  rw [submits] at same kept
  exact ⟨kept, same.phase⟩

theorem kept_of_flushHeld
    {writer failed : Writer σ ε}
    {scope : Scope}
    {error : StreamError}
    (flushes : writer.flushHeld scope = (.error error, failed)) :
    failed.failure = some error ∧ failed.phase = writer.phase := by
  obtain ⟨kept, phase⟩ := kept_of_submit (refused_of_flushHeld flushes)
  exact ⟨kept, phase⟩

/-- A writer that fails to take a buffer has kept the reason. -/
theorem kept_of_stage
    {writer failed : Writer σ ε}
    {scope : Scope}
    {bytes : Bytes}
    {error : StreamError}
    (stages : writer.stage scope bytes = (.error error, failed)) :
    failed.failure = some error ∧ failed.phase = writer.phase := by
  have comes := stages_stage writer scope bytes
  rw [stages] at comes
  cases comes with
  | unflushed flushes =>
      exact kept_of_flushHeld flushes
  | halted flushes _ _ _ submits =>
      obtain ⟨count, held⟩ := submitted_of_flushHeld flushes
      have same := (sameSession_submit { writer with held := [] } scope 0 writer.held).1
      rw [held] at same
      obtain ⟨kept, phase⟩ := kept_of_submit submits
      exact ⟨kept, phase.trans same.phase⟩

/--
A write that fails has kept the reason, unless the writer had been closed; it does not
close the writer.
-/
theorem kept_of_writeChunk
    {writer failed : Writer σ ε}
    {bytes : Bytes}
    {error : StreamError}
    (writes : writer.writeChunk bytes = (.error error, failed))
    (terminal : error ≠ .alreadyClosed ∨ writer.phase ≠ .closed) :
    failed.failure = some error ∧ (failed.phase = .closed → writer.phase = .closed) := by
  have comes := writes_writeChunk writer bytes
  rw [writes] at comes
  cases comes with
  | unready refused same =>
      cases same
      obtain ⟨kept, phase⟩ := kept_of_unready refused terminal
      exact ⟨kept, phase.symm.trans⟩
  | staged readied stages =>
      obtain ⟨kept, phase⟩ := kept_of_stage stages.symm
      refine ⟨kept, ?_⟩
      intro closed
      rw [phase, readied.open.1] at closed
      cases closed

/-- A writer that fails to be completed has kept the reason. -/
theorem kept_of_complete
    {writer failed : Writer σ ε}
    {scope : Scope}
    {error : StreamError}
    (completes : writer.complete scope = (.error error, failed)) :
    failed.failure = some error := by
  have comes := completes_complete writer scope
  rw [completes] at comes
  generalize outcome : (Except.error error, failed) = result at comes
  cases comes with
  | @unflushed _ last flushes =>
      cases outcome
      exact (failure_teardown last).trans (kept_of_flushHeld flushes).1
  | undrained flushes drains =>
      cases outcome
      rfl
  | drained flushes drains =>
      exact kept_of_closeEngine outcome.symm

/-- A close that fails has kept the reason, unless the writer had been closed. -/
theorem kept_of_close
    {writer failed : Writer σ ε}
    {error : StreamError}
    (fails : writer.close = (.error error, failed))
    (terminal : error ≠ .alreadyClosed ∨ writer.phase ≠ .closed) :
    failed.failure = some error := by
  have closes := closes_close writer
  rw [fails] at closes
  generalize outcome : ((.error error : Except StreamError Unit), failed) = result at closes
  cases closes with
  | again phase =>
      cases outcome
      rcases terminal with other | unclosed
      · exact absurd rfl other
      · exact absurd phase unclosed
  | failed unclosed kept =>
      cases outcome
      exact (failure_teardown writer).trans kept
  | unready unclosed unfailed refused =>
      cases outcome
      exact (kept_of_unready refused terminal).1
  | unplaced readied places =>
      cases outcome
      rfl
  | completed readied shape =>
      exact kept_of_complete outcome.symm

/-- A reset that fails has kept the reason, and leaves the writer idle. -/
theorem kept_of_reset
    {writer failed : Writer σ ε}
    {sink : σ}
    {error : StreamError}
    (resets : writer.reset sink = (.error error, failed)) :
    failed.failure = some error ∧ failed.phase = .idle := by
  rw [reset_eq] at resets
  split at resets
  · cases resets
  · rename_i cause idle starts
    obtain ⟨engine, span, trace, -, rfl⟩ := refused_of_startSession starts
    cases resets
    exact ⟨rfl, rfl⟩

/--
A request that fails has kept the reason, unless it was refused because the writer had been
closed; only a close leaves the writer closed.
-/
theorem kept_of_serve
    {writer : Writer σ ε}
    {request : WriterRequest σ}
    {error : StreamError}
    (fails : (writer.serve request).1.error? = some error)
    (terminal : error ≠ .alreadyClosed ∨ writer.phase ≠ .closed) :
    (writer.serve request).2.failure = some error ∧
      ((writer.serve request).2.phase = .closed →
        writer.phase = .closed ∨ request.isClose = true) := by
  have served := served_serve writer request
  generalize (writer.serve request).1.error? = error?, (writer.serve request).2 = next
    at served fails ⊢
  cases served with
  | wrote writes =>
      obtain ⟨kept, phase⟩ := kept_of_writeChunk (eq_error_of_errorOf fails) terminal
      exact ⟨kept, fun closed => .inl (phase closed)⟩
  | closed closes =>
      refine ⟨kept_of_close (eq_error_of_errorOf fails) terminal, fun _ => .inr ?_⟩
      rcases closes with rfl | rfl
      · rfl
      · rfl
  | flushed flushes | applied options | overridden overrides | altered change =>
      cases fails
  | reset sink =>
      obtain ⟨kept, idle⟩ := kept_of_reset (eq_error_of_errorOf fails)
      refine ⟨kept, fun closed => ?_⟩
      rw [idle] at closed
      cases closed

section Closes

/-- How often a writer has closed its engine. -/
def closes
    (writer : Writer σ (RecordedEngine ε)) :
    Nat :=
  writer.engine.calls.countP EngineCall.isClose

/-- How often a writer will have closed its engine when its session has been closed, too. -/
def closesDue
    (writer : Writer σ (RecordedEngine ε)) :
    Nat :=
  writer.closes + writer.sessionOpen.toNat

omit [Sink σ] [Engine ε] in
/-- At most one close is due. -/
theorem closesDue_le
    (writer : Writer σ (RecordedEngine ε)) :
    writer.closesDue ≤ writer.closes + 1 :=
  Nat.add_le_add_left (Bool.toNat_le _) _

omit [Sink σ] in
/-- Tearing a session down makes the close that was due. -/
theorem closesDue_teardown
    (writer : Writer σ (RecordedEngine ε)) :
    writer.teardown.closesDue = writer.closesDue := by
  unfold closesDue closes teardown
  split
  · rename_i sessionOpen
    change List.countP _ (_ :: writer.engine.calls) + 0 = _
    rw [List.countP_cons_of_pos rfl, sessionOpen]
    rfl
  · rfl

omit [Sink σ] in
/-- Becoming ready closes no session. -/
theorem closes_of_readied
    {writer active : Writer σ (RecordedEngine ε)}
    (readied : Readied writer active) :
    active.closes = writer.closes := by
  cases readied with
  | active unfailed phase =>
      rfl
  | started unfailed phase starts =>
      unfold closes
      rw [RecordedEngine.calls_of_start starts.engine]
      exact List.countP_cons_of_neg Bool.false_ne_true

omit [Sink σ] in
/-- Failing to become ready closes no session, either. -/
theorem closes_of_unready
    {writer next : Writer σ (RecordedEngine ε)}
    {error : StreamError}
    (unready : Unready writer error next) :
    next.closes = writer.closes := by
  cases unready with
  | failed kept =>
      rfl
  | closed unfailed phase =>
      rfl
  | refused unfailed phase answer =>
      unfold closes
      rw [RecordedEngine.calls_of_start answer]
      exact List.countP_cons_of_neg Bool.false_ne_true

/-- A submission closes no session. -/
theorem closes_submit
    (writer : Writer σ (RecordedEngine ε))
    (scope : Scope)
    (offset : Nat)
    (input : Bytes) :
    (writer.submit scope offset input).2.closes = writer.closes := by
  have round {writer next : Writer σ (RecordedEngine ε)} {input : Bytes} {reply : Reply}
      (answer :
        EngineCalls.compress writer.markedEngine input writer.outputLength =
          (reply, next.engine)) :
      next.closes = writer.closes := by
    unfold closes
    rw [calls_of_markedEngine answer]
    split <;> rfl
  apply submit_induction
    (motive := fun (writer : Writer σ (RecordedEngine ε)) _ _ outcome =>
      outcome.2.closes = writer.closes)
  case finish =>
    intro writer offset
    rfl
  case advance =>
    intro writer next offset count input outcome more advance later
    obtain ⟨reply, answer⟩ := compressed_of_advance advance
    exact later.trans (round answer)
  case halt =>
    intro writer failed offset input error more halt
    obtain ⟨reply, answer⟩ := compressed_of_halt halt
    exact round answer

/-- Flushing what is held back closes no session. -/
theorem closes_flushHeld
    (writer : Writer σ (RecordedEngine ε))
    (scope : Scope) :
    (writer.flushHeld scope).2.closes = writer.closes := by
  apply flushHeld_keeps (motive := fun next => next.closes = writer.closes)
  · intro next held same
    exact same
  · intro next input same
    exact (closes_submit next scope 0 input).trans same
  · rfl

/-- Taking a buffer closes no session. -/
theorem closes_stage
    (writer : Writer σ (RecordedEngine ε))
    (scope : Scope)
    (bytes : Bytes) :
    (writer.stage scope bytes).2.closes = writer.closes := by
  apply stage_keeps (motive := fun next => next.closes = writer.closes)
  · intro next held same
    exact same
  · intro next input same
    exact (closes_submit next scope 0 input).trans same
  · intro next event same
    exact same
  · rfl

/-- A write closes no session. -/
theorem closes_writeChunk
    (writer : Writer σ (RecordedEngine ε))
    (bytes : Bytes) :
    (writer.writeChunk bytes).2.closes = writer.closes := by
  cases writes_writeChunk writer bytes with
  | unready refused same =>
      rw [same]
      exact closes_of_unready refused
  | @staged active readied stages =>
      rw [stages]
      exact (closes_stage active _ bytes).trans (closes_of_readied readied)

/-- Completing a stream closes its session once. -/
theorem closesDue_complete
    (writer : Writer σ (RecordedEngine ε))
    (scope : Scope) :
    (writer.complete scope).2.closesDue ≤ writer.closes + 1 := by
  have marked : writer.markedLast.closes = writer.closes :=
    List.countP_cons_of_neg Bool.false_ne_true
  have flushed := (closes_flushHeld writer.markedLast scope).trans marked
  have comes := completes_complete writer scope
  generalize writer.complete scope = outcome at comes ⊢
  cases comes with
  | @unflushed _ failed flushes =>
      rw [flushes] at flushed
      change failed.teardown.closesDue ≤ _
      rw [closesDue_teardown, ← flushed]
      exact closesDue_le failed
  | @undrained next sink cause flushes drains =>
      rw [flushes] at flushed
      change (teardown { next with sink := sink }).closesDue ≤ _
      rw [closesDue_teardown, ← flushed]
      exact closesDue_le next
  | @drained next sink flushes drains =>
      rw [flushes] at flushed
      change next.closes = _ at flushed
      unfold closeEngine
      cases closing : EngineCalls.close next.engine with
      | mk result engine =>
          have once : engine.calls.countP EngineCall.isClose = writer.closes + 1 := by
            rw [RecordedEngine.calls_of_close closing, List.countP_cons_of_pos rfl]
            exact congrArg (· + 1) flushed
          cases result with
          | ok =>
              exact once.le
          | error error =>
              exact once.le

/-- Closing a writer closes at most one session. -/
theorem closesDue_close
    (writer : Writer σ (RecordedEngine ε)) :
    writer.close.2.closesDue ≤ writer.closes + 1 := by
  have closes := closes_close writer
  generalize writer.close = outcome at closes
  cases closes with
  | again phase =>
      exact closesDue_le writer
  | failed unclosed kept =>
      exact (closesDue_teardown writer).trans_le (closesDue_le writer)
  | unready unclosed unfailed refused =>
      rw [← closes_of_unready refused]
      exact closesDue_le _
  | @unplaced active failed scope error readied places =>
      have same : failed.closes = active.closes := by
        obtain ⟨sink, trace, rfl⟩ := unplaced_of_writePlaceholder places
        rfl
      change failed.teardown.closesDue ≤ _
      rw [closesDue_teardown, ← closes_of_readied readied, ← same]
      exact closesDue_le failed
  | @completed active whole scope readied shape =>
      have same : whole.closes = active.closes := by
        obtain ⟨sink, trace, wroteOutput, rfl⟩ := eq_of_whole shape
        rfl
      rw [← closes_of_readied readied, ← same]
      exact closesDue_complete whole scope

/-- A reset closes at most one session before it starts the next. -/
theorem closesDue_cleared
    (writer : Writer σ (RecordedEngine ε)) :
    writer.cleared.closesDue ≤ writer.closes + 1 := by
  have closed : writer.closeForReset.closesDue ≤ writer.closes + 1 := by
    apply closeForReset_keeps (motive := fun next => next.closesDue ≤ writer.closes + 1)
    · intro failed error due
      exact due
    · exact closesDue_le writer
    · intro active unfailed
      exact closesDue_close writer
  exact (closesDue_teardown writer.closeForReset).trans_le closed

/-- A request that fails closes at most one session, and its own will have been the only one. -/
theorem closesDue_of_serve
    {writer : Writer σ (RecordedEngine ε)}
    {request : WriterRequest σ}
    {error : StreamError}
    (fails : (writer.serve request).1.error? = some error) :
    (writer.serve request).2.closesDue ≤ writer.closes + 1 := by
  have served := served_serve writer request
  generalize (writer.serve request).1.error? = error?, (writer.serve request).2 = next
    at served fails ⊢
  cases served with
  | @wrote call bytes writes =>
      rw [← closes_writeChunk writer bytes]
      exact closesDue_le _
  | closed closes =>
      exact closesDue_close writer
  | flushed flushes | applied options | overridden overrides | altered change =>
      cases fails
  | reset sink =>
      rw [reset_eq] at fails ⊢
      split
      · rename_i starts
        rw [starts] at fails
        cases fails
      · rename_i idle starts
        obtain ⟨engine, span, trace, answer, rfl⟩ := refused_of_startSession starts
        refine Eq.trans_le ?_ (closesDue_cleared writer)
        change engine.calls.countP EngineCall.isClose + _ = _
        rw [RecordedEngine.calls_of_start answer]
        exact congrArg (· + _) (List.countP_cons_of_neg Bool.false_ne_true)

end Closes

/-- What a writer answers that has failed. -/
structure Refuses
    (writer : Writer σ ε)
    (error : StreamError) :
    Prop where
  writeChunk : ∀ bytes, writer.writeChunk bytes = (.error error, writer)
  write : ∀ bytes, writer.write bytes = (.error (.wrapped error), writer)
  flush : writer.flush = (.error (.wrapped error), writer)
  /-- Closing closes the engine only; a writer that is closed says so. -/
  close :
    writer.close =
      if writer.isClosed then
        (.error .alreadyClosed, writer)
      else
        (.error error, writer.teardown)

/-- A writer that has kept a failure answers with that. -/
theorem refuses_of_failure
    {writer : Writer σ ε}
    {error : StreamError}
    (kept : writer.failure = some error) :
    writer.Refuses error := by
  have unready : writer.ready writer.scope = (.error error, writer) := by
    unfold ready
    rw [kept]
  have refused (bytes : Bytes) : writer.writeChunk bytes = (.error error, writer) := by
    unfold Writer.writeChunk
    dsimp only
    rw [unready]
  refine ⟨refused, ?_, ?_, ?_⟩
  · intro bytes
    unfold Writer.write
    rw [refused]
    rfl
  · unfold Writer.flush
    rw [kept]
  · unfold Writer.close
    dsimp only
    rw [kept]

/-- The states of a writer that has failed, before it is reset: only its session may be closed. -/
structure Frozen
    (failed writer : Writer σ (RecordedEngine ε)) :
    Prop where
  failure : writer.failure = failed.failure
  phase : writer.phase = failed.phase
  counters : writer.counters = failed.counters
  crc : writer.crc = failed.crc
  held : writer.held = failed.held
  closing :
    (writer.engine = failed.engine ∧ writer.sessionOpen = failed.sessionOpen) ∨
      ∃ result,
        failed.sessionOpen = true ∧ writer.sessionOpen = false ∧
          writer.engine.calls = .close result :: failed.engine.calls

namespace Frozen

omit [Sink σ] [Engine ε] in
theorem refl
    (writer : Writer σ (RecordedEngine ε)) :
    Frozen writer writer :=
  ⟨rfl, rfl, rfl, rfl, rfl, .inl ⟨rfl, rfl⟩⟩

omit [Sink σ] in
/-- Tearing down a frozen writer closes its session if that has not been done. -/
theorem teardown
    {failed writer : Writer σ (RecordedEngine ε)}
    (frozen : Frozen failed writer) :
    Frozen failed writer.teardown := by
  unfold Writer.teardown
  split
  · rename_i sessionOpen
    refine ⟨frozen.failure, frozen.phase, frozen.counters, frozen.crc, frozen.held, .inr ?_⟩
    rcases frozen.closing with ⟨engine, still⟩ | ⟨result, -, closed, -⟩
    · refine ⟨(EngineCalls.close writer.engine).1, still.symm.trans sessionOpen, rfl, ?_⟩
      rw [← engine]
      rfl
    · rw [sessionOpen] at closed
      cases closed
  · exact frozen

end Frozen

/-- No request but a reset thaws a writer that has failed, or reaches its sink. -/
theorem frozen_serve
    {failed writer : Writer σ (RecordedEngine ε)}
    {error : StreamError}
    (kept : failed.failure = some error)
    (request : WriterRequest σ)
    (noReset : request.isReset = false)
    (frozen : Frozen failed writer) :
    Frozen failed (writer.serve request).2 ∧
      (writer.serve request).2.sink = request.alteration writer.sink := by
  have refuses := refuses_of_failure (frozen.failure.trans kept)
  have closed : Frozen failed writer.close.2 ∧ writer.close.2.sink = writer.sink := by
    rw [refuses.close]
    split
    · exact ⟨frozen, rfl⟩
    · refine ⟨frozen.teardown, ?_⟩
      change writer.teardown.sink = writer.sink
      obtain ⟨engine, sessionOpen, torn⟩ := teardown_eq writer
      rw [torn]
  have served := served_serve writer request
  generalize (writer.serve request).1.error? = error?, (writer.serve request).2 = next at served ⊢
  cases served with
  | wrote writes =>
      rw [refuses.writeChunk]
      exact ⟨frozen, rfl⟩
  | flushed flushes =>
      rw [refuses.flush] at flushes
      rw [← flushes]
      exact ⟨frozen, rfl⟩
  | closed closes =>
      rcases closes with rfl | rfl
      · exact closed
      · exact closed
  | applied options | overridden overrides | altered change =>
      exact ⟨⟨frozen.failure, frozen.phase, frozen.counters, frozen.crc, frozen.held,
        frozen.closing⟩, rfl⟩
  | reset sink =>
      cases noReset

/-- A writer that has failed stays frozen until it is reset, and leaves its sink alone. -/
theorem frozen_serveEach
    {failed writer : Writer σ (RecordedEngine ε)}
    {requests : List (WriterRequest σ)}
    {error : StreamError}
    (kept : failed.failure = some error)
    (noReset : ∀ request, request ∈ requests → request.isReset = false)
    (frozen : Frozen failed writer) :
    Frozen failed (writer.serveEach requests) ∧
      (writer.serveEach requests).sink =
        requests.foldl (fun sink request => request.alteration sink) writer.sink := by
  induction requests generalizing writer with
  | nil =>
      exact ⟨frozen, rfl⟩
  | cons request rest ih =>
      obtain ⟨still, sink⟩ :=
        frozen_serve kept request (noReset request List.mem_cons_self) frozen
      obtain ⟨last, sinks⟩ :=
        ih (fun other member => noReset other (List.mem_cons_of_mem request member)) still
      refine ⟨last, ?_⟩
      rw [List.foldl_cons, ← sink]
      exact sinks

omit [Sink σ] [Engine ε] in
/-- Closing the session of a frozen writer makes the close that was due. -/
theorem Frozen.closesDue
    {failed writer : Writer σ (RecordedEngine ε)}
    (frozen : Frozen failed writer) :
    writer.closesDue = failed.closesDue := by
  unfold Writer.closesDue closes
  rcases frozen.closing with ⟨engine, sessionOpen⟩ | ⟨result, sessionOpen, closed, calls⟩
  · rw [engine, sessionOpen]
  · rw [calls, List.countP_cons_of_pos rfl, sessionOpen, closed]
    rfl

/--
Once a write, a close or a reset has failed, except that a closed writer was asked again, the
writer answers every write and flush with that failure and without any effect, until it is
reset; and so it answers a close, except that it says that it is closed when a close that
failed had closed it.  Its sink, counters, checksum and held bytes stay as they were when it
failed, and its engine is not called again but for one close at most, counting any that was
made by what failed.

An insufficient buffer is no such failure: the compress call after it is offered the same
input and more room, or there is none and the failure is that the limit of the buffer was
exceeded.  So it is in the closing of a reset, too, which keeps that failure to itself and
answers with what the engine says to the start of the next session.
-/
theorem frozen_of_failure
    {σ ε : Type}
    [Sink σ]
    [Engine ε]
    (writer : Writer σ (RecordedEngine ε))
    (request : WriterRequest σ) :
    (∀ (error : StreamError) (between : List (WriterRequest σ)),
      (writer.serve request).1.error? = some error →
        (error ≠ .alreadyClosed ∨ writer.phase ≠ .closed) →
          (∀ later, later ∈ between → later.isReset = false) →
            let failed := (writer.serve request).2
            let frozen := failed.serveEach between
            frozen.Refuses error ∧
              frozen.isClosed = failed.isClosed ∧
              (failed.isClosed = true → writer.isClosed = true ∨ request.isClose = true) ∧
              frozen.sink =
                between.foldl (fun sink later => later.alteration sink) failed.sink ∧
              frozen.counters = failed.counters ∧
              frozen.crc = failed.crc ∧
              frozen.held = failed.held ∧
              (frozen.close.2.engine = failed.engine ∨
                ∃ result,
                  frozen.close.2.engine.calls = .close result :: failed.engine.calls) ∧
              frozen.close.2.closes ≤ writer.closes + 1) ∧
      (request.isReset = false →
        ∃ more,
          (writer.serve request).2.engine.calls = more ++ writer.engine.calls ∧
            EngineCall.Absorbed more (writer.serve request).1.error?) ∧
      ∀ sink,
        ∃ more parameters result,
          (writer.serve (.reset sink)).2.engine.calls =
              .start parameters result :: (more ++ writer.engine.calls) ∧
            EngineCall.Absorbed more writer.closingFailure ∧
            (writer.serve (.reset sink)).1.error? = errorOf result := by
  refine ⟨?_, absorbed_serve writer request, absorbed_reset writer⟩
  intro error between fails terminal noReset failed frozen
  obtain ⟨kept, closed⟩ := kept_of_serve fails terminal
  obtain ⟨still, sink⟩ := frozen_serveEach kept noReset (.refl failed)
  obtain ⟨last, -⟩ := frozen_serve kept (.call .close) rfl still
  have due : frozen.close.2.closesDue ≤ writer.closes + 1 :=
    last.closesDue.trans_le (closesDue_of_serve fails)
  refine ⟨refuses_of_failure (still.failure.trans kept), congrArg (· == .closed) still.phase, ?_,
    sink, still.counters, still.crc, still.held, ?_, Nat.le_of_add_right_le due⟩
  · intro marked
    rcases closed (beq_iff_eq.mp marked) with before | closes
    · exact .inl (beq_iff_eq.mpr before)
    · exact .inr closes
  · rcases last.closing with ⟨engine, -⟩ | ⟨result, -, -, calls⟩
    · exact .inl engine
    · exact .inr ⟨result, calls⟩

/--
The law holds of a writer whose session does not start, and of one whose sink cannot be
flushed as it is closed, and that is closed from then on.
-/
theorem frozen_of_failure_scripted :
    let refusing : Writer ScriptedSink (RecordedEngine ScriptedEngine) :=
      { sink := {}, engine := { engine := { onStart := [(1, .timeout)] } } }
    let blocked : Writer ScriptedSink (RecordedEngine ScriptedEngine) :=
      { sink := { flushFailure := some (.plain .other) }
        engine := { engine := { active := true, starts := 1 } }
        phase := .active
        sessionOpen := true
        wroteOutput := true }
    let idle := (refusing.serve (.call (.writeChunk [1]))).2
    let closed := (blocked.serve (.call .close)).2
    (idle.serveEach [.call .close, .apply []]).Refuses .timeout ∧
      (idle.serveEach [.call .close, .apply []]).sink = idle.sink ∧
      (closed.serveEach [.call .flush]).Refuses (.ofTransport (.plain .other)) ∧
      (closed.serveEach [.call .flush]).isClosed = true ∧
      (closed.serveEach [.call .flush]).close.2.closes ≤ 1 := by
  intro refusing blocked idle closed
  have unstarted : (refusing.serve (.call (.writeChunk [1]))).1.error? = some .timeout :=
    rfl
  have completes :
      blocked.close =
        (({ blocked.markedLast with sink := (SinkCalls.flush blocked.sink).2 } :
            Writer _ _).teardown.fail ["close"] (.ofTransport (.plain .other))) := by
    have completed : blocked.close = blocked.complete ["close"] :=
      rfl
    rw [completed, complete_eq, flushHeld_nil rfl]
    rfl
  have unflushed :
      (blocked.serve (.call .close)).1.error? = some (.ofTransport (.plain .other)) := by
    change (WriterAnswer.closed blocked.close.1).error? = _
    rw [completes]
    rfl
  have marked : closed.isClosed = true := by
    change blocked.close.2.isClosed = true
    rw [completes]
    rfl
  obtain ⟨refuses, -, -, sink, -⟩ :=
    (frozen_of_failure refusing (.call (.writeChunk [1]))).1 .timeout [.call .close, .apply []]
      unstarted (.inl (by decide)) (by simp [WriterRequest.isReset])
  obtain ⟨refusesToo, same, -, -, -, -, -, -, closes⟩ :=
    (frozen_of_failure blocked (.call .close)).1 (.ofTransport (.plain .other)) [.call .flush]
      unflushed (.inr (by decide)) (by simp [WriterRequest.isReset])
  exact ⟨refuses, sink, refusesToo, same.trans marked, closes⟩

end Writer

end MemberStream
