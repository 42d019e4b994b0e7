import MemberStream.Proofs.Engine.Discipline
import MemberStream.Proofs.Writer.Renewal

namespace MemberStream

/-!
# Session discipline of writers

A writer opens the session of its engine when it becomes ready and when it is
reset, and closes it in one of five places.  What it remembers of its session
agrees with the calls on its engine after every request, whether the request
succeeded or failed.
-/

namespace Writer

variable {σ ε : Type}

/-- What a writer remembers of its session. -/
def session
    (writer : Writer σ (RecordedEngine ε)) :
    SessionState ε where
  engine := writer.engine
  sessionOpen := writer.sessionOpen
  phase := writer.phase
  failure := writer.failure

theorem inSession_of_same
    {writer next : Writer σ (RecordedEngine ε)}
    {phase : Phase}
    (inside : writer.session.InSession phase)
    (same : SameSession next writer)
    (engine : next.engine.Disciplined true) :
    next.session.InSession phase where
  engine := engine
  sessionOpen := same.sessionOpen.trans inside.sessionOpen
  phase := same.phase.trans inside.phase

section Session

variable [EngineCalls ε]

/-- The session of an engine that is marked stays open. -/
theorem disciplined_markedEngine
    {writer : Writer σ (RecordedEngine ε)}
    (engine : writer.engine.Disciplined true) :
    writer.markedEngine.Disciplined true := by
  unfold markedEngine
  split
  · exact RecordedEngine.disciplined_setLast engine true
  · exact engine

/-- Tearing down a writer tears down what it remembers of its session. -/
theorem session_teardown
    (writer : Writer σ (RecordedEngine ε)) :
    writer.teardown.session = writer.session.teardown := by
  unfold teardown SessionState.teardown
  change (if writer.sessionOpen = true then _ else _ : Writer σ _).session =
    if writer.sessionOpen = true then _ else _
  split <;> rfl

theorem inSession_of_started
    {writer started : Writer σ (RecordedEngine ε)}
    (outside : writer.engine.Disciplined false)
    (starts : Started writer started) :
    started.session.InSession .active where
  engine := RecordedEngine.disciplined_of_start outside starts.engine
  sessionOpen := starts.sessionOpen
  phase := starts.phase

/-- A writer that is ready is in a session. -/
theorem inSession_of_readied
    {writer active : Writer σ (RecordedEngine ε)}
    (disciplined : writer.session.Disciplined)
    (readied : Readied writer active) :
    active.session.InSession .active := by
  cases readied with
  | active unfailed phase =>
      exact disciplined.inSession unfailed phase
  | started unfailed idle starts =>
      have phase : writer.phase ≠ .active := by simp [idle]
      exact inSession_of_started (disciplined.outside phase).1 starts

/-- A writer that is not ready stays disciplined; it is quiet unless it had failed before. -/
theorem disciplined_of_unready
    {writer next : Writer σ (RecordedEngine ε)}
    {error : StreamError}
    (disciplined : writer.session.Disciplined)
    (unready : Unready writer error next) :
    next.session.Disciplined ∧ (writer.failure = none → next.session.Quiet) := by
  cases unready with
  | failed kept =>
      exact ⟨disciplined, fun unfailed => by simp [kept] at unfailed⟩
  | closed unfailed phase =>
      exact ⟨disciplined, fun _ => disciplined.quiet phase⟩
  | @refused error engine span trace unfailed idle answer =>
      have phase : writer.phase ≠ .active := by simp [idle]
      obtain ⟨outside, sessionOpen⟩ := disciplined.outside phase
      have quiet : SessionState.Quiet ⟨engine, writer.sessionOpen, writer.phase, some error⟩ := by
        rw [show writer.sessionOpen = false from sessionOpen]
        exact SessionState.quiet_of_start outside answer _
      exact ⟨quiet.disciplined, fun _ => quiet⟩

/-- Closing the engine leaves a writer quiet that is being closed. -/
theorem quiet_closeEngine
    {writer : Writer σ (RecordedEngine ε)}
    (scope : Scope)
    (inside : writer.session.InSession .closed) :
    (writer.closeEngine scope).2.session.Quiet := by
  unfold closeEngine
  cases answer : EngineCalls.close writer.engine with
  | mk result engine =>
      have closed := RecordedEngine.disciplined_of_close inside.engine answer
      cases result with
      | ok =>
          exact ⟨closed, rfl, .inl inside.phase⟩
      | error error =>
          exact ⟨closed, rfl, .inl inside.phase⟩

end Session

variable [Sink σ] [Engine ε]

/-- A submission stays in the session. -/
theorem inSession_submit
    {writer : Writer σ (RecordedEngine ε)}
    {phase : Phase}
    (scope : Scope)
    (offset : Nat)
    (input : Bytes)
    (inside : writer.session.InSession phase) :
    (writer.submit scope offset input).2.session.InSession phase := by
  revert inside
  apply submit_induction
    (motive := fun writer _ _ outcome =>
      writer.session.InSession phase → outcome.2.session.InSession phase)
  case finish =>
    intro writer offset inside
    exact inside
  case advance =>
    intro writer next offset count input outcome more advance later inside
    obtain ⟨reply, answer⟩ := compressed_of_advance advance
    have marked := disciplined_markedEngine inside.engine
    exact later (inSession_of_same inside (sameSession_of_advance advance).1
      (RecordedEngine.disciplined_of_compress marked answer))
  case halt =>
    intro writer failed offset input error more halt inside
    obtain ⟨reply, answer⟩ := compressed_of_halt halt
    have marked := disciplined_markedEngine inside.engine
    exact inSession_of_same inside (sameSession_of_halt halt).1
      (RecordedEngine.disciplined_of_compress marked answer)

/-- Flushing what is held back stays in the session. -/
theorem inSession_flushHeld
    {writer : Writer σ (RecordedEngine ε)}
    {phase : Phase}
    (scope : Scope)
    (inside : writer.session.InSession phase) :
    (writer.flushHeld scope).2.session.InSession phase := by
  apply flushHeld_keeps (motive := fun next => next.session.InSession phase)
  · intro next held inside
    exact inside
  · intro next input inside
    exact inSession_submit scope 0 input inside
  · exact inside

/-- Taking a buffer stays in the session. -/
theorem inSession_stage
    {writer : Writer σ (RecordedEngine ε)}
    {phase : Phase}
    (scope : Scope)
    (bytes : Bytes)
    (inside : writer.session.InSession phase) :
    (writer.stage scope bytes).2.session.InSession phase := by
  apply stage_keeps (motive := fun next => next.session.InSession phase)
  · intro next held inside
    exact inside
  · intro next input inside
    exact inSession_submit scope 0 input inside
  · intro next event inside
    exact inside
  · exact inside

/-- A write keeps a writer disciplined. -/
theorem disciplined_writeChunk
    {writer : Writer σ (RecordedEngine ε)}
    (bytes : Bytes)
    (disciplined : writer.session.Disciplined) :
    (writer.writeChunk bytes).2.session.Disciplined := by
  cases writes_writeChunk writer bytes with
  | unready refused same =>
      rw [same]
      exact (disciplined_of_unready disciplined refused).1
  | staged readied stages =>
      rw [stages]
      have inside := inSession_of_readied disciplined readied
      exact (inSession_stage _ bytes inside).disciplined

/-- Completing a stream ends its session, whatever fails on the way. -/
theorem quiet_complete
    {writer : Writer σ (RecordedEngine ε)}
    (scope : Scope)
    (inside : writer.session.InSession .active) :
    (writer.complete scope).2.session.Quiet := by
  have marked : writer.markedLast.session.InSession .closed :=
    ⟨RecordedEngine.disciplined_setLast inside.engine true, inside.sessionOpen, rfl⟩
  have flushed := inSession_flushHeld scope marked
  have torn {next : Writer σ (RecordedEngine ε)} (inside : next.session.InSession .closed) :
      next.teardown.session.Quiet := by
    rw [session_teardown]
    exact SessionState.quiet_teardown inside.known (.inl inside.phase)
  have comes := completes_complete writer scope
  generalize writer.complete scope = outcome at comes ⊢
  cases comes with
  | unflushed flushes =>
      rw [flushes] at flushed
      exact torn flushed
  | @undrained next sink cause flushes drains =>
      rw [flushes] at flushed
      have still : ({ next with sink := sink } : Writer _ _).session.InSession .closed := flushed
      obtain ⟨engine, sessionOpen, -⟩ := torn still
      exact ⟨engine, sessionOpen, .inr (by simp [fail, session])⟩
  | drained flushes drains =>
      rw [flushes] at flushed
      exact quiet_closeEngine scope flushed

/-- Closing a writer ends its session, whatever it answers. -/
theorem quiet_close
    {writer : Writer σ (RecordedEngine ε)}
    (disciplined : writer.session.Disciplined) :
    writer.close.2.session.Quiet := by
  have closes := closes_close writer
  generalize writer.close = outcome at closes
  cases closes with
  | again phase =>
      exact disciplined.quiet phase
  | failed unclosed kept =>
      change writer.teardown.session.Quiet
      rw [session_teardown]
      exact SessionState.quiet_teardown disciplined.engine (.inr (by simp [kept, session]))
  | unready unclosed unfailed refused =>
      exact (disciplined_of_unready disciplined refused).2 unfailed
  | @unplaced active failed scope error readied places =>
      have inside := inSession_of_readied disciplined readied
      have known : failed.session.engine.Disciplined failed.session.sessionOpen := by
        obtain ⟨sink, trace, rfl⟩ := unplaced_of_writePlaceholder places
        exact inside.known
      obtain ⟨engine, sessionOpen, -⟩ := SessionState.disciplined_teardown known
      rw [← session_teardown] at engine sessionOpen
      exact ⟨engine, sessionOpen, .inr (by simp [fail, session])⟩
  | completed readied shape =>
      have inside := inSession_of_readied disciplined readied
      obtain ⟨sink, trace, wroteOutput, rfl⟩ := eq_of_whole shape
      exact quiet_complete _ inside

/-- What a reset has cleared has no session open. -/
theorem disciplined_cleared
    {writer : Writer σ (RecordedEngine ε)}
    (disciplined : writer.session.Disciplined) :
    writer.cleared.engine.Disciplined false ∧ writer.cleared.sessionOpen = false := by
  have closed : writer.closeForReset.session.Disciplined := by
    apply closeForReset_keeps (motive := fun next => next.session.Disciplined)
    · intro failed error disciplined
      exact disciplined
    · exact disciplined
    · intro active unfailed
      exact (quiet_close disciplined).disciplined
  obtain ⟨engine, sessionOpen, -⟩ := SessionState.disciplined_teardown closed.engine
  rw [← session_teardown] at engine sessionOpen
  exact ⟨engine, sessionOpen⟩

/-- A reset keeps a writer disciplined, whether or not the next session starts. -/
theorem disciplined_reset
    {writer : Writer σ (RecordedEngine ε)}
    (sink : σ)
    (disciplined : writer.session.Disciplined) :
    (writer.reset sink).2.session.Disciplined := by
  obtain ⟨outside, sessionOpen⟩ := disciplined_cleared disciplined
  rw [reset_eq]
  split
  · rename_i started starts
    exact (inSession_of_started outside (started_of_startSession starts)).disciplined
  · rename_i error idle starts
    obtain ⟨next, span, trace, answer, rfl⟩ := refused_of_startSession starts
    have quiet := SessionState.quiet_of_start outside answer .idle
    rw [← sessionOpen] at quiet
    exact quiet.disciplined

/-- Every request keeps a writer disciplined. -/
theorem disciplined_serve
    {writer : Writer σ (RecordedEngine ε)}
    (request : WriterRequest σ)
    (disciplined : writer.session.Disciplined) :
    (writer.serve request).2.session.Disciplined := by
  have served := served_serve writer request
  generalize (writer.serve request).1.error? = error?, (writer.serve request).2 = next at served ⊢
  cases served with
  | @wrote call bytes writes =>
      exact disciplined_writeChunk bytes disciplined
  | closed closes =>
      exact (quiet_close disciplined).disciplined
  | flushed flushes | applied options | overridden overrides | altered change =>
      exact disciplined
  | reset sink =>
      exact disciplined_reset sink disciplined

/-- A quiet writer takes no data. -/
theorem writeChunk_of_quiet
    {writer : Writer σ (RecordedEngine ε)}
    (bytes : Bytes)
    (quiet : writer.session.Quiet) :
    (writer.writeChunk bytes).2 = writer := by
  cases writes_writeChunk writer bytes with
  | unready refused same =>
      rw [same]
      cases refused with
      | failed kept | closed unfailed phase =>
          rfl
      | refused unfailed phase answer =>
          have closed : writer.phase = .closed :=
            quiet.refuses.resolve_right (not_not_intro unfailed)
          cases phase.symm.trans closed
  | staged readied stages =>
      obtain ⟨-, -, unfailed, unclosed⟩ := readied.open
      exact absurd (quiet.refuses.resolve_right (not_not_intro unfailed)) unclosed

/-- A quiet writer has nothing to close. -/
theorem close_of_quiet
    {writer : Writer σ (RecordedEngine ε)}
    (quiet : writer.session.Quiet) :
    writer.close.2 = writer := by
  have closes := closes_close writer
  generalize writer.close = outcome at closes
  cases closes with
  | again phase =>
      rfl
  | failed unclosed kept =>
      have none : ¬ writer.sessionOpen = true := by
        rw [show writer.sessionOpen = false from quiet.sessionOpen]
        exact Bool.false_ne_true
      exact if_neg none
  | unready unclosed unfailed refused =>
      exact (quiet.refuses.elim unclosed (· unfailed)).elim
  | unplaced readied places | completed readied shape =>
      obtain ⟨-, -, unfailed, unclosed⟩ := readied.open
      exact (quiet.refuses.elim unclosed (· unfailed)).elim

/-- A quiet writer makes no call on its engine and stays quiet, unless it is reset. -/
theorem session_serve_of_quiet
    {writer : Writer σ (RecordedEngine ε)}
    (request : WriterRequest σ)
    (noReset : request.isReset = false)
    (quiet : writer.session.Quiet) :
    (writer.serve request).2.session = writer.session := by
  have served := served_serve writer request
  generalize (writer.serve request).1.error? = error?, (writer.serve request).2 = next at served ⊢
  cases served with
  | @wrote call bytes writes =>
      exact congrArg session (writeChunk_of_quiet bytes quiet)
  | closed closes =>
      exact congrArg session (close_of_quiet quiet)
  | flushed flushes | applied options | overridden overrides | altered change =>
      rfl
  | reset sink =>
      cases noReset

/-- A quiet writer makes no call on its engine before it is reset. -/
theorem session_serveEach_of_quiet
    {writer : Writer σ (RecordedEngine ε)}
    {requests : List (WriterRequest σ)}
    (noReset : ∀ request, request ∈ requests → request.isReset = false)
    (quiet : writer.session.Quiet) :
    (writer.serveEach requests).session = writer.session := by
  apply serveEach_keeps (motive := fun next => next.session = writer.session) _ rfl
  intro next request member same
  rw [← same] at quiet ⊢
  exact session_serve_of_quiet request (noReset request member) quiet

end Writer

end MemberStream
