import MemberStream.Proofs.Writer.Frame
import MemberStream.Proofs.Writer.Segments

namespace MemberStream

/-!
# What a call that succeeds has gone through

A call that succeeds has gone through all of its parts, one after the other.  A
writer that is ready was active before, or has just started its session; one that
has been closed was ready, put out a placeholder if it was blank, and was then
completed.  A batch of options is staged while the writer is idle, and refused from
then on.
-/

namespace Writer

variable {σ ε : Type}

/-- Before a session, the options of a batch are staged up to the first that is refused. -/
theorem apply_of_idle
    {writer : Writer σ ε}
    (idle : writer.phase = .idle)
    (batch : List StreamOption) :
    writer.apply batch =
      ((stageOptions .writer batch writer.staged).1,
        { writer with staged := (stageOptions .writer batch writer.staged).2 }) := by
  unfold apply
  rw [idle]
  rfl

/-- A writer that has left the idle phase refuses every batch, and nothing changes. -/
theorem apply_of_unidle
    {writer : Writer σ ε}
    (unidle : writer.phase ≠ .idle)
    (batch : List StreamOption) :
    writer.apply batch = (.error .applyAfterStart, writer) := by
  have started : (writer.phase != .idle) = true := by
    simpa using unidle
  unfold apply
  rw [started]
  rfl

/-- What a session that has started changed. -/
structure Started
    [EngineCalls ε]
    (writer started : Writer σ ε) :
    Prop where
  engine :
    EngineCalls.start writer.engine (writer.staged.resolve writer.overrides) =
      (.ok (), started.engine)
  sink : started.sink = writer.sink
  overrides : started.overrides = writer.overrides
  staged : started.staged = writer.staged
  effective : started.effective = writer.staged.resolve writer.overrides
  phase : started.phase = .active
  sessionOpen : started.sessionOpen = true
  failure : started.failure = writer.failure
  held : started.held = []
  growth :
    started.growth =
      .start (writer.staged.resolve writer.overrides).bufferGrowth
        (writer.staged.resolve writer.overrides).maxBufferLength
  outputLength :
    started.outputLength =
      started.growth.initialLength (writer.staged.resolve writer.overrides).outputBufferLength
  wroteOutput : started.wroteOutput = false
  counters : started.counters = {}
  crc : started.crc = .empty

/-- A session that starts has started. -/
theorem started_of_startSession
    [EngineCalls ε]
    {writer started : Writer σ ε}
    {scope : Scope}
    (starts : writer.startSession scope = (.ok (), started)) :
    Started writer started := by
  unfold startSession at starts
  dsimp only at starts
  split at starts
  · cases starts
  · rename_i engine answer
    cases starts
    exact ⟨answer, rfl, rfl, rfl, rfl, rfl, rfl, rfl, rfl, rfl, rfl, rfl, rfl, rfl⟩

/-- A session that does not start leaves everything alone but the engine and the records. -/
theorem refused_of_startSession
    [EngineCalls ε]
    {writer idle : Writer σ ε}
    {scope : Scope}
    {error : StreamError}
    (starts : writer.startSession scope = (.error error, idle)) :
    ∃ engine span trace,
      EngineCalls.start writer.engine (writer.staged.resolve writer.overrides) =
          (.error error, engine) ∧
        idle = { writer with engine := engine, span := span, trace := trace } := by
  unfold startSession at starts
  dsimp only at starts
  split at starts
  · rename_i engine answer
    cases starts
    exact ⟨engine, _, _, answer, rfl⟩
  · cases starts

/-- How a writer can have become ready. -/
inductive Readied
    [EngineCalls ε]
    (writer : Writer σ ε) :
    Writer σ ε →
    Prop where
  /-- It was active already. -/
  | active
      (unfailed : writer.failure = none)
      (phase : writer.phase = .active) :
      Readied writer writer
  /-- It was idle, and its session has started. -/
  | started
      {started : Writer σ ε}
      (unfailed : writer.failure = none)
      (phase : writer.phase = .idle)
      (starts : Started writer started) :
      Readied writer started

theorem ready_of_active
    [EngineCalls ε]
    {writer : Writer σ ε}
    (unfailed : writer.failure = none)
    (phase : writer.phase = .active)
    (scope : Scope) :
    writer.ready scope = (.ok (), writer) := by
  unfold ready
  rw [unfailed, phase]

/-- A writer has become ready in one of these ways. -/
theorem readied_of_ready
    [EngineCalls ε]
    {writer active : Writer σ ε}
    {scope : Scope}
    (readies : writer.ready scope = (.ok (), active)) :
    Readied writer active := by
  unfold ready at readies
  split at readies
  · cases readies
  · rename_i unfailed
    split at readies
    · cases readies
    · rename_i phase
      cases readies
      exact .active unfailed phase
    · rename_i phase
      split at readies
      · rename_i started starts
        cases readies
        exact .started unfailed phase (started_of_startSession starts)
      · cases readies

/-- A writer that has become ready is active and has not failed. -/
theorem Readied.open
    [EngineCalls ε]
    {writer active : Writer σ ε}
    (readied : Readied writer active) :
    active.phase = .active ∧ active.failure = none ∧ writer.failure = none ∧
      writer.phase ≠ .closed := by
  cases readied with
  | active unfailed phase =>
      exact ⟨phase, unfailed, unfailed, by simp [phase]⟩
  | started unfailed phase starts =>
      exact ⟨starts.phase, starts.failure.trans unfailed, unfailed, by simp [phase]⟩

/-- A writer that has become ready still has its sink. -/
theorem Readied.sink
    [EngineCalls ε]
    {writer active : Writer σ ε}
    (readied : Readied writer active) :
    active.sink = writer.sink := by
  cases readied with
  | active unfailed phase =>
      rfl
  | started unfailed phase starts =>
      exact starts.sink

/-- Why a writer cannot have become ready, and what that leaves of it. -/
inductive Unready
    [EngineCalls ε]
    (writer : Writer σ ε) :
    StreamError →
    Writer σ ε →
    Prop where
  /-- It has failed before. -/
  | failed
      {error : StreamError}
      (kept : writer.failure = some error) :
      Unready writer error writer
  /-- It has been closed before. -/
  | closed
      (unfailed : writer.failure = none)
      (phase : writer.phase = .closed) :
      Unready writer .alreadyClosed writer
  /-- It was idle, and its session did not start. -/
  | refused
      {error : StreamError}
      {engine : ε}
      {span : Option Span}
      {trace : Trace}
      (unfailed : writer.failure = none)
      (phase : writer.phase = .idle)
      (answer :
        EngineCalls.start writer.engine (writer.staged.resolve writer.overrides) =
          (.error error, engine)) :
      Unready writer error
        { writer with
          engine := engine
          span := span
          trace := trace
          failure := some error }

/-- A writer that has not become ready has one of these reasons. -/
theorem unready_of_ready
    [EngineCalls ε]
    {writer next : Writer σ ε}
    {scope : Scope}
    {error : StreamError}
    (readies : writer.ready scope = (.error error, next)) :
    Unready writer error next := by
  unfold ready at readies
  split at readies
  · rename_i kept
    cases readies
    exact .failed kept
  · rename_i unfailed
    split at readies
    · rename_i phase
      cases readies
      exact .closed unfailed phase
    · cases readies
    · rename_i phase
      split at readies
      · cases readies
      · rename_i cause idle starts
        obtain ⟨engine, span, trace, answer, rfl⟩ := refused_of_startSession starts
        cases readies
        exact .refused unfailed phase answer

variable [Sink σ]

/-- Putting out a placeholder changes the sink and the trace, and leaves the rest alone. -/
theorem placed_of_writePlaceholder
    {writer written : Writer σ ε}
    {scope : Scope}
    (writes : writer.writePlaceholder scope = (.ok (), written)) :
    ∃ sink trace,
      Sink.writeAll writer.sink writer.effective.placeholder = (.ok (), sink) ∧
        written = { writer with sink := sink, trace := trace, wroteOutput := true } := by
  unfold writePlaceholder at writes
  dsimp only at writes
  cases forwarded : Sink.writeAll writer.sink writer.effective.placeholder with
  | mk result sink =>
      rw [forwarded] at writes
      cases result with
      | error error =>
          cases writes
      | ok =>
          cases writes
          exact ⟨sink, _, rfl, rfl⟩

/-- A placeholder that could not be put out changes the sink and the trace all the same. -/
theorem unplaced_of_writePlaceholder
    {writer failed : Writer σ ε}
    {scope : Scope}
    {error : StreamError}
    (writes : writer.writePlaceholder scope = (.error error, failed)) :
    ∃ sink trace,
      failed = { writer with sink := sink, trace := trace, wroteOutput := true } := by
  unfold writePlaceholder at writes
  dsimp only at writes
  cases forwarded : Sink.writeAll writer.sink writer.effective.placeholder with
  | mk result sink =>
      rw [forwarded] at writes
      cases result with
      | error cause =>
          cases writes
          exact ⟨sink, _, rfl⟩
      | ok =>
          cases writes

/-- What is completed differs from the ready writer by its sink and its records at most. -/
theorem eq_of_whole
    {active whole : Writer σ ε}
    {scope : Scope}
    (shape :
      whole = active ∧ active.isBlank = false ∨
        active.isBlank = true ∧ active.writePlaceholder scope = (.ok (), whole)) :
    ∃ sink trace wroteOutput,
      whole = { active with sink := sink, trace := trace, wroteOutput := wroteOutput } := by
  rcases shape with ⟨rfl, -⟩ | ⟨-, places⟩
  · exact ⟨_, _, _, rfl⟩
  · obtain ⟨sink, trace, -, placed⟩ := placed_of_writePlaceholder places
    exact ⟨sink, trace, true, placed⟩

variable [Engine ε]

/-- The writer whose last chunk has been marked as it is closed. -/
def markedLast
    (writer : Writer σ ε) :
    Writer σ ε :=
  { writer with
    phase := .closed
    engine := EngineCalls.setLast writer.engine true }

/-- Completing a stream flushes what is held back, the sink, and closes the engine. -/
theorem complete_eq
    (writer : Writer σ ε)
    (scope : Scope) :
    writer.complete scope =
      match writer.markedLast.flushHeld scope with
      | (.error error, failed) =>
          (.error error, failed.teardown)
      | (.ok (), flushed) =>
          let drained : Writer σ ε := { flushed with sink := (SinkCalls.flush flushed.sink).2 }
          match (SinkCalls.flush flushed.sink).1 with
          | .ok () =>
              drained.closeEngine scope
          | .error error =>
              drained.teardown.fail scope (.ofTransport error) :=
  rfl

/-- A stream that has been completed was flushed with its last chunk marked. -/
theorem flushed_of_complete
    {writer closed : Writer σ ε}
    {scope : Scope}
    (completes : writer.complete scope = (.ok (), closed)) :
    ∃ flushed sink engine trace,
      writer.markedLast.flushHeld scope = (.ok (), flushed) ∧
        SinkCalls.flush flushed.sink = (.ok (), sink) ∧
        EngineCalls.close flushed.engine = (.ok (), engine) ∧
        closed =
          { flushed with
            sink := sink
            engine := engine
            sessionOpen := false
            trace := trace } := by
  rw [complete_eq] at completes
  split at completes
  · cases completes
  · rename_i flushed flushes
    cases flushing : SinkCalls.flush flushed.sink with
    | mk result sink =>
        rw [flushing] at completes
        cases result with
        | error error =>
            cases completes
        | ok =>
            dsimp only [closeEngine] at completes
            cases closing : EngineCalls.close flushed.engine with
            | mk result engine =>
                rw [closing] at completes
                cases result with
                | error error =>
                    cases completes
                | ok =>
                    cases completes
                    exact ⟨flushed, sink, engine, _, flushes, flushing, closing, rfl⟩

/-- What is held back has been submitted when it has been flushed. -/
theorem submitted_of_flushHeld
    {writer flushed : Writer σ ε}
    {scope : Scope}
    (flushes : writer.flushHeld scope = (.ok (), flushed)) :
    ∃ count, ({ writer with held := [] } : Writer σ ε).submit scope 0 writer.held =
      (.ok count, flushed) := by
  unfold flushHeld at flushes
  split at flushes
  · rename_i count last submits
    cases flushes
    exact ⟨count, submits⟩
  · cases flushes

/-- What is held back has been refused when it cannot be flushed. -/
theorem refused_of_flushHeld
    {writer failed : Writer σ ε}
    {scope : Scope}
    {error : StreamError}
    (flushes : writer.flushHeld scope = (.error error, failed)) :
    ({ writer with held := [] } : Writer σ ε).submit scope 0 writer.held =
      (.error error, failed) := by
  unfold flushHeld at flushes
  split at flushes
  · cases flushes
  · rename_i submits
    cases flushes
    exact submits

theorem flushHeld_nil
    {writer : Writer σ ε}
    (held : writer.held = [])
    (scope : Scope) :
    writer.flushHeld scope = (.ok (), writer) := by
  have same : { writer with held := [] } = writer := by
    rw [← held]
  rw [flushHeld, held, submit_nil, same]

theorem flushHeld_of_submit
    {writer flushed : Writer σ ε}
    {scope : Scope}
    {count : Nat}
    (submits :
      ({ writer with held := [] } : Writer σ ε).submit scope 0 writer.held = (.ok count, flushed)) :
    writer.flushHeld scope = (.ok (), flushed) := by
  rw [flushHeld, submits]

/-- A buffer that is held back as a whole joins what is held when that has been flushed. -/
theorem writeChunk_of_holdsAll
    {writer active flushed : Writer σ ε}
    {bytes : Bytes}
    (readies : writer.ready writer.scope = (.ok (), active))
    (flushes : active.flushHeld (writer.scope ++ ["write"]) = (.ok (), flushed))
    (holds :
      flushed.effective.inputBufferMode.holdsAll flushed.effective.bounceBufferLength
        bytes.length = true) :
    writer.writeChunk bytes =
      (.ok bytes.length,
        ({ flushed with held := flushed.held ++ bytes } : Writer σ ε).report
          (writer.scope ++ ["write"]) (.held bytes.length)) := by
  unfold writeChunk stage
  dsimp only
  rw [readies]
  dsimp only
  rw [flushes]
  dsimp only
  rw [if_pos holds]

/-- Everything that taking a buffer can come to. -/
inductive Stages
    (writer : Writer σ ε)
    (scope : Scope)
    (bytes : Bytes) :
    Except StreamError Nat × Writer σ ε →
    Prop where
  /-- What was held back before it does not go out. -/
  | unflushed
      {error : StreamError}
      {failed : Writer σ ε}
      (flushes : writer.flushHeld scope = (.error error, failed)) :
      Stages writer scope bytes (.error error, failed)
  /-- The buffer is held back as a whole. -/
  | held
      {flushed : Writer σ ε}
      (flushes : writer.flushHeld scope = (.ok (), flushed))
      (holds :
        flushed.effective.inputBufferMode.holdsAll flushed.effective.bounceBufferLength
          bytes.length = true) :
      Stages writer scope bytes
        (.ok bytes.length,
          ({ flushed with held := flushed.held ++ bytes } : Writer σ ε).report scope
            (.held bytes.length))
  /-- Its front goes out, and the rest of it is held back. -/
  | cut
      {flushed submitted : Writer σ ε}
      {front tail : Bytes}
      {count : Nat}
      (flushes : writer.flushHeld scope = (.ok (), flushed))
      (splits :
        ¬ flushed.effective.inputBufferMode.holdsAll flushed.effective.bounceBufferLength
          bytes.length = true)
      (parts :
        flushed.effective.inputBufferMode.cut flushed.effective.bounceBufferLength bytes =
          (front, tail))
      (whole : front ++ tail = bytes)
      (submits :
        ({ flushed with held := flushed.held ++ tail } : Writer σ ε).submit scope 0 front =
          (.ok count, submitted)) :
      Stages writer scope bytes (.ok (count + tail.length), submitted)
  /-- Its front does not go out. -/
  | halted
      {flushed failed : Writer σ ε}
      {front tail : Bytes}
      {error : StreamError}
      (flushes : writer.flushHeld scope = (.ok (), flushed))
      (splits :
        ¬ flushed.effective.inputBufferMode.holdsAll flushed.effective.bounceBufferLength
          bytes.length = true)
      (parts :
        flushed.effective.inputBufferMode.cut flushed.effective.bounceBufferLength bytes =
          (front, tail))
      (whole : front ++ tail = bytes)
      (submits :
        ({ flushed with held := flushed.held ++ tail } : Writer σ ε).submit scope 0 front =
          (.error error, failed)) :
      Stages writer scope bytes (.error error, failed)

/-- Taking a buffer comes to one of the cases. -/
theorem stages_stage
    (writer : Writer σ ε)
    (scope : Scope)
    (bytes : Bytes) :
    Stages writer scope bytes (writer.stage scope bytes) := by
  unfold stage
  split
  · rename_i flushes
    exact .unflushed flushes
  · rename_i flushed flushes
    dsimp only
    split
    · rename_i holds
      exact .held flushes holds
    · rename_i splits
      have whole := flushed.effective.inputBufferMode.append_cut
        flushed.effective.bounceBufferLength bytes
      cases parts : flushed.effective.inputBufferMode.cut flushed.effective.bounceBufferLength
          bytes with
      | mk front tail =>
          rw [parts] at whole
          dsimp only
          split
          · rename_i submits
            exact .cut flushes splits parts whole submits
          · rename_i submits
            exact .halted flushes splits parts whole submits

/-- Everything that a write can come to. -/
inductive Writes
    (writer : Writer σ ε)
    (bytes : Bytes)
    (outcome : Except StreamError Nat × Writer σ ε) :
    Prop where
  | unready
      {error : StreamError}
      {next : Writer σ ε}
      (refused : Unready writer error next)
      (same : outcome = (.error error, next))
  | staged
      {active : Writer σ ε}
      (readied : Readied writer active)
      (stages : outcome = active.stage (writer.scope ++ ["write"]) bytes)

/-- A write comes to one of the cases. -/
theorem writes_writeChunk
    (writer : Writer σ ε)
    (bytes : Bytes) :
    Writes writer bytes (writer.writeChunk bytes) := by
  unfold writeChunk
  dsimp only
  split
  · rename_i readies
    exact .unready (unready_of_ready readies) rfl
  · rename_i readies
    exact .staged (readied_of_ready readies) rfl

/-- Everything that completing a stream can come to. -/
inductive Completes
    (writer : Writer σ ε)
    (scope : Scope) :
    Except StreamError Unit × Writer σ ε →
    Prop where
  /-- What was held back does not go out. -/
  | unflushed
      {error : StreamError}
      {failed : Writer σ ε}
      (flushes : writer.markedLast.flushHeld scope = (.error error, failed)) :
      Completes writer scope (.error error, failed.teardown)
  /-- The sink does not drain. -/
  | undrained
      {flushed : Writer σ ε}
      {sink : σ}
      {cause : TransportError}
      (flushes : writer.markedLast.flushHeld scope = (.ok (), flushed))
      (drains : SinkCalls.flush flushed.sink = (.error cause, sink)) :
      Completes writer scope
        (({ flushed with sink := sink } : Writer σ ε).teardown.fail scope (.ofTransport cause))
  /-- Everything has gone out, and the session is closed. -/
  | drained
      {flushed : Writer σ ε}
      {sink : σ}
      (flushes : writer.markedLast.flushHeld scope = (.ok (), flushed))
      (drains : SinkCalls.flush flushed.sink = (.ok (), sink)) :
      Completes writer scope (({ flushed with sink := sink } : Writer σ ε).closeEngine scope)

/-- Completing a stream comes to one of the cases. -/
theorem completes_complete
    (writer : Writer σ ε)
    (scope : Scope) :
    Completes writer scope (writer.complete scope) := by
  rw [complete_eq]
  split
  · rename_i flushes
    exact .unflushed flushes
  · rename_i flushed flushes
    cases drains : SinkCalls.flush flushed.sink with
    | mk result sink =>
        cases result with
        | ok =>
            exact .drained flushes drains
        | error cause =>
            exact .undrained flushes drains

/-- Closing a writer that becomes ready completes it, behind a placeholder if it is blank. -/
theorem close_of_ready
    {writer active : Writer σ ε}
    (readies : writer.ready writer.scope = (.ok (), active)) :
    writer.close =
      if active.isBlank then
        match active.writePlaceholder (writer.scope ++ ["close"]) with
        | (.ok (), written) =>
            written.complete (writer.scope ++ ["close"])
        | (.error error, failed) =>
            failed.teardown.fail (writer.scope ++ ["close"]) error
      else
        active.complete (writer.scope ++ ["close"]) := by
  obtain ⟨-, -, unfailed, unclosed⟩ := (readied_of_ready readies).open
  have unclosed : writer.isClosed = false := by
    simpa [isClosed] using unclosed
  unfold close
  dsimp only
  rw [unclosed, unfailed, readies]
  rfl

/-- Everything that closing a writer can come to. -/
inductive Closes
    (writer : Writer σ ε) :
    Except StreamError Unit × Writer σ ε →
    Prop where
  /-- It has been closed before. -/
  | again
      (phase : writer.phase = .closed) :
      Closes writer (.error .alreadyClosed, writer)
  /-- It has failed before. -/
  | failed
      {error : StreamError}
      (unclosed : writer.phase ≠ .closed)
      (kept : writer.failure = some error) :
      Closes writer (.error error, writer.teardown)
  /-- It was idle, and its session did not start. -/
  | unready
      {error : StreamError}
      {next : Writer σ ε}
      (unclosed : writer.phase ≠ .closed)
      (unfailed : writer.failure = none)
      (refused : Unready writer error next) :
      Closes writer (.error error, next)
  /-- It was blank, and the sink did not take the placeholder. -/
  | unplaced
      {active failed : Writer σ ε}
      {scope : Scope}
      {error : StreamError}
      (readied : Readied writer active)
      (places : active.writePlaceholder scope = (.error error, failed))
      (blank : active.isBlank = true) :
      Closes writer (failed.teardown.fail scope error)
  /-- It was completed as it was, or with a placeholder put out if it was blank. -/
  | completed
      {active whole : Writer σ ε}
      {scope : Scope}
      (readied : Readied writer active)
      (shape :
        whole = active ∧ active.isBlank = false ∨
          active.isBlank = true ∧ active.writePlaceholder scope = (.ok (), whole)) :
      Closes writer (whole.complete scope)

/-- Closing a writer comes to one of the cases. -/
theorem closes_close
    (writer : Writer σ ε) :
    Closes writer writer.close := by
  unfold close
  dsimp only
  split
  · rename_i closed
    exact .again (by simpa [isClosed] using closed)
  · rename_i unclosed
    have unclosed : writer.phase ≠ .closed := by
      simpa [isClosed] using unclosed
    split
    · rename_i kept
      exact .failed unclosed kept
    · rename_i unfailed
      have unfailed : writer.failure = none :=
        Option.eq_none_iff_forall_ne_some.mpr unfailed
      split
      · rename_i readies
        exact .unready unclosed unfailed (unready_of_ready readies)
      · rename_i active readies
        have readied := readied_of_ready readies
        split
        · rename_i blank
          split
          · rename_i written places
            exact .completed readied (.inr ⟨blank, places⟩)
          · rename_i places
            exact .unplaced readied places blank
        · rename_i visible
          exact .completed readied (.inl ⟨rfl, Bool.eq_false_iff.mpr visible⟩)

/--
A writer that has been closed was ready, and was completed in that state, or with
a placeholder put out if it was blank.
-/
theorem completed_of_close
    {writer closed : Writer σ ε}
    (succeeds : writer.close = (.ok (), closed)) :
    ∃ active whole scope,
      Readied writer active ∧
        whole.complete scope = (.ok (), closed) ∧
        (whole = active ∧ active.isBlank = false ∨
          active.isBlank = true ∧ active.writePlaceholder scope = (.ok (), whole)) := by
  have closes := closes_close writer
  rw [succeeds] at closes
  generalize outcome : (Except.ok (), closed) = result at closes
  cases closes with
  | @completed active whole scope readied shape =>
      exact ⟨active, whole, scope, readied, rfl, shape⟩
  | _ =>
      cases outcome

theorem finish_eq
    (writer : Writer σ ε) :
    writer.finish = (writer.close.1.map (fun _ => writer.close.2.sink), writer.close.2) := by
  unfold finish
  split <;> rename_i outcome <;> rw [outcome] <;> rfl

/-- What a close keeps, and what recording that it failed keeps, the close of a reset keeps. -/
theorem closeForReset_keeps
    {motive : Writer σ ε → Prop}
    (keepsReport :
      ∀ (writer : Writer σ ε) (error : StreamError),
        motive writer → motive (writer.report [] (.unfinished error)))
    {writer : Writer σ ε}
    (still : motive writer)
    (closes : writer.phase = .active → writer.failure = none → motive writer.close.2) :
    motive writer.closeForReset := by
  unfold closeForReset
  split
  · rename_i open_
    have closed := closes open_.1 open_.2
    split
    · rename_i answer
      rwa [answer] at closed
    · rename_i answer
      rw [answer] at closed
      exact keepsReport _ _ closed
  · exact still

/-- The writer whose session a reset starts. -/
def cleared
    (writer : Writer σ ε) :
    Writer σ ε :=
  { writer.closeForReset.teardown with
    failure := none
    phase := .idle
    held := []
    counters := {}
    crc := .empty }

/-- A reset starts the session of what it has cleared, and installs the new sink. -/
theorem reset_eq
    (writer : Writer σ ε)
    (sink : σ) :
    writer.reset sink =
      match writer.cleared.startSession [] with
      | (.ok (), started) =>
          (.ok started.sink, { started with sink := sink })
      | (.error error, idle) =>
          idle.fail [] error :=
  rfl

end Writer

end MemberStream
