import MemberStream.Proofs.Writer.Conserves

namespace MemberStream

/-!
# Closing keeps the books

Before a stream is completed its output is either that of successful steps, with
the bytes held to follow, or a placeholder and nothing else.  Completing it
submits what is held, so that in the end the sink has received all of the
output; a completion that fails stops with a part of it.
-/

namespace Writer

variable {σ ε : Type}

/-- A placeholder stands for the whole output of a stream. -/
structure Substituted
    (writer : Writer (RecordedSink σ) (RecordedEngine ε))
    (accepted : Bytes) :
    Prop extends Counts writer where
  held : writer.held = []
  consumed : writer.engine.figures.consumed = accepted
  silent : writer.engine.figures.succeeded = false
  received : writer.sink.received = writer.effective.placeholder

/-- A stream that can be completed: its content is held or submitted, or it has none. -/
def Completable
    (writer : Writer (RecordedSink σ) (RecordedEngine ε))
    (accepted : Bytes) :
    Prop :=
  (writer.Running accepted ∧
      (writer.held ≠ [] ∨ writer.engine.figures.succeeded = true)) ∨
    writer.Substituted accepted

/-- Closing the engine makes no entry in the books. -/
theorem sameBooks_teardown
    [EngineCalls ε]
    (writer : Writer (RecordedSink σ) (RecordedEngine ε)) :
    SameBooks writer.teardown writer := by
  unfold teardown
  split
  · exact ⟨RecordedEngine.figures_close writer.engine, rfl, rfl, rfl, rfl, rfl, rfl, rfl, rfl⟩
  · exact ⟨rfl, rfl, rfl, rfl, rfl, rfl, rfl, rfl, rfl⟩

/-- Closing the engine of a completed stream keeps its books, with or without a failure. -/
theorem conserves_of_closeEngine
    [EngineCalls ε]
    {writer : Writer (RecordedSink σ) (RecordedEngine ε)}
    {handed accepted : Bytes}
    (scope : Scope)
    (conserves : writer.Conserves handed accepted) :
    ((writer.closeEngine scope).2).Conserves handed accepted := by
  have figures := RecordedEngine.figures_close writer.engine
  unfold closeEngine
  cases answer : EngineCalls.close writer.engine with
  | mk result engine =>
      rw [answer] at figures
      cases result with
      | ok =>
          refine SameBooks.conserves ?_ conserves
          exact ⟨figures, rfl, rfl, rfl, rfl, rfl, rfl, rfl, rfl⟩
      | error error =>
          have same : SameBooks { writer with engine := engine, sessionOpen := false } writer :=
            ⟨figures, rfl, rfl, rfl, rfl, rfl, rfl, rfl, rfl⟩
          exact (same.conserves conserves).fail error _

/-- Marking the last chunk of a stream leaves it completable. -/
theorem Completable.mark
    [EngineCalls ε]
    {writer : Writer (RecordedSink σ) (RecordedEngine ε)}
    {accepted : Bytes}
    (completable : writer.Completable accepted)
    (phase : Phase) :
    Completable
      { writer with
        phase := phase
        engine := EngineCalls.setLast writer.engine true }
      accepted := by
  have figures := RecordedEngine.figures_setLast writer.engine true
  rcases completable with ⟨⟨agrees, content⟩, more⟩ | substituted
  · refine Or.inl ⟨⟨agrees.congr figures rfl rfl rfl rfl, ?_⟩, ?_⟩
    · change (EngineCalls.setLast writer.engine true).figures.consumed ++ _ = _
      rw [figures]
      exact content
    · change _ ∨ (EngineCalls.setLast writer.engine true).figures.succeeded = true
      rw [figures]
      exact more
  · obtain ⟨⟨crc, bytesIn, bytesOut⟩, held, consumed, silent, received⟩ := substituted
    rw [← figures] at crc bytesIn bytesOut consumed silent
    exact Or.inr ⟨⟨crc, bytesIn, bytesOut⟩, held, consumed, silent, received⟩

/-- A stream with nothing to show for itself that is not blank holds something back. -/
theorem completable_of_not_isBlank
    {writer : Writer (RecordedSink σ) (RecordedEngine ε)}
    {accepted : Bytes}
    (running : writer.Running accepted)
    (visible : writer.isBlank = false) :
    writer.Completable accepted := by
  refine Or.inl ⟨running, ?_⟩
  by_cases succeeded : writer.engine.figures.succeeded = true
  · exact Or.inr succeeded
  · left
    rw [Bool.not_eq_true] at succeeded
    have bytesIn := running.bytesIn
    rw [running.silent succeeded] at bytesIn
    rw [isBlank, running.wroteOutput, succeeded, bytesIn] at visible
    simpa using visible

/-- A blank stream has put nothing out and holds nothing. -/
theorem blank_of_isBlank
    {writer : Writer (RecordedSink σ) (RecordedEngine ε)}
    {accepted : Bytes}
    (running : writer.Running accepted)
    (blank : writer.isBlank = true) :
    writer.engine.figures.succeeded = false ∧
      writer.engine.figures.produced = [] ∧
      writer.held = [] := by
  simp only [isBlank, running.wroteOutput, Bool.and_eq_true, Bool.not_eq_true',
    List.isEmpty_iff] at blank
  obtain ⟨⟨silent, -⟩, held⟩ := blank
  exact ⟨silent, EngineFigures.produced_eq_nil silent, held⟩

/-- A placeholder that has been written makes a blank stream completable. -/
theorem completable_of_writePlaceholder_ok
    [Sink σ]
    {writer written : Writer (RecordedSink σ) (RecordedEngine ε)}
    {accepted : Bytes}
    {scope : Scope}
    (running : writer.Running accepted)
    (blank : writer.isBlank = true)
    (writes : writer.writePlaceholder scope = (.ok (), written)) :
    written.Completable accepted := by
  obtain ⟨silent, nothing, held⟩ := blank_of_isBlank running blank
  right
  unfold writePlaceholder at writes
  dsimp only at writes
  cases forwarded : Sink.writeAll writer.sink writer.effective.placeholder with
  | mk result sink =>
      rw [forwarded] at writes
      cases result with
      | error error =>
          cases writes
      | ok =>
          cases writes
          refine ⟨⟨running.crc, running.bytesIn, running.bytesOut⟩, held, ?_, silent, ?_⟩
          · rw [← running.content]
            change writer.engine.figures.consumed = _ ++ writer.held
            rw [held, List.append_nil]
          · change sink.received = _
            rw [RecordedSink.received_of_writeAll_ok forwarded, running.received, nothing]
            exact List.nil_append _

/-- A placeholder that could not be written has arrived in part. -/
theorem conserves_of_writePlaceholder_error
    [Sink σ]
    {writer failed : Writer (RecordedSink σ) (RecordedEngine ε)}
    {accepted : Bytes}
    {scope : Scope}
    {error : StreamError}
    (phase : writer.phase = .active)
    (running : writer.Running accepted)
    (blank : writer.isBlank = true)
    (writes : writer.writePlaceholder scope = (.error error, failed)) :
    ((failed.fail (α := Unit) scope error).2).Conserves accepted accepted := by
  obtain ⟨silent, nothing, -⟩ := blank_of_isBlank running blank
  unfold writePlaceholder at writes
  dsimp only at writes
  cases forwarded : Sink.writeAll writer.sink writer.effective.placeholder with
  | mk result sink =>
      rw [forwarded] at writes
      cases result with
      | ok =>
          cases writes
      | error cause =>
          cases writes
          obtain ⟨part, shorter, received⟩ := RecordedSink.received_of_writeAll_error forwarded
          apply Conserves.of_failure
          · exact Option.some_ne_none _
          · change writer.engine.figures.consumed <+: accepted
            exact ⟨writer.held, running.content⟩
          · change sink.received <+:
              if writer.engine.figures.succeeded then writer.engine.figures.produced
              else writer.effective.placeholder
            rw [received, running.received, nothing, silent]
            exact shorter
          · intro idle
            exact absurd (phase.symm.trans idle) (by decide)

variable [Sink σ] [Engine ε]

/-- When what is held has been submitted, a completable stream is completed. -/
theorem completed_of_flushHeld_ok
    {writer flushed : Writer (RecordedSink σ) (RecordedEngine ε)}
    {accepted : Bytes}
    {scope : Scope}
    (completable : writer.Completable accepted)
    (flushes : writer.flushHeld scope = (.ok (), flushed)) :
    flushed.phase = writer.phase ∧ flushed.Completed accepted := by
  rcases completable with ⟨⟨agrees, content⟩, more⟩ | substituted
  · obtain ⟨taken, held, succeeded⟩ := taken_of_flushHeld_ok agrees flushes
    have consumed := taken.content
    rw [held, List.append_nil, List.append_nil, content] at consumed
    refine ⟨taken.phase, taken.agrees.toCounts, held, consumed, ?_⟩
    simp only [output, succeeded more, if_true]
    exact taken.agrees.received
  · obtain ⟨⟨crc, bytesIn, bytesOut⟩, held, consumed, silent, received⟩ := substituted
    simp only [flushHeld, held, submit_nil] at flushes
    cases flushes
    refine ⟨rfl, ⟨⟨crc, bytesIn, bytesOut⟩, rfl, consumed, ?_⟩⟩
    simp only [output, silent, Bool.false_eq_true, if_false]
    exact received

/-- When what is held cannot be submitted, a completable stream has failed in order. -/
theorem conserves_of_flushHeld_error
    {writer failed : Writer (RecordedSink σ) (RecordedEngine ε)}
    {accepted : Bytes}
    {scope : Scope}
    {error : StreamError}
    (phase : writer.phase = .closed)
    (completable : writer.Completable accepted)
    (flushes : writer.flushHeld scope = (.error error, failed)) :
    failed.Conserves accepted accepted := by
  rcases completable with ⟨⟨agrees, content⟩, -⟩ | substituted
  · have broken := broken_of_flushHeld_error agrees flushes
    refine Conserves.of_failure broken.failure ?_ ?_ ?_
    · have consumed := broken.consumed
      rwa [content, List.append_nil] at consumed
    · exact received_prefix_output broken.received
    · simp [broken.phase, phase]
  · simp only [flushHeld, substituted.held, submit_nil] at flushes
    cases flushes

/-- Completing a stream keeps its books, whatever becomes of it. -/
theorem conserves_of_complete
    {writer : Writer (RecordedSink σ) (RecordedEngine ε)}
    {accepted : Bytes}
    (scope : Scope)
    (completable : writer.Completable accepted) :
    ((writer.complete scope).2).Conserves accepted accepted := by
  have drained {flushed : Writer (RecordedSink σ) (RecordedEngine ε)} {sink : RecordedSink σ}
      {result : Except TransportError Unit}
      (flushes : writer.markedLast.flushHeld scope = (.ok (), flushed))
      (drains : SinkCalls.flush flushed.sink = (result, sink)) :
      Conserves { flushed with sink := sink } accepted accepted := by
    obtain ⟨phase, completed⟩ := completed_of_flushHeld_ok (completable.mark .closed) flushes
    have received := RecordedSink.received_flush flushed.sink
    rw [drains] at received
    have same : SameBooks { flushed with sink := sink } flushed :=
      ⟨rfl, received, rfl, rfl, rfl, rfl, rfl, rfl, rfl⟩
    exact same.conserves (.of_completed phase completed)
  have comes := completes_complete writer scope
  generalize writer.complete scope = outcome at comes ⊢
  cases comes with
  | @unflushed _ failed flushes =>
      have conserves := conserves_of_flushHeld_error rfl (completable.mark .closed) flushes
      exact (sameBooks_teardown failed).conserves conserves
  | undrained flushes drains =>
      exact ((sameBooks_teardown _).conserves (drained flushes drains)).fail _ _
  | drained flushes drains =>
      exact conserves_of_closeEngine scope (drained flushes drains)

/-- Closing a stream keeps its books. -/
theorem conserves_of_close
    {writer : Writer (RecordedSink σ) (RecordedEngine ε)}
    {handed accepted : Bytes}
    (conserves : writer.Conserves handed accepted) :
    (writer.close).2.Conserves handed accepted := by
  have closes := closes_close writer
  generalize writer.close = outcome at closes
  cases closes with
  | again phase =>
      exact conserves
  | failed unclosed kept =>
      exact (sameBooks_teardown writer).conserves conserves
  | unready unclosed unfailed refused =>
      exact (conserves_of_unready conserves refused).1
  | @unplaced active failed scope error readied places blank =>
      obtain ⟨rfl, running⟩ := running_of_readied conserves readied
      exact ((sameBooks_teardown failed).fail _ error).conserves
        (conserves_of_writePlaceholder_error readied.open.1 running blank places)
  | completed readied shape =>
      obtain ⟨rfl, running⟩ := running_of_readied conserves readied
      rcases shape with ⟨rfl, visible⟩ | ⟨blank, places⟩
      · exact conserves_of_complete _ (completable_of_not_isBlank running visible)
      · exact conserves_of_complete _ (completable_of_writePlaceholder_ok running blank places)

end Writer

end MemberStream
