import MemberStream.Proofs.Writer.Conservation
import MemberStream.Proofs.Writer.Phases

namespace MemberStream

/-!
# Buffers in, bytes held or submitted

A buffer is first joined to what is held back, then cut by the input buffer
mode.  Whatever the mode, the bytes consumed followed by those held grow by
exactly the buffer.
-/

namespace Writer

variable {σ ε : Type}

/-- A writer has taken some bytes: they were consumed or are held, after all bytes before. -/
structure Taken
    (writer next : Writer (RecordedSink σ) (RecordedEngine ε))
    (bytes : Bytes) :
    Prop where
  agrees : next.Agrees
  content :
    next.engine.figures.consumed ++ next.held =
      writer.engine.figures.consumed ++ writer.held ++ bytes
  effective : next.effective = writer.effective
  phase : next.phase = writer.phase
  failure : next.failure = writer.failure

/-- A writer has failed on some bytes, none of which went out of order. -/
structure Broken
    (writer failed : Writer (RecordedSink σ) (RecordedEngine ε))
    (bytes : Bytes) :
    Prop where
  consumed :
    failed.engine.figures.consumed <+:
      writer.engine.figures.consumed ++ writer.held ++ bytes
  received : failed.sink.received <+: failed.engine.figures.produced
  effective : failed.effective = writer.effective
  phase : failed.phase = writer.phase
  failure : failed.failure ≠ none

variable [Sink σ] [Engine ε]

/-- A submission that succeeds has put all of its input through, in the same session. -/
theorem submitted_of_submit
    {writer next : Writer (RecordedSink σ) (RecordedEngine ε)}
    {scope : Scope}
    {input : Bytes}
    {count : Nat}
    (submits : writer.submit scope 0 input = (.ok count, next))
    (agrees : writer.Agrees) :
    count = input.length ∧
      Submitted writer next input ∧
      SameSession next writer ∧
      next.failure = writer.failure := by
  have conserved := submit_conserves writer scope 0 input agrees
  have same := sameSession_submit writer scope 0 input
  rw [submits] at conserved same
  exact ⟨by simpa using conserved.1, conserved.2, same.1, same.2⟩

/-- A submission that fails has abandoned its input, and its failure is kept. -/
theorem abandoned_of_submit
    {writer failed : Writer (RecordedSink σ) (RecordedEngine ε)}
    {scope : Scope}
    {input : Bytes}
    {error : StreamError}
    (submits : writer.submit scope 0 input = (.error error, failed))
    (agrees : writer.Agrees) :
    Abandoned writer failed input ∧
      SameSession failed writer ∧
      failed.failure = some error := by
  have conserved := submit_conserves writer scope 0 input agrees
  have same := sameSession_submit writer scope 0 input
  rw [submits] at conserved same
  exact ⟨conserved, same.1, same.2⟩

/-- What was held back has been submitted when it is flushed. -/
theorem taken_of_flushHeld_ok
    {writer flushed : Writer (RecordedSink σ) (RecordedEngine ε)}
    {scope : Scope}
    (agrees : writer.Agrees)
    (flushes : writer.flushHeld scope = (.ok (), flushed)) :
    Taken writer flushed [] ∧
      flushed.held = [] ∧
      (writer.held ≠ [] ∨ writer.engine.figures.succeeded = true →
        flushed.engine.figures.succeeded = true) := by
  obtain ⟨count, submits⟩ := submitted_of_flushHeld flushes
  obtain ⟨-, submitted, same, failure⟩ :=
    submitted_of_submit submits (agrees.congr rfl rfl rfl rfl rfl)
  have held : flushed.held = [] := same.held
  refine ⟨⟨submitted.agrees, ?_, same.effective, same.phase, failure⟩, held, submitted.succeeded⟩
  rw [held, submitted.consumed, List.append_nil]

/-- A flush that fails has lost its place in nothing but what was held back. -/
theorem broken_of_flushHeld_error
    {writer failed : Writer (RecordedSink σ) (RecordedEngine ε)}
    {scope : Scope}
    {error : StreamError}
    (agrees : writer.Agrees)
    (flushes : writer.flushHeld scope = (.error error, failed)) :
    Broken writer failed [] := by
  obtain ⟨abandoned, same, failure⟩ :=
    abandoned_of_submit (refused_of_flushHeld flushes) (agrees.congr rfl rfl rfl rfl rfl)
  refine ⟨?_, abandoned.received, same.effective, same.phase, by simp [failure]⟩
  rw [List.append_nil]
  exact abandoned.consumed

/-- A writer that takes a buffer takes all of it. -/
theorem taken_of_stage_ok
    {writer next : Writer (RecordedSink σ) (RecordedEngine ε)}
    {scope : Scope}
    {bytes : Bytes}
    {count : Nat}
    (agrees : writer.Agrees)
    (stages : writer.stage scope bytes = (.ok count, next)) :
    count = bytes.length ∧ Taken writer next bytes := by
  have comes := stages_stage writer scope bytes
  rw [stages] at comes
  cases comes with
  | @held flushed flushes holds =>
      obtain ⟨⟨agreed, content, effective, phase, failure⟩, empty, -⟩ :=
        taken_of_flushHeld_ok agrees flushes
      rw [empty, List.append_nil, List.append_nil] at content
      refine ⟨rfl, agreed.congr rfl rfl rfl rfl rfl, ?_, effective, phase, failure⟩
      change flushed.engine.figures.consumed ++ (flushed.held ++ bytes) = _
      rw [empty, content, List.nil_append]
  | @cut flushed _ front tail count flushes splits parts whole submits =>
      obtain ⟨⟨agreed, content, effective, phase, failure⟩, empty, -⟩ :=
        taken_of_flushHeld_ok agrees flushes
      rw [empty, List.append_nil, List.append_nil] at content
      obtain ⟨rfl, through, same, kept⟩ :=
        submitted_of_submit submits (agreed.congr rfl rfl rfl rfl rfl)
      refine ⟨?_, through.agrees, ?_, same.effective.trans effective, same.phase.trans phase,
        kept.trans failure⟩
      · rw [← List.length_append, whole]
      · rw [through.consumed, same.held, empty, List.nil_append, List.append_assoc, whole]
        change flushed.engine.figures.consumed ++ _ = _
        rw [content]

/-- A writer that fails on a buffer has lost its place in nothing but what it was about to take. -/
theorem broken_of_stage_error
    {writer failed : Writer (RecordedSink σ) (RecordedEngine ε)}
    {scope : Scope}
    {bytes : Bytes}
    {error : StreamError}
    (agrees : writer.Agrees)
    (stages : writer.stage scope bytes = (.error error, failed)) :
    Broken writer failed bytes := by
  have comes := stages_stage writer scope bytes
  rw [stages] at comes
  cases comes with
  | unflushed flushes =>
      obtain ⟨consumed, received, effective, phase, failure⟩ :=
        broken_of_flushHeld_error agrees flushes
      rw [List.append_nil] at consumed
      exact ⟨consumed.trans (List.prefix_append _ _), received, effective, phase, failure⟩
  | @halted flushed _ front tail _ flushes _ _ whole submits =>
      obtain ⟨⟨agreed, content, effective, phase, -⟩, empty, -⟩ :=
        taken_of_flushHeld_ok agrees flushes
      rw [empty, List.append_nil, List.append_nil] at content
      obtain ⟨abandoned, same, kept⟩ :=
        abandoned_of_submit submits (agreed.congr rfl rfl rfl rfl rfl)
      refine ⟨?_, abandoned.received, same.effective.trans effective, same.phase.trans phase,
        by simp [kept]⟩
      have consumed := abandoned.consumed
      change _ <+: flushed.engine.figures.consumed ++ _ at consumed
      rw [content] at consumed
      refine consumed.trans ((List.prefix_append_right_inj _).mpr ?_)
      exact ⟨_, whole⟩

end Writer

end MemberStream
