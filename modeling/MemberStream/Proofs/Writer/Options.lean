import MemberStream.Proofs.Writer.Phases
import MemberStream.Proofs.Writer.Streams

namespace MemberStream

/-!
# What calls leave staged

No call on data changes the staged parameters or the overrides, whether it
succeeds or fails.  So the next session of a stream starts under the same
parameters as the one before it.
-/

namespace Writer

variable {σ ε : Type}

/-- Two states of a stream under the same options. -/
structure SameOptions
    (next writer : Writer σ ε) :
    Prop where
  overrides : next.overrides = writer.overrides
  staged : next.staged = writer.staged

namespace SameOptions

theorem refl
    (writer : Writer σ ε) :
    SameOptions writer writer where
  overrides := rfl
  staged := rfl

theorem trans
    {last next writer : Writer σ ε}
    (later : SameOptions last next)
    (earlier : SameOptions next writer) :
    SameOptions last writer where
  overrides := later.overrides.trans earlier.overrides
  staged := later.staged.trans earlier.staged

theorem resolve
    {next writer : Writer σ ε}
    (same : SameOptions next writer) :
    next.staged.resolve next.overrides = writer.staged.resolve writer.overrides := by
  rw [same.staged, same.overrides]

end SameOptions

section Session

variable [EngineCalls ε]

theorem sameOptions_startSession
    (writer : Writer σ ε)
    (scope : Scope) :
    SameOptions (writer.startSession scope).2 writer := by
  unfold startSession
  dsimp only
  split <;> exact ⟨rfl, rfl⟩

theorem sameOptions_teardown
    (writer : Writer σ ε) :
    SameOptions writer.teardown writer := by
  unfold teardown
  split <;> exact ⟨rfl, rfl⟩

/-- A writer that is ready is under its options. -/
theorem sameOptions_of_readied
    {writer active : Writer σ ε}
    (readied : Readied writer active) :
    SameOptions active writer := by
  cases readied with
  | active unfailed phase =>
      exact .refl writer
  | started unfailed phase starts =>
      exact ⟨starts.overrides, starts.staged⟩

theorem sameOptions_of_unready
    {writer next : Writer σ ε}
    {error : StreamError}
    (refused : Unready writer error next) :
    SameOptions next writer := by
  cases refused <;> exact ⟨rfl, rfl⟩

end Session

variable [Sink σ]

variable [Engine ε]

theorem sameOptions_submit
    (writer : Writer σ ε)
    (scope : Scope)
    (offset : Nat)
    (input : Bytes) :
    SameOptions (writer.submit scope offset input).2 writer := by
  have same := (sameSession_submit writer scope offset input).1
  exact ⟨same.overrides, same.staged⟩

/-- Flushing what is held back keeps the options. -/
theorem sameOptions_flushHeld
    (writer : Writer σ ε)
    (scope : Scope) :
    SameOptions (writer.flushHeld scope).2 writer := by
  apply flushHeld_keeps (motive := fun next => SameOptions next writer)
  · intro next held same
    exact ⟨same.overrides, same.staged⟩
  · intro next input same
    exact (sameOptions_submit next scope 0 input).trans same
  · exact .refl writer

/-- Taking a buffer keeps the options. -/
theorem sameOptions_stage
    (writer : Writer σ ε)
    (scope : Scope)
    (bytes : Bytes) :
    SameOptions (writer.stage scope bytes).2 writer := by
  apply stage_keeps (motive := fun next => SameOptions next writer)
  · intro next held same
    exact ⟨same.overrides, same.staged⟩
  · intro next input same
    exact (sameOptions_submit next scope 0 input).trans same
  · intro next event same
    exact ⟨same.overrides, same.staged⟩
  · exact .refl writer

/-- A write keeps the options. -/
theorem sameOptions_writeChunk
    (writer : Writer σ ε)
    (bytes : Bytes) :
    SameOptions (writer.writeChunk bytes).2 writer := by
  cases writes_writeChunk writer bytes with
  | unready refused same =>
      rw [same]
      exact sameOptions_of_unready refused
  | @staged active readied stages =>
      rw [stages]
      exact (sameOptions_stage active _ bytes).trans (sameOptions_of_readied readied)

/-- Any number of writes keeps the options. -/
theorem sameOptions_writeEach
    (writer : Writer σ ε)
    (buffers : List Bytes) :
    SameOptions (writer.writeEach buffers).2 writer := by
  induction buffers generalizing writer with
  | nil =>
      exact .refl writer
  | cons bytes buffers ih =>
      exact (ih (writer.writeChunk bytes).2).trans (sameOptions_writeChunk writer bytes)

/-- Completing a stream keeps the options. -/
theorem sameOptions_complete
    (writer : Writer σ ε)
    (scope : Scope) :
    SameOptions (writer.complete scope).2 writer := by
  have marked : SameOptions writer.markedLast writer := ⟨rfl, rfl⟩
  have same := (sameOptions_flushHeld writer.markedLast scope).trans marked
  have comes := completes_complete writer scope
  generalize writer.complete scope = outcome at comes ⊢
  cases comes with
  | @unflushed _ failed flushes =>
      rw [flushes] at same
      exact (sameOptions_teardown failed).trans same
  | @undrained flushed sink _ flushes drains =>
      rw [flushes] at same
      have torn := sameOptions_teardown ({ flushed with sink := sink } : Writer σ ε)
      exact ⟨torn.overrides.trans same.overrides, torn.staged.trans same.staged⟩
  | drained flushes drains =>
      rw [flushes] at same
      refine SameOptions.trans ?_ same
      unfold closeEngine
      dsimp only
      split <;> exact ⟨rfl, rfl⟩

/-- Closing a stream keeps the options. -/
theorem sameOptions_close
    (writer : Writer σ ε) :
    SameOptions writer.close.2 writer := by
  have closes := closes_close writer
  generalize writer.close = outcome at closes
  cases closes with
  | again phase =>
      exact .refl writer
  | failed unclosed kept =>
      exact sameOptions_teardown writer
  | unready unclosed unfailed refused =>
      exact sameOptions_of_unready refused
  | @unplaced active _ _ _ readied places =>
      obtain ⟨sink, trace, rfl⟩ := unplaced_of_writePlaceholder places
      have torn := sameOptions_teardown
        ({ active with sink := sink, trace := trace, wroteOutput := true } : Writer σ ε)
      have same := sameOptions_of_readied readied
      exact ⟨torn.overrides.trans same.overrides, torn.staged.trans same.staged⟩
  | completed readied shape =>
      obtain ⟨sink, trace, wroteOutput, rfl⟩ := eq_of_whole shape
      have same := sameOptions_of_readied readied
      exact (sameOptions_complete _ _).trans ⟨same.overrides, same.staged⟩

/-- What a reset does before it starts a session keeps the options. -/
theorem sameOptions_closeForReset
    (writer : Writer σ ε) :
    SameOptions writer.closeForReset writer := by
  apply closeForReset_keeps (motive := fun next => SameOptions next writer)
  · intro failed error same
    exact ⟨same.overrides, same.staged⟩
  · exact .refl writer
  · intro active unfailed
    exact sameOptions_close writer

theorem sameOptions_cleared
    (writer : Writer σ ε) :
    SameOptions writer.cleared writer := by
  have kept := (sameOptions_teardown writer.closeForReset).trans
    (sameOptions_closeForReset writer)
  exact ⟨kept.overrides, kept.staged⟩

end Writer

end MemberStream
