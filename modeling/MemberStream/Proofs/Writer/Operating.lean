import MemberStream.Proofs.Engine.Operating
import MemberStream.Proofs.Writer.Options
import MemberStream.Proofs.Writer.Showing

namespace MemberStream

/-!
# How a writer operates its engine

Every request makes its calls on the engine under the options that it finds: whatever
sessions it starts, lazily, by a close or by a reset, it hands over what the overrides
make of the staged parameters, and it never decompresses.  What it changes of the options
is for the next request.
-/

/-- The overrides in force behind a request. -/
def WriterRequest.overriding
    {σ : Type}
    (overrides : Overrides) :
    WriterRequest σ → Overrides
  | .override replaced =>
      replaced
  | _ =>
      overrides

namespace Writer

variable {σ ε : Type}

/-- A writer has gone on under its options, and its engine has been operated under them. -/
structure Operates
    [EngineCalls ε]
    (writer next : Writer σ ε) :
    Prop where
  options : SameOptions next writer
  engine :
    Operated .writer (writer.staged.resolve writer.overrides) writer.engine next.engine

section Session

variable [EngineCalls ε]

theorem Operates.refl
    (writer : Writer σ ε) :
    Operates writer writer where
  options := .refl writer
  engine := .rest

/-- A writer may go on from where it has gone. -/
theorem Operates.trans
    {writer next last : Writer σ ε}
    (earlier : Operates writer next)
    (later : Operates next last) :
    Operates writer last where
  options := later.options.trans earlier.options
  engine := by
    have same := later.engine
    rw [earlier.options.resolve] at same
    exact earlier.engine.trans same

/-- A session is started with what is staged and the overrides. -/
theorem operates_startSession
    (writer : Writer σ ε)
    (scope : Scope) :
    Operates writer (writer.startSession scope).2 := by
  refine ⟨sameOptions_startSession writer scope, ?_⟩
  unfold startSession
  dsimp only
  split
  · rename_i answer
    exact Operated.rest.start answer
  · rename_i answer
    exact Operated.rest.start answer

/-- A writer that is ready has started a session at most. -/
theorem operates_of_readied
    {writer active : Writer σ ε}
    (readied : Readied writer active) :
    Operates writer active := by
  refine ⟨sameOptions_of_readied readied, ?_⟩
  cases readied with
  | active unfailed phase =>
      exact .rest
  | started unfailed phase starts =>
      exact Operated.rest.start starts.engine

/-- A writer that is not ready has tried to start a session at most. -/
theorem operates_of_unready
    {writer next : Writer σ ε}
    {error : StreamError}
    (refused : Unready writer error next) :
    Operates writer next := by
  refine ⟨sameOptions_of_unready refused, ?_⟩
  cases refused with
  | failed kept | closed unfailed phase =>
      exact .rest
  | refused unfailed phase answer =>
      exact Operated.rest.start answer

/-- Tearing a session down closes the engine at most. -/
theorem operates_teardown
    (writer : Writer σ ε) :
    Operates writer writer.teardown := by
  refine ⟨sameOptions_teardown writer, ?_⟩
  unfold teardown
  split
  · exact Operated.rest.close rfl
  · exact .rest

/-- Closing the engine is one call. -/
theorem operates_closeEngine
    (writer : Writer σ ε)
    (scope : Scope) :
    Operates writer (writer.closeEngine scope).2 := by
  have closes : Operated .writer (writer.staged.resolve writer.overrides) writer.engine
      (EngineCalls.close writer.engine).2 :=
    Operated.rest.close rfl
  unfold closeEngine
  dsimp only
  split
  · exact ⟨⟨rfl, rfl⟩, closes⟩
  · exact ⟨⟨rfl, rfl⟩, closes⟩

/-- A chunk is compressed behind a mark or without one. -/
theorem operated_of_compress
    {writer : Writer σ ε}
    {parameters : ParameterSet}
    {next : ε}
    {input : Bytes}
    {reply : Reply}
    (answer :
      EngineCalls.compress writer.markedEngine input writer.outputLength = (reply, next)) :
    Operated .writer parameters writer.engine next := by
  have marked : Operated .writer parameters writer.engine writer.markedEngine := by
    unfold markedEngine
    split
    · exact Operated.rest.setLast true
    · exact .rest
  exact marked.compress rfl answer

end Session

variable [Sink σ] [Engine ε]

/-- Submitting input compresses it, round by round. -/
theorem operates_submit
    (writer : Writer σ ε)
    (scope : Scope)
    (offset : Nat)
    (input : Bytes) :
    Operates writer (writer.submit scope offset input).2 := by
  refine ⟨sameOptions_submit writer scope offset input, ?_⟩
  generalize writer.staged.resolve writer.overrides = parameters
  apply submit_induction
    (motive := fun writer _ _ outcome =>
      Operated .writer parameters writer.engine outcome.2.engine)
  case finish =>
    intro writer offset
    exact .rest
  case advance =>
    intro writer next offset count input outcome more advance later
    obtain ⟨reply, answer⟩ := compressed_of_advance advance
    exact (operated_of_compress answer).trans later
  case halt =>
    intro writer failed offset input error more halt
    obtain ⟨reply, answer⟩ := compressed_of_halt halt
    exact operated_of_compress answer

/-- Flushing what is held back compresses it. -/
theorem operates_flushHeld
    (writer : Writer σ ε)
    (scope : Scope) :
    Operates writer (writer.flushHeld scope).2 := by
  apply flushHeld_keeps (motive := fun next => Operates writer next)
  · intro next held operates
    exact operates.trans ⟨⟨rfl, rfl⟩, .rest⟩
  · intro next input operates
    exact operates.trans (operates_submit next scope 0 input)
  · exact .refl writer

/-- Taking a buffer compresses what is not held back. -/
theorem operates_stage
    (writer : Writer σ ε)
    (scope : Scope)
    (bytes : Bytes) :
    Operates writer (writer.stage scope bytes).2 := by
  apply stage_keeps (motive := fun next => Operates writer next)
  · intro next held operates
    exact operates.trans ⟨⟨rfl, rfl⟩, .rest⟩
  · intro next input operates
    exact operates.trans (operates_submit next scope 0 input)
  · intro next event operates
    exact operates.trans ⟨⟨rfl, rfl⟩, .rest⟩
  · exact .refl writer

/-- A write starts a session at most, and compresses. -/
theorem operates_writeChunk
    (writer : Writer σ ε)
    (bytes : Bytes) :
    Operates writer (writer.writeChunk bytes).2 := by
  cases writes_writeChunk writer bytes with
  | unready refused same =>
      rw [same]
      exact operates_of_unready refused
  | @staged active readied stages =>
      rw [stages]
      exact (operates_of_readied readied).trans (operates_stage active _ bytes)

/-- Completing a stream starts no session. -/
theorem operates_complete
    (writer : Writer σ ε)
    (scope : Scope) :
    Operates writer (writer.complete scope).2 := by
  have marked : Operates writer writer.markedLast :=
    ⟨⟨rfl, rfl⟩, Operated.rest.setLast true⟩
  have flushed := marked.trans (operates_flushHeld writer.markedLast scope)
  have comes := completes_complete writer scope
  generalize writer.complete scope = outcome at comes ⊢
  cases comes with
  | @unflushed _ failed flushes =>
      rw [flushes] at flushed
      exact flushed.trans (operates_teardown failed)
  | @undrained next sink _ flushes drains =>
      rw [flushes] at flushed
      have drained : Operates writer { next with sink := sink } :=
        flushed.trans ⟨⟨rfl, rfl⟩, .rest⟩
      exact (drained.trans (operates_teardown _)).trans ⟨⟨rfl, rfl⟩, .rest⟩
  | @drained next sink flushes drains =>
      rw [flushes] at flushed
      have drained : Operates writer { next with sink := sink } :=
        flushed.trans ⟨⟨rfl, rfl⟩, .rest⟩
      exact drained.trans (operates_closeEngine _ scope)

/-- Closing a writer starts a session at most before it completes the stream. -/
theorem operates_close
    (writer : Writer σ ε) :
    Operates writer writer.close.2 := by
  have closes := closes_close writer
  generalize writer.close = outcome at closes
  cases closes with
  | again phase =>
      exact .refl writer
  | failed unclosed kept =>
      exact operates_teardown writer
  | unready unclosed unfailed refused =>
      exact operates_of_unready refused
  | @unplaced active _ _ _ readied places =>
      obtain ⟨sink, trace, rfl⟩ := unplaced_of_writePlaceholder places
      have placed : Operates active
          { active with sink := sink, trace := trace, wroteOutput := true } :=
        ⟨⟨rfl, rfl⟩, .rest⟩
      have torn := placed.trans (operates_teardown _)
      exact (operates_of_readied readied).trans (torn.trans ⟨⟨rfl, rfl⟩, .rest⟩)
  | @completed active _ _ readied shape =>
      obtain ⟨sink, trace, wroteOutput, rfl⟩ := eq_of_whole shape
      have placed : Operates active
          { active with sink := sink, trace := trace, wroteOutput := wroteOutput } :=
        ⟨⟨rfl, rfl⟩, .rest⟩
      exact (operates_of_readied readied).trans (placed.trans (operates_complete _ _))

/-- What a reset clears has been closed before. -/
theorem operates_cleared
    (writer : Writer σ ε) :
    Operates writer writer.cleared := by
  have closes : Operates writer writer.closeForReset := by
    apply closeForReset_keeps (motive := fun next => Operates writer next)
    · intro failed error operates
      exact operates.trans ⟨⟨rfl, rfl⟩, .rest⟩
    · exact .refl writer
    · intro active unfailed
      exact operates_close writer
  exact (closes.trans (operates_teardown _)).trans ⟨⟨rfl, rfl⟩, .rest⟩

/-- A reset starts one session under the options that it finds. -/
theorem operates_reset
    (writer : Writer σ ε)
    (sink : σ) :
    Operates writer (writer.reset sink).2 := by
  have starts := (operates_cleared writer).trans (operates_startSession writer.cleared [])
  rw [reset_eq]
  split <;> rename_i answer <;> rw [answer] at starts
  · exact starts.trans ⟨⟨rfl, rfl⟩, .rest⟩
  · exact starts.trans ⟨⟨rfl, rfl⟩, .rest⟩

/-- Every request operates the engine under the options that it finds. -/
theorem operated_serve
    (writer : Writer σ ε)
    (request : WriterRequest σ) :
    Operated .writer (writer.staged.resolve writer.overrides) writer.engine
      (writer.serve request).2.engine := by
  have served := served_serve writer request
  generalize (writer.serve request).1.error? = error?, (writer.serve request).2 = next at served ⊢
  cases served with
  | @wrote call bytes writes =>
      exact (operates_writeChunk writer bytes).engine
  | closed closes =>
      exact (operates_close writer).engine
  | flushed flushes | applied options | overridden overrides | altered change =>
      exact .rest
  | reset sink =>
      exact (operates_reset writer sink).engine

/-- The options behind a request are those before it, changed as it says. -/
structure Restages
    (writer : Writer σ ε)
    (request : WriterRequest σ)
    (next : Writer σ ε) :
    Prop where
  overrides : next.overrides = request.overriding writer.overrides
  staged : next.staged = writer.staged.stageEach (writer.takenBy request)

/-- Every request changes the options as it says, and not otherwise. -/
theorem restages_serve
    (writer : Writer σ ε)
    (request : WriterRequest σ) :
    Restages writer request (writer.serve request).2 := by
  have served := served_serve writer request
  generalize (writer.serve request).1.error? = error?, (writer.serve request).2 = next at served ⊢
  cases served with
  | @wrote call bytes writes =>
      have same := (operates_writeChunk writer bytes).options
      exact ⟨same.overrides, same.staged⟩
  | closed closes =>
      have same := (operates_close writer).options
      rcases closes with rfl | rfl
      · exact ⟨same.overrides, same.staged⟩
      · exact ⟨same.overrides, same.staged⟩
  | applied options =>
      refine ⟨rfl, ?_⟩
      change (writer.apply options).2.staged = writer.staged.stageEach (ite _ _ _)
      by_cases idle : writer.phase = .idle
      · rw [apply_of_idle idle, if_pos idle]
        exact stageOptions_snd .writer options writer.staged
      · rw [apply_of_unidle idle, if_neg idle]
        rfl
  | flushed flushes | overridden overrides | altered change =>
      exact ⟨rfl, rfl⟩
  | reset sink =>
      have same := (operates_reset writer sink).options
      exact ⟨same.overrides, same.staged⟩

/-- Some requests stage the options that they say, in order, and leave the newest overrides. -/
theorem restages_serveEach
    (writer : Writer σ ε)
    (requests : List (WriterRequest σ)) :
    (writer.serveEach requests).overrides =
        requests.foldl WriterRequest.overriding writer.overrides ∧
      (writer.serveEach requests).staged =
        writer.staged.stageEach (writer.takenOptions requests) := by
  induction requests generalizing writer with
  | nil =>
      exact ⟨rfl, rfl⟩
  | cons request rest ih =>
      have ⟨overrides, staged⟩ := restages_serve writer request
      have ⟨laterOverrides, laterStaged⟩ := ih (writer.serve request).2
      constructor
      · rw [serveEach, laterOverrides, overrides, List.foldl_cons]
      · rw [serveEach, laterStaged, staged, takenOptions, ParameterSet.stageEach_append]

end Writer

end MemberStream
