import MemberStream.Proofs.Slice
import MemberStream.Proofs.Writer.Freezing

namespace MemberStream

/-!
# The slices of a writer

A submission slices its input by what the engine has consumed of it, and the output
buffer by what a step has produced.  Neither depends on the state of the writer: the
first round has consumed nothing, and a round that goes on has consumed no more than
it offered.  A faulty step ends the submission before anything of it is used.
-/

namespace InputBufferMode

/-- A write is split only if it is longer than what is held back, at that distance from its end. -/
theorem split_of_reserve
    {bounceLength : Nat}
    {bytes : Bytes}
    (splits : InputBufferMode.reserve.holdsAll bounceLength bytes.length = false) :
    ∃ split,
      split + bounceLength = bytes.length ∧
        InputBufferMode.reserve.cut bounceLength bytes = (bytes.take split, bytes.drop split) := by
  have longer : bounceLength < bytes.length := by
    simpa [holdsAll] using splits
  refine ⟨bytes.length - bounceLength, by omega, ?_⟩
  simp only [cut, List.splitAt_eq]

end InputBufferMode

/-- A submission between two rounds. -/
structure Submission (σ ε : Type) where
  writer : Writer σ ε
  /-- How many bytes of the input have been consumed. -/
  offset : Nat := 0
  /-- The bytes of the input that have not been consumed. -/
  rest : Bytes

namespace Submission

variable {σ ε : Type}

section

variable [EngineCalls ε]

/-- What the engine does in the next round. -/
def answer
    (submission : Submission σ ε) :
    Reply × ε :=
  EngineCalls.compress submission.writer.markedEngine submission.rest
    submission.writer.outputLength

/--
The slices that the next round takes, of an input of the given length and of the output
buffer: what is offered, what has been consumed of it, and what is forwarded.
-/
def slices
    (submission : Submission σ ε)
    (length : Nat) :
    List Slice :=
  if submission.rest.isEmpty then
    []
  else
    ⟨submission.offset, length, length⟩ ::
      match submission.answer.1.result with
      | .ok step =>
          if step.exceeds submission.rest.length submission.writer.outputLength ||
              step.isIdle then
            []
          else
            [⟨submission.offset, submission.offset + step.consumed, length⟩,
              ⟨0, step.produced, submission.writer.outputLength⟩]
      | .error _ =>
          []

/-- In the next round the engine makes a faulty step. -/
def Faults
    (submission : Submission σ ε)
    (error : StreamError) :
    Prop :=
  submission.rest ≠ [] ∧
    ∃ step,
      submission.answer.1.result = .ok step ∧
        step.Faulty submission.rest.length submission.writer.outputLength
          (.engineFault "engine made no progress") error

/-- How far the submission of some input has come. -/
structure Along
    (submission : Submission σ ε)
    (input : Bytes) :
    Prop where
  offset : submission.offset ≤ input.length
  rest : submission.rest = input.drop submission.offset

/-- Every slice that a round takes lies within its buffer. -/
theorem within_of_along
    {submission : Submission σ ε}
    {input : Bytes}
    (along : submission.Along input) :
    ∀ slice, slice ∈ submission.slices input.length → slice.Within := by
  have place := along.offset
  have left : submission.rest.length = input.length - submission.offset := by
    rw [along.rest, List.length_drop]
  intro slice member
  unfold slices at member
  split at member
  · cases member
  · rcases List.mem_cons.mp member with rfl | member
    · exact Slice.within_rest place
    · split at member
      · rename_i step result
        split at member
        · cases member
        · rename_i sound
          have within : step.exceeds submission.rest.length submission.writer.outputLength =
              false := by
            revert sound
            cases step.exceeds submission.rest.length submission.writer.outputLength <;> simp
          obtain ⟨consumed, produced⟩ := Step.le_of_not_exceeds within
          simp only [List.mem_cons, List.not_mem_nil, or_false] at member
          rcases member with rfl | rfl
          · exact ⟨Nat.le_add_right _ _, by dsimp only; omega⟩
          · exact ⟨Nat.zero_le _, produced⟩
      · cases member

variable [Sink σ]

/-- The states that a submission passes through. -/
inductive Visits
    (scope : Scope) :
    Submission σ ε →
    Submission σ ε →
    Prop where
  | here
      (submission : Submission σ ε) :
      Visits scope submission submission
  | later
      {submission last : Submission σ ε}
      {next : Writer σ ε}
      {count : Nat}
      (more : submission.rest ≠ [])
      (goes : submission.writer.Advance scope submission.offset submission.rest next count)
      (visits :
        Visits scope ⟨next, submission.offset + count, submission.rest.drop count⟩ last) :
      Visits scope submission last

/-- A round that goes on consumes no more than it has offered. -/
theorem le_of_advance
    {writer next : Writer σ ε}
    {scope : Scope}
    {offset count : Nat}
    {input : Bytes}
    (advance : writer.Advance scope offset input next count) :
    count ≤ input.length := by
  cases advance with
  | step answer within busy settles =>
      exact (Step.le_of_not_exceeds within).1
  | grow answer grown larger =>
      exact Nat.zero_le _

/-- A submission stays along its input from round to round. -/
theorem along_of_visits
    {start last : Submission σ ε}
    {scope : Scope}
    {input : Bytes}
    (visits : Visits scope start last)
    (along : start.Along input) :
    last.Along input := by
  induction visits with
  | here submission =>
      exact along
  | @later submission last next count more goes visits ih =>
      have consumed := le_of_advance goes
      have place := along.offset
      apply ih
      constructor
      · rw [along.rest, List.length_drop] at consumed
        dsimp only
        omega
      · dsimp only
        rw [along.rest, List.drop_drop]

end

variable [Sink σ] [Engine ε]

/-- A submission comes to what it comes to from any state that it passes through. -/
theorem submit_of_visits
    {start last : Submission σ ε}
    {scope : Scope}
    (visits : Visits scope start last) :
    start.writer.submit scope start.offset start.rest =
      last.writer.submit scope last.offset last.rest := by
  induction visits with
  | here submission =>
      rfl
  | later more goes visits ih =>
      rw [Writer.submit_of_advance more goes]
      exact ih

/-- A faulty step ends a submission; all that is left of it is the state of the engine. -/
theorem submit_of_faults
    {submission : Submission σ ε}
    {error : StreamError}
    (faults : submission.Faults error)
    (scope : Scope) :
    submission.writer.submit scope submission.offset submission.rest =
      ({ submission.writer with engine := submission.answer.2 } : Writer σ ε).fail scope error := by
  obtain ⟨more, step, result, faulty⟩ := faults
  have answer :
      submission.answer = (⟨.ok step, submission.answer.1.filled⟩, submission.answer.2) := by
    rw [← result]
  rcases faulty.refused with ⟨beyond, rfl⟩ | ⟨within, idle, rfl⟩
  · exact Writer.submit_of_halt more (.overreport answer beyond)
  · exact Writer.submit_of_halt more (.idle answer within idle)

end Submission

namespace Writer

variable {σ ε : Type} [Sink σ] [Engine ε]

/--
The submissions of a request: a write submits what was held back before it, and then
what the input buffer mode lets out; a close submits what is held back.
-/
inductive Submits
    (writer : Writer σ ε) :
    WriterRequest σ →
    Scope →
    Submission σ ε →
    Prop where
  | heldBack
      {call : WriterCall}
      {bytes : Bytes}
      {active : Writer σ ε}
      (writes : call = .writeChunk bytes ∨ call = .write bytes)
      (readies : writer.ready writer.scope = (.ok (), active)) :
      Submits writer (.call call) (writer.scope ++ ["write"])
        { writer := { active with held := [] }, rest := active.held }
  | letOut
      {call : WriterCall}
      {bytes front tail : Bytes}
      {active flushed : Writer σ ε}
      (writes : call = .writeChunk bytes ∨ call = .write bytes)
      (readies : writer.ready writer.scope = (.ok (), active))
      (flushes : active.flushHeld (writer.scope ++ ["write"]) = (.ok (), flushed))
      (splits :
        flushed.effective.inputBufferMode.holdsAll flushed.effective.bounceBufferLength
          bytes.length = false)
      (parts :
        flushed.effective.inputBufferMode.cut flushed.effective.bounceBufferLength bytes =
          (front, tail)) :
      Submits writer (.call call) (writer.scope ++ ["write"])
        { writer := { flushed with held := flushed.held ++ tail }, rest := front }
  | closing
      {request : WriterRequest σ}
      {active : Writer σ ε}
      (closes : request = .call .close ∨ request = .finish)
      (readies : writer.ready writer.scope = (.ok (), active))
      (busy : active.isBlank = false) :
      Submits writer request (writer.scope ++ ["close"])
        { writer := { active.markedLast with held := [] }, rest := active.held }

/-- What a faulty step leaves of a writer, and what the request that came to it answers. -/
structure StoppedAt
    (visited : Writer σ ε)
    (error : StreamError)
    (outcome : WriterReply σ × Writer σ ε) :
    Prop where
  answer : outcome.1.error? = some error
  /-- The fault is kept. -/
  refuses : outcome.2.Refuses error
  /-- Nothing of the step has reached the sink. -/
  sink : outcome.2.sink = visited.sink
  counters : outcome.2.counters = visited.counters
  crc : outcome.2.crc = visited.crc

theorem flushHeld_of_submit_error
    {writer failed : Writer σ ε}
    {scope : Scope}
    {error : StreamError}
    (submits :
      ({ writer with held := [] } : Writer σ ε).submit scope 0 writer.held =
        (.error error, failed)) :
    writer.flushHeld scope = (.error error, failed) := by
  rw [flushHeld, submits]

/-- A write fails with what is held back before it. -/
theorem writeChunk_of_flushHeld_error
    {writer active failed : Writer σ ε}
    {bytes : Bytes}
    {error : StreamError}
    (readies : writer.ready writer.scope = (.ok (), active))
    (flushes : active.flushHeld (writer.scope ++ ["write"]) = (.error error, failed)) :
    writer.writeChunk bytes = (.error error, failed) := by
  unfold writeChunk stage
  dsimp only
  rw [readies]
  dsimp only
  rw [flushes]

/-- A write fails with what the input buffer mode lets out. -/
theorem writeChunk_of_submit_error
    {writer active flushed failed : Writer σ ε}
    {bytes front tail : Bytes}
    {error : StreamError}
    (readies : writer.ready writer.scope = (.ok (), active))
    (flushes : active.flushHeld (writer.scope ++ ["write"]) = (.ok (), flushed))
    (splits :
      flushed.effective.inputBufferMode.holdsAll flushed.effective.bounceBufferLength
        bytes.length = false)
    (parts :
      flushed.effective.inputBufferMode.cut flushed.effective.bounceBufferLength bytes =
        (front, tail))
    (submits :
      ({ flushed with held := flushed.held ++ tail } : Writer σ ε).submit
          (writer.scope ++ ["write"]) 0 front =
        (.error error, failed)) :
    writer.writeChunk bytes = (.error error, failed) := by
  unfold writeChunk stage
  dsimp only
  rw [readies]
  dsimp only
  rw [flushes]
  dsimp only
  rw [splits, parts]
  dsimp only
  rw [if_neg Bool.false_ne_true, submits]

theorem close_of_busy
    {writer active : Writer σ ε}
    (readies : writer.ready writer.scope = (.ok (), active))
    (busy : active.isBlank = false) :
    writer.close = active.complete (writer.scope ++ ["close"]) := by
  rw [close_of_ready readies, busy]
  rfl

/-- Closing a writer fails with what is held back, and closes its engine all the same. -/
theorem close_of_submit_error
    {writer active failed : Writer σ ε}
    {error : StreamError}
    (readies : writer.ready writer.scope = (.ok (), active))
    (busy : active.isBlank = false)
    (submits :
      ({ active.markedLast with held := [] } : Writer σ ε).submit
          (writer.scope ++ ["close"]) 0 active.held =
        (.error error, failed)) :
    writer.close = (.error error, failed.teardown) := by
  have flushes :
      active.markedLast.flushHeld (writer.scope ++ ["close"]) = (.error error, failed) :=
    flushHeld_of_submit_error submits
  rw [close_of_busy readies busy, complete_eq, flushes]

theorem stoppedAt_of_eq
    {visited failed : Writer σ ε}
    {error : StreamError}
    {outcome : WriterReply σ × Writer σ ε}
    (answer : outcome.1.error? = some error)
    (same : outcome.2 = failed)
    (kept : failed.failure = some error)
    (sink : failed.sink = visited.sink)
    (counters : failed.counters = visited.counters)
    (crc : failed.crc = visited.crc) :
    StoppedAt visited error outcome := by
  subst same
  exact ⟨answer, refuses_of_failure kept, sink, counters, crc⟩

/-- A request whose submission comes to a faulty step stops there. -/
theorem stoppedAt_of_faults
    {writer : Writer σ ε}
    {request : WriterRequest σ}
    {scope : Scope}
    {start visited : Submission σ ε}
    {error : StreamError}
    (submits : writer.Submits request scope start)
    (visits : Submission.Visits scope start visited)
    (faults : visited.Faults error) :
    StoppedAt visited.writer error (writer.serve request) := by
  have fails :
      ∃ failed : Writer σ ε,
        start.writer.submit scope start.offset start.rest = (.error error, failed) ∧
          failed.failure = some error ∧ failed.sink = visited.writer.sink ∧
          failed.counters = visited.writer.counters ∧ failed.crc = visited.writer.crc :=
    ⟨_, (Submission.submit_of_visits visits).trans (Submission.submit_of_faults faults scope),
      rfl, rfl, rfl, rfl⟩
  obtain ⟨failed, fails, kept, sink, counters, crc⟩ := fails
  have stopsWrite
      {call : WriterCall}
      {bytes : Bytes}
      (writes : call = .writeChunk bytes ∨ call = .write bytes)
      (outcome : writer.writeChunk bytes = (.error error, failed)) :
      StoppedAt visited.writer error (writer.serve (.call call)) := by
    obtain ⟨answer, next⟩ := serve_write writes writer
    rw [outcome] at answer next
    exact stoppedAt_of_eq answer next kept sink counters crc
  cases submits with
  | heldBack writes readies =>
      exact stopsWrite writes
        (writeChunk_of_flushHeld_error readies (flushHeld_of_submit_error fails))
  | letOut writes readies flushes splits parts =>
      exact stopsWrite writes (writeChunk_of_submit_error readies flushes splits parts fails)
  | closing closes readies busy =>
      obtain ⟨answer, next⟩ := serve_close closes writer
      obtain ⟨engine, sessionOpen, torn⟩ := teardown_eq failed
      rw [close_of_submit_error readies busy fails] at answer next
      rw [torn] at next
      exact stoppedAt_of_eq answer next kept sink counters crc

/-- What a reset comes to that has found an active writer: its closing is forgotten. -/
inductive Forgotten
    (writer : Writer σ ε)
    (handed sink : σ) :
    WriterReply σ × Writer σ ε →
    Prop where
  | started
      {started : Writer σ ε}
      (starts : writer.cleared.startSession [] = (.ok (), started))
      (failure : started.failure = none)
      (counters : started.counters = {})
      (crc : started.crc = .empty) :
      Forgotten writer handed sink (.handedBack (.ok handed), { started with sink := sink })
  | refused
      {error : StreamError}
      {idle next : Writer σ ε}
      (starts : writer.cleared.startSession [] = (.error error, idle))
      (failure : next.failure = some error)
      (kept : next.sink = handed)
      (counters : next.counters = {})
      (crc : next.crc = .empty) :
      Forgotten writer handed sink (.handedBack (.error error), next)

/-- A request that submits anything finds a writer that has not failed. -/
theorem unfailed_of_submits
    {writer : Writer σ ε}
    {request : WriterRequest σ}
    {scope : Scope}
    {start : Submission σ ε}
    (submits : writer.Submits request scope start) :
    writer.failure = none := by
  cases submits with
  | heldBack writes readies =>
      exact (readied_of_ready readies).open.2.2.1
  | letOut writes readies flushes splits parts =>
      exact (readied_of_ready readies).open.2.2.1
  | closing closes readies busy =>
      exact (readied_of_ready readies).open.2.2.1

theorem cleared_of_close_error
    {writer failed : Writer σ ε}
    {error : StreamError}
    (active : writer.phase = .active)
    (unfailed : writer.failure = none)
    (closes : writer.close = (.error error, failed)) :
    writer.cleared =
      { (failed.report [] (.unfinished error)).teardown with
        failure := none
        phase := .idle
        held := []
        counters := {}
        crc := .empty } := by
  have swept : writer.closeForReset = failed.report [] (.unfinished error) := by
    rw [closeForReset, if_pos ⟨active, unfailed⟩, closes]
  rw [cleared, swept]

/-- A reset forgets a faulty step that the closing of the stream before has come to. -/
theorem forgotten_of_faults
    {writer : Writer σ ε}
    {scope : Scope}
    {start visited : Submission σ ε}
    {error : StreamError}
    (active : writer.phase = .active)
    (submits : writer.Submits (.call .close) scope start)
    (visits : Submission.Visits scope start visited)
    (faults : visited.Faults error)
    (sink : σ) :
    Forgotten writer visited.writer.sink sink (writer.serve (.reset sink)) := by
  have stopped := stoppedAt_of_faults submits visits faults
  have closes : writer.close = (.error error, writer.close.2) :=
    eq_error_of_errorOf ((WriterAnswer.error?_closed _).symm.trans stopped.answer)
  have handed : writer.cleared.sink = visited.writer.sink := by
    obtain ⟨engine, sessionOpen, torn⟩ :=
      teardown_eq (writer.close.2.report [] (.unfinished error))
    rw [cleared_of_close_error active (unfailed_of_submits submits) closes, torn]
    exact stopped.sink
  change Forgotten writer visited.writer.sink sink
    (.handedBack (writer.reset sink).1, (writer.reset sink).2)
  rw [reset_eq]
  cases starts : writer.cleared.startSession [] with
  | mk result next =>
      cases result with
      | ok value =>
          have changed := started_of_startSession starts
          rw [show visited.writer.sink = next.sink from (changed.sink.trans handed).symm]
          exact .started starts changed.failure changed.counters changed.crc
      | error refusal =>
          obtain ⟨engine, span, trace, -, rfl⟩ := refused_of_startSession starts
          exact .refused starts rfl handed rfl rfl

end Writer

end MemberStream
