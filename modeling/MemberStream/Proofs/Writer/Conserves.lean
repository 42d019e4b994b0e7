import MemberStream.Proofs.Writer.Staging

namespace MemberStream

/-!
# The books of a session

`Conserves` is the invariant of a session: it relates the state of a writer to
the buffers handed to it and to those it accepted so far.  Every call preserves
it, and so does every sequence of calls.
-/

namespace Writer

variable {σ ε : Type}

/-- What the sink of a completed stream has received. -/
def output
    (writer : Writer (RecordedSink σ) (RecordedEngine ε)) :
    Bytes :=
  if writer.engine.figures.succeeded then
    writer.engine.figures.produced
  else
    writer.effective.placeholder

/-- A completed stream: everything accepted has been consumed and its output is complete. -/
structure Completed
    (writer : Writer (RecordedSink σ) (RecordedEngine ε))
    (accepted : Bytes) :
    Prop extends Counts writer where
  held : writer.held = []
  consumed : writer.engine.figures.consumed = accepted
  received : writer.sink.received = writer.output

/-- A stream that takes bytes: those it accepted have been consumed or are held. -/
structure Running
    (writer : Writer (RecordedSink σ) (RecordedEngine ε))
    (accepted : Bytes) :
    Prop extends Agrees writer where
  content : writer.engine.figures.consumed ++ writer.held = accepted

/-- The books of a session, given the buffers handed to the writer and those it accepted. -/
structure Conserves
    (writer : Writer (RecordedSink σ) (RecordedEngine ε))
    (handed accepted : Bytes) :
    Prop where
  consumed : writer.engine.figures.consumed <+: handed
  received : writer.sink.received <+: writer.output
  idle : writer.phase = .idle → writer.IsFresh
  running :
    writer.failure = none → writer.phase ≠ .closed →
      accepted = handed ∧ writer.Running accepted
  completed :
    writer.failure = none → writer.phase = .closed →
      accepted <+: handed ∧ writer.Completed accepted

/-- What a sink has received of the output put out comes first in the completed output. -/
theorem received_prefix_output
    {writer : Writer (RecordedSink σ) (RecordedEngine ε)}
    (received : writer.sink.received <+: writer.engine.figures.produced) :
    writer.sink.received <+: writer.output := by
  unfold output
  split
  · exact received
  · rename_i silent
    have nothing : writer.engine.figures.produced = [] :=
      EngineFigures.produced_eq_nil (Bool.eq_false_iff.mpr silent)
    rw [nothing] at received
    rw [List.prefix_nil.mp received]
    exact List.nil_prefix

/-- A writer that has failed keeps its books as long as nothing went out of order. -/
theorem Conserves.of_failure
    {writer : Writer (RecordedSink σ) (RecordedEngine ε)}
    {handed accepted : Bytes}
    (failure : writer.failure ≠ none)
    (consumed : writer.engine.figures.consumed <+: handed)
    (received : writer.sink.received <+: writer.output)
    (idle : writer.phase = .idle → writer.IsFresh) :
    writer.Conserves handed accepted where
  consumed := consumed
  received := received
  idle := idle
  running := fun none => absurd none failure
  completed := fun none => absurd none failure

/-- A completed stream keeps its books. -/
theorem Conserves.of_completed
    {writer : Writer (RecordedSink σ) (RecordedEngine ε)}
    {accepted : Bytes}
    (phase : writer.phase = .closed)
    (completed : writer.Completed accepted) :
    writer.Conserves accepted accepted where
  consumed := completed.consumed ▸ List.prefix_rfl
  received := completed.received ▸ List.prefix_rfl
  idle := by
    simp [phase]
  running := fun _ unclosed => absurd phase unclosed
  completed := fun _ _ => ⟨List.prefix_rfl, completed⟩

/-- An active stream keeps its books. -/
theorem Conserves.of_running
    {writer : Writer (RecordedSink σ) (RecordedEngine ε)}
    {accepted : Bytes}
    (phase : writer.phase = .active)
    (running : writer.Running accepted) :
    writer.Conserves accepted accepted where
  consumed := ⟨writer.held, running.content⟩
  received := received_prefix_output (running.received ▸ List.prefix_rfl)
  idle := by
    simp [phase]
  running := fun _ _ => ⟨rfl, running⟩
  completed := by
    simp [phase]

/-- A buffer that is refused by a closed or failed writer changes nothing. -/
theorem Conserves.refuse
    {writer : Writer (RecordedSink σ) (RecordedEngine ε)}
    {handed accepted : Bytes}
    (conserves : writer.Conserves handed accepted)
    (bytes : Bytes)
    (refuses : writer.failure = none → writer.phase = .closed) :
    writer.Conserves (handed ++ bytes) accepted where
  consumed := conserves.consumed.trans (List.prefix_append _ _)
  received := conserves.received
  idle := conserves.idle
  running := fun none unclosed => absurd (refuses none) unclosed
  completed := by
    intro none closed
    obtain ⟨shorter, completed⟩ := conserves.completed none closed
    exact ⟨shorter.trans (List.prefix_append _ _), completed⟩

/-- Two states of a writer that have the same entries on their books. -/
structure SameBooks
    (next writer : Writer (RecordedSink σ) (RecordedEngine ε)) :
    Prop where
  figures : next.engine.figures = writer.engine.figures
  received : next.sink.received = writer.sink.received
  effective : next.effective = writer.effective
  phase : next.phase = writer.phase
  failure : next.failure = writer.failure
  held : next.held = writer.held
  crc : next.crc = writer.crc
  counters : next.counters = writer.counters
  wroteOutput : next.wroteOutput = writer.wroteOutput

namespace SameBooks

variable {next writer : Writer (RecordedSink σ) (RecordedEngine ε)}

theorem output_eq
    (same : SameBooks next writer) :
    next.output = writer.output := by
  simp only [output, same.figures, same.effective]

/-- The figures are those of the books. -/
theorem counts
    (same : SameBooks next writer)
    (counts : writer.Counts) :
    next.Counts where
  crc := by
    rw [same.crc, same.figures, counts.crc]
  bytesIn := by
    rw [same.counters, same.figures, counts.bytesIn]
  bytesOut := by
    rw [same.counters, same.figures, counts.bytesOut]

/-- A writer is as fresh as its books. -/
theorem isFresh
    (same : SameBooks next writer)
    (fresh : writer.IsFresh) :
    next.IsFresh where
  unclosed := same.phase ▸ fresh.unclosed
  held := same.held.trans fresh.held
  counters := same.counters.trans fresh.counters
  crc := same.crc.trans fresh.crc
  wroteOutput := same.wroteOutput.trans fresh.wroteOutput

/-- Whether a stream runs properly shows in its books. -/
theorem running
    {accepted : Bytes}
    (same : SameBooks next writer)
    (running : writer.Running accepted) :
    next.Running accepted where
  toAgrees :=
    running.toAgrees.congr same.figures same.received same.crc same.counters same.wroteOutput
  content := by
    rw [same.figures, same.held, running.content]

/-- Whether a stream has been completed properly shows in its books. -/
theorem completed
    {accepted : Bytes}
    (same : SameBooks next writer)
    (completed : writer.Completed accepted) :
    next.Completed accepted where
  toCounts := same.counts completed.toCounts
  held := same.held.trans completed.held
  consumed := by
    rw [same.figures, completed.consumed]
  received := by
    rw [same.received, same.output_eq, completed.received]

/-- Books are kept by a change that makes no entry in them. -/
theorem conserves
    {handed accepted : Bytes}
    (same : SameBooks next writer)
    (conserves : writer.Conserves handed accepted) :
    next.Conserves handed accepted where
  consumed := by
    rw [same.figures]
    exact conserves.consumed
  received := by
    rw [same.received, same.output_eq]
    exact conserves.received
  idle := by
    intro idle
    exact same.isFresh (conserves.idle (same.phase.symm.trans idle))
  running := by
    intro unfailed unclosed
    rw [same.failure] at unfailed
    rw [same.phase] at unclosed
    obtain ⟨whole, running⟩ := conserves.running unfailed unclosed
    exact ⟨whole, same.running running⟩
  completed := by
    intro unfailed closed
    rw [same.failure] at unfailed
    rw [same.phase] at closed
    obtain ⟨shorter, completed⟩ := conserves.completed unfailed closed
    exact ⟨shorter, same.completed completed⟩

/-- The same failure makes the same entry. -/
theorem fail
    (same : SameBooks next writer)
    (scope : Scope)
    (error : StreamError) :
    SameBooks (next.fail (α := Unit) scope error).2 (writer.fail (α := Unit) scope error).2 where
  figures := same.figures
  received := same.received
  effective := same.effective
  phase := same.phase
  failure := rfl
  held := same.held
  crc := same.crc
  counters := same.counters
  wroteOutput := same.wroteOutput

end SameBooks

/-- A failure that is kept leaves the books alone. -/
theorem Conserves.fail
    {writer : Writer (RecordedSink σ) (RecordedEngine ε)}
    {handed accepted : Bytes}
    (conserves : writer.Conserves handed accepted)
    (error : StreamError)
    (trace : Trace) :
    Conserves { writer with failure := some error, trace := trace } handed accepted := by
  refine .of_failure (Option.some_ne_none error) conserves.consumed conserves.received ?_
  intro phase
  obtain ⟨unclosed, held, counters, crc, wroteOutput⟩ := conserves.idle phase
  exact ⟨unclosed, held, counters, crc, wroteOutput⟩

/-- A fresh observed writer has nothing on its books. -/
theorem conserves_observed
    {writer : Writer σ ε}
    (fresh : writer.IsFresh) :
    writer.observed.Conserves [] [] where
  consumed := List.nil_prefix
  received := List.nil_prefix
  idle := fun _ => ⟨fresh.unclosed, fresh.held, fresh.counters, fresh.crc, fresh.wroteOutput⟩
  running := by
    intro none unclosed
    refine ⟨rfl, ⟨⟨fresh.crc, ?_, ?_⟩, rfl, fresh.wroteOutput, fun _ => rfl⟩, fresh.held⟩
    · exact congrArg Counters.bytesIn fresh.counters
    · exact congrArg Counters.bytesOut fresh.counters
  completed := fun _ closed => absurd closed fresh.unclosed

theorem figures_of_start
    [EngineCalls ε]
    {engine next : RecordedEngine ε}
    {parameters : ParameterSet}
    {result : Except StreamError Unit}
    (answer : EngineCalls.start engine parameters = (result, next)) :
    next.figures = engine.figures := by
  have same := RecordedEngine.figures_start engine parameters
  rwa [answer] at same

/-- A writer that is ready has kept its books, and nothing handed to it was refused. -/
theorem running_of_readied
    [EngineCalls ε]
    {writer active : Writer (RecordedSink σ) (RecordedEngine ε)}
    {handed accepted : Bytes}
    (conserves : writer.Conserves handed accepted)
    (readied : Readied writer active) :
    accepted = handed ∧ active.Running accepted := by
  obtain ⟨-, -, unfailed, unclosed⟩ := readied.open
  obtain ⟨same, running⟩ := conserves.running unfailed unclosed
  refine ⟨same, ?_⟩
  cases readied with
  | active unfailed phase =>
      exact running
  | started unfailed phase starts =>
      have fresh := conserves.idle phase
      have figures := figures_of_start starts.engine
      refine ⟨running.toAgrees.congr figures (by rw [starts.sink])
        (starts.crc.trans fresh.crc.symm) (starts.counters.trans fresh.counters.symm)
        (starts.wroteOutput.trans fresh.wroteOutput.symm), ?_⟩
      rw [← running.content, figures, starts.held, fresh.held]

/-- A writer that is not ready has kept its books, and refuses every buffer from then on. -/
theorem conserves_of_unready
    [EngineCalls ε]
    {writer next : Writer (RecordedSink σ) (RecordedEngine ε)}
    {handed accepted : Bytes}
    {error : StreamError}
    (conserves : writer.Conserves handed accepted)
    (refused : Unready writer error next) :
    next.Conserves handed accepted ∧ (next.failure = none → next.phase = .closed) := by
  cases refused with
  | failed kept =>
      exact ⟨conserves, by simp [kept]⟩
  | closed unfailed phase =>
      exact ⟨conserves, fun _ => phase⟩
  | @refused _ engine span trace unfailed phase answer =>
      have same : SameBooks { writer with engine := engine, span := span } writer :=
        ⟨figures_of_start answer, rfl, rfl, rfl, rfl, rfl, rfl, rfl, rfl⟩
      exact ⟨(same.conserves conserves).fail error trace, nofun⟩

end Writer

end MemberStream
