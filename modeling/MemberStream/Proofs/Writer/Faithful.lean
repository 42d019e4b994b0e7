import MemberStream.Engine.Rationed
import MemberStream.Proofs.Writer.Closing
import MemberStream.Rehearsal.Engine
import MemberStream.Rehearsal.Transport

namespace MemberStream

/-!
# No input is lost, repeated or reordered

Each call of a session keeps the books, so a whole session does.  `Faithful`
says what they show of a session in which any calls were made on any engine and
any sink.
-/

namespace Writer

variable {σ ε : Type}

/-- What is true of a writer after the calls of a session. -/
structure Faithful
    (history : WriterHistory)
    (last : Writer (RecordedSink σ) (RecordedEngine ε)) :
    Prop where
  /-- At any point the engine has consumed the buffers handed over, from the front. -/
  consumed_in_order :
    ∀ past,
      past <:+ last.engine.calls →
        (EngineFigures.ofCalls past).consumed <+: history.handed
  /-- A write that succeeds takes its whole buffer. -/
  whole :
    ∀ call answer count,
      (call, answer) ∈ history →
        WriterAnswer.taken? answer = some count →
        count = (WriterCall.buffer call).length
  /-- The sink has received the front of the completed output, even after a failure. -/
  received_in_order : last.sink.received <+: last.output
  /-- What was accepted has been consumed or is held. -/
  accounted :
    last.failure = none →
      last.engine.figures.consumed ++ last.held = history.accepted
  crc :
    last.failure = none →
      last.crc.value = crc32 last.engine.figures.consumed
  bytesIn :
    last.failure = none →
      last.counters.bytesIn.toNat = last.engine.figures.consumedCount % 2 ^ (64 : Nat)
  bytesOut :
    last.failure = none →
      last.counters.bytesOut.toNat = last.engine.figures.producedCount % 2 ^ (64 : Nat)
  /-- Until it is closed a stream puts out what successful steps produced, and that only. -/
  received :
    last.failure = none →
      last.phase ≠ .closed →
        last.sink.received = last.engine.figures.produced
  /-- A placeholder stands in for the output exactly when no step succeeded. -/
  completed :
    last.failure = none →
      last.phase = .closed →
        last.held = [] ∧ last.sink.received = last.output

/-- The figures of a writer whose counts are right, as a caller sees them. -/
theorem Counts.figures
    {writer : Writer (RecordedSink σ) (RecordedEngine ε)}
    (counts : writer.Counts) :
    writer.crc.value = crc32 writer.engine.figures.consumed ∧
      writer.counters.bytesIn.toNat = writer.engine.figures.consumedCount % 2 ^ (64 : Nat) ∧
      writer.counters.bytesOut.toNat = writer.engine.figures.producedCount % 2 ^ (64 : Nat) := by
  refine ⟨?_, ?_, ?_⟩
  · rw [counts.crc]
    rfl
  · rw [counts.bytesIn, UInt64.toNat_ofNat']
  · rw [counts.bytesOut, UInt64.toNat_ofNat']

/-- Without a failure the counts are right, and what was accepted is accounted for. -/
theorem Conserves.accounted
    {writer : Writer (RecordedSink σ) (RecordedEngine ε)}
    {handed accepted : Bytes}
    (conserves : writer.Conserves handed accepted)
    (unfailed : writer.failure = none) :
    writer.Counts ∧ writer.engine.figures.consumed ++ writer.held = accepted := by
  by_cases closed : writer.phase = .closed
  · obtain ⟨-, completed⟩ := conserves.completed unfailed closed
    refine ⟨completed.toCounts, ?_⟩
    rw [completed.held, List.append_nil, completed.consumed]
  · obtain ⟨-, running⟩ := conserves.running unfailed closed
    exact ⟨running.toCounts, running.content⟩

/-- What the books say is what is true of a session. -/
theorem faithful_of_conserves
    {history : WriterHistory}
    {last : Writer (RecordedSink σ) (RecordedEngine ε)}
    (conserves : last.Conserves history.handed history.accepted)
    (whole :
      ∀ call answer count,
        (call, answer) ∈ history →
          WriterAnswer.taken? answer = some count →
          count = (WriterCall.buffer call).length) :
    Faithful history last where
  consumed_in_order := by
    intro past earlier
    exact (EngineFigures.consumed_prefix_of_suffix earlier).trans conserves.consumed
  whole := whole
  received_in_order := conserves.received
  accounted := fun unfailed => (conserves.accounted unfailed).2
  crc := fun unfailed => (conserves.accounted unfailed).1.figures.1
  bytesIn := fun unfailed => (conserves.accounted unfailed).1.figures.2.1
  bytesOut := fun unfailed => (conserves.accounted unfailed).1.figures.2.2
  received := fun unfailed unclosed => (conserves.running unfailed unclosed).2.received
  completed := by
    intro unfailed closed
    obtain ⟨-, completed⟩ := conserves.completed unfailed closed
    exact ⟨completed.held, completed.received⟩

/-- A flush passes no data. -/
theorem conserves_of_flush
    [Sink σ]
    {writer : Writer (RecordedSink σ) (RecordedEngine ε)}
    {handed accepted : Bytes}
    (conserves : writer.Conserves handed accepted) :
    (writer.flush).2.Conserves handed accepted := by
  unfold flush
  split
  · exact conserves
  · refine SameBooks.conserves ?_ conserves
    exact ⟨rfl, RecordedSink.received_flush writer.sink, rfl, rfl, rfl, rfl, rfl, rfl, rfl⟩

variable [Sink σ] [Engine ε]

/-- A write that succeeds takes its whole buffer on the books. -/
theorem conserves_of_writeChunk_ok
    {writer next : Writer (RecordedSink σ) (RecordedEngine ε)}
    {handed accepted bytes : Bytes}
    {count : Nat}
    (conserves : writer.Conserves handed accepted)
    (writes : writer.writeChunk bytes = (.ok count, next)) :
    count = bytes.length ∧ next.Conserves (handed ++ bytes) (accepted ++ bytes) := by
  have comes := writes_writeChunk writer bytes
  rw [writes] at comes
  cases comes with
  | unready refused same =>
      cases same
  | staged readied stages =>
      obtain ⟨rfl, running⟩ := running_of_readied conserves readied
      obtain ⟨whole, taken⟩ := taken_of_stage_ok running.toAgrees stages.symm
      refine ⟨whole, Conserves.of_running (taken.phase.trans readied.open.1) ⟨taken.agrees, ?_⟩⟩
      rw [taken.content, running.content]

/-- A write that fails has taken its buffer in order, as far as it has taken it. -/
theorem conserves_of_writeChunk_error
    {writer next : Writer (RecordedSink σ) (RecordedEngine ε)}
    {handed accepted bytes : Bytes}
    {error : StreamError}
    (conserves : writer.Conserves handed accepted)
    (writes : writer.writeChunk bytes = (.error error, next)) :
    next.Conserves (handed ++ bytes) accepted := by
  have comes := writes_writeChunk writer bytes
  rw [writes] at comes
  cases comes with
  | unready refused same =>
      cases same
      obtain ⟨conserves, refuses⟩ := conserves_of_unready conserves refused
      exact conserves.refuse bytes refuses
  | staged readied stages =>
      obtain ⟨rfl, running⟩ := running_of_readied conserves readied
      have broken := broken_of_stage_error running.toAgrees stages.symm
      have consumed := broken.consumed
      rw [running.content] at consumed
      refine Conserves.of_failure broken.failure consumed
        (received_prefix_output broken.received) ?_
      intro idle
      exact absurd ((broken.phase.trans readied.open.1).symm.trans idle) (by decide)

/-- Every call keeps the books, and a write that succeeds takes its whole buffer. -/
theorem conserves_of_perform
    {writer next : Writer (RecordedSink σ) (RecordedEngine ε)}
    {handed accepted : Bytes}
    {call : WriterCall}
    {answer : WriterAnswer}
    (conserves : writer.Conserves handed accepted)
    (performs : writer.perform call = (answer, next)) :
    next.Conserves (handed ++ WriterHistory.handed [(call, answer)])
        (accepted ++ WriterHistory.accepted [(call, answer)]) ∧
      ∀ count, answer.taken? = some count → count = call.buffer.length := by
  simp only [WriterHistory.handed, WriterHistory.accepted, List.flatMap_singleton]
  cases call with
  | writeChunk bytes =>
      cases writes : writer.writeChunk bytes with
      | mk result after =>
          simp only [perform, writes] at performs
          cases performs
          cases result with
          | ok count =>
              obtain ⟨rfl, conserves⟩ := conserves_of_writeChunk_ok conserves writes
              exact ⟨conserves, by simp [WriterAnswer.taken?, WriterCall.buffer]⟩
          | error error =>
              have conserves := conserves_of_writeChunk_error conserves writes
              rw [← List.append_nil accepted] at conserves
              exact ⟨conserves, by simp [WriterAnswer.taken?]⟩
  | write bytes =>
      cases writes : writer.writeChunk bytes with
      | mk result after =>
          simp only [perform, write, writes] at performs
          cases performs
          cases result with
          | ok count =>
              obtain ⟨rfl, conserves⟩ := conserves_of_writeChunk_ok conserves writes
              refine ⟨conserves, ?_⟩
              intro count same
              cases same
              rfl
          | error error =>
              have conserves := conserves_of_writeChunk_error conserves writes
              rw [← List.append_nil accepted] at conserves
              refine ⟨conserves, ?_⟩
              intro count same
              cases same
  | flush =>
      have conserves := conserves_of_flush conserves
      cases performs
      simp only [WriterCall.buffer, List.append_nil, ite_self]
      exact ⟨conserves, by simp [WriterAnswer.taken?]⟩
  | close =>
      have conserves := conserves_of_close conserves
      cases performs
      simp only [WriterCall.buffer, List.append_nil, ite_self]
      exact ⟨conserves, by simp [WriterAnswer.taken?]⟩

/-- A session keeps the books, and every write in it that succeeds takes its whole buffer. -/
theorem conserves_of_run
    {writer : Writer (RecordedSink σ) (RecordedEngine ε)}
    {handed accepted : Bytes}
    (conserves : writer.Conserves handed accepted)
    (calls : List WriterCall) :
    (writer.run calls).2.Conserves (handed ++ (writer.run calls).1.handed)
        (accepted ++ (writer.run calls).1.accepted) ∧
      ∀ call answer count,
        (call, answer) ∈ (writer.run calls).1 →
          answer.taken? = some count →
          count = call.buffer.length := by
  induction calls generalizing writer handed accepted with
  | nil =>
      simpa [run, WriterHistory.handed, WriterHistory.accepted] using conserves
  | cons call rest ih =>
      cases performs : writer.perform call with
      | mk answer next =>
          obtain ⟨conserves, whole⟩ := conserves_of_perform conserves performs
          obtain ⟨later, wholes⟩ := ih conserves
          simp only [run, performs]
          refine ⟨?_, ?_⟩
          · simpa [WriterHistory.handed, WriterHistory.accepted, List.append_assoc] using later
          · intro other given count member taken
            rcases List.mem_cons.mp member with same | member
            · cases same
              exact whole count taken
            · exact wholes other given count member taken

/--
Whatever the engine and the sink answer, any calls of a session keep their input
whole and in order, from the caller's buffers through to the sink.  The engine
may be a rationed one, so this holds of any finite part of any engine's behaviour.
-/
theorem faithful_run
    (writer : Writer σ ε)
    (fresh : writer.IsFresh)
    (calls : List WriterCall) :
    Faithful (writer.observed.run calls).1 (writer.observed.run calls).2 := by
  obtain ⟨conserves, whole⟩ := conserves_of_run (conserves_observed fresh) calls
  exact faithful_of_conserves conserves whole

/-- The law holds of a writer between an engine that overreports and a sink that gets stuck. -/
theorem faithful_run_scripted :
    let script : ScriptedEngine := { chunk := some 2, onCall := [(3, .claim ⟨9, 1⟩)] }
    let engine : RationedEngine ScriptedEngine := { engine := script, ration := 9 }
    let sink : ScriptedSink := { room := some 7, perWrite := some 1, interruptEvery := 3 }
    let writer : Writer ScriptedSink (RationedEngine ScriptedEngine) :=
      { sink := sink, engine := engine }
    let calls : List WriterCall := [.writeChunk [1, 2, 3], .flush, .write [4, 5], .close]
    writer.IsFresh ∧
      Faithful (writer.observed.run calls).1 (writer.observed.run calls).2 := by
  intro script engine sink writer calls
  have fresh : writer.IsFresh := isFresh_of_built sink engine {} {}
  exact ⟨fresh, faithful_run writer fresh calls⟩

end Writer

end MemberStream
