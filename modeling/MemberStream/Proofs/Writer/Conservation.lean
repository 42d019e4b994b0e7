import MemberStream.Proofs.Engine.Record
import MemberStream.Proofs.Transport.Received
import MemberStream.Proofs.Writer.Frame
import MemberStream.Proofs.Writer.Session

namespace MemberStream

/-!
# A writer conserves its input

Bytes pass from the caller's buffers through the bytes held back to the engine,
and from the engine to the sink.  The invariant relates the whole session to the
record of engine calls: what was consumed and what is held make up what was
accepted, the checksum and the counters are those of the record, and the sink
has received what the successful steps put out.
-/

namespace Writer

variable {σ ε : Type}

/-- The checksum and the counters of a writer are those of its engine's record. -/
structure Counts
    (writer : Writer (RecordedSink σ) (RecordedEngine ε)) :
    Prop where
  crc : writer.crc = Crc32.empty.update writer.engine.figures.consumed
  bytesIn : writer.counters.bytesIn = UInt64.ofNat writer.engine.figures.consumedCount
  bytesOut : writer.counters.bytesOut = UInt64.ofNat writer.engine.figures.producedCount

/-- A writer whose figures and output are those of its engine's record. -/
structure Agrees
    (writer : Writer (RecordedSink σ) (RecordedEngine ε)) :
    Prop extends Counts writer where
  received : writer.sink.received = writer.engine.figures.produced
  wroteOutput : writer.wroteOutput = writer.engine.figures.succeeded
  /-- Before the first successful step nothing has been consumed. -/
  silent :
    writer.engine.figures.succeeded = false → writer.engine.figures.consumedCount = 0

/-- A writer agrees with its record when one with the same figures and output does. -/
theorem Agrees.congr
    {writer next : Writer (RecordedSink σ) (RecordedEngine ε)}
    (agrees : writer.Agrees)
    (figures : next.engine.figures = writer.engine.figures)
    (received : next.sink.received = writer.sink.received)
    (crc : next.crc = writer.crc)
    (counters : next.counters = writer.counters)
    (wroteOutput : next.wroteOutput = writer.wroteOutput) :
    next.Agrees where
  crc := by
    rw [crc, figures, agrees.crc]
  bytesIn := by
    rw [counters, figures, agrees.bytesIn]
  bytesOut := by
    rw [counters, figures, agrees.bytesOut]
  received := by
    rw [received, figures, agrees.received]
  wroteOutput := by
    rw [wroteOutput, figures, agrees.wroteOutput]
  silent := by
    rw [figures]
    exact agrees.silent

/-- Some input went through the engine and the sink as a whole. -/
structure Submitted
    (writer next : Writer (RecordedSink σ) (RecordedEngine ε))
    (input : Bytes) :
    Prop where
  agrees : next.Agrees
  consumed : next.engine.figures.consumed = writer.engine.figures.consumed ++ input
  succeeded :
    input ≠ [] ∨ writer.engine.figures.succeeded = true →
      next.engine.figures.succeeded = true

/-- Some input went through the engine and the sink in part, if at all. -/
structure Abandoned
    (writer failed : Writer (RecordedSink σ) (RecordedEngine ε))
    (input : Bytes) :
    Prop where
  consumed : failed.engine.figures.consumed <+: writer.engine.figures.consumed ++ input
  received : failed.sink.received <+: failed.engine.figures.produced

/-- What a submission comes to: its input has gone through, or was abandoned. -/
def Conserved
    (writer : Writer (RecordedSink σ) (RecordedEngine ε))
    (offset : Nat)
    (input : Bytes) :
    Except StreamError Nat × Writer (RecordedSink σ) (RecordedEngine ε) →
    Prop
  | (.ok count, next) =>
      count = offset + input.length ∧ Submitted writer next input
  | (.error _, failed) =>
      Abandoned writer failed input

/-- Marking the next chunk passes no data. -/
theorem figures_markedEngine
    [EngineCalls ε]
    (writer : Writer (RecordedSink σ) (RecordedEngine ε)) :
    writer.markedEngine.figures = writer.engine.figures := by
  unfold markedEngine
  split
  · exact RecordedEngine.figures_setLast writer.engine true
  · rfl

/-- The figures after a compress call are those before it and those of the call. -/
theorem figures_of_compress
    [EngineCalls ε]
    {writer : Writer (RecordedSink σ) (RecordedEngine ε)}
    {input : Bytes}
    {capacity : Nat}
    {reply : Reply}
    {engine : RecordedEngine ε}
    (answer : EngineCalls.compress writer.markedEngine input capacity = (reply, engine)) :
    engine.figures = writer.engine.figures.add (.compress input capacity reply) := by
  rw [← figures_markedEngine writer]
  unfold RecordedEngine.figures
  rw [RecordedEngine.calls_of_compress answer]
  rfl

theorem figures_of_refused
    [EngineCalls ε]
    {writer : Writer (RecordedSink σ) (RecordedEngine ε)}
    {input filled : Bytes}
    {capacity : Nat}
    {error : StreamError}
    {engine : RecordedEngine ε}
    (answer :
      EngineCalls.compress writer.markedEngine input capacity = (⟨.error error, filled⟩, engine)) :
    engine.figures = writer.engine.figures := by
  rw [figures_of_compress answer]
  simp [EngineFigures.add, EngineCall.consumed, EngineCall.counts, EngineCall.produced,
    EngineCall.succeeds, EngineCall.isStep]

/-- The figures after a step that keeps to what was offered and makes progress. -/
theorem figures_of_step
    [EngineCalls ε]
    {writer : Writer (RecordedSink σ) (RecordedEngine ε)}
    {input filled : Bytes}
    {capacity : Nat}
    {step : Step}
    {engine : RecordedEngine ε}
    (answer :
      EngineCalls.compress writer.markedEngine input capacity = (⟨.ok step, filled⟩, engine))
    (within : step.exceeds input.length capacity = false)
    (busy : step.isIdle = false) :
    engine.figures =
      { consumed := writer.engine.figures.consumed ++ input.take step.consumed
        produced :=
          writer.engine.figures.produced ++ Reply.front ⟨.ok step, filled⟩ step.produced
        consumedCount := writer.engine.figures.consumedCount + step.consumed
        producedCount := writer.engine.figures.producedCount + step.produced
        succeeded := true } := by
  rw [figures_of_compress answer]
  simp [EngineFigures.add, EngineCall.consumed, EngineCall.offered, EngineCall.counts,
    EngineCall.produced, EngineCall.succeeds, EngineCall.isStep, within, busy]

/-- Counting a step keeps the checksum and the counters right. -/
theorem counts_accept
    [EngineCalls ε]
    {writer : Writer (RecordedSink σ) (RecordedEngine ε)}
    {input filled : Bytes}
    {step : Step}
    {engine : RecordedEngine ε}
    (scope : Scope)
    (offset : Nat)
    (counts : writer.Counts)
    (answer :
      EngineCalls.compress writer.markedEngine input writer.outputLength =
        (⟨.ok step, filled⟩, engine))
    (within : step.exceeds input.length writer.outputLength = false)
    (busy : step.isIdle = false) :
    (({ writer with engine := engine } : Writer (RecordedSink σ) (RecordedEngine ε)).accept
      scope step offset input).Counts := by
  have figures := figures_of_step answer within busy
  constructor
  · change writer.crc.update _ = Crc32.empty.update engine.figures.consumed
    rw [figures, Crc32.update_append, ← counts.crc]
  · change writer.counters.bytesIn + _ = UInt64.ofNat engine.figures.consumedCount
    rw [figures, counts.bytesIn, UInt64.ofNat_add]
  · change writer.counters.bytesOut + _ = UInt64.ofNat engine.figures.producedCount
    rw [figures, counts.bytesOut, UInt64.ofNat_add]

/-- What has been settled has gone through the engine and the sink. -/
theorem submitted_of_settle_ok
    [Sink σ]
    [EngineCalls ε]
    {writer settled : Writer (RecordedSink σ) (RecordedEngine ε)}
    {scope : Scope}
    {offset : Nat}
    {input filled : Bytes}
    {step : Step}
    {engine : RecordedEngine ε}
    (agrees : writer.Agrees)
    (answer :
      EngineCalls.compress writer.markedEngine input writer.outputLength =
        (⟨.ok step, filled⟩, engine))
    (within : step.exceeds input.length writer.outputLength = false)
    (busy : step.isIdle = false)
    (settles :
      ({ writer with engine := engine } : Writer (RecordedSink σ) (RecordedEngine ε)).settle scope
          step (Reply.front ⟨.ok step, filled⟩ step.produced) offset input =
        (.ok (), settled)) :
    Submitted writer settled (input.take step.consumed) := by
  have figures := figures_of_step answer within busy
  have counts := counts_accept scope offset agrees.toCounts answer within busy
  have succeeded : engine.figures.succeeded = true := by
    rw [figures]
  have consumed :
      engine.figures.consumed = writer.engine.figures.consumed ++ input.take step.consumed := by
    rw [figures]
  rcases settle_ok settles with ⟨silent, rfl⟩ | ⟨sink, written, rfl⟩
  · refine ⟨⟨counts, ?_, succeeded.symm, ?_⟩, consumed, fun _ => succeeded⟩
    · change writer.sink.received = engine.figures.produced
      rw [figures, agrees.received]
      simp [silent, Reply.front]
    · intro failed
      exact absurd (failed.symm.trans succeeded) (by decide)
  · refine ⟨⟨⟨counts.crc, counts.bytesIn, counts.bytesOut⟩, ?_, succeeded.symm, ?_⟩, consumed,
      fun _ => succeeded⟩
    · change sink.received = engine.figures.produced
      rw [figures, RecordedSink.received_of_writeAll_ok written, ← agrees.received]
    · intro failed
      exact absurd (failed.symm.trans succeeded) (by decide)

/-- A step whose output the sink did not take has been consumed, and counts for nothing more. -/
theorem abandoned_of_settle_error
    [Sink σ]
    [EngineCalls ε]
    {writer failed : Writer (RecordedSink σ) (RecordedEngine ε)}
    {scope : Scope}
    {offset : Nat}
    {input filled : Bytes}
    {step : Step}
    {engine : RecordedEngine ε}
    {error : StreamError}
    (agrees : writer.Agrees)
    (answer :
      EngineCalls.compress writer.markedEngine input writer.outputLength =
        (⟨.ok step, filled⟩, engine))
    (within : step.exceeds input.length writer.outputLength = false)
    (busy : step.isIdle = false)
    (settles :
      ({ writer with engine := engine } : Writer (RecordedSink σ) (RecordedEngine ε)).settle scope
          step (Reply.front ⟨.ok step, filled⟩ step.produced) offset input =
        (.error error, failed)) :
    Abandoned writer failed input := by
  have figures := figures_of_step answer within busy
  obtain ⟨cause, sink, written, -, rfl⟩ := settle_error settles
  obtain ⟨part, shorter, received⟩ := RecordedSink.received_of_writeAll_error written
  constructor
  · change engine.figures.consumed <+: _
    rw [figures]
    exact (List.prefix_append_right_inj _).mpr (List.take_prefix _ _)
  · change sink.received <+: engine.figures.produced
    rw [figures, received]
    change writer.sink.received ++ part <+: _
    rw [agrees.received]
    exact (List.prefix_append_right_inj _).mpr shorter

/-- A call that the sink did not see the output of abandons its input. -/
theorem abandoned_of_compress
    [EngineCalls ε]
    {writer failed : Writer (RecordedSink σ) (RecordedEngine ε)}
    {input : Bytes}
    {capacity : Nat}
    {reply : Reply}
    {engine : RecordedEngine ε}
    (agrees : writer.Agrees)
    (answer : EngineCalls.compress writer.markedEngine input capacity = (reply, engine))
    (sameEngine : failed.engine = engine)
    (sameSink : failed.sink = writer.sink) :
    Abandoned writer failed input := by
  have figures := figures_of_compress answer
  constructor
  · rw [sameEngine, figures]
    exact (List.prefix_append_right_inj _).mpr (List.take_prefix _ _)
  · rw [sameEngine, sameSink, figures, agrees.received]
    exact List.prefix_append _ _

/-- A halt abandons the input of its round. -/
theorem abandoned_of_halt
    [Sink σ]
    [Engine ε]
    {writer failed : Writer (RecordedSink σ) (RecordedEngine ε)}
    {scope : Scope}
    {offset : Nat}
    {input : Bytes}
    {error : StreamError}
    (agrees : writer.Agrees)
    (halt : Halt writer scope offset input error failed) :
    Abandoned writer failed input := by
  cases halt with
  | overreport answer beyond =>
      exact abandoned_of_compress agrees answer rfl rfl
  | idle answer within idle =>
      exact abandoned_of_compress agrees answer rfl rfl
  | sink answer within busy settles =>
      exact abandoned_of_settle_error agrees answer within busy settles
  | limit answer refused =>
      exact abandoned_of_compress agrees answer rfl rfl
  | saturated answer grown stuck =>
      exact abandoned_of_compress agrees answer rfl rfl
  | engine answer terminal =>
      exact abandoned_of_compress agrees answer rfl rfl

/-- An advance passes on as many bytes as it says. -/
theorem submitted_of_advance
    [Sink σ]
    [Engine ε]
    {writer next : Writer (RecordedSink σ) (RecordedEngine ε)}
    {scope : Scope}
    {offset count : Nat}
    {input : Bytes}
    (agrees : writer.Agrees)
    (advance : Advance writer scope offset input next count) :
    count ≤ input.length ∧ Submitted writer next (input.take count) := by
  cases advance with
  | step answer within busy settles =>
      refine ⟨?_, submitted_of_settle_ok agrees answer within busy settles⟩
      simp only [Step.exceeds, Bool.or_eq_false_iff, decide_eq_false_iff_not] at within
      omega
  | @grow filled engine length growth answer grown larger =>
      have figures : engine.figures = writer.engine.figures := figures_of_refused answer
      refine ⟨Nat.zero_le _, ⟨agrees.congr figures rfl rfl rfl rfl, ?_, ?_⟩⟩
      · change engine.figures.consumed = _
        simp [figures]
      · rintro (nonempty | succeeded)
        · simp at nonempty
        · exact (congrArg EngineFigures.succeeded figures).trans succeeded

theorem Submitted.refl
    {writer : Writer (RecordedSink σ) (RecordedEngine ε)}
    (agrees : writer.Agrees) :
    Submitted writer writer [] where
  agrees := agrees
  consumed := (List.append_nil _).symm
  succeeded := fun before => before.resolve_left (fun nonempty => nonempty rfl)

/-- Input that is submitted in two parts is submitted. -/
theorem Submitted.trans
    {writer next last : Writer (RecordedSink σ) (RecordedEngine ε)}
    {front rest : Bytes}
    (first : Submitted writer next front)
    (second : Submitted next last rest) :
    Submitted writer last (front ++ rest) where
  agrees := second.agrees
  consumed := by
    rw [second.consumed, first.consumed, List.append_assoc]
  succeeded := by
    intro before
    apply second.succeeded
    by_cases more : rest = []
    · right
      apply first.succeeded
      simpa [more] using before
    · exact Or.inl more

/-- Input of which a part is submitted before the rest is abandoned is abandoned. -/
theorem Abandoned.after
    {writer next failed : Writer (RecordedSink σ) (RecordedEngine ε)}
    {front rest : Bytes}
    (later : Abandoned next failed rest)
    (first : Submitted writer next front) :
    Abandoned writer failed (front ++ rest) where
  consumed := by
    rw [← List.append_assoc, ← first.consumed]
    exact later.consumed
  received := later.received

/--
A submission passes on its whole input and counts it, or it abandons the input
with the failure it answers.
-/
theorem submit_conserves
    [Sink σ]
    [Engine ε]
    (writer : Writer (RecordedSink σ) (RecordedEngine ε))
    (scope : Scope)
    (offset : Nat)
    (input : Bytes)
    (agrees : writer.Agrees) :
    Conserved writer offset input (writer.submit scope offset input) := by
  revert agrees
  apply submit_induction
    (motive := fun writer offset input outcome =>
      writer.Agrees → Conserved writer offset input outcome)
  case finish =>
    intro writer offset agrees
    exact ⟨rfl, .refl agrees⟩
  case advance =>
    intro writer next offset count input outcome more advance later agrees
    obtain ⟨bounded, submitted⟩ := submitted_of_advance agrees advance
    have later := later submitted.agrees
    rw [← List.take_append_drop count input]
    match outcome, later with
    | (.ok total, last), ⟨sum, rest⟩ =>
        refine ⟨?_, submitted.trans rest⟩
        rw [sum, List.take_append_drop, List.length_drop]
        omega
    | (.error error, failed), abandoned =>
        exact abandoned.after submitted
  case halt =>
    intro writer failed offset input error more halt agrees
    exact abandoned_of_halt agrees halt

end Writer

end MemberStream
