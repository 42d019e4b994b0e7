import MemberStream.Checksum.Crc32
import MemberStream.Codec.Placeholder
import MemberStream.Engine.Basic
import MemberStream.Parameter.Option
import MemberStream.Stream.Growth
import MemberStream.Stream.Phase
import MemberStream.Telemetry.Counters
import MemberStream.Telemetry.Trace
import MemberStream.Transport.Sink

namespace MemberStream

/-!
# Compressing writers

A writer compresses what it is given with an engine and forwards the output to
a sink.  Its session starts at the first write, close or reset, with the staged
parameters and the overrides.  The input buffer mode decides which bytes are
held back so that the last chunk can be marked before the engine sees it.  No
byte that the engine reported as consumed is offered again; when the output
slice is too small it grows and the same bytes are offered once more.

The first failure is kept and answers every later call until a reset.
-/

/-- A stream that compresses into a sink. -/
structure Writer (σ ε : Type) where
  sink : σ
  engine : ε
  overrides : Overrides := {}
  staged : ParameterSet := {}
  /-- The parameters of the latest session. -/
  effective : ParameterSet := {}
  phase : Phase := .idle
  sessionOpen : Bool := false
  /-- The failure that answers every call until a reset. -/
  failure : Option StreamError := none
  outputLength : Nat := 0
  /-- Accepted bytes that the engine has not been offered yet. -/
  held : Bytes := []
  growth : GrowthPolicy := .start defaultBufferGrowth none
  /-- Whether a step of this session succeeded or a placeholder was written. -/
  wroteOutput : Bool := false
  counters : Counters := {}
  /-- The checksum of the bytes consumed in this session. -/
  crc : Crc32 := .empty
  span : Option Span := none
  trace : Trace := []

namespace InputBufferMode

/-- Whether a write of the given length is held back as a whole. -/
def holdsAll
    (mode : InputBufferMode)
    (bounceLength length : Nat) :
    Bool :=
  mode != .noLast && (mode == .bounce || decide (length ≤ bounceLength))

/-- Cut a write that is not held back as a whole into what is submitted and what is held. -/
def cut
    (mode : InputBufferMode)
    (bounceLength : Nat)
    (bytes : Bytes) :
    Bytes × Bytes :=
  match mode with
  | .reserve =>
      bytes.splitAt (bytes.length - bounceLength)
  | _ =>
      (bytes, [])

end InputBufferMode

namespace Writer

variable {σ ε : Type}

/-- The staged parameters while idle, and those of the session once one has started. -/
def parameters
    (writer : Writer σ ε) :
    ParameterSet :=
  match writer.phase with
  | .idle =>
      writer.staged
  | _ =>
      writer.effective

/-- Whether the stream has been closed. -/
def isClosed
    (writer : Writer σ ε) :
    Bool :=
  writer.phase == .closed

/-- Apply a batch of options to the staged parameters. -/
def apply
    (writer : Writer σ ε)
    (options : List StreamOption) :
    Except StreamError Unit × Writer σ ε :=
  let (result, staged) := applyOptions .writer (writer.phase != .idle) options writer.staged
  (result, { writer with staged := staged })

/-- The regions that a call on the stream starts in. -/
def scope
    (writer : Writer σ ε) :
    Scope :=
  (writer.span.map Span.name).toList

/-- Record an event at the debug level in force. -/
def report
    (writer : Writer σ ε)
    (scope : Scope)
    (event : Event) :
    Writer σ ε :=
  { writer with trace := writer.trace.record writer.effective.debugLevel scope event }

/-- Keep a failure and report it. -/
def fail
    {α : Type}
    (writer : Writer σ ε)
    (scope : Scope)
    (error : StreamError) :
    Except StreamError α × Writer σ ε :=
  (.error error,
    { writer.report scope (.writerFailed error) with failure := some error })

/-- Start a session with the staged parameters and the overrides. -/
def startSession
    [EngineCalls ε]
    (writer : Writer σ ε)
    (scope : Scope) :
    Except StreamError Unit × Writer σ ε :=
  let effective := writer.staged.resolve writer.overrides
  let span := Span.writer effective.algorithm effective.level effective.inputBufferMode
  let trace := .opened span :: writer.trace
  match EngineCalls.start writer.engine effective with
  | (.error error, engine) =>
      (.error error, { writer with engine := engine, span := some span, trace := trace })
  | (.ok (), engine) =>
      let growth := GrowthPolicy.start effective.bufferGrowth effective.maxBufferLength
      let outputLength := growth.initialLength effective.outputBufferLength
      let started :=
        { writer with
          engine := engine
          effective := effective
          phase := .active
          sessionOpen := true
          outputLength := outputLength
          held := []
          growth := growth
          wroteOutput := false
          counters := {}
          crc := .empty
          span := some span
          trace := trace }
      (.ok (), started.report (scope ++ [span.name]) (.writerStarted outputLength))

/-- Close an open session without regard to the engine's answer. -/
def teardown
    [EngineCalls ε]
    (writer : Writer σ ε) :
    Writer σ ε :=
  if writer.sessionOpen then
    { writer with engine := (EngineCalls.close writer.engine).2, sessionOpen := false }
  else
    writer

/-- Get ready for data: the kept failure first, then the phase; an idle stream starts. -/
def ready
    [EngineCalls ε]
    (writer : Writer σ ε)
    (scope : Scope) :
    Except StreamError Unit × Writer σ ε :=
  match writer.failure with
  | some error =>
      (.error error, writer)
  | none =>
      match writer.phase with
      | .closed =>
          (.error .alreadyClosed, writer)
      | .active =>
          (.ok (), writer)
      | .idle =>
          match writer.startSession scope with
          | (.ok (), started) =>
              (.ok (), started)
          | (.error error, idle) =>
              idle.fail scope error

/-- Put engine output into the sink. -/
def forward
    [Sink σ]
    (writer : Writer σ ε)
    (scope : Scope)
    (bytes : Bytes) :
    Except StreamError Unit × Writer σ ε :=
  let (result, sink) := Sink.writeAll writer.sink bytes
  let scope := scope ++ ["output"]
  let written :=
    { writer with sink := sink }.report scope (.forwarded bytes.length result.isOk)
  match result with
  | .ok () =>
      (.ok (), written)
  | .error error =>
      written.fail scope (.ofSink error)

/-- Forwarding leaves the engine alone. -/
theorem forward_engine
    [Sink σ]
    (writer : Writer σ ε)
    (scope : Scope)
    (bytes : Bytes) :
    (writer.forward scope bytes).2.engine = writer.engine := by
  unfold forward
  dsimp only
  split <;> rfl

/-- Forwarding leaves the output buffer alone. -/
theorem forward_outputLength
    [Sink σ]
    (writer : Writer σ ε)
    (scope : Scope)
    (bytes : Bytes) :
    (writer.forward scope bytes).2.outputLength = writer.outputLength := by
  unfold forward
  dsimp only
  split <;> rfl

/-- The state after a step over the front of some input, before its output is forwarded. -/
def accept
    (writer : Writer σ ε)
    (scope : Scope)
    (step : Step)
    (offset : Nat)
    (input : Bytes) :
    Writer σ ε :=
  let reported :=
    writer.report scope (.compressed input.length step.consumed step.produced offset)
  { reported with
    counters := writer.counters.addStep step.consumed step.produced
    crc := writer.crc.update (input.take step.consumed)
    wroteOutput := true }

/-- Count a step and forward what it produced. -/
def settle
    [Sink σ]
    (writer : Writer σ ε)
    (scope : Scope)
    (step : Step)
    (output : Bytes)
    (offset : Nat)
    (input : Bytes) :
    Except StreamError Unit × Writer σ ε :=
  let accepted := writer.accept scope step offset input
  if step.produced = 0 then
    (.ok (), accepted)
  else
    accepted.forward scope output

/-- Settling a step leaves the engine alone. -/
theorem settle_engine
    [Sink σ]
    (writer : Writer σ ε)
    (scope : Scope)
    (step : Step)
    (output : Bytes)
    (offset : Nat)
    (input : Bytes) :
    (writer.settle scope step output offset input).2.engine = writer.engine := by
  unfold settle
  dsimp only
  split
  · rfl
  · rw [forward_engine]
    rfl

/-- Settling a step leaves the output buffer alone. -/
theorem settle_outputLength
    [Sink σ]
    (writer : Writer σ ε)
    (scope : Scope)
    (step : Step)
    (output : Bytes)
    (offset : Nat)
    (input : Bytes) :
    (writer.settle scope step output offset input).2.outputLength = writer.outputLength := by
  unfold settle
  dsimp only
  split
  · rfl
  · rw [forward_outputLength]
    rfl

/-- The engine as it receives the next chunk: marked when every chunk counts as the last. -/
def markedEngine
    [EngineCalls ε]
    (writer : Writer σ ε) :
    ε :=
  if writer.effective.inputBufferMode = .last then
    EngineCalls.setLast writer.engine true
  else
    writer.engine

/--
Drive the engine until all of the input is consumed.  `offset` bytes of it have
been consumed before; the result is the number consumed in the end.

An output buffer that does not become longer by growing ends the stream with an
error.  As the increment is positive, that is one of `maxLength`, which is
`2 ^ 64 - 1`: no buffer that can be allocated comes to it.
-/
def submit
    [operations : Engine ε]
    [Sink σ]
    (writer : Writer σ ε)
    (scope : Scope)
    (offset : Nat)
    (input : Bytes) :
    Except StreamError Nat × Writer σ ε :=
  if _empty : input.isEmpty then
    (.ok offset, writer)
  else
    match _answer : EngineCalls.compress writer.markedEngine input writer.outputLength with
    | (⟨.ok step, filled⟩, engine) =>
        let remaining := input.length
        let called := { writer with engine := engine }
        if step.exceeds remaining writer.outputLength then
          called.fail scope (step.overreport remaining writer.outputLength)
        else if _idle : step.isIdle then
          called.fail scope (.engineFault "engine made no progress")
        else
          let output := Reply.front ⟨.ok step, filled⟩ step.produced
          match _settled : called.settle scope step output offset input with
          | (.error error, failed) =>
              (.error error, failed)
          | (.ok (), settled) =>
              settled.submit scope (offset + step.consumed) (input.drop step.consumed)
    | (⟨.error .insufficientBuffer, _⟩, engine) =>
        let called := { writer with engine := engine }
        match _grown : writer.growth.nextOutputLength input.length writer.outputLength with
        | (.error error, growth) =>
            { called with growth := growth }.fail scope error
        | (.ok length, growth) =>
            let expanded :=
              { called with growth := growth }.report scope
                (.outputExpanded writer.outputLength length)
            if _larger : writer.outputLength < length then
              { expanded with outputLength := length }.submit scope offset input
            else
              expanded.fail scope (.bufferLimitExceeded length maxLength)
    | (⟨.error error, _⟩, engine) =>
        { writer with engine := engine }.fail scope error
termination_by
  (input.length, maxLength - writer.outputLength, operations.settles.wrap writer.engine)
decreasing_by
  · have engineSame : settled.engine = engine := by
      have same := settle_engine { writer with engine := engine } scope step
        (Reply.front ⟨.ok step, filled⟩ step.produced) offset input
      rwa [_settled] at same
    have lengthSame : settled.outputLength = writer.outputLength := by
      have same := settle_outputLength { writer with engine := engine } scope step
        (Reply.front ⟨.ok step, filled⟩ step.produced) offset input
      rwa [_settled] at same
    by_cases consumed : step.consumed = 0
    · rw [consumed, List.drop_zero, lengthSame]
      apply Prod.Lex.right
      apply Prod.Lex.right
      refine ⟨writer.markedEngine, input, writer.outputLength, step.produced, filled, ?_, ?_, ?_⟩
      · unfold markedEngine
        split
        · exact Or.inr rfl
        · exact Or.inl rfl
      · simp only [Step.isIdle, consumed, beq_self_eq_true, Bool.true_and, beq_iff_eq] at _idle
        omega
      · rw [_answer, engineSame, ← consumed]
        rfl
    · have nonempty : input ≠ [] := by
        simpa using _empty
      have positive := List.length_pos_iff.mpr nonempty
      apply Prod.Lex.left
      simp only [List.length_drop]
      omega
  · have bounded := GrowthPolicy.nextOutputLength_le _grown
    apply Prod.Lex.right
    apply Prod.Lex.left
    omega

/-- Submit what is held back. -/
def flushHeld
    [Engine ε]
    [Sink σ]
    (writer : Writer σ ε)
    (scope : Scope) :
    Except StreamError Unit × Writer σ ε :=
  match { writer with held := [] }.submit scope 0 writer.held with
  | (.ok _, flushed) =>
      (.ok (), flushed)
  | (.error error, failed) =>
      (.error error, failed)

/--
Take a buffer: submit what was held back before it, then hold back or submit
its bytes as the input buffer mode says.
-/
def stage
    [Engine ε]
    [Sink σ]
    (writer : Writer σ ε)
    (scope : Scope)
    (bytes : Bytes) :
    Except StreamError Nat × Writer σ ε :=
  match writer.flushHeld scope with
  | (.error error, failed) =>
      (.error error, failed)
  | (.ok (), flushed) =>
      let mode := flushed.effective.inputBufferMode
      let bounceLength := flushed.effective.bounceBufferLength
      let length := bytes.length
      if mode.holdsAll bounceLength length then
        let holding := { flushed with held := flushed.held ++ bytes }
        (.ok length, holding.report scope (.held length))
      else
        let (front, tail) := mode.cut bounceLength bytes
        match { flushed with held := flushed.held ++ tail }.submit scope 0 front with
        | (.ok consumed, submitted) =>
            (.ok (consumed + tail.length), submitted)
        | (.error error, failed) =>
            (.error error, failed)

/-- Compress and forward a buffer; the result counts bytes that are held back, too. -/
def writeChunk
    [Engine ε]
    [Sink σ]
    (writer : Writer σ ε)
    (bytes : Bytes) :
    Except StreamError Nat × Writer σ ε :=
  let scope := writer.scope
  match writer.ready scope with
  | (.error error, idle) =>
      (.error error, idle)
  | (.ok (), active) =>
      active.stage (scope ++ ["write"]) bytes

/-- Write the placeholder of a stream without content. -/
def writePlaceholder
    [Sink σ]
    (writer : Writer σ ε)
    (scope : Scope) :
    Except StreamError Unit × Writer σ ε :=
  let bytes := writer.effective.placeholder
  let algorithm := writer.effective.algorithm
  let reported :=
    writer.report (scope ++ ["empty"])
      (.placeholder algorithm.name algorithm.assemblesPlaceholder bytes.length)
  let (result, sink) := Sink.writeAll writer.sink bytes
  (result.mapError .ofSink, { reported with sink := sink, wroteOutput := true })

/-- Whether nothing has come out of the session and nothing is held back. -/
def isBlank
    (writer : Writer σ ε) :
    Bool :=
  !writer.wroteOutput && writer.counters.bytesIn == 0 && writer.held.isEmpty

/-- Close the engine of a stream whose output is complete. -/
def closeEngine
    [EngineCalls ε]
    (writer : Writer σ ε)
    (scope : Scope) :
    Except StreamError Unit × Writer σ ε :=
  let (result, engine) := EngineCalls.close writer.engine
  let closed := { writer with engine := engine, sessionOpen := false }
  match result with
  | .ok () =>
      (.ok (), closed.report scope (.writerClosed closed.counters.bytesIn))
  | .error error =>
      closed.fail scope error

/-- Mark the last chunk, submit what is held back, flush the sink and close the engine. -/
def complete
    [Engine ε]
    [Sink σ]
    (writer : Writer σ ε)
    (scope : Scope) :
    Except StreamError Unit × Writer σ ε :=
  let marked :=
    { writer with
      phase := .closed
      engine := EngineCalls.setLast writer.engine true }
  match marked.flushHeld scope with
  | (.error error, failed) =>
      (.error error, failed.teardown)
  | (.ok (), flushed) =>
      let (result, sink) := SinkCalls.flush flushed.sink
      let flushed := { flushed with sink := sink }
      match result with
      | .ok () =>
          flushed.closeEngine scope
      | .error error =>
          flushed.teardown.fail scope (.ofTransport error)

/--
Finish the stream: a placeholder if it has no content, then everything held
back with the last chunk marked.  A closed stream refuses to close again, and
a failed one closes its engine and answers with the failure.
-/
def close
    [Engine ε]
    [Sink σ]
    (writer : Writer σ ε) :
    Except StreamError Unit × Writer σ ε :=
  let scope := writer.scope
  if writer.isClosed then
    (.error .alreadyClosed, writer)
  else if let some error := writer.failure then
    (.error error, writer.teardown)
  else
    match writer.ready scope with
    | (.error error, idle) =>
        (.error error, idle)
    | (.ok (), active) =>
        let scope := scope ++ ["close"]
        if active.isBlank then
          match active.writePlaceholder scope with
          | (.ok (), written) =>
              written.complete scope
          | (.error error, failed) =>
              failed.teardown.fail scope error
        else
          active.complete scope

/-- Close the stream and hand back its sink. -/
def finish
    [Engine ε]
    [Sink σ]
    (writer : Writer σ ε) :
    Except StreamError σ × Writer σ ε :=
  match writer.close with
  | (.ok (), closed) =>
      (.ok closed.sink, closed)
  | (.error error, failed) =>
      (.error error, failed)

/-- Close an active stream before a reset; a failure to do so is only reported. -/
def closeForReset
    [Engine ε]
    [Sink σ]
    (writer : Writer σ ε) :
    Writer σ ε :=
  if writer.phase = .active ∧ writer.failure = none then
    match writer.close with
    | (.ok (), closed) =>
        closed
    | (.error error, failed) =>
        failed.report [] (.unfinished error)
  else
    writer

/--
Finish the current stream into the current sink, install a new sink and start a
fresh session; the result is the sink before.  If the session cannot start, the
sink stays in place and the failure is kept.
-/
def reset
    [Engine ε]
    [Sink σ]
    (writer : Writer σ ε)
    (sink : σ) :
    Except StreamError σ × Writer σ ε :=
  let previous := writer.closeForReset.teardown
  let cleared :=
    { previous with
      failure := none
      phase := .idle
      held := []
      counters := {}
      crc := .empty }
  match cleared.startSession [] with
  | (.ok (), started) =>
      (.ok started.sink, { started with sink := sink })
  | (.error error, idle) =>
      idle.fail [] error

/-- Write through the byte-stream interface. -/
def write
    [Engine ε]
    [Sink σ]
    (writer : Writer σ ε)
    (bytes : Bytes) :
    Except TransportError Nat × Writer σ ε :=
  let (result, next) := writer.writeChunk bytes
  (result.mapError .wrapped, next)

/--
Flush through the byte-stream interface.  Only the sink is flushed: what is held
back stays held, so that the last chunk can still be marked.
-/
def flush
    [Sink σ]
    (writer : Writer σ ε) :
    Except TransportError Unit × Writer σ ε :=
  match writer.failure with
  | some error =>
      (.error (.wrapped error), writer)
  | none =>
      let (result, sink) := SinkCalls.flush writer.sink
      (result, { writer with sink := sink })

/--
Write a whole string through the byte-stream interface, where a write that fails
as interrupted is tried again.  The result is missing if the given number of
attempts did not end it.
-/
def writeAll?
    [Engine ε]
    [Sink σ] :
    Nat →
    Writer σ ε →
    Bytes →
    Option (Except TransportError Unit) × Writer σ ε
  | _, writer, [] =>
      (some (.ok ()), writer)
  | 0, writer, _ =>
      (none, writer)
  | attempts + 1, writer, bytes =>
      match writer.write bytes with
      | (.ok 0, next) =>
          (some (.error Sink.exhausted), next)
      | (.ok count, next) =>
          writeAll? attempts next (bytes.drop count)
      | (.error error, next) =>
          if error.kind = .interrupted then
            writeAll? attempts next bytes
          else
            (some (.error error), next)

end Writer

end MemberStream
