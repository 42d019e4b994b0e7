import MemberStream.Proofs.Engine.Ignoring
import MemberStream.Proofs.Telemetry.Filtering
import MemberStream.Proofs.Writer.Renewal

namespace MemberStream

/-!
# A writer at two debug levels

Two writers go through the same requests, over an engine that ignores the debug level, and
differ only in the debug level that overrides the one of their options.  One shadows the
other then: whatever is requested of both, they answer alike and stay equal in everything
but the level, what their engines keep to themselves, and the events that the lower level
leaves out of the trace.
-/

/-- A request leaves the debug level alone: it neither sets it nor replaces the overrides. -/
def WriterRequest.LeavesLevel
    {σ : Type} :
    WriterRequest σ → Prop
  | .apply options =>
      MemberStream.LeavesLevel options
  | .override _ =>
      False
  | _ =>
      True

/-- What a writer shows of itself, apart from its engine and the debug level. -/
def WriterView.outside
    {σ ε : Type}
    (view : WriterView σ ε) :
    WriterView σ Unit :=
  { view with
    engine := ()
    parameters := view.parameters.atLevel .none }

namespace Writer

variable
  {σ ε : Type}
  {same : ε → ε → Prop}
  {lower upper : DebugLevel}
  {quiet loud : Writer σ ε}

/-- A writer is another one at a lower debug level, over an engine that is the same to it. -/
structure Shadows
    (same : ε → ε → Prop)
    (lower upper : DebugLevel)
    (quiet loud : Writer σ ε) :
    Prop where
  ordered : lower ≤ upper
  levels : Trace.Levelled lower upper quiet.effective.debugLevel loud.effective.debugLevel
  engine : same quiet.engine loud.engine
  overrides : quiet.overrides = { loud.overrides with debugLevel := some lower }
  override : loud.overrides.debugLevel = some upper
  staged : quiet.staged = loud.staged
  /-- No option has set the debug level. -/
  unset : loud.staged.explicit.debugLevel = false
  effective : quiet.effective = loud.effective.atLevel quiet.effective.debugLevel
  trace : quiet.trace = loud.trace.lowered lower
  sink : quiet.sink = loud.sink
  phase : quiet.phase = loud.phase
  sessionOpen : quiet.sessionOpen = loud.sessionOpen
  failure : quiet.failure = loud.failure
  outputLength : quiet.outputLength = loud.outputLength
  held : quiet.held = loud.held
  growth : quiet.growth = loud.growth
  wroteOutput : quiet.wroteOutput = loud.wroteOutput
  counters : quiet.counters = loud.counters
  crc : quiet.crc = loud.crc
  span : quiet.span = loud.span

namespace Shadows

variable (shadows : Shadows same lower upper quiet loud)

include shadows

theorem scope :
    quiet.scope = loud.scope := by
  unfold Writer.scope
  rw [shadows.span]

/-- An event is reported by both, unless the lower level does not reach it. -/
theorem report
    (scope : Scope)
    (event : Event) :
    Shadows same lower upper (quiet.report scope event) (loud.report scope event) :=
  { shadows with
    trace := by
      unfold Writer.report
      rw [Trace.lowered_record shadows.ordered shadows.levels, shadows.trace] }

theorem reportAs
    (scope : Scope)
    {event other : Event}
    (told : event = other) :
    Shadows same lower upper (quiet.report scope event) (loud.report scope other) :=
  told ▸ shadows.report scope event

theorem withSink
    (sink : σ) :
    Shadows same lower upper { quiet with sink := sink } { loud with sink := sink } :=
  { shadows with sink := rfl }

theorem withEngine
    {first second : ε}
    (engines : same first second) :
    Shadows same lower upper { quiet with engine := first } { loud with engine := second } :=
  { shadows with engine := engines }

theorem fail
    {α : Type}
    (scope : Scope)
    (error : StreamError) :
    Together (Shadows same lower upper)
      (quiet.fail (α := α) scope error) (loud.fail (α := α) scope error) :=
  ⟨rfl, { shadows.report scope (.writerFailed error) with failure := rfl }⟩

end Shadows

section Session

variable [EngineCalls ε]

/-- A session starts for both, or for neither. -/
theorem startSession_together
    (blind : LevelBlind same)
    (shadows : Shadows same lower upper quiet loud)
    (scope : Scope) :
    Together (Shadows same lower upper)
      (quiet.startSession scope) (loud.startSession scope) := by
  let parameters := loud.staged.resolve loud.overrides
  have quietly : quiet.staged.resolve quiet.overrides = parameters.atLevel lower := by
    rw [shadows.staged, shadows.overrides]
    exact ParameterSet.resolve_override shadows.unset loud.overrides lower
  have own : loud.overrides = { loud.overrides with debugLevel := some upper } := by
    rw [← shadows.override]
  have loudly : loud.staged.resolve loud.overrides = parameters.atLevel upper :=
    (congrArg loud.staged.resolve own).trans
      (ParameterSet.resolve_override shadows.unset loud.overrides upper)
  obtain ⟨answer, one, other, started, startedToo, engines⟩ :=
    (blind.start shadows.engine parameters lower upper).split
  unfold startSession
  rw [quietly, loudly]
  dsimp only
  rw [started, startedToo]
  cases answer with
  | error error =>
      exact ⟨rfl, {
        shadows with
        engine := engines
        span := rfl
        trace := by
          rw [shadows.trace]
          rfl }⟩
  | ok =>
      refine ⟨rfl, Shadows.report ?_ _ _⟩
      exact {
        shadows with
        engine := engines
        effective := rfl
        levels := .started
        phase := rfl
        sessionOpen := rfl
        outputLength := rfl
        held := rfl
        growth := rfl
        wroteOutput := rfl
        counters := rfl
        crc := rfl
        span := rfl
        trace := by
          rw [shadows.trace]
          rfl }

/-- A session is torn down for both. -/
theorem teardown_shadows
    (blind : LevelBlind same)
    (shadows : Shadows same lower upper quiet loud) :
    Shadows same lower upper quiet.teardown loud.teardown := by
  unfold teardown
  rw [shadows.sessionOpen]
  split
  · exact {
      shadows with
      engine := (blind.close shadows.engine).state
      sessionOpen := rfl }
  · exact shadows

/-- Both get ready, or neither. -/
theorem ready_together
    (blind : LevelBlind same)
    (shadows : Shadows same lower upper quiet loud)
    (scope : Scope) :
    Together (Shadows same lower upper) (quiet.ready scope) (loud.ready scope) := by
  obtain ⟨answer, one, other, starts, startsToo, started⟩ :=
    (startSession_together blind shadows scope).split
  unfold ready
  rw [shadows.failure, shadows.phase, starts, startsToo]
  cases loud.failure with
  | some error =>
      exact ⟨rfl, shadows⟩
  | none =>
      cases loud.phase with
      | closed =>
          exact ⟨rfl, shadows⟩
      | active =>
          exact ⟨rfl, shadows⟩
      | idle =>
          cases answer with
          | ok =>
              exact ⟨rfl, started⟩
          | error error =>
              exact started.fail scope error

/-- The engine is closed for both. -/
theorem closeEngine_together
    (blind : LevelBlind same)
    (shadows : Shadows same lower upper quiet loud)
    (scope : Scope) :
    Together (Shadows same lower upper) (quiet.closeEngine scope) (loud.closeEngine scope) := by
  obtain ⟨answer, one, other, closes, closesToo, engines⟩ := (blind.close shadows.engine).split
  have closed :
      Shadows same lower upper
        { quiet with engine := one, sessionOpen := false }
        { loud with engine := other, sessionOpen := false } :=
    { shadows with engine := engines, sessionOpen := rfl }
  unfold closeEngine
  rw [closes, closesToo]
  cases answer with
  | ok =>
      exact ⟨rfl, closed.reportAs scope (by rw [shadows.counters])⟩
  | error error =>
      exact closed.fail scope error

/-- Both engines receive the next chunk with the same mark. -/
theorem markedEngine_same
    (blind : LevelBlind same)
    (shadows : Shadows same lower upper quiet loud) :
    same quiet.markedEngine loud.markedEngine := by
  have mode : quiet.effective.inputBufferMode = loud.effective.inputBufferMode := by
    rw [shadows.effective]
    rfl
  unfold markedEngine
  rw [mode]
  split
  · exact blind.setLast shadows.engine true
  · exact shadows.engine

/-- Both engines answer alike when they receive the next chunk. -/
theorem compress_of_shadows
    (blind : LevelBlind same)
    (shadows : Shadows same lower upper quiet loud)
    {input : Bytes}
    {reply : Reply}
    {engine : ε}
    (answer : EngineCalls.compress loud.markedEngine input loud.outputLength = (reply, engine)) :
    ∃ twin,
      EngineCalls.compress quiet.markedEngine input quiet.outputLength = (reply, twin) ∧
        Shadows same lower upper { quiet with engine := twin } { loud with engine := engine } := by
  have together := blind.compress (markedEngine_same blind shadows) input loud.outputLength
  rw [answer] at together
  obtain ⟨twin, answers, engines⟩ := together.answers
  rw [← shadows.outputLength] at answers
  exact ⟨twin, answers, shadows.withEngine engines⟩

end Session

section Submission

variable [Sink σ]

/-- Output is forwarded for both. -/
theorem forward_together
    (shadows : Shadows same lower upper quiet loud)
    (scope : Scope)
    (bytes : Bytes) :
    Together (Shadows same lower upper) (quiet.forward scope bytes) (loud.forward scope bytes) := by
  cases written : Sink.writeAll loud.sink bytes with
  | mk result sink =>
      have writtenToo := written
      rw [← shadows.sink] at writtenToo
      have forwarded (ok : Bool) :
          Shadows same lower upper
            (quiet.forwarded scope bytes ok sink) (loud.forwarded scope bytes ok sink) :=
        (shadows.withSink sink).report (scope ++ ["output"]) (.forwarded bytes.length ok)
      cases result with
      | ok =>
          rw [forward_ok written, forward_ok writtenToo]
          exact ⟨rfl, forwarded true⟩
      | error error =>
          rw [forward_error written, forward_error writtenToo]
          exact (forwarded false).fail _ _

/-- A step is settled for both. -/
theorem settle_together
    (shadows : Shadows same lower upper quiet loud)
    (scope : Scope)
    (step : Step)
    (output : Bytes)
    (offset : Nat)
    (input : Bytes) :
    Together (Shadows same lower upper)
      (quiet.settle scope step output offset input)
      (loud.settle scope step output offset input) := by
  have accepted :
      Shadows same lower upper
        (quiet.accept scope step offset input) (loud.accept scope step offset input) :=
    { shadows.report scope (.compressed input.length step.consumed step.produced offset) with
      counters := by
        unfold accept
        rw [shadows.counters]
      crc := by
        unfold accept
        rw [shadows.crc]
      wroteOutput := rfl }
  unfold settle
  dsimp only
  split
  · exact ⟨rfl, accepted⟩
  · exact forward_together accepted scope output

/-- The sink is flushed for both. -/
theorem flush_together
    (shadows : Shadows same lower upper quiet loud) :
    Together (Shadows same lower upper) quiet.flush loud.flush := by
  unfold flush
  rw [shadows.failure, shadows.sink]
  cases loud.failure with
  | some error =>
      exact ⟨rfl, shadows⟩
  | none =>
      exact ⟨rfl, { shadows with sink := rfl, failure := rfl }⟩

/-- The placeholder is put out for both. -/
theorem writePlaceholder_together
    (shadows : Shadows same lower upper quiet loud)
    (scope : Scope) :
    Together (Shadows same lower upper)
      (quiet.writePlaceholder scope) (loud.writePlaceholder scope) := by
  have placeholder : quiet.effective.placeholder = loud.effective.placeholder := by
    rw [shadows.effective]
    rfl
  have algorithm : quiet.effective.algorithm = loud.effective.algorithm := by
    rw [shadows.effective]
    rfl
  unfold writePlaceholder
  rw [placeholder, algorithm, shadows.sink]
  exact ⟨rfl, { shadows.report _ _ with sink := rfl, wroteOutput := rfl }⟩

variable [Engine ε]

/-- A round goes on for both. -/
theorem Advance.shadows
    (blind : LevelBlind same)
    (shadows : Shadows same lower upper quiet loud)
    {next : Writer σ ε}
    {scope : Scope}
    {offset count : Nat}
    {input : Bytes}
    (advance : Advance loud scope offset input next count) :
    ∃ twin,
      Advance quiet scope offset input twin count ∧ Shadows same lower upper twin next := by
  cases advance with
  | @step step filled engine settled answer within busy settles =>
      obtain ⟨other, answers, called⟩ := compress_of_shadows blind shadows answer
      have together := settle_together called scope step
        (Reply.front ⟨.ok step, filled⟩ step.produced) offset input
      rw [settles] at together
      obtain ⟨twin, settlesToo, settled⟩ := together.answers
      rw [← shadows.outputLength] at within
      exact ⟨twin, .step answers within busy settlesToo, settled⟩
  | @grow filled engine length growth answer grown larger =>
      obtain ⟨other, answers, called⟩ := compress_of_shadows blind shadows answer
      have grows :
          Shadows same lower upper
            { quiet with engine := other, growth := growth }
            { loud with engine := engine, growth := growth } :=
        { called with growth := rfl }
      have expanded :=
        grows.reportAs scope (congrArg (Event.outputExpanded · length) shadows.outputLength)
      rw [← shadows.outputLength, ← shadows.growth] at grown
      rw [← shadows.outputLength] at larger
      exact ⟨_, .grow answers grown larger, { expanded with outputLength := rfl }⟩

/-- A round halts for both. -/
theorem Halt.shadows
    (blind : LevelBlind same)
    (shadows : Shadows same lower upper quiet loud)
    {failed : Writer σ ε}
    {scope : Scope}
    {offset : Nat}
    {input : Bytes}
    {error : StreamError}
    (halt : Halt loud scope offset input error failed) :
    ∃ twin,
      Halt quiet scope offset input error twin ∧ Shadows same lower upper twin failed := by
  cases halt with
  | @overreport step filled engine answer beyond =>
      obtain ⟨other, answers, called⟩ := compress_of_shadows blind shadows answer
      rw [← shadows.outputLength] at beyond ⊢
      exact ⟨_, .overreport answers beyond, {
        (called.fail (α := Nat) scope (step.overreport input.length quiet.outputLength)).state with
        outputLength := rfl }⟩
  | @idle step filled engine answer within idle =>
      obtain ⟨other, answers, called⟩ := compress_of_shadows blind shadows answer
      rw [← shadows.outputLength] at within
      exact ⟨_, .idle answers within idle, (called.fail scope _).state⟩
  | @sink step filled engine error failed answer within busy settles =>
      obtain ⟨other, answers, called⟩ := compress_of_shadows blind shadows answer
      have together := settle_together called scope step
        (Reply.front ⟨.ok step, filled⟩ step.produced) offset input
      rw [settles] at together
      obtain ⟨twin, settlesToo, settled⟩ := together.answers
      rw [← shadows.outputLength] at within
      exact ⟨twin, .sink answers within busy settlesToo, settled⟩
  | @limit filled engine error growth answer refused =>
      obtain ⟨other, answers, called⟩ := compress_of_shadows blind shadows answer
      have grows :
          Shadows same lower upper
            { quiet with engine := other, growth := growth }
            { loud with engine := engine, growth := growth } :=
        { called with growth := rfl }
      rw [← shadows.outputLength, ← shadows.growth] at refused
      exact ⟨_, .limit answers refused, (grows.fail scope error).state⟩
  | @saturated filled engine length growth answer grown stuck =>
      obtain ⟨other, answers, called⟩ := compress_of_shadows blind shadows answer
      have grows :
          Shadows same lower upper
            { quiet with engine := other, growth := growth }
            { loud with engine := engine, growth := growth } :=
        { called with growth := rfl }
      have expanded :=
        grows.reportAs scope (congrArg (Event.outputExpanded · length) shadows.outputLength)
      rw [← shadows.outputLength, ← shadows.growth] at grown
      rw [← shadows.outputLength] at stuck
      exact ⟨_, .saturated answers grown stuck, (expanded.fail scope _).state⟩
  | @engine filled engine error answer terminal =>
      obtain ⟨other, answers, called⟩ := compress_of_shadows blind shadows answer
      exact ⟨_, .engine answers terminal, (called.fail scope error).state⟩

/-- Input is submitted for both. -/
theorem submit_together
    (blind : LevelBlind same)
    (shadows : Shadows same lower upper quiet loud)
    (scope : Scope)
    (offset : Nat)
    (input : Bytes) :
    Together (Shadows same lower upper)
      (quiet.submit scope offset input) (loud.submit scope offset input) := by
  revert quiet
  apply submit_induction
    (motive := fun loud offset input outcome =>
      ∀ {quiet : Writer σ ε},
        Shadows same lower upper quiet loud →
          Together (Shadows same lower upper) (quiet.submit scope offset input) outcome)
  case finish =>
    intro loud offset quiet shadows
    rw [submit_nil]
    exact ⟨rfl, shadows⟩
  case advance =>
    intro loud next offset count input outcome nonempty advance later quiet shadows
    obtain ⟨twin, advances, after⟩ := advance.shadows blind shadows
    rw [submit_of_advance nonempty advances]
    exact later after
  case halt =>
    intro loud failed offset input error nonempty halt quiet shadows
    obtain ⟨twin, halts, after⟩ := halt.shadows blind shadows
    rw [submit_of_halt nonempty halts]
    exact ⟨rfl, after⟩

/-- What is held back is flushed for both. -/
theorem flushHeld_together
    (blind : LevelBlind same)
    (shadows : Shadows same lower upper quiet loud)
    (scope : Scope) :
    Together (Shadows same lower upper) (quiet.flushHeld scope) (loud.flushHeld scope) := by
  have emptied : Shadows same lower upper { quiet with held := [] } { loud with held := [] } :=
    { shadows with held := rfl }
  obtain ⟨answer, one, other, submits, submitsToo, submitted⟩ :=
    (submit_together blind emptied scope 0 loud.held).split
  unfold flushHeld
  rw [shadows.held, submits, submitsToo]
  cases answer with
  | ok =>
      exact ⟨rfl, submitted⟩
  | error error =>
      exact ⟨rfl, submitted⟩

/-- A buffer is taken by both. -/
theorem stage_together
    (blind : LevelBlind same)
    (shadows : Shadows same lower upper quiet loud)
    (scope : Scope)
    (bytes : Bytes) :
    Together (Shadows same lower upper) (quiet.stage scope bytes) (loud.stage scope bytes) := by
  obtain ⟨answer, one, other, flushes, flushesToo, flushed⟩ :=
    (flushHeld_together blind shadows scope).split
  have holding (tail : Bytes) :
      Shadows same lower upper
        { one with held := one.held ++ tail } { other with held := other.held ++ tail } :=
    { flushed with held := congrArg (· ++ tail) flushed.held }
  have mode : one.effective.inputBufferMode = other.effective.inputBufferMode := by
    rw [flushed.effective]
    rfl
  have bounce : one.effective.bounceBufferLength = other.effective.bounceBufferLength := by
    rw [flushed.effective]
    rfl
  unfold stage
  rw [flushes, flushesToo]
  cases answer with
  | error error =>
      exact ⟨rfl, flushed⟩
  | ok =>
      dsimp only
      rw [mode, bounce]
      split
      · exact ⟨rfl, (holding bytes).report scope _⟩
      · generalize other.effective.inputBufferMode.cut other.effective.bounceBufferLength bytes =
          parts
        obtain ⟨answer, one, other, submits, submitsToo, submitted⟩ :=
          (submit_together blind (holding parts.2) scope 0 parts.1).split
        rw [submits, submitsToo]
        cases answer with
        | ok =>
            exact ⟨rfl, submitted⟩
        | error error =>
            exact ⟨rfl, submitted⟩

/-- A write comes to the same for both. -/
theorem writeChunk_together
    (blind : LevelBlind same)
    (shadows : Shadows same lower upper quiet loud)
    (bytes : Bytes) :
    Together (Shadows same lower upper) (quiet.writeChunk bytes) (loud.writeChunk bytes) := by
  obtain ⟨answer, one, other, readies, readiesToo, ready⟩ :=
    (ready_together blind shadows loud.scope).split
  unfold writeChunk
  dsimp only
  rw [shadows.scope, readies, readiesToo]
  cases answer with
  | error error =>
      exact ⟨rfl, ready⟩
  | ok =>
      exact stage_together blind ready _ bytes

/-- The stream is completed for both. -/
theorem complete_together
    (blind : LevelBlind same)
    (shadows : Shadows same lower upper quiet loud)
    (scope : Scope) :
    Together (Shadows same lower upper) (quiet.complete scope) (loud.complete scope) := by
  have marked : Shadows same lower upper quiet.markedLast loud.markedLast :=
    { shadows with
      phase := rfl
      engine := blind.setLast shadows.engine true }
  obtain ⟨answer, one, other, flushes, flushesToo, flushed⟩ :=
    (flushHeld_together blind marked scope).split
  rw [complete_eq, complete_eq, flushes, flushesToo]
  cases answer with
  | error error =>
      exact ⟨rfl, teardown_shadows blind flushed⟩
  | ok =>
      dsimp only
      rw [flushed.sink]
      have drained := flushed.withSink (SinkCalls.flush other.sink).2
      cases (SinkCalls.flush other.sink).1 with
      | ok =>
          exact closeEngine_together blind drained scope
      | error error =>
          exact (teardown_shadows blind drained).fail scope _

/-- The stream is closed for both. -/
theorem close_together
    (blind : LevelBlind same)
    (shadows : Shadows same lower upper quiet loud) :
    Together (Shadows same lower upper) quiet.close loud.close := by
  have closed : quiet.isClosed = loud.isClosed := by
    unfold isClosed
    rw [shadows.phase]
  obtain ⟨answer, one, other, readies, readiesToo, ready⟩ :=
    (ready_together blind shadows loud.scope).split
  have blank : one.isBlank = other.isBlank := by
    unfold isBlank
    rw [ready.wroteOutput, ready.counters, ready.held]
  unfold close
  dsimp only
  rw [closed, shadows.failure, shadows.scope, readies, readiesToo]
  split
  · exact ⟨rfl, shadows⟩
  · cases loud.failure with
    | some error =>
        exact ⟨rfl, teardown_shadows blind shadows⟩
    | none =>
        cases answer with
        | error error =>
            exact ⟨rfl, ready⟩
        | ok =>
            dsimp only
            rw [blank]
            split
            · obtain ⟨answer, one, other, writes, writesToo, written⟩ :=
                (writePlaceholder_together ready (loud.scope ++ ["close"])).split
              rw [writes, writesToo]
              cases answer with
              | ok =>
                  exact complete_together blind written _
              | error error =>
                  exact (teardown_shadows blind written).fail _ error
            · exact complete_together blind ready _

theorem finish_together
    (blind : LevelBlind same)
    (shadows : Shadows same lower upper quiet loud) :
    Together (Shadows same lower upper) quiet.finish loud.finish := by
  obtain ⟨answer, one, other, closes, closesToo, closed⟩ := (close_together blind shadows).split
  rw [finish_eq, finish_eq, closes, closesToo]
  exact ⟨by rw [closed.sink], closed⟩

/-- What a reset does before it starts a session leaves both alike. -/
theorem closeForReset_shadows
    (blind : LevelBlind same)
    (shadows : Shadows same lower upper quiet loud) :
    Shadows same lower upper quiet.closeForReset loud.closeForReset := by
  obtain ⟨answer, one, other, closes, closesToo, closed⟩ := (close_together blind shadows).split
  unfold closeForReset
  rw [shadows.phase, shadows.failure, closes, closesToo]
  split
  · cases answer with
    | ok =>
        exact closed
    | error error =>
        exact closed.report [] _
  · exact shadows

/-- The stream is reset for both. -/
theorem reset_together
    (blind : LevelBlind same)
    (shadows : Shadows same lower upper quiet loud)
    (sink : σ) :
    Together (Shadows same lower upper) (quiet.reset sink) (loud.reset sink) := by
  have cleared : Shadows same lower upper quiet.cleared loud.cleared :=
    { teardown_shadows blind (closeForReset_shadows blind shadows) with
      failure := rfl
      phase := rfl
      held := rfl
      counters := rfl
      crc := rfl }
  obtain ⟨answer, one, other, starts, startsToo, started⟩ :=
    (startSession_together blind cleared []).split
  rw [reset_eq, reset_eq, starts, startsToo]
  cases answer with
  | ok =>
      exact ⟨congrArg Except.ok started.sink, started.withSink sink⟩
  | error error =>
      exact started.fail [] error

/-- A call comes to the same for both. -/
theorem perform_together
    (blind : LevelBlind same)
    (shadows : Shadows same lower upper quiet loud)
    (call : WriterCall) :
    Together (Shadows same lower upper) (quiet.perform call) (loud.perform call) := by
  cases call with
  | writeChunk bytes =>
      obtain ⟨answer, state⟩ := writeChunk_together blind shadows bytes
      exact ⟨congrArg WriterAnswer.chunkWritten answer, state⟩
  | write bytes =>
      obtain ⟨answer, state⟩ := writeChunk_together blind shadows bytes
      exact ⟨congrArg (fun result : Except StreamError Nat =>
        WriterAnswer.written (result.mapError .wrapped)) answer, state⟩
  | flush =>
      obtain ⟨answer, state⟩ := flush_together shadows
      exact ⟨congrArg WriterAnswer.flushed answer, state⟩
  | close =>
      obtain ⟨answer, state⟩ := close_together blind shadows
      exact ⟨congrArg WriterAnswer.closed answer, state⟩

end Submission

/-- Options are applied to both, if they leave the debug level alone. -/
theorem apply_together
    (shadows : Shadows same lower upper quiet loud)
    {options : List StreamOption}
    (leaves : LeavesLevel options) :
    Together (Shadows same lower upper) (quiet.apply options) (loud.apply options) := by
  unfold apply
  rw [shadows.phase, shadows.staged]
  exact ⟨rfl, {
    shadows with
    phase := rfl
    staged := rfl
    unset := applyOptions_unset leaves shadows.unset }⟩

/-- Both show the same, apart from their engines and the debug level. -/
theorem view_of_shadows
    (shadows : Shadows same lower upper quiet loud) :
    quiet.view.outside = loud.view.outside := by
  have parameters : quiet.parameters.atLevel .none = loud.parameters.atLevel .none := by
    unfold parameters
    rw [shadows.phase]
    cases loud.phase with
    | idle =>
        rw [shadows.staged]
    | active | closed =>
        dsimp only
        rw [shadows.effective]
        rfl
  unfold WriterView.outside view isClosed
  dsimp only
  rw [parameters, shadows.sink, shadows.counters, shadows.crc, shadows.phase]

section Requests

variable [Sink σ] [Engine ε]

/-- A request comes to the same for both, if it leaves the debug level alone. -/
theorem serve_together
    (blind : LevelBlind same)
    (shadows : Shadows same lower upper quiet loud)
    {request : WriterRequest σ}
    (leaves : request.LeavesLevel) :
    Together (Shadows same lower upper) (quiet.serve request) (loud.serve request) := by
  cases request with
  | call call =>
      obtain ⟨answer, state⟩ := perform_together blind shadows call
      exact ⟨congrArg WriterReply.answered answer, state⟩
  | apply options =>
      obtain ⟨answer, state⟩ := apply_together shadows leaves
      exact ⟨congrArg WriterReply.applied answer, state⟩
  | override overrides =>
      cases leaves
  | alter change =>
      exact ⟨rfl, { shadows with sink := congrArg change shadows.sink }⟩
  | reset sink =>
      obtain ⟨answer, state⟩ := reset_together blind shadows sink
      exact ⟨congrArg WriterReply.handedBack answer, state⟩
  | finish =>
      obtain ⟨answer, state⟩ := finish_together blind shadows
      exact ⟨congrArg WriterReply.handedBack answer, state⟩

/-- Every reply, and what the writer shows behind it apart from its engine and the debug level. -/
def outcomes
    (writer : Writer σ ε)
    (requests : List (WriterRequest σ)) :
    List (WriterReply σ × WriterView σ Unit) :=
  (writer.observe requests).map fun seen => (seen.1, seen.2.outside)

/-- All requests come to the same for both, if they leave the debug level alone. -/
theorem serveEach_together
    (blind : LevelBlind same)
    (shadows : Shadows same lower upper quiet loud)
    {requests : List (WriterRequest σ)}
    (leave : ∀ request ∈ requests, request.LeavesLevel) :
    quiet.outcomes requests = loud.outcomes requests ∧
      Shadows same lower upper (quiet.serveEach requests) (loud.serveEach requests) := by
  induction requests generalizing quiet loud with
  | nil =>
      exact ⟨rfl, shadows⟩
  | cons request rest later =>
      obtain ⟨reply, one, other, serves, servesToo, served⟩ :=
        (serve_together blind shadows (leave request List.mem_cons_self)).split
      obtain ⟨replies, state⟩ :=
        later served fun request member => leave request (List.mem_cons_of_mem _ member)
      unfold outcomes observe serveEach
      rw [serves, servesToo]
      refine ⟨?_, state⟩
      dsimp only
      rw [List.map_cons, List.map_cons, view_of_shadows served]
      exact congrArg (List.cons _) replies

end Requests

/-- A writer that has just been built, with an override of the debug level. -/
def builtAt
    (sink : σ)
    (engine : ε)
    (overrides : Overrides)
    (level : DebugLevel) :
    Writer σ ε where
  sink := sink
  engine := engine
  overrides := { overrides with debugLevel := some level }

/-- A writer built at a debug level shadows one that is built at a higher level. -/
theorem shadows_built
    {engine : ε}
    (itself : same engine engine)
    (ordered : lower ≤ upper)
    (sink : σ)
    (overrides : Overrides) :
    Shadows same lower upper
      (builtAt sink engine overrides lower) (builtAt sink engine overrides upper) where
  ordered := ordered
  levels := .unstarted
  engine := itself
  overrides := rfl
  override := rfl
  staged := rfl
  unset := rfl
  effective := rfl
  trace := rfl
  sink := rfl
  phase := rfl
  sessionOpen := rfl
  failure := rfl
  outputLength := rfl
  held := rfl
  growth := rfl
  wroteOutput := rfl
  counters := rfl
  crc := rfl
  span := rfl

/-- The debug level of a writer only filters its trace. -/
theorem filters_of_built
    [Sink σ]
    [Engine ε]
    {engine : ε}
    (ignores : IgnoresLevel engine)
    (ordered : lower ≤ upper)
    (sink : σ)
    (overrides : Overrides)
    {requests : List (WriterRequest σ)}
    (leave : ∀ request ∈ requests, request.LeavesLevel) :
    (builtAt sink engine overrides lower).outcomes requests =
        (builtAt sink engine overrides upper).outcomes requests ∧
      Trace.Filters
        ((builtAt sink engine overrides lower).serveEach requests).trace
        ((builtAt sink engine overrides upper).serveEach requests).trace
        lower upper := by
  obtain ⟨same, blind, itself⟩ := ignores
  obtain ⟨outcomes, shadows⟩ :=
    serveEach_together blind (shadows_built itself ordered sink overrides) leave
  obtain ⟨-, own⟩ :=
    serveEach_together blind (shadows_built itself (Nat.le_refl upper.rank) sink overrides) leave
  exact ⟨outcomes, Trace.filters_of_lowered shadows.trace own.trace⟩

end Writer

end MemberStream
