import MemberStream.Checksum.Crc32
import MemberStream.Engine.Basic
import MemberStream.Parameter.Option
import MemberStream.Stream.Growth
import MemberStream.Stream.Phase
import MemberStream.Telemetry.Counters
import MemberStream.Telemetry.Trace
import MemberStream.Transport.Source

namespace MemberStream

/-!
# Decompressing readers

A reader gathers its whole source in a growing input buffer before the first
engine call, and lets the engine walk it step by step.  What a step produced
stays in a window until the caller has taken it; the engine is not called while
the window holds bytes.

A failure is kept and answers every later call until a reset.  A call that has
already delivered bytes when a failure comes up hands those out; the failure
then answers the next call.
-/

/-- A stream that decompresses from a source. -/
structure Reader (σ ε : Type) where
  source : σ
  engine : ε
  overrides : Overrides := {}
  staged : ParameterSet := {}
  /-- The parameters of the latest session. -/
  effective : ParameterSet := {}
  phase : Phase := .idle
  sessionOpen : Bool := false
  /-- The failure that answers every read until a reset. -/
  failure : Option StreamError := none
  /-- What closing the stream came to. -/
  closeResult : Option (Except StreamError Unit) := none
  inputLength : Nat := 0
  /-- How many bytes of the input buffer the engine has consumed. -/
  inputOffset : Nat := 0
  /-- How many bytes of the input buffer have been read from the source. -/
  inputRead : Nat := 0
  /-- The bytes of the input buffer that the engine has not consumed. -/
  unread : Bytes := []
  sourceDone : Bool := false
  sourceTotal : Nat := 0
  outputLength : Nat := 0
  outputOffset : Nat := 0
  /-- How many produced bytes the caller has not taken. -/
  outputLeft : Nat := 0
  /-- The produced bytes that the caller has not taken. -/
  window : Bytes := []
  windowed : outputLeft = window.length := by rfl
  growth : GrowthPolicy := .start defaultBufferGrowth none
  counters : Counters := {}
  /-- The checksum of the bytes delivered in this session. -/
  crc : Crc32 := .empty
  span : Option Span := none
  trace : Trace := []

namespace Reader

variable {σ ε : Type}

/-- The staged parameters while idle, and those of the session once one has started. -/
def parameters
    (reader : Reader σ ε) :
    ParameterSet :=
  match reader.phase with
  | .idle =>
      reader.staged
  | _ =>
      reader.effective

/-- Apply a batch of options to the staged parameters. -/
def apply
    (reader : Reader σ ε)
    (options : List StreamOption) :
    Except StreamError Unit × Reader σ ε :=
  let (result, staged) := applyOptions .reader (reader.phase != .idle) options reader.staged
  (result, { reader with staged := staged })

/-- The regions that a call on the stream starts in. -/
def scope
    (reader : Reader σ ε) :
    Scope :=
  (reader.span.map Span.name).toList

/-- Record an event at the debug level in force. -/
def report
    (reader : Reader σ ε)
    (scope : Scope)
    (event : Event) :
    Reader σ ε :=
  { reader with trace := reader.trace.record reader.effective.debugLevel scope event }

/-- Keep a failure and report it. -/
def fail
    (reader : Reader σ ε)
    (scope : Scope)
    (error : StreamError) :
    Reader σ ε :=
  { reader.report scope (.readerFailed error) with failure := some error }

/-- Start a session with the staged parameters and the overrides. -/
def startSession
    [EngineCalls ε]
    (reader : Reader σ ε)
    (scope : Scope) :
    Except StreamError Unit × Reader σ ε :=
  let effective := reader.staged.resolve reader.overrides
  let span := Span.reader effective.algorithm effective.level
  let trace := .opened span :: reader.trace
  match EngineCalls.start reader.engine effective with
  | (.error error, engine) =>
      (.error error, { reader with engine := engine, span := some span, trace := trace })
  | (.ok (), engine) =>
      let growth := GrowthPolicy.start effective.bufferGrowth effective.maxBufferLength
      let inputLength := growth.initialLength effective.inputBufferLength
      let started :=
        { reader with
          engine := engine
          effective := effective
          phase := .active
          sessionOpen := true
          inputLength := inputLength
          inputOffset := 0
          inputRead := 0
          unread := []
          sourceDone := false
          sourceTotal := 0
          outputLength := growth.initialLength effective.outputBufferLength
          outputOffset := 0
          outputLeft := 0
          window := []
          windowed := rfl
          growth := growth
          counters := {}
          crc := .empty
          span := some span
          trace := trace }
      (.ok (), started.report (scope ++ [span.name]) (.readerStarted inputLength))

/-- Close an open session without regard to the engine's answer. -/
def teardown
    [EngineCalls ε]
    (reader : Reader σ ε) :
    Reader σ ε :=
  if reader.sessionOpen then
    { reader with engine := (EngineCalls.close reader.engine).2, sessionOpen := false }
  else
    reader

/-- Get ready for data: the kept failure first, then the phase; an idle stream starts. -/
def ready
    [EngineCalls ε]
    (reader : Reader σ ε)
    (scope : Scope) :
    Except StreamError Unit × Reader σ ε :=
  match reader.failure with
  | some error =>
      (.error error, reader)
  | none =>
      match reader.phase with
      | .closed =>
          (.error .alreadyClosed, reader)
      | .active =>
          (.ok (), reader)
      | .idle =>
          match reader.startSession scope with
          | (.ok (), started) =>
              (.ok (), started)
          | (.error error, idle) =>
              (.error error, idle.fail scope error)

/-- Make room in the input buffer if it is full. -/
def makeRoom
    (reader : Reader σ ε)
    (scope : Scope) :
    Except StreamError Unit × Reader σ ε :=
  if reader.inputRead = reader.inputLength then
    match reader.growth.nextInputLength reader.inputLength with
    | .ok length =>
        let reported := reader.report scope (.inputExpanded reader.inputLength length)
        (.ok (), { reported with inputLength := length })
    | .error error =>
        (.error error, reader)
  else
    (.ok (), reader)

/-- Making room leaves the source alone. -/
theorem makeRoom_source
    (reader : Reader σ ε)
    (scope : Scope) :
    (reader.makeRoom scope).2.source = reader.source := by
  unfold makeRoom
  split
  · split <;> rfl
  · rfl

/--
Read the source to its end, behind the chunks gathered so far, which are given
newest first.  The result is every chunk, newest first.
-/
def gather
    [operations : Source σ]
    (reader : Reader σ ε)
    (scope : Scope)
    (chunks : List Bytes) :
    Except StreamError Unit × List Bytes × Reader σ ε :=
  match _room : reader.makeRoom scope with
  | (.error error, full) =>
      (.error error, chunks, full)
  | (.ok (), roomy) =>
      match _answer : SourceCalls.read roomy.source (roomy.inputLength - roomy.inputRead) with
      | (.ok [], source) =>
          (.ok (), chunks, { roomy with source := source, sourceDone := true })
      | (.ok (byte :: rest), source) =>
          let count := rest.length + 1
          let buffered := roomy.inputRead + count
          let transferred :=
            { roomy with
              source := source
              inputRead := buffered
              sourceTotal := roomy.sourceTotal + count }
          gather
            (transferred.report scope (.transferred count buffered roomy.inputLength))
            scope
            ((byte :: rest) :: chunks)
      | (.error error, source) =>
          if _interrupted : error.kind = .interrupted then
            gather { roomy with source := source } scope chunks
          else
            (.error (.ofTransport error), chunks, { roomy with source := source })
termination_by operations.settles.wrap reader.source
decreasing_by
  · have same := makeRoom_source reader scope
    rw [_room] at same
    refine ⟨roomy.inputLength - roomy.inputRead, Or.inl ⟨byte :: rest, by simp, ?_⟩⟩
    change SourceCalls.read reader.source _ = (_, source)
    rw [← same]
    exact _answer
  · have same := makeRoom_source reader scope
    rw [_room] at same
    refine ⟨roomy.inputLength - roomy.inputRead, Or.inr ⟨error, _interrupted, ?_⟩⟩
    change SourceCalls.read reader.source _ = (_, source)
    rw [← same]
    exact _answer

/-- Gathering ends well only at the end of the source. -/
theorem gather_sourceDone
    [Source σ]
    (reader : Reader σ ε)
    (scope : Scope)
    (chunks : List Bytes)
    (ended : (reader.gather scope chunks).1 = .ok ()) :
    (reader.gather scope chunks).2.2.sourceDone = true := by
  fun_induction gather reader scope chunks with
  | case1 =>
      cases ended
  | case2 =>
      rfl
  | case3 _ _ _ _ _ _ _ _ _ _ _ ih =>
      exact ih ended
  | case4 _ _ _ _ _ _ _ _ ih =>
      exact ih ended
  | case5 =>
      cases ended

/-- Gather the source in an empty input buffer. -/
def fillInput
    [Source σ]
    (reader : Reader σ ε)
    (scope : Scope) :
    Except StreamError Unit × Reader σ ε :=
  let emptied := { reader with inputOffset := 0, inputRead := 0, unread := [] }
  let (result, chunks, gathered) := emptied.gather (scope ++ ["input"]) []
  (result, { gathered with unread := chunks.reverse.flatten })

/-- Whether the engine has consumed everything that was read. -/
def inputExhausted
    (reader : Reader σ ε) :
    Bool :=
  reader.inputOffset == reader.inputRead

/-- Gather the source unless that has been done. -/
def ensureInput
    [Source σ]
    (reader : Reader σ ε)
    (scope : Scope) :
    Except StreamError Unit × Reader σ ε :=
  if reader.inputExhausted && !reader.sourceDone then
    match reader.fillInput scope with
    | (.error error, failed) =>
        (.error error, failed)
    | (.ok (), filled) =>
        if filled.sourceTotal = 0 then
          (.error .emptyBuffer, filled)
        else
          (.ok (), filled)
  else if reader.sourceTotal = 0 then
    (.error .emptyBuffer, reader)
  else
    (.ok (), reader)

/-- Input is ready when it was before, or when the source has just come to its end. -/
theorem eq_or_sourceDone_of_ensureInput
    [Source σ]
    {reader filled : Reader σ ε}
    {scope : Scope}
    (ensured : reader.ensureInput scope = (.ok (), filled)) :
    filled = reader ∨ (reader.sourceDone = false ∧ filled.sourceDone = true) := by
  unfold ensureInput at ensured
  split at ensured
  · rename_i unfilled
    simp only [Bool.and_eq_true, Bool.not_eq_true'] at unfilled
    split at ensured
    · cases ensured
    · rename_i gathered answer
      split at ensured
      · cases ensured
      · cases ensured
        refine Or.inr ⟨unfilled.2, ?_⟩
        unfold fillInput at answer
        dsimp only at answer
        have ended := congrArg Prod.fst answer
        have state := congrArg Prod.snd answer
        dsimp only at ended state
        rw [← state]
        exact gather_sourceDone _ _ _ ended
  · split at ensured
    · cases ensured
    · cases ensured
      exact Or.inl rfl

/-- Take up to `wanted` bytes out of the window. -/
def drain
    (reader : Reader σ ε)
    (wanted : Nat) :
    Bytes × Reader σ ε :=
  let count := min reader.outputLeft wanted
  let parts := reader.window.splitAt count
  (parts.1,
    { reader with
      outputOffset := reader.outputOffset + count
      outputLeft := reader.outputLeft - count
      window := parts.2
      windowed := by simp [parts, reader.windowed]
      crc := reader.crc.update parts.1 })

/-- What is taken out of the window has the length wanted, if the window holds that much. -/
theorem length_drain
    (reader : Reader σ ε)
    (wanted : Nat) :
    (reader.drain wanted).1.length = min reader.outputLeft wanted := by
  simp only [drain, List.splitAt_eq, List.length_take, ← reader.windowed]
  omega

/-- The state after a step over the front of the unread input, with the reply that told of it. -/
def accept
    (reader : Reader σ ε)
    (scope : Scope)
    (step : Step)
    (reply : Reply) :
    Reader σ ε :=
  let reported :=
    reader.report scope
      (.decompressed step.consumed step.produced reader.inputOffset reader.inputRead)
  { reported with
    counters := reader.counters.addStep step.consumed step.produced
    inputOffset := reader.inputOffset + step.consumed
    unread := reader.unread.drop step.consumed
    outputOffset := 0
    outputLeft := step.produced
    window := reply.front step.produced
    windowed := (reply.length_front step.produced).symm }

/-- What one round of a read comes to. -/
inductive Round (σ ε : Type)
  /-- Bytes were taken out of the window. -/
  | took (bytes : Bytes) (next : Reader σ ε)
  /-- The stream has moved on without any. -/
  | moved (next : Reader σ ε)
  | ended (last : Reader σ ε)
  | failed (error : StreamError) (last : Reader σ ε)

/--
One engine call on the unread input while `wanted` bytes are outstanding.

An output buffer that does not become longer by growing ends the stream with an
error.  As the increment is positive, that is one of `maxLength`, which is
`2 ^ 64 - 1`: no buffer that can be allocated comes to it.
-/
def advance
    [EngineCalls ε]
    (reader : Reader σ ε)
    (scope : Scope)
    (wanted : Nat) :
    Round σ ε :=
  match EngineCalls.decompress reader.engine reader.unread reader.outputLength with
  | (⟨.ok step, bytes⟩, engine) =>
      let available := reader.inputRead - reader.inputOffset
      let called := { reader with engine := engine }
      if step.exceeds available reader.outputLength then
        .failed (step.overreport available reader.outputLength) called
      else if step.isIdle then
        .failed (.corruptInput "truncated stream") called
      else
        .moved (called.accept scope step ⟨.ok step, bytes⟩)
  | (⟨.error .insufficientBuffer, _⟩, engine) =>
      let called := { reader with engine := engine }
      match reader.growth.nextOutputLength wanted reader.outputLength with
      | (.error error, growth) =>
          .failed error { called with growth := growth }
      | (.ok length, growth) =>
          let expanded :=
            { called with growth := growth }.report scope
              (.outputExpanded reader.outputLength length)
          if reader.outputLength < length then
            .moved { expanded with outputLength := length }
          else
            .failed (.bufferLimitExceeded length maxLength) expanded
  | (⟨.error error, _⟩, engine) =>
      .failed error { reader with engine := engine }

/-- One round of a read with `wanted` bytes outstanding: the window first, then the engine. -/
def round
    [EngineCalls ε]
    [Source σ]
    (reader : Reader σ ε)
    (scope : Scope)
    (wanted : Nat) :
    Round σ ε :=
  if 0 < reader.outputLeft then
    let (taken, drained) := reader.drain wanted
    .took taken drained
  else
    match reader.ensureInput scope with
    | (.error error, failed) =>
        .failed error failed
    | (.ok (), filled) =>
        if filled.inputExhausted then
          .ended filled
        else
          filled.advance scope wanted

/-- Everything that one engine call can come to. -/
inductive Answered
    [EngineCalls ε]
    (reader : Reader σ ε)
    (scope : Scope)
    (wanted : Nat) :
    Round σ ε →
    Prop where
  /-- The engine reported more than it was offered. -/
  | overreport
      {step : Step}
      {bytes : Bytes}
      {engine : ε}
      (answer :
        EngineCalls.decompress reader.engine reader.unread reader.outputLength =
          (⟨.ok step, bytes⟩, engine))
      (beyond :
        step.exceeds (reader.inputRead - reader.inputOffset) reader.outputLength = true) :
      Answered reader scope wanted
        (.failed
          (step.overreport (reader.inputRead - reader.inputOffset) reader.outputLength)
          { reader with engine := engine })
  /-- The engine made no progress. -/
  | idle
      {step : Step}
      {bytes : Bytes}
      {engine : ε}
      (answer :
        EngineCalls.decompress reader.engine reader.unread reader.outputLength =
          (⟨.ok step, bytes⟩, engine))
      (within :
        step.exceeds (reader.inputRead - reader.inputOffset) reader.outputLength = false)
      (idle : step.isIdle = true) :
      Answered reader scope wanted
        (.failed (.corruptInput "truncated stream") { reader with engine := engine })
  /-- The engine made a step. -/
  | step
      {step : Step}
      {bytes : Bytes}
      {engine : ε}
      (answer :
        EngineCalls.decompress reader.engine reader.unread reader.outputLength =
          (⟨.ok step, bytes⟩, engine))
      (within :
        step.exceeds (reader.inputRead - reader.inputOffset) reader.outputLength = false)
      (busy : step.isIdle = false) :
      Answered reader scope wanted
        (.moved
          (({ reader with engine := engine } : Reader σ ε).accept scope step ⟨.ok step, bytes⟩))
  /-- The output buffer may not grow. -/
  | limit
      {bytes : Bytes}
      {engine : ε}
      {error : StreamError}
      {growth : GrowthPolicy}
      (answer :
        EngineCalls.decompress reader.engine reader.unread reader.outputLength =
          (⟨.error .insufficientBuffer, bytes⟩, engine))
      (refused :
        reader.growth.nextOutputLength wanted reader.outputLength = (.error error, growth)) :
      Answered reader scope wanted
        (.failed error { reader with engine := engine, growth := growth })
  /-- The output buffer was too small and has grown. -/
  | grow
      {bytes : Bytes}
      {engine : ε}
      {length : Nat}
      {growth : GrowthPolicy}
      (answer :
        EngineCalls.decompress reader.engine reader.unread reader.outputLength =
          (⟨.error .insufficientBuffer, bytes⟩, engine))
      (grown :
        reader.growth.nextOutputLength wanted reader.outputLength = (.ok length, growth))
      (larger : reader.outputLength < length) :
      Answered reader scope wanted
        (.moved
          { ({ reader with engine := engine, growth := growth } : Reader σ ε).report scope
                (.outputExpanded reader.outputLength length) with
            outputLength := length })
  /-- The output buffer cannot grow. -/
  | saturated
      {bytes : Bytes}
      {engine : ε}
      {length : Nat}
      {growth : GrowthPolicy}
      (answer :
        EngineCalls.decompress reader.engine reader.unread reader.outputLength =
          (⟨.error .insufficientBuffer, bytes⟩, engine))
      (grown :
        reader.growth.nextOutputLength wanted reader.outputLength = (.ok length, growth))
      (stuck : ¬ reader.outputLength < length) :
      Answered reader scope wanted
        (.failed (.bufferLimitExceeded length maxLength)
          (({ reader with engine := engine, growth := growth } : Reader σ ε).report scope
            (.outputExpanded reader.outputLength length)))
  /-- The engine refused. -/
  | engine
      {bytes : Bytes}
      {engine : ε}
      {error : StreamError}
      (answer :
        EngineCalls.decompress reader.engine reader.unread reader.outputLength =
          (⟨.error error, bytes⟩, engine))
      (terminal : error ≠ .insufficientBuffer) :
      Answered reader scope wanted (.failed error { reader with engine := engine })

/-- An engine call comes to one of the cases. -/
theorem answered_advance
    [EngineCalls ε]
    (reader : Reader σ ε)
    (scope : Scope)
    (wanted : Nat) :
    Answered reader scope wanted (reader.advance scope wanted) := by
  unfold advance
  split
  · rename_i step bytes engine answer
    dsimp only
    split
    · rename_i beyond
      exact .overreport answer beyond
    · rename_i within
      rw [Bool.not_eq_true] at within
      split
      · rename_i idle
        exact .idle answer within idle
      · rename_i busy
        exact .step answer within (by simpa using busy)
  · rename_i bytes engine answer
    dsimp only
    split
    · rename_i refused
      exact .limit answer refused
    · rename_i grown
      split
      · rename_i larger
        exact .grow answer grown larger
      · rename_i stuck
        exact .saturated answer grown stuck
  · rename_i error bytes engine terminal answer
    exact .engine answer terminal

/-- What is left of a stream before it is at its end, the coarsest part first. -/
def remaining
    (reader : Reader σ ε) :
    Nat × Nat × Nat × Nat :=
  ((!reader.sourceDone).toNat, reader.inputRead - reader.inputOffset,
    maxLength - reader.outputLength, (reader.outputLeft == 0).toNat)

/-- The order in which what is left of a stream shrinks. -/
abbrev Shrinks : Nat × Nat × Nat × Nat → Nat × Nat × Nat × Nat → Prop :=
  Prod.Lex (· < ·) (Prod.Lex (· < ·) (Prod.Lex (· < ·) (· < ·)))

/-- An engine call that moves on reads nothing, and leaves less if the window is empty. -/
theorem remaining_of_advance
    [EngineCalls ε]
    {reader next : Reader σ ε}
    {scope : Scope}
    {wanted : Nat}
    (moves : reader.advance scope wanted = .moved next) :
    next.sourceDone = reader.sourceDone ∧
      (reader.outputLeft = 0 → Shrinks next.remaining reader.remaining) := by
  have answered := answered_advance reader scope wanted
  rw [moves] at answered
  cases answered with
  | @step step bytes engine answer within busy =>
      refine ⟨rfl, fun empty => ?_⟩
      simp only [Step.exceeds, Bool.or_eq_false_iff, decide_eq_false_iff_not, Nat.not_lt] at within
      apply Prod.Lex.right
      change Prod.Lex _ _ (reader.inputRead - (reader.inputOffset + step.consumed), _) _
      by_cases consumed : step.consumed = 0
      · rw [consumed, Nat.add_zero]
        apply Prod.Lex.right
        apply Prod.Lex.right
        change (step.produced == 0).toNat < (reader.outputLeft == 0).toNat
        simp only [Step.isIdle, consumed, beq_self_eq_true, Bool.true_and] at busy
        simp [empty, busy]
      · apply Prod.Lex.left
        omega
  | @grow bytes engine length growth answer grown larger =>
      refine ⟨rfl, fun _ => ?_⟩
      have bounded := GrowthPolicy.nextOutputLength_le grown
      apply Prod.Lex.right
      apply Prod.Lex.right
      apply Prod.Lex.left
      change maxLength - length < maxLength - reader.outputLength
      omega

/-- A round that moves on leaves less of a stream. -/
theorem remaining_of_moved
    [EngineCalls ε]
    [Source σ]
    {reader next : Reader σ ε}
    {scope : Scope}
    {wanted : Nat}
    (moves : reader.round scope wanted = .moved next) :
    Shrinks next.remaining reader.remaining := by
  unfold round at moves
  split at moves
  · cases moves
  · rename_i empty
    split at moves
    · cases moves
    · rename_i filled ensured
      split at moves
      · cases moves
      · obtain ⟨same, shrinks⟩ := remaining_of_advance moves
        rcases eq_or_sourceDone_of_ensureInput ensured with rfl | ⟨before, after⟩
        · exact shrinks (by omega)
        · apply Prod.Lex.left
          simp [same, before, after]

/-- A round that takes bytes takes them out of a window that holds some. -/
theorem drain_of_took
    [EngineCalls ε]
    [Source σ]
    {reader next : Reader σ ε}
    {scope : Scope}
    {wanted : Nat}
    {bytes : Bytes}
    (takes : reader.round scope wanted = .took bytes next) :
    0 < reader.outputLeft ∧ reader.drain wanted = (bytes, next) := by
  unfold round at takes
  split at takes
  · rename_i some
    cases takes
    exact ⟨some, rfl⟩
  · split at takes
    · cases takes
    · rename_i filled _
      split at takes
      · cases takes
      · have answered := answered_advance filled scope wanted
        rw [takes] at answered
        cases answered

/-- A round that takes bytes takes at least one. -/
theorem length_of_took
    [EngineCalls ε]
    [Source σ]
    {reader next : Reader σ ε}
    {scope : Scope}
    {wanted : Nat}
    {bytes : Bytes}
    (takes : reader.round scope wanted = .took bytes next)
    (some : 0 < wanted) :
    0 < bytes.length ∧ bytes.length ≤ wanted := by
  obtain ⟨left, drains⟩ := drain_of_took takes
  have length := reader.length_drain wanted
  rw [drains] at length
  dsimp only at length
  omega

/-- Keep a failure; bytes that were delivered before it, given newest first, are handed out. -/
def failAfter
    (reader : Reader σ ε)
    (scope : Scope)
    (delivered : Bytes)
    (error : StreamError) :
    Except StreamError Bytes × Reader σ ε :=
  let failed := reader.fail scope error
  if delivered.isEmpty then
    (.error error, failed)
  else
    (.ok delivered.reverse, failed)

/--
Deliver `wanted` more bytes behind those delivered so far, which are given
newest first.  The result has fewer bytes only at the end of the stream or
before a failure.
-/
def deliver
    [EngineCalls ε]
    [Source σ]
    (reader : Reader σ ε)
    (scope : Scope)
    (wanted : Nat)
    (delivered : Bytes) :
    Except StreamError Bytes × Reader σ ε :=
  if _enough : wanted = 0 then
    (.ok delivered.reverse, reader)
  else
    match _round : reader.round scope wanted with
    | .took bytes next =>
        next.deliver scope (wanted - bytes.length) (bytes.reverse ++ delivered)
    | .moved next =>
        next.deliver scope wanted delivered
    | .ended last =>
        (.ok delivered.reverse, last)
    | .failed error last =>
        last.failAfter scope delivered error
termination_by (wanted, reader.remaining)
decreasing_by
  · have some := length_of_took _round (Nat.pos_of_ne_zero _enough)
    apply Prod.Lex.left
    omega
  · apply Prod.Lex.right
    exact remaining_of_moved _round

/--
Read up to `length` decompressed bytes.  Fewer than that are delivered only at
the end of the stream or before a failure; none at all mean the end.
-/
def readChunk
    [EngineCalls ε]
    [Source σ]
    (reader : Reader σ ε)
    (length : Nat) :
    Except StreamError Bytes × Reader σ ε :=
  let scope := reader.scope
  match reader.ready scope with
  | (.error error, idle) =>
      (.error error, idle)
  | (.ok (), active) =>
      active.deliver (scope ++ ["read"]) length []

/-- Close the engine of an active stream; a kept failure is the result. -/
def closeEngine
    [EngineCalls ε]
    (reader : Reader σ ε)
    (scope : Scope) :
    Except StreamError Unit × Reader σ ε :=
  match reader.failure with
  | some error =>
      (.error error, reader.teardown)
  | none =>
      let (result, engine) := EngineCalls.close reader.engine
      let closed := { reader with engine := engine, sessionOpen := false }
      match result with
      | .ok () =>
          (.ok (), closed)
      | .error error =>
          (.error error, closed.fail scope error)

/-- Close the stream; closing again gives the first result. -/
def close
    [EngineCalls ε]
    (reader : Reader σ ε) :
    Except StreamError Unit × Reader σ ε :=
  match reader.phase with
  | .closed =>
      (reader.closeResult.getD (.ok ()), reader)
  | .idle =>
      (.ok (), { reader with phase := .closed, closeResult := some (.ok ()) })
  | .active =>
      let scope := reader.scope
      let (result, closed) := { reader with phase := .closed }.closeEngine scope
      let reported := closed.report scope (.readerClosed result.isOk)
      (result, { reported with closeResult := some result })

/--
Tear down the current session, install a new source and start a fresh session;
the result is the source before.  If the session cannot start, the source stays
in place and the failure is kept.
-/
def reset
    [EngineCalls ε]
    (reader : Reader σ ε)
    (source : σ) :
    Except StreamError σ × Reader σ ε :=
  let cleared :=
    { reader.teardown with
      failure := none
      closeResult := none
      phase := .idle
      counters := {}
      crc := .empty }
  match cleared.startSession [] with
  | (.ok (), started) =>
      (.ok started.source, { started with source := source })
  | (.error error, idle) =>
      (.error error, idle.fail [] error)

/-- Read through the byte-stream interface. -/
def read
    [EngineCalls ε]
    [Source σ]
    (reader : Reader σ ε)
    (length : Nat) :
    Except TransportError Bytes × Reader σ ε :=
  let (result, next) := reader.readChunk length
  (result.mapError .wrapped, next)

end Reader

end MemberStream
