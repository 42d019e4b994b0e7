import MemberStream.Proofs.Reader.Gather
import MemberStream.Proofs.Reader.Loop

namespace MemberStream

/-!
# What calls on a reader go through

A read needs a reader that is ready, and goes through rounds from there; closing
depends on the phase and on whether a failure is kept.  Options are staged while the
reader is idle and refused from then on.  Each of these is told once, with all it can
come to.
-/

namespace Reader

variable {σ ε : Type}

/-- Before a session, the options of a batch are staged up to the first that is refused. -/
theorem apply_of_idle
    {reader : Reader σ ε}
    (idle : reader.phase = .idle)
    (batch : List StreamOption) :
    reader.apply batch =
      ((stageOptions .reader batch reader.staged).1,
        { reader with staged := (stageOptions .reader batch reader.staged).2 }) := by
  unfold apply
  rw [idle]
  rfl

/-- A reader that has left the idle phase refuses every batch, and nothing changes. -/
theorem apply_of_unidle
    {reader : Reader σ ε}
    (unidle : reader.phase ≠ .idle)
    (batch : List StreamOption) :
    reader.apply batch = (.error .applyAfterStart, reader) := by
  have started : (reader.phase != .idle) = true := by
    simpa using unidle
  unfold apply
  rw [started]
  rfl

/-- Two states of one session that differ in the progress of its data only. -/
structure SameSession
    (next reader : Reader σ ε) :
    Prop where
  overrides : next.overrides = reader.overrides
  staged : next.staged = reader.staged
  effective : next.effective = reader.effective
  phase : next.phase = reader.phase
  sessionOpen : next.sessionOpen = reader.sessionOpen
  failure : next.failure = reader.failure
  closeResult : next.closeResult = reader.closeResult

namespace SameSession

theorem refl
    (reader : Reader σ ε) :
    SameSession reader reader := by
  constructor <;> rfl

/-- What happens in one session after another state of it is in that session, too. -/
theorem trans
    {last next reader : Reader σ ε}
    (later : SameSession last next)
    (earlier : SameSession next reader) :
    SameSession last reader where
  overrides := later.overrides.trans earlier.overrides
  staged := later.staged.trans earlier.staged
  effective := later.effective.trans earlier.effective
  phase := later.phase.trans earlier.phase
  sessionOpen := later.sessionOpen.trans earlier.sessionOpen
  failure := later.failure.trans earlier.failure
  closeResult := later.closeResult.trans earlier.closeResult

end SameSession

/-- States that differ in their input only are in one session. -/
theorem SameOutput.session
    {next reader : Reader σ ε}
    (same : SameOutput next reader) :
    SameSession next reader where
  overrides := same.overrides
  staged := same.staged
  effective := same.effective
  phase := same.phase
  sessionOpen := same.sessionOpen
  failure := same.failure
  closeResult := same.closeResult

/-- What a session that has started changed. -/
structure Started
    [EngineCalls ε]
    (reader started : Reader σ ε) :
    Prop where
  engine :
    EngineCalls.start reader.engine (reader.staged.resolve reader.overrides) =
      (.ok (), started.engine)
  source : started.source = reader.source
  overrides : started.overrides = reader.overrides
  staged : started.staged = reader.staged
  phase : started.phase = .active
  sessionOpen : started.sessionOpen = true
  failure : started.failure = reader.failure
  closeResult : started.closeResult = reader.closeResult
  /-- The input buffer is no longer than the parameters say. -/
  inputLength :
    started.inputLength ≤ (reader.staged.resolve reader.overrides).inputBufferLength
  inputOffset : started.inputOffset = 0
  inputRead : started.inputRead = 0
  unread : started.unread = []
  outputOffset : started.outputOffset = 0
  outputLeft : started.outputLeft = 0

/-- A session that starts has started. -/
theorem started_of_startSession
    [EngineCalls ε]
    {reader started : Reader σ ε}
    {scope : Scope}
    (starts : reader.startSession scope = (.ok (), started)) :
    Started reader started := by
  unfold startSession at starts
  dsimp only at starts
  split at starts
  · cases starts
  · rename_i engine answer
    cases starts
    refine ⟨answer, rfl, rfl, rfl, rfl, rfl, rfl, rfl, ?_, rfl, rfl, rfl, rfl, rfl⟩
    change GrowthPolicy.initialLength _ _ ≤ _
    unfold GrowthPolicy.initialLength
    split
    · exact Nat.min_le_left _ _
    · exact Nat.le_refl _

/-- A session that does not start leaves everything alone but the engine and the records. -/
theorem refused_of_startSession
    [EngineCalls ε]
    {reader idle : Reader σ ε}
    {scope : Scope}
    {error : StreamError}
    (starts : reader.startSession scope = (.error error, idle)) :
    ∃ engine span trace,
      EngineCalls.start reader.engine (reader.staged.resolve reader.overrides) =
          (.error error, engine) ∧
        idle = { reader with engine := engine, span := span, trace := trace } := by
  unfold startSession at starts
  dsimp only at starts
  split at starts
  · rename_i engine answer
    cases starts
    exact ⟨engine, _, _, answer, rfl⟩
  · cases starts

/-- How a reader can have become ready. -/
inductive Readied
    [EngineCalls ε]
    (reader : Reader σ ε) :
    Reader σ ε →
    Prop where
  /-- It was active already. -/
  | active
      (unfailed : reader.failure = none)
      (phase : reader.phase = .active) :
      Readied reader reader
  /-- It was idle, and its session has started. -/
  | started
      {started : Reader σ ε}
      (unfailed : reader.failure = none)
      (phase : reader.phase = .idle)
      (starts : Started reader started) :
      Readied reader started

/-- Why a reader cannot have become ready, and what that leaves of it. -/
inductive Unready
    [EngineCalls ε]
    (reader : Reader σ ε) :
    StreamError →
    Reader σ ε →
    Prop where
  /-- It has failed before. -/
  | failed
      {error : StreamError}
      (kept : reader.failure = some error) :
      Unready reader error reader
  /-- It has been closed before. -/
  | closed
      (unfailed : reader.failure = none)
      (phase : reader.phase = .closed) :
      Unready reader .alreadyClosed reader
  /-- It was idle, and its session did not start. -/
  | refused
      {error : StreamError}
      {engine : ε}
      {span : Option Span}
      {trace : Trace}
      (unfailed : reader.failure = none)
      (phase : reader.phase = .idle)
      (answer :
        EngineCalls.start reader.engine (reader.staged.resolve reader.overrides) =
          (.error error, engine)) :
      Unready reader error
        { reader with
          engine := engine
          span := span
          trace := trace
          failure := some error }

theorem ready_of_active
    [EngineCalls ε]
    {reader : Reader σ ε}
    (unfailed : reader.failure = none)
    (phase : reader.phase = .active)
    (scope : Scope) :
    reader.ready scope = (.ok (), reader) := by
  unfold ready
  rw [unfailed, phase]

/-- An idle reader is ready once its session has started. -/
theorem ready_of_starts
    [EngineCalls ε]
    {reader started : Reader σ ε}
    {scope : Scope}
    (unfailed : reader.failure = none)
    (phase : reader.phase = .idle)
    (starts : reader.startSession scope = (.ok (), started)) :
    reader.ready scope = (.ok (), started) := by
  unfold ready
  rw [unfailed, phase]
  dsimp only
  rw [starts]

theorem ready_of_failed
    [EngineCalls ε]
    {reader : Reader σ ε}
    {error : StreamError}
    (kept : reader.failure = some error)
    (scope : Scope) :
    reader.ready scope = (.error error, reader) := by
  unfold ready
  rw [kept]

/-- What starting a session keeps, and failing to start one, getting ready keeps. -/
theorem ready_keeps
    [EngineCalls ε]
    {motive : Reader σ ε → Prop}
    {reader : Reader σ ε}
    {scope : Scope}
    (holds : motive reader)
    (started :
      reader.phase = .idle →
        ∀ next, reader.startSession scope = (.ok (), next) → motive next)
    (refused :
      reader.phase = .idle →
        ∀ error next,
          reader.startSession scope = (.error error, next) → motive (next.fail scope error)) :
    motive (reader.ready scope).2 := by
  unfold ready
  split
  · exact holds
  · split
    · exact holds
    · exact holds
    · rename_i phase
      split
      · rename_i next starts
        exact started phase next starts
      · rename_i error next starts
        exact refused phase error next starts

/-- A reader that has become ready has done so in one of these ways. -/
theorem readied_of_ready
    [EngineCalls ε]
    {reader active : Reader σ ε}
    {scope : Scope}
    (readies : reader.ready scope = (.ok (), active)) :
    Readied reader active := by
  unfold ready at readies
  split at readies
  · cases readies
  · rename_i unfailed
    split at readies
    · cases readies
    · rename_i phase
      cases readies
      exact .active unfailed phase
    · rename_i phase
      split at readies
      · rename_i started starts
        cases readies
        exact .started unfailed phase (started_of_startSession starts)
      · cases readies

/-- A reader that has become ready is active and has not failed. -/
theorem Readied.open
    [EngineCalls ε]
    {reader active : Reader σ ε}
    (readied : Readied reader active) :
    active.phase = .active ∧ active.failure = none ∧ active.closeResult = reader.closeResult := by
  cases readied with
  | active unfailed phase =>
      exact ⟨phase, unfailed, rfl⟩
  | started unfailed phase starts =>
      exact ⟨starts.phase, starts.failure.trans unfailed, starts.closeResult⟩

/-- A reader that has not become ready has one of these reasons. -/
theorem unready_of_ready
    [EngineCalls ε]
    {reader next : Reader σ ε}
    {scope : Scope}
    {error : StreamError}
    (readies : reader.ready scope = (.error error, next)) :
    Unready reader error next := by
  unfold ready at readies
  split at readies
  · rename_i kept
    cases readies
    exact .failed kept
  · rename_i unfailed
    split at readies
    · rename_i phase
      cases readies
      exact .closed unfailed phase
    · cases readies
    · rename_i phase
      split at readies
      · cases readies
      · rename_i cause idle starts
        obtain ⟨engine, span, trace, answer, rfl⟩ := refused_of_startSession starts
        cases readies
        exact .refused unfailed phase answer

/-- A reader that has failed gives its failure when its engine is closed. -/
theorem closeEngine_of_failed
    [EngineCalls ε]
    {reader : Reader σ ε}
    {error : StreamError}
    (kept : reader.failure = some error)
    (scope : Scope) :
    reader.closeEngine scope = (.error error, reader.teardown) := by
  unfold closeEngine
  split
  · rename_i same
    cases kept.symm.trans same
    rfl
  · rename_i unfailed
    cases kept.symm.trans unfailed

/-- A reader that has not failed gives the answer of its engine when that is closed. -/
theorem closeEngine_of_unfailed
    [EngineCalls ε]
    {reader : Reader σ ε}
    (unfailed : reader.failure = none)
    (scope : Scope) :
    reader.closeEngine scope =
      let closed : Reader σ ε :=
        { reader with
          engine := (EngineCalls.close reader.engine).2
          sessionOpen := false }
      match (EngineCalls.close reader.engine).1 with
      | .ok () =>
          (.ok (), closed)
      | .error error =>
          (.error error, closed.fail scope error) := by
  unfold closeEngine
  split
  · rename_i kept
    cases unfailed.symm.trans kept
  · rfl

/-- A reader that is closed again gives the first result. -/
theorem close_of_closed
    [EngineCalls ε]
    {reader : Reader σ ε}
    (phase : reader.phase = .closed) :
    reader.close = (reader.closeResult.getD (.ok ()), reader) := by
  unfold close
  split <;> rename_i same
  · rfl
  · cases phase.symm.trans same
  · cases phase.symm.trans same

/-- A reader without a session is closed at once. -/
theorem close_of_idle
    [EngineCalls ε]
    {reader : Reader σ ε}
    (phase : reader.phase = .idle) :
    reader.close = (.ok (), { reader with phase := .closed, closeResult := some (.ok ()) }) := by
  unfold close
  split <;> rename_i same
  · cases phase.symm.trans same
  · rfl
  · cases phase.symm.trans same

/-- The reader that has been marked as closed before its engine is. -/
def ended
    (reader : Reader σ ε) :
    Reader σ ε :=
  { reader with phase := .closed }

/-- A reader with a session closes its engine, reports that and keeps the result. -/
theorem close_of_active
    [EngineCalls ε]
    {reader : Reader σ ε}
    (phase : reader.phase = .active) :
    reader.close =
      let outcome := reader.ended.closeEngine reader.scope
      (outcome.1,
        { outcome.2.report reader.scope (.readerClosed outcome.1.isOk) with
          closeResult := some outcome.1 }) := by
  unfold close
  split <;> rename_i same
  · cases phase.symm.trans same
  · cases phase.symm.trans same
  · rfl

/-- Everything that closing a reader can come to. -/
inductive Closes
    [EngineCalls ε]
    (reader : Reader σ ε) :
    Except StreamError Unit × Reader σ ε →
    Prop where
  /-- It has been closed before, and the result was kept. -/
  | again
      (phase : reader.phase = .closed) :
      Closes reader (reader.closeResult.getD (.ok ()), reader)
  /-- It has no session. -/
  | idle
      (phase : reader.phase = .idle) :
      Closes reader
        (.ok (), { reader with phase := .closed, closeResult := some (.ok ()) })
  /-- It has failed before. -/
  | failed
      {error : StreamError}
      {trace : Trace}
      (phase : reader.phase = .active)
      (kept : reader.failure = some error) :
      Closes reader
        (.error error,
          { reader.teardown with
            phase := .closed
            closeResult := some (.error error)
            trace := trace })
  /-- The engine closed its session. -/
  | closed
      {engine : ε}
      {trace : Trace}
      (phase : reader.phase = .active)
      (unfailed : reader.failure = none)
      (answer : EngineCalls.close reader.engine = (.ok (), engine)) :
      Closes reader
        (.ok (),
          { reader with
            engine := engine
            sessionOpen := false
            phase := .closed
            closeResult := some (.ok ())
            trace := trace })
  /-- The engine failed to close its session. -/
  | refused
      {error : StreamError}
      {engine : ε}
      {trace : Trace}
      (phase : reader.phase = .active)
      (unfailed : reader.failure = none)
      (answer : EngineCalls.close reader.engine = (.error error, engine)) :
      Closes reader
        (.error error,
          { reader with
            engine := engine
            sessionOpen := false
            phase := .closed
            failure := some error
            closeResult := some (.error error)
            trace := trace })

/-- Closing a reader comes to one of the cases. -/
theorem closes_close
    [EngineCalls ε]
    (reader : Reader σ ε) :
    Closes reader reader.close := by
  unfold close
  split
  · rename_i phase
    exact .again phase
  · rename_i phase
    exact .idle phase
  · rename_i phase
    dsimp only
    generalize closing :
      closeEngine ({ reader with phase := .closed } : Reader σ ε) reader.scope = outcome
    obtain ⟨result, closed⟩ := outcome
    unfold closeEngine at closing
    dsimp only at closing
    split at closing
    · rename_i error kept
      have torn :
          ({ reader with phase := .closed } : Reader σ ε).teardown =
            { reader.teardown with phase := .closed } := by
        unfold teardown
        dsimp only
        split <;> rfl
      rw [torn] at closing
      cases closing
      exact .failed phase kept
    · rename_i unfailed
      cases answer : EngineCalls.close reader.engine with
      | mk result engine =>
          rw [answer] at closing
          cases result with
          | ok =>
              cases closing
              exact .closed phase unfailed answer
          | error error =>
              cases closing
              exact .refused phase unfailed answer

section Reset

variable [EngineCalls ε]

/-- The reader whose session a reset starts. -/
def cleared
    (reader : Reader σ ε) :
    Reader σ ε :=
  { reader.teardown with
    failure := none
    closeResult := none
    phase := .idle
    counters := {}
    crc := .empty }

/-- A reset starts the session of what it has cleared, and installs the new source. -/
theorem reset_eq
    (reader : Reader σ ε)
    (source : σ) :
    reader.reset source =
      match reader.cleared.startSession [] with
      | (.ok (), started) =>
          (.ok started.source, { started with source := source })
      | (.error error, idle) =>
          (.error error, idle.fail [] error) :=
  rfl

/-- What a reset has cleared is under the options of before. -/
theorem options_cleared
    (reader : Reader σ ε) :
    reader.cleared.overrides = reader.overrides ∧ reader.cleared.staged = reader.staged := by
  unfold cleared teardown
  split
  · exact ⟨rfl, rfl⟩
  · exact ⟨rfl, rfl⟩

end Reset

/-- Where a round leaves a reader. -/
def Round.reader : Round σ ε → Reader σ ε
  | .took _ next | .moved next =>
      next
  | .ended last | .failed _ last =>
      last

variable [EngineCalls ε]

/-- An engine call makes one decompress call and stays in the session. -/
theorem decompressed_of_advance
    (reader : Reader σ ε)
    (scope : Scope)
    (wanted : Nat) :
    SameSession (reader.advance scope wanted).reader reader ∧
      ∃ reply,
        EngineCalls.decompress reader.engine reader.unread reader.outputLength =
          (reply, (reader.advance scope wanted).reader.engine) := by
  have answered := answered_advance reader scope wanted
  generalize reader.advance scope wanted = round at answered
  cases answered with
  | overreport answer beyond =>
      exact ⟨by constructor <;> rfl, _, answer⟩
  | idle answer within idle =>
      exact ⟨by constructor <;> rfl, _, answer⟩
  | step answer within busy =>
      exact ⟨by constructor <;> rfl, _, answer⟩
  | limit answer refused =>
      exact ⟨by constructor <;> rfl, _, answer⟩
  | grow answer grown larger =>
      exact ⟨by constructor <;> rfl, _, answer⟩
  | saturated answer grown stuck =>
      exact ⟨by constructor <;> rfl, _, answer⟩
  | engine answer terminal =>
      exact ⟨by constructor <;> rfl, _, answer⟩

variable [Source σ]

/-- What draining and ensuring the input keep, and an engine call keeps, a round keeps. -/
theorem round_keeps
    {motive : Reader σ ε → Prop}
    {reader : Reader σ ε}
    {scope : Scope}
    {wanted : Nat}
    (drained : motive (reader.drain wanted).2)
    (ensured : motive (reader.ensureInput scope).2)
    (keepsAdvance :
      ∀ filled : Reader σ ε, motive filled → motive (filled.advance scope wanted).reader) :
    motive (reader.round scope wanted).reader := by
  unfold round
  split
  · exact drained
  · split
    · rename_i answer
      rwa [answer] at ensured
    · rename_i filled answer
      rw [answer] at ensured
      split
      · exact ensured
      · exact keepsAdvance filled ensured

/-- A round stays in the session. -/
theorem sameSession_round
    (reader : Reader σ ε)
    (scope : Scope)
    (wanted : Nat) :
    SameSession (reader.round scope wanted).reader reader := by
  apply round_keeps (motive := fun next => SameSession next reader)
  · constructor <;> rfl
  · exact (sameOutput_ensureInput reader scope).session
  · intro filled same
    exact (decompressed_of_advance filled scope wanted).1.trans same

/-- A round leaves the engine alone, or makes one decompress call. -/
theorem decompressed_of_round
    (reader : Reader σ ε)
    (scope : Scope)
    (wanted : Nat) :
    (reader.round scope wanted).reader.engine = reader.engine ∨
      ∃ input capacity reply,
        EngineCalls.decompress reader.engine input capacity =
          (reply, (reader.round scope wanted).reader.engine) := by
  have same := (sameOutput_ensureInput reader scope).engine
  unfold round
  split
  · exact .inl rfl
  · split
    · rename_i answer
      rw [answer] at same
      exact .inl same
    · rename_i filled answer
      rw [answer] at same
      split
      · exact .inl same
      · obtain ⟨-, reply, call⟩ := decompressed_of_advance filled scope wanted
        rw [same] at call
        exact .inr ⟨_, _, _, call⟩

/-- What every round keeps, and every failure, a delivery keeps. -/
theorem deliver_keeps
    {motive : Reader σ ε → Prop}
    {scope : Scope}
    (keepsRound :
      ∀ (reader : Reader σ ε) (wanted : Nat),
        motive reader → motive (reader.round scope wanted).reader)
    (keepsFail :
      ∀ (reader : Reader σ ε) (error : StreamError),
        motive reader → motive (reader.fail scope error))
    {reader : Reader σ ε}
    (wanted : Nat)
    (delivered : Bytes)
    (holds : motive reader) :
    motive (reader.deliver scope wanted delivered).2 := by
  fun_induction deliver reader scope wanted delivered with
  | case1 reader delivered =>
      exact holds
  | case2 reader wanted delivered more bytes next round ih =>
      have kept := keepsRound reader wanted holds
      rw [round] at kept
      exact ih kept
  | case3 reader wanted delivered more next round ih =>
      have kept := keepsRound reader wanted holds
      rw [round] at kept
      exact ih kept
  | case4 reader wanted delivered more last round =>
      have kept := keepsRound reader wanted holds
      rw [round] at kept
      exact kept
  | case5 reader wanted delivered more error last round =>
      have kept := keepsRound reader wanted holds
      rw [round] at kept
      rw [failAfter_reader]
      exact keepsFail last error kept

/-- All that reading a chunk can come to. -/
inductive Reads
    (reader : Reader σ ε)
    (length : Nat) :
    Except StreamError Bytes × Reader σ ε →
    Prop where
  /-- The reader could not get ready. -/
  | unready
      {error : StreamError}
      {next : Reader σ ε}
      (readies : reader.ready reader.scope = (.error error, next)) :
      Reads reader length (.error error, next)
  /-- The reader was ready, and has gone through the rounds of a delivery. -/
  | delivered
      {active : Reader σ ε}
      (readies : reader.ready reader.scope = (.ok (), active)) :
      Reads reader length (active.deliver (reader.scope ++ ["read"]) length [])

/-- Reading a chunk comes to one of the cases. -/
theorem reads_readChunk
    (reader : Reader σ ε)
    (length : Nat) :
    Reads reader length (reader.readChunk length) := by
  unfold readChunk
  dsimp only
  split
  · rename_i readies
    exact .unready readies
  · rename_i readies
    exact .delivered readies

theorem readChunk_of_ready
    {reader active : Reader σ ε}
    (readies : reader.ready reader.scope = (.ok (), active))
    (length : Nat) :
    reader.readChunk length = active.deliver (reader.scope ++ ["read"]) length [] := by
  unfold readChunk
  dsimp only
  rw [readies]

/-- A reader that is not ready answers why. -/
theorem readChunk_of_unready
    {reader next : Reader σ ε}
    {error : StreamError}
    (readies : reader.ready reader.scope = (.error error, next))
    (length : Nat) :
    reader.readChunk length = (.error error, next) := by
  unfold readChunk
  dsimp only
  rw [readies]

/-- What getting ready keeps, and every round and every failure, a read keeps. -/
theorem readChunk_keeps
    {motive : Reader σ ε → Prop}
    {reader : Reader σ ε}
    (keepsRound :
      ∀ (next : Reader σ ε) (wanted : Nat),
        motive next → motive (next.round (reader.scope ++ ["read"]) wanted).reader)
    (keepsFail :
      ∀ (next : Reader σ ε) (error : StreamError),
        motive next → motive (next.fail (reader.scope ++ ["read"]) error))
    (readied : motive (reader.ready reader.scope).2)
    (length : Nat) :
    motive (reader.readChunk length).2 := by
  have reads := reads_readChunk reader length
  generalize reader.readChunk length = outcome at reads
  cases reads with
  | unready answer =>
      rwa [answer] at readied
  | delivered answer =>
      rw [answer] at readied
      exact deliver_keeps keepsRound keepsFail length [] readied

end Reader

end MemberStream
