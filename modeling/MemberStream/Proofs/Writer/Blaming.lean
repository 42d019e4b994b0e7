import MemberStream.Proofs.Transport.Watched
import MemberStream.Proofs.Writer.Freezing

namespace MemberStream

/-!
# Where the failure of a writer comes from

A writer that fails in a write or a close has kept either the verdict on the newest call
on its sink, which is then the only one that has failed, or a failure of its engine or of
its own, and no call on its sink has failed then.
-/

/-- A property of all failures of a writer that its sink has no part in. -/
structure OwnFailures
    (ε : Type)
    [EngineCalls ε]
    (origin : StreamError → Prop) :
    Prop where
  start :
    ∀ (engine next : ε) (parameters : ParameterSet) (error : StreamError),
      EngineCalls.start engine parameters = (.error error, next) → origin error
  compress :
    ∀ (engine next : ε) (input filled : Bytes) (capacity : Nat) (error : StreamError),
      EngineCalls.compress engine input capacity = (⟨.error error, filled⟩, next) → origin error
  close :
    ∀ (engine next : ε) (error : StreamError),
      EngineCalls.close engine = (.error error, next) → origin error
  engineFault : ∀ text, origin (.engineFault text)
  bufferLimitExceeded : ∀ wanted limit, origin (.bufferLimitExceeded wanted limit)

namespace Writer

variable {σ ε : Type}

/--
What a writer has kept of a call that has come to some error, or to none: the verdict on
the newest call on its sink, or an error of another origin.
-/
inductive Explained
    (origin : StreamError → Prop)
    (earlier : List SinkCall) :
    Option StreamError →
    Writer (WatchedSink σ) ε →
    Prop where
  | fine
      {next : Writer (WatchedSink σ) ε}
      (unfailed : next.failure = none)
      (sends : SinkCall.Sends earlier next.sink.calls none) :
      Explained origin earlier none next
  | other
      {error : StreamError}
      {next : Writer (WatchedSink σ) ε}
      (kept : next.failure = some error)
      (sends : SinkCall.Sends earlier next.sink.calls none)
      (covered : origin error) :
      Explained origin earlier (some error) next
  | sink
      {error : StreamError}
      {next : Writer (WatchedSink σ) ε}
      (kept : next.failure = some error)
      (sends : SinkCall.Sends earlier next.sink.calls (some error)) :
      Explained origin earlier (some error) next

namespace Explained

variable
  {origin : StreamError → Prop}
  {earlier middle : List SinkCall}
  {error? : Option StreamError}
  {next last : Writer (WatchedSink σ) ε}

/-- An explanation holds of any state with that failure and that sink. -/
theorem same
    (explained : Explained origin earlier error? next)
    (failure : last.failure = next.failure)
    (sink : last.sink = next.sink) :
    Explained origin earlier error? last := by
  cases explained with
  | fine unfailed sends =>
      exact .fine (failure.trans unfailed) (by rwa [sink])
  | other kept sends covered =>
      exact .other (failure.trans kept) (by rwa [sink]) covered
  | sink kept sends =>
      exact .sink (failure.trans kept) (by rwa [sink])

/-- An explanation holds from before calls on the sink that have gone well, too. -/
theorem after
    (explained : Explained origin middle error? next)
    (before : SinkCall.Sends earlier middle none) :
    Explained origin earlier error? next := by
  cases explained with
  | fine unfailed sends =>
      exact .fine unfailed (before.trans sends)
  | other kept sends covered =>
      exact .other kept (before.trans sends) covered
  | sink kept sends =>
      exact .sink kept (before.trans sends)

theorem unfailed
    (explained : Explained origin earlier none next) :
    next.failure = none ∧ SinkCall.Sends earlier next.sink.calls none := by
  cases explained with
  | fine unfailed sends =>
      exact ⟨unfailed, sends⟩

/-- The failure that is kept is the error of the call. -/
theorem kept
    (explained : Explained origin earlier error? next) :
    next.failure = error? := by
  cases explained with
  | fine unfailed sends =>
      exact unfailed
  | other kept sends covered | sink kept sends =>
      exact kept

/-- The error of a call is the verdict on a call on the sink, if there is one. -/
theorem verdict
    (explained : Explained origin earlier error? next) :
    ∃ verdict,
      SinkCall.Sends earlier next.sink.calls verdict ∧
        ∀ error, verdict = some error → error? = some error := by
  cases explained with
  | fine unfailed sends | other kept sends covered =>
      exact ⟨none, sends, by simp⟩
  | sink kept sends =>
      exact ⟨_, sends, fun _ same => same⟩

end Explained

variable [Sink σ] {origin : StreamError → Prop}

/-- A settled step has made calls on the sink that went well. -/
theorem sends_of_settle_ok
    {writer settled : Writer (WatchedSink σ) ε}
    {scope : Scope}
    {step : Step}
    {output : Bytes}
    {offset : Nat}
    {input : Bytes}
    (settles : writer.settle scope step output offset input = (.ok (), settled)) :
    SinkCall.Sends writer.sink.calls settled.sink.calls none := by
  rcases settle_ok settles with ⟨-, rfl⟩ | ⟨sink, written, rfl⟩
  · exact .rest writer.sink.calls
  · have sends := writer.sink.sends_writeAll output
    rwa [written] at sends

theorem sends_of_settle_error
    {writer failed : Writer (WatchedSink σ) ε}
    {scope : Scope}
    {step : Step}
    {output : Bytes}
    {offset : Nat}
    {input : Bytes}
    {error : StreamError}
    (settles : writer.settle scope step output offset input = (.error error, failed)) :
    SinkCall.Sends writer.sink.calls failed.sink.calls (some error) := by
  obtain ⟨cause, sink, written, rfl, rfl⟩ := settle_error settles
  have sends := writer.sink.sends_writeAll output
  rwa [written] at sends

/-- A placeholder makes calls on the sink that go well, or fails of the newest. -/
theorem sends_writePlaceholder
    (writer : Writer (WatchedSink σ) ε)
    (scope : Scope) :
    SinkCall.Sends writer.sink.calls (writer.writePlaceholder scope).2.sink.calls
      (errorOf (writer.writePlaceholder scope).1) := by
  have sends := writer.sink.sends_writeAll writer.effective.placeholder
  simp only [writePlaceholder]
  revert sends
  cases (Sink.writeAll writer.sink writer.effective.placeholder).1 <;> exact id

variable [Engine ε]

/-- A round that goes on has made calls on the sink that went well. -/
theorem sends_of_advance
    {writer next : Writer (WatchedSink σ) ε}
    {scope : Scope}
    {offset count : Nat}
    {input : Bytes}
    (advance : Advance writer scope offset input next count) :
    SinkCall.Sends writer.sink.calls next.sink.calls none := by
  cases advance with
  | step answer within busy settles =>
      have sends := sends_of_settle_ok settles
      exact sends
  | grow answer grown larger =>
      exact .rest writer.sink.calls

/-- A round that halts explains the failure that it keeps. -/
theorem explained_of_halt
    {writer failed : Writer (WatchedSink σ) ε}
    {scope : Scope}
    {offset : Nat}
    {input : Bytes}
    {error : StreamError}
    (own : OwnFailures ε origin)
    (halt : Halt writer scope offset input error failed) :
    Explained origin writer.sink.calls (some error) failed := by
  cases halt with
  | overreport answer beyond =>
      exact .other rfl (.rest _) (own.engineFault _)
  | idle answer within idle =>
      exact .other rfl (.rest _) (own.engineFault _)
  | sink answer within busy settles =>
      have sends := sends_of_settle_error settles
      exact .sink (sameSession_of_settle_error settles).2 sends
  | limit answer refused =>
      obtain ⟨wanted, limit, rfl⟩ := GrowthPolicy.eq_of_nextOutputLength_error refused
      exact .other rfl (.rest _) (own.bufferLimitExceeded wanted limit)
  | saturated answer grown stuck =>
      exact .other rfl (.rest _) (own.bufferLimitExceeded _ maxLength)
  | engine answer terminal =>
      exact .other rfl (.rest _) (own.compress _ _ _ _ _ _ answer)

/-- A submission explains the failure that it keeps. -/
theorem explained_submit
    (own : OwnFailures ε origin)
    (writer : Writer (WatchedSink σ) ε)
    (unfailed : writer.failure = none)
    (scope : Scope)
    (offset : Nat)
    (input : Bytes) :
    Explained origin writer.sink.calls (errorOf (writer.submit scope offset input).1)
      (writer.submit scope offset input).2 := by
  revert unfailed
  apply submit_induction
    (motive := fun writer _ _ outcome =>
      writer.failure = none →
        Explained origin writer.sink.calls (errorOf outcome.1) outcome.2)
  case finish =>
    intro writer offset unfailed
    exact .fine unfailed (.rest _)
  case advance =>
    intro writer next offset count input outcome more advance later unfailed
    have still := (sameSession_of_advance advance).2.trans unfailed
    exact (later still).after (sends_of_advance advance)
  case halt =>
    intro writer failed offset input error more halt unfailed
    exact explained_of_halt own halt

theorem explained_flushHeld
    (own : OwnFailures ε origin)
    (writer : Writer (WatchedSink σ) ε)
    (unfailed : writer.failure = none)
    (scope : Scope) :
    Explained origin writer.sink.calls (errorOf (writer.flushHeld scope).1)
      (writer.flushHeld scope).2 := by
  have submits := explained_submit own { writer with held := [] } unfailed scope 0 writer.held
  rwa [flushHeld_eq, errorOf_map]

/-- Taking a buffer explains the failure that it keeps. -/
theorem explained_stage
    (own : OwnFailures ε origin)
    (writer : Writer (WatchedSink σ) ε)
    (unfailed : writer.failure = none)
    (scope : Scope)
    (bytes : Bytes) :
    Explained origin writer.sink.calls (errorOf (writer.stage scope bytes).1)
      (writer.stage scope bytes).2 := by
  have flushed := explained_flushHeld own writer unfailed scope
  have comes := stages_stage writer scope bytes
  generalize writer.stage scope bytes = outcome at comes ⊢
  cases comes with
  | unflushed flushes =>
      rwa [flushes] at flushed
  | held flushes holds =>
      rw [flushes] at flushed
      exact flushed.same rfl rfl
  | @cut next _ front tail _ flushes _ _ _ submits
  | @halted next _ front tail _ flushes _ _ _ submits =>
      rw [flushes] at flushed
      obtain ⟨still, before⟩ := flushed.unfailed
      have explained :=
        explained_submit own { next with held := next.held ++ tail } still scope 0 front
      rw [submits] at explained
      exact explained.after before

omit [Sink σ] in
/-- A writer that can work and has not become ready explains the failure that it keeps. -/
theorem explained_of_unready
    {writer next : Writer (WatchedSink σ) ε}
    {error : StreamError}
    (own : OwnFailures ε origin)
    (unfailed : writer.failure = none)
    (unclosed : writer.phase ≠ .closed)
    (refused : Unready writer error next) :
    Explained origin writer.sink.calls (some error) next := by
  cases refused with
  | failed kept =>
      rw [unfailed] at kept
      cases kept
  | closed _ phase =>
      exact absurd phase unclosed
  | refused _ phase answer =>
      exact .other rfl (.rest _) (own.start _ _ _ _ answer)

/-- A writer that can work explains the failure of a write. -/
theorem explained_writeChunk
    (own : OwnFailures ε origin)
    (writer : Writer (WatchedSink σ) ε)
    (unfailed : writer.failure = none)
    (unclosed : writer.phase ≠ .closed)
    (bytes : Bytes) :
    Explained origin writer.sink.calls (errorOf (writer.writeChunk bytes).1)
      (writer.writeChunk bytes).2 := by
  cases writes_writeChunk writer bytes with
  | unready refused same =>
      rw [same]
      exact explained_of_unready own unfailed unclosed refused
  | @staged active readied stages =>
      rw [stages, ← readied.sink]
      exact explained_stage own active readied.open.2.1 _ bytes

omit [Sink σ] in
/-- Closing the engine explains the failure that it keeps. -/
theorem explained_closeEngine
    (own : OwnFailures ε origin)
    (writer : Writer (WatchedSink σ) ε)
    (unfailed : writer.failure = none)
    (scope : Scope) :
    Explained origin writer.sink.calls (errorOf (writer.closeEngine scope).1)
      (writer.closeEngine scope).2 := by
  unfold closeEngine
  cases answer : EngineCalls.close writer.engine with
  | mk result engine =>
      cases result with
      | ok =>
          exact .fine unfailed (.rest _)
      | error error =>
          exact .other rfl (.rest _) (own.close _ _ _ answer)

/-- Completing a stream explains the failure that it keeps. -/
theorem explained_complete
    (own : OwnFailures ε origin)
    (writer : Writer (WatchedSink σ) ε)
    (unfailed : writer.failure = none)
    (scope : Scope) :
    Explained origin writer.sink.calls (errorOf (writer.complete scope).1)
      (writer.complete scope).2 := by
  have flushed := explained_flushHeld own writer.markedLast unfailed scope
  have comes := completes_complete writer scope
  generalize writer.complete scope = outcome at comes ⊢
  cases comes with
  | @unflushed _ failed flushes =>
      rw [flushes] at flushed
      obtain ⟨engine, sessionOpen, torn⟩ := teardown_eq failed
      exact flushed.same (by rw [torn]) (by rw [torn])
  | @undrained next sink cause flushes drains =>
      rw [flushes] at flushed
      obtain ⟨still, before⟩ := flushed.unfailed
      have once := next.sink.sends_flush
      rw [drains] at once
      have failed : Explained (ε := ε) origin writer.sink.calls
          (some (StreamError.ofTransport cause))
          { next with sink := sink, failure := some (.ofTransport cause) } :=
        .sink rfl (before.trans once)
      obtain ⟨engine, sessionOpen, torn⟩ := teardown_eq ({ next with sink := sink } : Writer _ ε)
      exact failed.same rfl (by simp only [fail, torn]; rfl)
  | @drained next sink flushes drains =>
      rw [flushes] at flushed
      obtain ⟨still, before⟩ := flushed.unfailed
      have once := next.sink.sends_flush
      rw [drains] at once
      exact (explained_closeEngine own { next with sink := sink } still scope).after
        (before.trans once)

/-- A writer that can work explains the failure of a close. -/
theorem explained_close
    (own : OwnFailures ε origin)
    (writer : Writer (WatchedSink σ) ε)
    (unfailed : writer.failure = none)
    (unclosed : writer.phase ≠ .closed) :
    Explained origin writer.sink.calls (errorOf writer.close.1) writer.close.2 := by
  have closes := closes_close writer
  generalize writer.close = outcome at closes
  cases closes with
  | again phase =>
      exact absurd phase unclosed
  | failed _ kept =>
      rw [unfailed] at kept
      cases kept
  | unready _ _ refused =>
      exact explained_of_unready own unfailed unclosed refused
  | @unplaced active failed scope error readied places =>
      have sends := sends_writePlaceholder active scope
      rw [places, readied.sink] at sends
      obtain ⟨engine, sessionOpen, torn⟩ := teardown_eq failed
      have kept : Explained (ε := ε) origin writer.sink.calls (some error)
          { failed with failure := some error } :=
        .sink rfl sends
      exact kept.same rfl (by simp only [fail, torn]; rfl)
  | @completed active whole scope readied shape =>
      have still := readied.open.2.1
      rcases shape with ⟨rfl, -⟩ | ⟨-, places⟩
      · rw [← readied.sink]
        exact explained_complete own whole still scope
      · have sends := sends_writePlaceholder active scope
        rw [places, readied.sink] at sends
        obtain ⟨written, trace, -, rfl⟩ := placed_of_writePlaceholder places
        have completes := explained_complete own
          { active with sink := written, trace := trace, wroteOutput := true } still scope
        exact completes.after sends

end Writer

end MemberStream
