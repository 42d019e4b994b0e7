import MemberStream.Proofs.Writer.Phases

namespace MemberStream

/-!
# What has been recorded before

No call reads the trace of a stream, it is only ever extended.  So records that
were made before have no part in what calls answer, nor in any other field: they
stay behind the records of the calls.
-/

namespace Writer

variable {σ ε α : Type}

/-- The same writer, with some records before those in its trace. -/
def behind
    (writer : Writer σ ε)
    (past : Trace) :
    Writer σ ε :=
  { writer with trace := writer.trace ++ past }

/-- The same outcome, with some records before those in the trace of the writer. -/
def outcomeBehind
    (outcome : α × Writer σ ε)
    (past : Trace) :
    α × Writer σ ε :=
  (outcome.1, outcome.2.behind past)

section Fields

variable (writer : Writer σ ε) (past : Trace)

@[simp]
theorem behind_sink :
    (writer.behind past).sink = writer.sink :=
  rfl

@[simp]
theorem behind_engine :
    (writer.behind past).engine = writer.engine :=
  rfl

@[simp]
theorem behind_effective :
    (writer.behind past).effective = writer.effective :=
  rfl

@[simp]
theorem behind_failure :
    (writer.behind past).failure = writer.failure :=
  rfl

@[simp]
theorem behind_phase :
    (writer.behind past).phase = writer.phase :=
  rfl

@[simp]
theorem behind_scope :
    (writer.behind past).scope = writer.scope :=
  rfl

@[simp]
theorem report_behind
    (scope : Scope)
    (event : Event) :
    (writer.behind past).report scope event = (writer.report scope event).behind past := by
  unfold report behind
  dsimp only
  rw [Trace.record_append]

@[simp]
theorem fail_behind
    (scope : Scope)
    (error : StreamError) :
    (writer.behind past).fail (α := α) scope error =
      outcomeBehind (writer.fail scope error) past := by
  unfold fail
  rw [report_behind]
  rfl

end Fields

section Session

variable [EngineCalls ε]

/-- A session starts alike whatever has been recorded before. -/
theorem startSession_behind
    (writer : Writer σ ε)
    (past : Trace)
    (scope : Scope) :
    (writer.behind past).startSession scope =
      outcomeBehind (writer.startSession scope) past := by
  unfold startSession
  dsimp only [behind]
  split
  · rfl
  · dsimp only [report, outcomeBehind, behind]
    rw [← List.cons_append, Trace.record_append]

/-- Tearing a session down is the same whatever has been recorded before. -/
theorem teardown_behind
    (writer : Writer σ ε)
    (past : Trace) :
    (writer.behind past).teardown = writer.teardown.behind past := by
  unfold teardown
  change (if writer.sessionOpen then _ else _) = _
  by_cases opened : writer.sessionOpen = true
  · rw [if_pos opened, if_pos opened]
    rfl
  · rw [if_neg opened, if_neg opened]

/-- A writer gets ready alike whatever has been recorded before. -/
theorem ready_behind
    (writer : Writer σ ε)
    (past : Trace)
    (scope : Scope) :
    (writer.behind past).ready scope = outcomeBehind (writer.ready scope) past := by
  unfold ready
  rw [startSession_behind, behind_failure, behind_phase]
  cases writer.failure with
  | some error =>
      rfl
  | none =>
      cases writer.phase with
      | closed =>
          rfl
      | active =>
          rfl
      | idle =>
          dsimp only
          cases writer.startSession scope with
          | mk result started =>
              cases result with
              | ok =>
                  rfl
              | error error =>
                  exact fail_behind started past scope error

/-- The engine is closed alike whatever has been recorded before. -/
theorem closeEngine_behind
    (writer : Writer σ ε)
    (past : Trace)
    (scope : Scope) :
    (writer.behind past).closeEngine scope = outcomeBehind (writer.closeEngine scope) past := by
  unfold closeEngine
  rw [behind_engine]
  cases EngineCalls.close writer.engine with
  | mk result engine =>
      let closed : Writer σ ε := { writer with engine := engine, sessionOpen := false }
      cases result with
      | ok =>
          exact congrArg (Prod.mk _) (report_behind closed past scope _)
      | error error =>
          exact fail_behind closed past scope error

end Session

section Submission

variable [Sink σ]

/-- Output is forwarded alike whatever has been recorded before. -/
theorem forward_behind
    (writer : Writer σ ε)
    (past : Trace)
    (scope : Scope)
    (bytes : Bytes) :
    (writer.behind past).forward scope bytes =
      outcomeBehind (writer.forward scope bytes) past := by
  cases written : Sink.writeAll writer.sink bytes with
  | mk result sink =>
      cases result with
      | ok =>
          have forwards : (writer.behind past).forward scope bytes =
              (.ok (), (writer.behind past).forwarded scope bytes true sink) :=
            forward_ok written
          rw [forwards, forward_ok written]
          exact congrArg (Prod.mk _) (report_behind { writer with sink := sink } past _ _)
      | error error =>
          have fails : (writer.behind past).forward scope bytes =
              ((writer.behind past).forwarded scope bytes false sink).fail (scope ++ ["output"])
                (.ofSink error) :=
            forward_error written
          rw [fails, forward_error written, ← fail_behind]
          exact congrArg (fun failed : Writer σ ε => failed.fail _ _)
            (report_behind { writer with sink := sink } past _ _)

/-- A step is settled alike whatever has been recorded before. -/
theorem settle_behind
    (writer : Writer σ ε)
    (past : Trace)
    (scope : Scope)
    (step : Step)
    (output : Bytes)
    (offset : Nat)
    (input : Bytes) :
    (writer.behind past).settle scope step output offset input =
      outcomeBehind (writer.settle scope step output offset input) past := by
  have accepts : (writer.behind past).accept scope step offset input =
      (writer.accept scope step offset input).behind past := by
    unfold accept
    rw [report_behind]
    rfl
  unfold settle
  rw [accepts]
  dsimp only
  split
  · rfl
  · exact forward_behind _ past scope output

/-- The sink is flushed alike whatever has been recorded before. -/
theorem flush_behind
    (writer : Writer σ ε)
    (past : Trace) :
    (writer.behind past).flush = outcomeBehind writer.flush past := by
  unfold flush
  rw [behind_failure]
  split
  · rfl
  · rfl

/-- The placeholder is written alike whatever has been recorded before. -/
theorem writePlaceholder_behind
    (writer : Writer σ ε)
    (past : Trace)
    (scope : Scope) :
    (writer.behind past).writePlaceholder scope =
      outcomeBehind (writer.writePlaceholder scope) past := by
  unfold writePlaceholder
  dsimp only
  rw [report_behind, behind_effective, behind_sink]
  rfl

variable [Engine ε]

/-- A round goes on alike whatever has been recorded before. -/
theorem Advance.behind
    {writer next : Writer σ ε}
    {scope : Scope}
    {offset count : Nat}
    {input : Bytes}
    (advance : Advance writer scope offset input next count)
    (past : Trace) :
    Advance (writer.behind past) scope offset input (next.behind past) count := by
  cases advance with
  | @step step filled engine settled answer within busy settles =>
      refine .step answer within busy ?_
      have same := settle_behind ({ writer with engine := engine } : Writer σ ε) past scope step
        (Reply.front ⟨.ok step, filled⟩ step.produced) offset input
      rw [settles] at same
      exact same
  | @grow filled engine length growth answer grown larger =>
      let called : Writer σ ε := { writer with engine := engine, growth := growth }
      let event : Event := .outputExpanded writer.outputLength length
      have again : Advance (writer.behind past) scope offset input
          { (called.behind past).report scope event with outputLength := length } 0 :=
        .grow answer grown larger
      rw [report_behind] at again
      exact again

/-- A round halts alike whatever has been recorded before. -/
theorem Halt.behind
    {writer failed : Writer σ ε}
    {scope : Scope}
    {offset : Nat}
    {input : Bytes}
    {error : StreamError}
    (halt : Halt writer scope offset input error failed)
    (past : Trace) :
    Halt (writer.behind past) scope offset input error (failed.behind past) := by
  have fails (called : Writer σ ε) (error : StreamError) :
      ((called.behind past).fail (α := Nat) scope error).2 =
        (called.fail (α := Nat) scope error).2.behind past :=
    congrArg Prod.snd (fail_behind called past scope error)
  cases halt with
  | @overreport step filled engine answer beyond =>
      rw [← fails]
      exact .overreport answer beyond
  | @idle step filled engine answer within idle =>
      rw [← fails]
      exact .idle answer within idle
  | @sink step filled engine error failed answer within busy settles =>
      refine .sink answer within busy ?_
      have same := settle_behind ({ writer with engine := engine } : Writer σ ε) past scope step
        (Reply.front ⟨.ok step, filled⟩ step.produced) offset input
      rw [settles] at same
      exact same
  | @limit filled engine error growth answer refused =>
      rw [← fails]
      exact .limit answer refused
  | @saturated filled engine length growth answer grown stuck =>
      rw [← fails, ← report_behind]
      exact .saturated answer grown stuck
  | @engine filled engine error answer terminal =>
      rw [← fails]
      exact .engine answer terminal

/-- Input is submitted alike whatever has been recorded before. -/
theorem submit_behind
    (writer : Writer σ ε)
    (past : Trace)
    (scope : Scope)
    (offset : Nat)
    (input : Bytes) :
    (writer.behind past).submit scope offset input =
      outcomeBehind (writer.submit scope offset input) past := by
  apply submit_induction
    (motive := fun writer offset input outcome =>
      (writer.behind past).submit scope offset input = outcomeBehind outcome past)
  case finish =>
    intro writer offset
    exact submit_nil _ scope offset
  case advance =>
    intro writer next offset count input outcome nonempty advance later
    rw [submit_of_advance nonempty (advance.behind past), later]
  case halt =>
    intro writer failed offset input error nonempty halt
    exact submit_of_halt nonempty (halt.behind past)

/-- What is held back is flushed alike whatever has been recorded before. -/
theorem flushHeld_behind
    (writer : Writer σ ε)
    (past : Trace)
    (scope : Scope) :
    (writer.behind past).flushHeld scope = outcomeBehind (writer.flushHeld scope) past := by
  have submits :
      ({ writer.behind past with held := [] } : Writer σ ε).submit scope 0
          (writer.behind past).held = _ :=
    submit_behind ({ writer with held := [] } : Writer σ ε) past scope 0 writer.held
  unfold flushHeld
  rw [submits]
  cases ({ writer with held := [] } : Writer σ ε).submit scope 0 writer.held with
  | mk result next =>
      cases result with
      | ok =>
          rfl
      | error error =>
          rfl

/-- A buffer is taken alike whatever has been recorded before. -/
theorem stage_behind
    (writer : Writer σ ε)
    (past : Trace)
    (scope : Scope)
    (bytes : Bytes) :
    (writer.behind past).stage scope bytes = outcomeBehind (writer.stage scope bytes) past := by
  unfold stage
  rw [flushHeld_behind]
  cases writer.flushHeld scope with
  | mk result flushed =>
      cases result with
      | error error =>
          rfl
      | ok =>
          dsimp only [outcomeBehind]
          change (if flushed.effective.inputBufferMode.holdsAll flushed.effective.bounceBufferLength
            bytes.length = true then _ else _) = _
          by_cases holds :
              flushed.effective.inputBufferMode.holdsAll flushed.effective.bounceBufferLength
                bytes.length = true
          · rw [if_pos holds, if_pos holds]
            exact congrArg (Prod.mk _)
              (report_behind { flushed with held := flushed.held ++ bytes } past _ _)
          · rw [if_neg holds, if_neg holds]
            generalize cuts :
              flushed.effective.inputBufferMode.cut flushed.effective.bounceBufferLength bytes =
                parts
            have again : (flushed.behind past).effective.inputBufferMode.cut
                (flushed.behind past).effective.bounceBufferLength bytes = parts :=
              cuts
            let holding : Writer σ ε := { flushed with held := flushed.held ++ parts.2 }
            have submits :
                ({ flushed.behind past with held := (flushed.behind past).held ++ parts.2 } :
                  Writer σ ε).submit scope 0 parts.1 = _ :=
              submit_behind holding past scope 0 parts.1
            rw [again, submits]
            cases holding.submit scope 0 parts.1 with
            | mk result submitted =>
                cases result with
                | ok =>
                    rfl
                | error error =>
                    rfl

/-- A write comes to the same whatever has been recorded before. -/
theorem writeChunk_behind
    (writer : Writer σ ε)
    (past : Trace)
    (bytes : Bytes) :
    (writer.behind past).writeChunk bytes = outcomeBehind (writer.writeChunk bytes) past := by
  unfold writeChunk
  dsimp only
  rw [behind_scope, ready_behind]
  cases writer.ready writer.scope with
  | mk result active =>
      cases result with
      | error error =>
          rfl
      | ok =>
          exact stage_behind active past _ bytes

/-- A stream is completed alike whatever has been recorded before. -/
theorem complete_behind
    (writer : Writer σ ε)
    (past : Trace)
    (scope : Scope) :
    (writer.behind past).complete scope = outcomeBehind (writer.complete scope) past := by
  have marks : (writer.behind past).markedLast = writer.markedLast.behind past :=
    rfl
  rw [complete_eq, complete_eq, marks, flushHeld_behind]
  cases writer.markedLast.flushHeld scope with
  | mk result flushed =>
      cases result with
      | error error =>
          exact congrArg (Prod.mk _) (teardown_behind flushed past)
      | ok =>
          dsimp only [outcomeBehind]
          rw [behind_sink]
          cases SinkCalls.flush flushed.sink with
          | mk result sink =>
              let drained : Writer σ ε := { flushed with sink := sink }
              cases result with
              | ok =>
                  exact closeEngine_behind drained past scope
              | error error =>
                  change (Writer.teardown (drained.behind past)).fail scope _ = _
                  rw [teardown_behind]
                  exact fail_behind drained.teardown past scope _

/-- A stream is closed alike whatever has been recorded before. -/
theorem close_behind
    (writer : Writer σ ε)
    (past : Trace) :
    (writer.behind past).close = outcomeBehind writer.close past := by
  unfold close
  dsimp only
  rw [behind_failure]
  change (if writer.isClosed = true then _ else _) = _
  by_cases closed : writer.isClosed = true
  · rw [if_pos closed, if_pos closed]
    rfl
  · rw [if_neg closed, if_neg closed]
    cases writer.failure with
    | some error =>
        exact congrArg (Prod.mk _) (teardown_behind writer past)
    | none =>
        dsimp only
        rw [behind_scope, ready_behind]
        cases writer.ready writer.scope with
        | mk result active =>
            cases result with
            | error error =>
                rfl
            | ok =>
                dsimp only [outcomeBehind]
                change (if active.isBlank = true then _ else _) = _
                by_cases blank : active.isBlank = true
                · rw [if_pos blank, if_pos blank, writePlaceholder_behind]
                  cases active.writePlaceholder (writer.scope ++ ["close"]) with
                  | mk result written =>
                      cases result with
                      | ok =>
                          exact complete_behind written past _
                      | error error =>
                          dsimp only [outcomeBehind]
                          rw [teardown_behind]
                          exact fail_behind written.teardown past _ error
                · rw [if_neg blank, if_neg blank]
                  exact complete_behind active past _

/-- A stream is finished alike whatever has been recorded before. -/
theorem finish_behind
    (writer : Writer σ ε)
    (past : Trace) :
    (writer.behind past).finish = outcomeBehind writer.finish past := by
  unfold finish
  rw [close_behind]
  cases writer.close with
  | mk result closed =>
      cases result with
      | ok =>
          rfl
      | error error =>
          rfl

/-- What a reset does before it starts a session is the same whatever has been recorded before. -/
theorem closeForReset_behind
    (writer : Writer σ ε)
    (past : Trace) :
    (writer.behind past).closeForReset = writer.closeForReset.behind past := by
  unfold closeForReset
  rw [close_behind]
  change (if writer.phase = .active ∧ writer.failure = none then _ else _) = _
  by_cases active : writer.phase = .active ∧ writer.failure = none
  · rw [if_pos active, if_pos active]
    cases writer.close with
    | mk result closed =>
        cases result with
        | ok =>
            rfl
        | error error =>
            exact report_behind closed past [] _
  · rw [if_neg active, if_neg active]

theorem cleared_behind
    (writer : Writer σ ε)
    (past : Trace) :
    (writer.behind past).cleared = writer.cleared.behind past := by
  unfold cleared
  rw [closeForReset_behind, teardown_behind]
  rfl

/-- A stream is reset alike whatever has been recorded before. -/
theorem reset_behind
    (writer : Writer σ ε)
    (past : Trace)
    (sink : σ) :
    (writer.behind past).reset sink = outcomeBehind (writer.reset sink) past := by
  rw [reset_eq, reset_eq, cleared_behind, startSession_behind]
  cases writer.cleared.startSession [] with
  | mk result started =>
      cases result with
      | ok =>
          rfl
      | error error =>
          exact fail_behind started past [] error

end Submission

end Writer

end MemberStream
