import MemberStream.Stream.Writer

namespace MemberStream

/-!
# Rounds of submission

Submitting some input is a loop around the engine.  A round either goes on, with
less input or with a larger output buffer, or halts with a failure that is kept.
`Advance` and `Halt` say everything that one round can do, and
`submit_induction` is the induction over rounds from which the laws of
submission follow.
-/

namespace Writer

variable {σ ε : Type}

/-- The state after a string has been forwarded to a sink. -/
def forwarded
    (writer : Writer σ ε)
    (scope : Scope)
    (bytes : Bytes)
    (ok : Bool)
    (sink : σ) :
    Writer σ ε :=
  ({ writer with sink := sink } : Writer σ ε).report
    (scope ++ ["output"]) (.forwarded bytes.length ok)

theorem forward_ok
    [Sink σ]
    {writer : Writer σ ε}
    {scope : Scope}
    {bytes : Bytes}
    {sink : σ}
    (written : Sink.writeAll writer.sink bytes = (.ok (), sink)) :
    writer.forward scope bytes = (.ok (), writer.forwarded scope bytes true sink) := by
  simp only [forward, written]
  rfl

theorem forward_error
    [Sink σ]
    {writer : Writer σ ε}
    {scope : Scope}
    {bytes : Bytes}
    {error : TransportError}
    {sink : σ}
    (failed : Sink.writeAll writer.sink bytes = (.error error, sink)) :
    writer.forward scope bytes =
      (writer.forwarded scope bytes false sink).fail (scope ++ ["output"]) (.ofSink error) := by
  simp only [forward, failed]
  rfl

/-- A settled step has been counted, and the sink has taken what it put out. -/
theorem settle_ok
    [Sink σ]
    {writer settled : Writer σ ε}
    {scope : Scope}
    {step : Step}
    {output : Bytes}
    {offset : Nat}
    {input : Bytes}
    (settles : writer.settle scope step output offset input = (.ok (), settled)) :
    (step.produced = 0 ∧ settled = writer.accept scope step offset input) ∨
      ∃ sink,
        Sink.writeAll writer.sink output = (.ok (), sink) ∧
          settled = (writer.accept scope step offset input).forwarded scope output true sink := by
  unfold settle at settles
  dsimp only at settles
  split at settles
  · rename_i silent
    cases settles
    exact Or.inl ⟨silent, rfl⟩
  · right
    cases written : Sink.writeAll (writer.accept scope step offset input).sink output with
    | mk result sink =>
        cases result with
        | ok =>
            rw [forward_ok written] at settles
            cases settles
            exact ⟨sink, written, rfl⟩
        | error error =>
            rw [forward_error written] at settles
            cases settles

/-- A step that could not be settled has been counted, and the sink has failed. -/
theorem settle_error
    [Sink σ]
    {writer failed : Writer σ ε}
    {scope : Scope}
    {step : Step}
    {output : Bytes}
    {offset : Nat}
    {input : Bytes}
    {error : StreamError}
    (settles : writer.settle scope step output offset input = (.error error, failed)) :
    ∃ cause sink,
      Sink.writeAll writer.sink output = (.error cause, sink) ∧
        error = .ofSink cause ∧
        failed =
          (((writer.accept scope step offset input).forwarded scope output false sink).fail
            (α := Unit) (scope ++ ["output"]) error).2 := by
  unfold settle at settles
  dsimp only at settles
  split at settles
  · cases settles
  · cases written : Sink.writeAll (writer.accept scope step offset input).sink output with
    | mk result sink =>
        cases result with
        | ok =>
            rw [forward_ok written] at settles
            cases settles
        | error cause =>
            rw [forward_error written] at settles
            cases settles
            exact ⟨cause, sink, written, rfl, rfl⟩

variable [Sink σ]

section

variable [EngineCalls ε]

/--
One round over the front of some input goes on: with the state after it, and
with the number of bytes it consumed.
-/
inductive Advance
    (writer : Writer σ ε)
    (scope : Scope)
    (offset : Nat)
    (input : Bytes) :
    Writer σ ε →
    Nat →
    Prop where
  /-- The engine made a step, and the sink took what it put out. -/
  | step
      {step : Step}
      {filled : Bytes}
      {engine : ε}
      {settled : Writer σ ε}
      (answer :
        EngineCalls.compress writer.markedEngine input writer.outputLength =
          (⟨.ok step, filled⟩, engine))
      (within : step.exceeds input.length writer.outputLength = false)
      (busy : step.isIdle = false)
      (settles :
        ({ writer with engine := engine } : Writer σ ε).settle scope step
            (Reply.front ⟨.ok step, filled⟩ step.produced) offset input =
          (.ok (), settled)) :
      Advance writer scope offset input settled step.consumed
  /-- The output buffer was too small and has grown. -/
  | grow
      {filled : Bytes}
      {engine : ε}
      {length : Nat}
      {growth : GrowthPolicy}
      (answer :
        EngineCalls.compress writer.markedEngine input writer.outputLength =
          (⟨.error .insufficientBuffer, filled⟩, engine))
      (grown :
        writer.growth.nextOutputLength input.length writer.outputLength =
          (.ok length, growth))
      (larger : writer.outputLength < length) :
      Advance writer scope offset input
        { ({ writer with engine := engine, growth := growth } : Writer σ ε).report scope
              (.outputExpanded writer.outputLength length) with
          outputLength := length }
        0

/-- One round over the front of some input ends the loop with a failure. -/
inductive Halt
    (writer : Writer σ ε)
    (scope : Scope)
    (offset : Nat)
    (input : Bytes) :
    StreamError →
    Writer σ ε →
    Prop where
  /-- The engine reported more than it was offered. -/
  | overreport
      {step : Step}
      {filled : Bytes}
      {engine : ε}
      (answer :
        EngineCalls.compress writer.markedEngine input writer.outputLength =
          (⟨.ok step, filled⟩, engine))
      (beyond : step.exceeds input.length writer.outputLength = true) :
      Halt writer scope offset input
        (step.overreport input.length writer.outputLength)
        (({ writer with engine := engine } : Writer σ ε).fail (α := Nat) scope
          (step.overreport input.length writer.outputLength)).2
  /-- The engine made no progress. -/
  | idle
      {step : Step}
      {filled : Bytes}
      {engine : ε}
      (answer :
        EngineCalls.compress writer.markedEngine input writer.outputLength =
          (⟨.ok step, filled⟩, engine))
      (within : step.exceeds input.length writer.outputLength = false)
      (idle : step.isIdle = true) :
      Halt writer scope offset input
        (.engineFault "engine made no progress")
        (({ writer with engine := engine } : Writer σ ε).fail (α := Nat) scope
          (.engineFault "engine made no progress")).2
  /-- The engine made a step, and the sink failed on what it put out. -/
  | sink
      {step : Step}
      {filled : Bytes}
      {engine : ε}
      {error : StreamError}
      {failed : Writer σ ε}
      (answer :
        EngineCalls.compress writer.markedEngine input writer.outputLength =
          (⟨.ok step, filled⟩, engine))
      (within : step.exceeds input.length writer.outputLength = false)
      (busy : step.isIdle = false)
      (settles :
        ({ writer with engine := engine } : Writer σ ε).settle scope step
            (Reply.front ⟨.ok step, filled⟩ step.produced) offset input =
          (.error error, failed)) :
      Halt writer scope offset input error failed
  /-- The output buffer may not grow. -/
  | limit
      {filled : Bytes}
      {engine : ε}
      {error : StreamError}
      {growth : GrowthPolicy}
      (answer :
        EngineCalls.compress writer.markedEngine input writer.outputLength =
          (⟨.error .insufficientBuffer, filled⟩, engine))
      (refused :
        writer.growth.nextOutputLength input.length writer.outputLength =
          (.error error, growth)) :
      Halt writer scope offset input error
        (({ writer with engine := engine, growth := growth } : Writer σ ε).fail
          (α := Nat) scope error).2
  /-- The output buffer cannot grow. -/
  | saturated
      {filled : Bytes}
      {engine : ε}
      {length : Nat}
      {growth : GrowthPolicy}
      (answer :
        EngineCalls.compress writer.markedEngine input writer.outputLength =
          (⟨.error .insufficientBuffer, filled⟩, engine))
      (grown :
        writer.growth.nextOutputLength input.length writer.outputLength =
          (.ok length, growth))
      (stuck : ¬ writer.outputLength < length) :
      Halt writer scope offset input
        (.bufferLimitExceeded length maxLength)
        ((({ writer with engine := engine, growth := growth } : Writer σ ε).report scope
            (.outputExpanded writer.outputLength length)).fail (α := Nat) scope
          (.bufferLimitExceeded length maxLength)).2
  /-- The engine refused. -/
  | engine
      {filled : Bytes}
      {engine : ε}
      {error : StreamError}
      (answer :
        EngineCalls.compress writer.markedEngine input writer.outputLength =
          (⟨.error error, filled⟩, engine))
      (terminal : error ≠ .insufficientBuffer) :
      Halt writer scope offset input error
        (({ writer with engine := engine } : Writer σ ε).fail (α := Nat) scope error).2

/-- A round that goes on has made one call on the engine. -/
theorem compressed_of_advance
    {writer next : Writer σ ε}
    {scope : Scope}
    {offset count : Nat}
    {input : Bytes}
    (advance : Advance writer scope offset input next count) :
    ∃ reply,
      EngineCalls.compress writer.markedEngine input writer.outputLength =
        (reply, next.engine) := by
  cases advance with
  | @step step filled engine settled answer within busy settles =>
      have same := settle_engine ({ writer with engine := engine } : Writer σ ε) scope step
        (Reply.front ⟨.ok step, filled⟩ step.produced) offset input
      rw [settles] at same
      exact ⟨_, answer.trans (congrArg (Prod.mk _) same.symm)⟩
  | grow answer grown larger =>
      exact ⟨_, answer⟩

/-- A round that halts has made one call on the engine. -/
theorem compressed_of_halt
    {writer failed : Writer σ ε}
    {scope : Scope}
    {offset : Nat}
    {input : Bytes}
    {error : StreamError}
    (halt : Halt writer scope offset input error failed) :
    ∃ reply,
      EngineCalls.compress writer.markedEngine input writer.outputLength =
        (reply, failed.engine) := by
  cases halt with
  | overreport answer beyond =>
      exact ⟨_, answer⟩
  | idle answer within idle =>
      exact ⟨_, answer⟩
  | @sink step filled engine error failed answer within busy settles =>
      have same := settle_engine ({ writer with engine := engine } : Writer σ ε) scope step
        (Reply.front ⟨.ok step, filled⟩ step.produced) offset input
      rw [settles] at same
      exact ⟨_, answer.trans (congrArg (Prod.mk _) same.symm)⟩
  | limit answer refused =>
      exact ⟨_, answer⟩
  | saturated answer grown stuck =>
      exact ⟨_, answer⟩
  | engine answer terminal =>
      exact ⟨_, answer⟩

end

variable [Engine ε]

@[simp]
theorem submit_nil
    (writer : Writer σ ε)
    (scope : Scope)
    (offset : Nat) :
    writer.submit scope offset [] = (.ok offset, writer) := by
  unfold submit
  rfl

/-- What a submission does with a step of the engine. -/
theorem submit_of_ok
    {writer : Writer σ ε}
    {input filled : Bytes}
    {step : Step}
    {engine : ε}
    (nonempty : input ≠ [])
    (answer :
      EngineCalls.compress writer.markedEngine input writer.outputLength =
        (⟨.ok step, filled⟩, engine))
    (scope : Scope)
    (offset : Nat) :
    writer.submit scope offset input =
      let called := { writer with engine := engine }
      if step.exceeds input.length writer.outputLength then
        called.fail scope (step.overreport input.length writer.outputLength)
      else if step.isIdle then
        called.fail scope (.engineFault "engine made no progress")
      else
        match called.settle scope step (Reply.front ⟨.ok step, filled⟩ step.produced) offset
          input with
        | (.error error, failed) =>
            (.error error, failed)
        | (.ok (), settled) =>
            settled.submit scope (offset + step.consumed) (input.drop step.consumed) := by
  rw [submit, dif_neg (by simpa using nonempty)]
  split
  · rename_i same
    rw [answer] at same
    cases same
    dsimp only
    split
    · rfl
    · split
      · rfl
      · split
        · rename_i settles
          rw [settles]
        · rename_i settles
          rw [settles]
  · rename_i same
    rw [answer] at same
    cases same
  · rename_i same
    rw [answer] at same
    cases same

/-- What a submission does when the output buffer is too small. -/
theorem submit_of_insufficient
    {writer : Writer σ ε}
    {input filled : Bytes}
    {engine : ε}
    (nonempty : input ≠ [])
    (answer :
      EngineCalls.compress writer.markedEngine input writer.outputLength =
        (⟨.error .insufficientBuffer, filled⟩, engine))
    (scope : Scope)
    (offset : Nat) :
    writer.submit scope offset input =
      let called := { writer with engine := engine }
      match writer.growth.nextOutputLength input.length writer.outputLength with
      | (.error error, growth) =>
          { called with growth := growth }.fail scope error
      | (.ok length, growth) =>
          let expanded :=
            { called with growth := growth }.report scope
              (.outputExpanded writer.outputLength length)
          if writer.outputLength < length then
            { expanded with outputLength := length }.submit scope offset input
          else
            expanded.fail scope (.bufferLimitExceeded length maxLength) := by
  rw [submit, dif_neg (by simpa using nonempty)]
  split
  · rename_i same
    rw [answer] at same
    cases same
  · rename_i same
    rw [answer] at same
    cases same
    dsimp only
    split
    · rename_i grown
      rw [grown]
    · rename_i grown
      rw [grown]
      dsimp only
      split
      · rfl
      · rfl
  · rename_i terminal same
    rw [answer] at same
    cases same
    exact (terminal rfl).elim

/-- What a submission does when the engine refuses. -/
theorem submit_of_error
    {writer : Writer σ ε}
    {input filled : Bytes}
    {engine : ε}
    {error : StreamError}
    (nonempty : input ≠ [])
    (answer :
      EngineCalls.compress writer.markedEngine input writer.outputLength =
        (⟨.error error, filled⟩, engine))
    (terminal : error ≠ .insufficientBuffer)
    (scope : Scope)
    (offset : Nat) :
    writer.submit scope offset input =
      ({ writer with engine := engine } : Writer σ ε).fail scope error := by
  rw [submit, dif_neg (by simpa using nonempty)]
  split
  · rename_i same
    rw [answer] at same
    cases same
  · rename_i same
    rw [answer] at same
    cases same
    exact absurd rfl terminal
  · rename_i same
    rw [answer] at same
    cases same
    rfl

/-- A submission goes on where an advance leaves it. -/
theorem submit_of_advance
    {writer next : Writer σ ε}
    {scope : Scope}
    {offset count : Nat}
    {input : Bytes}
    (nonempty : input ≠ [])
    (advance : Advance writer scope offset input next count) :
    writer.submit scope offset input = next.submit scope (offset + count) (input.drop count) := by
  cases advance with
  | step answer within busy settles =>
      rw [submit_of_ok nonempty answer]
      simp only [within, busy, settles, Bool.false_eq_true, if_false]
  | grow answer grown larger =>
      rw [submit_of_insufficient nonempty answer, grown]
      simp only [if_pos larger, Nat.add_zero, List.drop_zero]

/-- A submission ends with the failure that halts it. -/
theorem submit_of_halt
    {writer failed : Writer σ ε}
    {scope : Scope}
    {offset : Nat}
    {input : Bytes}
    {error : StreamError}
    (nonempty : input ≠ [])
    (halt : Halt writer scope offset input error failed) :
    writer.submit scope offset input = (.error error, failed) := by
  cases halt with
  | overreport answer beyond =>
      rw [submit_of_ok nonempty answer]
      simp only [if_pos beyond]
      rfl
  | idle answer within idle =>
      rw [submit_of_ok nonempty answer]
      simp only [within, idle, Bool.false_eq_true, if_false, if_true]
      rfl
  | sink answer within busy settles =>
      rw [submit_of_ok nonempty answer]
      simp only [within, busy, settles, Bool.false_eq_true, if_false]
  | limit answer refused =>
      rw [submit_of_insufficient nonempty answer, refused]
      rfl
  | saturated answer grown stuck =>
      rw [submit_of_insufficient nonempty answer, grown]
      simp only [if_neg stuck]
      rfl
  | engine answer terminal =>
      rw [submit_of_error nonempty answer terminal]
      rfl

/-- A submission is done when the engine takes all of its input in one step. -/
theorem submit_of_step
    {writer settled : Writer σ ε}
    {scope : Scope}
    {offset produced : Nat}
    {input filled : Bytes}
    {engine : ε}
    (nonempty : input ≠ [])
    (answer :
      EngineCalls.compress writer.markedEngine input writer.outputLength =
        (⟨.ok ⟨input.length, produced⟩, filled⟩, engine))
    (within : produced ≤ writer.outputLength)
    (settles :
      ({ writer with engine := engine } : Writer σ ε).settle scope ⟨input.length, produced⟩
          (Reply.front ⟨.ok ⟨input.length, produced⟩, filled⟩ produced) offset input =
        (.ok (), settled)) :
    writer.submit scope offset input = (.ok (offset + input.length), settled) := by
  have advance : Advance writer scope offset input settled input.length :=
    .step answer (by simp [Step.exceeds, within]) (by simp [Step.isIdle, nonempty]) settles
  rw [submit_of_advance nonempty advance, List.drop_length, submit_nil]

/--
Induction over the rounds of a submission: what holds when no input is left,
carries over from what follows an advance, and holds of a halt, holds of the
outcome.
-/
theorem submit_induction
    {scope : Scope}
    {motive : Writer σ ε → Nat → Bytes → Except StreamError Nat × Writer σ ε → Prop}
    (finish :
      ∀ (writer : Writer σ ε) (offset : Nat),
        motive writer offset [] (.ok offset, writer))
    (advance :
      ∀ (writer next : Writer σ ε) (offset count : Nat) (input : Bytes)
        (outcome : Except StreamError Nat × Writer σ ε),
        input ≠ [] →
        Advance writer scope offset input next count →
        motive next (offset + count) (input.drop count) outcome →
        motive writer offset input outcome)
    (halt :
      ∀ (writer failed : Writer σ ε) (offset : Nat) (input : Bytes) (error : StreamError),
        input ≠ [] →
        Halt writer scope offset input error failed →
        motive writer offset input (.error error, failed))
    (writer : Writer σ ε)
    (offset : Nat)
    (input : Bytes) :
    motive writer offset input (writer.submit scope offset input) := by
  fun_induction submit writer scope offset input with
  | case1 writer offset input empty =>
      rw [List.isEmpty_iff.mp empty]
      exact finish writer offset
  | case2 writer offset input more step filled engine answer _ _ beyond =>
      exact halt _ _ _ _ _ (by simpa using more) (.overreport answer beyond)
  | case3 writer offset input more step filled engine answer _ _ within idle =>
      exact halt _ _ _ _ _ (by simpa using more) (.idle answer (by simpa using within) idle)
  | case4 writer offset input more step filled engine answer _ _ within busy _ error failed
      settles =>
      exact halt _ _ _ _ _ (by simpa using more)
        (.sink answer (by simpa using within) (by simpa using busy) settles)
  | case5 writer offset input more step filled engine answer _ _ within busy _ settled
      settles ih =>
      exact advance _ _ _ _ _ _ (by simpa using more)
        (.step answer (by simpa using within) (by simpa using busy) settles) ih
  | case6 writer offset input more filled engine answer _ error growth refused =>
      exact halt _ _ _ _ _ (by simpa using more) (.limit answer refused)
  | case7 writer offset input more filled engine answer _ length growth grown _ larger ih =>
      exact advance _ _ _ _ _ _ (by simpa using more) (.grow answer grown larger) ih
  | case8 writer offset input more filled engine answer _ length growth grown _ stuck =>
      exact halt _ _ _ _ _ (by simpa using more) (.saturated answer grown stuck)
  | case9 writer offset input more error filled engine terminal answer =>
      exact halt _ _ _ _ _ (by simpa using more) (.engine answer terminal)

end Writer

end MemberStream
