import MemberStream.Proofs.Writer.Submit

namespace MemberStream

/-!
# What submission leaves alone

Submitting input changes the engine, the sink, the buffer and the figures of a
session.  Everything else of the stream stays as it is: its parameters, its
phase and the bytes it holds back.  Only a halt sets the failure.
-/

namespace Writer

variable {σ ε : Type}

/-- Two states of one session that differ in the progress of its data only. -/
structure SameSession
    (next writer : Writer σ ε) :
    Prop where
  overrides : next.overrides = writer.overrides
  staged : next.staged = writer.staged
  effective : next.effective = writer.effective
  phase : next.phase = writer.phase
  sessionOpen : next.sessionOpen = writer.sessionOpen
  held : next.held = writer.held
  span : next.span = writer.span

namespace SameSession

/-- A state belongs to its own session. -/
theorem refl
    (writer : Writer σ ε) :
    SameSession writer writer where
  overrides := rfl
  staged := rfl
  effective := rfl
  phase := rfl
  sessionOpen := rfl
  held := rfl
  span := rfl

/-- What happens in one session after another state of it is in that session, too. -/
theorem trans
    {last next writer : Writer σ ε}
    (later : SameSession last next)
    (earlier : SameSession next writer) :
    SameSession last writer where
  overrides := later.overrides.trans earlier.overrides
  staged := later.staged.trans earlier.staged
  effective := later.effective.trans earlier.effective
  phase := later.phase.trans earlier.phase
  sessionOpen := later.sessionOpen.trans earlier.sessionOpen
  held := later.held.trans earlier.held
  span := later.span.trans earlier.span

end SameSession

variable [Sink σ]

theorem sameSession_of_settle_ok
    {writer settled : Writer σ ε}
    {scope : Scope}
    {step : Step}
    {output : Bytes}
    {offset : Nat}
    {input : Bytes}
    (settles : writer.settle scope step output offset input = (.ok (), settled)) :
    SameSession settled writer ∧ settled.failure = writer.failure := by
  rcases settle_ok settles with ⟨-, rfl⟩ | ⟨sink, -, rfl⟩
  · exact ⟨by constructor <;> rfl, rfl⟩
  · exact ⟨by constructor <;> rfl, rfl⟩

theorem sameSession_of_settle_error
    {writer failed : Writer σ ε}
    {scope : Scope}
    {step : Step}
    {output : Bytes}
    {offset : Nat}
    {input : Bytes}
    {error : StreamError}
    (settles : writer.settle scope step output offset input = (.error error, failed)) :
    SameSession failed writer ∧ failed.failure = some error := by
  obtain ⟨cause, sink, -, rfl, rfl⟩ := settle_error settles
  exact ⟨by constructor <;> rfl, rfl⟩

variable [Engine ε]

/-- An advance stays in the session and keeps no failure. -/
theorem sameSession_of_advance
    {writer next : Writer σ ε}
    {scope : Scope}
    {offset count : Nat}
    {input : Bytes}
    (advance : Advance writer scope offset input next count) :
    SameSession next writer ∧ next.failure = writer.failure := by
  cases advance with
  | @step step filled engine settled answer within busy settles =>
      have same :
          SameSession ({ writer with engine := engine } : Writer σ ε) writer := by
        constructor <;> rfl
      obtain ⟨after, failure⟩ := sameSession_of_settle_ok settles
      exact ⟨after.trans same, failure⟩
  | grow answer grown larger =>
      exact ⟨by constructor <;> rfl, rfl⟩

/-- A halt stays in the session and keeps its failure. -/
theorem sameSession_of_halt
    {writer failed : Writer σ ε}
    {scope : Scope}
    {offset : Nat}
    {input : Bytes}
    {error : StreamError}
    (halt : Halt writer scope offset input error failed) :
    SameSession failed writer ∧ failed.failure = some error := by
  cases halt with
  | overreport answer beyond =>
      exact ⟨by constructor <;> rfl, rfl⟩
  | idle answer within idle =>
      exact ⟨by constructor <;> rfl, rfl⟩
  | @sink step filled engine error failed answer within busy settles =>
      have same :
          SameSession ({ writer with engine := engine } : Writer σ ε) writer := by
        constructor <;> rfl
      obtain ⟨after, failure⟩ := sameSession_of_settle_error settles
      exact ⟨after.trans same, failure⟩
  | limit answer refused =>
      exact ⟨by constructor <;> rfl, rfl⟩
  | saturated answer grown stuck =>
      exact ⟨by constructor <;> rfl, rfl⟩
  | engine answer terminal =>
      exact ⟨by constructor <;> rfl, rfl⟩

/-- A submission stays in the session; it keeps the failure that it ends with, if any. -/
theorem sameSession_submit
    (writer : Writer σ ε)
    (scope : Scope)
    (offset : Nat)
    (input : Bytes) :
    SameSession (writer.submit scope offset input).2 writer ∧
      (writer.submit scope offset input).2.failure =
        match (writer.submit scope offset input).1 with
        | .ok _ => writer.failure
        | .error error => some error := by
  apply submit_induction
    (motive := fun writer _ _ outcome =>
      SameSession outcome.2 writer ∧
        outcome.2.failure =
          match outcome.1 with
          | .ok _ => writer.failure
          | .error error => some error)
  case finish =>
    intro writer offset
    exact ⟨.refl writer, rfl⟩
  case advance =>
    intro writer next offset count input outcome more advance ⟨later, kept⟩
    obtain ⟨same, failure⟩ := sameSession_of_advance advance
    refine ⟨later.trans same, ?_⟩
    rw [kept, failure]
  case halt =>
    intro writer failed offset input error more halt
    exact sameSession_of_halt halt

theorem flushHeld_eq
    (writer : Writer σ ε)
    (scope : Scope) :
    writer.flushHeld scope =
      let outcome := ({ writer with held := [] } : Writer σ ε).submit scope 0 writer.held
      (outcome.1.map (fun _ => ()), outcome.2) := by
  unfold flushHeld
  dsimp only
  split <;> rename_i answer <;> rw [answer] <;> rfl

section Keeping

variable
  {motive : Writer σ ε → Prop}
  {scope : Scope}
  (keepsHeld :
    ∀ (writer : Writer σ ε) (held : Bytes), motive writer → motive { writer with held := held })
  (keepsSubmit :
    ∀ (writer : Writer σ ε) (input : Bytes),
      motive writer → motive (writer.submit scope 0 input).2)

include keepsHeld keepsSubmit

theorem flushHeld_keeps
    {writer : Writer σ ε}
    (holds : motive writer) :
    motive (writer.flushHeld scope).2 := by
  have submits := keepsSubmit { writer with held := [] } writer.held (keepsHeld writer [] holds)
  rwa [flushHeld_eq]

/-- What every submission and every report keeps, taking a buffer keeps. -/
theorem stage_keeps
    (keepsReport :
      ∀ (writer : Writer σ ε) (event : Event), motive writer → motive (writer.report scope event))
    {writer : Writer σ ε}
    (bytes : Bytes)
    (holds : motive writer) :
    motive (writer.stage scope bytes).2 := by
  have flushes := flushHeld_keeps keepsHeld keepsSubmit holds
  unfold stage
  split
  · rename_i answer
    rwa [answer] at flushes
  · rename_i flushed answer
    rw [answer] at flushes
    dsimp only
    split
    · exact keepsReport _ _ (keepsHeld _ _ flushes)
    · generalize flushed.effective.inputBufferMode.cut flushed.effective.bounceBufferLength
        bytes = parts
      have submits := keepsSubmit _ parts.1 (keepsHeld flushed (flushed.held ++ parts.2) flushes)
      split <;> rename_i again <;> rwa [again] at submits

end Keeping

end Writer

end MemberStream
