import MemberStream.Proofs.Writer.Phases
import MemberStream.Proofs.Writer.Streams

namespace MemberStream

/-!
# Opening writers

A writer on a member engine that has been built or reset is prepared for its
first write.
-/

variable {encoders : Encoders}

namespace Writer

variable {σ : Type}

/-- Apply batches of options, one after the other. -/
def applyAll
    {ε : Type}
    (writer : Writer σ ε)
    (batches : List (List StreamOption)) :
    Writer σ ε :=
  batches.foldl (fun writer options => (writer.apply options).2) writer

/-- Options change nothing but the staged parameters of an idle writer. -/
theorem applyAll_of_idle
    {ε : Type}
    (writer : Writer σ ε)
    (batches : List (List StreamOption))
    (idle : writer.phase = .idle) :
    writer.applyAll batches =
      { writer with
        staged :=
          batches.foldl
            (fun parameters options => (applyOptions .writer false options parameters).2)
            writer.staged } := by
  induction batches generalizing writer with
  | nil =>
      rfl
  | cons options batches ih =>
      have first : (writer.apply options).2 =
          { writer with staged := (applyOptions .writer false options writer.staged).2 } :=
        congrArg Prod.snd (apply_of_idle idle options)
      change (writer.apply options).2.applyAll batches = _
      rw [first]
      exact ih { writer with staged := (applyOptions .writer false options writer.staged).2 } idle

/-- A session starts if its codec accepts its level. -/
theorem startSession_of_checkLevel
    {writer : Writer σ (MemberEngine encoders)}
    (level :
      (writer.staged.resolve writer.overrides).algorithm.checkLevel
        (writer.staged.resolve writer.overrides).level = .ok ())
    (scope : Scope) :
    ∃ started, writer.startSession scope = (.ok (), started) := by
  unfold startSession
  dsimp only
  rw [MemberEngine.start_of_checkLevel writer.engine level]
  exact ⟨_, rfl⟩

variable [Sink σ]

/-- A writer at the start of a session with given parameters. -/
inductive Opened
    (parameters : ParameterSet) :
    Writer (RecordedSink σ) (MemberEngine encoders) →
    Prop where
  /-- It has been built, options have been applied to it, and its session can start. -/
  | built
      (sink : RecordedSink σ)
      (engine : MemberEngine encoders)
      (overrides : Overrides)
      (batches : List (List StreamOption))
      (session : (stagedBy .writer batches).resolve overrides = parameters)
      (level : parameters.algorithm.checkLevel parameters.level = .ok ()) :
      Opened parameters (applyAll { sink, engine, overrides } batches)
  /-- Its reset has succeeded. -/
  | reset
      {writer renewed : Writer (RecordedSink σ) (MemberEngine encoders)}
      {sink previous : RecordedSink σ}
      {batches : List (List StreamOption)}
      (staged : renewed.staged = stagedBy .writer batches)
      (session : renewed.staged.resolve renewed.overrides = parameters)
      (resets : writer.reset sink = (.ok previous, renewed)) :
      Opened parameters renewed

/-- A session that starts holds nothing back, whatever sink it is given. -/
theorem holding_of_startSession
    {writer started : Writer (RecordedSink σ) (MemberEngine encoders)}
    {scope : Scope}
    (starts : writer.startSession scope = (.ok (), started))
    (allowed : (writer.staged.resolve writer.overrides).direction.allows .compress = true)
    (unfailed : writer.failure = none) :
    started.sink = writer.sink ∧
      ∀ sink : RecordedSink σ,
        Sink.Accepts sink →
          ({ started with sink := sink } : Writer (RecordedSink σ) (MemberEngine encoders)).Holding
            (writer.staged.resolve writer.overrides) sink.received [] [] [] .active := by
  unfold startSession at starts
  dsimp only at starts
  split at starts
  · cases starts
  · rename_i engine answer
    cases starts
    obtain ⟨-, rfl⟩ := MemberEngine.of_start answer
    refine ⟨rfl, ?_⟩
    intro sink accepts
    refine ⟨⟨⟨unfailed, rfl, allowed, rfl, ?_, ?_, accepts⟩, rfl, ?_⟩, rfl, rfl, rfl⟩
    · exact Nat.lt_of_lt_of_le Nat.zero_lt_one (Nat.le_max_right _ _)
    · intro limit same
      exact GrowthPolicy.initialLength_le (by rw [GrowthPolicy.start, same]) _
    · exact ⟨(List.append_nil _).symm, rfl, rfl, rfl, rfl, fun _ => rfl⟩

/-- An idle writer whose session can start is prepared for its first write. -/
theorem prepared_of_idle
    {writer : Writer (RecordedSink σ) (MemberEngine encoders)}
    (phase : writer.phase = .idle)
    (unfailed : writer.failure = none)
    (level :
      (writer.staged.resolve writer.overrides).algorithm.checkLevel
        (writer.staged.resolve writer.overrides).level = .ok ())
    (allowed : (writer.staged.resolve writer.overrides).direction.allows .compress = true)
    (accepts : Sink.Accepts writer.sink) :
    writer.Prepared (writer.staged.resolve writer.overrides) writer.sink.received [] [] [] := by
  intro scope
  obtain ⟨started, starts⟩ := startSession_of_checkLevel level scope
  obtain ⟨kept, holding⟩ := holding_of_startSession starts allowed unfailed
  refine ⟨started, ?_, ?_⟩
  · unfold ready
    rw [unfailed, phase]
    dsimp only
    rw [starts]
  · have all := holding writer.sink accepts
    rw [← kept] at all
    rw [← kept]
    exact all

/-- A writer at the start of a session is prepared for its first write. -/
theorem prepared_of_opened
    {parameters : ParameterSet}
    {writer : Writer (RecordedSink σ) (MemberEngine encoders)}
    (opened : writer.Opened parameters)
    (accepts : Sink.Accepts writer.sink) :
    writer.Prepared parameters writer.sink.received [] [] [] := by
  cases opened with
  | built sink engine overrides batches session level =>
      have allowed : parameters.direction.allows .compress = true := by
        rw [← session]
        exact directed_stagedBy .writer batches
      rw [applyAll_of_idle _ _ rfl] at accepts ⊢
      rw [← session] at level allowed ⊢
      exact prepared_of_idle rfl rfl level allowed accepts
  | @reset before _ sink previous batches staged session resets =>
      have allowed : parameters.direction.allows .compress = true := by
        rw [← session, staged]
        exact directed_stagedBy .writer batches
      rw [reset_eq] at resets
      split at resets
      · rename_i started starts
        cases resets
        have changed := started_of_startSession starts
        change started.staged.resolve started.overrides = parameters at session
        rw [changed.staged, changed.overrides] at session
        rw [← session] at allowed ⊢
        obtain ⟨-, holding⟩ := holding_of_startSession starts allowed rfl
        intro scope
        have active := holding sink accepts
        exact ⟨{ started with sink := sink },
          ready_of_active active.stands.compresses.failure active.phase scope, active⟩
      · cases resets

end Writer

end MemberStream
