import MemberStream.Proofs.Engine.Spending
import MemberStream.Proofs.Slice
import MemberStream.Proofs.Writer.Marking

namespace MemberStream

/-!
# What a write spends

A write submits what was held back, and then what it does not hold back itself.  As long as
every step consumes something, it makes no more steps than those are bytes.
-/

namespace Writer

variable {σ ε : Type}

section Round

variable [EngineCalls ε]

/-- A round spends what its call spends, for a mark is no data call. -/
theorem spends_of_compress
    {writer : Writer σ (RecordedEngine ε)}
    {input : Bytes}
    {capacity bytes : Nat}
    {reply : Reply}
    {engine : RecordedEngine ε}
    (answer : EngineCalls.compress writer.markedEngine input capacity = (reply, engine))
    (spent : EngineCall.Spent [.compress input capacity reply] bytes) :
    writer.engine.Spends engine bytes := by
  have calls := calls_of_markedEngine answer
  rw [← List.singleton_append, ← List.append_assoc] at calls
  refine ⟨_, calls, ?_⟩
  have marks : EngineCall.Spent
      (if writer.effective.inputBufferMode = .last then [.setLast true] else []) 0 := by
    apply EngineCall.Spent.of_quiet
    intro call member
    split at member
    · rw [List.mem_singleton.mp member]
      rfl
    · cases member
  have both := spent.append marks
  rwa [Nat.zero_add] at both

variable [Sink σ]

/-- A round that goes on spends the bytes that its step consumed. -/
theorem spends_of_advance
    {writer next : Writer σ (RecordedEngine ε)}
    {scope : Scope}
    {offset count : Nat}
    {input : Bytes}
    (advance : Advance writer scope offset input next count) :
    count ≤ input.length ∧ writer.engine.Spends next.engine count := by
  obtain ⟨reply, answer⟩ := compressed_of_advance advance
  cases advance with
  | @step step filled engine settled same within busy settles =>
      have spent :
          EngineCall.Spent [.compress input writer.outputLength ⟨.ok step, filled⟩]
            step.consumed :=
        .of_succeeds (by simp [EngineCall.succeeds, EngineCall.isStep, within, busy])
      rw [same] at answer
      cases answer
      exact ⟨(Step.le_of_not_exceeds within).1, spends_of_compress same spent⟩
  | grow same grown larger =>
      refine ⟨Nat.zero_le _, spends_of_compress answer (.of_short ?_)⟩
      rw [same] at answer
      cases answer
      rfl

end Round

variable [Sink σ] [Engine ε]

/-- A submission spends no more than the bytes that are submitted. -/
theorem spends_submit
    (writer : Writer σ (RecordedEngine ε))
    (scope : Scope)
    (offset : Nat)
    (input : Bytes) :
    writer.engine.Spends (writer.submit scope offset input).2.engine input.length := by
  apply submit_induction
    (motive := fun (writer : Writer σ (RecordedEngine ε)) _ input outcome =>
      writer.engine.Spends outcome.2.engine input.length)
  case finish =>
    intro writer offset
    exact .refl writer.engine
  case advance =>
    intro writer next offset count input outcome more advance later
    obtain ⟨most, round⟩ := spends_of_advance advance
    rw [List.length_drop] at later
    have both := round.trans later
    rwa [Nat.add_sub_cancel' most] at both
  case halt =>
    intro writer failed offset input error more halt
    obtain ⟨reply, answer⟩ := compressed_of_halt halt
    exact spends_of_compress answer
      ((EngineCall.Spent.of_call _).mono (List.length_pos_iff.mpr more))

theorem spends_flushHeld
    (writer : Writer σ (RecordedEngine ε))
    (scope : Scope) :
    writer.engine.Spends (writer.flushHeld scope).2.engine writer.held.length := by
  rw [flushHeld_eq]
  exact spends_submit { writer with held := [] } scope 0 writer.held

/-- Taking a buffer spends no more than the bytes held back before it and its own. -/
theorem spends_stage
    (writer : Writer σ (RecordedEngine ε))
    (scope : Scope)
    (bytes : Bytes) :
    writer.engine.Spends (writer.stage scope bytes).2.engine
      (writer.held.length + bytes.length) := by
  have flushed := spends_flushHeld writer scope
  have comes := stages_stage writer scope bytes
  generalize writer.stage scope bytes = outcome at comes ⊢
  cases comes with
  | unflushed flushes | held flushes _ =>
      rw [flushes] at flushed
      exact flushed.mono (Nat.le_add_right _ _)
  | @cut next _ front tail _ flushes _ _ whole submits
  | @halted next _ front tail _ flushes _ _ whole submits =>
      rw [flushes] at flushed
      have spends := spends_submit { next with held := next.held ++ tail } scope 0 front
      rw [submits] at spends
      have length := congrArg List.length whole
      rw [List.length_append] at length
      exact (flushed.trans spends).mono (by omega)

/-- A write spends no more than the bytes held back before it and those that it is handed. -/
theorem spends_writeChunk
    (writer : Writer σ (RecordedEngine ε))
    (bytes : Bytes) :
    writer.engine.Spends (writer.writeChunk bytes).2.engine
      (writer.held.length + bytes.length) := by
  cases writes_writeChunk writer bytes with
  | unready refused same =>
      rw [same]
      cases refused with
      | failed kept | closed unfailed phase =>
          exact (RecordedEngine.Spends.refl _).mono (Nat.zero_le _)
      | refused unfailed phase answer =>
          exact (RecordedEngine.Spends.of_quiet (RecordedEngine.calls_of_start answer) rfl).mono
            (Nat.zero_le _)
  | @staged active readied stages =>
      rw [stages]
      have spends := spends_stage active (writer.scope ++ ["write"]) bytes
      cases readied with
      | active unfailed phase =>
          exact spends
      | started unfailed phase starts =>
          have started : writer.engine.Spends active.engine 0 :=
            .of_quiet (RecordedEngine.calls_of_start starts.engine) rfl
          have both := started.trans spends
          rw [starts.held, List.length_nil] at both
          exact both.mono (by omega)

end Writer

end MemberStream
