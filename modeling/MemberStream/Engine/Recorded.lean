import MemberStream.Engine.Basic

namespace MemberStream

/-!
# Recorded engines

A recorded engine answers as the engine inside it and keeps every call with its
answer, newest first.
-/

/-- One call on an engine and its answer. -/
inductive EngineCall
  | start (parameters : ParameterSet) (result : Except StreamError Unit)
  | compress (input : Bytes) (capacity : Nat) (reply : Reply)
  | decompress (input : Bytes) (capacity : Nat) (reply : Reply)
  | setLast (last : Bool)
  | close (result : Except StreamError Unit)

/-- An engine together with the calls made on it, newest first. -/
structure RecordedEngine (ε : Type) where
  engine : ε
  calls : List EngineCall := []

namespace RecordedEngine

/-- Each call goes to the engine inside and is recorded with its answer. -/
instance {ε : Type} [inner : EngineCalls ε] : EngineCalls (RecordedEngine ε) where
  start recorded parameters :=
    let (result, engine) := inner.start recorded.engine parameters
    (result, ⟨engine, .start parameters result :: recorded.calls⟩)
  compress recorded input capacity :=
    let (reply, engine) := inner.compress recorded.engine input capacity
    (reply, ⟨engine, .compress input capacity reply :: recorded.calls⟩)
  decompress recorded input capacity :=
    let (reply, engine) := inner.decompress recorded.engine input capacity
    (reply, ⟨engine, .decompress input capacity reply :: recorded.calls⟩)
  setLast recorded last :=
    ⟨inner.setLast recorded.engine last, .setLast last :: recorded.calls⟩
  close recorded :=
    let (result, engine) := inner.close recorded.engine
    (result, ⟨engine, .close result :: recorded.calls⟩)

/-- A recorded engine stalls only when the engine inside it does. -/
theorem stalls_engine
    {ε : Type}
    [EngineCalls ε]
    {next current : RecordedEngine ε}
    (stalled : Stalls next current) :
    Stalls next.engine current.engine := by
  obtain ⟨ready, input, capacity, produced, filled, origin, positive, answer⟩ := stalled
  refine ⟨ready.engine, input, capacity, produced, filled, ?_, positive, ?_⟩
  · rcases origin with same | marked
    · exact Or.inl (congrArg engine same)
    · exact Or.inr (congrArg engine marked)
  · simp only [EngineCalls.compress, Prod.mk.injEq] at answer
    obtain ⟨reply, state⟩ := answer
    apply Prod.ext
    · exact reply
    · exact congrArg engine state

instance {ε : Type} [inner : Engine ε] : Engine (RecordedEngine ε) where
  settles :=
    Subrelation.wf stalls_engine (InvImage.wf engine inner.settles)

end RecordedEngine

end MemberStream
