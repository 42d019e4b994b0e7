import MemberStream.Engine.Basic

namespace MemberStream

/-!
# Rationed engines

A rationed engine answers as the engine inside it for a given number of data
calls and refuses every later one.  It settles whatever the engine inside does,
so a law about engines that settle is a law about any finite part of the
behaviour of any other.
-/

/-- An engine together with the number of data calls it still answers. -/
structure RationedEngine (ε : Type) where
  engine : ε
  ration : Nat

namespace RationedEngine

/-- The refusal of a data call when the ration is used up. -/
def exhausted : Reply where
  result :=
    .error (.engineFault "no more data calls")

/-- Data calls use up the ration; all other calls go to the engine inside. -/
instance {ε : Type} [inner : EngineCalls ε] : EngineCalls (RationedEngine ε) where
  start rationed parameters :=
    let (result, engine) := inner.start rationed.engine parameters
    (result, { rationed with engine := engine })
  compress rationed input capacity :=
    match rationed.ration with
    | 0 =>
        (exhausted, rationed)
    | left + 1 =>
        let (reply, engine) := inner.compress rationed.engine input capacity
        (reply, ⟨engine, left⟩)
  decompress rationed input capacity :=
    match rationed.ration with
    | 0 =>
        (exhausted, rationed)
    | left + 1 =>
        let (reply, engine) := inner.decompress rationed.engine input capacity
        (reply, ⟨engine, left⟩)
  setLast rationed last :=
    { rationed with engine := inner.setLast rationed.engine last }
  close rationed :=
    let (result, engine) := inner.close rationed.engine
    (result, { rationed with engine := engine })

/-- A stall uses up some of the ration. -/
theorem ration_lt_of_stalls
    {ε : Type}
    [EngineCalls ε]
    {next current : RationedEngine ε}
    (stalled : Stalls next current) :
    next.ration < current.ration := by
  obtain ⟨ready, input, capacity, produced, filled, origin, -, answer⟩ := stalled
  have same : ready.ration = current.ration := by
    rcases origin with rfl | rfl
    · rfl
    · rfl
  simp only [EngineCalls.compress] at answer
  split at answer
  · cases answer
  · rename_i left ration
    have spent := congrArg (fun pair => pair.2.ration) answer
    dsimp only at spent
    rw [← same, ration, ← spent]
    exact Nat.lt_succ_self left

instance {ε : Type} [EngineCalls ε] : Engine (RationedEngine ε) where
  settles :=
    Subrelation.wf ration_lt_of_stalls (InvImage.wf ration Nat.lt_wfRel.wf)

end RationedEngine

end MemberStream
