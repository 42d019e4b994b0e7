import MemberStream.Proofs.Engine.Discipline

namespace MemberStream

/-!
# Sessions among the calls on an engine

Only starts tell which session an engine is in.  A session is in force if the newest
start was accepted, whatever has been called since, a close included; what was in force
before stays known when a later start is refused.
-/

namespace EngineCall

/-- The parameters of the session that a call has opened, if it has. -/
def opened? : EngineCall → Option ParameterSet
  | .start parameters (.ok ()) =>
      some parameters
  | _ =>
      none

/-- The parameters in force after some calls, given newest first: those of the newest start. -/
def inForce?
    (calls : List EngineCall) :
    Option ParameterSet :=
  (calls.find? isStart).bind opened?

/-- The parameters of the newest session that was opened, whatever was refused after it. -/
def newest?
    (calls : List EngineCall) :
    Option ParameterSet :=
  calls.findSome? opened?

/-- The calls since the newest start, given newest first. -/
def sinceStart
    (calls : List EngineCall) :
    List EngineCall :=
  calls.takeWhile (fun call => !call.isStart)

theorem inForce?_cons
    {call : EngineCall}
    (noStart : call.isStart = false)
    (calls : List EngineCall) :
    inForce? (call :: calls) = inForce? calls := by
  unfold inForce?
  rw [List.find?_cons_of_neg (by rw [noStart]; exact Bool.false_ne_true)]

/-- The newest session stays so until the next start. -/
theorem newest?_cons
    {call : EngineCall}
    (noStart : call.isStart = false)
    (calls : List EngineCall) :
    newest? (call :: calls) = newest? calls := by
  cases call with
  | start parameters result =>
      cases noStart
  | _ =>
      rfl

end EngineCall

end MemberStream
