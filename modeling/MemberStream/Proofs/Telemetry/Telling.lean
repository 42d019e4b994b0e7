import MemberStream.Proofs.Parameter.Showing
import MemberStream.Proofs.Telemetry.Filtering

namespace MemberStream

/-!
# Failures that a trace tells of

A stream that keeps a failure reports it from the low debug level on.  The level that
counts is the one of the newest session that the engine accepted.  If a session is in
force, that is what is staged and the overrides come to; if one has just been refused, the
level that it would have had does not count.
-/

/-- The failure that an event tells of a stream of some role. -/
def Event.failure? : TargetRole → Event → Option StreamError
  | .writer, .writerFailed error =>
      some error
  | .reader, .readerFailed error =>
      some error
  | _, _ =>
      none

/-- A failure as it is told at a debug level, if there is one. -/
def toldAt
    (level : DebugLevel)
    (failure : Option StreamError) :
    List StreamError :=
  if .low ≤ level then failure.toList else []

@[simp]
theorem toldAt_none
    (level : DebugLevel) :
    toldAt level none = [] :=
  ite_self _

namespace Trace

/-- The failures that a trace tells of, newest first. -/
def failures
    (trace : Trace)
    (role : TargetRole) :
    List StreamError :=
  trace.events.filterMap fun told => told.2.failure? role

@[simp]
theorem failures_opened
    (trace : Trace)
    (span : Span)
    (role : TargetRole) :
    failures (.opened span :: trace) role = trace.failures role :=
  rfl

/-- Recording an event tells of the failure that it is about, from the low debug level on. -/
theorem failures_record
    (trace : Trace)
    (level : DebugLevel)
    (scope : Scope)
    (event : Event)
    (role : TargetRole) :
    (trace.record level scope event).failures role =
      toldAt level (event.failure? role) ++ trace.failures role := by
  have tag (error : StreamError) (fails : event.failure? role = some error) :
      event.tag = .low := by
    cases event <;> cases role <;> first | rfl | cases fails
  unfold record toldAt
  cases about : event.failure? role with
  | none =>
      split <;> simp [failures, events, TraceRecord.told?, about]
  | some error =>
      rw [tag error about]
      split <;> simp [failures, events, TraceRecord.told?, about]

end Trace

namespace StreamParameters

variable {state next : StreamParameters}

/-- The effective set of a stream is that of its newest session, or the default before one. -/
def Remembers
    (state : StreamParameters) :
    Prop :=
  state.effective = state.newest.getD {}

/-- A request for data or a close remembers the newest session. -/
theorem Remembers.advances
    (remembers : state.Remembers)
    (advances : state.Advances next) :
    next.Remembers := by
  cases advances with
  | same | closed active | refused idle =>
      exact remembers
  | started idle | ended idle =>
      rfl

end StreamParameters

/-- A failure that a stream has come to keep, with the parameters of the stream behind it. -/
structure KeptFailure where
  error : StreamError
  parameters : StreamParameters

namespace KeptFailure

/-- The debug level of the newest session, or the default before one: it decides what is told. -/
def level
    (kept : KeptFailure) :
    DebugLevel :=
  (kept.parameters.newest.getD {}).debugLevel

/-- What is told of some failures that have been kept. -/
def told
    (kept : List KeptFailure) :
    List StreamError :=
  (kept.filter fun failure => .low ≤ failure.level).map error

theorem told_append
    (first second : List KeptFailure) :
    told (first ++ second) = told first ++ told second := by
  unfold told
  rw [List.filter_append, List.map_append]

/-- The failure that a stream newly keeps, with the parameters behind it: none after another. -/
def newly
    (before after : Option StreamError)
    (parameters : StreamParameters) :
    List KeptFailure :=
  if before.isSome then
    []
  else
    after.toList.map (KeptFailure.mk · parameters)

/-- What a stream newly keeps has the parameters of the stream behind it. -/
theorem parameters_of_newly
    {before after : Option StreamError}
    {parameters : StreamParameters}
    {kept : KeptFailure}
    (keeps : kept ∈ newly before after parameters) :
    kept.parameters = parameters := by
  unfold newly at keeps
  split at keeps
  · cases keeps
  · obtain ⟨error, -, rfl⟩ := List.mem_map.mp keeps
    rfl

/-- What a stream newly keeps is told at the level that decides. -/
theorem told_newly
    {parameters : StreamParameters}
    (remembers : parameters.Remembers)
    (failure : Option StreamError) :
    told (newly none failure parameters) = toldAt parameters.effective.debugLevel failure := by
  have levels (error : StreamError) :
      (KeptFailure.mk error parameters).level = parameters.effective.debugLevel :=
    congrArg ParameterSet.debugLevel remembers.symm
  cases failure with
  | none =>
      exact (toldAt_none _).symm
  | some error =>
      unfold told toldAt newly
      by_cases low : .low ≤ parameters.effective.debugLevel <;>
        simp [low, levels]

/-- In a session, what is staged and the overrides decide. -/
theorem level_of_inForce
    {kept : KeptFailure}
    {overrides : Overrides}
    {options : List StreamOption}
    (follows : kept.parameters.Follows overrides options)
    (inForce : kept.parameters.inForce.isSome) :
    kept.level = (kept.parameters.staged.resolve overrides).debugLevel := by
  obtain ⟨running, found⟩ := Option.isSome_iff_exists.mp inForce
  obtain ⟨-, newest, resolved⟩ := follows.inForce running found
  unfold level
  rw [newest, Option.getD_some, resolved, follows.overrides]

end KeptFailure

end MemberStream
