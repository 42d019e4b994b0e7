import MemberStream.Telemetry.Trace

namespace MemberStream

/-!
# Traces at two debug levels

The trace of a stream at a lower debug level is its trace at a higher one without the
events whose tags the lower level does not reach.  The spans are the same, and the level
in force gives every event its severity.
-/

namespace TraceRecord

/-- The event of a record, with the regions that it happened in. -/
def told? : TraceRecord → Option (Scope × Event)
  | .opened _ =>
      none
  | .event _ scope happened =>
      some (scope, happened)

/-- The span that a record tells of. -/
def span? : TraceRecord → Option Span
  | .opened span =>
      some span
  | .event _ _ _ =>
      none

/-- A record as it is at a debug level, if that level reaches it. -/
def lowered
    (level : DebugLevel) :
    TraceRecord →
    Option TraceRecord
  | .opened span =>
      some (.opened span)
  | .event _ scope happened =>
      if happened.tag ≤ level then
        some (.event (Trace.severity level) scope happened)
      else
        none

end TraceRecord

namespace Trace

/-- The events of a trace, with the regions that they happened in. -/
def events
    (trace : Trace) :
    List (Scope × Event) :=
  trace.filterMap TraceRecord.told?

/-- The spans that were opened in a trace. -/
def spans
    (trace : Trace) :
    List Span :=
  trace.filterMap TraceRecord.span?

/-- Every event of a trace is as severe as a debug level says: urgent from high on. -/
def SevereAt
    (trace : Trace)
    (level : DebugLevel) :
    Prop :=
  ∀ severity scope event,
    .event severity scope event ∈ trace →
      severity = if level = .high ∨ level = .debug then .info else .debug

/-- How a trace at a lower debug level comes out of one at a higher level. -/
structure Filters
    (quiet loud : Trace)
    (lower upper : DebugLevel) :
    Prop where
  events : quiet.events = loud.events.filter fun told => told.2.tag ≤ lower
  spans : quiet.spans = loud.spans
  quiet : quiet.SevereAt lower
  loud : loud.SevereAt upper

/-- A trace without what a debug level does not reach. -/
def lowered
    (trace : Trace)
    (level : DebugLevel) :
    Trace :=
  trace.filterMap (TraceRecord.lowered level)

/-- The levels in force in two streams, which are those given once a session has started. -/
inductive Levelled
    (lower upper : DebugLevel) :
    DebugLevel →
    DebugLevel →
    Prop where
  | unstarted :
      Levelled lower upper .none .none
  | started :
      Levelled lower upper lower upper

variable
  {lower upper level other : DebugLevel}
  {trace : Trace}

/-- No event is recorded before the first session has put a level in force. -/
theorem record_none
    (trace : Trace)
    (scope : Scope)
    (event : Event) :
    trace.record .none scope event = trace := by
  have beyond : ¬ event.tag ≤ .none := by
    cases event <;> exact Nat.not_succ_le_zero _
  exact if_neg beyond

/-- An event that a lower level does not reach is left out, and any other one is recorded. -/
theorem lowered_record
    (ordered : lower ≤ upper)
    (levelled : Levelled lower upper level other)
    (scope : Scope)
    (event : Event) :
    (trace.record other scope event).lowered lower =
      (trace.lowered lower).record level scope event := by
  cases levelled with
  | unstarted =>
      rw [record_none, record_none]
  | started =>
      unfold record
      by_cases reached : event.tag ≤ lower
      · have reachedToo : event.tag ≤ upper :=
          Nat.le_trans reached ordered
        rw [if_pos reached, if_pos reachedToo]
        simp only [lowered, List.filterMap_cons, TraceRecord.lowered, if_pos reached]
      · rw [if_neg reached]
        split
        · simp only [lowered, List.filterMap_cons, TraceRecord.lowered, if_neg reached]
        · rfl

/-- A trace that has been lowered holds the events that the level reaches. -/
theorem events_lowered
    (trace : Trace)
    (level : DebugLevel) :
    (trace.lowered level).events = trace.events.filter fun told => told.2.tag ≤ level := by
  rw [events, lowered, List.filterMap_filterMap, events, List.filter_filterMap]
  congr 1
  funext record
  cases record with
  | opened span =>
      rfl
  | event severity scope event =>
      by_cases reached : event.tag ≤ level
      · simp [TraceRecord.lowered, TraceRecord.told?, Option.filter, reached]
      · simp [TraceRecord.lowered, TraceRecord.told?, Option.filter, reached]

/-- A trace that has been lowered holds the same spans. -/
theorem spans_lowered
    (trace : Trace)
    (level : DebugLevel) :
    (trace.lowered level).spans = trace.spans := by
  rw [spans, lowered, List.filterMap_filterMap, spans]
  congr 1
  funext record
  cases record with
  | opened span =>
      rfl
  | event severity scope event =>
      by_cases reached : event.tag ≤ level
      · simp [TraceRecord.lowered, TraceRecord.span?, reached]
      · simp [TraceRecord.lowered, TraceRecord.span?, reached]

/-- The events of a trace that has been lowered are as severe as the level says. -/
theorem severeAt_lowered
    (trace : Trace)
    (level : DebugLevel) :
    (trace.lowered level).SevereAt level := by
  intro severity scope event member
  obtain ⟨record, -, same⟩ := List.mem_filterMap.mp member
  cases record with
  | opened span =>
      cases same
  | event other scope event =>
      simp only [TraceRecord.lowered, Option.ite_none_right_eq_some] at same
      cases same.2
      cases level <;> rfl

/-- A trace filters another if it is that one lowered, and both are at their levels. -/
theorem filters_of_lowered
    {quiet loud : Trace}
    (traces : quiet = loud.lowered lower)
    (own : loud = loud.lowered upper) :
    Filters quiet loud lower upper where
  events := traces ▸ events_lowered loud lower
  spans := traces ▸ spans_lowered loud lower
  quiet := traces ▸ severeAt_lowered loud lower
  loud := own ▸ severeAt_lowered loud upper

end Trace

end MemberStream
