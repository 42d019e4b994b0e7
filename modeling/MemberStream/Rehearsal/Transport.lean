import MemberStream.Transport.Sink
import MemberStream.Transport.Source

namespace MemberStream

/-!
# Scripted sinks and sources

A scripted sink takes a limited number of bytes, a few at a time, and a scripted
source serves its data likewise; both interrupt every so many calls and fail
with given errors.  They stand in for real ones when a stream is rehearsed
against faults.
-/

/-- Whether a call is interrupted: every `period`-th call is, for periods from 2 on. -/
def interruptsCall
    (period number : Nat) :
    Bool :=
  decide (2 ≤ period) && number % period == 0

/-- The call after an interrupted one is not interrupted. -/
theorem interruptsCall_succ
    (period number : Nat)
    (interrupted : interruptsCall period number = true) :
    interruptsCall period (number + 1) = false := by
  simp only [interruptsCall, Bool.and_eq_true, decide_eq_true_eq, beq_iff_eq] at interrupted
  obtain ⟨enough, zero⟩ := interrupted
  have : (number + 1) % period = 1 := by
    rw [Nat.add_mod, zero, Nat.zero_add, Nat.mod_mod, Nat.mod_eq_of_lt (by omega)]
  simp [interruptsCall, this]

/-- The failure of an interrupted call. -/
def interruption : TransportError :=
  .plain .interrupted

/-- A sink with a script; write calls are numbered from 1. -/
structure ScriptedSink where
  /-- How many more bytes are accepted. -/
  room : Option Nat := none
  /-- The most bytes accepted per call. -/
  perWrite : Option Nat := none
  /-- Every how many calls one is interrupted; below 2, none is. -/
  interruptEvery : Nat := 0
  /-- The failure of a write without room; if missing, such a write takes nothing. -/
  full : Option TransportError := none
  flushFailure : Option TransportError := none
  writes : Nat := 0
  full_kind : ∀ error, full = some error → error.kind ≠ .interrupted := by
    simp only [reduceCtorEq, false_implies, implies_true]

namespace ScriptedSink

/-- Raise the number of accepted bytes, if it is limited. -/
def allow
    (sink : ScriptedSink)
    (count : Nat) :
    ScriptedSink :=
  { sink with room := sink.room.map (· + count) }

/-- Accept some bytes from the front as far as the limits allow. -/
def accept
    (sink : ScriptedSink)
    (bytes : Bytes) :
    Nat × ScriptedSink :=
  let length := bytes.length
  let count := min (min length (sink.perWrite.getD length)) (sink.room.getD length)
  (count, { sink with room := sink.room.map (· - count) })

instance : SinkCalls ScriptedSink where
  write sink bytes :=
    let number := sink.writes + 1
    let counted := { sink with writes := number }
    if interruptsCall sink.interruptEvery number then
      (.error interruption, counted)
    else if sink.room = some 0 then
      match sink.full with
      | some error =>
          (.error error, counted)
      | none =>
          (.ok 0, counted)
    else
      let (count, accepting) := counted.accept bytes
      (.ok count, accepting)
  flush sink :=
    match sink.flushFailure with
    | some error =>
        (.error error, sink)
    | none =>
        (.ok (), sink)

/-- Whether the next write is interrupted. -/
def interruptsNext
    (sink : ScriptedSink) :
    Nat :=
  (interruptsCall sink.interruptEvery (sink.writes + 1)).toNat

/-- The write after an interrupted one is not interrupted. -/
theorem interruptsNext_lt
    {next current : ScriptedSink}
    (interrupted : Interrupts next current) :
    next.interruptsNext < current.interruptsNext := by
  obtain ⟨bytes, error, kind, answer⟩ := interrupted
  simp only [SinkCalls.write] at answer
  split at answer
  · rename_i now
    cases answer
    simp [interruptsNext, now, interruptsCall_succ _ _ now]
  · split at answer
    · split at answer
      · rename_i found
        cases answer
        exact absurd kind (current.full_kind _ found)
      · cases answer
    · cases answer

instance : Sink ScriptedSink where
  accepted_le sink next bytes count answer := by
    simp only [SinkCalls.write] at answer
    split at answer
    · cases answer
    · split at answer
      · split at answer
        · cases answer
        · cases answer
          exact Nat.zero_le _
      · cases answer
        simp only [accept]
        omega
  settles :=
    Subrelation.wf interruptsNext_lt (InvImage.wf interruptsNext Nat.lt_wfRel.wf)

end ScriptedSink

/-- A source with a script; read calls are numbered from 1. -/
structure ScriptedSource where
  data : Bytes := []
  /-- The data from the position on. -/
  rest : Bytes := data
  position : Nat := 0
  /-- The most bytes served per call. -/
  perRead : Option Nat := none
  /-- Every how many calls one is interrupted; below 2, none is. -/
  interruptEvery : Nat := 0
  /-- From this position on, every read fails with this error. -/
  fault : Option (Nat × TransportError) := none
  reads : Nat := 0
  fault_kind : ∀ position error, fault = some (position, error) → error.kind ≠ .interrupted := by
    simp only [reduceCtorEq, false_implies, implies_true]

namespace ScriptedSource

/-- Go back to the first byte. -/
def rewind
    (source : ScriptedSource) :
    ScriptedSource :=
  { source with rest := source.data, position := 0 }

/-- Serve at most `count` bytes. -/
def serve
    (source : ScriptedSource)
    (count : Nat) :
    Except TransportError Bytes × ScriptedSource :=
  let limit := min count (source.perRead.getD count)
  let bytes := source.rest.take limit
  (.ok bytes,
    { source with
      rest := source.rest.drop limit
      position := source.position + bytes.length })

instance : SourceCalls ScriptedSource where
  read source capacity :=
    let number := source.reads + 1
    let counted := { source with reads := number }
    if interruptsCall source.interruptEvery number then
      (.error interruption, counted)
    else
      match source.fault with
      | some (position, error) =>
          if position ≤ source.position then
            (.error error, counted)
          else
            counted.serve (min capacity (position - source.position))
      | none =>
          counted.serve capacity

/-- The work left in a source: two for each byte, and one if the next read is interrupted. -/
def remaining
    (source : ScriptedSource) :
    Nat :=
  2 * source.rest.length + (interruptsCall source.interruptEvery (source.reads + 1)).toNat

/-- Serving bytes leaves less to serve. -/
theorem serve_remaining
    {source next : ScriptedSource}
    {count : Nat}
    {bytes : Bytes}
    (nonempty : bytes ≠ [])
    (answer : source.serve count = (.ok bytes, next)) :
    next.remaining < 2 * source.rest.length := by
  simp only [serve, Prod.mk.injEq, Except.ok.injEq] at answer
  obtain ⟨rfl, rfl⟩ := answer
  have positive := List.length_pos_iff.mpr nonempty
  have flag := Bool.toNat_le (interruptsCall source.interruptEvery (source.reads + 1))
  simp only [List.length_take] at positive
  simp only [remaining, List.length_drop]
  omega

/-- Every read that does not end the source leaves less to read. -/
theorem remaining_lt
    {next current : ScriptedSource}
    (continued : Continues next current) :
    next.remaining < current.remaining := by
  obtain ⟨capacity, ⟨bytes, nonempty, answer⟩ | ⟨error, kind, answer⟩⟩ := continued
  · simp only [SourceCalls.read] at answer
    split at answer
    · cases answer
    · split at answer
      · split at answer
        · cases answer
        · exact Nat.lt_of_lt_of_le (serve_remaining nonempty answer) (Nat.le_add_right _ _)
      · exact Nat.lt_of_lt_of_le (serve_remaining nonempty answer) (Nat.le_add_right _ _)
  · simp only [SourceCalls.read] at answer
    split at answer
    · rename_i now
      cases answer
      simp only [remaining, now, interruptsCall_succ _ _ now, Bool.toNat_true, Bool.toNat_false]
      omega
    · split at answer
      · rename_i found
        split at answer
        · cases answer
          exact absurd kind (current.fault_kind _ _ found)
        · cases answer
      · cases answer

/-- A served slice is no longer than asked for. -/
theorem serve_length
    {source next : ScriptedSource}
    {count : Nat}
    {bytes : Bytes}
    (answer : source.serve count = (.ok bytes, next)) :
    bytes.length ≤ count := by
  simp only [serve, Prod.mk.injEq, Except.ok.injEq] at answer
  obtain ⟨rfl, -⟩ := answer
  simp only [List.length_take]
  omega

instance : Source ScriptedSource where
  length_le source next capacity bytes answer := by
    simp only [SourceCalls.read] at answer
    split at answer
    · cases answer
    · split at answer
      · split at answer
        · cases answer
        · exact Nat.le_trans (serve_length answer) (Nat.min_le_left _ _)
      · exact serve_length answer
  settles :=
    Subrelation.wf remaining_lt (InvImage.wf remaining Nat.lt_wfRel.wf)

end ScriptedSource

end MemberStream
