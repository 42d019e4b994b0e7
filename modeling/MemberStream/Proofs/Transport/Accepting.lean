import MemberStream.Proofs.Transport.Received
import MemberStream.Rehearsal.Transport

namespace MemberStream

/-!
# Sinks that accept everything

A sink accepts everything if it takes some of whatever it is offered, unless it
is interrupted, if it flushes, and if it goes on like that for ever.  So a whole
string can always be written to it.
-/

namespace Sink

variable {σ : Type}

/-- Sinks in certain states take some of what they are offered, and stay in these states. -/
structure WillingIn
    [SinkCalls σ]
    (states : σ → Prop) :
    Prop where
  takes :
    ∀ sink next bytes count,
      states sink →
        bytes ≠ [] →
          SinkCalls.write sink bytes = (.ok count, next) →
            0 < count ∧ states next
  /-- A write does not fail but for interruptions. -/
  fails :
    ∀ sink next bytes error,
      states sink →
        SinkCalls.write sink bytes = (.error error, next) →
          error.kind = .interrupted ∧ states next
  flushes :
    ∀ sink,
      states sink →
        (SinkCalls.flush sink).1 = .ok () ∧ states (SinkCalls.flush sink).2

/-- A sink accepts everything if it stays for ever in states in which it takes some bytes. -/
def Accepts
    [SinkCalls σ]
    (sink : σ) :
    Prop :=
  ∃ states : σ → Prop,
    WillingIn states ∧ states sink

theorem accepts_of_flush
    [SinkCalls σ]
    {sink : σ}
    (accepts : Accepts sink) :
    (SinkCalls.flush sink).1 = .ok () ∧ Accepts (SinkCalls.flush sink).2 := by
  obtain ⟨states, willing, inside⟩ := accepts
  obtain ⟨flushed, after⟩ := willing.flushes sink inside
  exact ⟨flushed, states, willing, after⟩

/-- A string has been written when a sink has taken all of it in one call. -/
theorem writeAll_of_write
    [Sink σ]
    {sink next : σ}
    {bytes : Bytes}
    (nonempty : bytes ≠ [])
    (answer : SinkCalls.write sink bytes = (.ok bytes.length, next)) :
    writeAll sink bytes = (.ok (), next) := by
  cases bytes with
  | nil =>
      exact absurd rfl nonempty
  | cons byte rest =>
      rw [writeAll]
      split
      · rename_i same
        rw [answer] at same
        cases same
      · rename_i same
        rw [answer] at same
        cases same
        rw [List.drop_length, writeAll]
      · rename_i same
        rw [answer] at same
        cases same

/-- A whole string can be written to a sink that accepts everything, and it goes on accepting. -/
theorem accepts_of_writeAll
    [Sink σ]
    {sink : σ}
    (accepts : Accepts sink)
    (bytes : Bytes) :
    (writeAll sink bytes).1 = .ok () ∧ Accepts (writeAll sink bytes).2 := by
  obtain ⟨states, willing, inside⟩ := accepts
  fun_induction writeAll sink bytes with
  | case1 sink =>
      exact ⟨rfl, states, willing, inside⟩
  | case2 sink byte rest next answer =>
      have positive := (willing.takes _ _ _ _ inside (List.cons_ne_nil _ _) answer).1
      exact absurd positive (Nat.lt_irrefl 0)
  | case3 sink byte rest count next answer ih =>
      exact ih (willing.takes _ _ _ _ inside (List.cons_ne_nil _ _) answer).2
  | case4 sink byte rest error next answer interrupted ih =>
      exact ih (willing.fails _ _ _ _ inside answer).2
  | case5 sink byte rest error next answer terminal =>
      exact absurd (willing.fails _ _ _ _ inside answer).1 terminal

end Sink

namespace RecordedSink

variable {σ : Type}

/-- A recorded sink accepts everything if the sink inside it does. -/
theorem accepts
    [SinkCalls σ]
    {recorded : RecordedSink σ}
    (accepts : Sink.Accepts recorded.sink) :
    Sink.Accepts recorded := by
  obtain ⟨states, willing, inside⟩ := accepts
  refine ⟨fun recorded => states recorded.sink, ⟨?_, ?_, ?_⟩, inside⟩
  · intro sink next bytes count inside some answer
    simp only [SinkCalls.write] at answer
    split at answer
    · rename_i taken
      cases answer
      exact willing.takes _ _ _ _ inside some taken
    · cases answer
  · intro sink next bytes error inside answer
    simp only [SinkCalls.write] at answer
    split at answer
    · cases answer
    · rename_i failed
      cases answer
      exact willing.fails _ _ _ _ inside failed
  · intro sink inside
    exact willing.flushes _ inside

end RecordedSink

namespace ScriptedSink

/-- A scripted sink without limits and faults accepts everything. -/
theorem accepts
    {sink : ScriptedSink}
    (unlimited : sink.room = none)
    (busy : ∀ most, sink.perWrite = some most → 0 < most)
    (faultless : sink.flushFailure = none) :
    Sink.Accepts sink := by
  refine ⟨fun sink => sink.room = none ∧ (∀ most, sink.perWrite = some most → 0 < most) ∧
      sink.flushFailure = none, ⟨?_, ?_, ?_⟩, unlimited, busy, faultless⟩
  · intro sink next bytes count states some answer
    obtain ⟨unlimited, busy, faultless⟩ := states
    have positive := List.length_pos_iff.mpr some
    simp only [SinkCalls.write, unlimited] at answer
    split at answer
    · cases answer
    · rw [if_neg (by simp)] at answer
      simp only [accept] at answer
      cases answer
      refine ⟨?_, rfl, busy, faultless⟩
      cases most : sink.perWrite with
      | none =>
          simp only [Option.getD_none]
          omega
      | some most' =>
          have := busy most' most
          simp only [Option.getD_some, Option.getD_none]
          omega
  · intro sink next bytes error states answer
    obtain ⟨unlimited, busy, faultless⟩ := states
    simp only [SinkCalls.write, unlimited] at answer
    split at answer
    · cases answer
      exact ⟨rfl, rfl, busy, faultless⟩
    · rw [if_neg (by simp)] at answer
      cases answer
  · intro sink states
    have flushes : SinkCalls.flush sink = (.ok (), sink) := by
      simp only [SinkCalls.flush, states.2.2]
    rw [flushes]
    exact ⟨rfl, states⟩

end ScriptedSink

end MemberStream
