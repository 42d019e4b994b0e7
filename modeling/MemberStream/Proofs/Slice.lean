import MemberStream.Engine.Basic

namespace MemberStream

/-!
# Slices and faulty steps

The streams slice their buffers by counts that an engine reports.  A slice that does
not lie within its buffer must never be taken, so a step is checked first: it is faulty,
or what it reports lies within what the engine was offered.
-/

/-- A slice from `start` up to `stop` of a buffer of the given length. -/
structure Slice where
  start : Nat
  stop : Nat
  length : Nat
  deriving Repr, DecidableEq

namespace Slice

/-- Whether a slice lies within its buffer. -/
def Within
    (slice : Slice) :
    Prop :=
  slice.start ≤ slice.stop ∧ slice.stop ≤ slice.length

instance : DecidablePred Within :=
  fun _ => inferInstanceAs (Decidable (_ ∧ _))

theorem within_rest
    {start length : Nat}
    (starts : start ≤ length) :
    (Slice.mk start length length).Within :=
  ⟨starts, Nat.le_refl length⟩

end Slice

namespace Step

/--
What is wrong with a step: it reports more than was offered, or nothing at all, for
which each stream has an error of its own.
-/
inductive Faulty
    (step : Step)
    (available capacity : Nat)
    (stalled : StreamError) :
    StreamError →
    Prop where
  | overreport
      (beyond : available < step.consumed ∨ capacity < step.produced) :
      Faulty step available capacity stalled (step.overreport available capacity)
  | idle
      (consumed : step.consumed = 0)
      (produced : step.produced = 0) :
      Faulty step available capacity stalled stalled

theorem le_of_not_exceeds
    {step : Step}
    {available capacity : Nat}
    (within : step.exceeds available capacity = false) :
    step.consumed ≤ available ∧ step.produced ≤ capacity := by
  simpa [exceeds] using within

/-- A faulty step is one that the streams refuse. -/
theorem Faulty.refused
    {step : Step}
    {available capacity : Nat}
    {stalled error : StreamError}
    (faulty : step.Faulty available capacity stalled error) :
    step.exceeds available capacity = true ∧ error = step.overreport available capacity ∨
      step.exceeds available capacity = false ∧ step.isIdle = true ∧ error = stalled := by
  cases faulty with
  | overreport beyond =>
      exact .inl ⟨by simpa [exceeds] using beyond, rfl⟩
  | idle consumed produced =>
      exact .inr ⟨by simp [exceeds, consumed, produced], by simp [isIdle, consumed, produced], rfl⟩

end Step

end MemberStream
