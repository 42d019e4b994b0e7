import MemberStream.Bytes
import MemberStream.Error.Basic

namespace MemberStream

/-!
# Sources

A source hands out bytes, at most as many as it is asked for; handing out none
means the end.  Every source comes to its end or fails: it does not go on for
ever with bytes and interruptions.
-/

/-- The calls that a source answers. -/
class SourceCalls (σ : Type) where
  /-- Hand out some bytes, at most the given number. -/
  read : σ → Nat → Except TransportError Bytes × σ

/-- A read that brought bytes, or was interrupted, took a source from one state to the next. -/
def Continues
    {σ : Type}
    [calls : SourceCalls σ]
    (next current : σ) :
    Prop :=
  ∃ capacity : Nat,
    (∃ bytes : Bytes, bytes ≠ [] ∧ calls.read current capacity = (.ok bytes, next)) ∨
    (∃ error : TransportError,
      error.kind = .interrupted ∧ calls.read current capacity = (.error error, next))

/-- A source hands out no more than it is asked for and ends at some point. -/
class Source (σ : Type) extends SourceCalls σ where
  length_le :
    ∀ (source next : σ) (capacity : Nat) (bytes : Bytes),
      read source capacity = (.ok bytes, next) → bytes.length ≤ capacity
  settles : WellFounded (Continues (σ := σ))

end MemberStream
