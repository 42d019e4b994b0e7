import MemberStream.Rehearsal.Transport

namespace MemberStream

/-!
# Sources that serve a byte string

A source serves a byte string if it hands it out from front to end, in whatever
pieces it likes and with whatever interruptions in between, and comes to its end
only behind it.
-/

/-- Whatever a source is asked for, it goes on with the given bytes and has no other. -/
inductive Serves
    {σ : Type}
    [SourceCalls σ] :
    σ →
    Bytes →
    Prop where
  | intro
      {source : σ}
      {bytes : Bytes}
      (ends :
        ∀ capacity next,
          0 < capacity →
            SourceCalls.read source capacity = (.ok [], next) →
              bytes = [])
      (front :
        ∀ capacity next piece,
          SourceCalls.read source capacity = (.ok piece, next) →
            piece <+: bytes)
      (later :
        ∀ capacity next piece rest,
          piece ≠ [] →
            SourceCalls.read source capacity = (.ok piece, next) →
              bytes = piece ++ rest →
                Serves next rest)
      (kind :
        ∀ capacity next error,
          SourceCalls.read source capacity = (.error error, next) →
            error.kind = .interrupted)
      (again :
        ∀ capacity next error,
          SourceCalls.read source capacity = (.error error, next) →
            Serves next bytes) :
      Serves source bytes

namespace Serves

variable {σ : Type} [SourceCalls σ] {source next : σ} {bytes : Bytes} {capacity : Nat}

theorem eq_nil_of_read
    (served : Serves source bytes)
    (some : 0 < capacity)
    (answer : SourceCalls.read source capacity = (.ok [], next)) :
    bytes = [] := by
  cases served with
  | intro ends front later kind again =>
      exact ends capacity next some answer

/-- What a source hands out is the front of what it serves, and it goes on with the rest. -/
theorem append_of_read
    {piece : Bytes}
    (served : Serves source bytes)
    (nonempty : piece ≠ [])
    (answer : SourceCalls.read source capacity = (.ok piece, next)) :
    ∃ left, bytes = piece ++ left ∧ Serves next left := by
  cases served with
  | intro ends front later kind again =>
      obtain ⟨left, whole⟩ := front capacity next piece answer
      exact ⟨left, whole.symm, later capacity next piece left nonempty answer whole.symm⟩

theorem interrupted_of_read
    {error : TransportError}
    (served : Serves source bytes)
    (answer : SourceCalls.read source capacity = (.error error, next)) :
    error.kind = .interrupted ∧ Serves next bytes := by
  cases served with
  | intro ends front later kind again =>
      exact ⟨kind capacity next error answer, again capacity next error answer⟩

end Serves

namespace ScriptedSource

theorem append_of_serve
    {source next : ScriptedSource}
    {count : Nat}
    {piece : Bytes}
    (answer : source.serve count = (.ok piece, next)) :
    source.rest = piece ++ next.rest := by
  simp only [serve, Prod.mk.injEq, Except.ok.injEq] at answer
  obtain ⟨rfl, rfl⟩ := answer
  exact (List.take_append_drop _ _).symm

/-- Serving hands nothing out only if nothing is left. -/
theorem rest_of_serve_nil
    {source next : ScriptedSource}
    {count : Nat}
    (some : 0 < count)
    (busy : ∀ most, source.perRead = .some most → 0 < most)
    (answer : source.serve count = (.ok [], next)) :
    source.rest = [] := by
  simp only [serve, Prod.mk.injEq, Except.ok.injEq, List.take_eq_nil_iff] at answer
  obtain ⟨nothing | nothing, -⟩ := answer
  · cases most : source.perRead with
    | none =>
        rw [most] at nothing
        simp only [Option.getD_none] at nothing
        omega
    | some most' =>
        rw [most] at nothing
        have := busy most' most
        simp only [Option.getD_some] at nothing
        omega
  · exact nothing

/-- A scripted source without a fault serves its data. -/
theorem serves
    (source : ScriptedSource)
    (faultless : source.fault = none)
    (busy : ∀ most, source.perRead = some most → 0 < most) :
    Serves source source.rest := by
  induction source using (Source.settles (σ := ScriptedSource)).induction with
  | _ source ih =>
      have read (capacity : Nat) :
          SourceCalls.read source capacity =
            if interruptsCall source.interruptEvery (source.reads + 1) then
              (.error interruption, { source with reads := source.reads + 1 })
            else
              { source with reads := source.reads + 1 }.serve capacity := by
        simp only [SourceCalls.read, faultless]
      constructor
      · intro capacity next some answer
        rw [read] at answer
        split at answer
        · cases answer
        · have nothing := rest_of_serve_nil some (by exact busy) answer
          exact nothing
      · intro capacity next piece answer
        rw [read] at answer
        split at answer
        · cases answer
        · exact ⟨next.rest, (append_of_serve answer).symm⟩
      · intro capacity next piece rest nonempty answer whole
        have continues : Continues next source := ⟨capacity, Or.inl ⟨piece, nonempty, answer⟩⟩
        rw [read] at answer
        split at answer
        · cases answer
        · have same := append_of_serve answer
          rw [whole] at same
          rw [List.append_cancel_left same]
          simp only [serve, Prod.mk.injEq, Except.ok.injEq] at answer
          obtain ⟨-, rfl⟩ := answer
          exact ih _ continues faultless busy
      · intro capacity next error answer
        rw [read] at answer
        split at answer
        · cases answer
          rfl
        · cases answer
      · intro capacity next error answer
        rw [read] at answer
        split at answer
        · rename_i now
          cases answer
          refine ih _ ⟨capacity, Or.inr ⟨interruption, rfl, ?_⟩⟩ faultless busy
          rw [read, if_pos now]
        · cases answer

end ScriptedSource

end MemberStream
